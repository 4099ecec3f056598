import RouteForge.Artifact.Basic
import RouteForge.Artifact.RequestSlot
import RouteForge.Manifest.Variant
import RouteForge.Script.SourceFile

/-!
The files beside a route table: the entry point that the host installs, and the file that holds the
module's request function. A nested module gets a request module that is generated on every run, a
flat one a stub that is created once and belongs to its user from then on.
-/

namespace RouteForge.Artifact

open Script (SourceFile Import Method Function Constant Object)
open Code (Fragment)

def entryPointName : String := ".index.js"

def requestModuleName : String := "utils/request.js"

def requestStubName : String := "api.js"

def entryImports : Variant → List Import
  | .nested => [
      .ofNames "./.config" ["moduleInfo"],
      .ofDefault "@/utils/request" "request"]
  | .flat => [
      .ofNames "./.config" ["routes", "moduleInfo"],
      .ofDefault "./api.js" "initRequest"]

def installLines : Variant → List String
  | .nested => ["request.init(utils.request);", "return moduleInfo;"]
  | .flat => [
      "VueRouter.addRoutes(routes);",
      "initRequest(utils.request);",
      "return moduleInfo;"]

def installMethod (variant : Variant) : Method :=
  ⟨"install", ["Vue", "VueRouter", "utils", "options"],
    (installLines variant).map Fragment.line⟩

def entryPoint (variant : Variant) : Artifact where
  name := entryPointName
  overwrite := .always
  content := SourceFile.empty
    |>.withHeader [generatedHeader]
    |>.withImports (entryImports variant)
    |>.withNode (Script.defaultObject [installMethod variant])
    |>.render

def throwLine (message : String) : String :=
  "throw new Error(" ++ Script.stringLiteral message ++ ");"

def throwWhen (condition : String) (error : SlotError) : Fragment :=
  Script.guarded condition [throwLine error.message]

def whenEmpty : String := "state.request === null"

def whenFilled : String := "state.request !== null"

def whenNotCallable : String := "typeof providedRequest !== \"function\""

def requestState : Constant :=
  ⟨"state", ((Object.empty .bare).raw "request" "null").text, false⟩

def requestFunction : Function where
  name := "request"
  parameters := ["...args"]
  binding := .declared
  body := [throwWhen whenEmpty .notInitialized, .line "return state.request(...args);"]

def requestInit : Function where
  name := "init"
  parameters := ["providedRequest"]
  binding := .assignedTo "request.init"
  body := [
    throwWhen whenFilled .alreadyInitialized,
    throwWhen whenNotCallable .notCallable,
    .line "state.request = providedRequest;"]

def requestGet : Function where
  name := "get"
  parameters := []
  binding := .assignedTo "request.get"
  body := [throwWhen whenEmpty .notInitialized, .line "return state.request;"]

def requestModule : Artifact where
  name := requestModuleName
  overwrite := .always
  content := SourceFile.empty
    |>.withHeader [generatedHeader]
    |>.withNode requestState.fragments
    |>.withNode requestFunction.fragments
    |>.withNode requestInit.fragments
    |>.withNode requestGet.fragments
    |>.withExport ⟨some "request"⟩
    |>.render

def stubHeader : String :=
  "Request setup for this module. Created once by ecat; edit freely."

def stubInit : Function where
  name := "initRequest"
  parameters := ["providedRequest"]
  binding := .exportedAsDefault
  body := [.line "request = providedRequest;"]

def stubGet : Function where
  name := "getRequest"
  parameters := []
  binding := .exported
  body := [
    .line ("if (request === null) " ++ throwLine "initRequest() has not been called"),
    .line "return request;"]

def requestStub : Artifact where
  name := requestStubName
  overwrite := .ifMissing
  content := SourceFile.empty
    |>.withHeader [stubHeader]
    |>.withNode (Script.fragmentsOfText "let request = null;")
    |>.withNode stubInit.fragments
    |>.withNode stubGet.fragments
    |>.render

def requestFile : Variant → Artifact
  | .nested => requestModule
  | .flat => requestStub

end RouteForge.Artifact
