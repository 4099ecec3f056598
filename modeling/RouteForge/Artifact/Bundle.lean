import RouteForge.Artifact.Support
import RouteForge.Json.Layers
import RouteForge.Json.Printer
import RouteForge.Manifest.Document

/-!
The configuration for bundling every module as a library: a base layer made from the manifest, the
user's layer over it, and over both the rules without which no module can be built.
-/

namespace RouteForge

open Json (Value Members)

structure Bundle where
  base : String
  publicPath : String
  modules : List String
  user : Option Value
  deriving Repr

namespace Bundle

def fileName : String := "webpack.ecat.json"

def ofManifest (base : String) (manifest : Manifest) : Bundle :=
  ⟨base, manifest.publicPath, manifest.modules.map Module.name, none⟩

def withUser (bundle : Bundle) (user : Value) : Bundle :=
  { bundle with user := some user }

/-- Packages that the host provides, each with its global name. -/
def externalPackages : List (String × String) := [
  ("vue", "Vue"),
  ("echarts", "echarts"),
  ("@element-plus/icons-vue", "ElementPlusIconsVue"),
  ("element-plus", "ElementPlus")]

def external (package root : String) : Value :=
  .object [
    ("root", .string root),
    ("commonjs", .string package),
    ("commonjs2", .string package),
    ("amd", .string package)]

def entryPath (bundle : Bundle) (module : String) : String :=
  Path.join (Path.join bundle.base module) Artifact.entryPointName

def entries (bundle : Bundle) : Members :=
  bundle.modules.foldl
    (fun members module => members.put module (.string (bundle.entryPath module))) []

def output (bundle : Bundle) : Members := [
  ("path", .string (Path.join bundle.base "dist")),
  ("filename", .string "[name].js"),
  ("publicPath", .string bundle.publicPath),
  ("library", .string "__dynamicModule_[name]"),
  ("libraryTarget", .string "umd"),
  ("libraryExport", .string "default"),
  ("umdNamedDefine", .bool true),
  ("globalObject", .string "this")]

def baseLayer (bundle : Bundle) : Value :=
  .object [
    ("entry", .object bundle.entries),
    ("output", .object bundle.output),
    ("module", .object []),
    ("plugins", .array []),
    ("resolve", .object [("extensions", .array [.string ".vue", .string ".js"])]),
    ("externals",
      .object (externalPackages.map fun (package, root) => (package, external package root))),
    ("optimization", .object [("splitChunks", .bool false), ("runtimeChunk", .bool false)]),
    ("devtool", .string "source-map")]

def requiredRules : List Value := [
  .object [("test", .string "\\.vue$"), ("loader", .string "vue-loader")],
  .object [
    ("test", .string "\\.js$"),
    ("loader", .string "babel-loader"),
    ("exclude", .string "node_modules")],
  .object [
    ("test", .string "\\.(css|scss)$"),
    ("use", .array [.string "style-loader", .string "css-loader", .string "sass-loader"])]]

def frameworkLayer : Value :=
  .object [("module", .object [("rules", .array requiredRules)])]

def value (bundle : Bundle) : Value :=
  Json.mergeLayers [bundle.baseLayer, bundle.user.getD (.object []), frameworkLayer]

def content (bundle : Bundle) : String :=
  bundle.value.pretty ++ "\n"

def artifact (bundle : Bundle) : Artifact :=
  ⟨fileName, bundle.content, .always⟩

end Bundle

end RouteForge
