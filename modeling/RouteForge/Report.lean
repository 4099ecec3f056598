import RouteForge.Store.Generation

/-!
The report of a run: warnings, what became of each module, the bundle configuration and a summary.
A report is a list of lines by their meaning, and a terminal gives each its form. The summary
speaks of a preview when any module was previewed.
-/

namespace RouteForge

inductive ReportLine where
  | keyValue (key value : String)
  | listItem (text : String)
  | addedItem (text : String)
  | failedItem (text : String)
  | warning (text : String)
  | divider (label : String)
  | preformatted (text : String)
  | newline
  deriving DecidableEq, Repr

inductive ReportedStatus where
  | written (results : List WriteResult)
  | previewed (files : List PreviewFile)
  | failed (chain : List String)
  deriving DecidableEq, Repr

structure ReportedModule where
  module : String
  status : ReportedStatus
  deriving DecidableEq, Repr

inductive ReportedBundle where
  | written (result : WriteResult)
  | previewed (file : PreviewFile)
  deriving DecidableEq, Repr

structure Report where
  base : String
  variant : Variant
  warnings : List String
  modules : List ReportedModule
  bundle : Option ReportedBundle
  deriving DecidableEq, Repr

def Outcome.reported (outcome : Outcome) : ReportedModule where
  module := outcome.module
  status := match outcome.status with
    | .written results => .written results
    | .previewed files => .previewed files
    | .failed failure => .failed failure.chain

namespace ReportedModule

def isFailed (module : ReportedModule) : Bool :=
  match module.status with
  | .failed _ => true
  | _ => false

def isPreviewed (module : ReportedModule) : Bool :=
  match module.status with
  | .previewed _ => true
  | _ => false

end ReportedModule

namespace Report

def failedCount (report : Report) : Nat :=
  (report.modules.filter ReportedModule.isFailed).length

def isPreview (report : Report) : Bool :=
  report.modules.any ReportedModule.isPreviewed

def previewLines (base : String) (file : PreviewFile) : List ReportLine :=
  [.divider (Path.shownBelow base file.path), .preformatted file.content]

def keptLine (base : String) (result : WriteResult) : ReportLine :=
  .listItem (Path.shownBelow base result.path ++ " (kept)")

def moduleLines (base : String) (module : ReportedModule) : List ReportLine :=
  match module.status with
  | .written results =>
      .addedItem module.module ::
        (results.filter fun result => !result.isWritten).map (keptLine base)
  | .previewed files => files.flatMap (previewLines base)
  | .failed chain => [.failedItem (module.module ++ ": " ++ chainText chain)]

def bundleLines (base : String) : Option ReportedBundle → List ReportLine
  | none => []
  | some (.written result) => [.keyValue "Build config" result.path]
  | some (.previewed file) => previewLines base file

def summaryLines (report : Report) : List ReportLine :=
  let total := report.modules.length
  let generated := toString (total - report.failedCount)
  if report.isPreview then
    [.divider "Summary", .preformatted (generated ++ " module(s) would be generated")]
  else
    [.keyValue "Generated"
      (generated ++ " of " ++ toString total ++ " module(s) in " ++ report.base)]

def failureLines (report : Report) : List ReportLine :=
  if report.failedCount = 0 then []
  else [.failedItem (toString report.failedCount ++ " module(s) failed")]

def lines (report : Report) : List ReportLine :=
  report.warnings.map .warning ++
    .keyValue "Variant" report.variant.name ::
    report.modules.flatMap (moduleLines report.base) ++
    bundleLines report.base report.bundle ++
    .newline :: report.summaryLines ++
    report.failureLines

end Report

structure Shown where
  output : String
  errors : String
  deriving DecidableEq, Repr

namespace Shown

def nothing : Shown := ⟨"", ""⟩

def append (first second : Shown) : Shown :=
  ⟨first.output ++ second.output, first.errors ++ second.errors⟩

end Shown

def ReportLine.shown : ReportLine → Shown
  | .keyValue key value => ⟨key ++ ": " ++ value ++ "\n", ""⟩
  | .listItem text => ⟨"    - " ++ text ++ "\n", ""⟩
  | .addedItem text => ⟨"  + " ++ text ++ "\n", ""⟩
  | .failedItem text => ⟨"", "  ! " ++ text ++ "\n"⟩
  | .warning text => ⟨"", "warning: " ++ text ++ "\n"⟩
  | .divider label => ⟨"── " ++ label ++ " ──\n", ""⟩
  | .preformatted text => ⟨text ++ "\n", ""⟩
  | .newline => ⟨"\n", ""⟩

def Report.shown (report : Report) : Shown :=
  (report.lines.map ReportLine.shown).foldl Shown.append Shown.nothing

end RouteForge
