import RouteForge.Script.Statement

/-!
A script file: a header of comments, imports, the nodes of its body, and exports. Sections are
written in this order with a blank line between them. The header, the imports and the exports are
sections when anything was put into them, and every node of the body is one.
-/

namespace RouteForge.Script

open Code (Fragment Builder)

structure SourceFile where
  header : List String
  imports : List Import
  body : List (List Fragment)
  exports : List Export
  deriving Repr

namespace SourceFile

def empty : SourceFile := ⟨[], [], [], []⟩

def withHeader (file : SourceFile) (lines : List String) : SourceFile :=
  { file with header := file.header ++ lines }

def withImports (file : SourceFile) (imports : List Import) : SourceFile :=
  { file with imports := file.imports ++ imports }

def withNode (file : SourceFile) (node : List Fragment) : SourceFile :=
  { file with body := file.body ++ [node] }

def withExport (file : SourceFile) (statement : Export) : SourceFile :=
  { file with exports := file.exports ++ [statement] }

def sectionIf (present : Bool) (fragments : List Fragment) : List (List Fragment) :=
  if present then [fragments] else []

def sections (file : SourceFile) : List (List Fragment) :=
  sectionIf (!file.header.isEmpty) (file.header.map Fragment.comment) ++
    sectionIf (!file.imports.isEmpty) (file.imports.flatMap Import.fragments) ++
    file.body ++
    sectionIf (!file.exports.isEmpty) (file.exports.flatMap Export.fragments)

def separated : List (List Fragment) → List Fragment
  | [] => []
  | first :: [] => first
  | first :: rest => first ++ .blank :: separated rest

def render (file : SourceFile) : String :=
  Code.render (separated file.sections)

end SourceFile

end RouteForge.Script
