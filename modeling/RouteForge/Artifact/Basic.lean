import RouteForge.Disk.Path

/-!
An artifact: a file to be placed below a directory, its content, and what is done when the file
is already there.
-/

namespace RouteForge

inductive Overwrite where
  | always
  | ifMissing
  deriving DecidableEq, Repr

structure Artifact where
  name : String
  content : String
  overwrite : Overwrite
  deriving DecidableEq, Repr

namespace Artifact

def path (artifact : Artifact) (directory : String) : String :=
  Path.join directory artifact.name

def generatedHeader : String :=
  "Generated by ecat. Do not edit: this file is overwritten on every run."

end Artifact

end RouteForge
