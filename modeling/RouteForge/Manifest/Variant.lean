import RouteForge.Json.Record

/-!
The two shapes of a route table. A document names a shape by one of four exact words; on the
command line the words may be in any case. The letters of these words have no case variants
beyond ASCII, so folding ASCII letters decides.
-/

namespace RouteForge

inductive Variant where
  | nested
  | flat
  deriving DecidableEq, Repr

namespace Variant

def name : Variant → String
  | .nested => "nested"
  | .flat => "flat"

def allowsChildren : Variant → Bool
  | .nested => true
  | .flat => false

def default : Variant := .nested

def words : List (String × Variant) :=
  [("nested", .nested), ("ruoyi", .nested), ("flat", .flat), ("vue2", .flat)]

def ofWord? (word : String) : Option Variant :=
  words.lookup (String.ofList (word.toList.map Char.toLower))

def unknownMessage (word : String) : String :=
  "unknown variant '" ++ word ++ "', expected 'nested' or 'flat'"

def read (budget : Nat) : Json.Reader Variant :=
  Json.chosen budget ⟨words⟩

def ofText (document : String) : Except Json.Error Variant :=
  Json.readDocument (read Json.bracketBudget) document

end Variant

end RouteForge
