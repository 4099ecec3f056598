import RouteForge.Json.Reader

/-!
Records: documents with named fields. A record is written as an object, whose unknown keys are
passed over, or as a list of its fields in order of declaration, which may stop before fields that
may be left out. Fields are collected in a draft and the draft is finished into the record.
-/

namespace RouteForge.Json

structure Field (δ : Type) where
  name : String
  /-- A field that may be left out of the end of a list. -/
  mayEnd : Bool
  isSet : δ → Bool
  read : δ → Reader δ

structure Shape (δ α : Type) where
  title : String
  blank : δ
  fields : List (Field δ)
  /-- The record, or the name of the first field that is missing. -/
  finish : δ → Except String α

def Field.of {δ α : Type} (name : String) (mayEnd : Bool) (get : δ → Option α)
    (store : δ → α → δ) (read : Reader α) : Field δ where
  name
  mayEnd
  isSet draft := (get draft).isSome
  read draft := fun input => do
    let (value, rest) ← read input
    .ok (store draft value, rest)

inductive Gathered (δ : Type) where
  | draft (draft : δ)
  | repeated (name : String)

def gather {δ : Type} (fields : List (Field δ)) :
    List Char → Bool → δ → Reader (Gathered δ)
  | bound, isFirst, draft, input => do
      let (more, rest) ← nextKey isFirst input
      if more then
        match bound with
        | [] => .error (.before .unfinishedObject rest)
        | _ :: bound =>
            let (key, rest) ← string rest
            match fields.find? (·.name = key) with
            | none =>
                let rest ← colon rest
                let rest ← skipValue rest
                gather fields bound false draft rest
            | some field =>
                if field.isSet draft then
                  .ok (.repeated key, rest)
                else
                  let rest ← colon rest
                  let (draft, rest) ← field.read draft rest
                  gather fields bound false draft rest
      else
        .ok (.draft draft, rest)

/-- The text after the end of an object that is given up, if that end comes next. -/
def afterObject (input : List Char) : List Char :=
  match skipSpace input with
  | '}' :: rest => rest
  | rest => rest

def recordFromObject {δ α : Type} (shape : Shape δ α) (input : List Char) :
    Except Fault (α × List Char) := do
  let (gathered, rest) ← gather shape.fields input true shape.blank input
  match gathered with
  | .repeated name => .error (.before (.repeatedField name) (afterObject rest))
  | .draft draft =>
      match shape.finish draft with
      | .error name => .error (.before (.missingField name) (afterObject rest))
      | .ok record =>
          let rest ← closeObject rest
          .ok (record, rest)

def Shape.lengthText {δ α : Type} (shape : Shape δ α) : String :=
  shape.title ++ " with " ++ toString shape.fields.length ++ " elements"

def gatherInOrder {δ : Type} (lengthText : String) :
    List (Field δ) → Nat → δ → Reader δ
  | [], _, draft, input => .ok (draft, input)
  | field :: fields, index, draft, input => do
      let (more, rest) ← nextElement (index == 0) input
      if more then
        let (draft, rest) ← field.read draft rest
        gatherInOrder lengthText fields (index + 1) draft rest
      else if field.mayEnd then
        gatherInOrder lengthText fields (index + 1) draft rest
      else
        .error (.before (.wrongLength index lengthText) (rest.drop 1))

def recordFromList {δ α : Type} (shape : Shape δ α) (input : List Char) :
    Except Fault (α × List Char) := do
  let (draft, rest) ← gatherInOrder shape.lengthText shape.fields 0 shape.blank input
  match shape.finish draft with
  | .error name => .error (.before (.missingField name) rest)
  | .ok record =>
      let rest ← closeList rest
      .ok (record, rest)

def record {δ α : Type} (budget : Nat) (shape : Shape δ α) : Reader α := fun input => do
  match ← valueStart input with
  | '[' :: rest =>
      if budget = 0 then .error (tooDeep ('[' :: rest)) else recordFromList shape rest
  | '{' :: rest =>
      if budget = 0 then .error (tooDeep ('{' :: rest)) else recordFromObject shape rest
  | rest => .error (wrongType shape.title rest)

/-! Choices: one of a few names, written as a string or as the only key of an object whose value
is null. -/

structure Choice (α : Type) where
  names : List (String × α)

def Choice.read {α : Type} (choice : Choice α) (name : String) (rest : List Char) :
    Except Fault (α × List Char) :=
  match choice.names.lookup name with
  | some value => .ok (value, rest)
  | none => .error (.before (.unknownChoice name (choice.names.map Prod.fst)) rest)

def choiceKey (input : List Char) : Except Fault (List Char) :=
  match skipSpace input with
  | [] => .error (.after .unfinishedObject [])
  | '"' :: rest => .ok rest
  | '}' :: rest => .error (.after .expectedValue ('}' :: rest))
  | rest => .error (.after .keyNotString rest)

def choiceFromObject {α : Type} (choice : Choice α) (input : List Char) :
    Except Fault (α × List Char) := do
  let rest ← choiceKey input
  let (name, rest) ← string rest
  let (value, rest) ← choice.read name rest
  let rest ← colon rest
  let (_, rest) ← unit rest
  match skipSpace rest with
  | [] => .error (.before .unfinishedObject [])
  | '}' :: rest => .ok (value, rest)
  | rest => .error (.before .expectedValue rest)

def chosen {α : Type} (budget : Nat) (choice : Choice α) : Reader α := fun input => do
  match ← valueStart input with
  | '"' :: rest => do
      let (name, rest) ← string rest
      choice.read name rest
  | '{' :: rest =>
      if budget = 0 then .error (tooDeep ('{' :: rest)) else choiceFromObject choice rest
  | rest => .error (.after .expectedValue rest)

end RouteForge.Json
