import RouteForge.Decimal.Binary64

/-!
JSON values. An object is its list of members in the order in which its keys first came.
-/

namespace RouteForge.Json

def fits (value : Int) : Bool :=
  decide (-Int.ofNat (Nat.pow 2 63) ≤ value) && decide (value < Int.ofNat (Nat.pow 2 64))

inductive Number where
  | integer (value : Int) (inRange : fits value = true := by decide)
  | real (value : Decimal.Binary64)
  deriving DecidableEq, Repr

inductive Value where
  | null
  | bool (flag : Bool)
  | number (number : Number)
  | string (text : String)
  | array (items : List Value)
  | object (members : List (String × Value))
  deriving Repr

abbrev Members := List (String × Value)

namespace Members

def keys (members : Members) : List String :=
  members.map Prod.fst

def get? (key : String) : Members → Option Value
  | [] => none
  | (name, value) :: rest => if name = key then some value else get? key rest

/-- A key that is present keeps its place and takes the new value; a new key goes to the end. -/
def put (key : String) (value : Value) : Members → Members
  | [] => [(key, value)]
  | (name, old) :: rest =>
      if name = key then (key, value) :: rest else (name, old) :: put key value rest

theorem keys_put (key : String) (value : Value) (members : Members) :
    keys (put key value members) =
      if key ∈ keys members then keys members else keys members ++ [key] := by
  induction members with
  | nil => simp [put, keys]
  | cons head rest ih =>
      obtain ⟨name, old⟩ := head
      simp only [keys, List.map_cons, List.mem_cons] at ih ⊢
      by_cases same : name = key
      · simp [put, same]
      · have different : ¬key = name := fun equal => same equal.symm
        simp only [put, same, ↓reduceIte, List.map_cons, ih, different, false_or]
        by_cases present : key ∈ List.map Prod.fst rest <;> simp [present]

theorem get?_put (key other : String) (value : Value) (members : Members) :
    get? other (put key value members) =
      if other = key then some value else get? other members := by
  induction members with
  | nil => simp [put, get?, eq_comm]
  | cons head rest ih =>
      obtain ⟨name, old⟩ := head
      by_cases same : name = key
      · subst same
        by_cases asked : name = other
        · simp [put, get?, asked]
        · have different : ¬other = name := fun equal => asked equal.symm
          simp [put, get?, asked, different]
      · simp only [put, same, ↓reduceIte, get?, ih]
        by_cases asked : name = other
        · subst asked
          simp [same]
        · simp [asked]

end Members

def Value.isObject : Value → Bool
  | .object _ => true
  | _ => false

end RouteForge.Json
