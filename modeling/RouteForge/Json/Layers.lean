import RouteForge.Json.Value

/-!
Layering values over one another. Objects are merged key by key, at every depth, lists are
concatenated, and everything else in the upper layer replaces what lies below.
-/

namespace RouteForge.Json

mutual
def merge (lower : Value) : Value → Value
  | .object upper =>
      match lower with
      | .object members => .object (mergeMembers members upper)
      | _ => .object upper
  | .array upper =>
      match lower with
      | .array items => .array (items ++ upper)
      | _ => .array upper
  | upper => upper

def mergeMembers (lower : Members) : List (String × Value) → Members
  | [] => lower
  | (key, upper) :: rest =>
      match lower.get? key with
      | some value => mergeMembers (lower.put key (merge value upper)) rest
      | none => mergeMembers (lower.put key upper) rest
end

/-- Lays the layers over one another, the first lowest, on an object without members. -/
def mergeLayers (layers : List Value) : Value :=
  layers.foldl merge (.object [])

end RouteForge.Json
