import RouteForge.Proofs.ObjectReading
import RouteForge.Proofs.ValueReading

/-!
An object with quoted keys is written as the pretty text of the value it denotes: the lines that are
moved outwards at every level come to stand where a printer that knows its depth puts them.
-/

namespace RouteForge.Script

open Json (Members Value)

mutual
/-- An object with quoted keys, none of which is added twice, and the members of its value. -/
inductive Denotes : Object → Members → Prop
  | empty : Denotes (Object.empty .quoted) []
  | string {object members key} (denotes : Denotes object members) (fresh : key ∉ members.keys)
      (text : String) : Denotes (object.string key text) (members.put key (.string text))
  | bool {object members key} (denotes : Denotes object members) (fresh : key ∉ members.keys)
      (flag : Bool) : Denotes (object.bool key flag) (members.put key (.bool flag))
  | json {object members key} (denotes : Denotes object members) (fresh : key ∉ members.keys)
      (value : Value) : Denotes (object.json key value) (members.put key value)
  | list {object members key} (denotes : Denotes object members) (fresh : key ∉ members.keys)
      {items : List Object} {values : List Value} (inside : DenoteAll items values) :
      Denotes (object.list key items) (members.put key (.array values))

inductive DenoteAll : List Object → List Value → Prop
  | nil : DenoteAll [] []
  | cons {object members others values} (denotes : Denotes object members)
      (following : DenoteAll others values) :
      DenoteAll (object :: others) (.object members :: values)
end

theorem ofMembers_append (first second : Members) :
    ofMembers (first ++ second) = ofMembers first ++ ofMembers second := by
  induction first with
  | nil => rfl
  | cons member rest ih =>
      obtain ⟨key, value⟩ := member
      rw [List.cons_append, ofMembers, ih, ofMembers, List.cons_append]

theorem block_add {object : Object} {members : Members}
    (same : object.block = ofValue (.object members)) {key : String} (fresh : key ∉ members.keys)
    {term : Term} {value : Value} (sameValue : term.block = ofValue value) :
    (object.add key term).block = ofValue (.object (members.put key value)) := by
  obtain ⟨style, properties⟩ := object
  rw [Object.block, ofValue, Block.record.injEq] at same
  obtain ⟨rfl, sameMembers⟩ := same
  have added : propertyBlocks [(key, term)] = ofMembers [(key, value)] := by
    simp [propertyBlocks, ofMembers, sameValue]
  rw [Members.put_of_notMem fresh, Object.add, Object.block, ofValue, propertyBlocks_append,
    ofMembers_append, sameMembers, added]

mutual
theorem Denotes.block_eq {object : Object} {members : Members} :
    Denotes object members → object.block = ofValue (.object members)
  | .empty => rfl
  | .string denotes fresh text => block_add denotes.block_eq fresh rfl
  | .bool denotes fresh flag => block_add denotes.block_eq fresh rfl
  | .json denotes fresh value => block_add denotes.block_eq fresh rfl
  | .list denotes fresh inside =>
      block_add denotes.block_eq fresh (congrArg Block.list inside.itemBlocks_eq)

theorem DenoteAll.itemBlocks_eq {objects : List Object} {values : List Value} :
    DenoteAll objects values → itemBlocks objects = ofValues values
  | .nil => rfl
  | .cons denotes following => by
      rw [itemBlocks, denotes.block_eq, following.itemBlocks_eq, ofValues]
end

/-- The text of an object with quoted keys is the pretty text of the value that it denotes. -/
theorem text_eq_pretty {object : Object} {members : Members} (denotes : Denotes object members) :
    object.text = (Value.object members).pretty := by
  rw [Object.text, object.lines_eq, denotes.block_eq, pretty_eq]

theorem text_eq_pretty_nested :
    (((Object.empty .quoted).string "a" "\n").list "b"
        [((Object.empty .quoted).json "c" (.array [.object [("d", .null)]])).bool "e" true,
          Object.empty .quoted]).text =
      (Value.object [("a", .string "\n"), ("b", .array
        [.object [("c", .array [.object [("d", .null)]]), ("e", .bool true)],
          .object []])]).pretty := by
  have first : Denotes
      (((Object.empty .quoted).json "c" (.array [.object [("d", .null)]])).bool "e" true)
      [("c", .array [.object [("d", .null)]]), ("e", .bool true)] :=
    .bool (.json .empty (by decide) _) (by decide) _
  exact text_eq_pretty (.list (.string .empty (by decide) _) (by decide)
    (.cons first (.cons .empty .nil)))

end RouteForge.Script
