import Mathlib.Data.List.Induction
import RouteForge.Artifact.RequestSlot

/-!
A slot over all that is done with it. Requests go by names, act on a state of their own as they like,
and are recorded when they are invoked. What a slot answers depends on the first request that it was
filled with; no other is ever invoked.
-/

namespace RouteForge.RequestSlot

inductive Operation (ι α : Type) where
  | fill (name : ι)
  | call (arguments : α)
  | get
  deriving DecidableEq, Repr

variable {ι α β σ : Type}

namespace Operation

def filledName? : Operation ι α → Option ι
  | .fill name => some name
  | _ => none

def callArguments? : Operation ι α → Option α
  | .call arguments => some arguments
  | _ => none

end Operation

structure World (ι α σ : Type) where
  state : σ
  invoked : List (ι × α)

abbrev Request (ι α β σ : Type) : Type :=
  α → World ι α σ → β × World ι α σ

def recorded (requests : ι → α → σ → β × σ) (name : ι) : Request ι α β σ :=
  fun arguments world =>
    let (answer, state) := requests name arguments world.state
    (answer, ⟨state, world.invoked ++ [(name, arguments)]⟩)

inductive Reply (ι α β σ : Type) where
  | done
  | answered (answer : β)
  | given (request : Request ι α β σ)

structure Host (ι α β σ : Type) where
  slot : RequestSlot (Request ι α β σ)
  world : World ι α σ

namespace Host

variable (requests : ι → α → σ → β × σ)

def perform (operation : Operation ι α) (host : Host ι α β σ) :
    Except SlotError (Reply ι α β σ) × Host ι α β σ :=
  match operation with
  | .fill name =>
      match host.slot.fill (recorded requests name) with
      | .ok slot => (.ok .done, { host with slot })
      | .error error => (.error error, host)
  | .call arguments =>
      match host.slot.call arguments with
      | .ok effect =>
          let (answer, world) := effect host.world
          (.ok (.answered answer), { host with world })
      | .error error => (.error error, host)
  | .get =>
      match host.slot.get with
      | .ok request => (.ok (.given request), host)
      | .error error => (.error error, host)

def run : List (Operation ι α) → Host ι α β σ →
    List (Except SlotError (Reply ι α β σ)) × Host ι α β σ
  | [], host => ([], host)
  | operation :: rest, host =>
      let (reply, next) := host.perform requests operation
      let (replies, last) := run rest next
      (reply :: replies, last)

theorem run_append (earlier later : List (Operation ι α)) (host : Host ι α β σ) :
    run requests (earlier ++ later) host =
      ((run requests earlier host).1 ++ (run requests later (run requests earlier host).2).1,
        (run requests later (run requests earlier host).2).2) := by
  induction earlier generalizing host with
  | nil => rfl
  | cons operation rest ih => simp [run, ih]

theorem length_replies (history : List (Operation ι α)) (host : Host ι α β σ) :
    (run requests history host).1.length = history.length := by
  induction history generalizing host with
  | nil => rfl
  | cons operation rest ih => simp [run, ih]

theorem reply_run (earlier later : List (Operation ι α)) (operation : Operation ι α)
    (host : Host ι α β σ) :
    (run requests (earlier ++ operation :: later) host).1[earlier.length]? =
      some ((run requests earlier host).2.perform requests operation).1 := by
  have position := length_replies requests earlier host
  rw [run_append, List.getElem?_append_right (Nat.le_of_eq position), position, Nat.sub_self]
  rfl

theorem run_concat (history : List (Operation ι α)) (operation : Operation ι α)
    (host : Host ι α β σ) :
    (run requests (history ++ [operation]) host).2 =
      ((run requests history host).2.perform requests operation).2 := by
  rw [run_append]
  rfl

end Host

/-! What the history of a slot says of it. -/

def firstFilled? (history : List (Operation ι α)) : Option ι :=
  history.findSome? Operation.filledName?

def served : List (Operation ι α) → List α
  | [] => []
  | .fill _ :: rest => rest.filterMap Operation.callArguments?
  | _ :: rest => served rest

theorem firstFilled?_concat (history : List (Operation ι α)) (operation : Operation ι α) :
    firstFilled? (history ++ [operation]) = (firstFilled? history).or operation.filledName? := by
  rw [firstFilled?, List.findSome?_append, List.findSome?_singleton]
  rfl

theorem served_concat (history : List (Operation ι α)) (operation : Operation ι α) :
    served (history ++ [operation]) =
      served history ++
        if (firstFilled? history).isSome then operation.callArguments?.toList else [] := by
  induction history with
  | nil => cases operation <;> rfl
  | cons earlier rest ih =>
      cases earlier with
      | fill name =>
          cases operation <;> simp [served, firstFilled?, Operation.filledName?, Operation.callArguments?]
      | call arguments => simpa [served, firstFilled?, Operation.filledName?] using ih
      | get => simpa [served, firstFilled?, Operation.filledName?] using ih

theorem served_of_unfilled {history : List (Operation ι α)} (unfilled : firstFilled? history = none) :
    served history = [] := by
  induction history with
  | nil => rfl
  | cons operation rest ih =>
      cases operation with
      | fill name => simp [firstFilled?, Operation.filledName?] at unfilled
      | call arguments => exact ih unfilled
      | get => exact ih unfilled

/-- What a slot holds that was first filled with the request of a name, or never. -/
def heldFor (requests : ι → α → σ → β × σ) : Option ι → RequestSlot (Request ι α β σ)
  | none => .empty
  | some name => .filled (recorded requests name)

namespace Host

variable {requests : ι → α → σ → β × σ}

/-- A host whose slot was first filled as its history says, and whose record has the calls since then. -/
structure Reflects (requests : ι → α → σ → β × σ) (history : List (Operation ι α))
    (host : Host ι α β σ) : Prop where
  slot : host.slot = heldFor requests (firstFilled? history)
  invoked : host.world.invoked =
    (firstFilled? history).elim [] fun first => (served history).map (first, ·)

theorem perform_heldFor (first? : Option ι) (operation : Operation ι α) (world : World ι α σ) :
    perform requests operation ⟨heldFor requests first?, world⟩ =
      match first?, operation with
      | none, .fill name => (.ok .done, ⟨heldFor requests (some name), world⟩)
      | none, .call _ | none, .get => (.error .notInitialized, ⟨heldFor requests none, world⟩)
      | some first, .fill _ => (.error .alreadyInitialized, ⟨heldFor requests (some first), world⟩)
      | some first, .call arguments =>
          let outcome := requests first arguments world.state
          (.ok (.answered outcome.1), ⟨heldFor requests (some first),
            ⟨outcome.2, world.invoked ++ [(first, arguments)]⟩⟩)
      | some first, .get =>
          (.ok (.given (recorded requests first)), ⟨heldFor requests (some first), world⟩) := by
  cases first? <;> cases operation <;> rfl

theorem Reflects.perform {history : List (Operation ι α)} {host : Host ι α β σ}
    (reflects : Reflects requests history host) (operation : Operation ι α) :
    Reflects requests (history ++ [operation]) (host.perform requests operation).2 := by
  obtain ⟨slot, world⟩ := host
  obtain ⟨rfl, invoked⟩ := reflects
  rw [perform_heldFor]
  constructor
  · rw [firstFilled?_concat]
    cases firstFilled? history <;> cases operation <;> rfl
  · rw [firstFilled?_concat, served_concat]
    cases filled : firstFilled? history with
    | none =>
        rw [filled] at invoked
        cases operation <;>
          simpa [Operation.filledName?, served_of_unfilled filled] using invoked
    | some first =>
        rw [filled] at invoked
        cases operation <;> simpa [Operation.filledName?, Operation.callArguments?] using invoked

theorem reflects_run (state : σ) (history : List (Operation ι α)) :
    Reflects requests history (run requests history ⟨.empty, ⟨state, []⟩⟩).2 := by
  -- From the left: the last operation meets a host that its history has made.
  induction history using List.reverseRecOn with
  | nil => exact ⟨rfl, rfl⟩
  | append_singleton earlier operation ih =>
      rw [run_concat]
      exact ih.perform operation

/-- Whatever is done with a slot, the first filling is the one that succeeds. Before it there is no
answer, and nothing is invoked; after it each call is answered by the request of that filling, which is
invoked once and for the arguments of the call. No other request is invoked by any history. -/
theorem first_filling_serves (requests : ι → α → σ → β × σ) (state : σ)
    (earlier : List (Operation ι α)) (operation : Operation ι α) (later : List (Operation ι α)) :
    let fresh : Host ι α β σ := ⟨.empty, ⟨state, []⟩⟩
    let history := earlier ++ operation :: later
    let reply := (run requests history fresh).1[earlier.length]?
    let before := (run requests earlier fresh).2
    let after := (run requests (earlier ++ [operation]) fresh).2
    (match firstFilled? earlier, operation with
      | none, .fill _ => reply = some (.ok .done) ∧ after.world = before.world
      | some _, .fill _ => reply = some (.error .alreadyInitialized) ∧ after = before
      | none, .call _ | none, .get => reply = some (.error .notInitialized) ∧ after = before
      | some first, .call arguments =>
          let outcome := requests first arguments before.world.state
          reply = some (.ok (.answered outcome.1)) ∧
            after.world = ⟨outcome.2, before.world.invoked ++ [(first, arguments)]⟩
      | some first, .get =>
          reply = some (.ok (.given (recorded requests first))) ∧ after = before) ∧
    (run requests history fresh).2.world.invoked =
      (firstFilled? history).elim [] fun first => (served history).map (first, ·) := by
  intro fresh history reply before after
  refine ⟨?_, (reflects_run state history).invoked⟩
  have replied : reply = some (before.perform requests operation).1 :=
    reply_run requests earlier later operation fresh
  have stepped : after = (before.perform requests operation).2 :=
    run_concat requests earlier operation fresh
  have held : before = ⟨heldFor requests (firstFilled? earlier), before.world⟩ := by
    rw [← (reflects_run state earlier).slot]
  rw [held, perform_heldFor] at replied stepped
  rw [replied, stepped]
  cases filled : firstFilled? earlier with
  | none =>
      rw [filled] at held
      cases operation with
      | fill name => exact ⟨rfl, rfl⟩
      | call arguments => exact ⟨rfl, held.symm⟩
      | get => exact ⟨rfl, held.symm⟩
  | some first =>
      rw [filled] at held
      cases operation with
      | fill name => exact ⟨rfl, held.symm⟩
      | call arguments => exact ⟨rfl, rfl⟩
      | get => exact ⟨rfl, held.symm⟩

end Host

end RouteForge.RequestSlot
