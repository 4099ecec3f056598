/-!
The slot through which a module gets its request function: empty until the host fills it, which can
happen once. The generated request module keeps to the same rules and uses the same messages.
-/

namespace RouteForge

inductive SlotError where
  | notInitialized
  | alreadyInitialized
  | notCallable
  deriving DecidableEq, Repr

def SlotError.message : SlotError → String
  | .notInitialized => "Request instance has not been initialized yet"
  | .alreadyInitialized => "Request instance has already been initialized"
  | .notCallable => "The provided request must be a function"

inductive RequestSlot (α : Type) where
  | empty
  | filled (request : α)
  deriving DecidableEq, Repr

namespace RequestSlot

def fill {α : Type} (slot : RequestSlot α) (request : α) : Except SlotError (RequestSlot α) :=
  match slot with
  | .empty => .ok (.filled request)
  | .filled _ => .error .alreadyInitialized

def get {α : Type} (slot : RequestSlot α) : Except SlotError α :=
  match slot with
  | .empty => .error .notInitialized
  | .filled request => .ok request

def call {α β : Type} (slot : RequestSlot (α → β)) (arguments : α) : Except SlotError β :=
  slot.get.map fun request => request arguments

end RequestSlot

end RouteForge
