/-! # Shutdown hooks

A process that is about to exit runs the hooks registered with it, once each and in the order of
their registration. A hook stays registered until its handle is dropped or a shutdown takes it.

Several calls may be under way at a time, so each of them is made of the steps that others cannot
come between. A registration takes an identifier and then puts its hook on the list. A shutdown
finds out whether it is the first and, if so, takes the list; running the hooks is the caller's
business, so that a hook may itself register, drop or shut down: such an act finds the list already
taken.
-/

namespace SealedSession

/-- The hooks of a process, with the identifier of the next one. -/
structure Lifecycle (H : Type) where
  nextId : Nat := 0
  registered : List (Nat × H) := []
  shutDown : Bool := false

namespace Lifecycle

variable {H : Type}

/-- Takes an identifier. -/
def reserve (l : Lifecycle H) : Lifecycle H × Nat :=
  ({ l with nextId := l.nextId + 1 }, l.nextId)

/-- Puts a hook on the list. -/
def enlist (l : Lifecycle H) (id : Nat) (hook : H) : Lifecycle H :=
  { l with registered := l.registered ++ [(id, hook)] }

/-- Registers a hook; the identifier is its handle. -/
def register (l : Lifecycle H) (hook : H) : Lifecycle H × Nat :=
  let (l, id) := l.reserve
  (l.enlist id hook, id)

/-- Deregisters the hook of a dropped handle, if it is still registered. -/
def drop (l : Lifecycle H) (id : Nat) : Lifecycle H :=
  { l with registered := l.registered.filter fun h => h.1 ≠ id }

/-- Begins a shutdown, and tells whether it is the first. -/
def claim (l : Lifecycle H) : Lifecycle H × Bool :=
  ({ l with shutDown := true }, !l.shutDown)

/-- Takes all hooks from the list. -/
def take (l : Lifecycle H) : Lifecycle H × List (Nat × H) :=
  ({ l with registered := [] }, l.registered)

/-- Takes the hooks that are to run, none unless this is the first shutdown. -/
def shutdown (l : Lifecycle H) : Lifecycle H × List (Nat × H) :=
  let (l, first) := l.claim
  if first then l.take else (l, [])

/-- How many hooks are registered. -/
def count (l : Lifecycle H) : Nat := l.registered.length

theorem claim_of_shutDown {l : Lifecycle H} (h : l.shutDown = true) : l.claim = (l, false) := by
  obtain ⟨nextId, registered, shutDown⟩ := l
  cases h
  rfl

theorem claim_of_not_shutDown {l : Lifecycle H} (h : l.shutDown = false) :
    l.claim = ({ l with shutDown := true }, true) := by
  rw [claim, h]
  rfl

end Lifecycle

end SealedSession
