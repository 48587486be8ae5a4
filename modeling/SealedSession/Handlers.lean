import SealedSession.Client.Error

/-! # Feature handlers

A feature message is offered to the registered handlers in the order of their registration until
one of them claims it. A change of the connection state is told to all of them.

Handlers are numbered by their place in the chain.
-/

namespace SealedSession

/-- A handler that claims the messages whose kind begins in a given way, or none at all. -/
structure FeatureHandler where
  opening : Option String
deriving DecidableEq, Repr

/-- Whether the handler consumes the message. -/
def FeatureHandler.claims (h : FeatureHandler) (m : FeatureMessage) : Bool :=
  match h.opening with
  | some opening => opening.toList.isPrefixOf m.kind.toList
  | none => false

/-- The handlers in order. -/
structure HandlerChain where
  handlers : List FeatureHandler := []
deriving DecidableEq, Repr

namespace HandlerChain

/-- Appends a handler. -/
def push (c : HandlerChain) (h : FeatureHandler) : HandlerChain := ⟨c.handlers ++ [h]⟩

/-- The number of handlers. -/
def size (c : HandlerChain) : Nat := c.handlers.length

/-- Offers a message from handler number `n` on: who saw it, and whether it was claimed. -/
def offer (m : FeatureMessage) : Nat → List FeatureHandler → List Nat × Bool
  | _, [] => ([], false)
  | n, h :: rest =>
    if h.claims m then ([n], true)
    else
      let (seen, claimed) := offer m (n + 1) rest
      (n :: seen, claimed)

/-- The handlers that see a message, and whether one of them claimed it. -/
def dispatch (c : HandlerChain) (m : FeatureMessage) : List Nat × Bool :=
  offer m 0 c.handlers

/-- The handlers that are told of a change of state. -/
def informed (c : HandlerChain) : List Nat :=
  List.range c.size

end HandlerChain

end SealedSession
