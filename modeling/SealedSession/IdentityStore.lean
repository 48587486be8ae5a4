import SealedSession.Cipher
import SealedSession.Client.Error
import SealedSession.Message

/-! # Identity stores

A client never touches key material itself. A store owns the local identity, the cipher sessions
with every peer and the prekeys it issues.

Nothing is assumed about a store. It is a state `S` that lives in a world `W`; each capability is
a function of both, its answer may depend on both, and it may change the world, so that an answer
may differ from call to call. A statement over all `IdentityStores S W` and all worlds is a
statement about every store there can be.
-/

namespace SealedSession

/-- A store that was opened, and whether it was there before. -/
inductive Installation (S : Type) where
  /-- The store was just created; its device still has to be registered. -/
  | fresh (store : S)
  /-- The store was loaded and can identify right away. -/
  | existing (store : S)

/-- The store of an installation. -/
def Installation.store {S : Type} : Installation S → S
  | .fresh s => s
  | .existing s => s

/-- What a client asks of its identity stores. -/
structure IdentityStores (S W : Type) where
  /-- Whether a store exists. -/
  installed : W → Bool × W
  /-- Opens the store, creating it for the given owner when there is none. -/
  openFor : Option Uuid → W → Except StoreError (Installation S) × W
  /-- The identity of this client. -/
  identity : S → W → Identity × W
  /-- The secret that a known identity is presented with. -/
  token : S → W → Bytes × W
  /-- A cipher for the sessions that the store holds now. -/
  cipher : S → W → Cipher × W
  /-- Establishes a session with a server from its prekeys. -/
  trust : ServerIdentity → Bytes → S → W → Except StoreError Unit × S × W
  /-- Notes the device that the server has assigned. -/
  registerDevice : Profile → UInt32 → S → W → Except StoreError Unit × S × W
  /-- Issues fresh prekeys for a server. -/
  offer : Option ServerIdentity → S → W → Except StoreError PreKeyOffer × S × W
  /-- Writes the store to its place. -/
  save : S → W → Except StoreError Unit × W
  /-- Ends every cipher session of a group. -/
  forgetGroups : S → W → S × W

end SealedSession
