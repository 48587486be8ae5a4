import SealedSession.Cipher.Pair
import SealedSession.IdentityStore

/-! # A scripted identity store

A store for trials. Its identity, its cipher and its failures are given beforehand, and its world
is the list of the calls that were made, failed ones included. The prekeys that it issues are the
number of the call, so that no two offers are alike.
-/

namespace SealedSession.Scripted

/-- A call of a store. -/
inductive Call where
  | opened (owner : Option Uuid)
  | trusted (server : ServerIdentity) (bundle : Bytes)
  | registered (profile : Profile) (device : UInt32)
  | prekeys (target : Option ServerIdentity)
  | saved
  | clearedGroups
deriving DecidableEq, Repr

/-- The calls that a script can make fail. -/
inductive Kind where
  | opening | trusting | registering | prekeys | saving
deriving DecidableEq, Repr

/-- The kind of a call. -/
def Call.kind? : Call → Option Kind
  | .opened _ => some .opening
  | .trusted _ _ => some .trusting
  | .registered _ _ => some .registering
  | .prekeys _ => some .prekeys
  | .saved => some .saving
  | .clearedGroups => none

/-- Calls of one kind that fail: the one with a given number, or all of them. -/
structure Fault where
  kind : Kind
  number : Option Nat
  error : StoreError
deriving DecidableEq, Repr

/-- What a store is to do. -/
structure Script where
  installed : Bool
  opensExisting : Bool
  identity : Identity
  token : Bytes
  /-- The cipher of every store, the pair cipher of its identity when there is none. -/
  cipher : Option Cipher
  faults : List Fault

/-- The calls made so far, oldest first. -/
abbrev Ledger := List Call

/-- How many calls of a kind were made. -/
def count (l : Ledger) (k : Kind) : Nat :=
  l.countP fun c => c.kind? = some k

/-- Notes a call. The answer is its number among the calls of its kind and the failure that the
script has for it. -/
def note (s : Script) (k : Kind) (c : Call) (l : Ledger) : (Nat × Option StoreError) × Ledger :=
  let n := count l k + 1
  let fault := s.faults.find? fun f => f.kind = k && (f.number.isNone || f.number = some n)
  ((n, fault.map Fault.error), l ++ [c])

/-- A call that either fails as the script says or acts. -/
def attempt {α : Type} (s : Script) (k : Kind) (c : Call) (l : Ledger)
    (act : Nat → Except StoreError α) : Except StoreError α × Ledger :=
  match note s k c l with
  | ((_, some e), l) => (.error e, l)
  | ((n, none), l) => (act n, l)

/-- The store that follows a script; its state is its identity. -/
def stores (s : Script) : IdentityStores Identity Ledger where
  installed l := (s.installed, l)
  openFor owner l :=
    attempt s .opening (.opened owner) l fun _ =>
      .ok (if s.opensExisting then .existing s.identity else .fresh s.identity)
  identity i l := (i, l)
  token _ l := (s.token, l)
  cipher i l := (s.cipher.getD (.pair i), l)
  trust server bundle i l :=
    let (r, l) := attempt s .trusting (.trusted server bundle) l fun _ => .ok ()
    (r, i, l)
  registerDevice profile device i l :=
    let (r, l) := attempt s .registering (.registered profile device) l fun _ => .ok ()
    match r with
    | .ok _ => (.ok (), { i with device := some device }, l)
    | .error e => (.error e, i, l)
  offer target i l :=
    let (r, l) := attempt s .prekeys (.prekeys target) l fun n =>
      .ok ⟨some i, [UInt8.ofNat n]⟩
    (r, i, l)
  save _ l := attempt s .saving .saved l fun _ => .ok ()
  forgetGroups i l := (i, l ++ [.clearedGroups])

end SealedSession.Scripted
