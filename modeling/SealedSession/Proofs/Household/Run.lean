import SealedSession.Proofs.Household.Calls

/-!
# Households: clients that share a home

Any number of clients may be set up with the same home, and each of them may be asked to connect,
more than once at a time, while everything else goes on. All of it interleaves, step by step:
`Household` is the state of all clients and of all calls to connect, and a `Move` is the next step
of one of them. A step that can fail may fail, a call may be abandoned wherever it stands, and only
the shutdown of a client is left out.

* `Household.Move`, `Household.step`, `Household.run`: what happens to a household.
* `Household.Holder`, `Household.holds`: who holds the locks that are alive.
-/

namespace SealedSession

namespace Household

/-- A call to connect one of the clients. -/
structure Call where
  client : Nat
  stage : Client.Stage

/-- What the clients of a household are set up with. Their homes may be written differently. -/
structure Settings (S W : Type) where
  clients : Nat → Client.Settings S W
  /-- The process that a client lives in. -/
  process : Nat → Nat
  /-- Where the lock file of the home is. -/
  path : Path
  shared : ∀ i, (HomeLock.mk (clients i).config.home).path = path

end Household

/-- Clients that share a home, with all calls to connect that were ever made. -/
structure Household (S W : Type) where
  clients : List (Client S W)
  calls : List Household.Call := []
  tree : FileTree

namespace Household

variable {S W : Type} (g : Settings S W)

/-- Clients that were never connected. -/
def start (worlds : List W) (tree : FileTree) : Household S W where
  clients := worlds.mapIdx fun i w ↦ Client.start (g.clients i) w
  tree := tree

/-- What may happen to a household next. -/
inductive Move (W : Type) where
  /-- A client is asked to connect. -/
  | connect (i : Nat)
  /-- A call tries to lock the home, which the system may refuse for reasons of its own. -/
  | lock (n : Nat) (fault : Option String)
  /-- A call goes on to its next step. -/
  | advance (n : Nat) (net : Network)
  | abandon (n : Nat)
  /-- A client does anything else, except that it is shut down. -/
  | act (i : Nat) (m : Client.Move W) (ordinary : m.isOrdinary = true)
  /-- Something is done to a handshake alone, as it may be between the parts of a larger step. -/
  | operate (i : Nat) (op : Operation W) (ordinary : op.isOrdinary = true)

/-- All locks that are held, by clients or by calls. -/
def live (h : Household S W) : List HomeLock :=
  h.clients.filterMap (·.handshake.lock) ++ h.calls.filterMap (·.stage.lock?)

/-- What an attempt of a client to lock its home leads to. -/
def attempt (h : Household S W) (i : Nat) (fault : Option String) :
    Except ClientError HomeLock × FileTree :=
  match fault with
  | some system => (.error (.system system), h.tree)
  | none => HomeLock.acquire h.live h.tree (g.process i) (g.clients i).config.home

/-- One client has changed. -/
def putClient (h : Household S W) (i : Nat) (c : Client S W) : Household S W :=
  { h with clients := h.clients.set i c }

/-- One call has come further. -/
def putCall (h : Household S W) (n : Nat) (call : Call) : Household S W :=
  { h with calls := h.calls.set n call }

/-- A call has done a step with its client. -/
def put (h : Household S W) (n i : Nat) (x : Client.Stage × Client S W) : Household S W :=
  (h.putClient i x.2).putCall n ⟨i, x.1⟩

/-- Makes a move. -/
def step (h : Household S W) : Move W → Household S W
  | .connect i =>
    match h.clients[i]? with
    | some c => { h with calls := h.calls ++ [⟨i, Client.begin c⟩] }
    | none => h
  | .lock n fault =>
    match h.calls[n]? with
    | some ⟨i, .locking⟩ =>
      match h.clients[i]? with
      | some c =>
        let (result, tree) := attempt g h i fault
        { h.put n i (Client.lockHome result .locking c) with tree := tree }
      | none => h
    | _ => h
  | .advance n net =>
    match h.calls[n]? with
    | some ⟨i, stage⟩ =>
      match h.clients[i]? with
      | some c => h.put n i (Client.advance (g.clients i) net stage c)
      | none => h
    | none => h
  | .abandon n =>
    match h.calls[n]? with
    | some ⟨i, stage⟩ => if stage.isOver then h else h.putCall n ⟨i, .abandoned⟩
    | none => h
  | .act i m _ =>
    match h.clients[i]? with
    | some c => h.putClient i (Client.step (g.clients i) c m)
    | none => h
  | .operate i op _ =>
    match h.clients[i]? with
    | some c => h.putClient i
        { c with handshake := (Handshake.perform (g.clients i).handshake c.handshake op).2 }
    | none => h

/-- Makes one move after another. -/
def run (h : Household S W) (moves : List (Move W)) : Household S W :=
  moves.foldl (step g) h

/-! ## Who holds a lock -/

/-- Who may hold a lock. -/
inductive Holder where
  | client (i : Nat)
  | call (n : Nat)
deriving DecidableEq

/-- The lock that is held. -/
def holds (h : Household S W) : Holder → Option HomeLock
  | .client i => (h.clients[i]?).bind (·.handshake.lock)
  | .call n => (h.calls[n]?).bind (·.stage.lock?)

/-- Every live lock has a holder. -/
theorem exists_holder {h : Household S W} {l : HomeLock} (hl : l ∈ h.live) :
    ∃ a, h.holds a = some l := by
  rcases List.mem_append.mp hl with hc | hc
  · obtain ⟨c, hm, hc⟩ := List.mem_filterMap.mp hc
    obtain ⟨i, hi⟩ := List.getElem?_of_mem hm
    exact ⟨.client i, by rw [holds, hi]; exact hc⟩
  · obtain ⟨call, hm, hc⟩ := List.mem_filterMap.mp hc
    obtain ⟨n, hn⟩ := List.getElem?_of_mem hm
    exact ⟨.call n, by rw [holds, hn]; exact hc⟩

theorem mem_live {h : Household S W} {a : Holder} {l : HomeLock} (ha : h.holds a = some l) :
    l ∈ h.live := by
  cases a with
  | client i =>
    obtain ⟨c, hi, hc⟩ := Option.bind_eq_some_iff.mp ha
    exact List.mem_append_left _ (List.mem_filterMap.mpr ⟨c, List.mem_of_getElem? hi, hc⟩)
  | call n =>
    obtain ⟨call, hn, hc⟩ := Option.bind_eq_some_iff.mp ha
    exact List.mem_append_right _ (List.mem_filterMap.mpr ⟨call, List.mem_of_getElem? hn, hc⟩)

end Household

end SealedSession
