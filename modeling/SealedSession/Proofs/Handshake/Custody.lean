import SealedSession.IdentityStore.Scripted
import SealedSession.Proofs.Client.Holding

/-!
# Which lock a connection holds

A lock is handed to the handshake with the channel of a socket, and the handshake lets go of it when
it disconnects or is shut down. In between no operation touches the lock but one: a socket that is
opened while the handshake is bound to another is refused, and still its lock takes the place of the
one that was held, or no lock does if it brings none.

* `handedLast`: the lock that was handed over last.
* `onOpen_of_active`: a refused socket changes the lock, and nothing else of the handshake.
* `lock_step`, `lock_of_active`: the lock after an operation, and a run, of a client that stays
  active.
* `lock_since_opened`: the lock that a connection holds is the one that was handed over last.
* `lock_replaced`: a refused socket unlocks the home of a client that goes on connecting.
-/

namespace SealedSession

/-- The lock that comes with a socket, if a socket is opened; it may come without one. -/
def Operation.handed? {W : Type} : Operation W → Option (Option HomeLock)
  | .onOpen _ lock => some lock
  | _ => none

namespace Handshake

variable {S W : Type} {g : Settings S W}

/-- The lock that was handed over last, or the given one if no socket was opened. -/
def handedLast (lock : Option HomeLock) (past : List (Moment S W)) : Option HomeLock :=
  past.foldl (fun lock t ↦ t.operation.handed?.getD lock) lock

@[simp] theorem handedLast_nil (lock : Option HomeLock) :
    handedLast lock ([] : List (Moment S W)) = lock := rfl

@[simp] theorem handedLast_cons (lock : Option HomeLock) (t : Moment S W)
    (past : List (Moment S W)) :
    handedLast lock (t :: past) = handedLast (t.operation.handed?.getD lock) past := rfl

/-- Without another socket the lock is the given one. -/
theorem handedLast_of_unopened {lock : Option HomeLock} {past : List (Moment S W)}
    (hp : ∀ t ∈ past, ∀ channel lock, t.operation ≠ .onOpen channel lock) :
    handedLast lock past = lock := by
  induction past with
  | nil => rfl
  | cons t past ih =>
    obtain ⟨ht, hp⟩ := List.forall_mem_cons.mp hp
    have hn : t.operation.handed? = none := by
      cases ho : t.operation with
      | onOpen channel lock => exact absurd ho (ht channel lock)
      | _ => rfl
    rw [handedLast_cons, hn]
    exact ih hp

/-- A socket that is opened while the client is active is refused. Its channel is let go of and its
lock replaces the one that was held; nothing else changes. -/
theorem onOpen_of_active {h : Handshake S W} (hs : h.standing.Sound g.refreshLimit)
    (ha : h.state ≠ .disconnected) (channel : Nat) (lock : Option HomeLock) :
    onOpen g channel lock h = (.error .senderAlreadyBound,
      { h with lock := lock, outbound := h.outbound.dropSending channel }) := by
  obtain ⟨n, hn⟩ := Option.isSome_iff_exists.mp (hs.bound_iff.mpr ha)
  exact onOpen_of_bound g channel lock hn

/-- An operation that leaves the client active leaves it its lock, unless it hands over another or
belongs to a shutdown. -/
theorem lock_step {h : Handshake S W} {op : Operation W} (hn : op ≠ .saveOnShutdown)
    (ha : (perform g h op).2.state ≠ .disconnected) :
    (perform g h op).2.lock = op.handed?.getD h.lock := by
  have ordinary (ho : op.isOrdinary = true) : (perform g h op).2.lock = h.lock := by
    cases latched_perform g h ho with
    | kept lock => exact lock
    | released lock state => exact absurd state ha
  cases op with
  | onOpen channel lock => exact lock_onOpen channel lock h
  | saveOnShutdown => exact absurd rfl hn
  | _ => exact ordinary rfl

/-- A client that stays active, and is not shut down, holds the lock that was handed over last. -/
theorem lock_of_active {h : Handshake S W} {ops : List (Operation W)}
    (hk : ∀ t ∈ history g h ops, t.after.state ≠ .disconnected ∧ t.operation ≠ .saveOnShutdown) :
    (run g h ops).lock = handedLast h.lock (history g h ops) := by
  induction ops generalizing h with
  | nil => rfl
  | cons op ops ih =>
    obtain ⟨⟨ha, hn⟩, hk⟩ := List.forall_mem_cons.mp hk
    rw [run_cons, ih hk, history, handedLast_cons]
    exact congrArg (handedLast · _) (lock_step hn ha)

/-- A client that is active before a run and at every moment of it is so before each of them. -/
theorem active_before {h : Handshake S W} {ops : List (Operation W)} (ha : h.state ≠ .disconnected)
    (hk : ∀ t ∈ history g h ops, t.after.state ≠ .disconnected) :
    ∀ t ∈ history g h ops, t.before.state ≠ .disconnected := by
  induction ops generalizing h with
  | nil =>
    intro t ht
    cases ht
  | cons op ops ih =>
    obtain ⟨hn, hk⟩ := List.forall_mem_cons.mp hk
    exact List.forall_mem_cons.mpr ⟨ha, ih hn hk⟩

/-- A client that has opened a socket is active. -/
theorem active_of_opened {h : Handshake S W} (hs : h.standing.Sound g.refreshLimit) {channel : Nat}
    {lock : Option HomeLock} (hr : (onOpen g channel lock h).1 = .ok ()) :
    (onOpen g channel lock h).2.state ≠ .disconnected :=
  (hs.step (step_onOpen g channel lock h)).bound_iff.mp
    (Option.isSome_of_eq_some (bound_onOpen hr))

/-- Whatever is done to a client that has opened a socket with a lock: until it disconnects or is
shut down it holds the lock that was handed over last, which is the very lock it was opened with
unless it was asked to open another socket since. Each of those is refused, and changes nothing but
the lock. -/
theorem lock_since_opened (g : Settings S W) (world : W) (ops : List (Operation W)) :
    let past := history g (start world : Handshake S W) ops
    (∀ earlier t later, past = earlier ++ t :: later → t.before.state ≠ .disconnected →
      ∀ channel lock, t.operation = .onOpen channel lock →
        t.result = .error .senderAlreadyBound ∧ t.after =
          { t.before with lock := lock, outbound := t.before.outbound.dropSending channel }) ∧
    (∀ earlier t since, past = earlier ++ t :: since → ∀ channel lock,
      t.operation = .onOpen channel (some lock) → t.result = .ok () →
      (∀ u ∈ since, u.after.state ≠ .disconnected ∧ u.operation ≠ .saveOnShutdown) →
      (∀ u ∈ since, u.before.state ≠ .disconnected) ∧
      (run g (start world) ops).lock = handedLast (some lock) since ∧
      ((∀ u ∈ since, ∀ channel lock, u.operation ≠ .onOpen channel lock) →
        (run g (start world) ops).lock = some lock)) := by
  intro past
  constructor
  · intro earlier t later hp ha channel lock ho
    obtain ⟨ops₁, op, -, rfl⟩ := history_split_cons g hp
    obtain rfl : op = .onOpen channel lock := ho
    have refused := onOpen_of_active (sound_run g world ops₁) ha channel lock
    exact ⟨congrArg Prod.fst refused, congrArg Prod.snd refused⟩
  · intro earlier t since hp channel lock ho hr hk
    obtain ⟨ops₁, ops', rfl, -, hsplit⟩ := history_split g hp
    cases ops' with
    | nil => cases hsplit
    | cons op ops₂ =>
      obtain ⟨rfl, rfl⟩ := List.cons_eq_cons.mp hsplit
      obtain rfl : op = .onOpen channel (some lock) := ho
      have held : (run g (start world) (ops₁ ++ .onOpen channel (some lock) :: ops₂)).lock =
          handedLast (some lock) (history g (perform g (run g (start world) ops₁)
            (.onOpen channel (some lock))).2 ops₂) := by
        rw [run_append, run_cons, lock_of_active hk]
        exact congrArg (handedLast · _) (lock_onOpen channel (some lock) _)
      refine ⟨?_, held, fun hn ↦ held.trans (handedLast_of_unopened hn)⟩
      exact active_before (active_of_opened (sound_run g world ops₁) hr) fun u hu ↦ (hk u hu).1

/-! ## A lock that is given away -/

/-- A client that is opened on a home. -/
def housed : Settings Identity Scripted.Ledger where
  stores := Scripted.stores ⟨true, true, ⟨default, [1], none⟩, [], none, []⟩
  session := ⟨default, "player", "server", .unverified, none⟩
  complaint _ := ""

/-- A socket that comes without a lock is refused by a client that is connecting, and yet the client
lets go of the lock that it was opened with, and goes on connecting without one. -/
theorem lock_replaced :
    let ready := run housed (start []) [.createChannel, .createChannel]
    let opened := perform housed ready (.onOpen 0 (some ⟨"home"⟩))
    let refused := perform housed opened.2 (.onOpen 1 none)
    opened.1 = .ok () ∧ opened.2.state = .connecting ∧ opened.2.lock = some ⟨"home"⟩ ∧
      refused.1 = .error .senderAlreadyBound ∧ refused.2.state = .connecting ∧
      refused.2.lock = none := by
  decide +kernel

end Handshake

end SealedSession
