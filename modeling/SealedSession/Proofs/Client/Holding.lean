import SealedSession.Proofs.Client.Connections

/-!
# The lock of a client

The lock on its home comes to a client with a socket, and a client keeps it for as long as it is
active. Nothing else brings a lock, and only a shutdown takes it away from a client that stays
active: whoever is not shut down holds a lock exactly while it is active.

* `Operation.isOrdinary`: operations that neither bring a lock nor belong to a shutdown.
* `Standing.Guarded`: the fields of a standing agree, and an active client holds a lock.
* `guarded_onOpen`, `guarded_run`: a socket with a lock makes a client guarded, and ordinary
  operations keep it so.
* `lock_run`: the lock after ordinary operations is the one before, or none.
* `Client.ordinary_operations`: a client that opens no socket and is not shut down does nothing
  else.
-/

namespace SealedSession

/-- Whether an operation neither brings a lock nor belongs to a shutdown. -/
def Operation.isOrdinary {W : Type} : Operation W → Bool
  | .onOpen _ _ | .saveOnShutdown => false
  | _ => true

namespace Standing

/-- The fields of a standing agree, and an active client holds a lock. -/
structure Guarded (limit : Option Nat) (s : Standing) : Prop where
  sound : s.Sound limit
  held : s.state ≠ .disconnected → s.lock.isSome

/-- A lock is kept, or released by becoming disconnected. -/
inductive Latched (lock : Option HomeLock) (s : Standing) : Prop where
  | kept (lock : s.lock = lock)
  | released (lock : s.lock = none) (state : s.state = .disconnected)

section

variable {s : Standing}

theorem latched_changeState_disconnected : Latched s.lock (s.changeState .disconnected) :=
  .released (by simp [changeState]) (state_changeState _ s)

theorem lock_setPhase (p : Phase) : (s.setPhase p).lock = s.lock := by
  unfold setPhase
  split <;> rfl

theorem latched_after (m : Response) : Latched s.lock (s.after m) := by
  cases m with
  | identify _ _ _ => exact .kept (lock_setPhase (s := { s with stored := true }) _)
  | registerDevice _ _ => exact .kept (lock_setPhase _)
  | deviceRegistered _ _ => exact .kept (lock_setPhase (s := { s with stored := true }) _)
  | sendPreKeys _ _ | resendPreKeys _ | startSession =>
    rw [after]
    split
    · exact .kept (lock_setPhase _)
    · exact .kept rfl
  | sessionFailed _ | isUntrusted => exact latched_changeState_disconnected
  | isTrusted identity =>
    refine .kept ?_
    simp only [after, changeState, reduceCtorEq, if_false]
    split <;> rfl
  | keepAlive | feature _ => exact .kept rfl

theorem latched_failed (limit : Option Nat) : Latched s.lock (s.failed limit) := by
  cases hx : Handshake.exceeds (s.failures + 1).toNat limit with
  | some n =>
    rw [failed_of_some hx]
    exact latched_changeState_disconnected (s := { s with failures := s.failures + 1 })
  | none =>
    rw [failed_of_none hx]
    exact .kept rfl

end

end Standing

namespace Handshake

variable {S W : Type} (g : Settings S W)

open Standing (Latched)

theorem latched_leave (h : Handshake S W) : Latched h.lock (leave g h).standing := by
  unfold leave
  split
  · exact .kept rfl
  · rw [standing_changeState]
    exact Standing.latched_changeState_disconnected (s := h.standing)

theorem latched_receive (bytes : Bytes) (h : Handshake S W) :
    Latched h.lock (receive g bytes h).2.standing := by
  cases hm : heard? g bytes h with
  | some m =>
    rcases standing_receive_of_heard g hm with hr | ⟨-, hr⟩
    · rw [hr]
      exact Standing.latched_after (s := { h.standing with failures := 0 }) m
    · rw [hr]
      exact .kept rfl
  | none =>
    rcases standing_receive_of_not_heard g hm with hr | hr | ⟨-, -, -, hr⟩
    · rw [hr]
      exact .kept rfl
    · rw [hr]
      exact .kept rfl
    · rw [hr]
      exact Standing.latched_failed (s := h.standing) _

/-- Ordinary operations release a lock only with the connection that it belongs to. -/
theorem latched_perform (h : Handshake S W) {op : Operation W} (ho : op.isOrdinary = true) :
    Latched h.lock (perform g h op).2.standing := by
  have same {k : Handshake S W} (hk : k.standing = h.standing) : Latched h.lock k.standing :=
    .kept (congrArg Standing.lock hk)
  cases op with
  | onOpen | saveOnShutdown => cases ho
  | receive bytes => exact latched_receive g bytes h
  | onClose close =>
    change Latched h.lock (onClose g close h).standing
    unfold onClose
    split
    · exact latched_leave g (h.emit _)
    · exact latched_leave g h
  | onFailure => exact latched_leave g h
  | disconnect =>
    simp only [perform, standing_disconnect]
    exact Standing.latched_changeState_disconnected (s := h.standing)
  | fail message =>
    simp only [perform, standing_fail]
    exact Standing.latched_changeState_disconnected (s := h.standing)
  | startSession serverId => exact same (standing_startSession g serverId h)
  | send r => exact same (standing_send g r h)
  | sendKeepalive identity => exact same (standing_sendKeepalive g identity h)
  | _ => exact .kept rfl

variable {g}

/-- Ordinary operations keep a client guarded, with the lock that it had or with none. -/
theorem guarded_perform {h : Handshake S W} (hs : h.standing.Guarded g.refreshLimit)
    {op : Operation W} (ho : op.isOrdinary = true) :
    (perform g h op).2.standing.Guarded g.refreshLimit ∧
      ((perform g h op).2.lock = h.lock ∨ (perform g h op).2.lock = none) := by
  have latched := latched_perform g h ho
  refine ⟨⟨hs.sound.step (step_perform g h op), fun ha ↦ ?_⟩, ?_⟩
  · cases latched with
    | kept lock =>
      have after : (run g h [op]).state ≠ .disconnected := ha
      have before : h.state ≠ .disconnected := by
        refine (bound_of_active (g := g) hs.sound ?_ after).1
        intro channel lock hm
        rw [← List.mem_singleton.mp hm] at ho
        cases ho
      rw [lock]
      exact hs.held before
    | released _ state => exact absurd state ha
  · cases latched with
    | kept lock => exact .inl lock
    | released lock _ => exact .inr lock

theorem guarded_run {h : Handshake S W} (hs : h.standing.Guarded g.refreshLimit)
    {ops : List (Operation W)} (ho : ∀ op ∈ ops, op.isOrdinary = true) :
    (run g h ops).standing.Guarded g.refreshLimit ∧
      ((run g h ops).lock = h.lock ∨ (run g h ops).lock = none) := by
  induction ops generalizing h with
  | nil => exact ⟨hs, .inl rfl⟩
  | cons op ops ih =>
    obtain ⟨hn, hl⟩ := guarded_perform hs (ho op List.mem_cons_self)
    obtain ⟨hr, hk⟩ := ih hn fun op hm ↦ ho op (List.mem_cons_of_mem _ hm)
    refine ⟨hr, ?_⟩
    rcases hk with hk | hk
    · exact hl.imp hk.trans hk.trans
    · exact .inr hk

/-- A socket brings its lock, whether or not the handshake can begin on it. -/
theorem lock_onOpen (channel : Nat) (lock : Option HomeLock) (h : Handshake S W) :
    (onOpen g channel lock h).2.lock = lock := by
  cases hb : h.outbound.bound with
  | some b => rw [onOpen_of_bound g channel lock hb]
  | none =>
    rw [onOpen_of_unbound g channel lock hb]
    have opened : (changeState g .connecting { h with
        lock := lock, outbound := { h.outbound with bound := some channel } }).lock = lock := by
      unfold changeState
      split <;> rfl
    rcases standing_introduce g (changeState g .connecting { h with
        lock := lock, outbound := { h.outbound with bound := some channel } }) with hs | hs
    · exact (congrArg Standing.lock hs).trans opened
    · exact (congrArg Standing.lock hs).trans opened

theorem guarded_onOpen {h : Handshake S W} (hs : h.standing.Guarded g.refreshLimit) (channel : Nat)
    (lock : HomeLock) :
    (onOpen g channel (some lock) h).2.standing.Guarded g.refreshLimit :=
  ⟨hs.sound.step (step_onOpen g channel (some lock) h), fun _ ↦
    congrArg Option.isSome (lock_onOpen channel (some lock) h)⟩

theorem guarded_start (limit : Option Nat) (world : W) :
    (start world : Handshake S W).standing.Guarded limit :=
  ⟨sound_start limit world, fun ha ↦ absurd rfl ha⟩

end Handshake

namespace Client

variable {S W : Type} (g : Settings S W)

/-- Whether a move neither opens a socket nor shuts the client down. -/
def Move.isOrdinary : Move W → Bool
  | .opened _ _ | .shutdown => false
  | _ => true

/-- What such a move does to the handshake is ordinary. -/
theorem ordinary_operations (c : Client S W) {m : Move W} (hm : m.isOrdinary = true) :
    ∀ op ∈ operations g c m, op.isOrdinary = true := by
  intro op ho
  cases does_of_mem_operations g c m op ho with
  | opened | saved => cases hm
  | _ => rfl

/-- A guarded client that makes such a move stays guarded. -/
theorem guarded_step {c : Client S W}
    (hs : c.handshake.standing.Guarded g.config.refreshLimit) {m : Move W}
    (hm : m.isOrdinary = true) :
    (step g c m).handshake.standing.Guarded g.config.refreshLimit ∧
      ((step g c m).handshake.lock = c.handshake.lock ∨ (step g c m).handshake.lock = none) := by
  rw [handshake_step]
  exact Handshake.guarded_run (g := g.handshake) hs (ordinary_operations g c hm)

end Client

end SealedSession
