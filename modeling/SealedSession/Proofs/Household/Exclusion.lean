import SealedSession.Proofs.Household.Run

/-!
# One client at a time

The lock on a home travels from a call to connect to the handshake of its client, and it is released
on several ways: with a call that fails or is abandoned, and with a connection that ends. Still it
never has two holders. As an active client holds a lock, the clients of a household take turns.

* `Household.Exclusive`: active clients hold a lock, and whoever holds one is the only one.
* `Exclusive.of_shrunk`: this stays so when locks are released; `exclusive_step`: and whatever
  happens.
* `one_at_a_time`: what follows for every run.
-/

namespace SealedSession

namespace Client

/-- A call that is over holds no lock. -/
theorem Stage.lock?_of_isOver {stage : Stage} (h : stage.isOver = true) : stage.lock? = none := by
  cases stage with
  | answered | abandoned => rfl
  | _ => cases h

variable {S W : Type} {g : Settings S W}

/-- Any other step of a call than the one that begins the handshake treats the handshake as ordinary
operations do. -/
theorem operations_advance (net : Network) (stage : Stage) (c : Client S W)
    (hs : ∀ lock connection, stage ≠ .starting lock connection) :
    ∃ ops : List (Operation W), (∀ op ∈ ops, op.isOrdinary = true) ∧
      (advance g net stage c).2.handshake = Handshake.run g.handshake c.handshake ops := by
  cases stage with
  | locking | answered | abandoned => exact ⟨[], List.forall_mem_nil _, rfl⟩
  | discovering lock =>
    refine ⟨[], List.forall_mem_nil _, ?_⟩
    simp only [advance]
    split <;> rfl
  | checking lock document =>
    refine ⟨[], List.forall_mem_nil _, ?_⟩
    simp only [advance]
    split <;> rfl
  | opening lock url =>
    refine ⟨[], List.forall_mem_nil _, ?_⟩
    simp only [advance]
    split <;> rfl
  | starting lock connection => exact absurd rfl (hs lock connection)
  | settling connection channel result =>
    cases result with
    | ok _ =>
      refine ⟨[.takeEvents], by simp [Operation.isOrdinary], ?_⟩
      exact handshake_drain g _
    | error e =>
      refine ⟨[.disconnect, .takeEvents, .dropReceiving channel],
        by simp [Operation.isOrdinary], ?_⟩
      simp only [advance, disconnect, act]
      rw [handshake_drain]
      rfl

/-- In no such step does a call get hold of a lock. -/
theorem lock_advance (net : Network) (stage : Stage) (c : Client S W)
    (hs : ∀ lock connection, stage ≠ .starting lock connection) :
    (advance g net stage c).1.lock? = stage.lock? ∨ (advance g net stage c).1.lock? = none := by
  cases stage with
  | locking | answered | abandoned => exact .inl rfl
  | discovering lock =>
    simp only [advance]
    split
    · exact .inl rfl
    · exact .inr rfl
  | checking lock document =>
    simp only [advance]
    split
    · exact .inl rfl
    · exact .inr rfl
  | opening lock url =>
    simp only [advance]
    split
    · exact .inl rfl
    · exact .inr rfl
  | starting lock connection => exact absurd rfl (hs lock connection)
  | settling connection channel result => cases result <;> exact .inl rfl

end Client

namespace Household

variable {S W : Type} {g : Settings S W}

/-- The fields of every client agree, and it holds a lock if it is active. -/
def Guarded (g : Settings S W) (h : Household S W) : Prop :=
  ∀ (i : Nat) (c : Client S W), h.clients[i]? = some c →
    c.handshake.standing.Guarded (g.clients i).config.refreshLimit

/-- Active clients hold a lock, and whoever holds a lock is the only one who does. -/
structure Exclusive (g : Settings S W) (h : Household S W) : Prop where
  guarded : Guarded g h
  owner : ∃ owner, ∀ a l, h.holds a = some l → a = owner ∧ l.path = g.path

/-- Nobody got hold of a lock. -/
def Shrunk (h h' : Household S W) : Prop :=
  ∀ a, h'.holds a = h.holds a ∨ h'.holds a = none

/-- The clients of a household after one of them has changed. -/
theorem guarded_putClient {h : Household S W} (hx : Exclusive g h) {i : Nat} {c : Client S W}
    (hc : c.handshake.standing.Guarded (g.clients i).config.refreshLimit) :
    Guarded g (h.putClient i c) := by
  intro j d hd
  rw [putClient, List.getElem?_set] at hd
  split at hd
  · next hj =>
    subst hj
    split at hd
    · cases hd
      exact hc
    · cases hd
  · exact hx.guarded j d hd

/-- A household in which nobody got hold of a lock stays exclusive. -/
theorem Exclusive.of_shrunk {h h' : Household S W} (hx : Exclusive g h) (hs : Shrunk h h')
    (guarded : Guarded g h') : Exclusive g h' := by
  obtain ⟨owner, ho⟩ := hx.owner
  refine ⟨guarded, owner, fun a l ha ↦ ?_⟩
  rcases hs a with same | none
  · exact ho a l (same ▸ ha)
  · rw [none] at ha
    cases ha

section Put

variable {h : Household S W} {n i : Nat} {call : Call} {c : Client S W}

theorem holds_putClient (hi : h.clients[i]? = some c) (d : Client S W) (a : Holder) :
    (h.putClient i d).holds a = if a = .client i then d.handshake.lock else h.holds a := by
  obtain ⟨hl, -⟩ := List.getElem?_eq_some_iff.mp hi
  cases a with
  | client j =>
    by_cases hj : i = j
    · subst hj
      simp [putClient, holds, hl]
    · simp [putClient, holds, hj, Ne.symm hj]
  | call m => rfl

theorem holds_putCall (hn : h.calls[n]? = some call) (call' : Call) (a : Holder) :
    (h.putCall n call').holds a = if a = .call n then call'.stage.lock? else h.holds a := by
  obtain ⟨hl, -⟩ := List.getElem?_eq_some_iff.mp hn
  cases a with
  | client j => rfl
  | call m =>
    by_cases hm : n = m
    · subst hm
      simp [putCall, holds, hl]
    · simp [putCall, holds, hm, Ne.symm hm]

/-- A step of a call concerns the call and its client alone. -/
theorem holds_put (hn : h.calls[n]? = some call) (hi : h.clients[i]? = some c)
    (x : Client.Stage × Client S W) (a : Holder) :
    (h.put n i x).holds a = if a = .call n then x.1.lock?
      else if a = .client i then x.2.handshake.lock else h.holds a := by
  have hn' : (h.putClient i x.2).calls[n]? = some call := hn
  rw [put, holds_putCall hn', holds_putClient hi]

/-- A client that kept its lock or released it got hold of none. -/
theorem shrunk_putClient (hi : h.clients[i]? = some c) {d : Client S W}
    (hl : d.handshake.lock = c.handshake.lock ∨ d.handshake.lock = none) :
    Shrunk h (h.putClient i d) := by
  intro a
  rw [holds_putClient hi]
  split
  · next ha =>
    subst ha
    rw [holds, hi]
    exact hl
  · exact .inl rfl

theorem shrunk_putCall (hn : h.calls[n]? = some call) {call' : Call}
    (hl : call'.stage.lock? = call.stage.lock? ∨ call'.stage.lock? = none) :
    Shrunk h (h.putCall n call') := by
  intro a
  rw [holds_putCall hn]
  split
  · next ha =>
    subst ha
    rw [holds, hn]
    exact hl
  · exact .inl rfl

/-- A step of a call keeps the household exclusive unless it brings a lock. -/
theorem Exclusive.put (hx : Exclusive g h) (hn : h.calls[n]? = some call)
    (hi : h.clients[i]? = some c) {x : Client.Stage × Client S W}
    (guarded : x.2.handshake.standing.Guarded (g.clients i).config.refreshLimit)
    (client : x.2.handshake.lock = c.handshake.lock ∨ x.2.handshake.lock = none)
    (held : x.1.lock? = call.stage.lock? ∨ x.1.lock? = none) : Exclusive g (h.put n i x) := by
  have changed := hx.of_shrunk (shrunk_putClient hi client) (guarded_putClient hx guarded)
  exact changed.of_shrunk (shrunk_putCall (h := h.putClient i x.2) hn held) changed.guarded

end Put

/-! ## Taking the lock -/

/-- A lock that was taken is on the home, and nobody had taken one. -/
theorem of_acquire {live : List HomeLock} {t : FileTree} {process : Nat} {home : String}
    {l : HomeLock} (h : (HomeLock.acquire live t process home).1 = .ok l) :
    l = ⟨home⟩ ∧ HomeLock.isTaken live ⟨home⟩ = false := by
  unfold HomeLock.acquire at h
  dsimp only at h
  split at h
  · cases h
  · split at h
    · cases h
    · split at h
      · cases h
      · split at h
        · cases h
        · next hf =>
          cases h
          exact ⟨rfl, Bool.eq_false_iff.mpr hf⟩

/-- When a home can be locked, nobody holds a lock on it. -/
theorem unheld_of_free {h : Household S W} (hx : Exclusive g h) {i : Nat}
    (hf : HomeLock.isTaken h.live ⟨(g.clients i).config.home⟩ = false) (a : Holder) :
    h.holds a = none := by
  cases ha : h.holds a with
  | none => rfl
  | some l =>
    obtain ⟨owner, ho⟩ := hx.owner
    obtain ⟨-, hp⟩ := ho a l ha
    have taken : HomeLock.isTaken h.live ⟨(g.clients i).config.home⟩ = true :=
      List.any_eq_true.mpr ⟨l, mem_live ha, by simp [hp, g.shared i]⟩
    rw [hf] at taken
    cases taken

section Moves

variable {h : Household S W} {n i : Nat} {c : Client S W}

/-- A call that is to lock the home does so only if nobody else has. -/
theorem exclusive_lock (hx : Exclusive g h) (hn : h.calls[n]? = some ⟨i, .locking⟩)
    (hi : h.clients[i]? = some c) (fault : Option String) :
    Exclusive g (h.put n i (Client.lockHome (attempt g h i fault).1 .locking c)) := by
  have guarded := hx.guarded i c hi
  cases hr : (attempt g h i fault).1 with
  | error e => exact hx.put hn hi guarded (.inl rfl) (.inl rfl)
  | ok lock =>
    obtain ⟨rfl, free⟩ : lock = ⟨(g.clients i).config.home⟩ ∧
        HomeLock.isTaken h.live ⟨(g.clients i).config.home⟩ = false := by
      cases fault with
      | some system => cases hr
      | none => exact of_acquire hr
    have unheld := unheld_of_free hx free
    refine ⟨guarded_putClient hx guarded, .call n, fun a l ha ↦ ?_⟩
    rw [holds_put hn hi] at ha
    split at ha
    · next owner =>
      cases ha
      exact ⟨owner, g.shared i⟩
    · split at ha
      · next client =>
        subst client
        have locked := unheld (.client i)
        rw [holds, hi] at locked
        cases locked.symm.trans ha
      · rw [unheld a] at ha
        cases ha

/-- The handshake takes over the lock of a call. -/
theorem exclusive_starting (hx : Exclusive g h) {lock : HomeLock} {connection : ConnectionId}
    (hn : h.calls[n]? = some ⟨i, .starting lock connection⟩) (hi : h.clients[i]? = some c)
    (net : Network) :
    Exclusive g (h.put n i (Client.advance (g.clients i) net (.starting lock connection) c)) := by
  obtain ⟨owner, ho⟩ := hx.owner
  have held : h.holds (.call n) = some lock := by
    rw [holds, hn]
    rfl
  obtain ⟨rfl, path⟩ := ho _ _ held
  have taken : (Client.advance (g.clients i) net (.starting lock connection) c).2.handshake.lock =
      some lock := Handshake.lock_onOpen _ _ _
  have guarded : (Client.advance (g.clients i) net
      (.starting lock connection) c).2.handshake.standing.Guarded
        (g.clients i).config.refreshLimit :=
    Handshake.guarded_onOpen (g := (g.clients i).handshake)
      (h := c.handshake.withOutbound c.handshake.outbound.create.1) (hx.guarded i c hi) _ lock
  refine ⟨guarded_putClient hx guarded, .client i, fun a l ha ↦ ?_⟩
  rw [holds_put hn hi] at ha
  split at ha
  · cases ha
  · next other =>
    split at ha
    · next client =>
      rw [taken] at ha
      cases ha
      exact ⟨client, path⟩
    · exact absurd (ho a l ha).1 other

theorem exclusive_advance (hx : Exclusive g h) {stage : Client.Stage}
    (hn : h.calls[n]? = some ⟨i, stage⟩) (hi : h.clients[i]? = some c) (net : Network) :
    Exclusive g (h.put n i (Client.advance (g.clients i) net stage c)) := by
  by_cases hs : ∃ lock connection, stage = .starting lock connection
  · obtain ⟨lock, connection, rfl⟩ := hs
    exact exclusive_starting hx hn hi net
  · have other : ∀ lock connection, stage ≠ .starting lock connection :=
      fun lock connection he ↦ hs ⟨lock, connection, he⟩
    obtain ⟨ops, ordinary, hr⟩ := Client.operations_advance (g := g.clients i) net stage c other
    obtain ⟨guarded, kept⟩ :=
      Handshake.guarded_run (g := (g.clients i).handshake) (hx.guarded i c hi) ordinary
    exact hx.put hn hi (hr ▸ guarded) (hr ▸ kept) (Client.lock_advance net stage c other)

/-- A new call holds no lock. -/
theorem shrunk_connect (call : Call) (hl : call.stage.lock? = none) :
    Shrunk h { h with calls := h.calls ++ [call] } := by
  intro a
  cases a with
  | client j => exact .inl rfl
  | call m =>
    rcases Nat.lt_trichotomy m h.calls.length with hm | rfl | hm
    · exact .inl (by simp [holds, List.getElem?_append_left hm])
    · exact .inr (by simp [holds, hl])
    · refine .inr ?_
      have none : (h.calls ++ [call])[m]? = none :=
        List.getElem?_eq_none (by rw [List.length_append]; exact hm)
      simp [holds, none]

/-- Whatever happens, a household stays exclusive. -/
theorem exclusive_step (hx : Exclusive g h) (m : Move W) : Exclusive g (step g h m) := by
  cases m with
  | connect i =>
    simp only [step]
    split
    · next c hi =>
      refine hx.of_shrunk (shrunk_connect _ ?_) hx.guarded
      unfold Client.begin
      split <;> rfl
    · exact hx
  | lock n fault =>
    simp only [step]
    split
    · next i hn =>
      split
      · next c hi =>
        have locked := exclusive_lock hx hn hi fault
        exact ⟨locked.guarded, locked.owner⟩
      · exact hx
    · exact hx
  | advance n net =>
    simp only [step]
    split
    · next i stage hn =>
      split
      · next c hi => exact exclusive_advance hx hn hi net
      · exact hx
    · exact hx
  | abandon n =>
    simp only [step]
    split
    · next i stage hn =>
      split
      · exact hx
      · exact hx.of_shrunk (shrunk_putCall hn (.inr rfl)) hx.guarded
    · exact hx
  | act i m ordinary =>
    simp only [step]
    split
    · next c hi =>
      obtain ⟨guarded, kept⟩ := Client.guarded_step (g.clients i) (hx.guarded i c hi) ordinary
      exact hx.of_shrunk (shrunk_putClient hi kept) (guarded_putClient hx guarded)
    · exact hx
  | operate i op ordinary =>
    simp only [step]
    split
    · next c hi =>
      obtain ⟨guarded, kept⟩ :=
        Handshake.guarded_perform (g := (g.clients i).handshake) (hx.guarded i c hi) ordinary
      exact hx.of_shrunk (shrunk_putClient hi kept) (guarded_putClient hx guarded)
    · exact hx

end Moves

/-- Clients that were never connected hold no lock. -/
theorem exclusive_start (worlds : List W) (tree : FileTree) :
    Exclusive g (start g worlds tree) := by
  have begun {i : Nat} {c : Client S W} (hc : (start g worlds tree).clients[i]? = some c) :
      ∃ w, c = Client.start (g.clients i) w := by
    simp only [start, List.getElem?_mapIdx, Option.map_eq_some_iff] at hc
    obtain ⟨w, -, rfl⟩ := hc
    exact ⟨w, rfl⟩
  refine ⟨fun i c hc ↦ ?_, .client 0, fun a l ha ↦ ?_⟩
  · obtain ⟨w, rfl⟩ := begun hc
    exact Handshake.guarded_start _ w
  · cases a with
    | client i =>
      obtain ⟨c, hc, hl⟩ := Option.bind_eq_some_iff.mp ha
      obtain ⟨w, rfl⟩ := begun hc
      cases hl
    | call n => cases ha

theorem exclusive_run (worlds : List W) (tree : FileTree) (moves : List (Move W)) :
    Exclusive g (run g (start g worlds tree) moves) := by
  suffices kept : ∀ h : Household S W, Exclusive g h → Exclusive g (run g h moves) from
    kept _ (exclusive_start worlds tree)
  induction moves with
  | nil => exact fun h hx ↦ hx
  | cons m moves ih => exact fun h hx ↦ ih _ (exclusive_step hx m)

/-! ## What follows -/

section Consequences

variable {h : Household S W}

/-- An active client is the only one who holds a lock. -/
theorem Exclusive.of_active (hx : Exclusive g h) {i : Nat} {c : Client S W}
    (hc : h.clients[i]? = some c) (ha : c.handshake.state ≠ .disconnected) :
    ∃ l, c.handshake.lock = some l ∧ l.path = g.path ∧
      ∀ a, (h.holds a).isSome → a = .client i := by
  obtain ⟨owner, ho⟩ := hx.owner
  obtain ⟨l, hl⟩ := Option.isSome_iff_exists.mp ((hx.guarded i c hc).held ha)
  have held : h.holds (.client i) = some l := by
    rw [holds, hc]
    exact hl
  obtain ⟨rfl, path⟩ := ho _ l held
  refine ⟨l, hl, path, fun a hs ↦ ?_⟩
  obtain ⟨m, hm⟩ := Option.isSome_iff_exists.mp hs
  exact (ho a m hm).1

/-- When no client is active and no call in progress, nobody holds a lock. -/
theorem Exclusive.live_eq_nil (hx : Exclusive g h)
    (idle : ∀ c ∈ h.clients, c.handshake.state = .disconnected)
    (ended : ∀ call ∈ h.calls, call.stage.isOver = true) : h.live = [] := by
  refine List.eq_nil_iff_forall_not_mem.mpr fun l hl ↦ ?_
  obtain ⟨a, ha⟩ := exists_holder hl
  cases a with
  | client i =>
    obtain ⟨c, hc, hl⟩ := Option.bind_eq_some_iff.mp ha
    exact (hx.guarded i c hc).sound.lock (Option.isSome_of_eq_some hl)
      (idle c (List.mem_of_getElem? hc))
  | call n =>
    obtain ⟨call, hn, hl⟩ := Option.bind_eq_some_iff.mp ha
    rw [Client.Stage.lock?_of_isOver (ended call (List.mem_of_getElem? hn))] at hl
    cases hl

/-- A lock that nobody holds is not refused as being held. -/
theorem acquire_ne_locked (t : FileTree) (process : Nat) (home home' : String) :
    (HomeLock.acquire [] t process home).1 ≠ .error (.directoryLocked home') := by
  unfold HomeLock.acquire
  dsimp only
  split
  · nofun
  · split
    · nofun
    · split
      · nofun
      · split
        · next ht => cases ht
        · nofun

theorem attempt_ne_locked (free : h.live = []) (i : Nat) (fault : Option String) (home : String) :
    (attempt g h i fault).1 ≠ .error (.directoryLocked home) := by
  unfold attempt
  cases fault with
  | some system => nofun
  | none =>
    rw [free]
    exact acquire_ne_locked _ _ _ _

/-- A call to a disconnected client begins. -/
theorem step_connect {i : Nat} {c : Client S W} (hc : h.clients[i]? = some c)
    (hd : c.handshake.state = .disconnected) :
    step g h (.connect i) = { h with calls := h.calls ++ [⟨i, .locking⟩] } := by
  have begun : Client.begin c = .locking := if_neg (not_not_intro hd)
  simp only [step, hc, begun]

theorem calls_lock {n i : Nat} {c : Client S W} (hn : h.calls[n]? = some ⟨i, .locking⟩)
    (hi : h.clients[i]? = some c) (fault : Option String) :
    (step g h (.lock n fault)).calls[n]? =
      some ⟨i, (Client.lockHome (attempt g h i fault).1 .locking c).1⟩ := by
  obtain ⟨short, -⟩ := List.getElem?_eq_some_iff.mp hn
  simp only [step, hn, hi]
  exact List.getElem?_set_self short

/-- While nobody holds a lock, a call to a disconnected client is not refused for that. -/
theorem unrefused_of_free (free : h.live = []) {i : Nat} {c : Client S W}
    (hc : h.clients[i]? = some c) (hd : c.handshake.state = .disconnected)
    (fault : Option String) (home : String) :
    (run g h [.connect i, .lock h.calls.length fault]).calls[h.calls.length]? ≠
      some ⟨i, .answered (.error (.directoryLocked home))⟩ := by
  change (step g (step g h (.connect i)) (.lock h.calls.length fault)).calls[h.calls.length]? ≠ _
  obtain ⟨k, hk⟩ : ∃ k : Household S W, k = { h with calls := h.calls ++ [⟨i, .locking⟩] } :=
    ⟨_, rfl⟩
  have waiting : k.calls[h.calls.length]? = some ⟨i, .locking⟩ := by
    rw [hk]
    exact List.getElem?_concat_length
  have client : k.clients[i]? = some c := by
    rw [hk]
    exact hc
  have alive : k.live = [] := by
    rw [hk, ← free]
    simp [live, Client.Stage.lock?]
  rw [step_connect hc hd, ← hk, calls_lock waiting client]
  cases hr : (attempt g k i fault).1 with
  | ok lock => simp [Client.lockHome]
  | error e =>
    intro he
    simp only [Client.lockHome, Option.some.injEq, Call.mk.injEq, true_and,
      Client.Stage.answered.injEq, Except.error.injEq] at he
    exact attempt_ne_locked alive i fault home (hr.trans (congrArg Except.error he))

end Consequences

/-- However the steps of all clients and of all calls to connect interleave, at most one client is
active at a time. It holds the lock on the home, and nobody else holds one. When no client is active
and no call in progress, the lock is free, and a call that comes next is not refused because of
it. -/
theorem one_at_a_time (worlds : List W) (tree : FileTree) (moves : List (Move W)) :
    let h := run g (start g worlds tree) moves
    (∀ (i j : Nat) (c d : Client S W), h.clients[i]? = some c → h.clients[j]? = some d →
      c.handshake.state ≠ .disconnected → d.handshake.state ≠ .disconnected → i = j) ∧
    (∀ (i : Nat) (c : Client S W), h.clients[i]? = some c → c.handshake.state ≠ .disconnected →
      ∃ l, c.handshake.lock = some l ∧ l.path = g.path ∧
        ∀ a, (h.holds a).isSome → a = .client i) ∧
    ((∀ c ∈ h.clients, c.handshake.state = .disconnected) →
      (∀ call ∈ h.calls, call.stage.isOver = true) →
        h.live = [] ∧ ∀ (i : Nat) (c : Client S W) fault home, h.clients[i]? = some c →
          (run g h [.connect i, .lock h.calls.length fault]).calls[h.calls.length]? ≠
            some ⟨i, .answered (.error (.directoryLocked home))⟩) := by
  intro h
  have hx : Exclusive g h := exclusive_run worlds tree moves
  refine ⟨?alone, fun i c hc ha ↦ hx.of_active hc ha, ?free⟩
  case alone =>
    intro i j c d hc hd ha hb
    obtain ⟨-, -, -, only⟩ := hx.of_active hc ha
    obtain ⟨l, hl, -, -⟩ := hx.of_active hd hb
    have held : (h.holds (.client j)).isSome := by
      rw [holds, hd]
      exact Option.isSome_of_eq_some hl
    cases only _ held
    rfl
  case free =>
    intro idle ended
    have free := hx.live_eq_nil idle ended
    exact ⟨free, fun i c fault home hc ↦
      unrefused_of_free free hc (idle c (List.mem_of_getElem? hc)) fault home⟩

end Household

end SealedSession
