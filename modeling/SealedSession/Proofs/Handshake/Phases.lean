import SealedSession.Proofs.Handshake.Invariant

/-!
# The way to a connection

A server may send any response in any phase, as often as it likes, and between its responses the
client does what it wants. Still, state and phase only change along a few edges, and so a client
that becomes connected has come all the way.

* `Edge`: the transitions of state and phase, and what brings each of them about.
* `Standing.edge_of_step`: every step that changes state or phase follows an edge.
* `Attempt`: what has happened since a client last began to connect.
* `connects_in_order`: both, for every run.
-/

namespace SealedSession

/-- The state of a client, and its phase while it connects. -/
structure Place where
  state : ConnectionState
  phase : Option Phase
deriving DecidableEq, Repr

/-- The place of a client that connects. -/
def Place.connecting (p : Phase) : Place := ⟨.connecting, some p⟩

/-- The transitions of a client with or without a store, by what brings them about. -/
inductive Edge (stored : Bool) : Cause → Place → Place → Prop where
  | opened : Edge stored .opening ⟨.disconnected, none⟩ (.connecting .awaitingIdentity)
  | registered (url token : String) : Edge stored (.hearing (.registerDevice url token))
      (.connecting .awaitingIdentity) (.connecting .awaitingDeviceApproval)
  | identified (profile : Profile) (key secret : Bytes) :
      Edge stored (.hearing (.identify profile key secret))
        (.connecting .awaitingIdentity) (.connecting .awaitingSessionStart)
  | approved (profile : Profile) (device : UInt32) :
      Edge stored (.hearing (.deviceRegistered profile device))
        (.connecting .awaitingDeviceApproval) (.connecting .awaitingPreKeyAck)
  | resent (target : Option ServerIdentity) (p : Phase) (hs : stored = true) :
      Edge stored (.hearing (.resendPreKeys target))
        (.connecting p) (.connecting .awaitingPreKeyAck)
  | exchanged (identity : ServerIdentity) (bundle : Bytes) :
      Edge stored (.hearing (.sendPreKeys identity bundle))
        (.connecting .awaitingPreKeyAck) (.connecting .awaitingSessionStart)
  | started : Edge stored (.hearing .startSession)
      (.connecting .awaitingSessionStart) (.connecting .awaitingTrustDecision)
  | trusted (identity : ServerIdentity) : Edge stored (.hearing (.isTrusted identity))
      (.connecting .awaitingTrustDecision) ⟨.connected, none⟩
  | left (c : Cause) (p : Place) : Edge stored c p ⟨.disconnected, none⟩

/-- Only the trust of the server connects a client. -/
theorem Edge.of_connected {stored : Bool} {c : Cause} {p q : Place} (he : Edge stored c p q)
    (hq : q.state = .connected) :
    ∃ identity, c = .hearing (.isTrusted identity) ∧ p = .connecting .awaitingTrustDecision := by
  cases he with
  | trusted identity => exact ⟨identity, rfl, rfl⟩
  | _ => cases hq

/-- A disconnected client leaves its place only by opening a socket. -/
theorem Edge.from_disconnected {stored : Bool} {c : Cause} {p q : Place} (he : Edge stored c p q)
    (hp : p.state = .disconnected) : c = .opening ∨ q.state = .disconnected := by
  cases he with
  | opened => exact .inl rfl
  | left => exact .inr rfl
  | _ => cases hp

namespace Standing

/-- The place of a standing. -/
def place (s : Standing) : Place := ⟨s.state, s.phase⟩

section

variable {s : Standing}

theorem place_of_phase {p : Phase} (hc : s.state = .connecting) (hp : s.phase = some p) :
    s.place = .connecting p := by
  rw [place, hc, hp, Place.connecting]

theorem place_setPhase (hc : s.state = .connecting) (p : Phase) :
    (s.setPhase p).place = .connecting p := by
  rw [setPhase, if_pos hc, place, hc, Place.connecting]

theorem setPhase_of_ne (hc : s.state ≠ .connecting) (p : Phase) : s.setPhase p = s := by
  rw [setPhase, if_neg hc]

/-- Disconnecting, a client leaves its place, unless it has already. -/
theorem place_changeState_disconnected :
    (s.changeState .disconnected).place = s.place ∨
      (s.changeState .disconnected).place = ⟨.disconnected, none⟩ := by
  unfold changeState
  by_cases hc : s.state = .disconnected
  · rw [if_pos hc, if_pos rfl]
    exact .inl rfl
  · rw [if_neg hc, if_pos rfl]
    exact .inr rfl

theorem left_of_disconnected (c : Cause) : (s.changeState .disconnected).place = s.place ∨
    Edge s.stored c s.place (s.changeState .disconnected).place := by
  rcases place_changeState_disconnected (s := s) with hd | hd
  · exact .inl hd
  · rw [hd]
    exact .inr (.left c _)

variable {limit : Option Nat}

/-- An accepted response leads along its edge. -/
theorem edge_after (h : s.Sound limit) {m : Response}
    (hx : Handshake.expects s.state s.phase m = true) :
    (s.after m).place = s.place ∨ Edge s.stored (.hearing m) s.place (s.after m).place := by
  cases m with
  | identify profile key secret =>
    simp only [Handshake.expects, Bool.or_eq_true, decide_eq_true_eq] at hx
    rcases hx with hp | hp
    · have hc := h.state_of_phase hp
      rw [after, place_setPhase (s := { s with stored := true }) hc, place_of_phase hc hp]
      exact .inr (.identified profile key secret)
    · have hc := h.state_of_phase hp
      rw [after, place_setPhase (s := { s with stored := true }) hc, place_of_phase hc hp]
      exact .inl rfl
  | registerDevice url token =>
    have hp : s.phase = some .awaitingIdentity := by simpa [Handshake.expects] using hx
    have hc := h.state_of_phase hp
    rw [after, place_setPhase hc, place_of_phase hc hp]
    exact .inr (.registered url token)
  | deviceRegistered profile device =>
    have hp : s.phase = some .awaitingDeviceApproval := by simpa [Handshake.expects] using hx
    have hc := h.state_of_phase hp
    rw [after, place_setPhase (s := { s with stored := true }) hc, place_of_phase hc hp]
    exact .inr (.approved profile device)
  | sendPreKeys identity bundle =>
    simp only [Handshake.expects, Bool.or_eq_true, decide_eq_true_eq] at hx
    rcases hx with hp | hc
    · have hc := h.state_of_phase hp
      rw [after, if_pos (h.stored_of_phase (.inl hp)), place_setPhase hc, place_of_phase hc hp]
      exact .inr (.exchanged identity bundle)
    · rw [after, setPhase_of_ne (by simp [hc]), ite_self]
      exact .inl rfl
  | resendPreKeys target =>
    rw [after]
    by_cases hs : s.stored = true
    · rw [if_pos hs]
      by_cases hc : s.state = .connecting
      · obtain ⟨p, hp⟩ := Option.isSome_iff_exists.mp (h.phase_iff.mpr hc)
        rw [place_setPhase hc, place_of_phase hc hp]
        exact .inr (.resent target p hs)
      · rw [setPhase_of_ne hc]
        exact .inl rfl
    · rw [if_neg hs]
      exact .inl rfl
  | startSession =>
    have hp : s.phase = some .awaitingSessionStart := by simpa [Handshake.expects] using hx
    have hc := h.state_of_phase hp
    rw [after, if_pos (h.stored_of_phase (.inr (.inl hp))), place_setPhase hc,
      place_of_phase hc hp]
    exact .inr .started
  | sessionFailed failure => exact left_of_disconnected _
  | isTrusted identity =>
    have hp : s.phase = some .awaitingTrustDecision := by simpa [Handshake.expects] using hx
    have hc := h.state_of_phase hp
    have ha : (s.after (.isTrusted identity)).place = ⟨.connected, none⟩ := by
      simp [after, changeState, enter, place, hc]
    rw [ha, place_of_phase hc hp]
    exact .inr (.trusted identity)
  | isUntrusted => exact left_of_disconnected _
  | keepAlive => exact .inl rfl
  | feature message => exact .inl rfl

/-- The place of an opened client. -/
theorem edge_opened (h : s.Sound limit) (lock : Option HomeLock) (hb : s.bound = false) :
    Edge s.stored .opening s.place
      ({ s with lock := lock, bound := true }.changeState .connecting).place := by
  have hc := h.state_of_unbound hb
  have hp : s.phase = none := by
    cases hv : s.phase with
    | none => rfl
    | some p =>
      have hn := h.state_of_phase hv
      rw [hc] at hn
      cases hn
  have ho : ({ s with lock := lock, bound := true }.changeState .connecting).place =
      .connecting .awaitingIdentity := by
    simp [changeState, enter, place, hc, Place.connecting]
  rw [ho, place, hc, hp]
  exact .opened

/-- Every step that changes the place follows an edge. -/
theorem edge_of_step (h : s.Sound limit) {c : Cause} {s' : Standing} (hs : Step limit c s s') :
    s'.place = s.place ∨ Edge s.stored c s.place s'.place := by
  cases hs with
  | same => exact .inl rfl
  | refused lock hb => exact .inl rfl
  | opened lock hb => exact .inr (edge_opened h lock hb)
  | openedWithStore lock hb => exact .inr (edge_opened h lock hb)
  | heard m _ hx => exact edge_after h.cleared hx
  | cleared => exact .inl rfl
  | failed _ hk =>
    cases hx : Handshake.exceeds (s.failures + 1).toNat limit with
    | some n =>
      rw [failed_of_some hx]
      exact left_of_disconnected (s := { s with failures := s.failures + 1 }) _
    | none =>
      rw [failed_of_none hx]
      exact .inl rfl
  | left => exact left_of_disconnected _
  | released => exact .inl rfl

end

end Standing

namespace Handshake

variable {S W : Type} (g : Settings S W)

/-- The place of the client of a handshake. -/
def place (h : Handshake S W) : Place := ⟨h.state, h.phase⟩

/-- In every run, an operation that changes the place follows an edge. -/
theorem edge_of_run (world : W) (ops : List (Operation W)) (op : Operation W) :
    let h : Handshake S W := run g (start world) ops
    (perform g h op).2.place = h.place ∨
      Edge h.store.isSome (cause g h op) h.place (perform g h op).2.place :=
  Standing.edge_of_step (sound_run g world ops) (step_perform g _ op)

theorem accepted_of_cause {h : Handshake S W} {op : Operation W} {m : Response}
    (hc : cause g h op = .hearing m) : (moment g h op).Accepted g m := by
  cases op with
  | receive bytes =>
    cases hm : heard? g bytes h with
    | some n =>
      rw [cause_of_heard g hm] at hc
      cases hc
      exact ⟨bytes, rfl, hm⟩
    | none =>
      rw [cause_of_not_heard g hm] at hc
      cases hc
  | _ => cases hc

/-! ## What has happened since the client began to connect -/

/-- The last moments of a history are those of one attempt to connect. -/
def Attempt (past during : List (Moment S W)) : Prop :=
  ∃ earlier o, past = earlier ++ o :: during ∧ o.before.state ≠ .connecting ∧
    o.after.state = .connecting ∧ ∀ t ∈ during, t.before.state = .connecting

/-- The server has said who the client is to it. -/
def Introduced (during : List (Moment S W)) : Prop :=
  ∃ t ∈ during, (∃ profile key secret, t.Accepted g (.identify profile key secret)) ∨
    ∃ identity bundle, t.Accepted g (.sendPreKeys identity bundle)

/-- After that, the server has started the session, and did not ask for other prekeys since. -/
def Started (during : List (Moment S W)) : Prop :=
  ∃ before t since, during = before ++ t :: since ∧ Introduced g before ∧
    t.Accepted g .startSession ∧
    ∀ u ∈ since, ∀ target, u.Accepted g (.resendPreKeys target) → u.result ≠ .ok ()

/-- After that, the server has confirmed that it trusts the client, just now. -/
def Trusted (identity : ServerIdentity) (during : List (Moment S W)) : Prop :=
  ∃ before t, during = before ++ [t] ∧ Started g before ∧ t.Accepted g (.isTrusted identity)

/-- What is remembered of an attempt that is still going on. -/
def Remembered (past : List (Moment S W)) (h : Handshake S W) : Prop :=
  h.state = .connecting → ∃ during, Attempt past during ∧
    (h.phase = some .awaitingSessionStart → Introduced g during) ∧
    (h.phase = some .awaitingTrustDecision → Started g during)

variable {g}

theorem Attempt.concat {past during : List (Moment S W)} (h : Attempt past during)
    {t : Moment S W} (ht : t.before.state = .connecting) :
    Attempt (past ++ [t]) (during ++ [t]) := by
  obtain ⟨earlier, o, hp, hb, ha, hd⟩ := h
  refine ⟨earlier, o, by rw [hp, List.append_assoc]; rfl, hb, ha, ?_⟩
  intro u hu
  rcases List.mem_append.mp hu with hu | hu
  · exact hd u hu
  · rw [List.mem_singleton.mp hu]
    exact ht

theorem Introduced.concat {during : List (Moment S W)} (h : Introduced g during)
    (t : Moment S W) : Introduced g (during ++ [t]) := by
  obtain ⟨u, hu, hm⟩ := h
  exact ⟨u, List.mem_append_left _ hu, hm⟩

theorem Started.concat {during : List (Moment S W)} (h : Started g during) {t : Moment S W}
    (ht : ∀ target, t.Accepted g (.resendPreKeys target) → t.result ≠ .ok ()) :
    Started g (during ++ [t]) := by
  obtain ⟨before, u, since, hd, hi, hs, hn⟩ := h
  refine ⟨before, u, since ++ [t], by rw [hd, List.append_assoc]; rfl, hi, hs, ?_⟩
  intro v hv
  rcases List.mem_append.mp hv with hv | hv
  · exact hn v hv
  · rw [List.mem_singleton.mp hv]
    exact ht

variable (g)

/-- A request for other prekeys that is met leads away from the decision. -/
theorem phase_of_resent {h : Handshake S W} {op : Operation W} {target : Option ServerIdentity}
    (hs : h.standing.Sound g.refreshLimit) (hp : h.phase = some .awaitingTrustDecision)
    (ha : (moment g h op).Accepted g (.resendPreKeys target))
    (hr : (moment g h op).result = .ok ()) :
    (moment g h op).after.phase = some .awaitingPreKeyAck := by
  obtain ⟨bytes, rfl, hm⟩ : ∃ bytes, op = .receive bytes ∧
    heard? g bytes h = some (.resendPreKeys target) := ha
  have hc : h.standing.state = .connecting := hs.state_of_phase hp
  have hst : h.standing.stored = true := hs.stored_of_phase (.inr (.inr hp))
  rcases standing_receive_of_heard g hm with hd | ⟨⟨e, he⟩, -⟩
  · have hq := congrArg Standing.phase hd
    simp only [Standing.after, hst, if_true, Standing.setPhase, hc] at hq
    exact hq
  · change (receive g bytes h).1 = .ok () at hr
    rw [hr] at he
    cases he

/-- One operation more is remembered as well. -/
theorem Remembered.step {past : List (Moment S W)} {h : Handshake S W}
    (hs : h.standing.Sound g.refreshLimit) (hr : Remembered g past h) (op : Operation W) :
    Remembered g (past ++ [moment g h op]) (perform g h op).2 := by
  intro hc
  rcases Standing.edge_of_step hs (step_perform g h op) with hp | he
  · -- the client stays where it was
    have hc' : h.state = .connecting := by
      rw [← hc]
      exact (congrArg Place.state hp).symm
    have hp' : (perform g h op).2.phase = h.phase := congrArg Place.phase hp
    obtain ⟨during, ha, hi, ht⟩ := hr hc'
    refine ⟨during ++ [moment g h op], ha.concat hc', ?_, ?_⟩
    · intro hq
      exact (hi (hp' ▸ hq)).concat _
    · intro hq
      apply (ht (hp' ▸ hq)).concat
      intro target hm hok
      have hn : (perform g h op).2.phase = some .awaitingPreKeyAck :=
        phase_of_resent g hs (hp' ▸ hq) hm hok
      rw [hq] at hn
      cases hn
  · obtain ⟨c, hcause⟩ : ∃ c, c = cause g h op := ⟨_, rfl⟩
    obtain ⟨p, hfrom⟩ : ∃ p, p = h.place := ⟨_, rfl⟩
    obtain ⟨q, hto⟩ : ∃ q, q = (perform g h op).2.place := ⟨_, rfl⟩
    change Edge _ (cause g h op) h.place (perform g h op).2.place at he
    rw [← hcause, ← hfrom, ← hto] at he
    have hphase : (perform g h op).2.phase = q.phase := (congrArg Place.phase hto).symm
    have hstate : h.state = p.state := (congrArg Place.state hfrom).symm
    rw [hphase]
    cases he with
    | opened =>
      refine ⟨[], ⟨past, moment g h op, rfl, ?_, hc, by simp⟩, by simp [Place.connecting],
        by simp [Place.connecting]⟩
      change h.state ≠ _
      simp [hstate]
    | identified profile key secret =>
      obtain ⟨during, ha, -, -⟩ := hr hstate
      refine ⟨_, ha.concat hstate, fun _ ↦ ⟨_, List.mem_concat_self, .inl ⟨profile, key, secret,
        accepted_of_cause g hcause.symm⟩⟩, by simp [Place.connecting]⟩
    | exchanged identity bundle =>
      obtain ⟨during, ha, -, -⟩ := hr hstate
      refine ⟨_, ha.concat hstate, fun _ ↦ ⟨_, List.mem_concat_self, .inr ⟨identity, bundle,
        accepted_of_cause g hcause.symm⟩⟩, by simp [Place.connecting]⟩
    | started =>
      obtain ⟨during, ha, hi, -⟩ := hr hstate
      refine ⟨_, ha.concat hstate, by simp [Place.connecting], fun _ ↦ ⟨during, _, [], rfl,
        hi (congrArg Place.phase hfrom).symm, accepted_of_cause g hcause.symm, by simp⟩⟩
    | registered | approved | resent =>
      obtain ⟨during, ha, -, -⟩ := hr hstate
      exact ⟨_, ha.concat hstate, by simp [Place.connecting], by simp [Place.connecting]⟩
    | trusted | left =>
      rw [show (perform g h op).2.state = _ from (congrArg Place.state hto).symm] at hc
      cases hc

theorem remembered_run (world : W) (ops : List (Operation W)) :
    Remembered g (history g (start world) ops) (run g (start world : Handshake S W) ops) :=
  sound_history_induction g world (fun hc ↦ by cases hc) (fun _ _ op hs hr ↦ hr.step g hs op) ops

/-- The identity of a server that trusts the client is kept. -/
theorem serverIdentity_of_trusted {h : Handshake S W} {op : Operation W}
    {identity : ServerIdentity} (hs : h.standing.Sound g.refreshLimit)
    (ha : (moment g h op).Accepted g (.isTrusted identity)) :
    (perform g h op).2.serverIdentity = some identity := by
  obtain ⟨bytes, rfl, hm⟩ : ∃ bytes, op = .receive bytes ∧
    heard? g bytes h = some (.isTrusted identity) := ha
  obtain ⟨-, hx, hr⟩ := receive_of_heard g hm
  have hp : h.phase = some .awaitingTrustDecision := by simpa [expects] using hx
  have hc : h.standing.state = .connecting := hs.state_of_phase hp
  have ht : (receive g bytes h).2.standing =
      { (listening g h).standing with server := some identity }.changeState .connected := by
    rw [hr]
    exact standing_changeState g { listening g h with serverIdentity := some identity } .connected
  rw [standing_listening] at ht
  have hi := congrArg Standing.server ht
  simp only [Standing.changeState, Standing.enter, hc, reduceCtorEq, if_false] at hi
  exact hi

/-- A client that becomes connected has come along all edges, in their order. -/
theorem trusted_of_connected (world : W) (ops : List (Operation W)) (op : Operation W)
    (hb : (run g (start world : Handshake S W) ops).state ≠ .connected)
    (ha : (perform g (run g (start world : Handshake S W) ops) op).2.state = .connected) :
    ∃ during identity, Attempt (history g (start world : Handshake S W) (ops ++ [op])) during ∧
      Trusted g identity during ∧
      (perform g (run g (start world) ops) op).2.serverIdentity = some identity := by
  obtain ⟨h, hh⟩ : ∃ h : Handshake S W, h = run g (start world) ops := ⟨_, rfl⟩
  have hs : h.standing.Sound g.refreshLimit := hh ▸ sound_run g world ops
  have hr : Remembered g (history g (start world) ops) h := hh ▸ remembered_run g world ops
  rw [history_concat]
  rw [← hh] at hb ha ⊢
  rcases Standing.edge_of_step hs (step_perform g h op) with hp | he
  · exact absurd ((congrArg Place.state hp).symm.trans ha) hb
  · obtain ⟨identity, hc, hp⟩ := he.of_connected ha
    obtain ⟨during, hd, -, ht⟩ := hr (congrArg Place.state hp)
    have hm : (moment g h op).Accepted g (.isTrusted identity) := accepted_of_cause g hc
    exact ⟨during ++ [moment g h op], identity, hd.concat (congrArg Place.state hp),
      ⟨during, _, rfl, ht (congrArg Place.phase hp), hm⟩, serverIdentity_of_trusted g hs hm⟩

/-- In every run, state and phase change along the edges only. Hence, whenever a client becomes
connected, it has since it last began to connect accepted who it is, then the start of the session
and then the trust of the server, whose identity it keeps; and between the last two, no request for
other prekeys was met. -/
theorem connects_in_order (world : W) (ops : List (Operation W)) (op : Operation W) :
    let h : Handshake S W := run g (start world) ops
    let h' : Handshake S W := (perform g h op).2
    (h'.place ≠ h.place → Edge h.store.isSome (cause g h op) h.place h'.place) ∧
    (h.state ≠ .connected → h'.state = .connected →
      ∃ during identity, Attempt (history g (start world) (ops ++ [op])) during ∧
        Trusted g identity during ∧ h'.serverIdentity = some identity) := by
  intro h h'
  refine ⟨?_, trusted_of_connected g world ops op⟩
  intro hn
  exact (edge_of_run g world ops op).resolve_left hn

end Handshake

end SealedSession
