import SealedSession.IdentityStore.Scripted
import SealedSession.Proofs.Handshake.Phases
import SealedSession.Proofs.Handshake.Posting

/-!
# Starting the session and asking for trust

A client asks for the trust of the server when it is told that the session has started. It does not
remember whether it has asked for that: the phase in which the answer is accepted begins as soon as
the client is known, while the proof that a verified session waits for is still being made. So the
order of its own requests is that of the responses of the server.

* `Asked`: the client has sent the request to start the session on the connection that goes on.
* `posted_of_startSession`: what succeeds in starting the session has sent that request.
* `reached_run`: a client that has got beyond the start of the session had asked for it, if its
  server answers only what it was asked.
* `trust_follows_start`: all of that for every run.
* `trusted_unasked`: a server that does not, and a client that becomes connected nevertheless.
-/

namespace SealedSession

namespace Handshake

variable {S W : Type} (g : Settings S W)

/-! ## Requests that were sent for certain -/

/-- A request was queued on the way from one state to another, in the envelope of the latter. -/
def Posted (r : Request) (h h' : Handshake S W) : Prop :=
  ∃ bytes w, envelope g r (h'.inWorld w) = .ok bytes ∧ (h.outbound.send bytes).2 = .ok () ∧
    h'.outbound = (h.outbound.send bytes).1

section

variable {g} {r : Request} {h h' k : Handshake S W}

theorem Posted.from_outbound (hp : Posted g r k h') (ho : k.outbound = h.outbound) :
    Posted g r h h' := by
  obtain ⟨bytes, w, he, hs, hk⟩ := hp
  exact ⟨bytes, w, he, ho ▸ hs, ho ▸ hk⟩

theorem Posted.emit (hp : Posted g r h h') (e : Event) : Posted g r h (h'.emit e) := by
  obtain ⟨bytes, w, he, hs, ho⟩ := hp
  refine ⟨bytes, w, ?_, hs, ho⟩
  rw [← he]
  refine envelope_congr g ?_ ?_ ?_ ?_ r <;> rfl

/-- A request that is due and was queued is sent at the moment of its operation. -/
theorem Posted.sends {op : Operation W} (hp : Posted g r h (perform g h op).2)
    (hd : Due g h op r) : ∃ n, (moment g h op).Sends g n r := by
  obtain ⟨bytes, w, he, hs, ho⟩ := hp
  obtain ⟨n, -, -, hq⟩ := Outbound.send_ok hs
  refine ⟨n, hd, bytes, w, ?_, he⟩
  change ((perform g h op).2.outbound.queued n).drop (h.outbound.queued n).length = _
  rw [ho, hq, if_pos rfl, List.drop_left]

/-- Before a client is connected, sending a request succeeds only if it is queued. -/
theorem posted_of_sendRequest (hc : h.state ≠ .connected)
    (hr : (sendRequest g r h).1 = .ok ()) : Posted g r h (sendRequest g r h).2 := by
  obtain ⟨w, ⟨bytes, he, hs, hq⟩ | ⟨hc', -⟩ | ⟨e, hq⟩⟩ := sendRequest_cases g r h
  · refine ⟨bytes, h.world, ?_, hs, by rw [hq]⟩
    rw [hq, ← he]
    refine envelope_congr g ?_ ?_ ?_ ?_ r <;> rfl
  · exact absurd hc' hc
  · rw [hq] at hr
    cases hr

/-- What succeeds in starting the session has sent the request to start it, with the proof that it
was given. -/
theorem posted_of_startSession {serverId : Option String}
    (hr : (startSession g serverId h).1 = .ok ()) :
    h.state = .connecting ∧
      ∃ i, Posted g (.startSession i g.session serverId) h (startSession g serverId h).2 := by
  by_cases hc : h.state = .connecting
  · cases hs : h.store with
    | none =>
      rw [startSession_of_none g serverId hc hs] at hr
      cases hr
    | some s =>
      refine ⟨hc, (g.stores.identity s h.world).1, ?_⟩
      rw [startSession_of_some g serverId hc hs] at hr ⊢
      have hn : (h.inWorld (g.stores.identity s h.world).2).state ≠ .connected := by
        change h.state ≠ .connected
        rw [hc]
        decide
      have hp := posted_of_sendRequest (g := g)
        (r := .startSession (g.stores.identity s h.world).1 g.session serverId) hn
      revert hp hr
      -- the request was sent, and then it is announced
      rcases sendRequest g _ _ with ⟨_ | _, k⟩
      · intro hr
        cases hr
      · exact fun _ hp ↦ ((hp rfl).from_outbound rfl).emit _
  · rw [startSession_of_ne g serverId hc] at hr
    cases hr

end

theorem sends_of_startSession {h : Handshake S W} {serverId : Option String}
    (hr : (moment g h (.startSession serverId)).result = .ok ()) :
    ∃ n i, (moment g h (.startSession serverId)).Sends g n (.startSession i g.session serverId) := by
  obtain ⟨hc, i, hp⟩ := posted_of_startSession hr
  have hd : Due g h (.startSession serverId) (.startSession i g.session serverId) :=
    .started serverId i hc
  obtain ⟨n, hn⟩ := hp.sends hd
  exact ⟨n, i, hn⟩

/-- A client whose account needs no proof starts the session as soon as it is known. -/
theorem sends_of_identify {h : Handshake S W} {op : Operation W} {profile : Profile}
    {key secret : Bytes} (ha : (moment g h op).Accepted g (.identify profile key secret))
    (hm : g.session.mode ≠ .verified) (hr : (moment g h op).result = .ok ()) :
    ∃ n i, (moment g h op).Sends g n (.startSession i g.session none) := by
  obtain ⟨bytes, rfl, hb⟩ : ∃ bytes, op = .receive bytes ∧
    heard? g bytes h = some (.identify profile key secret) := ha
  obtain ⟨-, -, hq⟩ := receive_of_heard g hb
  have ho : (listening g h).outbound = h.outbound := by
    obtain ⟨w, hw⟩ := snd_cipher? g h
    rw [listening, hw]
    rfl
  change (receive g bytes h).1 = .ok () at hr
  have hp : ∃ i, Posted g (.startSession i g.session none) h (receive g bytes h).2 := by
    rw [hq, handle] at hr ⊢
    rcases onIdentify_cases g profile key secret (listening g h) with ⟨-, e, w, he⟩ | ⟨s, w, -, he⟩
    · rw [he] at hr
      cases hr
    · rw [he, welcome, if_neg hm] at hr ⊢
      obtain ⟨-, i, hp⟩ := posted_of_startSession hr
      refine ⟨i, hp.from_outbound ?_⟩
      rw [outbound_setPhase]
      exact ho
  obtain ⟨i, hp⟩ := hp
  have hd : Due g h (.receive bytes) (.startSession i g.session none) :=
    .answer bytes hb (.identified profile key secret i hm)
  obtain ⟨n, hn⟩ := hp.sends hd
  exact ⟨n, i, hn⟩

/-! ## What a client has asked for -/

/-- The client has asked to start the session, through the channel to which it is bound ever
since. -/
def Asked (past : List (Moment S W)) (n : Nat) : Prop :=
  ∃ before t since i serverId, past = before ++ t :: since ∧
    t.Sends g n (.startSession i g.session serverId) ∧
    ∀ u ∈ t :: since, u.after.outbound.bound = some n

/-- If the start of the session was accepted at a moment, the client had asked for it. -/
def Solicited (past : List (Moment S W)) (t : Moment S W) : Prop :=
  t.Accepted g .startSession → ∃ n, t.before.outbound.bound = some n ∧ Asked g past n

/-- A client has got beyond the start of the session. -/
def IsBeyond (h : Handshake S W) : Prop :=
  h.phase = some .awaitingTrustDecision ∨ h.state = .connected

variable {g}

theorem Asked.concat {past : List (Moment S W)} {n : Nat} (ha : Asked g past n) {t : Moment S W}
    (ht : t.after.outbound.bound = some n) : Asked g (past ++ [t]) n := by
  obtain ⟨before, u, since, i, serverId, rfl, hs, hb⟩ := ha
  refine ⟨before, u, since ++ [t], i, serverId, by simp, hs, ?_⟩
  intro v hv
  rw [← List.cons_append, List.mem_append, List.mem_singleton] at hv
  obtain hv | rfl := hv
  · exact hb v hv
  · exact ht

/-- A client that is beyond the start after an operation was so before, or has just been told. -/
theorem beyond_step {h : Handshake S W} {op : Operation W}
    (hs : h.standing.Sound g.refreshLimit) (hb : (perform g h op).2.IsBeyond) :
    h.IsBeyond ∨ (moment g h op).Accepted g .startSession := by
  rcases Standing.edge_of_step hs (step_perform g h op) with hp | he
  · refine .inl ?_
    rw [IsBeyond, show h.phase = _ from (congrArg Place.phase hp).symm,
      show h.state = _ from (congrArg Place.state hp).symm]
    exact hb
  · obtain ⟨c, hcause⟩ : ∃ c, c = cause g h op := ⟨_, rfl⟩
    obtain ⟨p, hfrom⟩ : ∃ p, p = h.place := ⟨_, rfl⟩
    obtain ⟨q, hto⟩ : ∃ q, q = (perform g h op).2.place := ⟨_, rfl⟩
    change Edge _ (cause g h op) h.place (perform g h op).2.place at he
    rw [← hcause, ← hfrom, ← hto] at he
    have hb' : q.phase = some .awaitingTrustDecision ∨ q.state = .connected := hto ▸ hb
    cases he with
    | started => exact .inr (accepted_of_cause g hcause.symm)
    | trusted identity => exact .inl (.inl (congrArg Place.phase hfrom).symm)
    | _ => rcases hb' with hb' | hb' <;> cases hb'

/-- Whoever accepts that the session has started is beyond that, whether or not it gets to ask for
trust. -/
theorem beyond_of_started {h : Handshake S W} {op : Operation W}
    (hs : h.standing.Sound g.refreshLimit) (ha : (moment g h op).Accepted g .startSession) :
    (perform g h op).2.IsBeyond := by
  obtain ⟨bytes, rfl, hm⟩ : ∃ bytes, op = .receive bytes ∧ heard? g bytes h = some .startSession := ha
  obtain ⟨-, hx, hq⟩ := receive_of_heard g hm
  have hp : h.phase = some .awaitingSessionStart := by simpa [expects] using hx
  have hl := standing_listening g h
  have hst : (listening g h).standing.stored = true := by
    rw [hl]
    exact hs.stored_of_phase (.inr (.inl hp))
  have hc : (listening g h).standing.state = .connecting := by
    rw [hl]
    exact hs.state_of_phase hp
  obtain ⟨s, hs⟩ := Option.isSome_iff_exists.mp hst
  have ht : (receive g bytes h).2.standing =
      (listening g h).standing.setPhase .awaitingTrustDecision := by
    rw [hq, handle, onSessionStarted_of_some g hs, standing_sendRequest, standing_setPhase,
      standing_inWorld]
  rw [Standing.setPhase, if_pos hc] at ht
  exact .inl (congrArg Standing.phase ht)

/-- What is sent to ask for trust answers the start of the session, or a connected client was told to
send it. -/
theorem beyond_of_checkTrust {h : Handshake S W} {op : Operation W} {n : Nat} {i : Identity}
    (ht : (moment g h op).Sends g n (.checkTrust i)) :
    h.IsBeyond ∨ (moment g h op).Accepted g .startSession := by
  obtain ⟨hd, -⟩ := ht
  generalize hr : Request.checkTrust i = r at hd
  change Due g h op r at hd
  cases hd with
  | sent r hc => exact .inl (.inr hc)
  | answer bytes hm ha =>
    cases ha with
    | started i => exact .inr ⟨bytes, rfl, hm⟩
    | _ => cases hr
  | _ => cases hr

variable (g)

/-- A client that is beyond the start of the session has asked for it. -/
def Reached (past : List (Moment S W)) (h : Handshake S W) : Prop :=
  h.IsBeyond → ∃ n, h.outbound.bound = some n ∧ Asked g past n

variable {g} in
/-- A client that is beyond the start, or is told of it when it has asked, stays on its channel. -/
theorem Reached.step {past : List (Moment S W)} {h : Handshake S W} {op : Operation W}
    (hs : h.standing.Sound g.refreshLimit) (hr : Reached g past h)
    (hq : Solicited g past (moment g h op)) (hb : (perform g h op).2.IsBeyond) :
    ∃ n, (perform g h op).2.outbound.bound = some n ∧ Asked g past n := by
  obtain ⟨n, hn, ha⟩ : ∃ n, h.outbound.bound = some n ∧ Asked g past n :=
    (beyond_step hs hb).elim hr hq
  refine ⟨n, ((traffic_perform g h op).bound hn).resolve_right fun hd ↦ ?_, ha⟩
  obtain hp | hc := hb
  · have hc := (hs.step (step_perform g h op)).state_of_phase hp
    rw [state_standing, hd] at hc
    cases hc
  · rw [hd] at hc
    cases hc

/-- In a run in which every start of the session was solicited, a client that is beyond it has asked
for it. -/
theorem reached_run (world : W) (ops : List (Operation W)) :
    let past := history g (start world : Handshake S W) ops
    (∀ earlier t later, past = earlier ++ t :: later → Solicited g earlier t) →
      Reached g past (run g (start world) ops) := by
  refine sound_history_induction g (P := fun past h ↦
    (∀ earlier t later, past = earlier ++ t :: later → Solicited g earlier t) → Reached g past h)
    world ?_ ?_ ops
  · rintro - (hb | hb) <;> cases hb
  · intro past h op hs ih hq hb
    have hr : Reached g past h := ih fun earlier t later hp ↦
      hq earlier t (later ++ [moment g h op]) (by rw [hp, List.append_assoc]; rfl)
    obtain ⟨n, hn, ha⟩ := hr.step hs (hq past _ [] rfl) hb
    exact ⟨n, hn, ha.concat hn⟩

/-- What succeeds in starting the session sends the request to start it, with the proof that was
given; a client whose account needs none starts the session as soon as it is known. The client asks
for trust, and becomes connected, only on a connection on which it had sent that request, exactly
when its server tells it that the session has started only where it had. -/
theorem trust_follows_start (world : W) (ops : List (Operation W)) :
    let past := history g (start world : Handshake S W) ops
    (∀ t ∈ past, t.result = .ok () →
      (∀ serverId, t.operation = .startSession serverId →
        ∃ n i, t.Sends g n (.startSession i g.session serverId)) ∧
      ∀ profile key secret, t.Accepted g (.identify profile key secret) →
        g.session.mode ≠ .verified → ∃ n i, t.Sends g n (.startSession i g.session none)) ∧
    ((∀ earlier t later, past = earlier ++ t :: later → Solicited g earlier t) ↔
      ∀ earlier t later, past = earlier ++ t :: later →
        (∀ n i, t.Sends g n (.checkTrust i) → Asked g earlier n) ∧
        (t.after.IsBeyond → ∃ n, t.after.outbound.bound = some n ∧ Asked g earlier n)) := by
  intro past
  have sound (ops : List (Operation W)) := sound_run (S := S) g world ops
  refine ⟨fun t ht hr ↦ ?_, fun hq earlier t later hp ↦ ?_, fun hq earlier t later hp ha ↦ ?_⟩
  · obtain ⟨earlier, later, hp⟩ := List.append_of_mem ht
    obtain ⟨ops', op, -, rfl⟩ := history_split_cons g hp
    constructor
    · rintro serverId rfl
      exact sends_of_startSession g hr
    · intro profile key secret ha hm
      exact sends_of_identify g ha hm hr
  · obtain ⟨ops', op, rfl, rfl⟩ := history_split_cons g hp
    have hr := reached_run g world ops' fun earlier' u later' hu ↦
      hq earlier' u (later' ++ _ :: later) (by rw [hp, hu, List.append_assoc]; rfl)
    have ht := hq _ _ _ hp
    constructor
    · intro n i hn
      obtain ⟨m, hm, ha⟩ := (beyond_of_checkTrust hn).elim hr ht
      obtain rfl := bound_perform (sound ops') hm (hn.bound g)
      exact ha
    · exact fun hb ↦ hr.step (sound ops') ht hb
  · obtain ⟨ops', op, rfl, rfl⟩ := history_split_cons g hp
    obtain ⟨n, hn, hasked⟩ := (hq _ _ _ hp).2 (beyond_of_started (sound ops') ha)
    obtain ⟨bytes, -, hm⟩ := ha
    obtain ⟨m, hb⟩ := Option.isSome_iff_exists.mp
      ((sound ops').bound_iff.mpr (receive_of_heard g hm).1)
    obtain rfl := bound_perform (sound ops') hb hn
    exact ⟨m, hb, hasked⟩

/-- A client whose account has to be verified. -/
def patient : Settings Identity Scripted.Ledger where
  stores := Scripted.stores ⟨true, true, ⟨default, [1], none⟩, [], none, []⟩
  session := ⟨default, "player", "server", .verified, none⟩
  complaint _ := ""

/-- A server may start a session that nobody has asked it to start. The client, whose account is
still being verified, asks it for trust, and becomes connected without ever having sent the request
to start the session. -/
theorem trusted_unasked :
    let h := run patient (start []) [.createChannel, .onOpen 0 none,
      .hear (.identify default [] []), .hear .startSession, .hear (.isTrusted default)]
    h.state = .connected ∧
    (h.queued 0).map (fun bytes ↦ (Envelope.decode Request (fun _ ↦ "") none none bytes).toOption) =
      [some (some (.identify (some ⟨default, [1], none⟩) (some []))),
        some (some (.checkTrust ⟨default, [1], none⟩))] := by
  decide +kernel

end Handshake

end SealedSession
