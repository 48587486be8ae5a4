import SealedSession.Proofs.Handshake.Events
import SealedSession.Proofs.Handshake.Failing
import SealedSession.Proofs.Handshake.Mending

/-!
# What a client answers

A client answers an envelope with one request at most. Which one depends on the response that it
accepts, on the mode of its session and on its state; what stands in it depends on what the store
says at that time. A response that does not fit the phase is read and forgotten.

* `Course.answered`: a course that succeeds sends its request, unless it may be silent or the server
  has no session with the client any more.
* `Fails`, `fails_of_error`: why a client may fail at an envelope.
* `Answer.ne_startSession`: a session that is to be verified is never started in answer.
* `answered_once`: what becomes of an envelope, after every run.
-/

namespace SealedSession.Handshake

variable {S W : Type} (g : Settings S W)

/-! ## Answers are given -/

variable {g} in
/-- A request that does not fail is queued, or the client is reported. -/
theorem sendRequest_of_ok {r : Request} {h : Handshake S W}
    (hr : (sendRequest g r h).1 = .ok ()) :
    (∃ bytes, (h.outbound.send bytes).2 = .ok () ∧
      (sendRequest g r h).2.outbound = (h.outbound.send bytes).1) ∨
    h.state = .connected ∧ (sendRequest g r h).2.events = h.events ++ [.clientUntrusted] := by
  obtain ⟨w, ⟨bytes, -, hs, he⟩ | ⟨hc, he⟩ | ⟨e, he⟩⟩ := sendRequest_cases g r h
  · rw [he]
    exact .inl ⟨bytes, hs, rfl⟩
  · rw [he]
    exact .inr ⟨hc, rfl⟩
  · rw [he] at hr
    cases hr

variable {g} in
/-- A course that succeeds and may not be silent has queued its request, or reports the client. -/
theorem Course.answered {requests : Request → Prop} {obstacles : ClientError → Prop}
    {silence : Prop} {h : Handshake S W} {x : Except ClientError Unit × Handshake S W}
    (hx : Course g requests obstacles silence h x) (ho : x.1 = .ok ()) (hn : ¬silence) :
    (∃ bytes, (h.outbound.send bytes).2 = .ok () ∧ x.2.outbound = (h.outbound.send bytes).1) ∨
      h.state = .connected ∧ x.2.events = h.events ++ [.clientUntrusted] := by
  cases hx with
  | failed obstacle unmoved => cases ho
  | sent due unmoved =>
    rw [← unmoved.outbound, ← unmoved.state, ← unmoved.events]
    exact sendRequest_of_ok ho
  | @announced r k i due connecting unmoved =>
    rw [fst_announce] at ho
    obtain ⟨bytes, hs, hq⟩ | ⟨hc, -⟩ := sendRequest_of_ok ho
    · refine .inl ⟨bytes, unmoved.outbound ▸ hs, ?_⟩
      rw [← unmoved.outbound, ← hq]
      rcases sendRequest g r k with ⟨_ | _, l⟩ <;> rfl
    · rw [unmoved.state, connecting] at hc
      cases hc
  | quiet silent outbound => exact absurd silent hn

/-! ## Failures -/

/-- Why a client fails at an envelope: it is kept from acting on it, or its answer cannot be
written, or there is nobody to take the answer from the channel. -/
inductive Fails (bytes : Bytes) (h : Handshake S W) : ClientError → Prop where
  | refused {e : ClientError} (refusal : Refusal g bytes h e) : Fails bytes h e
  | unwritten {r : Request} {k : Handshake S W} {x : EnvelopeError} (answer : Answer g bytes h r)
      (unmoved : Unmoved h k) (unwritten : envelope g r k = .error x) :
      Fails bytes h (.envelope x)
  | undelivered {r : Request} (answer : Answer g bytes h r)
      (closed : ∀ c, ¬h.outbound.IsOpen c) : Fails bytes h .notConnected

variable {g} in
/-- A client fails at an envelope for one of these reasons only. -/
theorem fails_of_error {h : Handshake S W} (hs : h.standing.Sound g.refreshLimit) {bytes : Bytes}
    {e : ClientError} (he : (receive g bytes h).1 = .error e) : Fails g bytes h e := by
  have active : h.state ≠ .disconnected := by
    intro hc
    rw [receive_of_disconnected g bytes hc] at he
    cases he
  obtain ⟨refusal, -⟩ | ⟨r, k, answer, unmoved, hr, -⟩ := (course_receive g bytes h).of_error he
  · exact .refused refusal
  obtain ⟨x, unwritten, rfl⟩ | ⟨sealed, unsent⟩ := obstacle_of_sendRequest hr
  · exact .unwritten answer unmoved unwritten
  rw [unmoved.outbound] at unsent
  obtain rfl | ⟨unbound, -⟩ := Outbound.error_of_send unsent
  · refine .undelivered answer fun c hopen ↦ ?_
    rw [Outbound.send_of_isOpen hopen] at unsent
    cases unsent
  · exact absurd unbound (bound_ne_none hs active)

/-! ## A session that is to be verified -/

variable {g} in
/-- A session that is to be verified is not started in answer to anything. -/
theorem Answer.ne_startSession {bytes : Bytes} {h : Handshake S W} {r : Request}
    (ha : Answer g bytes h r) (hm : g.session.mode = .verified) (i : Identity)
    (session : PlayerSession) (serverId : Option String) : r ≠ .startSession i session serverId := by
  rintro rfl
  cases ha with
  | reply heard reply =>
    cases reply with
    | identified profile key secret mode => exact mode hm
    | admitted profile key secret mode => exact mode hm
  | mending active unread mending => cases mending

/-- Instead, the client asks for the verification, and sends nothing. -/
theorem onIdentify_of_verified (hm : g.session.mode = .verified) (profile : Profile)
    (key secret : Bytes) (h : Handshake S W) :
    (onIdentify g profile key secret h).2.outbound = h.outbound ∧
      ((onIdentify g profile key secret h).1 = .ok () →
        (onIdentify g profile key secret h).2.events =
          h.events ++ [.verifyAccount g.session key secret]) := by
  rcases onIdentify_cases g profile key secret h with ⟨-, e, w, hr⟩ | ⟨s, w, -, hr⟩
  · rw [hr]
    exact ⟨rfl, fun ho ↦ by cases ho⟩
  · rw [hr, welcome, if_pos hm]
    constructor
    · exact outbound_setPhase _ _
    · intro _
      change (setPhase _ _).events ++ _ = _
      rw [events_setPhase]
      rfl

/-! ## Every envelope -/

/-- After every run, an envelope has one request queued at most: the answer to the response that the
client accepts, or the prekeys that mend a session whose envelope could not be decrypted. It is put
into the envelope of the moment, and it never starts a session that is to be verified. An answer that
is due is queued, unless the operation fails or the server has no session with the client. When the
session is to be verified, a server that knows the client leads to the one request to verify the
account. A response that does not fit the phase is inert: the cipher of the store is asked for, to
read it, and the count of failures is reset, but that is all.

The operation fails only if the envelope is not understood, if there is no store for what has to be
done, or the store refuses it, or if the answer cannot be written or nobody takes it. When a
connected client cannot decrypt an envelope, its limit allows one failure more, and its store issues
prekeys that fit an envelope once encrypted, they are queued. -/
theorem answered_once (world : W) (ops : List (Operation W)) (bytes : Bytes) :
    let h : Handshake S W := run g (start world) ops
    let t : Moment S W := moment g h (.receive bytes)
    ((∀ n, t.posted n = []) ∨ ∃ c r sealed, (∀ n, t.posted n = if n = c then [sealed] else []) ∧
      t.after.outbound.bound = some c ∧
      Carried g (history g (start world) (ops ++ [.receive bytes])) t.after r sealed ∧
      Answer g bytes h r ∧
      (g.session.mode = .verified → ∀ i session id, r ≠ .startSession i session id)) ∧
    (∀ m, heard? g bytes h = some m → m.isAnswered g.session.mode h.state = true →
      t.result = .ok () → (∃ n sealed, t.posted n = [sealed]) ∨
        h.state = .connected ∧ t.after.events = h.events ++ [.clientUntrusted]) ∧
    (∀ profile key secret, heard? g bytes h = some (.identify profile key secret) →
      g.session.mode = .verified → (∀ n, t.posted n = []) ∧
        (t.result = .ok () → t.after.events = h.events ++ [.verifyAccount g.session key secret])) ∧
    (∀ m, h.state ≠ .disconnected → reading g bytes h = .ok (some m) →
      expects h.state h.phase m = false → t.result = .ok () ∧
        t.after = { h with cipherFailures := 0, world := (cipher? g h).2.world }) ∧
    (∀ e, t.result = .error e → Fails g bytes h e) ∧
    ∀ e, h.state = .connected → reading g bytes h = .error (.cipher e) →
      (∀ limit, g.refreshLimit = some limit → (h.cipherFailures + 1).toNat ≤ limit) →
      ∀ server o secret c, Mendable g h server o secret → h.outbound.IsOpen c →
        12 + secret.length ≤ 32767 → t.result = .ok () ∧ t.after.events = h.events ∧
          ∀ n, t.posted n = if n = c then [Envelope.header .encrypted ++ secret] else [] := by
  intro h t
  have hx := course_receive g bytes h
  refine ⟨?_, fun m hm ha ho ↦ ?_, fun profile key secret hm hv ↦ ?_, fun m hc hr he ↦ ?_,
    fun e he ↦ fails_of_error (sound_run g world ops) he, fun e hc hr hl ↦ ?_⟩
  · rcases hx.posting with hp | hu
    · obtain hq | ⟨c, r, sealed, w, ha, he, hb, -, hq⟩ := hp.posted_cases
      · exact .inl fun n ↦ posted_of_kept (hq n)
      · refine .inr ⟨c, r, sealed, fun n ↦ posted_of_queued (hq n), hb, ?_, ha,
          fun hm ↦ ha.ne_startSession hm⟩
        exact carried_at g world ops (.receive bytes) hb he
    · exact .inl fun n ↦ posted_of_kept (hu.queued n)
  · refine (hx.answered ho ?_).imp_left ?_
    · intro hn
      rw [hn m hm] at ha
      cases ha
    · rintro ⟨sealed, hs, hq⟩
      obtain ⟨c, -, hp⟩ := posted_of_send (.receive bytes) hs hq
      exact ⟨c, sealed, (hp c).trans (if_pos rfl)⟩
  · obtain ⟨-, -, hr⟩ := receive_of_heard g hm
    obtain ⟨hq, he⟩ := onIdentify_of_verified g hv profile key secret (listening g h)
    have listens := unmoved_listening g h
    rw [listens.outbound] at hq
    rw [listens.events] at he
    refine ⟨posted_of_outbound ?_, ?_⟩
    · change (receive g bytes h).2.outbound = _
      rw [hr]
      exact hq
    · change (receive g bytes h).1 = _ → (receive g bytes h).2.events = _
      rw [hr]
      exact he
  · obtain ⟨w, hw⟩ := snd_cipher? g h
    have hrespond : receive g bytes h = (.ok (), listening g h) := by
      rw [receive_of_reading g hc hr, respond, he]
      rfl
    refine ⟨congrArg Prod.fst hrespond, (congrArg Prod.snd hrespond).trans ?_⟩
    rw [listening, hw]
    rfl
  · exact (receive_mended hc hr (exceeds_eq_none hl)).sent

end SealedSession.Handshake
