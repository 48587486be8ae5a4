import SealedSession.Proofs.Handshake.Course
import SealedSession.Proofs.Handshake.Invariant

/-!
# What an operation queues

Six ways lead to the outbound channel, and several operations change the state or the phase before
they send. Still, an operation sends one request at most, and nothing changes after it was sent;
so its envelope is that of the state in which the operation ends.

* `Due`: the request that an operation may send.
* `Posting`: at most one such request was queued, in the envelope of the state that is reached.
* `Traffic`: all that an operation may do to the channels; `traffic_perform` says that it does no
  more.
* `Moment.posted`, `posted_cases`: what was queued on a channel at a moment of a run.
-/

namespace SealedSession

namespace Outbound

/-- What is done to one channel changes no other queue. -/
theorem queued_adjust (o : Outbound) (c n : Nat) (f : Channel → Channel) :
    (o.adjust c f).queued n =
      if n = c then ((o.channels[n]?).map fun ch ↦ (f ch).queue).getD [] else o.queued n := by
  unfold queued adjust
  rw [List.getElem?_modify]
  by_cases h : n = c
  · subst h
    cases o.channels[n]? <;> simp
  · cases o.channels[n]? <;> simp [h, Ne.symm h]

/-- Nobody takes anything from a channel any more. -/
def IsGone (n : Nat) (o : Outbound) : Prop :=
  ∃ ch, o.channels[n]? = some ch ∧ ch.receiving = false

/-- What was queued goes to the end of the bound channel, and somebody is there to take it. -/
theorem send_ok {o : Outbound} {bytes : Bytes} (h : (o.send bytes).2 = .ok ()) :
    ∃ c, o.bound = some c ∧ ¬o.IsGone c ∧
      ∀ n, (o.send bytes).1.queued n = o.queued n ++ if n = c then [bytes] else [] := by
  unfold send at h ⊢
  cases hb : o.bound with
  | none => simp [hb] at h
  | some c =>
    cases hc : o.channels[c]? with
    | none => simp [hb, hc] at h
    | some ch =>
      have hr : ch.receiving = true := by
        by_contra hr
        simp [hb, hc, hr] at h
      refine ⟨c, rfl, ?_, fun n ↦ ?_⟩
      · rintro ⟨ch', hc', hg⟩
        rw [hc] at hc'
        cases hc'
        rw [hr] at hg
        cases hg
      · simp only [hc, if_pos hr, queued_adjust]
        by_cases hn : n = c
        · subst hn
          simp [queued, hc]
        · simp [hn]

/-- Envelopes can be queued on a channel: it is bound, and somebody is there to take them. -/
def IsOpen (c : Nat) (o : Outbound) : Prop :=
  o.bound = some c ∧ ∃ ch, o.channels[c]? = some ch ∧ ch.receiving = true

theorem send_of_isOpen {o : Outbound} {c : Nat} (h : o.IsOpen c) (bytes : Bytes) :
    (o.send bytes).2 = .ok () := by
  obtain ⟨hb, ch, hc, hr⟩ := h
  simp [send, hb, hc, hr]

theorem queued_create (o : Outbound) (n : Nat) : o.create.1.queued n = o.queued n := by
  unfold create queued
  rcases Nat.lt_trichotomy n o.channels.length with h | h | h
  · rw [List.getElem?_append_left h]
  · subst h
    simp
  · rw [List.getElem?_eq_none (by simp; omega), List.getElem?_eq_none (by omega)]

theorem queued_dropReceiving (o : Outbound) (c n : Nat) :
    (o.dropReceiving c).queued n = if n = c then [] else o.queued n := by
  rw [dropReceiving, queued_adjust]
  cases o.channels[n]? <;> rfl

/-- The outbound channels once a writer has taken the oldest envelope of its channel, if any. -/
def taken (o : Outbound) (c : Nat) : Outbound := ((o.take? c).map (·.2)).getD o

theorem queued_taken (o : Outbound) (c n : Nat) :
    (o.taken c).queued n = if n = c then (o.queued n).tail else o.queued n := by
  unfold taken take?
  cases hc : o.channels[c]? with
  | none =>
    by_cases hn : n = c
    · subst hn
      simp [queued, hc]
    · simp [hn]
  | some ch =>
    cases hq : ch.queue with
    | nil =>
      by_cases hn : n = c
      · subst hn
        simp [queued, hc, hq]
      · simp [hq, hn]
    | cons bytes rest =>
      simp only [Option.map_some, hq, Option.getD_some, queued_adjust]
      by_cases hn : n = c
      · subst hn
        simp [queued, hc, hq]
      · simp [hn]

@[simp] theorem bound_taken (o : Outbound) (c : Nat) : (o.taken c).bound = o.bound := by
  unfold taken take?
  split <;> rfl

section IsGone

variable {o : Outbound} {n : Nat}

theorem IsGone.adjust (h : o.IsGone n) (c : Nat) {f : Channel → Channel}
    (hf : ∀ ch, ch.receiving = false → (f ch).receiving = false) : (o.adjust c f).IsGone n := by
  obtain ⟨ch, hc, hr⟩ := h
  refine ⟨if c = n then f ch else ch, by simp [Outbound.adjust, List.getElem?_modify, hc], ?_⟩
  split
  · exact hf ch hr
  · exact hr

theorem IsGone.create (h : o.IsGone n) : o.create.1.IsGone n := by
  obtain ⟨ch, hc, hr⟩ := h
  obtain ⟨hn, -⟩ := List.getElem?_eq_some_iff.mp hc
  exact ⟨ch, by rw [Outbound.create, List.getElem?_append_left hn, hc], hr⟩

theorem IsGone.send (h : o.IsGone n) (bytes : Bytes) : (o.send bytes).1.IsGone n := by
  unfold Outbound.send
  split
  · exact h
  · split
    · split
      · exact h.adjust _ fun _ ↦ id
      · exact h
    · exact h

theorem IsGone.unbind (h : o.IsGone n) : o.unbind.IsGone n := by
  unfold Outbound.unbind
  split
  · exact h.adjust _ fun _ ↦ id
  · exact h

theorem IsGone.taken (h : o.IsGone n) (c : Nat) : (o.taken c).IsGone n := by
  unfold Outbound.taken take?
  split
  · exact h.adjust _ fun _ ↦ id
  · exact h

/-- A channel that is there is gone once its receiving end was dropped. -/
theorem isGone_dropReceiving {ch : Channel} (h : o.channels[n]? = some ch) :
    (o.dropReceiving n).IsGone n :=
  ⟨{ ch with receiving := false, queue := [] }, by simp [dropReceiving, Outbound.adjust, h], rfl⟩

end IsGone

end Outbound

namespace Handshake

variable {S W : Type} (g : Settings S W)

/-! ## The request of an operation -/

/-- The request with which a client answers a response. -/
inductive Answers (session : PlayerSession) : Response → Request → Prop where
  | identified (profile : Profile) (key secret : Bytes) (i : Identity)
      (mode : session.mode ≠ .verified) :
      Answers session (.identify profile key secret) (.startSession i session none)
  | approved (profile : Profile) (device : UInt32) (o : PreKeyOffer) :
      Answers session (.deviceRegistered profile device) (.sendPreKeys o)
  | exchanged (identity : ServerIdentity) (bundle : Bytes) (i : Identity) (token : Bytes) :
      Answers session (.sendPreKeys identity bundle) (.identify (some i) (some token))
  | resent (target : Option ServerIdentity) (o : PreKeyOffer) :
      Answers session (.resendPreKeys target) (.sendPreKeys o)
  | started (i : Identity) : Answers session .startSession (.checkTrust i)

/-- The request that an operation may send. -/
inductive Due (h : Handshake S W) : Operation W → Request → Prop where
  | stranger (channel : Nat) (lock : Option HomeLock) : Due h (.onOpen channel lock) (.identify none none)
  | known (channel : Nat) (lock : Option HomeLock) (i : Identity) (token : Bytes) :
      Due h (.onOpen channel lock) (.identify (some i) (some token))
  | started (serverId : Option String) (i : Identity) (connecting : h.state = .connecting) :
      Due h (.startSession serverId) (.startSession i g.session serverId)
  | sent (r : Request) (connected : h.state = .connected) : Due h (.send r) r
  | probe (i : Option Identity) : Due h (.sendKeepalive i) (.keepAlive i)
  | answer {m : Response} {r : Request} (bytes : Bytes) (heard : heard? g bytes h = some m)
      (answers : Answers g.session m r) : Due h (.receive bytes) r
  /-- An envelope could not be decrypted. -/
  | refresh (bytes : Bytes) (o : PreKeyOffer) (unheard : heard? g bytes h = none) :
      Due h (.receive bytes) (.sendPreKeys o)

/-! ## One request at most -/

/-- At most one request with a property was queued on the way from one state to another, in the
envelope of the latter. -/
inductive Posting (P : Request → Prop) (h h' : Handshake S W) : Prop where
  | silent (outbound : h'.outbound = h.outbound)
  | posted (r : Request) (property : P r) (bytes : Bytes) (w : W)
      (envelope : envelope g r (h'.inWorld w) = .ok bytes)
      (sent : (h.outbound.send bytes).2 = .ok ())
      (outbound : h'.outbound = (h.outbound.send bytes).1)

/-- The envelope of a request depends on the state, the store and the server alone. -/
theorem envelope_congr {h k : Handshake S W} (hc : h.state = k.state) (hs : h.store = k.store)
    (hi : h.serverIdentity = k.serverIdentity) (hw : h.world = k.world) (r : Request) :
    envelope g r h = envelope g r k := by
  have he : (cipher? g h).1 = (cipher? g k).1 := by
    cases ht : k.store with
    | none => rw [cipher?_of_none g ht, cipher?_of_none g (hs.trans ht)]
    | some s => rw [cipher?_of_some g ht, cipher?_of_some g (hs.trans ht), hw]
  rw [envelope, envelope, hc, hi, he]

namespace Posting

variable {g} {P Q : Request → Prop} {h k h' : Handshake S W}

theorem mono (hp : Posting g P h h') (hpq : ∀ r, P r → Q r) : Posting g Q h h' := by
  cases hp with
  | silent ho => exact .silent ho
  | posted r hr bytes w he hs ho => exact .posted r (hpq r hr) bytes w he hs ho

theorem from_outbound (hp : Posting g P k h') (ho : k.outbound = h.outbound) :
    Posting g P h h' := by
  cases hp with
  | silent hk => exact .silent (hk.trans ho)
  | posted r hr bytes w he hs hk => exact .posted r hr bytes w he (ho ▸ hs) (ho ▸ hk)

theorem emit (hp : Posting g P h h') (e : Event) : Posting g P h (h'.emit e) := by
  cases hp with
  | silent ho => exact .silent ho
  | posted r hr bytes w he hs ho =>
    refine .posted r hr bytes w ?_ hs ho
    rw [← he]
    refine envelope_congr g ?_ ?_ ?_ ?_ r <;> rfl

end Posting

theorem posting_sendRequest (r : Request) (h : Handshake S W) :
    Posting g (· = r) h (sendRequest g r h).2 := by
  obtain ⟨w, ⟨bytes, he, hs, hr⟩ | ⟨-, hr⟩ | ⟨e, hr⟩⟩ := sendRequest_cases g r h
  · rw [hr]
    refine .posted r rfl bytes h.world ?_ hs rfl
    rw [← he]
    refine envelope_congr g ?_ ?_ ?_ ?_ r <;> rfl
  · rw [hr]
    exact .silent rfl
  · rw [hr]
    exact .silent rfl

/-- A request that is sent after other things were done is the only one. -/
theorem posting_of_sendRequest {P : Request → Prop} {r : Request} (hr : P r)
    {h k : Handshake S W} (ho : k.outbound = h.outbound) :
    Posting g P h (sendRequest g r k).2 :=
  ((posting_sendRequest g r k).mono (fun _ he ↦ he ▸ hr)).from_outbound ho

variable {g} in
/-- What is announced after a request was sent is an event. -/
theorem posting_announce {P : Request → Prop} {h : Handshake S W} (i : Identity)
    {x : Except ClientError Unit × Handshake S W} (hp : Posting g P h x.2) :
    Posting g P h (announce i x).2 := by
  rcases x with ⟨_ | _, k⟩
  · exact hp
  · exact hp.emit _

theorem posting_startSession (serverId : Option String) (h : Handshake S W) :
    Posting g (fun r ↦ h.state = .connecting ∧ ∃ i, r = .startSession i g.session serverId) h
      (startSession g serverId h).2 := by
  by_cases hc : h.state = .connecting
  · cases hs : h.store with
    | none =>
      rw [startSession_of_none g serverId hc hs]
      exact .silent rfl
    | some s =>
      rw [startSession_of_some g serverId hc hs]
      exact posting_announce _ (posting_of_sendRequest g ⟨hc, _, rfl⟩ rfl)
  · rw [startSession_of_ne g serverId hc]
    exact .silent rfl

theorem posting_introduce (h : Handshake S W) :
    Posting g (fun r ↦ r = .identify none none ∨ ∃ i t, r = .identify (some i) (some t)) h (introduce g h).2 := by
  rcases introduce_cases g h with ⟨e, w, hr⟩ | ⟨w, hr⟩ | ⟨s, w, -, hr⟩ | ⟨s, i, t, w, -, hr⟩
  · rw [hr]
    exact .silent rfl
  · rw [hr]
    exact posting_of_sendRequest g (.inl rfl) rfl
  · rw [hr]
    exact posting_of_sendRequest g (.inl rfl) rfl
  · rw [hr]
    exact posting_of_sendRequest g (.inr ⟨i, t, rfl⟩) rfl

variable {g} in
/-- A client that does not leave sends at most the request that is due. -/
theorem Course.posting {requests : Request → Prop} {obstacles : ClientError → Prop} {silence : Prop}
    {h : Handshake S W} {x : Except ClientError Unit × Handshake S W}
    (hx : Course g requests obstacles silence h x) : Posting g requests h x.2 ∨ Unbound h x.2 := by
  cases hx with
  | failed obstacle unmoved => exact .inl (.silent unmoved.outbound)
  | sent due unmoved => exact .inl (posting_of_sendRequest g due unmoved.outbound)
  | announced i due connecting unmoved =>
    exact .inl (posting_announce i (posting_of_sendRequest g due unmoved.outbound))
  | quiet silent outbound => exact outbound.imp_left .silent

/-! ## All that may be done to the channels -/

/-- What an operation may do to the channels. -/
inductive Traffic (h : Handshake S W) : Operation W → Handshake S W → Prop where
  | posting {op h'} (posting : Posting g (Due g h op) h h') : Traffic h op h'
  /-- A channel was bound before anything was queued. -/
  | opened {h'} (channel : Nat) (lock : Option HomeLock) (unbound : h.outbound.bound = none)
      (posting : Posting g (Due g h (.onOpen channel lock))
        (h.withOutbound { h.outbound with bound := some channel }) h') :
      Traffic h (.onOpen channel lock) h'
  /-- A channel was refused. -/
  | refused {h'} (channel : Nat) (lock : Option HomeLock)
      (outbound : h'.outbound = h.outbound.dropSending channel) :
      Traffic h (.onOpen channel lock) h'
  | left {op h'} (unbound : Unbound h h') : Traffic h op h'
  | created {h'} (outbound : h'.outbound = h.outbound.create.1) : Traffic h .createChannel h'
  | taken {h'} (channel : Nat) (outbound : h'.outbound = h.outbound.taken channel) :
      Traffic h (.takeEnvelope channel) h'
  | dropped {h'} (channel : Nat) (outbound : h'.outbound = h.outbound.dropReceiving channel) :
      Traffic h (.dropReceiving channel) h'

theorem traffic_onOpen (channel : Nat) (lock : Option HomeLock) (h : Handshake S W) :
    Traffic g h (.onOpen channel lock) (onOpen g channel lock h).2 := by
  cases hb : h.outbound.bound with
  | some b =>
    rw [onOpen_of_bound g channel lock hb]
    exact .refused channel lock rfl
  | none =>
    rw [onOpen_of_unbound g channel lock hb]
    refine .opened channel lock hb (((posting_introduce g _).mono ?_).from_outbound ?_)
    · rintro r (rfl | ⟨i, t, rfl⟩)
      · exact .stranger channel lock
      · exact .known channel lock i t
    · exact outbound_changeState g (by decide)

theorem Reply.answers {h : Handshake S W} {m : Response} {r : Request} (hr : Reply g h m r) :
    Answers g.session m r := by
  cases hr with
  | identified profile key secret hm => exact .identified profile key secret _ hm
  | admitted profile key secret hm => exact .identified profile key secret _ hm
  | approved profile device => exact .approved profile device _
  | exchanged identity bundle => exact .exchanged identity bundle _ _
  | resent target => exact .resent target _
  | started => exact .started _

theorem Answer.due {bytes : Bytes} {h : Handshake S W} {r : Request} (ha : Answer g bytes h r) :
    Due g h (.receive bytes) r := by
  cases ha with
  | reply heard reply => exact .answer bytes heard (reply.answers g)
  | mending active unread mending =>
    cases mending with
    | offered => exact .refresh bytes _ (by simp [heard?, unread])

theorem traffic_receive (bytes : Bytes) (h : Handshake S W) :
    Traffic g h (.receive bytes) (receive g bytes h).2 := by
  rcases (course_receive g bytes h).posting with hp | hu
  · exact .posting (hp.mono fun r ha ↦ ha.due g)
  · exact .left hu

/-- No operation does more to the channels. -/
theorem traffic_perform (h : Handshake S W) (op : Operation W) :
    Traffic g h op (perform g h op).2 := by
  cases op with
  | onOpen channel lock => exact traffic_onOpen g channel lock h
  | receive bytes => exact traffic_receive g bytes h
  | onClose close =>
    change Traffic g h _ (onClose g close h)
    unfold onClose
    split
    · exact .left (unbound_leave g (h.emit _))
    · exact .left (unbound_leave g h)
  | onFailure => exact .left (unbound_leave g h)
  | disconnect => exact .left (unbound_changeState g h)
  | fail message => exact .left (unbound_changeState g (h.emit _))
  | saveOnShutdown =>
    refine .posting (.silent ?_)
    change (saveOnShutdown g h).outbound = _
    unfold saveOnShutdown
    split <;> rfl
  | startSession serverId =>
    refine .posting ((posting_startSession g serverId h).mono ?_)
    rintro r ⟨hc, i, rfl⟩
    exact .started serverId i hc
  | send r =>
    change Traffic g h _ (send g r h).2
    by_cases hc : h.state = .connected
    · rw [send_of_connected g r hc]
      exact .posting (posting_of_sendRequest g (.sent r hc) rfl)
    · rw [send_of_ne g r hc]
      exact .posting (.silent rfl)
  | sendKeepalive i => exact .posting (posting_of_sendRequest g (.probe i) rfl)
  | takeEvents => exact .posting (.silent rfl)
  | createChannel => exact .created rfl
  | takeEnvelope channel => exact .taken channel rfl
  | dropReceiving channel => exact .dropped channel rfl
  | elapse change => exact .posting (.silent rfl)

/-! ## What was queued at a moment -/

/-- What was queued on a channel at a moment: what stands there beyond what stood there before. -/
def Moment.posted (t : Moment S W) (n : Nat) : List Bytes :=
  (t.after.queued n).drop (t.before.queued n).length

variable {g} in
theorem posted_of_queued {h : Handshake S W} {op : Operation W} {n : Nat} {bs : List Bytes}
    (hq : (perform g h op).2.queued n = h.queued n ++ bs) : (moment g h op).posted n = bs := by
  change ((perform g h op).2.queued n).drop (h.queued n).length = bs
  rw [hq, List.drop_left]

variable {g} in
/-- What leaves a queue as it was has posted nothing. -/
theorem posted_of_kept {h : Handshake S W} {op : Operation W} {n : Nat}
    (hq : (perform g h op).2.queued n = h.queued n) : (moment g h op).posted n = [] :=
  posted_of_queued (hq.trans (List.append_nil _).symm)

variable {g} in
/-- An operation that queues an envelope posts it on the bound channel, and nothing elsewhere. -/
theorem posted_of_send {h : Handshake S W} (op : Operation W) {bytes : Bytes}
    (hs : (h.outbound.send bytes).2 = .ok ())
    (ho : (perform g h op).2.outbound = (h.outbound.send bytes).1) :
    ∃ c, h.outbound.bound = some c ∧
      ∀ n, (moment g h op).posted n = if n = c then [bytes] else [] := by
  obtain ⟨c, hb, -, hq⟩ := Outbound.send_ok hs
  exact ⟨c, hb, fun n ↦ posted_of_queued ((congrArg (Outbound.queued n) ho).trans (hq n))⟩

variable {g} in
theorem posted_of_outbound {h : Handshake S W} {op : Operation W}
    (ho : (perform g h op).2.outbound = h.outbound) (n : Nat) : (moment g h op).posted n = [] :=
  posted_of_kept (congrArg (Outbound.queued n) ho)

/-- A request was queued on a channel at a moment, in an envelope of the state that the client was
in by then. -/
def Moment.Sends (t : Moment S W) (n : Nat) (r : Request) : Prop :=
  Due g t.before t.operation r ∧
    ∃ bytes w, t.posted n = [bytes] ∧ envelope g r (t.after.inWorld w) = .ok bytes

section

variable {g} {h h' : Handshake S W}

theorem Posting.posted_cases {P : Request → Prop} (hp : Posting g P h h') :
    (∀ n, h'.queued n = h.queued n) ∨
    ∃ c r bytes w, P r ∧ envelope g r (h'.inWorld w) = .ok bytes ∧ h'.outbound.bound = some c ∧
      ¬h.outbound.IsGone c ∧ ∀ n, h'.queued n = h.queued n ++ if n = c then [bytes] else [] := by
  cases hp with
  | silent ho => exact .inl fun n ↦ congrArg (Outbound.queued n) ho
  | posted r hr bytes w he hs ho =>
    obtain ⟨c, hb, hg, hq⟩ := Outbound.send_ok hs
    refine .inr ⟨c, r, bytes, w, hr, he, ?_, hg, fun n ↦ ?_⟩
    · rw [ho, Outbound.bound_send, hb]
    · exact (congrArg (Outbound.queued n) ho).trans (hq n)

theorem Unbound.queued (hu : Unbound h h') (n : Nat) : h'.queued n = h.queued n := by
  rcases hu.2 with ho | ho
  · exact (congrArg (Outbound.queued n) ho).trans (Outbound.queued_unbind _ n)
  · exact congrArg (Outbound.queued n) ho

/-- An operation queues one envelope on the bound channel, or nothing at all; only a writer takes
something away. -/
theorem Traffic.queued_cases {op : Operation W} (ht : Traffic g h op h') :
    (∀ n, h'.queued n = h.queued n) ∨
    (∃ c r bytes w, Due g h op r ∧ envelope g r (h'.inWorld w) = .ok bytes ∧
      h'.outbound.bound = some c ∧ ¬h.outbound.IsGone c ∧
      ∀ n, h'.queued n = h.queued n ++ if n = c then [bytes] else []) ∨
    (∃ c, op = .takeEnvelope c ∧
      ∀ n, h'.queued n = if n = c then (h.queued n).tail else h.queued n) ∨
    ∃ c, op = .dropReceiving c ∧ ∀ n, h'.queued n = if n = c then [] else h.queued n := by
  cases ht with
  | posting hp => exact hp.posted_cases.imp_right .inl
  | opened channel lock hb hp => exact hp.posted_cases.imp_right .inl
  | refused channel lock ho =>
    exact .inl fun n ↦ (congrArg (Outbound.queued n) ho).trans (Outbound.queued_dropSending _ _ n)
  | left hu => exact .inl hu.queued
  | created ho =>
    exact .inl fun n ↦ (congrArg (Outbound.queued n) ho).trans (Outbound.queued_create _ n)
  | taken c ho =>
    exact .inr (.inr (.inl ⟨c, rfl, fun n ↦
      (congrArg (Outbound.queued n) ho).trans (Outbound.queued_taken _ c n)⟩))
  | dropped c ho =>
    exact .inr (.inr (.inr ⟨c, rfl, fun n ↦
      (congrArg (Outbound.queued n) ho).trans (Outbound.queued_dropReceiving _ c n)⟩))

/-- A client that has not left stays bound to its channel. -/
theorem Traffic.bound {op : Operation W} (ht : Traffic g h op h') {c : Nat}
    (hb : h.outbound.bound = some c) :
    h'.outbound.bound = some c ∨ h'.state = .disconnected := by
  cases ht with
  | posting hp =>
    cases hp with
    | silent ho => exact .inl (ho ▸ hb)
    | posted r hr bytes w he hs ho => exact .inl (by rw [ho, Outbound.bound_send, hb])
  | opened channel lock hn hp =>
    rw [hn] at hb
    cases hb
  | refused channel lock ho => exact .inl (by rw [ho]; exact hb)
  | left hu => exact .inr hu.1
  | created ho => exact .inl (by rw [ho]; exact hb)
  | taken c ho => exact .inl (by rw [ho, Outbound.bound_taken, hb])
  | dropped c ho => exact .inl (by rw [ho]; exact hb)

/-- No operation moves a client from one channel to another. -/
theorem bound_perform {op : Operation W} {n m : Nat}
    (hs : h.standing.Sound g.refreshLimit) (hn : h.outbound.bound = some n)
    (hm : (perform g h op).2.outbound.bound = some m) : n = m := by
  rcases (traffic_perform g h op).bound hn with hb | hd
  · exact Option.some.inj (hb.symm.trans hm)
  · refine absurd hd ((hs.step (step_perform g h op)).bound_iff.mp ?_)
    change (perform g h op).2.outbound.isBound = true
    rw [Outbound.isBound, hm]
    rfl

/-- Nobody comes back to a channel. -/
theorem Traffic.isGone {op : Operation W} (ht : Traffic g h op h') {n : Nat}
    (hg : h.outbound.IsGone n) : h'.outbound.IsGone n := by
  have posting {P : Request → Prop} {k : Handshake S W} (hp : Posting g P k h')
      (hk : k.outbound.IsGone n) : h'.outbound.IsGone n := by
    cases hp with
    | silent ho => exact ho ▸ hk
    | posted r hr bytes w he hs ho => exact ho ▸ hk.send bytes
  cases ht with
  | posting hp => exact posting hp hg
  | opened channel lock hb hp => exact posting hp hg
  | refused channel lock ho => exact ho ▸ hg.adjust channel fun _ ↦ id
  | left hu =>
    rcases hu.2 with ho | ho
    · exact ho ▸ hg.unbind
    · exact ho ▸ hg
  | created ho => exact ho ▸ hg.create
  | taken c ho => exact ho ▸ hg.taken c
  | dropped c ho => exact ho ▸ hg.adjust c fun _ _ ↦ rfl

end

/-- At any moment, one envelope was queued on the channel that the client is bound to, or none. -/
theorem posted_cases (h : Handshake S W) (op : Operation W) :
    (∀ n, (moment g h op).posted n = []) ∨
    ∃ c r bytes, (moment g h op).Sends g c r ∧ (moment g h op).after.outbound.bound = some c ∧
      ¬h.outbound.IsGone c ∧ ∀ n, (moment g h op).posted n = if n = c then [bytes] else [] := by
  rcases (traffic_perform g h op).queued_cases with hq | ⟨c, r, bytes, w, hd, he, hb, hg, hq⟩ |
    ⟨c, -, hq⟩ | ⟨c, -, hq⟩
  · exact .inl fun n ↦ posted_of_kept (hq n)
  · have hp (n : Nat) : (moment g h op).posted n = if n = c then [bytes] else [] :=
      posted_of_queued (hq n)
    exact .inr ⟨c, r, bytes, ⟨hd, bytes, w, (hp c).trans (if_pos rfl), he⟩, hb, hg, hp⟩
  · refine .inl fun n ↦ ?_
    simp only [Moment.posted, moment, hq n]
    split <;> simp
  · refine .inl fun n ↦ ?_
    simp only [Moment.posted, moment, hq n]
    split <;> simp

/-- Something was queued only if a request was sent, in the one envelope that was queued, on the
bound channel, which somebody was there to empty. -/
theorem sends_of_posted {h : Handshake S W} {op : Operation W} {n : Nat}
    (hn : (moment g h op).posted n ≠ []) :
    (∃ r, (moment g h op).Sends g n r) ∧ (moment g h op).after.outbound.bound = some n ∧
      ¬h.outbound.IsGone n := by
  rcases posted_cases g h op with hp | ⟨c, r, bytes, hs, hb, hg, hp⟩
  · exact absurd (hp n) hn
  · have hc : n = c := by
      by_contra hc
      exact hn ((hp n).trans (if_neg hc))
    subst hc
    exact ⟨⟨r, hs⟩, hb, hg⟩

/-- A request is sent on the channel that the client is bound to by then. -/
theorem Moment.Sends.bound {h : Handshake S W} {op : Operation W} {n : Nat} {r : Request}
    (hs : (moment g h op).Sends g n r) : (moment g h op).after.outbound.bound = some n := by
  obtain ⟨-, bytes, w, hp, -⟩ := hs
  refine (sends_of_posted g ?_).2.1
  rw [hp]
  exact List.cons_ne_nil _ _

end Handshake

end SealedSession
