import SealedSession.Proofs.Handshake.Run
import SealedSession.Proofs.Handshake.Standing

/-!
# What an operation wants others to do

Events wait with the handshake until they are taken, and an operation only adds to them. Most of
them are notices of what has happened. The others bring a message of a feature, present an identity,
or ask for something that ends at some later time: the approval of the device, or the verification
of an account, with the key and the secret that the server has sent for it.

* `Emits`: all events between two states have a property.
* `Reports`, `Reported`: the events that a response and an operation may lead to;
  `emits_perform` says that there are no others.
* `features_receive`: the messages of features that an envelope leads to.
* `reports_of_run`: a verification or an approval is asked for when a response is accepted that
  reports it, and with what the server has sent there.
-/

namespace SealedSession

/-- Whether an event asks for a verification. -/
def Event.isVerification : Event → Bool
  | .verifyAccount _ _ _ => true
  | _ => false

/-- Whether an event asks for something that ends at some later time. -/
def Event.isLasting : Event → Bool
  | .verifyAccount _ _ _ | .awaitingApproval => true
  | _ => false

/-- Whether an event only tells what has happened. -/
def Event.isNotice : Event → Bool
  | .feature _ | .identified _ | .verifyAccount _ _ _ | .awaitingApproval => false
  | _ => true

/-- The message of a feature that an event brings. -/
def Event.feature? : Event → Option FeatureMessage
  | .feature m => some m
  | _ => none

/-- The message of a feature that a response brings. -/
def Response.feature? : Response → Option FeatureMessage
  | .feature m => some m
  | _ => none

theorem Event.isLasting_of_isNotice {e : Event} (h : e.isNotice = true) : e.isLasting = false := by
  cases e with
  | verifyAccount _ _ _ | awaitingApproval => cases h
  | _ => rfl

theorem Event.feature?_of_isNotice {e : Event} (h : e.isNotice = true) : e.feature? = none := by
  cases e with
  | feature m => cases h
  | _ => rfl

namespace Handshake

variable {S W : Type} (g : Settings S W)

/-- The events that were produced between two states have a property. -/
def Emits (P : Event → Prop) (h h' : Handshake S W) : Prop :=
  ∃ es, h'.events = h.events ++ es ∧ ∀ e ∈ es, P e

/-- There were only notices between two states. -/
abbrev Calm (h h' : Handshake S W) : Prop := Emits (fun e ↦ e.isNotice = true) h h'

/-- The messages of features that wait with a handshake. -/
def features (h : Handshake S W) : List FeatureMessage := h.events.filterMap Event.feature?

section

variable {P Q : Event → Prop} {h k h' : Handshake S W}

theorem Emits.of_events (he : h'.events = h.events) : Emits P h h' :=
  ⟨[], by rw [he, List.append_nil], by simp⟩

theorem Emits.from_events (hp : Emits P k h') (he : k.events = h.events) : Emits P h h' := by
  obtain ⟨es, hk, hp⟩ := hp
  exact ⟨es, he ▸ hk, hp⟩

theorem Emits.emit (hp : Emits P h k) {e : Event} (he : P e) : Emits P h (k.emit e) := by
  obtain ⟨es, hk, hp⟩ := hp
  refine ⟨es ++ [e], by rw [Handshake.emit, hk, List.append_assoc], ?_⟩
  intro f hf
  rcases List.mem_append.mp hf with hf | hf
  · exact hp f hf
  · rw [List.mem_singleton.mp hf]
    exact he

theorem Emits.trans (hp : Emits P h k) (hq : Emits P k h') : Emits P h h' := by
  obtain ⟨es, hk, hp⟩ := hp
  obtain ⟨fs, hh, hq⟩ := hq
  refine ⟨es ++ fs, by rw [hh, hk, List.append_assoc], ?_⟩
  intro e he
  rcases List.mem_append.mp he with he | he
  · exact hp e he
  · exact hq e he

theorem Emits.mono (hp : Emits P h h') (hpq : ∀ e, P e → Q e) : Emits Q h h' := by
  obtain ⟨es, hh, hp⟩ := hp
  exact ⟨es, hh, fun e he ↦ hpq e (hp e he)⟩

theorem Emits.features (hp : Emits P h h') (hn : ∀ e, P e → e.feature? = none) :
    h'.features = h.features := by
  obtain ⟨es, hh, hp⟩ := hp
  have hes : es.filterMap Event.feature? = [] :=
    List.filterMap_eq_nil_iff.mpr fun e he ↦ hn e (hp e he)
  rw [Handshake.features, hh, List.filterMap_append, hes, List.append_nil, Handshake.features]

theorem Emits.mem (hp : Emits P h h') {e : Event} (he : e ∈ h'.events) : e ∈ h.events ∨ P e := by
  obtain ⟨es, hh, hp⟩ := hp
  rw [hh] at he
  exact (List.mem_append.mp he).imp_right (hp e)

end

/-! ## Sending and leaving -/

theorem events_setPhase (p : Phase) (h : Handshake S W) : (h.setPhase p).events = h.events := by
  unfold setPhase
  split <;> rfl

theorem calm_sendRequest (r : Request) (h : Handshake S W) : Calm h (sendRequest g r h).2 := by
  obtain ⟨w, ⟨bytes, -, -, hr⟩ | ⟨-, hr⟩ | ⟨e, hr⟩⟩ := sendRequest_cases g r h
  · rw [hr]
    exact .of_events rfl
  · rw [hr]
    exact (Emits.of_events rfl : Calm h (h.inWorld w)).emit rfl
  · rw [hr]
    exact .of_events rfl

/-- Starting the session presents the identity of the store. -/
theorem emits_startSession (serverId : Option String) (h : Handshake S W) :
    Emits (fun e ↦ e.isNotice = true ∨ ∃ i, e = .identified i) h (startSession g serverId h).2 := by
  by_cases hc : h.state = .connecting
  · cases hs : h.store with
    | none =>
      rw [startSession_of_none g serverId hc hs]
      exact .of_events rfl
    | some s =>
      rw [startSession_of_some g serverId hc hs]
      have hp := (calm_sendRequest g
        (.startSession (g.stores.identity s h.world).1 g.session serverId)
        (h.inWorld (g.stores.identity s h.world).2)).mono fun e he ↦
          (Or.inl he : e.isNotice = true ∨ ∃ i, e = .identified i)
      revert hp
      rcases sendRequest g _ _ with ⟨_ | _, k⟩
      · exact fun hp ↦ hp.from_events rfl
      · exact fun hp ↦ Emits.emit (hp.from_events rfl) (.inr ⟨_, rfl⟩)
  · rw [startSession_of_ne g serverId hc]
    exact .of_events rfl

theorem calm_changeState (next : ConnectionState) (h : Handshake S W) :
    Calm h (changeState g next h) := by
  have entered : Calm h (enter g next h) := by
    refine Emits.emit (.of_events ?_) rfl
    cases next with
    | disconnected =>
      simp only [if_true, teardown, settleStore]
      split <;> rfl
    | _ => rfl
  unfold changeState
  by_cases hc : h.state = next
  · rw [if_pos hc]
    split <;> exact .of_events rfl
  · rw [if_neg hc]
    split
    · exact entered.trans (.of_events rfl)
    · exact entered

theorem calm_fail (message : String) (h : Handshake S W) : Calm h (fail g message h) :=
  Emits.trans (Emits.emit (.of_events rfl) rfl) (calm_changeState g _ _)

theorem calm_leave (h : Handshake S W) : Calm h (leave g h) := by
  unfold leave
  split
  · exact .of_events rfl
  · exact calm_changeState g _ h

theorem calm_onOpen (channel : Nat) (lock : Option HomeLock) (h : Handshake S W) :
    Calm h (onOpen g channel lock h).2 := by
  have introduced (k : Handshake S W) : Calm k (introduce g k).2 := by
    rcases introduce_cases g k with ⟨e, w, hr⟩ | ⟨w, hr⟩ | ⟨s, w, -, hr⟩ | ⟨s, i, t, w, -, hr⟩
    · rw [hr]
      exact .of_events rfl
    · rw [hr]
      exact (calm_sendRequest g _ _).from_events rfl
    · rw [hr]
      exact (calm_sendRequest g _ _).from_events rfl
    · rw [hr]
      exact (calm_sendRequest g _ _).from_events rfl
  cases hb : h.outbound.bound with
  | some b =>
    rw [onOpen_of_bound g channel lock hb]
    exact .of_events rfl
  | none =>
    rw [onOpen_of_unbound g channel lock hb]
    have opened := calm_changeState g .connecting
      { h with lock := lock, outbound := { h.outbound with bound := some channel } }
    exact Emits.trans (opened.from_events rfl) (introduced _)

/-! ## Receiving -/

/-- The events that a response may lead to. -/
inductive Reports (session : PlayerSession) : Response → Event → Prop where
  | notice (m : Response) {e : Event} (h : e.isNotice = true) : Reports session m e
  | verification (profile : Profile) (key secret : Bytes) :
      Reports session (.identify profile key secret) (.verifyAccount session key secret)
  | identity (profile : Profile) (key secret : Bytes) (i : Identity) :
      Reports session (.identify profile key secret) (.identified i)
  | approval (url token : String) : Reports session (.registerDevice url token) .awaitingApproval
  | feature (message : FeatureMessage) : Reports session (.feature message) (.feature message)

/-- Being known, a client has its account verified if its session needs that. -/
theorem emits_onIdentify (profile : Profile) (key secret : Bytes) (h : Handshake S W) :
    Emits (Reports g.session (.identify profile key secret)) h
      (onIdentify g profile key secret h).2 := by
  rcases onIdentify_cases g profile key secret h with ⟨-, e, w, hr⟩ | ⟨s, w, -, hr⟩
  · rw [hr]
    exact .of_events rfl
  · rw [hr]
    obtain ⟨k, hk⟩ : ∃ k, k = setPhase .awaitingSessionStart ((keepStore s h).inWorld w) :=
      ⟨_, rfl⟩
    have he : k.events = h.events := by
      rw [hk, events_setPhase]
      rfl
    rw [← hk]
    unfold welcome
    by_cases hm : g.session.mode = .verified
    · rw [if_pos hm]
      exact Emits.emit (.of_events he) (.verification profile key secret)
    · rw [if_neg hm]
      refine ((emits_startSession g none k).mono ?_).from_events he
      rintro e (hn | ⟨i, rfl⟩)
      · exact .notice _ hn
      · exact .identity profile key secret i

/-- What is reported of a failed session is a notice. -/
theorem isNotice_of_failureEvent? {failure : SessionFailure} {e : Event}
    (he : failureEvent? failure = some e) : e.isNotice = true := by
  cases failure with
  | sessionError reason message =>
    simp only [failureEvent?] at he
    split at he
    · cases he
    · cases he
      rfl
  | _ =>
    cases he
    rfl

theorem emits_handle (m : Response) (h : Handshake S W) :
    Emits (Reports g.session m) h (handle g m h).2 := by
  have calm {h' : Handshake S W} (hc : Calm h h') : Emits (Reports g.session m) h h' :=
    hc.mono fun e he ↦ .notice m he
  cases m with
  | identify profile key secret => exact emits_onIdentify g profile key secret h
  | registerDevice url token =>
    have moved : Calm h (h.setPhase .awaitingDeviceApproval) := .of_events (events_setPhase _ h)
    exact Emits.emit (calm (moved.emit (e := .confirmDevice token url) rfl)) (.approval url token)
  | deviceRegistered profile device =>
    apply calm
    rcases onDeviceRegistered_cases g profile device h with ⟨e, w, hr⟩ | ⟨s, w, o, -, hr⟩
    · rw [handle, hr]
      exact .of_events rfl
    · rw [handle, hr]
      exact (calm_sendRequest g _ _).from_events (events_setPhase _ _)
  | sendPreKeys identity bundle =>
    apply calm
    rcases onSendPreKeys_cases g identity bundle h with ⟨-, hr⟩ |
      ⟨s, t, w, ⟨hs, -⟩, ⟨e, hr⟩ | ⟨hc, hr⟩ | ⟨hc, i, k, -, hr⟩⟩
    · rw [handle, hr]
      exact .of_events rfl
    · rw [handle, hr]
      exact .of_events rfl
    · rw [handle, hr]
      exact .of_events rfl
    · rw [handle, hr]
      exact (calm_sendRequest g _ _).from_events (events_setPhase _ _)
  | resendPreKeys target =>
    apply calm
    rcases onResendPreKeys_cases g target h with ⟨-, hr⟩ | ⟨s, t, w, ⟨hs, -⟩, ⟨e, hr⟩ | ⟨o, -, hr⟩⟩
    · rw [handle, hr]
      exact .of_events rfl
    · rw [handle, hr]
      exact .of_events rfl
    · rw [handle, hr]
      exact (calm_sendRequest g _ _).from_events (events_setPhase _ _)
  | startSession =>
    apply calm
    cases hs : h.store with
    | none =>
      rw [handle, onSessionStarted_of_none g hs]
      exact .of_events rfl
    | some s =>
      rw [handle, onSessionStarted_of_some g hs]
      exact (calm_sendRequest g _ _).from_events (events_setPhase _ _)
  | sessionFailed failure =>
    apply calm
    change Calm h (onSessionFailed g failure h)
    unfold onSessionFailed
    split
    · next e he =>
      exact Emits.trans (Emits.emit (.of_events rfl) (isNotice_of_failureEvent? he))
        (calm_changeState g _ _)
    · exact calm_changeState g _ h
  | isTrusted identity => exact calm ((calm_changeState g .connected _).from_events rfl)
  | isUntrusted => exact calm (Emits.emit (calm_changeState g .disconnected h) rfl)
  | keepAlive => exact calm (.of_events rfl)
  | feature message => exact Emits.emit (.of_events rfl) (.feature message)

theorem calm_recoverCipher {h : Handshake S W} {s : S} (hs : h.store = some s) :
    Calm h (recoverCipher g h).2 := by
  rcases recoverCipher_cases g hs with ⟨limit, -, hr⟩ | ⟨-, ⟨e, t, w, -, hr⟩ | ⟨o, t, w, -, hr⟩⟩
  · rw [hr]
    exact (calm_fail g _ _).from_events rfl
  · rw [hr]
    exact .of_events rfl
  · rw [hr]
    exact (calm_sendRequest g _ _).from_events rfl

/-- Whatever is not accepted as a response leads to notices only. -/
theorem calm_receive {bytes : Bytes} {h : Handshake S W} (hm : heard? g bytes h = none) :
    Calm h (receive g bytes h).2 := by
  obtain ⟨w, hw⟩ := snd_cipher? g h
  have hn : (cipher? g h).2.events = h.events := by rw [hw]; rfl
  rcases receive_of_not_heard g hm with hr | hr | ⟨e, hr⟩ | hr | ⟨-, hs, -, -, hr⟩
  · exact .of_events (by rw [hr])
  · exact .of_events (by rw [hr, hn])
  · exact .of_events (by rw [hr, hn])
  · exact .of_events (by rw [hr]; exact hn)
  · obtain ⟨s, hs⟩ := Option.isSome_iff_exists.mp hs
    have hs' : (cipher? g h).2.store = some s := by rw [hw]; exact hs
    rw [hr]
    exact (calm_recoverCipher g hs').from_events hn

/-- A response that is accepted leads to what may be reported of it. -/
theorem emits_receive {bytes : Bytes} {m : Response} {h : Handshake S W}
    (hm : heard? g bytes h = some m) : Emits (Reports g.session m) h (receive g bytes h).2 := by
  obtain ⟨w, hw⟩ := snd_cipher? g h
  obtain ⟨-, -, hr⟩ := receive_of_heard g hm
  rw [hr]
  exact (emits_handle g m (listening g h)).from_events (by rw [listening, hw]; rfl)

/-- An envelope leads to the message of a feature exactly if such a message was accepted. -/
theorem features_receive (bytes : Bytes) (h : Handshake S W) :
    (receive g bytes h).2.features =
      h.features ++ ((heard? g bytes h).bind Response.feature?).toList := by
  cases hm : heard? g bytes h with
  | none =>
    rw [(calm_receive g hm).features fun e he ↦ Event.feature?_of_isNotice he]
    exact (List.append_nil _).symm
  | some m =>
    cases hf : m.feature? with
    | none =>
      refine ((emits_receive g hm).features ?_).trans (by simp [hf])
      intro e he
      cases he with
      | notice _ hn => exact Event.feature?_of_isNotice hn
      | verification | identity | approval => rfl
      | feature message => cases hf
    | some message =>
      obtain ⟨w, hw⟩ := snd_cipher? g h
      have hl : (listening g h).events = h.events := by rw [listening, hw]; rfl
      obtain rfl : m = .feature message := by
        cases m <;> cases hf
        rfl
      obtain ⟨-, -, hr⟩ := receive_of_heard g hm
      have he : (receive g bytes h).2.events = h.events ++ [.feature message] := by
        rw [hr, ← hl]
        rfl
      rw [features, he, List.filterMap_append]
      rfl

/-! ## All operations -/

/-- The events that an operation may lead to. -/
inductive Reported (h : Handshake S W) : Operation W → Event → Prop where
  | notice (op : Operation W) {e : Event} (hn : e.isNotice = true) : Reported h op e
  | started (serverId : Option String) (i : Identity) :
      Reported h (.startSession serverId) (.identified i)
  | heard {bytes : Bytes} {m : Response} (hm : heard? g bytes h = some m) {e : Event}
      (he : Reports g.session m e) : Reported h (.receive bytes) e

/-- An operation leads to the events that it may lead to and to no others, or they are taken. -/
theorem emits_perform (h : Handshake S W) (op : Operation W) :
    Emits (Reported g h op) h (perform g h op).2 ∨ (perform g h op).2.events = [] := by
  have calm (hc : Calm h (perform g h op).2) :
      Emits (Reported g h op) h (perform g h op).2 ∨ (perform g h op).2.events = [] :=
    .inl (hc.mono fun e he ↦ .notice op he)
  cases op with
  | onOpen channel lock => exact calm (calm_onOpen g channel lock h)
  | receive bytes =>
    cases hm : heard? g bytes h with
    | some m => exact .inl ((emits_receive g hm).mono fun e he ↦ .heard hm he)
    | none => exact calm (calm_receive g hm)
  | onClose close =>
    apply calm
    change Calm h (onClose g close h)
    unfold onClose
    split
    · exact Emits.trans (Emits.emit (.of_events rfl) rfl) (calm_leave g _)
    · exact calm_leave g h
  | onFailure => exact calm (calm_leave g h)
  | disconnect => exact calm (calm_changeState g _ h)
  | fail message => exact calm (calm_fail g message h)
  | saveOnShutdown =>
    apply calm
    change Calm h (saveOnShutdown g h)
    unfold saveOnShutdown
    split <;> exact .of_events rfl
  | startSession serverId =>
    refine .inl ((emits_startSession g serverId h).mono ?_)
    rintro e (hn | ⟨i, rfl⟩)
    · exact .notice _ hn
    · exact .started serverId i
  | send r =>
    apply calm
    change Calm h (send g r h).2
    by_cases hc : h.state = .connected
    · rw [send_of_connected g r hc]
      exact calm_sendRequest g r h
    · rw [send_of_ne g r hc]
      exact .of_events rfl
  | sendKeepalive i => exact calm (calm_sendRequest g _ h)
  | takeEvents => exact .inr rfl
  | createChannel => exact calm (.of_events rfl)
  | takeEnvelope channel => exact calm (.of_events rfl)
  | dropReceiving channel => exact calm (.of_events rfl)
  | elapse change => exact calm (.of_events rfl)

/-- An event asks for something lasting only if it was there before, or a response was accepted that
reports it. -/
theorem reports_of_perform {h : Handshake S W} {op : Operation W} {e : Event}
    (he : e ∈ (perform g h op).2.events) (hl : e.isLasting = true) :
    e ∈ h.events ∨ ∃ m, Reports g.session m e ∧ (moment g h op).Accepted g m := by
  rcases emits_perform g h op with hp | hn
  · refine (hp.mem he).imp_right fun hr ↦ ?_
    cases hr with
    | notice _ hn =>
      rw [Event.isLasting_of_isNotice hn] at hl
      cases hl
    | started => cases hl
    | @heard bytes m hm _ hr => exact ⟨m, hr, bytes, rfl, hm⟩
  · rw [hn] at he
    cases he

/-- After several operations, an event that asks for something lasting was there before, or it is due
to one of them. -/
theorem reports_of_run {h : Handshake S W} {ops : List (Operation W)} {e : Event}
    (he : e ∈ (run g h ops).events) (hl : e.isLasting = true) :
    e ∈ h.events ∨ ∃ m, Reports g.session m e ∧ ∃ t ∈ history g h ops, t.Accepted g m := by
  induction ops generalizing h with
  | nil => exact .inl he
  | cons op ops ih =>
    obtain he | ⟨m, hr, t, ht, ha⟩ := ih he
    · refine (reports_of_perform g he hl).imp_right ?_
      rintro ⟨m, hr, ha⟩
      exact ⟨m, hr, _, List.mem_cons_self, ha⟩
    · exact .inr ⟨m, hr, t, List.mem_cons_of_mem _ ht, ha⟩

end Handshake

end SealedSession
