import SealedSession.Proofs.Handshake.Events
import SealedSession.Proofs.Handshake.Posting

/-!
# From which stores a client draws

A client presents identities and offers prekeys, and has both from a store. A store does not stay as
it was opened: it comes to trust servers, is given a device, issues prekeys and forgets groups. What
is said of where something comes from is therefore said of a property of stores that all of this
keeps.

* `Hereditary`: such a property; `Descends` is the least that holds of a given store.
* `Drawn`: the requests that a client makes up from stores with the property.
* `Draws`: what an operation holds, presents and sends is drawn from such stores.
* `draws_receive`: an envelope for which no store is opened.
* `Settles`: an operation that opens stores draws from these alone, or from none of them;
  `settles_onOpen` and `settles_receive` say so of the two that open any.
-/

namespace SealedSession.Handshake

variable {S W : Type} (g : Settings S W)

/-! ## What becomes of a store -/

/-- What becomes of a store in the hands of a client. -/
inductive Descends (s : S) : S → Prop where
  | refl : Descends s s
  | trust {t : S} (h : Descends s t) (server : ServerIdentity) (bundle : Bytes) (w : W) :
      Descends s (g.stores.trust server bundle t w).2.1
  | registerDevice {t : S} (h : Descends s t) (profile : Profile) (device : UInt32) (w : W) :
      Descends s (g.stores.registerDevice profile device t w).2.1
  | offer {t : S} (h : Descends s t) (target : Option ServerIdentity) (w : W) :
      Descends s (g.stores.offer target t w).2.1
  | forgetGroups {t : S} (h : Descends s t) (w : W) : Descends s (g.stores.forgetGroups t w).1

/-- A property that a store passes on to what becomes of it. -/
def Hereditary (P : S → Prop) : Prop := ∀ s t, P s → Descends g s t → P t

theorem Descends.trans {s t u : S} (h : Descends g s t) (h' : Descends g t u) :
    Descends g s u := by
  induction h' with
  | refl => exact h
  | trust _ server bundle w ih => exact ih.trust server bundle w
  | registerDevice _ profile device w ih => exact ih.registerDevice profile device w
  | offer _ target w ih => exact ih.offer target w
  | forgetGroups _ w ih => exact ih.forgetGroups w

theorem hereditary_descends (s : S) : Hereditary g (Descends g s) := fun _ _ h h' ↦ h.trans g h'

/-! ## What is drawn from stores -/

variable (P : S → Prop)

/-- An identity that a store with the property gives. -/
def Yields (i : Identity) : Prop := ∃ s w, P s ∧ (g.stores.identity s w).1 = i

/-- The requests that a client makes up from stores with the property, or from no store. -/
inductive Drawn : Request → Prop where
  | stranger : Drawn (.identify none none)
  | identify {i : Identity} (h : Yields g P i) (token : Bytes) :
      Drawn (.identify (some i) (some token))
  | sendPreKeys {s : S} {target : Option ServerIdentity} {w : W} {o : PreKeyOffer} (h : P s)
      (issued : (g.stores.offer target s w).1 = .ok o) : Drawn (.sendPreKeys o)
  | startSession {i : Identity} (h : Yields g P i) (serverId : Option String) :
      Drawn (.startSession i g.session serverId)
  | checkTrust {i : Identity} (h : Yields g P i) : Drawn (.checkTrust i)
  /-- A probe carries the identity that it is asked to carry. -/
  | keepAlive (i : Option Identity) : Drawn (.keepAlive i)

/-- Every envelope that was queued between two states is that of a request with a property. -/
def Conveys (Q : Request → Prop) (h h' : Handshake S W) : Prop :=
  ∀ n, ∀ bytes ∈ (h'.queued n).drop (h.queued n).length,
    ∃ r w, Q r ∧ envelope g r (h'.inWorld w) = .ok bytes

/-- What a client comes to hold, presents and sends between two states is drawn from stores with the
property. -/
structure Draws (h h' : Handshake S W) : Prop where
  store : ∀ s, h'.store = some s → P s
  events : Emits (fun e ↦ ∀ i, e = .identified i → Yields g P i) h h'
  requests : Conveys g (Drawn g P) h h'

section

variable {g P} {Q : Request → Prop} {h k h' : Handshake S W}

theorem Conveys.of_queued (hq : ∀ n, h'.queued n = h.queued n) : Conveys g Q h h' := by
  intro n bytes hb
  rw [hq n, List.drop_length] at hb
  cases hb

theorem Posting.conveys (hp : Posting g Q h h') : Conveys g Q h h' := by
  rcases hp.posted_cases with hq | ⟨c, r, bytes, w, hr, he, -, -, hq⟩
  · exact .of_queued hq
  · intro n b hb
    rw [hq n, List.drop_left] at hb
    split at hb
    · rw [List.mem_singleton.mp hb]
      exact ⟨r, w, hr, he⟩
    · cases hb

theorem Emits.draws (hc : Calm h h') :
    Emits (fun e ↦ ∀ i, e = .identified i → Yields g P i) h h' := by
  refine hc.mono fun e he i hi ↦ ?_
  rw [hi] at he
  cases he

/-- What leads to a state with notices alone may be left out. -/
theorem Draws.after (hd : Draws g P k h') (hc : Calm h k) (hq : ∀ n, k.queued n = h.queued n) :
    Draws g P h h' where
  store := hd.store
  events := Emits.trans hc.draws hd.events
  requests n := by
    rw [← hq]
    exact hd.requests n

theorem Draws.emit (hd : Draws g P h k) {e : Event}
    (he : ∀ i, e = .identified i → Yields g P i) : Draws g P h (k.emit e) where
  store := hd.store
  events := hd.events.emit he
  requests n bytes hb := by
    obtain ⟨r, w, hr, hq⟩ := hd.requests n bytes hb
    refine ⟨r, w, hr, ?_⟩
    rw [← hq]
    refine envelope_congr g ?_ ?_ ?_ ?_ r <;> rfl

theorem Draws.silent (hs : ∀ s, h'.store = some s → P s) (hc : Calm h h')
    (hq : ∀ n, h'.queued n = h.queued n) : Draws g P h h' :=
  ⟨hs, hc.draws, .of_queued hq⟩

end

/-! ## Sending and leaving -/

theorem queued_setPhase (p : Phase) (h : Handshake S W) (n : Nat) :
    (h.setPhase p).queued n = h.queued n := congrArg (Outbound.queued n) (outbound_setPhase p h)

theorem store_sendRequest (r : Request) (h : Handshake S W) :
    (sendRequest g r h).2.store = h.store := by
  obtain ⟨w, ⟨bytes, -, -, hr⟩ | ⟨-, hr⟩ | ⟨e, hr⟩⟩ := sendRequest_cases g r h <;>
    rw [hr] <;> rfl

variable {P}

theorem draws_sendRequest {r : Request} {h : Handshake S W} (hs : ∀ s, h.store = some s → P s)
    (hr : Drawn g P r) : Draws g P h (sendRequest g r h).2 where
  store := by rwa [store_sendRequest]
  events := (calm_sendRequest g r h).draws
  requests := (posting_of_sendRequest g hr rfl).conveys

theorem draws_startSession (serverId : Option String) {h : Handshake S W}
    (hs : ∀ s, h.store = some s → P s) : Draws g P h (startSession g serverId h).2 := by
  by_cases hc : h.state = .connecting
  · cases hst : h.store with
    | none =>
      rw [startSession_of_none g serverId hc hst]
      exact .silent hs (.of_events rfl) fun _ ↦ rfl
    | some s =>
      rw [startSession_of_some g serverId hc hst]
      have hi : Yields g P (g.stores.identity s h.world).1 := ⟨s, h.world, hs s hst, rfl⟩
      have hd := draws_sendRequest g (h := h.inWorld (g.stores.identity s h.world).2) hs
        (.startSession hi serverId)
      revert hd
      rcases sendRequest g _ _ with ⟨_ | _, k⟩
      · exact fun hd ↦ hd.after (.of_events rfl) fun _ ↦ rfl
      · intro hd
        have hk : Draws g P h k := hd.after (.of_events rfl) fun _ ↦ rfl
        refine hk.emit ?_
        rintro i ⟨⟩
        exact hi
  · rw [startSession_of_ne g serverId hc]
    exact .silent hs (.of_events rfl) fun _ ↦ rfl

/-- Disconnecting leaves no other store than what became of the one in use. -/
theorem held_changeState (hp : Hereditary g P) {h : Handshake S W}
    (hs : ∀ s, h.store = some s → P s) :
    ∀ s, (changeState g .disconnected h).store = some s → P s := by
  have settled (k : Handshake S W) (hk : k.store = h.store) :
      ∀ s, (settleStore g k).store = some s → P s := by
    unfold settleStore
    rw [hk]
    cases hst : h.store with
    | none =>
      intro s h'
      rw [hk, hst] at h'
      cases h'
    | some t =>
      rintro s ⟨⟩
      exact hp t _ (hs t hst) (Descends.refl.forgetGroups k.world)
  unfold changeState
  rw [if_pos rfl]
  by_cases hc : h.state = .disconnected
  · rw [if_pos hc]
    exact hs
  · rw [if_neg hc]
    exact settled _ rfl

theorem draws_changeState (hp : Hereditary g P) {h : Handshake S W}
    (hs : ∀ s, h.store = some s → P s) : Draws g P h (changeState g .disconnected h) :=
  .silent (held_changeState g hp hs) (calm_changeState g _ h) (unbound_changeState g h).queued

theorem draws_leave (hp : Hereditary g P) {h : Handshake S W}
    (hs : ∀ s, h.store = some s → P s) : Draws g P h (leave g h) := by
  unfold leave
  split
  · exact .silent hs (.of_events rfl) fun _ ↦ rfl
  · exact draws_changeState g hp hs

/-! ## Receiving -/

/-- The account for which a store is opened to act on a response. -/
def owner? (h : Handshake S W) : Response → Option Uuid
  | .identify profile _ _ => if h.store.isNone then some profile.id else none
  | .deviceRegistered profile _ => some profile.id
  | _ => none

section

variable {g} {h : Handshake S W}

theorem held_keepStore {s : S} (hs : P s) (w : W) :
    ∀ t, ((keepStore s h).inWorld w).store = some t → P t := by
  rintro t ⟨⟩
  exact hs

/-- A client that moves on with a store and then sends a request draws both from the store. -/
theorem draws_moved {s : S} (hs : P s) (w : W) (p : Phase) {r : Request} (hr : Drawn g P r) :
    Draws g P h (sendRequest g r (setPhase p ((keepStore s h).inWorld w))).2 := by
  refine (draws_sendRequest g ?_ hr).after (.of_events (events_setPhase _ _)) (queued_setPhase _ _)
  rw [store_setPhase]
  exact held_keepStore hs w

theorem draws_welcome {s : S} (hs : P s) (w : W) (key secret : Bytes) : Draws g P h
    (welcome g key secret (setPhase .awaitingSessionStart ((keepStore s h).inWorld w))).2 := by
  obtain ⟨k, hk⟩ : ∃ k, k = setPhase .awaitingSessionStart ((keepStore s h).inWorld w) := ⟨_, rfl⟩
  have hks : ∀ t, k.store = some t → P t := by
    rw [hk, store_setPhase]
    exact held_keepStore hs w
  have hke : k.events = h.events := by
    rw [hk, events_setPhase]
    rfl
  have hko : k.outbound = h.outbound := by
    rw [hk, outbound_setPhase]
    rfl
  rw [← hk]
  refine Draws.after ?_ (.of_events hke) fun n ↦ congrArg (Outbound.queued n) hko
  unfold welcome
  split
  · refine (Draws.silent hks (.of_events rfl) fun _ ↦ rfl : Draws g P k k).emit ?_
    rintro i ⟨⟩
  · exact draws_startSession g none hks

end

variable {g} in
/-- An operation that puts a store to use and fails draws nothing. -/
theorem draws_kept {h : Handshake S W} {t : S} (ht : P t) (w : W) :
    Draws g P h ((keepStore t h).inWorld w) :=
  .silent (held_keepStore ht w) (.of_events rfl) fun _ ↦ rfl

theorem draws_onSendPreKeys (hp : Hereditary g P) {h : Handshake S W}
    (hs : ∀ s, h.store = some s → P s) (identity : ServerIdentity) (bundle : Bytes) :
    Draws g P h (onSendPreKeys g identity bundle h).2 := by
  rcases onSendPreKeys_cases g identity bundle h with ⟨-, hr⟩ |
    ⟨s, t, w, ⟨hst, rfl⟩, hr⟩
  · rw [hr]
    exact .silent hs (.of_events rfl) fun _ ↦ rfl
  · have ht : P (g.stores.trust identity bundle s h.world).2.1 :=
      hp s _ (hs s hst) (Descends.refl.trust identity bundle h.world)
    rcases hr with ⟨e, hr⟩ | ⟨-, hr⟩ | ⟨-, i, k, ⟨v, hi⟩, hr⟩
    · rw [hr]
      exact draws_kept ht w
    · rw [hr]
      exact draws_kept ht w
    · rw [hr]
      exact draws_moved ht w _ (.identify ⟨_, v, ht, hi⟩ k)

theorem draws_onResendPreKeys (hp : Hereditary g P) {h : Handshake S W}
    (hs : ∀ s, h.store = some s → P s) (target : Option ServerIdentity) :
    Draws g P h (onResendPreKeys g target h).2 := by
  rcases onResendPreKeys_cases g target h with ⟨-, hr⟩ | ⟨s, t, w, ⟨hst, rfl⟩, hr⟩
  · rw [hr]
    exact .silent hs (.of_events rfl) fun _ ↦ rfl
  · have ht : P (g.stores.offer target s h.world).2.1 :=
      hp s _ (hs s hst) (Descends.refl.offer target h.world)
    rcases hr with ⟨e, hr⟩ | ⟨o, ho, hr⟩
    · rw [hr]
      exact draws_kept ht w
    · rw [hr]
      exact draws_moved ht w _ (.sendPreKeys (hs s hst) ho)

theorem draws_onSessionStarted {h : Handshake S W} (hs : ∀ s, h.store = some s → P s) :
    Draws g P h (onSessionStarted g h).2 := by
  cases hst : h.store with
  | none =>
    rw [onSessionStarted_of_none g hst]
    exact .silent hs (.of_events rfl) fun _ ↦ rfl
  | some s =>
    rw [onSessionStarted_of_some g hst]
    have hi : Yields g P (g.stores.identity s h.world).1 := ⟨s, h.world, hs s hst, rfl⟩
    refine (draws_sendRequest g ?_ (.checkTrust hi)).after (.of_events (events_setPhase _ _))
      (queued_setPhase _ _)
    rw [store_setPhase]
    exact hs

/-- Acting on a response for which no store has to be opened, a client draws from the store in use. -/
theorem draws_handle (hp : Hereditary g P) {m : Response} {h : Handshake S W}
    (hm : owner? h m = none) (hs : ∀ s, h.store = some s → P s) :
    Draws g P h (handle g m h).2 := by
  cases m with
  | identify profile key secret =>
    rcases onIdentify_cases g profile key secret h with ⟨hn, -⟩ | ⟨s, w, hst | ⟨hn, -⟩, hr⟩
    · simp [owner?, hn] at hm
    · rw [handle, hr]
      exact draws_welcome (hs s hst) w key secret
    · simp [owner?, hn] at hm
  | registerDevice url token =>
    have moved : Draws g P h (h.setPhase .awaitingDeviceApproval) :=
      .silent (by rwa [store_setPhase]) (.of_events (events_setPhase _ h)) (queued_setPhase _ h)
    exact (moved.emit (e := .confirmDevice token url) (by simp)).emit (e := .awaitingApproval)
      (by simp)
  | deviceRegistered profile device => cases hm
  | sendPreKeys identity bundle => exact draws_onSendPreKeys g hp hs identity bundle
  | resendPreKeys target => exact draws_onResendPreKeys g hp hs target
  | startSession => exact draws_onSessionStarted g hs
  | sessionFailed failure =>
    change Draws g P h (onSessionFailed g failure h)
    unfold onSessionFailed
    split
    · next e he =>
      exact (draws_changeState g hp (h := h.emit e) hs).after
        (Emits.emit (.of_events rfl) (isNotice_of_failureEvent? he)) fun _ ↦ rfl
    · exact draws_changeState g hp hs
  | isTrusted identity =>
    obtain ⟨k, hk⟩ : ∃ k, k = { h with serverIdentity := some identity } := ⟨_, rfl⟩
    have hn : ConnectionState.connected ≠ .disconnected := by decide
    change Draws g P h (changeState g .connected { h with serverIdentity := some identity })
    rw [← hk]
    refine Draws.silent ?_ ((calm_changeState g .connected k).from_events (by rw [hk])) fun n ↦ ?_
    · rwa [store_changeState g hn, hk]
    · refine congrArg (Outbound.queued n) ?_
      rw [outbound_changeState g hn, hk]
  | isUntrusted =>
    refine (draws_changeState g hp hs).emit ?_
    rintro i ⟨⟩
  | keepAlive => exact .silent hs (.of_events rfl) fun _ ↦ rfl
  | feature message =>
    refine (Draws.silent hs (.of_events rfl) fun _ ↦ rfl : Draws g P h h).emit ?_
    rintro i ⟨⟩

/-- Mending the cipher session, a client draws from the store in use. -/
theorem draws_recoverCipher (hp : Hereditary g P) {h : Handshake S W} {s : S}
    (hst : h.store = some s) (hs : P s) : Draws g P h (recoverCipher g h).2 := by
  have held : ∀ t, h.store = some t → P t := by
    rw [hst]
    rintro t ⟨⟩
    exact hs
  have ht : P (g.stores.offer h.serverIdentity s h.world).2.1 :=
    hp s _ hs (Descends.refl.offer h.serverIdentity h.world)
  rcases recoverCipher_cases g hst with ⟨limit, -, hr⟩ | ⟨-, ⟨e, t, w, rfl, hr⟩ | ⟨o, t, w, ho, hr⟩⟩
  · rw [hr]
    exact (draws_changeState g hp (h := h.countFailure.emit _) held).after
      (Emits.emit (.of_events rfl) rfl) fun _ ↦ rfl
  · rw [hr]
    exact .silent (held_keepStore ht w) (.of_events rfl) fun _ ↦ rfl
  · rw [ho] at ht
    rw [hr]
    exact (draws_sendRequest g (held_keepStore ht w) (.sendPreKeys hs (congrArg Prod.fst ho))).after
      (.of_events rfl) fun _ ↦ rfl

/-- The store in use when a response is read. -/
theorem store_listening (h : Handshake S W) : (listening g h).store = h.store := by
  obtain ⟨w, hw⟩ := snd_cipher? g h
  rw [listening, hw]
  rfl

/-- An envelope is received for which no store has to be opened: a client draws from the store in
use. -/
theorem draws_receive (hp : Hereditary g P) {bytes : Bytes} {h : Handshake S W}
    (hm : ∀ m, heard? g bytes h = some m → owner? h m = none)
    (hs : ∀ s, h.store = some s → P s) : Draws g P h (receive g bytes h).2 := by
  obtain ⟨w, hw⟩ := snd_cipher? g h
  have hn : (cipher? g h).2 = h.inWorld w := hw
  cases hh : heard? g bytes h with
  | some m =>
    obtain ⟨-, -, hr⟩ := receive_of_heard g hh
    have ho : owner? (listening g h) m = none := by
      rw [← hm m hh]
      cases m <;> simp [owner?, store_listening]
    rw [hr]
    refine (draws_handle g hp ho (by rwa [store_listening])).after ?_ fun n ↦ ?_
    · exact .of_events (by rw [listening, hw]; rfl)
    · exact congrArg (Outbound.queued n) (by rw [listening, hw]; rfl)
  | none =>
    have silent {k : Handshake S W} (hks : k.store = h.store) (hke : k.events = h.events)
        (hko : k.outbound = h.outbound) : Draws g P h k :=
      .silent (by rwa [hks]) (.of_events hke) fun n ↦ congrArg (Outbound.queued n) hko
    rcases receive_of_not_heard g hh with hr | hr | ⟨e, hr⟩ | hr | ⟨-, hsome, -, -, hr⟩
    · rw [hr]
      exact silent rfl rfl rfl
    · rw [hr, hn]
      exact silent rfl rfl rfl
    · rw [hr, hn]
      exact silent rfl rfl rfl
    · rw [hr, listening, hn]
      exact silent rfl rfl rfl
    · obtain ⟨s, hsome⟩ := Option.isSome_iff_exists.mp hsome
      rw [hr, hn]
      exact (draws_recoverCipher g hp (h := h.inWorld w) hsome (hs s hsome)).after
        (.of_events rfl) fun _ ↦ rfl

/-! ## Opening a store -/

/-- What an operation does with the stores that it opens. If it opens one, then either it leaves the
one in use as it is and draws from no other, or it puts one to use and draws from what it has opened
alone. -/
inductive Settles (opened : S → Prop) (h h' : Handshake S W) : Prop where
  | kept (ho : ∀ s, ¬opened s)
      (hd : ∀ P, Hereditary g P → (∀ s, h.store = some s → P s) → Draws g P h h')
  | untouched (hs : h'.store = h.store)
      (hd : ∀ P : S → Prop, (∀ s, h.store = some s → P s) → Draws g P h h')
  | turned {s : S} (hs : h'.store = some s)
      (hd : ∀ P, Hereditary g P → (∀ o, opened o → P o) → Draws g P h h')

section

variable {g} {opened opened' : S → Prop} {h k h' : Handshake S W}

theorem Settles.after (hs : Settles g opened k h') (ho : ∀ s, opened s ↔ opened' s)
    (hc : Calm h k) (hq : ∀ n, k.queued n = h.queued n) (hst : k.store = h.store) :
    Settles g opened' h h' := by
  cases hs with
  | kept hn hd =>
    refine .kept (fun s hs ↦ hn s ((ho s).mpr hs)) fun P hp hs ↦ ?_
    exact (hd P hp (by rwa [hst])).after hc hq
  | untouched hs hd =>
    refine .untouched (hs.trans hst) fun P hs ↦ ?_
    exact (hd P (by rwa [hst])).after hc hq
  | turned hs hd =>
    refine .turned hs fun P hp hs ↦ ?_
    exact (hd P hp fun o h ↦ hs o ((ho o).mp h)).after hc hq

/-- An operation that fails before it has put a store to use. -/
theorem Settles.failed (w : W) : Settles g opened h (h.inWorld w) :=
  .untouched rfl fun _ hs ↦ .silent hs (.of_events rfl) fun _ ↦ rfl

end

theorem settles_introduce (h : Handshake S W) : Settles g (Found g h) h (introduce g h).2 := by
  rcases introduce_cases g h with
    ⟨e, w, hr⟩ | ⟨w, hr⟩ | ⟨s, w, hi, hr⟩ | ⟨s, i, t, w, ⟨hi, v, hv⟩, hr⟩
  · rw [hr]
    exact .failed w
  · rw [hr]
    refine .untouched (store_sendRequest g _ _) fun P hs ↦ ?_
    exact (draws_sendRequest g (h := h.inWorld w) hs .stranger).after (.of_events rfl) fun _ ↦ rfl
  · rw [hr]
    refine .turned (store_sendRequest g _ _) fun P _ ho ↦ ?_
    exact (draws_sendRequest g (held_keepStore (ho s hi) w) .stranger).after (.of_events rfl)
      fun _ ↦ rfl
  · rw [hr]
    refine .turned (store_sendRequest g _ _) fun P _ ho ↦ ?_
    exact (draws_sendRequest g (held_keepStore (ho s hi) w) (.identify ⟨s, v, ho s hi, hv⟩ t)).after
      (.of_events rfl) fun _ ↦ rfl

/-- A client that opens a connection introduces itself; before that it presents nothing and leaves
its store alone. -/
theorem exists_introduce (channel : Nat) (lock : Option HomeLock) {h : Handshake S W}
    (hb : h.outbound.bound = none) : ∃ k, onOpen g channel lock h = introduce g k ∧
      Calm h k ∧ (∀ n, k.queued n = h.queued n) ∧ k.store = h.store ∧ k.world = h.world := by
  have hn : ConnectionState.connecting ≠ .disconnected := by decide
  refine ⟨_, onOpen_of_unbound g channel lock hb, ?_, fun n ↦ ?_, ?_, ?_⟩
  · exact (calm_changeState g .connecting _).from_events rfl
  · rw [queued, outbound_changeState g hn]
    rfl
  · rw [store_changeState g hn]
  · rw [world_changeState g hn]

/-- A client that opens a connection introduces itself from the store that is found, or as a
stranger. -/
theorem settles_onOpen (channel : Nat) (lock : Option HomeLock) (h : Handshake S W) :
    Settles g (fun s ↦ h.outbound.bound = none ∧ Found g h s) h (onOpen g channel lock h).2 := by
  cases hb : h.outbound.bound with
  | some b =>
    rw [onOpen_of_bound g channel lock hb]
    refine .untouched rfl fun P hs ↦ ?_
    exact .silent hs (.of_events rfl) fun n ↦ Outbound.queued_dropSending _ _ n
  | none =>
    obtain ⟨k, hk, hc, hq, hs, hw⟩ := exists_introduce g channel lock hb
    rw [hk]
    refine (settles_introduce g k).after (fun s ↦ ?_) hc hq hs
    rw [Found, hw]
    exact (and_iff_right rfl).symm

theorem store_startSession (serverId : Option String) (h : Handshake S W) :
    (startSession g serverId h).2.store = h.store := by
  by_cases hc : h.state = .connecting
  · cases hst : h.store with
    | none => rw [startSession_of_none g serverId hc hst, hst]
    | some s =>
      rw [startSession_of_some g serverId hc hst, ← hst]
      have hs := store_sendRequest g
        (.startSession (g.stores.identity s h.world).1 g.session serverId)
        (h.inWorld (g.stores.identity s h.world).2)
      revert hs
      rcases sendRequest g _ _ with ⟨_ | _, k⟩ <;> exact id
  · rw [startSession_of_ne g serverId hc]

/-- A client that has no store, and is told who it is, uses the store that is opened for it. -/
theorem settles_onIdentify {profile : Profile} {h : Handshake S W} (hn : h.store = none)
    (key secret : Bytes) :
    Settles g (OpenedFor g profile.id h) h (onIdentify g profile key secret h).2 := by
  rcases onIdentify_cases g profile key secret h with ⟨-, e, w, hr⟩ | ⟨s, w, hst | ⟨-, hi⟩, hr⟩
  · rw [hr]
    exact .failed w
  · rw [hn] at hst
    cases hst
  · rw [hr]
    refine .turned (s := s) ?_ fun P _ ho ↦ draws_welcome (ho s hi) w key secret
    unfold welcome
    split
    · exact store_setPhase _ _
    · rw [store_startSession, store_setPhase]
      rfl

/-- A client whose device was approved uses the store that is opened for it, whatever it has used
before. -/
theorem settles_onDeviceRegistered (profile : Profile) (device : UInt32) (h : Handshake S W) :
    Settles g (OpenedFor g profile.id h) h (onDeviceRegistered g profile device h).2 := by
  rcases onDeviceRegistered_cases g profile device h with
    ⟨e, w, hr⟩ | ⟨s, w, o, ⟨t, v, v', ht, hi⟩, hr⟩
  · rw [hr]
    exact .failed w
  · rw [hr]
    refine .turned (s := s) ?_ fun P hp ho ↦ ?_
    · rw [store_sendRequest, store_setPhase]
      rfl
    · have hu : P (g.stores.registerDevice profile device t v).2.1 :=
        hp t _ (ho t ht) (Descends.refl.registerDevice profile device v)
      have hs : P s := by
        have hd := hp _ _ hu (Descends.refl.offer none v')
        rwa [hi] at hd
      exact draws_moved hs w _ (.sendPreKeys hu (congrArg Prod.fst hi))

theorem settles_handle {m : Response} {owner : Uuid} {h : Handshake S W}
    (hm : owner? h m = some owner) : Settles g (OpenedFor g owner h) h (handle g m h).2 := by
  cases m with
  | identify profile key secret =>
    cases hn : h.store with
    | none =>
      obtain rfl : profile.id = owner := by simpa [owner?, hn] using hm
      exact settles_onIdentify g hn key secret
    | some s => simp [owner?, hn] at hm
  | deviceRegistered profile device =>
    cases hm
    exact settles_onDeviceRegistered g profile device h
  | _ => cases hm

/-- The stores that are opened when an envelope is received. -/
def OpenedBy (bytes : Bytes) (h : Handshake S W) (s : S) : Prop :=
  ∃ m owner, heard? g bytes h = some m ∧ owner? h m = some owner ∧
    OpenedFor g owner (listening g h) s

/-- An envelope is received: a client draws from the store in use, or from the one that it opens
then. -/
theorem settles_receive (bytes : Bytes) (h : Handshake S W) :
    Settles g (OpenedBy g bytes h) h (receive g bytes h).2 := by
  by_cases hm : ∃ m owner, heard? g bytes h = some m ∧ owner? h m = some owner
  · obtain ⟨m, owner, hh, ho⟩ := hm
    obtain ⟨w, hw⟩ := snd_cipher? g h
    obtain ⟨-, -, hr⟩ := receive_of_heard g hh
    have hl : owner? (listening g h) m = some owner := by
      rw [← ho]
      cases m <;> simp [owner?, store_listening]
    rw [hr]
    refine (settles_handle g hl).after (fun s ↦ ⟨fun hs ↦ ⟨m, owner, hh, ho, hs⟩, ?_⟩)
      (.of_events (by rw [listening, hw]; rfl)) (fun n ↦ ?_) (store_listening g h)
    · rintro ⟨m', owner', hh', ho', hs⟩
      obtain rfl : m = m' := Option.some.inj (hh.symm.trans hh')
      obtain rfl : owner = owner' := Option.some.inj (ho.symm.trans ho')
      exact hs
    · exact congrArg (Outbound.queued n) (by rw [listening, hw]; rfl)
  · refine .kept ?_ fun P hp hs ↦ draws_receive g hp (fun m hh ↦ ?_) hs
    · rintro s ⟨m, owner, hh, ho, -⟩
      exact hm ⟨m, owner, hh, ho⟩
    · cases ho : owner? h m with
      | none => rfl
      | some owner => exact absurd ⟨m, owner, hh, ho⟩ hm

end SealedSession.Handshake
