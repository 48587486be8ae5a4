import SealedSession.Proofs.Handshake.Standing

/-!
# What a client queues

A client sends through the channel that it is bound to. The lemmas below say for each operation
which envelopes it adds to that channel, and that it keeps its store.

* `Sent`: what was queued between two states.
* `sent_sendRequest`: a request is queued in the envelope of the present state, or it is not.
* `sent_startSession`, `sent_onIdentify`, `sent_onSessionStarted`: what the handshake sends.
-/

namespace SealedSession

namespace Outbound

/-- What is queued on a channel. -/
def queued (n : Nat) (o : Outbound) : List Bytes :=
  ((o.channels[n]?).map Channel.queue).getD []

/-- An envelope is put at the end of the queue, or it is not. -/
theorem queued_send {o : Outbound} {n : Nat} (hb : o.bound = none ∨ o.bound = some n)
    (bytes : Bytes) :
    ∃ bs, (o.send bytes).1.queued n = o.queued n ++ bs ∧ ∀ b ∈ bs, b = bytes := by
  rcases hb with hb | hb
  · exact ⟨[], by rw [send, hb, List.append_nil], by simp⟩
  · rw [send, hb]
    dsimp only
    cases hc : o.channels[n]? with
    | none => exact ⟨[], by rw [List.append_nil], by simp⟩
    | some ch =>
      dsimp only
      split
      · refine ⟨[bytes], ?_, by simp⟩
        simp [queued, adjust, hc]
      · exact ⟨[], by rw [List.append_nil], by simp⟩

/-- Letting go of a channel takes nothing from any queue. -/
theorem queued_dropSending (o : Outbound) (c n : Nat) :
    (o.dropSending c).queued n = o.queued n := by
  unfold queued dropSending adjust
  rw [List.getElem?_modify]
  split
  · cases o.channels[n]? <;> rfl
  · cases o.channels[n]? <;> rfl

theorem queued_unbind (o : Outbound) (n : Nat) : o.unbind.queued n = o.queued n := by
  unfold unbind
  split
  · exact queued_dropSending o _ n
  · rfl

@[simp] theorem bound_unbind (o : Outbound) : o.unbind.bound = none := by
  cases h : o.bound <;> simp [unbind, h]

/-- What is taken is the head of the queue. -/
theorem queued_take {o o' : Outbound} {n : Nat} {bytes : Bytes}
    (h : o.take? n = some (bytes, o')) :
    o.queued n = bytes :: o'.queued n ∧ o'.bound = o.bound := by
  unfold take? at h
  split at h
  · next hq =>
    cases h
    obtain ⟨ch, hc, hch⟩ := Option.map_eq_some_iff.mp hq
    refine ⟨?_, rfl⟩
    simp [queued, adjust, hc, hch]
  · cases h

end Outbound

namespace Handshake

variable {S W : Type} (g : Settings S W)

/-- What is queued on a channel. -/
def queued (n : Nat) (h : Handshake S W) : List Bytes := h.outbound.queued n

/-- A client that uses one channel alone. -/
def Uses (n : Nat) (h : Handshake S W) : Prop :=
  h.outbound.bound = none ∨ h.outbound.bound = some n

/-- Between two states, some envelopes were queued, and no other channel was bound. -/
structure Sent (n : Nat) (h : Handshake S W) (bs : List Bytes) (h' : Handshake S W) : Prop where
  queued : h'.queued n = h.queued n ++ bs
  uses : h'.Uses n

section

variable {n : Nat} {h h' : Handshake S W}

/-- Nothing was queued. -/
theorem Sent.refl (hu : h.Uses n) (ho : h'.outbound = h.outbound) : Sent n h [] h' where
  queued := by rw [Handshake.queued, ho, List.append_nil]; rfl
  uses := by rw [Uses, ho]; exact hu

theorem Sent.of_outbound {bs : List Bytes} {k : Handshake S W} (hs : Sent n h bs k)
    (ho : h'.outbound = k.outbound) : Sent n h bs h' where
  queued := by rw [← hs.queued, Handshake.queued, ho]; rfl
  uses := by rw [Uses, ho]; exact hs.uses

theorem Sent.from_outbound {bs : List Bytes} {k : Handshake S W} (hs : Sent n k bs h')
    (ho : k.outbound = h.outbound) : Sent n h bs h' where
  queued := by rw [hs.queued, Handshake.queued, ho]; rfl
  uses := hs.uses

end

theorem envelope_of_ne {h : Handshake S W} (r : Request) (hc : h.state ≠ .connected) :
    envelope g r h = Envelope.encodePlain r := if_neg hc

theorem envelope_of_connected {h : Handshake S W} (r : Request) (hc : h.state = .connected) :
    envelope g r h =
      Envelope.encodeFor (cipher? g h).1 (h.serverIdentity.map (·.identity)) r := if_pos hc

/-- A request is queued in its envelope, or it is not; the store stays. -/
theorem sent_sendRequest {n : Nat} {h : Handshake S W} (hu : h.Uses n) (r : Request) :
    ∃ bs, Sent n h bs (sendRequest g r h).2 ∧ (sendRequest g r h).2.store = h.store ∧
      ∀ b ∈ bs, envelope g r h = .ok b := by
  obtain ⟨w, ⟨bytes, he, -, hr⟩ | ⟨-, hr⟩ | ⟨e, hr⟩⟩ := sendRequest_cases g r h
  · obtain ⟨bs, hq, hb⟩ := Outbound.queued_send hu bytes
    rw [hr]
    refine ⟨bs, ⟨hq, ?_⟩, rfl, fun b hm ↦ hb b hm ▸ he⟩
    rw [Uses, Outbound.bound_send]
    exact hu
  · rw [hr]
    exact ⟨[], .refl hu rfl, rfl, by simp⟩
  · rw [hr]
    exact ⟨[], .refl hu rfl, rfl, by simp⟩

theorem sent_announce {n : Nat} {h : Handshake S W} {bs : List Bytes} (i : Identity)
    {x : Except ClientError Unit × Handshake S W} (hs : Sent n h bs x.2) :
    Sent n h bs (announce i x).2 ∧ (announce i x).2.store = x.2.store := by
  rcases x with ⟨_ | _, k⟩
  · exact ⟨hs, rfl⟩
  · exact ⟨hs.of_outbound rfl, rfl⟩

/-- Starting the session queues at most the request to start it, in the clear. -/
theorem sent_startSession {n : Nat} {h : Handshake S W} (hu : h.Uses n)
    (serverId : Option String) :
    ∃ bs, Sent n h bs (startSession g serverId h).2 ∧
      (startSession g serverId h).2.store = h.store ∧
      ∀ b ∈ bs, h.state = .connecting ∧
        ∃ i, Envelope.encodePlain (Request.startSession i g.session serverId) = .ok b := by
  by_cases hc : h.state = .connecting
  · cases hs : h.store with
    | none =>
      rw [startSession_of_none g serverId hc hs]
      exact ⟨[], .refl hu rfl, hs, by simp⟩
    | some s =>
      rw [startSession_of_some g serverId hc hs]
      obtain ⟨i, hi⟩ : ∃ i, i = (g.stores.identity s h.world).1 := ⟨_, rfl⟩
      obtain ⟨k, hk⟩ : ∃ k, k = h.inWorld (g.stores.identity s h.world).2 := ⟨_, rfl⟩
      have hku : k.Uses n := hk ▸ hu
      have hkc : k.state ≠ .connected := by simp [hk, hc]
      rw [← hi, ← hk]
      obtain ⟨bs, hq, ht, hb⟩ := sent_sendRequest g hku (.startSession i g.session serverId)
      obtain ⟨ha, hst⟩ := sent_announce i hq
      refine ⟨bs, ha.from_outbound (by rw [hk]; rfl), ?_, fun b hm ↦ ⟨hc, i, ?_⟩⟩
      · rw [hst, ht, hk, store_inWorld, hs]
      · rw [← envelope_of_ne g _ hkc]
        exact hb b hm
  · rw [startSession_of_ne g serverId hc]
    exact ⟨[], .refl hu rfl, rfl, by simp⟩

@[simp] theorem outbound_setPhase (p : Phase) (h : Handshake S W) :
    (setPhase p h).outbound = h.outbound := by
  unfold setPhase
  split <;> rfl

@[simp] theorem store_setPhase (p : Phase) (h : Handshake S W) :
    (setPhase p h).store = h.store := by
  unfold setPhase
  split <;> rfl

@[simp] theorem state_setPhase (p : Phase) (h : Handshake S W) :
    (setPhase p h).state = h.state := by
  unfold setPhase
  split <;> rfl

/-- Welcomed, a client queues at most the request to start the session, in the clear. -/
theorem sent_onIdentify {n : Nat} {h : Handshake S W} (hu : h.Uses n) (profile : Profile)
    (key secret : Bytes) :
    ∃ bs, Sent n h bs (onIdentify g profile key secret h).2 ∧
      ∀ b ∈ bs, h.state = .connecting ∧
        ∃ i, Envelope.encodePlain (Request.startSession i g.session none) = .ok b := by
  rcases onIdentify_cases g profile key secret h with ⟨-, e, w, hr⟩ | ⟨s, w, -, hr⟩
  · rw [hr]
    exact ⟨[], .refl hu rfl, by simp⟩
  · rw [hr]
    obtain ⟨k, hk⟩ : ∃ k, k = setPhase .awaitingSessionStart ((keepStore s h).inWorld w) :=
      ⟨_, rfl⟩
    have ho : k.outbound = h.outbound := by rw [hk, outbound_setPhase]; rfl
    have hc : k.state = h.state := by rw [hk, state_setPhase]; rfl
    have hku : k.Uses n := by rw [Uses, ho]; exact hu
    rw [← hk]
    unfold welcome
    split
    · exact ⟨[], .refl hu ho, by simp⟩
    · obtain ⟨bs, hs, -, hb⟩ := sent_startSession g hku none
      rw [hc] at hb
      exact ⟨bs, hs.from_outbound ho, hb⟩

/-- Told that the session has started, a client queues at most the question whether it is
trusted, in the clear while it connects. -/
theorem sent_onSessionStarted {n : Nat} {h : Handshake S W} (hu : h.Uses n) {s : S}
    (hs : h.store = some s) (hc : h.state ≠ .connected) :
    ∃ bs, Sent n h bs (onSessionStarted g h).2 ∧ (onSessionStarted g h).2.store = some s ∧
      ∀ b ∈ bs, Envelope.encodePlain
        (Request.checkTrust (g.stores.identity s h.world).1) = .ok b := by
  rw [onSessionStarted_of_some g hs]
  obtain ⟨k, hk⟩ : ∃ k, k = setPhase .awaitingTrustDecision
    (h.inWorld (g.stores.identity s h.world).2) := ⟨_, rfl⟩
  have ho : k.outbound = h.outbound := by rw [hk, outbound_setPhase]; rfl
  have hkc : k.state ≠ .connected := by rw [hk, state_setPhase]; exact hc
  have hku : k.Uses n := by rw [Uses, ho]; exact hu
  rw [← hk]
  obtain ⟨bs, hq, ht, hb⟩ := sent_sendRequest g hku
    (.checkTrust (g.stores.identity s h.world).1)
  refine ⟨bs, hq.from_outbound ho, ?_, fun b hm ↦ ?_⟩
  · rw [ht, hk, store_setPhase, store_inWorld, hs]
  · rw [← envelope_of_ne g _ hkc]
    exact hb b hm

/-- A change of the state queues nothing. -/
theorem sent_changeState {n : Nat} {h : Handshake S W} (hu : h.Uses n) (next : ConnectionState) :
    Sent n h [] (changeState g next h) := by
  have he : Sent n h [] (enter g next h) := by
    cases next with
    | disconnected =>
      have ho : (enter g .disconnected h).outbound = h.outbound.unbind := by
        simp only [enter, reduceCtorEq, if_false, if_true, emit, teardown, settleStore]
        split <;> rfl
      constructor
      · rw [queued, ho, Outbound.queued_unbind, List.append_nil]
        rfl
      · rw [Uses, ho]
        exact .inl (Outbound.bound_unbind _)
    | connecting => exact .refl hu rfl
    | connected => exact .refl hu rfl
  unfold changeState
  by_cases hc : h.state = next
  · rw [if_pos hc]
    split
    · exact .refl hu rfl
    · exact .refl hu rfl
  · rw [if_neg hc]
    split
    · exact he.of_outbound rfl
    · exact he

/-- Entering another state than disconnected keeps the store. -/
theorem store_changeState {h : Handshake S W} {next : ConnectionState}
    (hn : next ≠ .disconnected) : (changeState g next h).store = h.store := by
  unfold changeState
  rw [if_neg hn]
  split
  · rfl
  · cases next with
    | disconnected => exact absurd rfl hn
    | connecting => rfl
    | connected => rfl

/-- So it does the channels and the world. -/
theorem outbound_changeState {h : Handshake S W} {next : ConnectionState}
    (hn : next ≠ .disconnected) : (changeState g next h).outbound = h.outbound := by
  unfold changeState
  rw [if_neg hn]
  split
  · rfl
  · simp only [enter, if_neg hn]
    rfl

theorem world_changeState {h : Handshake S W} {next : ConnectionState}
    (hn : next ≠ .disconnected) : (changeState g next h).world = h.world := by
  unfold changeState
  rw [if_neg hn]
  split
  · rfl
  · simp only [enter, if_neg hn]
    rfl

end Handshake

end SealedSession
