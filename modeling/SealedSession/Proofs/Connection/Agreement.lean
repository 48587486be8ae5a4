import SealedSession.Handshake
import SealedSession.Proofs.Service.Steps

/-!
# What the two ends of a connection agree on

Client and server begin to encrypt at different moments, while envelopes travel in both
directions. `View` is what decides how either end reads the next one: the state of the client, the
record that the server has of the connection, and what is on its way. `Agree` says how these hang
together.

A client that connects is in one of three situations, `Waiting`: it has not asked for trust, it has
asked, or it was answered and the answer is on its way. Only behind that answer may a reply be
encrypted. Only a connected client encrypts, and by then the server has a record of it.

* `Agree.request`, `Agree.ask`, `Agree.leave`: what the client does.
* `Agree.next_frame`, `Agree.connect`: what the client hears.
* `Agree.next_request`, `Agree.speak`, `Agree.trust_stranger`, `Agree.conclude`: what the server
  does.
-/

namespace SealedSession.Connection

/-! ## Envelopes on their way -/

/-- A request in the clear that does not ask for trust. -/
def PlainRequest (b : Bytes) : Prop :=
  ∃ r : Request, r.asksForTrust = false ∧ Envelope.encodePlain r = .ok b

/-- A request for trust in the clear, for an identity of an owner. -/
def TrustRequest (o : Uuid) (b : Bytes) : Prop :=
  ∃ i : Identity, i.owner = o ∧ Envelope.encodePlain (Request.checkTrust i) = .ok b

/-- A request that a client of an owner has encrypted for the server. -/
def SealedRequest (server : ServerIdentity) (o : Uuid) (b : Bytes) : Prop :=
  ∃ (r : Request) (i : Identity), r.asksForTrust = false ∧ i.owner = o ∧
    Envelope.encodeFor (some (.pair i)) (some server.identity) r = .ok b

/-- The confirmation of trust in the clear. -/
def TrustReply (server : ServerIdentity) (f : Frame) : Prop :=
  ∃ bytes, f = .envelope bytes ∧ Envelope.encodePlain (Response.isTrusted server) = .ok bytes

/-- A response that the server has encrypted for a client of an owner. -/
def SealedReply (server : ServerIdentity) (o : Uuid) (f : Frame) : Prop :=
  ∃ (m : Response) (i : Identity) (bytes : Bytes),
    (m.isOrdinary = true ∨ m = .isTrusted server) ∧ i.owner = o ∧ f = .envelope bytes ∧
      Envelope.encodeFor (some (.pair server.identity)) (some i) m = .ok bytes

@[simp] theorem isOrdinary_erased (m : Response) : m.erased.isOrdinary = m.isOrdinary := by
  cases m <;> rfl

@[simp] theorem asksForTrust_erased (r : Request) : r.erased.asksForTrust = r.asksForTrust := by
  cases r <;> rfl

/-- A plain request is not at the same time one for trust. -/
theorem PlainRequest.not_trustRequest {b : Bytes} (h : PlainRequest b) {o : Uuid} :
    ¬TrustRequest o b := by
  rintro ⟨i, -, hi⟩
  obtain ⟨r, hr, he⟩ := h
  have ha : r.erased = (Request.checkTrust i).erased := Envelope.erased_eq_of_encodePlain he hi
  have hb := congrArg Request.asksForTrust ha
  rw [asksForTrust_erased, hr] at hb
  cases hb

/-- A calm frame does not confirm trust. -/
theorem not_trustReply_of_calm {server : ServerIdentity} {f : Frame} (h : f.Calm) :
    ¬TrustReply server f := by
  rintro ⟨bytes, rfl, ht⟩
  rcases h with ⟨info, hf⟩ | ⟨m, bytes', hm, hf, he⟩
  · cases hf
  · cases hf
    have ha : m.erased = (Response.isTrusted server).erased :=
      Envelope.erased_eq_of_encodePlain he ht
    have hb := congrArg Response.isOrdinary ha
    rw [isOrdinary_erased, hm] at hb
    cases hb

/-! ## The agreement -/

/-- What decides how the ends of a connection read each other. -/
structure View where
  /-- The state and phase of the client, the server it knows, and the owner of its store. -/
  state : ConnectionState
  phase : Option Phase
  server : Option ServerIdentity
  owner : Option Uuid
  /-- What is on its way to the server, and to the client. -/
  up : List Bytes
  down : List Frame
  /-- The record that the server has of the connection, and whether it still serves it. -/
  record : Option SessionRecord
  served : Bool

/-- How far a client that connects has come in being trusted. -/
inductive Waiting (server : ServerIdentity) (o : Uuid) (v : View) : Prop where
  | unasked (up : ∀ b ∈ v.up, PlainRequest b) (down : ∀ f ∈ v.down, f.Calm)
      (record : v.record = none)
  | asked (owner : v.owner = some o) (phase : v.phase = some .awaitingTrustDecision)
      (down : ∀ f ∈ v.down, f.Calm) (record : v.record = none)
  | answered (owner : v.owner = some o) (phase : v.phase = some .awaitingTrustDecision)
      (before : List Frame) (f : Frame) (since : List Frame)
      (down : v.down = before ++ f :: since) (calm : ∀ f ∈ before, f.Calm)
      (trust : TrustReply server f) (sealed : ∀ f ∈ since, f.Calm ∨ SealedReply server o f)
      (record : v.served = true → v.record ≠ none)

/-- The two ends of a connection agree, `o` being the owner of the client. -/
structure Agree (server : ServerIdentity) (o : Uuid) (v : View) : Prop where
  up : ∀ b ∈ v.up, PlainRequest b ∨ TrustRequest o b ∨ SealedRequest server o b
  record : ∀ r, v.record = some r → r.identity.owner = o
  stranger : v.served = true → v.record = none →
    (∀ b ∈ v.up, PlainRequest b ∨ TrustRequest o b) ∧ v.state ≠ .connected
  connecting : v.state = .connecting → Waiting server o v
  connected : v.state = .connected → v.owner = some o ∧ v.server = some server ∧
    ∀ f ∈ v.down, f.Calm ∨ SealedReply server o f

namespace Agree

variable {server : ServerIdentity} {o : Uuid} {v : View}

/-- A connection that has just begun. -/
theorem opened (hs : v.state ≠ .connected) (hu : ∀ b ∈ v.up, PlainRequest b) (hd : v.down = [])
    (hr : v.record = none) : Agree server o v where
  up b hb := .inl (hu b hb)
  record r h := by rw [hr] at h; cases h
  stranger _ _ := ⟨fun b hb ↦ .inl (hu b hb), hs⟩
  connecting _ := .unasked hu (by simp [hd]) hr
  connected hc := absurd hc hs

/-! ### What the client does -/

/-- A client in the middle of an attempt that has not asked for trust may get anywhere, and become
anybody's. -/
theorem move {server : ServerIdentity} (up : ∀ b ∈ v.up, PlainRequest b)
    (down : ∀ f ∈ v.down, f.Calm) (record : v.record = none) (o : Uuid) (owner : Option Uuid)
    (phase : Option Phase) {bs : List Bytes} (hb : ∀ b ∈ bs, PlainRequest b)
    (hc : v.state = .connecting) :
    Agree server o { v with up := v.up ++ bs, owner := owner, phase := phase } := by
  have hu : ∀ b ∈ v.up ++ bs, PlainRequest b := List.forall_mem_append.mpr ⟨up, hb⟩
  exact
    { up := fun b hm ↦ .inl (hu b hm)
      record := fun r hr ↦ by
        rw [show v.record = some r from hr] at record
        cases record
      stranger := fun _ _ ↦ ⟨fun b hm ↦ .inl (hu b hm), by simp [hc]⟩
      connecting := fun _ ↦ .unasked hu down record
      connected := fun hn ↦ by
        rw [show v.state = _ from hn] at hc
        cases hc }

/-- A client sends in the clear until it is connected, and encrypts then. -/
theorem request (h : Agree server o v) {bs : List Bytes}
    (hb : ∀ b ∈ bs, if v.state = .connected then SealedRequest server o b else PlainRequest b) :
    Agree server o { v with up := v.up ++ bs } where
  up := by
    refine List.forall_mem_append.mpr ⟨h.up, ?_⟩
    intro b hm
    have hs := hb b hm
    split at hs
    · exact .inr (.inr hs)
    · exact .inl hs
  record := h.record
  stranger hs hr := by
    obtain ⟨hu, hc⟩ := h.stranger hs hr
    simp only [if_neg hc] at hb
    exact ⟨List.forall_mem_append.mpr ⟨hu, fun b hm ↦ .inl (hb b hm)⟩, hc⟩
  connecting hc := by
    have hn : v.state ≠ .connected := by
      rw [show v.state = _ from hc]
      simp
    have hp : ∀ b ∈ bs, PlainRequest b := by
      simpa only [if_neg hn] using hb
    cases h.connecting hc with
    | unasked up down record =>
      exact (move up down record o v.owner v.phase hp hc).connecting hc
    | asked owner phase down record =>
      exact .asked owner phase down record
    | answered owner phase before f since down calm trust sealed record =>
      exact .answered owner phase before f since down calm trust sealed record
  connected := h.connected

/-- A client asks for trust, and it is clear from then on whose it is. -/
theorem ask {bs : List Bytes} (up : ∀ b ∈ v.up, PlainRequest b) (down : ∀ f ∈ v.down, f.Calm)
    (record : v.record = none) (hc : v.state = .connecting) (ho : v.owner = some o)
    (hb : ∀ b ∈ bs, TrustRequest o b) :
    Agree server o { v with up := v.up ++ bs, phase := some .awaitingTrustDecision } := by
  have hu : ∀ b ∈ v.up ++ bs, PlainRequest b ∨ TrustRequest o b :=
    List.forall_mem_append.mpr ⟨fun b hm ↦ .inl (up b hm), fun b hm ↦ .inr (hb b hm)⟩
  exact
    { up := fun b hm ↦ (hu b hm).imp_right .inl
      record := fun r hr ↦ by
        rw [show v.record = some r from hr] at record
        cases record
      stranger := fun _ _ ↦ ⟨hu, by simp [hc]⟩
      connecting := fun _ ↦ .asked ho rfl down record
      connected := fun hn ↦ by
        rw [show v.state = _ from hn] at hc
        cases hc }

/-- A client that has left does not matter any more. -/
theorem leave (h : Agree server o v) {v' : View} (hs : v'.state = .disconnected)
    (hu : v'.up = v.up) (hr : v'.record = v.record) (hv : v'.served = v.served) :
    Agree server o v' where
  up := hu ▸ h.up
  record := hr ▸ h.record
  stranger hw hn := by
    rw [hv] at hw
    rw [hr] at hn
    exact ⟨hu ▸ (h.stranger hw hn).1, by simp [hs]⟩
  connecting hc := by
    rw [hs] at hc
    cases hc
  connected hc := by
    rw [hs] at hc
    cases hc

/-! ### What the client hears -/

/-- What the next envelope for a client may be: an ordinary response in the clear, the confirmation
of trust for a client that connects, or something encrypted for one that is connected. -/
theorem next_frame (h : Agree server o v) {bytes : Bytes} {rest : List Frame}
    (hd : v.down = .envelope bytes :: rest) (hs : v.state ≠ .disconnected) :
    (∃ m : Response, m.isOrdinary = true ∧ Envelope.encodePlain m = .ok bytes) ∨
    (v.state = .connecting ∧ TrustReply server (.envelope bytes)) ∨
    (v.state = .connected ∧ SealedReply server o (.envelope bytes)) := by
  have hc {f : Frame} (hf : f = .envelope bytes) (h : f.Calm) :
      ∃ m : Response, m.isOrdinary = true ∧ Envelope.encodePlain m = .ok bytes := by
    rcases h with ⟨info, hi⟩ | ⟨m, bytes', hm, hb, he⟩
    · rw [hi] at hf
      cases hf
    · rw [hb] at hf
      cases hf
      exact ⟨m, hm, he⟩
  have hm : .envelope bytes ∈ v.down := by rw [hd]; exact List.mem_cons_self
  cases hv : v.state with
  | disconnected => exact absurd hv hs
  | connecting =>
    cases h.connecting hv with
    | unasked up down record =>
      exact .inl (hc rfl (down _ hm))
    | asked owner phase down record =>
      exact .inl (hc rfl (down _ hm))
    | answered owner phase before t since down calm trust sealed record =>
      rw [hd] at down
      cases before with
      | nil =>
        cases down
        exact .inr (.inl ⟨rfl, trust⟩)
      | cons g before =>
        cases down
        exact .inl (hc rfl (calm _ List.mem_cons_self))
  | connected =>
    obtain ⟨-, -, down⟩ := h.connected hv
    rcases down _ hm with hf | hf
    · exact .inl (hc rfl hf)
    · exact .inr (.inr ⟨rfl, hf⟩)

/-- A calm frame may be taken at any time. -/
theorem pop_calm (h : Agree server o v) {f : Frame} {rest : List Frame} (hd : v.down = f :: rest)
    (hf : f.Calm) : Agree server o { v with down := rest } where
  up := h.up
  record := h.record
  stranger := h.stranger
  connecting hc := by
    cases h.connecting hc with
    | unasked up down record =>
      rw [hd] at down
      exact .unasked up (fun g hg ↦ down g (List.mem_cons_of_mem _ hg)) record
    | asked owner phase down record =>
      rw [hd] at down
      exact .asked owner phase (fun g hg ↦ down g (List.mem_cons_of_mem _ hg)) record
    | answered owner phase before t since down calm trust sealed record =>
      rw [hd] at down
      cases before with
      | nil =>
        cases down
        exact absurd trust (not_trustReply_of_calm hf)
      | cons g before =>
        cases down
        exact .answered owner phase before t since rfl
          (fun k hk ↦ calm k (List.mem_cons_of_mem _ hk)) trust sealed record
  connected hc := by
    obtain ⟨owner, hs, down⟩ := h.connected hc
    rw [hd] at down
    exact ⟨owner, hs, fun g hg ↦ down g (List.mem_cons_of_mem _ hg)⟩

/-- A connected client may take whatever it is sent. -/
theorem pop_connected (h : Agree server o v) {f : Frame} {rest : List Frame}
    (hd : v.down = f :: rest) (hc : v.state = .connected) :
    Agree server o { v with down := rest } where
  up := h.up
  record := h.record
  stranger := h.stranger
  connecting hn := by
    rw [show v.state = _ from hn] at hc
    cases hc
  connected hc := by
    obtain ⟨owner, hs, down⟩ := h.connected hc
    rw [hd] at down
    exact ⟨owner, hs, fun g hg ↦ down g (List.mem_cons_of_mem _ hg)⟩

/-- A client that connects hears of trust only once it was answered. -/
theorem answered_of_trustReply (h : Agree server o v) {f : Frame} {rest : List Frame}
    (hd : v.down = f :: rest) (hf : TrustReply server f) (hc : v.state = .connecting) :
    v.owner = some o ∧ v.phase = some .awaitingTrustDecision ∧
      (∀ g ∈ rest, g.Calm ∨ SealedReply server o g) ∧ (v.served = true → v.record ≠ none) := by
  cases h.connecting hc with
  | unasked up down record =>
    exact absurd hf (not_trustReply_of_calm (down f (by rw [hd]; exact List.mem_cons_self)))
  | asked owner phase down record =>
    exact absurd hf (not_trustReply_of_calm (down f (by rw [hd]; exact List.mem_cons_self)))
  | answered owner phase before t since down calm trust sealed record =>
    rw [hd] at down
    cases before with
    | nil =>
      cases down
      exact ⟨owner, phase, sealed, record⟩
    | cons g before =>
      cases down
      exact absurd hf (not_trustReply_of_calm (calm f List.mem_cons_self))

/-- Told that it is trusted, a client is connected. -/
theorem connect (h : Agree server o v) {f : Frame} {rest : List Frame} (hd : v.down = f :: rest)
    (hf : TrustReply server f) (hc : v.state = .connecting) :
    Agree server o { v with state := .connected, phase := none, server := some server,
                            down := rest } := by
  obtain ⟨owner, -, sealed, record⟩ := h.answered_of_trustReply hd hf hc
  exact
    { up := h.up
      record := h.record
      stranger := fun hs hr ↦ absurd hr (record hs)
      connecting := fun hn ↦ by cases hn
      connected := fun _ ↦ ⟨owner, rfl, sealed⟩ }

/-! ### What the server does -/

/-- What the next envelope for the server may be; one that is encrypted comes from a connection
that has a record. -/
theorem next_request (h : Agree server o v) {b : Bytes} {rest : List Bytes}
    (hu : v.up = b :: rest) (hs : v.served = true) :
    PlainRequest b ∨ TrustRequest o b ∨
      SealedRequest server o b ∧ ∃ r, v.record = some r ∧ r.identity.owner = o := by
  have hm : b ∈ v.up := by rw [hu]; exact List.mem_cons_self
  cases hr : v.record with
  | none => exact ((h.stranger hs hr).1 b hm).imp_right .inl
  | some r =>
    rcases h.up b hm with hb | hb | hb
    · exact .inl hb
    · exact .inr (.inl hb)
    · exact .inr (.inr ⟨hb, r, rfl, h.record r hr⟩)

/-- The server has taken a request. -/
theorem unqueue (h : Agree server o v) {b : Bytes} {rest : List Bytes} (hu : v.up = b :: rest) :
    Agree server o { v with up := rest } where
  up c hc := h.up c (by rw [hu]; exact List.mem_cons_of_mem _ hc)
  record := h.record
  stranger hs hr := by
    obtain ⟨hp, hc⟩ := h.stranger hs hr
    exact ⟨fun c hm ↦ hp c (by rw [hu]; exact List.mem_cons_of_mem _ hm), hc⟩
  connecting hc := by
    cases h.connecting hc with
    | unasked up down record =>
      rw [hu] at up
      exact .unasked (fun c hm ↦ up c (List.mem_cons_of_mem _ hm)) down record
    | asked owner phase down record =>
      exact .asked owner phase down record
    | answered owner phase before f since down calm trust sealed record =>
      exact .answered owner phase before f since down calm trust sealed record
  connected := h.connected

/-- The server may send more, in the clear or, once it has a record, encrypted. -/
theorem push (h : Agree server o v) {fs : List Frame}
    (hf : ∀ f ∈ fs, f.Calm ∨ SealedReply server o f)
    (hr : v.record = none → ∀ f ∈ fs, f.Calm) :
    Agree server o { v with down := v.down ++ fs } where
  up := h.up
  record := h.record
  stranger := h.stranger
  connecting hc := by
    cases h.connecting hc with
    | unasked up down record =>
      exact .unasked up (List.forall_mem_append.mpr ⟨down, hr record⟩) record
    | asked owner phase down record =>
      exact .asked owner phase (List.forall_mem_append.mpr ⟨down, hr record⟩) record
    | answered owner phase before f since down calm trust sealed record =>
      have hd : v.down ++ fs = before ++ f :: (since ++ fs) := by
        rw [down, List.append_assoc, List.cons_append]
      exact .answered owner phase before f (since ++ fs) hd calm trust
        (List.forall_mem_append.mpr ⟨sealed, hf⟩) record
  connected hc := by
    obtain ⟨owner, hs, down⟩ := h.connected hc
    exact ⟨owner, hs, List.forall_mem_append.mpr ⟨down, hf⟩⟩

/-- A calm frame may be sent at any time. -/
theorem push_calm (h : Agree server o v) {fs : List Frame} (hf : ∀ f ∈ fs, f.Calm) :
    Agree server o { v with down := v.down ++ fs } :=
  h.push (fun f hm ↦ .inl (hf f hm)) (fun _ ↦ hf)

/-- Once it has a record, the server may send encrypted. -/
theorem push_sealed (h : Agree server o v) {fs : List Frame} (hr : v.record ≠ none)
    (hf : ∀ f ∈ fs, SealedReply server o f) : Agree server o { v with down := v.down ++ fs } :=
  h.push (fun f hm ↦ .inr (hf f hm)) (fun hn ↦ absurd hn hr)

/-- Frames that are ordinary for the record may be sent. -/
theorem speak (h : Agree server o v) {fs : List Frame}
    (hf : Exchange.Ordinary (fun _ ↦ .pair server.identity) v.record fs) :
    Agree server o { v with down := v.down ++ fs } := by
  rcases Option.eq_none_or_eq_some v.record with hr | ⟨r, hr⟩
  · apply h.push_calm
    intro f hm
    obtain ⟨m, bytes, _, ho, he, hb⟩ := hf f hm
    rw [hr] at hb
    exact .inr ⟨m, bytes, ho, he, hb⟩
  · apply h.push_sealed (by simp [hr])
    intro f hm
    obtain ⟨m, bytes, _, ho, he, hb⟩ := hf f hm
    rw [hr] at hb
    exact ⟨m, r.identity, bytes, .inl ho, h.record r hr, he, hb⟩

/-- A record may be replaced by one for the same owner. -/
theorem rerecord (h : Agree server o v) {r : SessionRecord} (hr : v.record ≠ none)
    (ho : r.identity.owner = o) : Agree server o { v with record := some r } where
  up := h.up
  record s hs := by cases hs; exact ho
  stranger _ hn := by cases hn
  connecting hc := by
    cases h.connecting hc with
    | unasked up down record =>
      exact absurd record hr
    | asked owner phase down record =>
      exact absurd record hr
    | answered owner phase before f since down calm trust sealed record =>
      exact .answered owner phase before f since down calm trust sealed (fun _ ↦ by simp)
  connected := h.connected

/-- Asked for trust by a stranger, the server confirms it in the clear, and has a record. -/
theorem trust_stranger (h : Agree server o v) {b : Bytes} {rest : List Bytes}
    (hu : v.up = b :: rest) (hb : TrustRequest o b) (hs : v.served = true)
    (hn : v.record = none) {f : Frame} (hf : TrustReply server f) {r : SessionRecord}
    (hr : r.identity.owner = o) :
    Agree server o { v with up := rest, down := v.down ++ [f], record := some r } where
  up := (h.unqueue hu).up
  record s hs := by cases hs; exact hr
  stranger _ hn := by cases hn
  connecting hc := by
    cases h.connecting hc with
    | unasked up down record =>
      exact absurd hb ((up b (by rw [hu]; exact List.mem_cons_self)).not_trustRequest)
    | asked owner phase down record =>
      exact .answered owner phase v.down f [] rfl down hf (by simp) (fun _ ↦ by simp)
    | answered owner phase before f since down calm trust sealed record =>
      exact absurd hn (record hs)
  connected hc := absurd hc (h.stranger hs hn).2

/-- The end of a session is told calmly, and leaves no record. -/
theorem conclude (h : Agree server o v) {fs : List Frame} (hf : ∀ f ∈ fs, f.Calm) :
    Agree server o { v with down := v.down ++ fs, record := none, served := false } where
  up := h.up
  record r hr := by cases hr
  stranger hs _ := by cases hs
  connecting hc := by
    cases (h.push_calm hf).connecting hc with
    | unasked up down record =>
      exact .unasked up down rfl
    | asked owner phase down record =>
      exact .asked owner phase down rfl
    | answered owner phase before f since down calm trust sealed record =>
      exact .answered owner phase before f since down calm trust sealed (fun hs ↦ by cases hs)
  connected := (h.push_calm hf).connected

end Agree

end SealedSession.Connection
