import SealedSession.IdentityStore.Scripted
import SealedSession.Proofs.Connection.Client
import SealedSession.Proofs.Connection.Server
import SealedSession.Proofs.Service.Echoing

/-!
# Client and service agree on what is encrypted

The ends of a connection begin to encrypt at different moments, but neither ever gets what it
cannot read. `EndsAgree` says that the client stands soundly, sends on no other connection, and that
what is on its way in either direction is what the other end expects. It holds when the socket is
opened, and every move keeps it.

* `onOpen_spec`: what a client has sent once it has opened a socket.
* `endsAgree_opened`, `endsAgree_move`, `endsAgree_run`: the ends agree in every joint state.
* `modes_agree`: what follows for the next envelope in either direction.
-/

namespace SealedSession

namespace Envelope

/-- A plain envelope is marked as such. -/
theorem peekMode_encodePlain {α : Type} [Payload α] {m : α} {bytes : Bytes}
    (h : encodePlain m = .ok bytes) : peekMode bytes = .ok (some .plain) := by
  obtain ⟨-, rfl⟩ := write_ok h
  rw [peekMode, readHeader_header]
  exact congrArg Except.ok (Mode.ofWire?_toWire .plain)

theorem peekMode_of_toOption {bytes : Bytes} {mode : Option Mode}
    (h : (peekMode bytes).toOption = some mode) : peekMode bytes = .ok mode := by
  cases hm : peekMode bytes with
  | ok m =>
    rw [hm] at h
    exact congrArg Except.ok (Option.some.inj h)
  | error e =>
    rw [hm] at h
    cases h

end Envelope

namespace Connection

open Handshake

variable {S W A : Type} (e : Ends S W A) (c : ConnectionId) (n : Nat)

/-- The client stands soundly, sends on no connection but this one, and agrees with the service, for
the player it has named, on what is on its way between them. -/
structure EndsAgree (j : Joint S W A) : Prop where
  sound : j.client.standing.Sound e.client.refreshLimit
  uses : j.client.Uses n
  facing : ∃ o, Facing e c n o j

/-! ## Opening -/

/-- Introducing itself, a client that connects sends in the clear who it is. -/
theorem sent_introduce {g : Settings S W} {h : Handshake S W} (hu : h.Uses n)
    (hc : h.state ≠ .connected) :
    ∃ bs, Sent n h bs (introduce g h).2 ∧ ∀ b ∈ bs, PlainRequest b := by
  have sent {k : Handshake S W} {r : Request} (ho : k.outbound = h.outbound)
      (hk : k.state = h.state) (hr : r.asksForTrust = false) :
      ∃ bs, Sent n h bs (sendRequest g r k).2 ∧ ∀ b ∈ bs, PlainRequest b := by
    obtain ⟨bs, hq, -, hb⟩ := sent_sendRequest g (show k.Uses n by rw [Uses, ho]; exact hu) r
    refine ⟨bs, hq.from_outbound ho, fun b hm ↦ ⟨r, hr, ?_⟩⟩
    rw [← envelope_of_ne g r (by rw [hk]; exact hc)]
    exact hb b hm
  rcases introduce_cases g h with ⟨x, w, hr⟩ | ⟨w, hr⟩ | ⟨s, w, -, hr⟩ | ⟨s, i, t, w, -, hr⟩
  · rw [hr]
    exact ⟨[], .refl hu rfl, by simp⟩
  · rw [hr]
    exact sent rfl rfl rfl
  · rw [hr]
    exact sent rfl rfl rfl
  · rw [hr]
    exact sent rfl rfl rfl

/-- A client that has opened a socket connects, and has sent in the clear who it is. -/
theorem onOpen_spec {g : Settings S W} {h : Handshake S W} (lock : Option HomeLock)
    (hb : h.outbound.bound = none) (hn : h.queued n = []) :
    (onOpen g n lock h).2.state = .connecting ∧ (onOpen g n lock h).2.Uses n ∧
      ∀ b ∈ (onOpen g n lock h).2.queued n, PlainRequest b := by
  rw [onOpen_of_unbound g n lock hb]
  have hs := sent_changeState g (n := n)
    (h := { h with lock := lock, outbound := { h.outbound with bound := some n } }) (.inr rfl)
    .connecting
  obtain ⟨k, hk⟩ : ∃ k, k = changeState g .connecting
    { h with lock := lock, outbound := { h.outbound with bound := some n } } := ⟨_, rfl⟩
  have hc : k.state = .connecting := by rw [hk, state_changeState]
  rw [← hk] at hs ⊢
  have hq : k.queued n = [] := hs.queued.trans ((List.append_nil _).trans hn)
  obtain ⟨bs, hi, hbs⟩ := sent_introduce n (g := g) hs.uses (by simp [hc])
  refine ⟨?_, hi.uses, ?_⟩
  · rw [← state_standing]
    rcases standing_introduce g k with hi | hi <;> rw [hi] <;> exact hc
  · rw [hi.queued, hq]
    exact hbs

variable {e c} in
/-- A client and a service that have just been joined agree. -/
theorem endsAgree_opened {h : Handshake S W} {s : Service A} (lock : Option HomeLock)
    (hs : h.standing.Sound e.client.refreshLimit) (hd : h.state = .disconnected)
    (hr : s.record? c = none) (hc : s.exchange.ciphers = e.service.ciphers) :
    EndsAgree e c h.outbound.create.2 (opened e c lock h s) := by
  have hb : h.outbound.bound = none := by
    have hn : ¬h.standing.bound = true := fun hb ↦ hs.bound_iff.mp hb hd
    simpa [Outbound.isBound] using hn
  have hq : (h.withOutbound h.outbound.create.1).queued h.outbound.create.2 = [] := by
    simp [Handshake.queued, withOutbound, Outbound.queued, Outbound.create]
  obtain ⟨ho, hu, hp⟩ := onOpen_spec (g := e.client) h.outbound.create.2
    (h := h.withOutbound h.outbound.create.1) lock hb hq
  refine ⟨?_, hu, default, Nat.zero_le _, hc.trans e.ciphers_service, ?_⟩
  · exact hs.step (step_onOpen e.client h.outbound.create.2 lock
      (h.withOutbound h.outbound.create.1))
  · have hw : Service.written c (s.accept e.service c) = [] := by
      simp [Service.written, Service.accept]
    refine Agree.opened ?_ hp ?_ hr
    · change (onOpen e.client h.outbound.create.2 lock
        (h.withOutbound h.outbound.create.1)).2.state ≠ _
      rw [ho]
      decide
    · rw [view, viewOf, coming, opened, hw]
      rfl

/-! ## Moving -/

variable {e c n}

/-- The service is brought what the client has sent. -/
theorem endsAgree_serve {j : Joint S W A} (h : EndsAgree e c n j) {bytes : Bytes} {q : Outbound}
    (ht : j.client.outbound.take? n = some (bytes, q)) :
    EndsAgree e c n { j with
      client := j.client.withOutbound q
      service := Service.arrive e.service c (.envelope bytes) j.service } := by
  obtain ⟨o, hf⟩ := h.facing
  obtain ⟨hq, hb⟩ := Outbound.queued_take ht
  have hk : (j.client.withOutbound q).standing = j.client.standing := by
    simp [standing, withOutbound, Outbound.isBound, hb]
  have hu : (j.client.withOutbound q).Uses n := by
    change q.bound = none ∨ q.bound = some n
    rw [hb]
    exact h.uses
  exact ⟨by rw [hk]; exact h.sound, hu, o, hf.arrive_request hq hk rfl⟩

/-- The client is brought what the service has written. -/
theorem endsAgree_hear {j : Joint S W A} (h : EndsAgree e c n j) {f : Frame} {rest : List Frame}
    (hd : coming c j = f :: rest) :
    EndsAgree e c n { j with
      client := (perform e.client j.client f.operation).2, taken := j.taken + 1 } := by
  obtain ⟨o, hf⟩ := h.facing
  have ha := hf.agree
  rw [view, hd] at ha
  obtain ⟨hu, o', ha'⟩ := agree_hear e h.sound h.uses rfl ha
  have hl : j.taken + 1 ≤ (j.service.written c).length := by
    have hlen := congrArg List.length hd
    rw [coming, List.length_drop, List.length_cons] at hlen
    omega
  have hr : (j.service.written c).drop (j.taken + 1) = rest := by
    rw [← List.drop_drop, show (j.service.written c).drop j.taken = _ from hd]
    rfl
  refine ⟨h.sound.step (step_perform e.client j.client f.operation), hu, o', hl, hf.ciphers, ?_⟩
  rw [view, coming, hr]
  exact ha'

/-- Whatever happens next, the ends agree afterwards. -/
theorem endsAgree_move {j : Joint S W A} (h : EndsAgree e c n j) (m : Move W) :
    EndsAgree e c n (move e c n j m) := by
  obtain ⟨o, hf⟩ := h.facing
  cases m with
  | serve =>
    simp only [move]
    split
    · next ht => exact endsAgree_serve h ht
    · exact h
  | hear =>
    simp only [move]
    split
    · next hd => exact endsAgree_hear h hd
    · exact h
  | act op own =>
    obtain ⟨hu, ha⟩ := agree_own e hf.agree h.uses op own
    exact ⟨h.sound.step (step_perform e.client j.client op), hu, o, hf.taken, hf.ciphers, ha⟩
  | closed info => exact ⟨h.sound, h.uses, o, hf.arrive_end (by simp)⟩
  | broken system => exact ⟨h.sound, h.uses, o, hf.arrive_end (by simp)⟩
  | conclude d exit => exact ⟨h.sound, h.uses, o, hf.conclude d exit⟩
  | pass span => exact ⟨h.sound, h.uses, o, hf.pass span⟩

theorem endsAgree_run {j : Joint S W A} (h : EndsAgree e c n j) (ms : List (Move W)) :
    EndsAgree e c n (run e c n j ms) :=
  run_induction e c n (P := EndsAgree e c n) h (fun _ m hj ↦ endsAgree_move hj m) ms

/-! ## What is brought to either end -/

/-- The service reads the next envelope of its client; an encrypted one only reaches it once the
connection has been identified. -/
theorem EndsAgree.request_read {j : Joint S W A} (h : EndsAgree e c n j) {bytes : Bytes}
    {rest : List Bytes} (hu : j.client.queued n = bytes :: rest)
    (hs : j.service.isServed c = true) :
    (∃ r, (Service.read e.service c bytes j.service).1 = .ok (some r)) ∧
      (Envelope.peekMode bytes = .ok (some .encrypted) →
        j.service.exchange.directory.isIdentified c = true) := by
  obtain ⟨o, hf⟩ := h.facing
  obtain ⟨r, hr, -, hm⟩ := read_request (c := c) hf.agree rfl hs hu hf.ciphers
  refine ⟨⟨r, hr⟩, fun hp ↦ ?_⟩
  rcases hm with ⟨m, he⟩ | hrec
  · rw [Envelope.peekMode_encodePlain he] at hp
    cases hp
  · exact Option.isSome_iff_ne_none.mpr hrec

/-- A client that has not left reads the next envelope of its service; an encrypted one only
reaches it once it is connected. -/
theorem EndsAgree.frame_read {j : Joint S W A} (h : EndsAgree e c n j) {bytes : Bytes}
    {rest : List Frame} (hd : coming c j = .envelope bytes :: rest)
    (hs : j.client.state ≠ .disconnected) :
    (∃ m, reading e.client bytes j.client = .ok (some m)) ∧
      (Envelope.peekMode bytes = .ok (some .encrypted) → j.client.state = .connected) := by
  obtain ⟨o, hf⟩ := h.facing
  rcases reading_frame e hf.agree hd hs with ⟨m, -, he, hr⟩ | ⟨-, ⟨bytes', hb, he⟩, hr⟩ |
    ⟨hc, m, -, hr⟩
  · refine ⟨⟨_, hr⟩, fun hp ↦ ?_⟩
    rw [Envelope.peekMode_encodePlain he] at hp
    cases hp
  · cases hb
    refine ⟨⟨_, hr⟩, fun hp ↦ ?_⟩
    rw [Envelope.peekMode_encodePlain he] at hp
    cases hp
  · exact ⟨⟨_, hr⟩, fun _ ↦ hc⟩

/-- A client and a service agree on what is encrypted. Whatever either end does and however what
they send is delayed, each end, as long as it is there, reads every envelope that it is brought;
and an encrypted one reaches the service only when the connection has been identified, and the
client only when it is connected. -/
theorem modes_agree (e : Ends S W A) (c : ConnectionId) (world : W) (past : List (Operation W))
    (lock : Option HomeLock) (s : Service A) (ms : List (Move W))
    (disconnected : (Handshake.run e.client (start world) past).state = .disconnected)
    (stranger : s.record? c = none) (ciphers : s.exchange.ciphers = e.service.ciphers) :
    let h := Handshake.run e.client (start world) past
    let n := h.outbound.create.2
    let j := run e c n (opened e c lock h s) ms
    (∀ bytes rest, j.client.queued n = bytes :: rest → j.service.isServed c = true →
      (∃ r, (Service.read e.service c bytes j.service).1 = .ok (some r)) ∧
      (Envelope.peekMode bytes = .ok (some .encrypted) →
        j.service.exchange.directory.isIdentified c = true)) ∧
    (∀ bytes rest, coming c j = .envelope bytes :: rest → j.client.state ≠ .disconnected →
      (∃ m, reading e.client bytes j.client = .ok (some m)) ∧
      (Envelope.peekMode bytes = .ok (some .encrypted) → j.client.state = .connected)) := by
  intro h n j
  have ho := endsAgree_opened lock (sound_run e.client world past) disconnected stranger ciphers
  have hg : EndsAgree e c n j := endsAgree_run ho ms
  exact ⟨fun _ _ hu hs ↦ hg.request_read hu hs, fun _ _ hd hs ↦ hg.frame_read hd hs⟩

/-- A client whose account has to be verified, and an echoing service. -/
def rehearsal : Ends Identity Scripted.Ledger Trusting.Players where
  client := ⟨Scripted.stores ⟨true, true, ⟨default, [1], some 7⟩, [], none, []⟩,
    ⟨default, "player", "server", .verified, none⟩, none, fun _ ↦ ""⟩
  service :=
    { identity := ⟨⟨default, [2], none⟩⟩, ciphers := fun _ ↦ .pair ⟨default, [2], none⟩
      application := Echoing.application ⟨⟨default, [2], none⟩⟩ "approve"
      complaint := fun _ ↦ "" }
  owner := Identity.owner
  owner_identity _ _ := rfl
  cipher_client _ _ := rfl
  ciphers_service := rfl
  reliable := Echoing.reliable _ _

/-- The client connects, probes the connection, and sends a feature message while the answer to its
probe is on its way. -/
def rehearsalMoves : List (Move Scripted.Ledger) :=
  [.serve, .hear, .act (.startSession none) rfl, .serve, .hear, .serve, .hear,
    .act (.sendKeepalive none) rfl, .serve, .act (.send (.feature ⟨"echo", [3]⟩)) rfl]

def rehearsed : Joint Identity Scripted.Ledger Trusting.Players :=
  run rehearsal ⟨0⟩ 0 (opened rehearsal ⟨0⟩ none (start []) (Service.start rehearsal.service []))
    rehearsalMoves

/-- After the rehearsal, something encrypted is on its way to either end. -/
theorem rehearsed_spec :
    rehearsed.client.state = .connected ∧ rehearsed.service.isServed ⟨0⟩ = true ∧
    (rehearsed.client.queued 0).map (fun bytes ↦ (Envelope.peekMode bytes).toOption) =
      [some (some .encrypted)] ∧
    (coming ⟨0⟩ rehearsed).map (fun
      | .envelope bytes => (Envelope.peekMode bytes).toOption
      | .close _ => none) = [some (some .encrypted)] := by
  decide +kernel

/-- Both ends can read what is on its way to them after the rehearsal. -/
theorem modes_agree_rehearsed :
    (start [] : Handshake Identity Scripted.Ledger).state = .disconnected ∧
    (Service.start rehearsal.service []).record? ⟨0⟩ = none ∧
    (Service.start rehearsal.service []).exchange.ciphers = rehearsal.service.ciphers ∧
    (∃ bytes, rehearsed.client.queued 0 = [bytes] ∧
      Envelope.peekMode bytes = .ok (some .encrypted) ∧
      (∃ r, (Service.read rehearsal.service ⟨0⟩ bytes rehearsed.service).1 = .ok (some r)) ∧
      rehearsed.service.exchange.directory.isIdentified ⟨0⟩ = true) ∧
    ∃ bytes, coming ⟨0⟩ rehearsed = [.envelope bytes] ∧
      Envelope.peekMode bytes = .ok (some .encrypted) ∧
      (∃ m, reading rehearsal.client bytes rehearsed.client = .ok (some m)) ∧
      rehearsed.client.state = .connected := by
  have h := modes_agree rehearsal ⟨0⟩ [] [] none (Service.start rehearsal.service [])
    rehearsalMoves rfl rfl rfl
  dsimp only at h
  -- the joint state is named before anything is said of it, lest it be computed
  generalize hj : run rehearsal _ _ _ _ = j at h
  obtain rfl : rehearsed = j := hj
  obtain ⟨hup, hdown⟩ := h
  obtain ⟨hc, hs, hu, hd⟩ := rehearsed_spec
  have hn : rehearsed.client.state ≠ .disconnected := by
    rw [hc]
    decide
  obtain ⟨bytes, hb, hm⟩ := List.map_eq_singleton_iff.mp hu
  obtain ⟨f, hf, hfm⟩ := List.map_eq_singleton_iff.mp hd
  replace hm := Envelope.peekMode_of_toOption hm
  obtain ⟨hr, hi⟩ := hup bytes [] hb hs
  refine ⟨rfl, rfl, rfl, ⟨bytes, hb, hm, hr, hi hm⟩, ?_⟩
  cases f with
  | envelope bytes =>
    replace hfm := Envelope.peekMode_of_toOption hfm
    obtain ⟨hr, hi⟩ := hdown bytes [] hf hn
    exact ⟨bytes, hf, hfm, hr, hi hfm⟩
  | close info => cases hfm

end Connection

end SealedSession
