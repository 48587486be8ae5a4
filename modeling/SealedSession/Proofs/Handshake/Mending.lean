import SealedSession.Proofs.Handshake.Modes
import SealedSession.Proofs.Handshake.Tally

/-!
# Mending a session

An envelope that a connected client cannot decrypt tells it that its session with the server is out of
step. The client mends it by fresh prekeys, which its store issues for the server, as often in a row
as its limit allows; then it gives up. Whether it gives up is decided by the failures in a row alone,
and while it does not, it stands where it stood, whatever its store answers.

* `Mendable`: what mending takes of the store and its cipher.
* `Mended`, `GivenUp`: what comes of a failure.
* `receive_mended`: how a failure is met.
* `failures_met`: for every run and every envelope, which of the two it is.
* `prekeys_too_large`: prekeys that do not fit an envelope are not sent, although the store issues
  them, its cipher encrypts them, and the channel is open.
-/

namespace SealedSession.Handshake

variable {S W : Type} (g : Settings S W)

/-! ## What mending takes -/

/-- The store issues an offer of prekeys for the server, and by then has a cipher that makes this
secret of it. -/
structure Mendable (h : Handshake S W) (server : ServerIdentity) (o : PreKeyOffer)
    (secret : Bytes) : Prop where
  known : h.serverIdentity = some server
  issued : ∃ s t w, h.store = some s ∧
    g.stores.offer (some server) s (cipher? g h).2.world = (.ok o, t, w) ∧
    (g.stores.cipher t w).1.encrypt (Payload.encode (Request.sendPreKeys o)) server.identity =
      .ok secret

/-- A failure that the client met by fresh prekeys. It stands where it stood, but for the count. If
its store issues prekeys and the cipher encrypts them, they are queued once and nothing is reported,
unless they do not fit an envelope; then they are refused for their size, and nothing is queued or
reported either. -/
structure Mended (h : Handshake S W) (t : Moment S W) : Prop where
  standing : t.after.standing = { h.standing with failures := h.standing.failures + 1 }
  sent : ∀ server o secret c, Mendable g h server o secret → h.outbound.IsOpen c →
    12 + secret.length ≤ 32767 → t.result = .ok () ∧ t.after.events = h.events ∧
      ∀ n, t.posted n = if n = c then [Envelope.header .encrypted ++ secret] else []
  refused : ∀ server o secret, Mendable g h server o secret → 32767 < 12 + secret.length →
    t.result = .error (.envelope (.tooLarge (12 + secret.length) 32767)) ∧
      t.after.events = h.events ∧ ∀ n, t.posted n = []

/-- A failure that was one too many. -/
structure GivenUp (limit : Nat) (h : Handshake S W) (t : Moment S W) : Prop where
  result : t.result = .ok ()
  posted : ∀ n, t.posted n = []
  events : t.after.events = h.events ++ [
    .error ("cipher session could not be recovered after " ++ toString limit ++
      " prekey refreshes"),
    .stateChanged .disconnected]
  state : t.after.state = .disconnected

/-- A limit that the counter can pass allows so many failures in a row. -/
def Allows (limit : Option Nat) (failures : Nat) : Prop :=
  ∀ l, limit = some l → l < maxFailures ∧ failures ≤ l

/-! ## How a failure is met -/

section

variable {g} {h : Handshake S W} {bytes : Bytes} {e : CipherError}

theorem cipherFailures_cipher? : (cipher? g h).2.cipherFailures = h.cipherFailures := by
  obtain ⟨w, hw⟩ := snd_cipher? g h
  rw [hw]
  rfl

/-- The prekeys are sent, from a client that nobody has seen change, in an envelope that holds the
secret if it is not too large. -/
theorem receive_of_mendable {server : ServerIdentity} {o : PreKeyOffer} {secret : Bytes}
    (hc : h.state = .connected) (hr : reading g bytes h = .error (.cipher e))
    (hx : exceeds (h.cipherFailures + 1).toNat g.refreshLimit = none)
    (hm : Mendable g h server o secret) :
    ∃ k, Unmoved h k ∧ receive g bytes h = sendRequest g (.sendPreKeys o) k ∧
      envelope g (.sendPreKeys o) k = Envelope.write .encrypted secret := by
  obtain ⟨hi, s, t, w, hs, ho, he⟩ := hm
  obtain ⟨s', hs', hk⟩ := store_of_undecrypted g hr
  obtain rfl : s = s' := Option.some.inj (hs.symm.trans hs')
  have asked := unmoved_cipher? g h
  have moved : Unmoved h ((keepStore t (cipher? g h).2.countFailure).inWorld w) :=
    (asked.countFailure.keepStore t).inWorld w
  refine ⟨_, moved, ?_, ?_⟩
  · rw [receive_of_undecrypted g (by simp [hc]) hr, recoverCipher_of_some g hk,
      cipherFailures_cipher?, hx]
    dsimp only
    rw [asked.server, hi, refresh_of_some g (h := (cipher? g h).2.countFailure) hk,
      world_countFailure, ho]
  · rw [envelope_of_connected g _ (moved.state.trans hc), moved.server, hi,
      cipher?_of_some g (s := t) rfl]
    exact Envelope.encodeFor_of_encrypt he

/-- As long as the failures are not too many, each is met by fresh prekeys. -/
theorem receive_mended (hc : h.state = .connected)
    (hr : reading g bytes h = .error (.cipher e))
    (hx : exceeds (h.cipherFailures + 1).toNat g.refreshLimit = none) :
    Mended g h (moment g h (.receive bytes)) where
  standing := by
    obtain ⟨s, -, hk⟩ := store_of_undecrypted g hr
    obtain ⟨w, hw⟩ := snd_cipher? g h
    change (receive g bytes h).2.standing = _
    rw [receive_of_undecrypted g (by simp [hc]) hr, standing_recoverCipher g hk,
      Standing.failed_of_none]
    · rw [hw]
      rfl
    · rw [← hx, ← cipherFailures_cipher? (g := g)]
      rfl
  sent := by
    intro server o secret c hm hopen hl
    obtain ⟨k, hk, hrec, he⟩ := receive_of_mendable hc hr hx hm
    obtain ⟨w, hq⟩ := sendRequest_of_envelope g (he.trans (Envelope.write_of_le hl))
    rw [hk.outbound, Outbound.send_of_isOpen hopen, ← hrec] at hq
    obtain ⟨c', hb, hpost⟩ := posted_of_send (g := g) (h := h) (.receive bytes)
      (Outbound.send_of_isOpen hopen _) (congrArg (fun x ↦ x.2.outbound) hq)
    obtain rfl : c = c' := Option.some.inj (hopen.1.symm.trans hb)
    refine ⟨congrArg Prod.fst hq, ?_, hpost⟩
    exact (congrArg (fun x ↦ x.2.events) hq).trans hk.events
  refused := by
    intro server o secret hm hl
    obtain ⟨k, hk, hrec, he⟩ := receive_of_mendable hc hr hx hm
    have hq := sendRequest_of_refused g (he.trans (Envelope.write_of_lt hl)) rfl
    rw [← hrec] at hq
    have hn := hk.trans (unmoved_cipher? g k)
    refine ⟨congrArg Prod.fst hq, ?_, posted_of_outbound ?_⟩
    · exact (congrArg (fun x ↦ x.2.events) hq).trans hn.events
    · exact (congrArg (fun x ↦ x.2.outbound) hq).trans hn.outbound

theorem events_disconnect (hc : h.state ≠ .disconnected) :
    (changeState g .disconnected h).events = h.events ++ [.stateChanged .disconnected] := by
  unfold changeState
  rw [if_neg hc, if_pos rfl]
  simp only [enter, reduceCtorEq, if_false, if_true, emit, teardown, settleStore]
  split <;> rfl

theorem events_fail (hc : h.state ≠ .disconnected) (message : String) :
    (fail g message h).events = h.events ++ [.error message, .stateChanged .disconnected] :=
  (events_disconnect (h := h.emit (.error message)) hc).trans (List.append_assoc _ _ _)

/-- A failure too many ends the connection. -/
theorem receive_givenUp {limit : Nat} (hc : h.state = .connected)
    (hr : reading g bytes h = .error (.cipher e))
    (hx : exceeds (h.cipherFailures + 1).toNat g.refreshLimit = some limit) :
    GivenUp limit h (moment g h (.receive bytes)) := by
  obtain ⟨s, -, hk⟩ := store_of_undecrypted g hr
  have asked := unmoved_cipher? g h
  have hrec : receive g bytes h =
      (.ok (), fail g (refreshMessage limit) (cipher? g h).2.countFailure) := by
    rw [receive_of_undecrypted g (by simp [hc]) hr, recoverCipher_of_some g hk,
      cipherFailures_cipher?, hx]
  have hafter := congrArg Prod.snd hrec
  have hactive : (cipher? g h).2.countFailure.state ≠ .disconnected := by
    rw [asked.countFailure.state, hc]
    simp
  constructor
  · exact congrArg Prod.fst hrec
  · have hu : Unbound h (receive g bytes h).2 := by
      rw [hafter]
      obtain ⟨hd, ho⟩ := unbound_changeState g
        ((cipher? g h).2.countFailure.emit (.error (refreshMessage limit)))
      exact ⟨hd, asked.outbound ▸ ho⟩
    exact fun n ↦ posted_of_kept (hu.queued n)
  · have he : (receive g bytes h).2.events =
        h.events ++ [.error (refreshMessage limit), .stateChanged .disconnected] := by
      rw [hafter, events_fail hactive, asked.countFailure.events]
    exact he
  · exact (congrArg Handshake.state hafter).trans (state_changeState g _ _)

end

/-! ## Every run -/

theorem exceeds_eq_none {failures : Nat} {limit : Option Nat}
    (h : ∀ l, limit = some l → failures ≤ l) : exceeds failures limit = none := by
  cases limit with
  | none => rfl
  | some l => exact if_neg (Nat.not_lt_of_le (h l rfl))

theorem exceeds_of_lt {failures limit : Nat} (h : limit < failures) :
    exceeds failures (some limit) = some limit := if_pos h

/-- One failure more is within the range of the counter, if the failures before it are within a limit
that it can pass. -/
theorem toNat_succ_of_le {f : UInt32} {n limit : Nat} (hf : f = UInt32.ofNat n) (hn : n ≤ limit)
    (hl : limit < maxFailures) : (f + 1).toNat = n + 1 := by
  have hs : f + 1 = UInt32.ofNat (n + 1) := by
    rw [hf, UInt32.ofNat_add]
    rfl
  rw [hs, UInt32.toNat_ofNat']
  exact Nat.mod_eq_of_lt (Nat.lt_of_le_of_lt (Nat.succ_le_succ hn) (Nat.succ_lt_succ hl))

/-- A client whose store has the pair cipher and issues the same prekeys whenever it is asked. -/
def issuing (o : PreKeyOffer) : Settings Identity Scripted.Ledger where
  stores :=
    { Scripted.stores ⟨true, true, ⟨default, [1], none⟩, [], none, []⟩ with
      offer := fun target i calls ↦ (.ok o, i, calls ++ [.prekeys target]) }
  session := ⟨default, "player", "server", .unverified, none⟩
  refreshLimit := some 1
  complaint _ := ""

/-- After every run, the count is that of the failures in a row; there are none unless the client is
connected, nor when it is connected next. To a connected client that has met `n` failures in a row, a
response is the end of them, whether or not it is accepted; an envelope that is dropped changes
nothing but the world; and one more failure is met by fresh prekeys if the limit allows `n + 1`, or if
there is no limit. If it does not, then `n` is just the limit, and the client gives up. -/
theorem failures_met (world : W) (ops : List (Operation W)) :
    let past := history g (start world : Handshake S W) ops
    let h : Handshake S W := run g (start world) ops
    let n := failuresInRow g past
    h.cipherFailures = UInt32.ofNat n ∧
    (h.state ≠ .connected → h.cipherFailures = 0 ∧ n = 0 ∧
      ∀ op, failuresInRow g (past ++ [moment g h op]) = 0) ∧
    ∀ bytes, h.state = .connected →
      let t := moment g h (.receive bytes)
      (∀ m, reading g bytes h = .ok (some m) →
        failuresInRow g (past ++ [t]) = 0 ∧ t.after.cipherFailures = 0) ∧
      (reading g bytes h = .ok none → failuresInRow g (past ++ [t]) = n ∧ t.result = .ok () ∧
        ∃ w, t.after = h.inWorld w) ∧
      ∀ e, reading g bytes h = .error (.cipher e) →
        (Allows g.refreshLimit (n + 1) →
          Mended g h t ∧ failuresInRow g (past ++ [t]) = n + 1) ∧
        ∀ limit, g.refreshLimit = some limit → limit < maxFailures → limit < n + 1 →
          n = limit ∧ GivenUp limit h t := by
  intro past h n
  have hs : h.standing.Sound g.refreshLimit := sound_run g world ops
  obtain ⟨hf, hl, hz⟩ := tally_run g world ops
  refine ⟨hf, fun hc ↦ ⟨hs.failures_eq hc, hz hc, fun op ↦ ?_⟩, fun bytes hc ↦ ?_⟩
  · rw [failuresInRow_concat, not_isUndecrypted_of_ne hs hc op, hz hc]
    exact ite_self 0
  intro t
  have hd : h.state ≠ .disconnected := by
    rw [hc]
    simp
  refine ⟨fun m hr ↦ ⟨?_, failures_of_read g hd hr⟩, fun hr ↦ ?_, fun e hr ↦ ⟨fun ha ↦ ?_, ?_⟩⟩
  · rw [failuresInRow_concat, isRead_of_reading hd hr, Bool.not_true, Bool.and_false]
    rfl
  · have hrec : receive g bytes h = (.ok (), (cipher? g h).2) := by
      rw [receive_eq g bytes hd, hr]
    have hafter : t.after = (cipher? g h).2 := congrArg Prod.snd hrec
    refine ⟨?_, congrArg Prod.fst hrec, hafter ▸ snd_cipher? g h⟩
    rw [failuresInRow_concat, hafter, (unmoved_cipher? g h).state, hc,
      not_isRead_of_reading hd (by simp [hr]), not_isUndecrypted_of_reading hd (by simp [hr])]
    rfl
  · have hx : exceeds (h.cipherFailures + 1).toNat g.refreshLimit = none := by
      refine exceeds_eq_none fun limit hg ↦ ?_
      obtain ⟨hlt, hle⟩ := ha limit hg
      rw [toNat_succ_of_le hf (Nat.le_of_succ_le hle) hlt]
      exact hle
    have hm : Mended g h t := receive_mended hc hr hx
    refine ⟨hm, ?_⟩
    have hstate : t.after.state = .connected := (congrArg Standing.state hm.standing).trans hc
    rw [failuresInRow_concat, hstate, not_isRead_of_reading hd (by simp [hr]),
      isUndecrypted_of_reading hd hr]
    rfl
  · intro limit hg hlt hn
    have hle := hl limit hg hlt
    refine ⟨Nat.le_antisymm hle (Nat.le_of_lt_succ hn), receive_givenUp hc hr ?_⟩
    rw [toNat_succ_of_le hf hle hlt, hg]
    exact exceeds_of_lt hn

-- A client whose limit is one mends its first failure, silently, and gives up on its second.
example :
    let g := issuing default
    let ops := [.createChannel, .onOpen 0 none, .hear (.identify default [] []),
      .hear .startSession, .hear (.isTrusted default), .takeEvents,
      .receive (Envelope.header .encrypted)]
    let h := run g (start []) ops
    let t := moment g h (.receive (Envelope.header .encrypted))
    failuresInRow g (history g (start []) ops) = 1 ∧ h.state = .connected ∧ h.events = [] ∧
      (h.queued 0).length = 4 ∧ t.after.state = .disconnected ∧ t.posted 0 = [] := by
  decide +kernel

/-! ## Prekeys that are too large -/

theorem mendable_issuing (o : PreKeyOffer) {h : Handshake Identity Scripted.Ledger} {i : Identity}
    {server : ServerIdentity} (hs : h.store = some i) (hi : h.serverIdentity = some server) :
    Mendable (issuing o) h server o (Cipher.Pair.enclose i.owner server.identity.owner
      (Payload.encode (Request.sendPreKeys o))) :=
  ⟨hi, i, i, _, hs, rfl, rfl⟩

theorem length_bundle_le_enclose (o : PreKeyOffer) (a b : Uuid) : o.bundle.length ≤
    (Cipher.Pair.enclose a b (Payload.encode (Request.sendPreKeys o))).length := by
  rw [Cipher.Pair.length_enclose]
  exact Nat.le_add_left_of_le (Request.length_bundle_le o)

/-- More prekeys than an envelope can hold. -/
def hugeOffer : PreKeyOffer := ⟨none, List.replicate 32768 0⟩

theorem lt_length_enclose_hugeOffer (a b : Uuid) : 32767 <
    12 + (Cipher.Pair.enclose a b (Payload.encode (Request.sendPreKeys hugeOffer))).length := by
  have hb : hugeOffer.bundle.length = 32768 := List.length_replicate
  have hl := length_bundle_le_enclose hugeOffer a b
  omega

/-- The client once it is connected. -/
def bulkyConnected : Handshake Identity Scripted.Ledger :=
  run (issuing hugeOffer) (start []) [.createChannel, .onOpen 0 none,
    .hear (.identify default [] []), .hear .startSession, .hear (.isTrusted default)]

theorem bulkyConnected_spec :
    bulkyConnected.state = .connected ∧ bulkyConnected.store = some ⟨default, [1], none⟩ ∧
    bulkyConnected.serverIdentity = some default ∧ bulkyConnected.cipherFailures = 0 ∧
    bulkyConnected.outbound.bound = some 0 ∧
    (bulkyConnected.outbound.channels[0]?).map Channel.receiving = some true := by
  decide +kernel

theorem isOpen_bulkyConnected : bulkyConnected.outbound.IsOpen 0 := by
  obtain ⟨-, -, -, -, hb, hr⟩ := bulkyConnected_spec
  obtain ⟨ch, hc, hr⟩ := Option.map_eq_some_iff.mp hr
  exact ⟨hb, ch, hc, hr⟩

/-- The first envelope that fails in the cipher is within the limit of the client, its store issues
prekeys, its cipher encrypts everything, and its channel is open. All the same, receiving it fails,
and nothing is queued, because the prekeys do not fit an envelope. -/
theorem prekeys_too_large :
    let g := issuing hugeOffer
    let h := bulkyConnected
    let t := moment g h (.receive (Envelope.header .encrypted))
    h.state = .connected ∧ h.cipherFailures = 0 ∧ g.refreshLimit = some 1 ∧
    reading g (Envelope.header .encrypted) h =
      .error (.cipher (.decrypt "ciphertext too short")) ∧
    (∀ target s w, (g.stores.offer target s w).1 = .ok hugeOffer) ∧
    (∀ s w plain recipient, ∃ secret,
      (g.stores.cipher s w).1.encrypt plain recipient = .ok secret) ∧
    h.outbound.IsOpen 0 ∧
    (∃ size, t.result = .error (.envelope (.tooLarge size 32767))) ∧ ∀ n, t.posted n = [] := by
  intro g h t
  obtain ⟨hc, hs, hi, hf, -⟩ := bulkyConnected_spec
  have unread : reading g (Envelope.header .encrypted) h =
      .error (.cipher (.decrypt "ciphertext too short")) := by
    rw [reading, cipher?_of_some g hs, hi]
    rfl
  have hx : exceeds (h.cipherFailures + 1).toNat g.refreshLimit = none := by
    rw [hf]
    rfl
  obtain ⟨hres, -, hpost⟩ := (receive_mended hc unread hx).refused _ _ _
    (mendable_issuing hugeOffer hs hi) (lt_length_enclose_hugeOffer _ _)
  exact ⟨hc, hf, rfl, unread, fun _ _ _ ↦ rfl, fun _ _ _ _ ↦ ⟨_, rfl⟩, isOpen_bulkyConnected,
    ⟨_, hres⟩, hpost⟩

end SealedSession.Handshake
