import Mathlib.Data.Finset.Card
import SealedSession.Proofs.Directory.Tasks
import SealedSession.Proofs.Handshake.Modes
import SealedSession.Switchboard.Recorded
import SealedSession.Transport.Socket

/-!
# What is sent follows from the history

Responses are sent on connections while tasks identify them and stop their sessions. Whether a
response is encrypted, and whether it is sent at all, follows from what the log of those calls says
of its connection. Sending is no call of that log, since it changes no record.

* `Wire`: a connection of which it is known what was put on it.
* `Delivery`: all that may come of sending a response; `delivery_send` says so of every send.
* `Shared.Deed`, `Shared.carry`: tasks that share a switchboard, with responses sent in between.
* `sends_follow_history`: the main result.
* `response_altered`: a response is not always read as it was sent.
-/

namespace SealedSession

open Envelope

/-! ## What is put on a connection -/

/-- A connection of which it is known what was put on it: the envelopes that it took, and none that
it refused. -/
class Wire (κ : Type) [Link κ] where
  frames : κ → List Frame
  frames_send : ∀ (bytes : Bytes) (l : κ), frames (Link.send bytes l).2 = frames l ++
    match (Link.send bytes l).1 with
    | .ok _ => [.envelope bytes]
    | .error _ => []

instance : Wire RecordedLink where
  frames := RecordedLink.frames
  frames_send bytes l := by
    change (l.send bytes).2.frames = l.frames ++ match (l.send bytes).1 with
      | .ok _ => _
      | .error _ => _
    unfold RecordedLink.send
    cases l.sendFault with
    | none => rfl
    | some e => exact (List.append_nil _).symm

instance : Wire Socket where
  frames := Socket.written
  frames_send bytes s := by
    change (s.send bytes).2.written = s.written ++ match (s.send bytes).1 with
      | .ok _ => _
      | .error _ => _
    unfold Socket.send Socket.write
    split
    · cases s.fault with
      | none => rfl
      | some system => exact (List.append_nil _).symm
    · exact (List.append_nil _).symm

/-! ## What comes of sending -/

section

variable {κ : Type} [Link κ] (cipher : Cipher) (identified : Prop) (recipient : Option Identity)
  (m : Response)

/-- What goes into the envelope of a response, on a connection that counts as identified or not. -/
inductive Contained : Mode → Bytes → Prop
  | plain (h : ¬identified) : Contained .plain m.toJson.encode
  | encrypted (h : identified) {r : Identity} {secret : Bytes} (hr : recipient = some r)
      (he : cipher.encrypt m.toJson.encode r = .ok secret) : Contained .encrypted secret

/-- What comes of sending a response: the answer, and what is put on the connection. -/
inductive Delivery (link : κ) : Except DirectoryError Unit → List Frame → Prop
  | unaddressed (h : identified) (hr : recipient = none) :
      Delivery link (.error (.envelope .missingRecipient)) []
  | unencrypted (h : identified) {r : Identity} {e : CipherError} (hr : recipient = some r)
      (he : cipher.encrypt m.toJson.encode r = .error e) :
      Delivery link (.error (.envelope (.cipher e))) []
  | oversized {mode : Mode} {payload : Bytes}
      (hc : Contained cipher identified recipient m mode payload)
      (hl : 32767 < 12 + payload.length) :
      Delivery link (.error (.envelope (.tooLarge (12 + payload.length) 32767))) []
  | refused {mode : Mode} {payload : Bytes} {e : TransportError}
      (hc : Contained cipher identified recipient m mode payload)
      (hl : 12 + payload.length ≤ 32767)
      (ht : (Link.send (header mode ++ payload) link).1 = .error e) :
      Delivery link (.error (.transport e)) []
  | sent {mode : Mode} {payload : Bytes}
      (hc : Contained cipher identified recipient m mode payload)
      (hl : 12 + payload.length ≤ 32767)
      (ht : (Link.send (header mode ++ payload) link).1 = .ok ()) :
      Delivery link (.ok ()) [.envelope (header mode ++ payload)]

variable {cipher identified recipient m}

/-- Nothing is put on a connection by a send that fails, and one envelope by any other. -/
theorem Delivery.cases_frames {link : κ} {x : Except DirectoryError Unit} {fs : List Frame}
    (h : Delivery cipher identified recipient m link x fs) :
    (∃ e, x = .error e ∧ fs = []) ∨ ∃ mode payload, x = .ok () ∧
      fs = [.envelope (header mode ++ payload)] ∧
      Contained cipher identified recipient m mode payload ∧ 12 + payload.length ≤ 32767 := by
  cases h with
  | unaddressed | unencrypted | oversized | refused => exact .inl ⟨_, rfl, rfl⟩
  | sent hc hl => exact .inr ⟨_, _, rfl, rfl, hc, hl⟩

/-- Everybody reads what is in a plain envelope. -/
theorem Contained.read_plain {mode : Mode} {payload : Bytes}
    (h : Contained cipher identified recipient m mode payload) (hn : ¬identified)
    (hl : 12 + payload.length ≤ 32767) :
    mode = .plain ∧ ∀ complaint d sender,
      decode Response complaint d sender (header mode ++ payload) = .ok (some m.erased) := by
  cases h with
  | encrypted h => exact absurd h hn
  | plain =>
    refine ⟨rfl, fun complaint d sender ↦ ?_⟩
    rw [decode_plain d sender hl]
    exact readPayload_encode m

/-- Whoever undoes the cipher reads what was encrypted, unless it is larger than an envelope may be
even before it is encrypted. -/
theorem Contained.read_encrypted {mode : Mode} {payload : Bytes}
    (h : Contained cipher identified recipient m mode payload) (hi : identified)
    (hl : 12 + payload.length ≤ 32767) :
    ∃ r, recipient = some r ∧ cipher.encrypt m.toJson.encode r = .ok payload ∧
      mode = .encrypted ∧ ∀ complaint (d : Cipher) (sender : Identity),
        d.Inverts sender cipher r →
        decode Response complaint (some d) (some sender) (header mode ++ payload) =
          if m.toJson.encode.length ≤ 32767 then .ok (some m.erased)
          else .error (.tooLarge m.toJson.encode.length 32767) := by
  cases h with
  | plain hn => exact absurd hi hn
  | encrypted _ hr he =>
    refine ⟨_, hr, he, rfl, fun complaint d sender hd ↦ ?_⟩
    exact decode_inverted he (write_of_le hl) hd

end

namespace Switchboard

variable {κ : Type} [Link κ] (b : Switchboard κ) (c : ConnectionId) (recipient : Option Identity)
  (m : Response)

variable [Wire κ]

variable {b c recipient m} in
/-- An envelope that was made is put on the connection, or refused by it. -/
theorem delivery_of_contained {mode : Mode} {payload : Bytes} {identified : Prop}
    (hc : Contained b.cipher identified recipient m mode payload)
    (he : (b.encode c recipient m).1 = write mode payload) : ∃ fs,
    Wire.frames ((b.send c recipient m).2.links c) = Wire.frames (b.links c) ++ fs ∧
      Delivery b.cipher identified recipient m (b.links c) (b.send c recipient m).1 fs := by
  by_cases hl : 12 + payload.length ≤ 32767
  · have hw : write mode payload = .ok (header mode ++ payload) := write_of_le hl
    rw [b.send_of_ok (he.trans hw), b.encode_eq]
    have hf := Wire.frames_send (header mode ++ payload) (b.links c)
    change ∃ fs, Wire.frames ((setLink _ c (Link.send _ (b.links c)).2).links c) = _ ∧
      Delivery _ _ _ _ _ ((Link.send _ (b.links c)).1.mapError _) fs
    rw [links_setLink]
    cases ht : (Link.send (header mode ++ payload) (b.links c)).1 with
    | ok _ =>
      rw [ht] at hf
      exact ⟨_, hf, .sent hc hl ht⟩
    | error e =>
      rw [ht] at hf
      exact ⟨_, hf, .refused hc hl ht⟩
  · have hw : write mode payload = .error (.tooLarge (12 + payload.length) 32767) :=
      write_of_lt (Nat.lt_of_not_le hl)
    rw [b.send_of_error (he.trans hw), b.encode_eq]
    exact ⟨[], (List.append_nil _).symm, .oversized hc (Nat.lt_of_not_le hl)⟩

/-- What comes of sending a response depends on whether the connection has a record. -/
theorem delivery_send : ∃ fs,
    Wire.frames ((b.send c recipient m).2.links c) = Wire.frames (b.links c) ++ fs ∧
      Delivery b.cipher (b.directory.isIdentified c = true) recipient m (b.links c)
        (b.send c recipient m).1 fs := by
  by_cases hi : b.directory.isIdentified c = true
  · have he : (b.encode c recipient m).1 = encodeFor (some b.cipher) recipient m :=
      congrArg Prod.fst (if_pos hi)
    cases hr : recipient with
    | none =>
      subst hr
      rw [b.send_of_error he, b.encode_eq]
      exact ⟨[], (List.append_nil _).symm, .unaddressed hi rfl⟩
    | some r =>
      subst hr
      cases hs : b.cipher.encrypt m.toJson.encode r with
      | error e =>
        have hx : encodeFor (some b.cipher) (some r) m = .error (.cipher e) := by
          change (b.cipher.encrypt m.toJson.encode r).mapError _ >>= _ = _
          rw [hs]
          rfl
        rw [b.send_of_error (he.trans hx), b.encode_eq]
        exact ⟨[], (List.append_nil _).symm, .unencrypted hi rfl hs⟩
      | ok secret =>
        exact delivery_of_contained (.encrypted hi rfl hs) (he.trans (encodeFor_of_encrypt hs))
  · exact delivery_of_contained (.plain hi) (congrArg Prod.fst (if_neg hi))

end Switchboard

/-! ## Histories with responses -/

/-- No step of a task touches the cipher. -/
theorem Act.ciphers_advance {κ : Type} [Link κ] (a : Act) (call : Nat) (b : Switchboard κ) :
    (a.advance call b).2.1.ciphers = b.ciphers := by
  cases a with
  | perform e =>
    cases e with
    | identify c i p onBound next =>
      change (b.identify c i p).2.ciphers = b.ciphers
      unfold Switchboard.identify
      cases b.directory.identify c i p <;> rfl
    | done | look | stop => rfl
  | notifying n c r reason message next =>
    change (b.notify c r reason message).2.ciphers = b.ciphers
    rw [Switchboard.notify_eq]
  | binding | stopping | returning => rfl

namespace Shared

variable {κ : Type} [Link κ]

/-- What may happen next: a move of the tasks, or a response is sent, or a request is read. -/
inductive Deed (κ : Type) where
  | move (m : Move κ)
  | send (c : ConnectionId) (recipient : Option Identity) (m : Response)
  | read (complaint : Bytes → String) (c : ConnectionId) (buffer : Bytes)

/-- Does one deed. -/
def carryOut (w : Shared κ) : Deed κ → Shared κ
  | .move m => w.step m
  | .send c recipient m => { w with board := (w.board.send c recipient m).2 }
  | .read complaint c buffer => { w with board := (w.board.read complaint c buffer).2 }

/-- Does one deed after another. -/
def carry (w : Shared κ) (deeds : List (Deed κ)) : Shared κ := deeds.foldl carryOut w

theorem carry_concat (w : Shared κ) (deeds : List (Deed κ)) (d : Deed κ) :
    carry w (deeds ++ [d]) = carryOut (carry w deeds) d := List.foldl_append

theorem sound_carryOut {w : Shared κ} (h : w.Sound) (d : Deed κ) : (carryOut w d).Sound := by
  cases d with
  | move m => exact sound_step h m
  | send c recipient m =>
    refine ⟨?_, h.consistent, h.fits, h.callbacks, h.returns⟩
    rw [carryOut, Switchboard.directory_send]
    exact h.directory
  | read complaint c buffer => exact ⟨h.directory, h.consistent, h.fits, h.callbacks, h.returns⟩

/-- The cipher of the server stays, with all its state. -/
theorem ciphers_carryOut (w : Shared κ) (d : Deed κ) :
    (carryOut w d).board.ciphers = w.board.ciphers := by
  cases d with
  | send c recipient m => rw [carryOut, Switchboard.send_eq]
  | read complaint c buffer => rfl
  | move m =>
    rcases m with e | k | links
    · rfl
    · rw [carryOut, step]
      split
      · next a rest hk => exact a.ciphers_advance _ _
      · rfl
    · rfl

theorem sound_carry (ciphers : List CipherUse → Cipher) (links : ConnectionId → κ)
    (deeds : List (Deed κ)) : (carry (start ciphers links) deeds).Sound ∧
      (carry (start ciphers links) deeds).board.ciphers = ciphers := by
  induction deeds using List.reverseRecOn with
  | nil => exact ⟨sound_start ciphers links, rfl⟩
  | append_singleton deeds d ih =>
    rw [carry_concat, ciphers_carryOut]
    exact ⟨sound_carryOut ih.1 d, ih.2⟩

section

omit [Link κ]

variable {w : Shared κ} (h : w.Sound)

include h

theorem Sound.isIdentified_iff (c : ConnectionId) :
    w.board.directory.isIdentified c = true ↔ IdentifiedSinceStop c w.log := by
  rw [Directory.isIdentified, h.directory.record, h.consistent.isSome_recordAfter_iff]

theorem Sound.identity?_eq_some_iff (c : ConnectionId) (i : Identity) :
    w.board.directory.identity? c = some i ↔ ∃ p, LastIdentified c ⟨c, i, p⟩ w.log := by
  rw [Directory.identity?, Option.map_eq_some_iff]
  constructor
  · rintro ⟨⟨d, i, p⟩, hr, rfl⟩
    obtain ⟨rfl, hl⟩ := h.record?_eq_some_iff.mp hr
    exact ⟨p, hl⟩
  · rintro ⟨p, hl⟩
    exact ⟨⟨c, i, p⟩, h.record?_eq_some_iff.mpr ⟨rfl, hl⟩, rfl⟩

/-- There are as many records as connections that the log leaves identified. -/
theorem Sound.count_eq_card : ∃ cs : Finset ConnectionId,
    (∀ c, c ∈ cs ↔ ∃ r, LastIdentified c r w.log) ∧ w.board.directory.count = cs.card := by
  have hd : (w.board.directory.records.map SessionRecord.connection).Nodup := h.directory.distinct
  refine ⟨⟨_, Multiset.coe_nodup.mpr hd⟩, fun c ↦ ?_, (List.length_map _).symm⟩
  change c ∈ w.board.directory.records.map SessionRecord.connection ↔ _
  rw [List.mem_map]
  constructor
  · rintro ⟨r, hr, rfl⟩
    exact ⟨r, h.mem_records_iff.mp hr⟩
  · rintro ⟨⟨d, i, p⟩, hl⟩
    exact ⟨⟨c, i, p⟩, h.mem_records_iff.mpr hl, rfl⟩

end

/-- Whatever tasks do with a switchboard, and whatever was sent in between:

* A connection has a record if some call has identified it after its last stop, and only then; its
  identity is that of the last call that has; and there are as many records as connections whose
  last change was to be identified.
* To send a response changes no record and no other connection.
* All that may come of it is a `Delivery`: a connection that was identified after its last stop gets
  what the cipher, after all that it was used for so far, makes of the response for the recipient,
  any other gets the response itself. There is an error if there is no recipient, if the cipher
  fails, if the envelope would be too large or if the connection refuses it, and nothing is put on
  the connection then.
* Otherwise one envelope is put on it, of the mode that the history calls for, and no larger than an
  envelope may be. It is read as the response without access tokens, unless that was larger than an
  envelope may be before it was encrypted. -/
theorem sends_follow_history [Wire κ] (ciphers : List CipherUse → Cipher)
    (links : ConnectionId → κ) (deeds : List (Deed κ)) :
    let w := carry (start ciphers links) deeds
    let cipher := ciphers w.board.uses
    (∀ c, w.board.directory.isIdentified c = true ↔ IdentifiedSinceStop c w.log) ∧
    (∀ c i, w.board.directory.identity? c = some i ↔ ∃ p, LastIdentified c ⟨c, i, p⟩ w.log) ∧
    (∃ cs : Finset ConnectionId, (∀ c, c ∈ cs ↔ ∃ r, LastIdentified c r w.log) ∧
      w.board.directory.count = cs.card) ∧
    ∀ c recipient (m : Response),
      let x := w.board.send c recipient m
      let written := m.toJson.encode
      x.2.directory = w.board.directory ∧ (∀ d, d ≠ c → x.2.links d = w.board.links d) ∧
      ∃ frames, Wire.frames (x.2.links c) = Wire.frames (w.board.links c) ++ frames ∧
        Delivery cipher (IdentifiedSinceStop c w.log) recipient m (w.board.links c) x.1 frames ∧
        ((∃ e, x.1 = .error e ∧ frames = []) ∨
          ∃ bytes, x.1 = .ok () ∧ frames = [.envelope bytes] ∧ bytes.length ≤ 32767 ∧
            (¬IdentifiedSinceStop c w.log → peekMode bytes = .ok (some .plain) ∧
              ∀ complaint d sender,
                decode Response complaint d sender bytes = .ok (some m.erased)) ∧
            (IdentifiedSinceStop c w.log → peekMode bytes = .ok (some .encrypted) ∧
              ∃ r, recipient = some r ∧
                ∀ complaint (d : Cipher) (sender : Identity), d.Inverts sender cipher r →
                  decode Response complaint (some d) (some sender) bytes =
                    if written.length ≤ 32767 then .ok (some m.erased)
                    else .error (.tooLarge written.length 32767))) := by
  intro w cipher
  obtain ⟨h, hciphers⟩ := sound_carry ciphers links deeds
  have hcipher : w.board.cipher = cipher := congrFun hciphers w.board.uses
  refine ⟨h.isIdentified_iff, h.identity?_eq_some_iff, h.count_eq_card, ?_⟩
  intro c recipient m x written
  refine ⟨w.board.directory_send c recipient m, fun d hd ↦ w.board.links_send_of_ne hd recipient m,
    ?_⟩
  obtain ⟨frames, hf, hx⟩ := w.board.delivery_send c recipient m
  rw [hcipher, propext (h.isIdentified_iff c)] at hx
  refine ⟨frames, hf, hx, hx.cases_frames.imp_right ?_⟩
  rintro ⟨mode, payload, ho, rfl, hc, hl⟩
  have framed : Framed mode (header mode ++ payload) := ⟨length_header_append hl, payload, rfl⟩
  refine ⟨_, ho, rfl, framed.size, ?_, ?_⟩
  · intro hn
    obtain ⟨rfl, hd⟩ := hc.read_plain hn hl
    exact ⟨framed.peekMode, hd⟩
  · intro hi
    obtain ⟨r, hr, -, rfl, hd⟩ := hc.read_encrypted hi hl
    exact ⟨framed.peekMode, r, hr, hd⟩

/-! ## Responses that are not recovered -/

/-- A response that is too large for any plain envelope. -/
def longResponse : Response := .feature ⟨"", List.replicate 32768 0⟩

/-- A response with a token of the account service. -/
def tokenResponse : Response :=
  .sessionFailed (.accountVerificationFailed ⟨default, "player", "server", .verified, some "token"⟩)

/-- A switchboard that encrypts the long response by a codeword, once a task has identified one of
its connections. -/
def laconic : Shared RecordedLink :=
  carry (start (fun _ ↦ Handshake.codeword (Payload.encode longResponse)) fun _ ↦ {})
    [.move (.spawn (.identify ⟨0⟩ default none (fun _ _ ↦ .done) fun _ ↦ .done)), .move (.turn 0)]

/-- An identified connection gets the long response in an envelope of thirteen bytes. Its peer
undoes the cipher, but refuses the response for its size. And what any other connection gets of a
response with a token is read as one without. -/
theorem response_altered :
    let c := Handshake.codeword (Payload.encode longResponse)
    let long := (laconic.board.send ⟨0⟩ (some default) longResponse).2
    let token := (laconic.board.send ⟨1⟩ none tokenResponse).2
    (laconic.board.cipher = c ∧ (∀ sender, c.Inverts sender c default) ∧
      IdentifiedSinceStop ⟨0⟩ laconic.log ∧
      ∃ bytes, (long.links ⟨0⟩).frames = [.envelope bytes] ∧ ∀ complaint sender,
        decode Response complaint (some c) (some sender) bytes =
          .error (.tooLarge (Payload.encode longResponse).length 32767)) ∧
    tokenResponse.erased ≠ tokenResponse ∧
    ∃ bytes, (token.links ⟨1⟩).frames = [.envelope bytes] ∧ ∀ complaint d sender,
      decode Response complaint d sender bytes = .ok (some tokenResponse.erased) := by
  intro c long token
  refine ⟨⟨rfl, fun sender ↦ Handshake.codeword_inverts _ sender default,
    ⟨[], default, none, none, [], rfl, by simp⟩, ?_⟩, by decide, ?_⟩
  · have he : encodeFor (some c) (some (default : Identity)) longResponse =
        .ok (header .encrypted ++ [0]) := by
      rw [encodeFor_of_encrypt (Handshake.codeword_encrypt _ default)]
      exact write_of_le (by decide)
    have hl : maxSize < (Payload.encode longResponse).length := by
      have hb := Response.length_body_le ⟨"", List.replicate 32768 0⟩
      rw [List.length_replicate] at hb
      exact hb
    refine ⟨header .encrypted ++ [0], ?_, fun complaint sender ↦ ?_⟩
    · have hs : laconic.board.send ⟨0⟩ (some default) longResponse = _ :=
        laconic.board.send_of_ok he
      rw [show long = _ from congrArg Prod.snd hs]
      rfl
    · obtain ⟨secret, hc, hw⟩ := encodeFor_ok he
      rw [decode_inverted hc hw (Handshake.codeword_inverts _ sender default),
        if_neg (Nat.not_le_of_lt hl)]
      rfl
  · have hl : headerLength + (Payload.encode tokenResponse).length ≤ maxSize := by decide +kernel
    have he : encodePlain tokenResponse = .ok (header .plain ++ Payload.encode tokenResponse) :=
      write_of_le hl
    refine ⟨_, ?_, fun _ ↦ decode_encodePlain he⟩
    have hs : laconic.board.send ⟨1⟩ none tokenResponse = _ := laconic.board.send_of_ok he
    rw [show token = _ from congrArg Prod.snd hs]
    rfl

end Shared

end SealedSession
