import SealedSession.Proofs.Directory.Records
import SealedSession.Service.Program

/-!
# How an application behaves on a connection

An application may do anything with a request. The applications meant here do what the protocol
expects of them: they answer on the connection that asked, and asked for their trust, they confirm
it first and identify the connection then.

* `Program.Answers`, `Program.Trusts`: what such an application does with one request.
* `Application.Reliable`: an application that does so with every request.
* `Program.run_answers`, `Program.run_trusts`: what a connection hears from such a program.
-/

namespace SealedSession

/-- Whether a response neither confirms trust nor is about prekeys or a new device. -/
def Response.isOrdinary : Response → Bool
  | .deviceRegistered _ _ | .sendPreKeys _ _ | .resendPreKeys _ | .isTrusted _ => false
  | _ => true

/-- Whether a request asks for the trust of the server. -/
def Request.asksForTrust : Request → Bool
  | .checkTrust _ => true
  | _ => false

namespace Program

variable {A : Type}

/-- A program that only looks, and replies with ordinary responses. -/
inductive Answers : Program A → Prop where
  | finish (app : A) (result : Except ServiceError Unit) : Answers (.finish app result)
  | look (next : Directory → Program A) (h : ∀ d, Answers (next d)) : Answers (.look next)
  | reply (m : Response) (next : Except ServiceError Unit → Program A)
      (hm : m.isOrdinary = true) (h : ∀ r, Answers (next r)) : Answers (.reply m next)

/-- A program that confirms trust and, if the confirmation was sent, identifies the connection as
who asked. -/
inductive Trusts (server : ServerIdentity) (i : Identity) : Program A → Prop where
  | look (next : Directory → Program A) (h : ∀ d, Trusts server i (next d)) :
      Trusts server i (.look next)
  | reply (player : Option BoundPlayer) (next after : Except ServiceError Unit → Program A)
      (failed : ∀ e, (next (.error e)).Answers)
      (sent : next (.ok ()) = .identify i player after)
      (identified : ∀ r, (after r).Answers) : Trusts server i (.reply (.isTrusted server) next)

end Program

/-- An application that answers what it is asked, and identifies a connection only once it has
confirmed that it trusts it. -/
structure Application.Reliable {A : Type} (server : ServerIdentity) (application : Application A) :
    Prop where
  answers : ∀ app c r, r.asksForTrust = false → (application app c r).Answers
  trusts : ∀ app c i, (application app c (.checkTrust i)).Trusts server i

namespace Exchange

/-- The envelope of a response on a connection with a record or without. -/
def envelope (cipher : Cipher) (record : Option SessionRecord) (m : Response) :
    Except EnvelopeError Bytes :=
  match record with
  | none => Envelope.encodePlain m
  | some r => Envelope.encodeFor (some cipher) (some r.identity) m

/-- Only something was written on a connection, and the cipher may have been used for it. -/
structure Speaks (c : ConnectionId) (b b' : Exchange) (fs : List Frame) : Prop where
  ciphers : b'.ciphers = b.ciphers
  directory : b'.directory = b.directory
  written : (b'.links c).written = (b.links c).written ++ fs

variable {c : ConnectionId}

theorem Speaks.refl (b : Exchange) : Speaks c b b [] := ⟨rfl, rfl, (List.append_nil _).symm⟩

theorem Speaks.trans {b b' b'' : Exchange} {fs fs' : List Frame} (h : Speaks c b b' fs)
    (h' : Speaks c b' b'' fs') : Speaks c b b'' (fs ++ fs') where
  ciphers := h'.ciphers.trans h.ciphers
  directory := h'.directory.trans h.directory
  written := by rw [h'.written, h.written, List.append_assoc]

/-- An envelope is put on a connection, or it is not. -/
theorem transmit_cases (b : Exchange) (c : ConnectionId) (bytes : Bytes) :
    ((b.transmit c bytes).1 = .ok () ∧ Speaks c b (b.transmit c bytes).2 [.envelope bytes]) ∨
    ∃ e, (b.transmit c bytes).1 = .error e ∧ Speaks c b (b.transmit c bytes).2 [] := by
  change ((((b.links c).send bytes).1.mapError _ = .ok () ∧
      Speaks c b (b.setLink c ((b.links c).send bytes).2) _) ∨
    ∃ e, ((b.links c).send bytes).1.mapError _ = .error e ∧
      Speaks c b (b.setLink c ((b.links c).send bytes).2) _)
  unfold Socket.send Socket.write
  split
  · split
    · exact .inr ⟨_, rfl, rfl, rfl, by simp [Switchboard.setLink]⟩
    · exact .inl ⟨rfl, rfl, rfl, by simp [Switchboard.setLink]⟩
  · exact .inr ⟨_, rfl, rfl, rfl, by simp [Switchboard.setLink]⟩

theorem encode_fst (b : Exchange) (c : ConnectionId) (m : Response) :
    (b.encode c (b.directory.identity? c) m).1 = envelope b.cipher (b.directory.record? c) m := by
  unfold Switchboard.encode Directory.isIdentified Directory.identity? envelope
  cases b.directory.record? c with
  | none => rfl
  | some r => rfl

theorem speaks_encode (b : Exchange) (c : ConnectionId) (recipient : Option Identity)
    (m : Response) : Speaks c b (b.encode c recipient m).2 [] := by
  rw [b.encode_eq]
  exact ⟨rfl, rfl, (List.append_nil _).symm⟩

/-- A reply is put on the connection in the mode that its record calls for, or nothing is. -/
theorem reply_cases (b : Exchange) (c : ConnectionId) (m : Response) :
    (∃ bytes, envelope b.cipher (b.directory.record? c) m = .ok bytes ∧
      (b.reply c m).1 = .ok () ∧ Speaks c b (b.reply c m).2 [.envelope bytes]) ∨
    ∃ e, (b.reply c m).1 = .error e ∧ Speaks c b (b.reply c m).2 [] := by
  have spoken := speaks_encode b c (b.directory.identity? c) m
  have made := encode_fst b c m
  cases he : envelope b.cipher (b.directory.record? c) m with
  | error e =>
    rw [reply, b.send_of_error (made.trans he)]
    exact .inr ⟨_, rfl, spoken⟩
  | ok bytes =>
    rw [reply, b.send_of_ok (made.trans he)]
    rcases transmit_cases (b.encode c (b.directory.identity? c) m).2 c bytes with
      ⟨hr, hs⟩ | ⟨e, hr, hs⟩
    · exact .inl ⟨bytes, rfl, congrArg (Except.mapError ServiceError.directory) hr, spoken.trans hs⟩
    · exact .inr ⟨.directory e, congrArg (Except.mapError ServiceError.directory) hr, spoken.trans hs⟩

/-- The frames are ordinary responses, in the mode that a record calls for, whatever the cipher was
used for before. -/
def Ordinary (ciphers : List CipherUse → Cipher) (record : Option SessionRecord)
    (fs : List Frame) : Prop :=
  ∀ f ∈ fs, ∃ m bytes uses, m.isOrdinary = true ∧ f = .envelope bytes ∧
    envelope (ciphers uses) record m = .ok bytes

theorem Ordinary.nil (ciphers : List CipherUse → Cipher) (record : Option SessionRecord) :
    Ordinary ciphers record [] := by
  intro f hf
  cases hf

theorem reply_ordinary (b : Exchange) (c : ConnectionId) {m : Response}
    (hm : m.isOrdinary = true) :
    ∃ fs, Speaks c b (b.reply c m).2 fs ∧ Ordinary b.ciphers (b.directory.record? c) fs := by
  rcases reply_cases b c m with ⟨bytes, he, -, hs⟩ | ⟨e, -, hs⟩
  · refine ⟨_, hs, fun f hf ↦ ?_⟩
    rw [List.mem_singleton.mp hf]
    exact ⟨m, bytes, b.uses, hm, rfl, he⟩
  · exact ⟨[], hs, .nil _ _⟩

end Exchange

namespace Program

open Exchange

variable {A : Type} {c : ConnectionId}

/-- From a program that answers, a connection hears ordinary responses, and nothing else changes. -/
theorem run_answers {p : Program A} (h : p.Answers) (b : Exchange) :
    ∃ fs, Speaks c b (run c p b).2 fs ∧ Ordinary b.ciphers (b.directory.record? c) fs := by
  induction h generalizing b with
  | finish app result => exact ⟨[], .refl b, .nil _ _⟩
  | look next _ ih => exact ih b.directory b
  | reply m next hm _ ih =>
    obtain ⟨fs, hs, ho⟩ := reply_ordinary b c hm
    obtain ⟨fs', hs', ho'⟩ := ih (b.reply c m).1 (b.reply c m).2
    rw [hs.ciphers, hs.directory] at ho'
    refine ⟨fs ++ fs', hs.trans hs', fun f hf ↦ ?_⟩
    rcases List.mem_append.mp hf with hf | hf
    · exact ho f hf
    · exact ho' f hf

/-- After a program identified its connection or could not, the connection has a record, and hears
ordinary responses. -/
theorem run_identify (i : Identity) (player : Option BoundPlayer)
    {after : Except ServiceError Unit → Program A} (h : ∀ r, (after r).Answers) (b : Exchange) :
    ∃ fs record, (run c (.identify i player after) b).2.ciphers = b.ciphers ∧
      (run c (.identify i player after) b).2.directory.record? c = some record ∧
      (record.identity = i ∨ b.directory.record? c = some record) ∧
      ((run c (.identify i player after) b).2.links c).written = (b.links c).written ++ fs ∧
      Ordinary b.ciphers (some record) fs := by
  rcases b.directory.identify_cases c i player with ⟨d, q, hd, hd'⟩ | ⟨e, hd, hd'⟩
  · have hi : b.identify c i player = (.ok q, { b with directory := d }) := by
      rw [Switchboard.identify, hd]
    obtain ⟨fs, hs, ho⟩ := run_answers (c := c) (h (.ok ())) { b with directory := d }
    have hw : Ordinary b.ciphers (d.record? c) fs := ho
    rw [hd'] at hw
    refine ⟨fs, ⟨c, i, player⟩, ?_, ?_, .inl rfl, ?_, hw⟩
    · rw [run, hi]
      exact hs.ciphers
    · rw [run, hi]
      exact (congrArg (·.record? c) hs.directory).trans hd'
    · rw [run, hi]
      exact hs.written
  · have hi : b.identify c i player = (.error e, b) := by
      rw [Switchboard.identify, hd]
    obtain ⟨record, hr⟩ := Option.ne_none_iff_exists'.mp hd'
    obtain ⟨fs, hs, ho⟩ := run_answers (c := c) (h (.error (.directory e))) b
    rw [hr] at ho
    refine ⟨fs, record, ?_, ?_, .inr hr, ?_, ho⟩
    · rw [run, hi]
      exact hs.ciphers
    · rw [run, hi]
      exact (congrArg (·.record? c) hs.directory).trans hr
    · rw [run, hi]
      exact hs.written

/-- From a program that trusts, a connection hears that it is trusted and has a record before it
hears anything else; if it could not be told so, it hears ordinary responses only. -/
theorem run_trusts {server : ServerIdentity} {i : Identity} {p : Program A}
    (h : p.Trusts server i) (b : Exchange) :
    (∃ fs, Speaks c b (run c p b).2 fs ∧ Ordinary b.ciphers (b.directory.record? c) fs) ∨
    ∃ bytes fs record, envelope b.cipher (b.directory.record? c) (.isTrusted server) = .ok bytes ∧
      (run c p b).2.ciphers = b.ciphers ∧ (run c p b).2.directory.record? c = some record ∧
      (record.identity = i ∨ b.directory.record? c = some record) ∧
      ((run c p b).2.links c).written = (b.links c).written ++ .envelope bytes :: fs ∧
      Ordinary b.ciphers (some record) fs := by
  induction h generalizing b with
  | look next _ ih => exact ih b.directory b
  | reply player next after failed sent identified =>
    change (∃ fs, Speaks c b (run c (next (b.reply c _).1) (b.reply c _).2).2 fs ∧ _) ∨
      ∃ bytes fs record, _ ∧ (run c (next (b.reply c _).1) (b.reply c _).2).2.ciphers = _ ∧
        (run c (next (b.reply c _).1) (b.reply c _).2).2.directory.record? c = _ ∧ _ ∧
        ((run c (next (b.reply c _).1) (b.reply c _).2).2.links c).written = _ ∧ _
    rcases reply_cases b c (.isTrusted server) with ⟨bytes, he, hr, hs⟩ | ⟨e, hr, hs⟩
    · obtain ⟨fs, record, hc, hd, hi, hw, ho⟩ :=
        run_identify (c := c) i player identified (b.reply c (.isTrusted server)).2
      rw [hs.ciphers] at hc ho
      rw [hs.directory] at hi
      rw [hs.written, List.append_assoc] at hw
      rw [hr, sent]
      exact .inr ⟨bytes, fs, record, he, hc, hd, hi, hw, ho⟩
    · obtain ⟨fs, hs', ho⟩ := run_answers (c := c) (failed e) (b.reply c (.isTrusted server)).2
      rw [hs.ciphers, hs.directory] at ho
      rw [hr]
      exact .inl ⟨fs, hs.trans hs', ho⟩

end Program

end SealedSession
