import Mathlib.Data.List.DropRight
import SealedSession.Proofs.Handshake.Invariant

/-!
# Failures in a row

A client counts, in 32 bits, how many envelopes in a row it could not decrypt. The count is reset in
three places, when a response is read, when the client disconnects, and by never being set before the
client is connected. Here it is told from the past alone: `failuresInRow` looks back as far as the
client is connected and has read no response, and counts the envelopes that failed in the cipher.

* `Moment.reading?`: what the envelope of a moment is read as.
* `failures_perform`: what an operation does to the count.
* `Tally`, `tally_run`: after every run, the count is that of the failures in a row, and a limit that
  the counter can pass is never passed.
-/

namespace SealedSession

namespace Standing

/-- Connecting and being connected keep the count. -/
theorem failures_changeState {next : ConnectionState} (hn : next ≠ .disconnected) (s : Standing) :
    (s.changeState next).failures = s.failures := by
  unfold changeState
  rw [if_neg hn]
  split
  · rfl
  · cases next with
    | disconnected => exact absurd rfl hn
    | connecting => rfl
    | connected => rfl

/-- A response that was accepted leaves a count of zero as it is. -/
theorem failures_after {s : Standing} (hf : s.failures = 0) (m : Response) :
    (s.after m).failures = 0 := by
  have moved (s : Standing) (p : Phase) : (s.setPhase p).failures = s.failures := by
    unfold setPhase
    split <;> rfl
  have left : (s.changeState .disconnected).failures = 0 := by
    unfold changeState
    by_cases hc : s.state = .disconnected
    · rw [if_pos hc]
      exact hf
    · rw [if_neg hc]
      rfl
  cases m with
  | identify _ _ _ | registerDevice _ _ | deviceRegistered _ _ => exact (moved _ _).trans hf
  | sendPreKeys _ _ | resendPreKeys _ | startSession =>
    rw [after]
    split
    · exact (moved _ _).trans hf
    · exact hf
  | sessionFailed _ | isUntrusted => exact left
  | isTrusted identity => exact (failures_changeState (by decide) _).trans hf
  | keepAlive | feature _ => exact hf

end Standing

namespace Handshake

variable {S W : Type} (g : Settings S W)

/-! ## What a moment contributes -/

/-- What the envelope of a moment is read as, if the client received one. -/
def Moment.reading? (t : Moment S W) : Option (Except EnvelopeError (Option Response)) :=
  match t.operation with
  | .receive bytes =>
    if t.before.state = .disconnected then none else some (reading g bytes t.before)
  | _ => none

/-- Whether a response was read at a moment, accepted or not. -/
def Moment.isRead (t : Moment S W) : Bool :=
  match t.reading? g with
  | some (.ok (some _)) => true
  | _ => false

/-- Whether an envelope failed in the cipher at a moment. -/
def Moment.isUndecrypted (t : Moment S W) : Bool :=
  match t.reading? g with
  | some (.error (.cipher _)) => true
  | _ => false

/-- How many envelopes in a row failed in the cipher, since a response was last read, or since the
client is connected. -/
def failuresInRow (past : List (Moment S W)) : Nat :=
  (past.rtakeWhile fun t ↦ t.after.state = .connected && !t.isRead g).countP
    (Moment.isUndecrypted g)

/-- A moment adds to the failures in a row, leaves them as they are, or is the end of them. -/
theorem failuresInRow_concat (past : List (Moment S W)) (t : Moment S W) :
    failuresInRow g (past ++ [t]) =
      if t.after.state = .connected && !t.isRead g then
        failuresInRow g past + if t.isUndecrypted g then 1 else 0
      else 0 := by
  unfold failuresInRow
  rw [List.rtakeWhile_concat]
  split
  · rw [List.countP_append, List.countP_singleton]
  · rfl

section Reading

variable {g} {h : Handshake S W} {bytes : Bytes}

theorem reading?_receive (hc : h.state ≠ .disconnected) :
    (moment g h (.receive bytes)).reading? g = some (reading g bytes h) := if_neg hc

theorem reading?_of_disconnected (hc : h.state = .disconnected) :
    (moment g h (.receive bytes)).reading? g = none := if_pos hc

theorem isRead_of_reading {m : Response} (hc : h.state ≠ .disconnected)
    (hr : reading g bytes h = .ok (some m)) : (moment g h (.receive bytes)).isRead g = true := by
  rw [Moment.isRead, reading?_receive hc, hr]

theorem not_isRead_of_reading (hc : h.state ≠ .disconnected)
    (hr : ∀ m, reading g bytes h ≠ .ok (some m)) :
    (moment g h (.receive bytes)).isRead g = false := by
  rw [Moment.isRead, reading?_receive hc]
  split
  · next m he => exact absurd (Option.some.inj he) (hr m)
  · rfl

theorem isUndecrypted_of_reading {e : CipherError} (hc : h.state ≠ .disconnected)
    (hr : reading g bytes h = .error (.cipher e)) :
    (moment g h (.receive bytes)).isUndecrypted g = true := by
  rw [Moment.isUndecrypted, reading?_receive hc, hr]

theorem not_isUndecrypted_of_reading (hc : h.state ≠ .disconnected)
    (hr : ∀ e, reading g bytes h ≠ .error (.cipher e)) :
    (moment g h (.receive bytes)).isUndecrypted g = false := by
  rw [Moment.isUndecrypted, reading?_receive hc]
  split
  · next e he => exact absurd (Option.some.inj he) (hr e)
  · rfl

/-- Only the envelopes of a server whose trust connected the client fail in its cipher. -/
theorem not_isUndecrypted_of_ne {limit : Option Nat} (hs : h.standing.Sound limit)
    (hc : h.state ≠ .connected) (op : Operation W) :
    (moment g h op).isUndecrypted g = false := by
  cases op with
  | receive bytes =>
    by_cases hd : h.state = .disconnected
    · rw [Moment.isUndecrypted, reading?_of_disconnected hd]
    · refine not_isUndecrypted_of_reading hd fun e hr ↦ ?_
      obtain ⟨-, hi⟩ := Envelope.decode_error_cipher hr
      rw [Option.isSome_map] at hi
      exact hc (hs.server_iff.mp hi)
  | _ => rfl

end Reading

/-! ## The count -/

/-- A response that is read resets the count, whether or not it is accepted. -/
theorem failures_of_read {h : Handshake S W} {bytes : Bytes} {m : Response}
    (hc : h.state ≠ .disconnected) (hr : reading g bytes h = .ok (some m)) :
    (receive g bytes h).2.cipherFailures = 0 := by
  have hl : (listening g h).standing.failures = 0 := rfl
  change (receive g bytes h).2.standing.failures = 0
  rw [receive_of_reading g hc hr, respond]
  split
  · rcases standing_handle g m (listening g h) with hs | ⟨-, hs⟩
    · rw [hs]
      exact Standing.failures_after hl m
    · rw [hs]
      exact hl
  · exact hl

/-- An envelope that fails in the cipher is counted, unless it is one too many. -/
theorem failures_of_undecrypted {h : Handshake S W} {bytes : Bytes} {e : CipherError}
    (hc : h.state ≠ .disconnected) (hr : reading g bytes h = .error (.cipher e))
    (ha : (receive g bytes h).2.state ≠ .disconnected) :
    (receive g bytes h).2.cipherFailures = h.cipherFailures + 1 := by
  obtain ⟨w, hw⟩ := snd_cipher? g h
  obtain ⟨s, -, hs⟩ := store_of_undecrypted g hr
  have hf : (receive g bytes h).2.standing = h.standing.failed g.refreshLimit := by
    rw [receive_of_undecrypted g hc hr, standing_recoverCipher g hs, hw, standing_inWorld]
  cases hx : exceeds (h.standing.failures + 1).toNat g.refreshLimit with
  | some limit =>
    rw [Standing.failed_of_some hx] at hf
    have hd := congrArg Standing.state hf
    rw [Standing.state_changeState] at hd
    exact absurd hd ha
  | none =>
    rw [Standing.failed_of_none hx] at hf
    exact congrArg Standing.failures hf

/-- Any other envelope is dropped or refused, and leaves the count alone. -/
theorem failures_of_unread {h : Handshake S W} {bytes : Bytes} (hc : h.state ≠ .disconnected)
    (hm : ∀ m, reading g bytes h ≠ .ok (some m))
    (he : ∀ e, reading g bytes h ≠ .error (.cipher e)) :
    (receive g bytes h).2.cipherFailures = h.cipherFailures := by
  obtain ⟨w, hw⟩ := snd_cipher? g h
  rw [receive_eq g bytes hc, hw]
  cases hr : reading g bytes h with
  | ok o =>
    cases o with
    | none => rfl
    | some m => exact absurd hr (hm m)
  | error x =>
    cases x with
    | cipher e => exact absurd hr (he e)
    | _ => rfl

/-- What is no envelope leaves the count alone, unless it disconnects. -/
theorem failures_aside {h : Handshake S W} {op : Operation W} (ho : ∀ bytes, op ≠ .receive bytes)
    (hc : (perform g h op).2.state ≠ .disconnected) :
    (perform g h op).2.cipherFailures = h.cipherFailures := by
  have left {k : Handshake S W} (hk : (leave g k).state ≠ .disconnected) : False := by
    unfold leave at hk
    split at hk
    · next hd => exact hk hd
    · exact hk (state_changeState g k _)
  cases op with
  | receive bytes => exact absurd rfl (ho bytes)
  | onOpen channel lock =>
    change (onOpen g channel lock h).2.cipherFailures = _
    cases hb : h.outbound.bound with
    | some b => rw [onOpen_of_bound g channel lock hb]
    | none =>
      rw [onOpen_of_unbound g channel lock hb]
      change (introduce g _).2.standing.failures = _
      rcases standing_introduce g (changeState g .connecting { h with
          lock := lock, outbound := { h.outbound with bound := some channel } }) with hr | hr
      · rw [hr, standing_changeState, Standing.failures_changeState (by decide)]
        rfl
      · rw [hr, standing_changeState]
        exact Standing.failures_changeState (by decide) _
  | onClose close =>
    change (onClose g close h).state ≠ _ at hc
    unfold onClose at hc
    split at hc
    · exact (left hc).elim
    · exact (left hc).elim
  | onFailure => exact (left hc).elim
  | disconnect => exact absurd (state_changeState g h _) hc
  | fail message => exact absurd (state_changeState g (h.emit _) _) hc
  | saveOnShutdown =>
    change (saveOnShutdown g h).cipherFailures = _
    unfold saveOnShutdown
    split <;> rfl
  | startSession serverId => exact congrArg Standing.failures (standing_startSession g serverId h)
  | send r => exact congrArg Standing.failures (standing_send g r h)
  | sendKeepalive i => exact congrArg Standing.failures (standing_sendKeepalive g i h)
  | takeEvents | createChannel | takeEnvelope _ | dropReceiving _ | elapse _ => rfl

/-- An operation does to the count what its moment does to the failures in a row. -/
theorem failures_perform {h : Handshake S W} (hs : h.standing.Sound g.refreshLimit)
    (op : Operation W) :
    let t := moment g h op
    t.after.cipherFailures =
      if t.after.state = .connected && !t.isRead g then
        h.cipherFailures + if t.isUndecrypted g then 1 else 0
      else 0 := by
  intro t
  by_cases hc : t.after.state = .connected
  · have ha : t.after.state ≠ .disconnected := by
      rw [hc]
      simp
    rw [hc]
    by_cases ho : ∃ bytes, op = .receive bytes
    · obtain ⟨bytes, rfl⟩ := ho
      have hd : h.state ≠ .disconnected := by
        intro hd
        change (receive g bytes h).2.state ≠ _ at ha
        rw [receive_of_disconnected g bytes hd] at ha
        exact ha hd
      change (receive g bytes h).2.cipherFailures = _
      by_cases hm : ∃ m, reading g bytes h = .ok (some m)
      · obtain ⟨m, hr⟩ := hm
        rw [failures_of_read g hd hr, isRead_of_reading hd hr]
        rfl
      · replace hm (m : Response) : reading g bytes h ≠ .ok (some m) := fun hr ↦ hm ⟨m, hr⟩
        rw [not_isRead_of_reading hd hm]
        by_cases he : ∃ e, reading g bytes h = .error (.cipher e)
        · obtain ⟨e, hr⟩ := he
          rw [failures_of_undecrypted g hd hr ha, isUndecrypted_of_reading hd hr]
          rfl
        · replace he (e : CipherError) : reading g bytes h ≠ .error (.cipher e) :=
            fun hr ↦ he ⟨e, hr⟩
          rw [failures_of_unread g hd hm he, not_isUndecrypted_of_reading hd he]
          simp
    · replace ho (bytes : Bytes) : op ≠ .receive bytes := fun he ↦ ho ⟨bytes, he⟩
      have hn : t.reading? g = none := by
        cases op with
        | receive bytes => exact absurd rfl (ho bytes)
        | _ => rfl
      rw [Moment.isRead, Moment.isUndecrypted, hn]
      exact (failures_aside g ho ha).trans (UInt32.add_zero _).symm
  · rw [if_neg (by simp [hc])]
    exact (hs.step (step_perform g h op)).failures_eq hc

/-- The most that the counter can tell. -/
def maxFailures : Nat := 4294967295

/-- The count of a client agrees with the failures in a row of its past. -/
structure Tally (past : List (Moment S W)) (h : Handshake S W) : Prop where
  /-- As far as 32 bits can tell it. -/
  count : h.cipherFailures = UInt32.ofNat (failuresInRow g past)
  /-- A limit that the counter can pass is never passed. -/
  within : ∀ limit, g.refreshLimit = some limit → limit < maxFailures → failuresInRow g past ≤ limit
  connected : h.state ≠ .connected → failuresInRow g past = 0

/-- They agree after every run. -/
theorem tally_run (world : W) (ops : List (Operation W)) :
    Tally g (history g (start world) ops) (run g (start world) ops) := by
  refine sound_history_induction g world
    ⟨rfl, fun _ _ _ ↦ Nat.zero_le _, fun _ ↦ rfl⟩ ?_ ops
  rintro past h op hs ⟨hf, hl, -⟩
  have counted : (perform g h op).2.cipherFailures =
      UInt32.ofNat (failuresInRow g (past ++ [moment g h op])) := by
    refine (failures_perform g hs op).trans ?_
    rw [failuresInRow_concat, hf]
    split
    · rw [UInt32.ofNat_add]
      split <;> rfl
    · rfl
  refine ⟨counted, fun limit hg hlt ↦ ?_, fun hc ↦ ?_⟩
  swap
  · rw [failuresInRow_concat]
    exact if_neg (by simp [show (moment g h op).after.state ≠ _ from hc])
  -- one failure more is still within the range of the counter, and the count is within the limit
  have grown : failuresInRow g (past ++ [moment g h op]) ≤ limit + 1 := by
    rw [failuresInRow_concat]
    have hp := hl limit hg hlt
    split
    · split <;> omega
    · omega
  have within := (hs.step (step_perform g h op)).failures_le limit hg
  change (perform g h op).2.cipherFailures.toNat ≤ limit at within
  rw [counted, UInt32.toNat_ofNat'] at within
  have hm : failuresInRow g (past ++ [moment g h op]) % 2 ^ 32 =
      failuresInRow g (past ++ [moment g h op]) :=
    Nat.mod_eq_of_lt (Nat.lt_of_le_of_lt grown (Nat.succ_lt_succ hlt))
  omega

end Handshake

end SealedSession
