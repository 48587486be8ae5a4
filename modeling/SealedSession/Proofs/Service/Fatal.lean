import SealedSession.Proofs.Service.Ending

/-!
# Fatal events

Of what may happen to a connection some is fatal: an envelope that cannot be decoded, a request that
the application fails at, a reply that cannot be sent, the end of the connection, and silence for
too long. Everything else has the effect on its service that it ought to have.

What an envelope says depends on the record that its connection has at that moment, which the
application may have changed any number of times. So everything is said of the state in which the
envelope arrives, and nothing is assumed of the application.

* `Fatal`: the events that end a session, each with its reason.
* `receive_exit_iff`: they are those that end the loop over arrivals.
* `Taken`, `taken_of_none`: the effect of an envelope that is not fatal.
-/

namespace SealedSession

namespace Service

variable {A : Type} (g : Settings A) (c : ConnectionId)

/-- The events that end a session, after a silence and in a given state. -/
inductive Fatal (silence : Nat) (s : Service A) : Turn → Exit → Prop where
  /-- An envelope cannot be decoded, and it is not the cipher that fails. -/
  | undecodable {bytes : Bytes} {e : EnvelopeError} (undecoded : (read g c bytes s).1 = .error e)
      (he : e.asCipher = none) :
      Fatal silence s (.arrive c (.envelope bytes))
        ⟨.protocolError, ServiceError.message (.envelope e)⟩
  /-- The application fails at a request. -/
  | unhandled {bytes : Bytes} {r : Request} {e : ServiceError}
      (request : (read g c bytes s).1 = .ok (some r)) (hr : r.isProbe = false)
      (failed : ((g.application s.app c r).run c (read g c bytes s).2.exchange).1.1 = .error e) :
      Fatal silence s (.arrive c (.envelope bytes)) ⟨.serverError, e.message⟩
  /-- A keepalive cannot be answered. -/
  | unanswered {bytes : Bytes} {i : Option Identity} {e : ServiceError}
      (probe : (read g c bytes s).1 = .ok (some (.keepAlive i)))
      (failed : ((read g c bytes s).2.exchange.reply c .keepAlive).1 = .error e) :
      Fatal silence s (.arrive c (.envelope bytes)) ⟨.serverError, e.message⟩
  /-- Fresh prekeys cannot be asked for. -/
  | unrefreshed {bytes : Bytes} {x : CipherError} {e : ServiceError}
      (undecrypted : (read g c bytes s).1 = .error (.cipher x))
      (failed : ((read g c bytes s).2.exchange.reply c (.resendPreKeys (some g.identity))).1 =
        .error e) :
      Fatal silence s (.arrive c (.envelope bytes)) ⟨.serverError, e.message⟩
  | closed (info : Option CloseInfo) :
      Fatal silence s (.arrive c (.closed info)) ⟨.normalClose, "connection closed"⟩
  | broken (system : String) :
      Fatal silence s (.arrive c (.broken system)) ⟨.normalClose, "connection closed"⟩
  | idle {span : Nat} (h : g.idleTimeout.nanos ≤ silence + span) :
      Fatal silence s (.pass span) ⟨.normalClose, "idle timeout"⟩

variable {g c}

theorem exitOn_fst {reason : StopReason} {x : Except ServiceError Unit × Service A} {exit : Exit} :
    (exitOn reason x).1 = some exit ↔ ∃ e, x.1 = .error e ∧ exit = .failed reason e := by
  rcases x with ⟨e | u, s⟩
  · constructor
    · intro h
      exact ⟨e, rfl, (Option.some.inj h).symm⟩
    · rintro ⟨_, ⟨⟩, rfl⟩
      rfl
  · constructor
    · rintro ⟨⟩
    · rintro ⟨_, ⟨⟩, -⟩

/-- An envelope that ends the session is fatal, for the reason that is given. -/
theorem fatal_of_take {silence : Nat} {bytes : Bytes} {s : Service A} {exit : Exit}
    (h : (take g c bytes s).1 = some exit) :
    Fatal g c silence s (.arrive c (.envelope bytes)) exit := by
  rw [take, show read g c bytes s = ((read g c bytes s).1, (read g c bytes s).2) from rfl] at h
  cases hr : (read g c bytes s).1 with
  | error e =>
    rw [hr] at h
    cases e with
    | cipher x =>
      obtain ⟨e, he, rfl⟩ := exitOn_fst.mp h
      exact .unrefreshed hr he
    | _ =>
      cases h
      exact .undecodable hr rfl
  | ok o =>
    rw [hr] at h
    cases o with
    | none => cases h
    | some r =>
      obtain ⟨e, he, rfl⟩ := exitOn_fst.mp h
      cases r with
      | keepAlive i => exact .unanswered hr he
      | _ => exact .unhandled hr rfl he

/-- A fatal envelope ends the session. -/
theorem take_of_fatal {silence : Nat} {bytes : Bytes} {s : Service A} {exit : Exit}
    (h : Fatal g c silence s (.arrive c (.envelope bytes)) exit) :
    (take g c bytes s).1 = some exit := by
  have as_read {r : Except EnvelopeError (Option Request)} (hr : (read g c bytes s).1 = r) :
      read g c bytes s = (r, (read g c bytes s).2) := Prod.ext hr rfl
  unfold take
  cases h with
  | @undecodable _ e hr he =>
    rw [as_read hr]
    cases e with
    | cipher x => cases he
    | _ => rfl
  | unhandled hr hp he =>
    rw [as_read hr]
    dsimp only
    rw [answer_of_asked g c hp]
    exact exitOn_fst.mpr ⟨_, he, rfl⟩
  | unanswered hr he =>
    rw [as_read hr]
    exact exitOn_fst.mpr ⟨_, he, rfl⟩
  | unrefreshed hr he =>
    rw [as_read hr]
    exact exitOn_fst.mpr ⟨_, he, rfl⟩

/-- An arrival ends the session exactly if it is fatal, and for the reason that goes with it. -/
theorem receive_exit_iff {silence : Nat} {a : Arrival} {s : Service A} {exit : Exit} :
    (receive g c a s).1 = some exit ↔ Fatal g c silence s (.arrive c a) exit := by
  cases a with
  | closed info =>
    constructor
    · rintro ⟨⟩
      exact .closed info
    · rintro ⟨⟩
      rfl
  | broken system =>
    constructor
    · rintro ⟨⟩
      exact .broken system
    · rintro ⟨⟩
      rfl
  | envelope bytes =>
    rw [receive_envelope]
    exact ⟨fatal_of_take, take_of_fatal⟩

/-! ## Envelopes that are not fatal -/

variable (g c)

/-- The service has replied by itself: one envelope was put on the connection in the mode that its
record calls for, and nothing else has changed. -/
structure Replied (m : Response) (s s' : Service A) : Prop where
  app : s'.app = s.app
  spoke : ∃ bytes, Exchange.envelope s.exchange.cipher (s.record? c) m = .ok bytes ∧
    Exchange.Speaks c s.exchange s'.exchange [.envelope bytes]
  others : ∀ d, d ≠ c → s'.exchange.links d = s.exchange.links d

/-- The effect that an envelope ought to have if it is not fatal, once it was read. -/
def Taken (bytes : Bytes) (s s' : Service (Noted A)) : Prop :=
  match read g.noted c bytes s with
  | (.ok (some (.keepAlive _)), t) => Replied c .keepAlive t s'
  | (.ok (some r), _) => s'.app.log = s.app.log ++ [(c, r)]
  | (.ok none, t) => s'.exchange = { s.exchange with uses := t.exchange.uses } ∧ s'.app = s.app
  | (.error (.cipher _), t) => Replied c (.resendPreKeys (some g.identity)) t s'
  | (.error _, _) => False

variable {c}

/-- A reply that was sent was sent once, and to the connection alone. -/
theorem replied_of_ok {m : Response} {s : Service A}
    (h : (exitOn .serverError (reply c m s)).1 = none) : Replied c m s (reply c m s).2 := by
  have hn : ∀ e, (s.exchange.reply c m).1 ≠ .error e := by
    intro e he
    have hs : (exitOn .serverError (reply c m s)).1 = some (.failed .serverError e) :=
      exitOn_fst.mpr ⟨e, he, rfl⟩
    rw [h] at hs
    cases hs
  rcases s.exchange.reply_cases c m with ⟨bytes, he, -, hs⟩ | ⟨e, he, -⟩
  · exact ⟨rfl, ⟨bytes, he, hs⟩, fun d hd ↦ s.exchange.links_send_of_ne hd _ m⟩
  · exact absurd he (hn e)

/-- An envelope that is not fatal has the effect that it ought to have. -/
theorem taken_of_none {bytes : Bytes} {s : Service (Noted A)} (hs : s.isServed c = true)
    (h : (receive g.noted c (.envelope bytes) s).1 = none) :
    Taken g c bytes s (arrive g.noted c (.envelope bytes) s) := by
  rw [arrive_of_none g.noted hs h]
  rw [receive_envelope] at h ⊢
  unfold take at h ⊢
  unfold Taken
  have same := afterReading_eq g.noted c (.envelope bytes) s
  change (read g.noted c bytes s).2 = _ at same
  rcases hr : read g.noted c bytes s with ⟨e | o, t⟩ <;> rw [hr] at h same
  case error =>
    cases e with
    | cipher x =>
      dsimp only at h ⊢
      have hp := replied_of_ok h
      rw [exitOn_snd]
      exact ⟨hp.app, hp.spoke, hp.others⟩
    | _ => cases h
  case ok =>
    cases o with
    | none =>
      dsimp only at same ⊢
      rw [same]
      exact ⟨rfl, rfl⟩
    | some r =>
      dsimp only at h same ⊢
      rw [exitOn_snd]
      cases r with
      | keepAlive i =>
        have hp := replied_of_ok h
        exact ⟨hp.app, hp.spoke, hp.others⟩
      | _ => exact (log_hand g c _ t).trans (by rw [same])

end Service

end SealedSession
