import Mathlib.Data.List.Forall2
import SealedSession.Proofs.Handshake.Likeness

/-!
# The token of a session stays with its client

The token that a session holds serves the verification of its account and nothing else. Two clients
that differ in it alone are `Likeness.Whole`: whatever is done to both, nobody who reads what they
queue and what they answer learns which one it is. Only the verifier is told, because each client
has its own session verified.

* `Event.AlikeBut`: two events that differ at most in the session to be verified.
* `Request.tokenless_of_decode`, `Response.tokenless_of_decode`: no message that is read has a
  token.
* `token_unseen`: what a token leaves the same.
-/

namespace SealedSession

/-- Two events are the same, but one may ask for the verification of a session where the other asks
for that of another. -/
inductive Event.AlikeBut (s s' : PlayerSession) : Event → Event → Prop where
  | same (e : Event) (h : e.isVerification = false) : AlikeBut s s' e e
  | verify (key secret : Bytes) :
      AlikeBut s s' (.verifyAccount s key secret) (.verifyAccount s' key secret)

/-! ## Messages that are read -/

namespace PlayerSession

/-- The diagnostic text tells whether there is a token. -/
theorem diagnostic_congr {s t : PlayerSession} (h : s.withoutToken = t.withoutToken)
    (ht : s.accessToken.isSome = t.accessToken.isSome) : s.diagnostic = t.diagnostic := by
  obtain ⟨id, name, server, mode, token⟩ := s
  obtain ⟨id', name', server', mode', token'⟩ := t
  simp only [withoutToken, mk.injEq] at h
  obtain ⟨rfl, rfl, rfl, rfl, -⟩ := h
  cases token with
  | none =>
    cases token' with
    | none => rfl
    | some _ => cases ht
  | some _ =>
    cases token' with
    | none => cases ht
    | some _ => rfl

/-- A session that is read has no token, whatever fields were written. -/
theorem tokenless_of_ofJson? {source : Json.Source} {j : Json.Raw} {s : PlayerSession}
    (h : ofJson? source j = some s) : s.accessToken = none := by
  simp only [ofJson?, Option.bind_eq_bind, Option.bind_eq_some_iff] at h
  obtain ⟨_, -, _, -, _, -, _, -, _, -, hs⟩ := h
  cases hs
  rfl

end PlayerSession

theorem Json.Record.exists_of_required? {α : Type} {r : Json.Record} {name : String}
    {f : Json.Raw → Option α} {a : α} (h : r.required? name f = some a) : ∃ j, f j = some a := by
  obtain ⟨j, -, hj⟩ := Option.bind_eq_some_iff.mp h
  exact ⟨j, hj⟩

/-- What a tagged record is read as is one of its variants. -/
theorem Json.exists_of_readTagged? {α β : Type} {source : Source} {tag : String}
    {variants : List (String × β)} {body : β → Raw → Option α} {j : Raw} {a : α}
    (h : readTagged? source tag variants body j = some a) : ∃ v rest, body v rest = some a := by
  unfold readTagged? at h
  split at h
  · cases h
  · simp only [Option.bind_eq_bind, Option.bind_eq_some_iff] at h
    obtain ⟨⟨_, rest⟩, -, v, -, hv⟩ := h
    exact ⟨v, rest, hv⟩

/-- The session that a request carries. -/
def Request.session? : Request → Option PlayerSession
  | .startSession _ session _ => some session
  | _ => none

/-- The session that a failure carries. -/
def SessionFailure.session? : SessionFailure → Option PlayerSession
  | .accountVerificationFailed session => some session
  | _ => none

/-- The session that a response carries. -/
def Response.session? : Response → Option PlayerSession
  | .sessionFailed failure => failure.session?
  | _ => none

theorem Request.tokenless_of_ofJson? {j : Json.Raw} {r : Request} (h : ofJson? j = some r)
    {s : PlayerSession} (hs : r.session? = some s) : s.accessToken = none := by
  obtain ⟨v, rest, hv⟩ := Json.exists_of_readTagged? h
  cases v with
  | startSession =>
    simp only [body?, Option.bind_eq_bind, Option.bind_eq_some_iff] at hv
    obtain ⟨_, -, _, -, t, ht, _, -, hr⟩ := hv
    cases hr
    cases hs
    obtain ⟨_, ht⟩ := Json.Record.exists_of_required? ht
    exact PlayerSession.tokenless_of_ofJson? ht
  | sendPreKeys | feature =>
    obtain ⟨_, -, rfl⟩ := Option.map_eq_some_iff.mp hv
    cases hs
  | identify =>
    simp only [body?, Option.bind_eq_bind, Option.bind_eq_some_iff] at hv
    obtain ⟨_, -, _, -, _, -, hr⟩ := hv
    cases hr
    cases hs
  | checkTrust | keepAlive =>
    simp only [body?, Option.bind_eq_bind, Option.bind_eq_some_iff] at hv
    obtain ⟨_, -, _, -, hr⟩ := hv
    cases hr
    cases hs

theorem SessionFailure.tokenless_of_ofJson? {source : Json.Source} {j : Json.Raw}
    {f : SessionFailure} (h : ofJson? source j = some f) {s : PlayerSession}
    (hs : f.session? = some s) : s.accessToken = none := by
  obtain ⟨v, rest, hv⟩ := Json.exists_of_readTagged? h
  cases v with
  | accountVerificationFailed =>
    simp only [body?, Option.bind_eq_bind, Option.bind_eq_some_iff] at hv
    obtain ⟨_, -, t, ht, hr⟩ := hv
    cases hr
    cases hs
    obtain ⟨_, ht⟩ := Json.Record.exists_of_required? ht
    exact PlayerSession.tokenless_of_ofJson? ht
  | privateIdentityMismatch =>
    simp only [body?, Option.bind_eq_bind, Option.bind_eq_some_iff] at hv
    obtain ⟨_, -, _, -, hr⟩ := hv
    cases hr
    cases hs
  | sessionError =>
    simp only [body?, Option.bind_eq_bind, Option.bind_eq_some_iff] at hv
    obtain ⟨_, -, _, -, _, -, hr⟩ := hv
    cases hr
    cases hs

theorem Response.tokenless_of_ofJson? {j : Json.Raw} {r : Response} (h : ofJson? j = some r)
    {s : PlayerSession} (hs : r.session? = some s) : s.accessToken = none := by
  obtain ⟨failure, rfl⟩ : ∃ failure, r = .sessionFailed failure := by
    cases r with
    | sessionFailed failure => exact ⟨failure, rfl⟩
    | _ => cases hs
  obtain ⟨v, rest, hv⟩ := Json.exists_of_readTagged? h
  cases v with
  | sessionFailed =>
    simp only [body?, Option.bind_eq_bind, Option.bind_eq_some_iff] at hv
    obtain ⟨_, -, f, hf, hr⟩ := hv
    cases hr
    obtain ⟨_, hf⟩ := Json.Record.exists_of_required? hf
    exact SessionFailure.tokenless_of_ofJson? hf hs
  | startSession | isUntrusted | keepAlive | feature =>
    obtain ⟨_, -, hr⟩ := Option.map_eq_some_iff.mp hv
    cases hr
  | _ =>
    simp [body?, Option.bind_eq_some_iff] at hv

/-- No request that is read carries a token, whoever sent it and however it was sealed. -/
theorem Request.tokenless_of_decode {complaint : Bytes → String} {cipher : Option Cipher}
    {sender : Option Identity} {bytes : Bytes} {r : Request}
    (h : Envelope.decode Request complaint cipher sender bytes = .ok (some r))
    {s : PlayerSession} (hs : r.session? = some s) : s.accessToken = none := by
  obtain ⟨payload, hp⟩ := Envelope.read_of_decode h
  obtain ⟨j, -, hj⟩ := Option.bind_eq_some_iff.mp hp
  exact Request.tokenless_of_ofJson? hj hs

theorem Response.tokenless_of_decode {complaint : Bytes → String} {cipher : Option Cipher}
    {sender : Option Identity} {bytes : Bytes} {r : Response}
    (h : Envelope.decode Response complaint cipher sender bytes = .ok (some r))
    {s : PlayerSession} (hs : r.session? = some s) : s.accessToken = none := by
  obtain ⟨payload, hp⟩ := Envelope.read_of_decode h
  obtain ⟨j, -, hj⟩ := Option.bind_eq_some_iff.mp hp
  exact Response.tokenless_of_ofJson? hj hs

/-! ## Messages that are written -/

/-- Requests that differ in tokens alone are written alike. -/
theorem Request.encode_congr {r r' : Request} (h : r.erased = r'.erased) :
    Payload.encode r = Payload.encode r' := by
  change r.toJson.encode = r'.toJson.encode
  rw [← Request.toJson_erased, h, Request.toJson_erased]

theorem Response.encode_congr {r r' : Response} (h : r.erased = r'.erased) :
    Payload.encode r = Payload.encode r' := by
  change r.toJson.encode = r'.toJson.encode
  rw [← Response.toJson_erased, h, Response.toJson_erased]

/-! ## Runs -/

namespace Handshake

variable {S W : Type} (g : Settings S W) (token : Option String)

/-- Nothing that a client does depends on its token. -/
def tokenLikeness : Likeness g (g.withToken token) :=
  .ofToken token (List.Forall₂ (Event.AlikeBut g.session (g.withToken token).session))
    (fun _ _ e hv he ↦ List.rel_append he (.cons (.same e hv) .nil))
    (fun _ _ key secret he ↦ List.rel_append he (.cons (.verify key secret) .nil))

theorem tokenLikeness_whole : (tokenLikeness g token).Whole := .ofToken .nil

/-- Two clients that differ in their tokens alone give the same results, are in the same states, and
have queued the same bytes, whatever is done to both of them. Their events are the same, but each
asks for its own session to be verified. Messages that differ in tokens alone are written alike, no
message that is read carries a token, and the diagnostic text of a session tells only whether there
is one. -/
theorem token_unseen :
    (∀ {S W : Type} (g : Settings S W) (token : Option String) (world : W)
        (ops : List (Operation W)),
      let g' := g.withToken token
      let h := run g (start world) ops
      let h' := run g' (start world) ops
      (history g (start world) ops).map Moment.result =
        (history g' (start world) ops).map Moment.result ∧
      h.state = h'.state ∧ h.phase = h'.phase ∧ h.outbound = h'.outbound ∧ h.store = h'.store ∧
      h.serverIdentity = h'.serverIdentity ∧ h.lock = h'.lock ∧
      h.cipherFailures = h'.cipherFailures ∧ h.world = h'.world ∧
      List.Forall₂ (Event.AlikeBut g.session g'.session) h.events h'.events) ∧
    (∀ r r' : Request, r.erased = r'.erased →
      Envelope.encodePlain r = Envelope.encodePlain r' ∧
      ∀ cipher recipient,
        Envelope.encodeFor cipher recipient r = Envelope.encodeFor cipher recipient r') ∧
    (∀ r r' : Response, r.erased = r'.erased →
      Envelope.encodePlain r = Envelope.encodePlain r' ∧
      ∀ cipher recipient,
        Envelope.encodeFor cipher recipient r = Envelope.encodeFor cipher recipient r') ∧
    (∀ complaint cipher sender bytes r s,
      Envelope.decode Request complaint cipher sender bytes = .ok (some r) →
      r.session? = some s → s.accessToken = none) ∧
    (∀ complaint cipher sender bytes r s,
      Envelope.decode Response complaint cipher sender bytes = .ok (some r) →
      r.session? = some s → s.accessToken = none) ∧
    (∀ source j s, PlayerSession.ofJson? source j = some s → s.accessToken = none) ∧
    ∀ s t : PlayerSession, s.withoutToken = t.withoutToken →
      s.accessToken.isSome = t.accessToken.isSome → s.diagnostic = t.diagnostic := by
  refine ⟨?runs, ?requests, ?responses, ?requestsRead, ?responsesRead, ?sessionsRead, ?texts⟩
  case runs =>
    intro S W g token world ops g' h h'
    have begun : (tokenLikeness g token).Alike (start world) (start world) :=
      ⟨rfl, rfl, rfl, rfl, rfl, rfl, rfl, rfl, .nil⟩
    obtain ⟨results, ended⟩ := (tokenLikeness_whole g token).alike_run (f := id)
      (fun change w w' hw ↦ congrArg change hw) begun ops
    have same : ops.map (Operation.map id) = ops := by
      rw [funext Operation.map_id, List.map_id']
    rw [same] at results ended
    exact ⟨results, ended.state, ended.phase, ended.outbound, ended.store, ended.server, ended.lock,
      ended.failures, ended.world, ended.events⟩
  case requests =>
    intro r r' hr
    exact ⟨Envelope.encodePlain_congr (Request.encode_congr hr), fun _ _ ↦
      Envelope.encodeFor_congr (Request.encode_congr hr) _ _⟩
  case responses =>
    intro r r' hr
    exact ⟨Envelope.encodePlain_congr (Response.encode_congr hr), fun _ _ ↦
      Envelope.encodeFor_congr (Response.encode_congr hr) _ _⟩
  case requestsRead => exact fun _ _ _ _ _ _ h hs ↦ Request.tokenless_of_decode h hs
  case responsesRead => exact fun _ _ _ _ _ _ h hs ↦ Response.tokenless_of_decode h hs
  case sessionsRead => exact fun _ _ _ h ↦ PlayerSession.tokenless_of_ofJson? h
  case texts => exact fun _ _ h ht ↦ PlayerSession.diagnostic_congr h ht

end Handshake

end SealedSession
