import SealedSession.Envelope
import SealedSession.Proofs.Json.Defects
import SealedSession.Proofs.Json.Range
import SealedSession.Proofs.Message.RoundTrip

/-!
# How far the format of messages is open

A message is one object, and the parts of it that have fields are objects within. The `format` of a
type says which fields these declare. What is not declared may stand anywhere and mean nothing;
what is declared stands once, and its order does not matter.

Two things are not as open or as strict as they look. The failure inside a response has been
collected by the time that it is read, so its tag may be the position of a variant. And a number
that nobody reads must still be finite in the two roundings in which it is converted, which a few
numbers just below the largest double are not.

* `Request.strict_ofJson?`, `Response.strict_ofJson?`: no reader takes what breaks its format.
* `open_to_additions`: what is read of a text, and what is refused.
* `exceptions_to_format`: the two exceptions.
-/

namespace SealedSession

open Json

/-! ## The formats of messages -/

def Identity.format : Format :=
  .record [("owner", .required, .leaf), ("public_key", .required, .leaf),
    ("device_id", .optional, .leaf)]

def Profile.format : Format := .record [("id", .required, .leaf)]

def SessionMode.format : Format := .choice ["verified", "unverified"]

def StopReason.format : Format :=
  .choice ["NORMAL_CLOSE", "PROTOCOL_ERROR", "UNAUTHORISED", "SERVER_ERROR"]

def PlayerSession.format : Format :=
  .record [("player_id", .required, .leaf), ("username", .required, .leaf),
    ("server", .required, .leaf), ("mode", .required, SessionMode.format)]

def FeatureMessage.format : Format :=
  .record [("kind", .required, .leaf), ("body", .required, .leaf)]

def PreKeyOffer.format : Format :=
  .record [("identity", .optional, Identity.format), ("bundle", .required, .leaf)]

/-- What the variant of a request declares besides the tag. -/
def Request.Variant.format : Variant → Format
  | .identify => .record [("identity", .optional, Identity.format), ("token", .optional, .leaf)]
  | .sendPreKeys => PreKeyOffer.format
  | .startSession =>
    .record [("identity", .required, Identity.format), ("session", .required, PlayerSession.format),
      ("server_id", .optional, .leaf)]
  | .checkTrust => .record [("identity", .required, Identity.format)]
  | .keepAlive => .record [("identity", .optional, Identity.format)]
  | .feature => FeatureMessage.format

def Request.format : Format :=
  .tagged "type" .direct (Variant.names.map fun v ↦ (v.1, v.2.format))

/-- What the variant of a failure declares besides the tag. -/
def SessionFailure.Variant.format : Variant → Format
  | .accountVerificationFailed => .record [("session", .required, PlayerSession.format)]
  | .privateIdentityMismatch => .record [("url", .required, .leaf)]
  | .sessionError =>
    .record [("reason", .required, StopReason.format), ("message", .required, .leaf)]

def SessionFailure.format : Format :=
  .tagged "kind" .collected (Variant.names.map fun v ↦ (v.1, v.2.format))

/-- What the variant of a response declares besides the tag. -/
def Response.Variant.format : Variant → Format
  | .identify =>
    .record [("profile", .required, Profile.format), ("server_public_key", .required, .leaf),
      ("shared_secret", .required, .leaf)]
  | .registerDevice =>
    .record [("approval_url", .required, .leaf), ("approval_token", .required, .leaf)]
  | .deviceRegistered =>
    .record [("profile", .required, Profile.format), ("device_id", .required, .leaf)]
  | .sendPreKeys =>
    .record [("identity", .required, Identity.format), ("bundle", .required, .leaf)]
  | .resendPreKeys => .record [("identity", .optional, Identity.format)]
  | .startSession => .record []
  | .sessionFailed => .record [("failure", .required, SessionFailure.format)]
  | .isTrusted => .record [("identity", .required, Identity.format)]
  | .isUntrusted => .record []
  | .keepAlive => .record []
  | .feature => FeatureMessage.format

def Response.format : Format :=
  .tagged "type" .direct (Variant.names.map fun v ↦ (v.1, v.2.format))

/-! ## Strict readers -/

theorem Identity.strict_ofJson? : Strict ofJson? format := by
  refine strict_record (by rfl) (by decide) fun r i h ↦ ?_
  simp only [Option.bind_eq_bind, Option.bind_eq_some_iff] at h
  obtain ⟨owner, ho, key, hk, device, hd, -⟩ := h
  simp only [List.forall_mem_cons]
  exact ⟨.of_required? (strict_leaf _) ho, .of_required? (strict_leaf _) hk,
    .of_optional? (strict_leaf _) hd, List.forall_mem_nil _⟩

theorem ServerIdentity.strict_ofJson? : Strict ofJson? Identity.format :=
  Identity.strict_ofJson?.map ServerIdentity.mk

theorem Profile.strict_ofJson? : Strict ofJson? format := by
  refine strict_record (by rfl) (by decide) fun r p h ↦ ?_
  simp only [Option.bind_eq_bind, Option.bind_eq_some_iff] at h
  obtain ⟨id, hi, -⟩ := h
  simp only [List.forall_mem_cons]
  exact ⟨.of_required? (strict_leaf _) hi, List.forall_mem_nil _⟩

theorem SessionMode.strict_ofJson? (source : Source) : Strict (ofJson? source) format :=
  strict_plain source names

theorem StopReason.strict_ofJson? (source : Source) : Strict (ofJson? source) format :=
  strict_plain source names

theorem PlayerSession.strict_ofJson? (source : Source) : Strict (ofJson? source) format := by
  refine strict_record (by rfl) (by decide) fun r s h ↦ ?_
  simp only [Option.bind_eq_bind, Option.bind_eq_some_iff] at h
  obtain ⟨player, hp, username, hu, server, hs, mode, hm, -⟩ := h
  simp only [List.forall_mem_cons]
  exact ⟨.of_required? (strict_leaf _) hp, .of_required? (strict_leaf _) hu,
    .of_required? (strict_leaf _) hs, .of_required? (SessionMode.strict_ofJson? source) hm,
    List.forall_mem_nil _⟩

theorem FeatureMessage.strict_ofJson? : Strict ofJson? format := by
  refine strict_record (by rfl) (by decide) fun r m h ↦ ?_
  simp only [Option.bind_eq_bind, Option.bind_eq_some_iff] at h
  obtain ⟨kind, hk, body, hb, -⟩ := h
  simp only [List.forall_mem_cons]
  exact ⟨.of_required? (strict_leaf _) hk, .of_required? (strict_leaf _) hb, List.forall_mem_nil _⟩

theorem PreKeyOffer.strict_ofJson? : Strict ofJson? format := by
  refine strict_record (by rfl) (by decide) fun r o h ↦ ?_
  simp only [Option.bind_eq_bind, Option.bind_eq_some_iff] at h
  obtain ⟨identity, hi, bundle, hb, -⟩ := h
  simp only [List.forall_mem_cons]
  exact ⟨.of_optional? Identity.strict_ofJson? hi, .of_required? (strict_leaf _) hb,
    List.forall_mem_nil _⟩

theorem Request.strict_body? (v : Variant) : Strict (body? v) v.format := by
  cases v with
  | identify =>
    refine strict_record (by rfl) (by decide) fun r m h ↦ ?_
    simp only [Option.bind_eq_bind, Option.bind_eq_some_iff] at h
    obtain ⟨identity, hi, token, ht, -⟩ := h
    simp only [List.forall_mem_cons]
    exact ⟨.of_optional? Identity.strict_ofJson? hi, .of_optional? (strict_leaf _) ht,
      List.forall_mem_nil _⟩
  | sendPreKeys => exact PreKeyOffer.strict_ofJson?.map _
  | startSession =>
    refine strict_record (by rfl) (by decide) fun r m h ↦ ?_
    simp only [Option.bind_eq_bind, Option.bind_eq_some_iff] at h
    obtain ⟨identity, hi, session, hs, serverId, hd, -⟩ := h
    simp only [List.forall_mem_cons]
    exact ⟨.of_required? Identity.strict_ofJson? hi,
      .of_required? (PlayerSession.strict_ofJson? .collected) hs,
      .of_optional? (strict_leaf _) hd, List.forall_mem_nil _⟩
  | checkTrust =>
    refine strict_record (by rfl) (by decide) fun r m h ↦ ?_
    simp only [Option.bind_eq_bind, Option.bind_eq_some_iff] at h
    obtain ⟨identity, hi, -⟩ := h
    simp only [List.forall_mem_cons]
    exact ⟨.of_required? Identity.strict_ofJson? hi, List.forall_mem_nil _⟩
  | keepAlive =>
    refine strict_record (by rfl) (by decide) fun r m h ↦ ?_
    simp only [Option.bind_eq_bind, Option.bind_eq_some_iff] at h
    obtain ⟨identity, hi, -⟩ := h
    simp only [List.forall_mem_cons]
    exact ⟨.of_optional? Identity.strict_ofJson? hi, List.forall_mem_nil _⟩
  | feature => exact FeatureMessage.strict_ofJson?.map _

/-- A request is not read from what breaks its format. -/
theorem Request.strict_ofJson? : Strict ofJson? format :=
  strict_readTagged? (by decide) strict_body?

theorem SessionFailure.strict_body? (v : Variant) : Strict (body? v) v.format := by
  cases v with
  | accountVerificationFailed =>
    refine strict_record (by rfl) (by decide) fun r m h ↦ ?_
    simp only [Option.bind_eq_bind, Option.bind_eq_some_iff] at h
    obtain ⟨session, hs, -⟩ := h
    simp only [List.forall_mem_cons]
    exact ⟨.of_required? (PlayerSession.strict_ofJson? .collected) hs, List.forall_mem_nil _⟩
  | privateIdentityMismatch =>
    refine strict_record (by rfl) (by decide) fun r m h ↦ ?_
    simp only [Option.bind_eq_bind, Option.bind_eq_some_iff] at h
    obtain ⟨url, hu, -⟩ := h
    simp only [List.forall_mem_cons]
    exact ⟨.of_required? (strict_leaf _) hu, List.forall_mem_nil _⟩
  | sessionError =>
    refine strict_record (by rfl) (by decide) fun r m h ↦ ?_
    simp only [Option.bind_eq_bind, Option.bind_eq_some_iff] at h
    obtain ⟨reason, hr, message, hm, -⟩ := h
    simp only [List.forall_mem_cons]
    exact ⟨.of_required? (StopReason.strict_ofJson? .collected) hr,
      .of_required? (strict_leaf _) hm, List.forall_mem_nil _⟩

theorem SessionFailure.strict_ofJson? : Strict (ofJson? .collected) format :=
  strict_readTagged? (by decide) strict_body?

theorem Response.strict_body? (v : Variant) : Strict (body? v) v.format := by
  cases v with
  | identify =>
    refine strict_record (by rfl) (by decide) fun r m h ↦ ?_
    simp only [Option.bind_eq_bind, Option.bind_eq_some_iff] at h
    obtain ⟨profile, hp, key, hk, secret, hs, -⟩ := h
    simp only [List.forall_mem_cons]
    exact ⟨.of_required? Profile.strict_ofJson? hp, .of_required? (strict_leaf _) hk,
      .of_required? (strict_leaf _) hs, List.forall_mem_nil _⟩
  | registerDevice =>
    refine strict_record (by rfl) (by decide) fun r m h ↦ ?_
    simp only [Option.bind_eq_bind, Option.bind_eq_some_iff] at h
    obtain ⟨url, hu, token, ht, -⟩ := h
    simp only [List.forall_mem_cons]
    exact ⟨.of_required? (strict_leaf _) hu, .of_required? (strict_leaf _) ht,
      List.forall_mem_nil _⟩
  | deviceRegistered =>
    refine strict_record (by rfl) (by decide) fun r m h ↦ ?_
    simp only [Option.bind_eq_bind, Option.bind_eq_some_iff] at h
    obtain ⟨profile, hp, device, hd, -⟩ := h
    simp only [List.forall_mem_cons]
    exact ⟨.of_required? Profile.strict_ofJson? hp, .of_required? (strict_leaf _) hd,
      List.forall_mem_nil _⟩
  | sendPreKeys =>
    refine strict_record (by rfl) (by decide) fun r m h ↦ ?_
    simp only [Option.bind_eq_bind, Option.bind_eq_some_iff] at h
    obtain ⟨identity, hi, bundle, hb, -⟩ := h
    simp only [List.forall_mem_cons]
    exact ⟨.of_required? ServerIdentity.strict_ofJson? hi, .of_required? (strict_leaf _) hb,
      List.forall_mem_nil _⟩
  | resendPreKeys =>
    refine strict_record (by rfl) (by decide) fun r m h ↦ ?_
    simp only [Option.bind_eq_bind, Option.bind_eq_some_iff] at h
    obtain ⟨identity, hi, -⟩ := h
    simp only [List.forall_mem_cons]
    exact ⟨.of_optional? ServerIdentity.strict_ofJson? hi, List.forall_mem_nil _⟩
  | startSession | isUntrusted | keepAlive => exact strict_unit.map _
  | sessionFailed =>
    refine strict_record (by rfl) (by decide) fun r m h ↦ ?_
    simp only [Option.bind_eq_bind, Option.bind_eq_some_iff] at h
    obtain ⟨failure, hf, -⟩ := h
    simp only [List.forall_mem_cons]
    exact ⟨.of_required? SessionFailure.strict_ofJson? hf, List.forall_mem_nil _⟩
  | isTrusted =>
    refine strict_record (by rfl) (by decide) fun r m h ↦ ?_
    simp only [Option.bind_eq_bind, Option.bind_eq_some_iff] at h
    obtain ⟨identity, hi, -⟩ := h
    simp only [List.forall_mem_cons]
    exact ⟨.of_required? ServerIdentity.strict_ofJson? hi, List.forall_mem_nil _⟩
  | feature => exact FeatureMessage.strict_ofJson?.map _

/-- A response is not read from what breaks its format. -/
theorem Response.strict_ofJson? : Strict ofJson? format :=
  strict_readTagged? (by decide) strict_body?

/-! ## Texts of messages -/

/-- Whatever stands for a message is read as the message, without the tokens in it, if it nests less
than 128 deep: in whatever order its fields stand, whichever others stand among them, with or
without the fields that are `null`, and however it is spelled. A number in what is added must be
kept, as every number below `2 ^ 1024 - 2 ^ 974` is. Whatever breaks the format is refused: where an
object of the message repeats its tag or a declared field, or misses its tag or a required field, or
names no variant. -/
theorem open_to_additions :
    (∀ (m : Request) (j : Raw) (text : List Char), m.toJson.Loosens j → j.depth < 128 →
      Spells (.element j) text → Payload.decode? (Utf8.encode text) = some m.erased) ∧
    (∀ (m : Response) (j : Raw) (text : List Char), m.toJson.Loosens j → j.depth < 128 →
      Spells (.element j) text → Payload.decode? (Utf8.encode text) = some m.erased) ∧
    (∀ (l : Literal) (cs : List Char), l.Spells cs → l.magnitude < 2 ^ 1024 - 2 ^ 974 →
      Raw.isSound (.number l) = true) ∧
    (∀ (j : Raw) (text : List Char), Defective Request.format j → Spells (.element j) text →
      (Payload.decode? (Utf8.encode text) : Option Request) = none) ∧
    ∀ (j : Raw) (text : List Char), Defective Response.format j → Spells (.element j) text →
      (Payload.decode? (Utf8.encode text) : Option Response) = none := by
  refine ⟨?requests, ?responses, ?numbers, ?refusedRequests, ?refusedResponses⟩
  case requests =>
    intro m j text h hd hs
    change (Json.read? _).bind Request.ofJson? = _
    rw [read?_of_spells hs]
    exact Request.ofJson?_of_loosens h hd
  case responses =>
    intro m j text h hd hs
    change (Json.read? _).bind Response.ofJson? = _
    rw [read?_of_spells hs]
    exact Response.ofJson?_of_loosens h hd
  case numbers => exact fun l cs hs h ↦ Literal.isSome_number? hs h
  case refusedRequests =>
    intro j text h hs
    change (Json.read? _).bind Request.ofJson? = _
    rw [read?_of_spells hs]
    exact Request.strict_ofJson?.eq_none h
  case refusedResponses =>
    intro j text h hs
    change (Json.read? _).bind Response.ofJson? = _
    rw [read?_of_spells hs]
    exact Response.strict_ofJson?.eq_none h

/-- A keep-alive with its tag after another field, with a blank and without the identity that is
`null`; and one with two tags. -/
theorem open_to_additions_keepAlive :
    Payload.decode? (Utf8.encode "\x7b\"x\":[], \"type\":\"KeepAlive\"\x7d".toList) =
      some (Request.keepAlive none) ∧
    (Payload.decode? (Utf8.encode
      "\x7b\"type\":\"KeepAlive\",\"type\":\"KeepAlive\"\x7d".toList) : Option Request) = none := by
  have hx : Spells (.member (Piece.ofString "x") (.array [])) "\"x\":[]".toList :=
    .bareMember (spellsText_ofString "x") (.emptyArray .nil)
  have hname : Spells (.value (.text (Piece.ofString "KeepAlive"))) "\"KeepAlive\"".toList :=
    .text (spellsText_ofString "KeepAlive")
  have htag : Spells (.member (Piece.ofString "type") (.text (Piece.ofString "KeepAlive")))
      "\"type\":\"KeepAlive\"".toList :=
    .bareMember (spellsText_ofString "type") hname
  have hspaced : Spells (.member (Piece.ofString "type") (.text (Piece.ofString "KeepAlive")))
      " \"type\":\"KeepAlive\"".toList :=
    .member (b := [' ']) (by simp [Blank]) (spellsText_ofString "type") .nil hname.bare
  have hloose : (Request.keepAlive none).toJson.Loosens
      (.object [(Piece.ofString "x", .array []),
        (Piece.ofString "type", .text (Piece.ofString "KeepAlive"))]) :=
    .object (.cons (Piece.toString?_ofString "type") (.text (Piece.toString?_ofString "KeepAlive"))
        (.omitted .nil))
      (List.forall_mem_singleton.mpr ⟨rfl, "x", Piece.toString?_ofString "x", by decide⟩)
      (.swap _ _ [])
  refine ⟨open_to_additions.1 _ _ _ hloose (by decide) (.bare (.object (.nextMember hx
    (.lastMember hspaced)))), ?_⟩
  exact open_to_additions.2.2.2.1 _ _ (.tagRepeated (by decide))
    (.bare (.object (.nextMember htag (.lastMember htag))))

/-- A failure whose kind is the number one names no variant, and is read as the variant of that
position. A number below the largest double, in a field that nobody reads, is refused. -/
theorem exceptions_to_format :
    (Payload.decode? (Utf8.encode ("\x7b\"type\":\"SessionFailed\"," ++
        "\"failure\":\x7b\"kind\":1,\"url\":\"u\"\x7d\x7d").toList) : Option Response) =
      some (.sessionFailed (.privateIdentityMismatch "u")) ∧
    1797693134862315708 * 10 ^ 290 < (2 ^ 53 - 1) * 2 ^ 971 ∧
    (Payload.decode? (Utf8.encode ("\x7b\"type\":\"KeepAlive\"," ++
        "\"x\":1.797693134862315708e308\x7d").toList) : Option Response) = none := by
  decide +kernel

end SealedSession
