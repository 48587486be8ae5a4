import SealedSession.Message.Reading
import SealedSession.Proofs.Json.Records
import SealedSession.Proofs.Uuid

/-!
# Messages are read as they were written

Each type that travels is written as a JSON value, and its reader is tolerant of that value. What
it gives back is what was written, but for the token of a session, which is not written.

* `Request.tolerant_body?`, `Response.tolerant_body?`: the fields of each variant.
* `Request.ofJson?_of_loosens`, `Response.ofJson?_of_loosens`: what the receiver of a message
  learns from whatever stands for it.
* `Request.decode?_encode`, `Response.decode?_encode`: what it learns from the bytes of a message.
-/

namespace SealedSession

open Json

/-! ## Parts of messages -/

theorem Uuid.tolerant_ofJson? (u : Uuid) : Tolerant ofJson? u.toJson u := by
  intro j hj
  rw [ofJson?, tolerant_string u.text j hj, Option.bind_some, ofString?_text]

theorem ofBytes_ne_null (bytes : Bytes) : ofBytes bytes ≠ .null := nofun

theorem ofWord_ne_null (n : UInt32) : ofWord n ≠ .null := nofun

theorem text_ne_null (s : String) : (.text s : Value) ≠ .null := nofun

theorem object_ne_null (fields : List (String × Value)) : (.object fields : Value) ≠ .null := nofun

theorem Identity.tolerant_ofJson? (i : Identity) : Tolerant ofJson? i.toJson i := by
  intro j hj
  refine Record.bind_of_loosens (by rfl) (by decide) (fun r hf ↦ ?_) hj
  simp only [List.forall_mem_cons] at hf
  obtain ⟨ho, hk, hd, -⟩ := hf
  have ho := ho.required? (Uuid.tolerant_ofJson? i.owner) (text_ne_null _)
  have hk := hk.required? (tolerant_bytes i.publicKey) (ofBytes_ne_null _)
  have hd := hd.optional? tolerant_word ofWord_ne_null
  simp [ho, hk, hd]

theorem ServerIdentity.tolerant_ofJson? (s : ServerIdentity) : Tolerant ofJson? s.toJson s := by
  intro j hj
  rw [ofJson?, Identity.tolerant_ofJson? s.identity j hj, Option.map_some]

theorem Profile.tolerant_ofJson? (p : Profile) : Tolerant ofJson? p.toJson p := by
  intro j hj
  refine Record.bind_of_loosens (by rfl) (by decide) (fun r hf ↦ ?_) hj
  simp only [List.forall_mem_cons] at hf
  have hi := hf.1.required? (Uuid.tolerant_ofJson? p.id) (text_ne_null _)
  simp [hi]

theorem SessionMode.tolerant_ofJson? (source : Source) (m : SessionMode) :
    Tolerant (ofJson? source) m.toJson m :=
  tolerant_plain source (by cases m <;> decide)

theorem StopReason.tolerant_ofJson? (source : Source) (r : StopReason) :
    Tolerant (ofJson? source) r.toJson r :=
  tolerant_plain source (by cases r <;> decide)

/-- A session is read without its token. -/
theorem PlayerSession.tolerant_ofJson? (source : Source) (s : PlayerSession) :
    Tolerant (ofJson? source) s.toJson s.withoutToken := by
  intro j hj
  refine Record.bind_of_loosens (by rfl) (by decide) (fun r hf ↦ ?_) hj
  simp only [List.forall_mem_cons] at hf
  obtain ⟨hp, hu, hs, hm, -⟩ := hf
  have hp := hp.required? (Uuid.tolerant_ofJson? s.playerId) (text_ne_null _)
  have hu := hu.required? (tolerant_string s.username) (text_ne_null _)
  have hs := hs.required? (tolerant_string s.server) (text_ne_null _)
  have hm := hm.required? (SessionMode.tolerant_ofJson? source s.mode) (text_ne_null _)
  simp [hp, hu, hs, hm, withoutToken]

/-! ## Fields of messages -/

theorem FeatureMessage.tolerant_ofJson? (m : FeatureMessage) : Tolerant ofJson? m.toJson m := by
  intro j hj
  refine Record.bind_of_loosens (by rfl) (by decide) (fun r hf ↦ ?_) hj
  simp only [fields, List.forall_mem_cons] at hf
  obtain ⟨hk, hb, -⟩ := hf
  have hk := hk.required? (tolerant_string m.kind) (text_ne_null _)
  have hb := hb.required? (tolerant_bytes m.body) (ofBytes_ne_null _)
  simp [hk, hb]

theorem PreKeyOffer.tolerant_ofJson? (o : PreKeyOffer) : Tolerant ofJson? o.toJson o := by
  intro j hj
  refine Record.bind_of_loosens (by rfl) (by decide) (fun r hf ↦ ?_) hj
  simp only [fields, List.forall_mem_cons] at hf
  obtain ⟨hi, hb, -⟩ := hf
  have hi := hi.optional? Identity.tolerant_ofJson? (fun _ ↦ object_ne_null _)
  have hb := hb.required? (tolerant_bytes o.bundle) (ofBytes_ne_null _)
  simp [hi, hb]

/-- The fields of a request are read by its variant. -/
theorem Request.tolerant_body? (r : Request) :
    ∃ v, named Variant.names r.name = some v ∧ Tolerant (body? v) (.object r.fields) r.erased := by
  cases r with
  | identify identity token =>
    refine ⟨.identify, rfl, fun j hj ↦ Record.bind_of_loosens (by rfl) (by decide) (fun r hf ↦ ?_) hj⟩
    simp only [fields, List.forall_mem_cons] at hf
    obtain ⟨hi, ht, -⟩ := hf
    have hi := hi.optional? Identity.tolerant_ofJson? (fun _ ↦ object_ne_null _)
    have ht := ht.optional? tolerant_bytes ofBytes_ne_null
    simp [hi, ht, erased]
  | sendPreKeys offer =>
    refine ⟨.sendPreKeys, rfl, fun j hj ↦ ?_⟩
    rw [body?, PreKeyOffer.tolerant_ofJson? offer j hj]
    rfl
  | startSession identity session serverId =>
    refine ⟨.startSession, rfl, fun j hj ↦
      Record.bind_of_loosens (by rfl) (by decide) (fun r hf ↦ ?_) hj⟩
    simp only [fields, List.forall_mem_cons] at hf
    obtain ⟨hi, hs, hd, -⟩ := hf
    have hi := hi.required? (Identity.tolerant_ofJson? identity) (object_ne_null _)
    have hs := hs.required? (PlayerSession.tolerant_ofJson? .collected session) (object_ne_null _)
    have hd := hd.optional? tolerant_string text_ne_null
    simp [hi, hs, hd, erased]
  | checkTrust identity =>
    refine ⟨.checkTrust, rfl, fun j hj ↦ Record.bind_of_loosens (by rfl) (by decide) (fun r hf ↦ ?_) hj⟩
    simp only [fields, List.forall_mem_cons] at hf
    have hi := hf.1.required? (Identity.tolerant_ofJson? identity) (object_ne_null _)
    simp [hi, erased]
  | keepAlive identity =>
    refine ⟨.keepAlive, rfl, fun j hj ↦ Record.bind_of_loosens (by rfl) (by decide) (fun r hf ↦ ?_) hj⟩
    simp only [fields, List.forall_mem_cons] at hf
    have hi := hf.1.optional? Identity.tolerant_ofJson? (fun _ ↦ object_ne_null _)
    simp [hi, erased]
  | feature message =>
    refine ⟨.feature, rfl, fun j hj ↦ ?_⟩
    rw [body?, FeatureMessage.tolerant_ofJson? message j hj]
    rfl

/-- The fields of a failure are read by its variant. -/
theorem SessionFailure.tolerant_body? (f : SessionFailure) :
    ∃ v, named Variant.names f.name = some v ∧ Tolerant (body? v) (.object f.fields) f.erased := by
  cases f with
  | accountVerificationFailed session =>
    refine ⟨.accountVerificationFailed, rfl, fun j hj ↦
      Record.bind_of_loosens (by rfl) (by decide) (fun r hf ↦ ?_) hj⟩
    simp only [fields, List.forall_mem_cons] at hf
    have hs := hf.1.required? (PlayerSession.tolerant_ofJson? .collected session) (object_ne_null _)
    simp [hs, erased]
  | privateIdentityMismatch url =>
    refine ⟨.privateIdentityMismatch, rfl, fun j hj ↦
      Record.bind_of_loosens (by rfl) (by decide) (fun r hf ↦ ?_) hj⟩
    simp only [fields, List.forall_mem_cons] at hf
    have hu := hf.1.required? (tolerant_string url) (text_ne_null _)
    simp [hu, erased]
  | sessionError reason message =>
    refine ⟨.sessionError, rfl, fun j hj ↦
      Record.bind_of_loosens (by rfl) (by decide) (fun r hf ↦ ?_) hj⟩
    simp only [fields, List.forall_mem_cons] at hf
    obtain ⟨hr, hm, -⟩ := hf
    have hr := hr.required? (StopReason.tolerant_ofJson? .collected reason) (text_ne_null _)
    have hm := hm.required? (tolerant_string message) (text_ne_null _)
    simp [hr, hm, erased]

/-- A failure is read as its receiver learns it. -/
theorem SessionFailure.tolerant_ofJson? (f : SessionFailure) :
    Tolerant (ofJson? .collected) f.toJson f.erased := by
  intro j hj
  obtain ⟨v, hv, hb⟩ := f.tolerant_body?
  exact readTagged?_of_loosens hv hb (by cases f <;> simp [fields]) hj nofun

/-- The fields of a response are read by its variant. -/
theorem Response.tolerant_body? (r : Response) :
    ∃ v, named Variant.names r.name = some v ∧ Tolerant (body? v) (.object r.fields) r.erased := by
  cases r with
  | identify profile serverPublicKey sharedSecret =>
    refine ⟨.identify, rfl, fun j hj ↦
      Record.bind_of_loosens (by rfl) (by decide) (fun r hf ↦ ?_) hj⟩
    simp only [fields, List.forall_mem_cons] at hf
    obtain ⟨hp, hk, hs, -⟩ := hf
    have hp := hp.required? (Profile.tolerant_ofJson? profile) (object_ne_null _)
    have hk := hk.required? (tolerant_bytes serverPublicKey) (ofBytes_ne_null _)
    have hs := hs.required? (tolerant_bytes sharedSecret) (ofBytes_ne_null _)
    simp [hp, hk, hs, erased]
  | registerDevice approvalUrl approvalToken =>
    refine ⟨.registerDevice, rfl, fun j hj ↦
      Record.bind_of_loosens (by rfl) (by decide) (fun r hf ↦ ?_) hj⟩
    simp only [fields, List.forall_mem_cons] at hf
    obtain ⟨hu, ht, -⟩ := hf
    have hu := hu.required? (tolerant_string approvalUrl) (text_ne_null _)
    have ht := ht.required? (tolerant_string approvalToken) (text_ne_null _)
    simp [hu, ht, erased]
  | deviceRegistered profile device =>
    refine ⟨.deviceRegistered, rfl, fun j hj ↦
      Record.bind_of_loosens (by rfl) (by decide) (fun r hf ↦ ?_) hj⟩
    simp only [fields, List.forall_mem_cons] at hf
    obtain ⟨hp, hd, -⟩ := hf
    have hp := hp.required? (Profile.tolerant_ofJson? profile) (object_ne_null _)
    have hd := hd.required? (tolerant_word device) (ofWord_ne_null _)
    simp [hp, hd, erased]
  | sendPreKeys identity bundle =>
    refine ⟨.sendPreKeys, rfl, fun j hj ↦
      Record.bind_of_loosens (by rfl) (by decide) (fun r hf ↦ ?_) hj⟩
    simp only [fields, List.forall_mem_cons] at hf
    obtain ⟨hi, hb, -⟩ := hf
    have hi := hi.required? (ServerIdentity.tolerant_ofJson? identity) (object_ne_null _)
    have hb := hb.required? (tolerant_bytes bundle) (ofBytes_ne_null _)
    simp [hi, hb, erased]
  | resendPreKeys identity =>
    refine ⟨.resendPreKeys, rfl, fun j hj ↦
      Record.bind_of_loosens (by rfl) (by decide) (fun r hf ↦ ?_) hj⟩
    simp only [fields, List.forall_mem_cons] at hf
    have hi := hf.1.optional? ServerIdentity.tolerant_ofJson? (fun _ ↦ object_ne_null _)
    simp [hi, erased]
  | sessionFailed failure =>
    refine ⟨.sessionFailed, rfl, fun j hj ↦
      Record.bind_of_loosens (by rfl) (by decide) (fun r hf ↦ ?_) hj⟩
    simp only [fields, List.forall_mem_cons] at hf
    have hf := hf.1.required? (SessionFailure.tolerant_ofJson? failure) (object_ne_null _)
    simp [hf, erased]
  | isTrusted identity =>
    refine ⟨.isTrusted, rfl, fun j hj ↦
      Record.bind_of_loosens (by rfl) (by decide) (fun r hf ↦ ?_) hj⟩
    simp only [fields, List.forall_mem_cons] at hf
    have hi := hf.1.required? (ServerIdentity.tolerant_ofJson? identity) (object_ne_null _)
    simp [hi, erased]
  | startSession => exact ⟨.startSession, rfl, tolerant_unit Response.startSession []⟩
  | isUntrusted => exact ⟨.isUntrusted, rfl, tolerant_unit Response.isUntrusted []⟩
  | keepAlive => exact ⟨.keepAlive, rfl, tolerant_unit Response.keepAlive []⟩
  | feature message =>
    refine ⟨.feature, rfl, fun j hj ↦ ?_⟩
    rw [body?, FeatureMessage.tolerant_ofJson? message j hj]
    rfl

/-! ## Nesting -/

section Tame

variable {room : Nat}

@[simp] theorem tame_text (s : String) : Value.tame room (.text s) = true := rfl

@[simp] theorem tame_object (fields : List (String × Value)) :
    Value.tame room (.object fields) = (decide (1 < room) && Value.tameFields (room - 1) fields) :=
  rfl

@[simp] theorem tameFields_nil : Value.tameFields room [] = true := rfl

@[simp] theorem tameFields_cons (key : String) (v : Value) (fields : List (String × Value)) :
    Value.tameFields room ((key, v) :: fields) = (v.tame room && Value.tameFields room fields) :=
  rfl

theorem isWord_natCast {n : Nat} (h : n ≤ Literal.limit) : (Number.int n).isWord = true := by
  simp [Number.isWord, h]

@[simp] theorem tame_ofWord (n : UInt32) : (ofWord n).tame room = true :=
  isWord_natCast (by have := n.toNat_lt; simp [Literal.limit]; omega)

theorem tame_ofBytes (h : 1 < room) (bytes : Bytes) : (ofBytes bytes).tame room = true := by
  have ha : Value.tameItems (room - 1) (bytes.map fun b ↦ .number (.int b.toNat)) = true := by
    induction bytes with
    | nil => rfl
    | cons b bytes ih =>
      have hb : (Number.int b.toNat).isWord = true :=
        isWord_natCast (by have := b.toNat_lt; simp [Literal.limit]; omega)
      rw [List.map_cons, Value.tameItems, Value.tame, hb, ih]
      rfl
  rw [ofBytes, Value.tame, ha, decide_eq_true h]
  rfl

theorem tame_orNull {α : Type} {f : α → Value} (hf : ∀ a, (f a).tame room = true)
    (o : Option α) : (orNull f o).tame room = true := by
  cases o with
  | none => rfl
  | some a => exact hf a

@[simp] theorem tame_orNull_text (o : Option String) : (orNull .text o).tame room = true :=
  tame_orNull tame_text o

@[simp] theorem tame_uuid (u : Uuid) : u.toJson.tame room = true := rfl

theorem tame_identity (h : 2 < room) (i : Identity) : i.toJson.tame room = true := by
  simp [Identity.toJson, tame_ofBytes (show 1 < room - 1 by omega), tame_orNull,
    show 1 < room by omega]

theorem tame_profile (h : 1 < room) (p : Profile) : p.toJson.tame room = true := by
  simp [Profile.toJson, h]

theorem tame_session (h : 1 < room) (s : PlayerSession) : s.toJson.tame room = true := by
  simp [PlayerSession.toJson, SessionMode.toJson, h]

theorem tame_failure (h : 2 < room) (f : SessionFailure) : f.toJson.tame room = true := by
  have hr : 1 < room := by omega
  cases f <;> simp [SessionFailure.toJson, SessionFailure.fields, tagged, StopReason.toJson, hr,
    tame_session (show 1 < room - 1 by omega)]

end Tame

theorem tame_offer_fields (o : PreKeyOffer) :
    Value.tameFields (nestingLimit - 1) o.fields = true := by
  simp [PreKeyOffer.fields, nestingLimit, tame_orNull, tame_identity, tame_ofBytes]

theorem tame_feature_fields (m : FeatureMessage) :
    Value.tameFields (nestingLimit - 1) m.fields = true := by
  simp [FeatureMessage.fields, nestingLimit, tame_ofBytes]

/-- Every request is tame enough to be collected. -/
theorem Request.tame_toJson (r : Request) : r.toJson.tame nestingLimit = true := by
  have hf : Value.tameFields (nestingLimit - 1) r.fields = true := by
    cases r with
    | sendPreKeys offer => exact tame_offer_fields offer
    | feature message => exact tame_feature_fields message
    | _ => simp [fields, nestingLimit, tame_orNull, tame_identity, tame_ofBytes, tame_session]
  rw [toJson, tagged, tame_object, tameFields_cons, tame_text, hf]
  rfl

/-- Every response is tame enough to be collected. -/
theorem Response.tame_toJson (r : Response) : r.toJson.tame nestingLimit = true := by
  have hf : Value.tameFields (nestingLimit - 1) r.fields = true := by
    cases r with
    | feature message => exact tame_feature_fields message
    | _ => simp [fields, nestingLimit, tame_orNull, tame_identity, tame_ofBytes, tame_profile,
        tame_failure, ServerIdentity.toJson]
  rw [toJson, tagged, tame_object, tameFields_cons, tame_text, hf]
  rfl

/-! ## Whole messages -/

/-- A request is read as its receiver learns it, if what stands for it is not too deep. -/
theorem Request.ofJson?_of_loosens {r : Request} {j : Raw} (h : r.toJson.Loosens j)
    (hd : j.depth < nestingLimit) : ofJson? j = some r.erased := by
  obtain ⟨v, hv, hb⟩ := r.tolerant_body?
  have ht : "type" ∉ r.fields.map (·.1) := by
    cases r <;> simp [fields, PreKeyOffer.fields, FeatureMessage.fields]
  exact readTagged?_of_loosens hv hb ht h fun _ ↦
    Raw.fits_of_isSound j (h.isSound r.tame_toJson) hd

/-- A response is read as its receiver learns it, if what stands for it is not too deep. -/
theorem Response.ofJson?_of_loosens {r : Response} {j : Raw} (h : r.toJson.Loosens j)
    (hd : j.depth < nestingLimit) : ofJson? j = some r.erased := by
  obtain ⟨v, hv, hb⟩ := r.tolerant_body?
  have ht : "type" ∉ r.fields.map (·.1) := by
    cases r <;> simp [fields, FeatureMessage.fields]
  exact readTagged?_of_loosens hv hb ht h fun _ ↦
    Raw.fits_of_isSound j (h.isSound r.tame_toJson) hd

/-- What the bytes of a request are read as. -/
theorem Request.decode?_encode (r : Request) :
    (Json.read? r.toJson.encode).bind ofJson? = some r.erased := by
  have ht := r.tame_toJson
  rw [read?_encode ht, Option.bind_some]
  exact ofJson?_of_loosens (r.toJson.loosens_seen ht) (r.toJson.depth_seen ht (by decide))

/-- What the bytes of a response are read as. -/
theorem Response.decode?_encode (r : Response) :
    (Json.read? r.toJson.encode).bind ofJson? = some r.erased := by
  have ht := r.tame_toJson
  rw [read?_encode ht, Option.bind_some]
  exact ofJson?_of_loosens (r.toJson.loosens_seen ht) (r.toJson.depth_seen ht (by decide))

/-- A message is no shorter than the bytes of any of its fields. -/
theorem length_le_encode_tagged (key : String) {tag name : String} {fields : List (String × Json.Value)}
    {bytes : Bytes} (h : (key, Json.ofBytes bytes) ∈ fields) :
    bytes.length ≤ (tagged tag name fields).encode.length := by
  have hb := Json.Value.length_le_written_array (bytes.map fun b ↦ .number (.int b.toNat))
  rw [List.length_map] at hb
  refine Nat.le_trans (Nat.le_trans hb ?_) (Utf8.length_le_length_encode _)
  obtain ⟨before, after, rfl⟩ := List.append_of_mem h
  rw [tagged, Json.Value.written_object, Json.Value.writtenFields, List.flatMap_append,
    List.flatMap_cons]
  simp only [Json.ofBytes, List.length_cons, List.length_append]
  omega

/-- A feature request is no shorter than its body. -/
theorem Request.length_body_le (m : FeatureMessage) :
    m.body.length ≤ (Request.feature m).toJson.encode.length :=
  length_le_encode_tagged "body" (by simp [fields, FeatureMessage.fields])

/-- A feature response is no shorter than its body. -/
theorem Response.length_body_le (m : FeatureMessage) :
    m.body.length ≤ (Response.feature m).toJson.encode.length :=
  length_le_encode_tagged "body" (by simp [fields, FeatureMessage.fields])

/-- A request that sends prekeys is no shorter than these. -/
theorem Request.length_bundle_le (o : PreKeyOffer) :
    o.bundle.length ≤ (Request.sendPreKeys o).toJson.encode.length :=
  length_le_encode_tagged "bundle" (by simp [fields, PreKeyOffer.fields])

end SealedSession
