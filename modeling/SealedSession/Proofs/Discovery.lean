import Mathlib.Data.List.Nodup
import SealedSession.Discovery

/-!
# Which servers suit a session

A client goes through its conditions in order and stops at the first that fails. Here the conditions
are stated on their own, without the order of a search: `Suits` is what a document has to offer, and
`Fails` is the first condition that it does not meet, with the error that is reported. The version,
the names and the texts of the errors are written out, so that nothing of the search goes into them.

Since a feature may be listed more than once, a document is not a set of features: the first of a name
is the one that counts. So features of one name must keep their order for a verdict to stay as it is,
and whatever is appended comes too late to matter.

* `listed`: the versions of a server as an error reports them.
* `check_of_suits`, `check_of_fails`, `suits_or_fails`: every verdict, and why there is one.
* `Suits.congr`, `Suits.append`: documents that suit because another one does.
* `verdict_exact`: all of it.
-/

namespace SealedSession.Discovery

variable {d d' : Discovery} {s : PlayerSession} {f : Feature} {name : String}

/-! ## What a document offers -/

/-- A feature is the first of its name. -/
def IsFirst (d : Discovery) (f : Feature) : Prop :=
  ∃ before after, d.features = before ++ f :: after ∧ ∀ e ∈ before, e.name ≠ f.name

/-- Some feature has this name. -/
def Offers (d : Discovery) (name : String) : Prop :=
  ∃ f ∈ d.features, f.name = name

/-- A scheme does not serve a session: one that checks accounts needs a session that is verified or
brings a token, one that takes them on trust has no use for a verified session with a token. -/
inductive Clashes (s : PlayerSession) : String → Prop where
  | checked (mode : s.mode = .unverified) (token : s.accessToken = none) : Clashes s "mojang"
  | trusted (mode : s.mode = .verified) (token : s.accessToken ≠ none) : Clashes s "nojang"

/-- The first feature that names a verification scheme. -/
def Scheme (d : Discovery) (f : Feature) : Prop :=
  d.IsFirst f ∧ f.name = "auth:verification_scheme"

/-- The scheme of a document serves a session, or it is none that a client knows of. -/
def Serves (d : Discovery) (s : PlayerSession) : Prop :=
  ∃ f, d.Scheme f ∧ ∀ scheme, f.value = .text scheme → ¬Clashes s scheme

/-- A server can serve a session. -/
structure Suits (d : Discovery) (s : PlayerSession) : Prop where
  version : ⟨0, 1⟩ ∈ d.versions
  scheme : d.Serves s
  features : ∀ name ∈ ["groups:locations", "groups:waypoints", "profile:friends"], d.Offers name

/-- All versions of a list, each as its two numbers with a point between them, with a comma between
one and the next. -/
def listed : List Version → String
  | [] => ""
  | [v] => toString v.major.toNat ++ "." ++ toString v.minor.toNat
  | v :: w :: vs =>
    toString v.major.toNat ++ "." ++ toString v.minor.toNat ++ "," ++ listed (w :: vs)

/-- The first condition that a server does not meet, as it is reported. -/
inductive Fails (d : Discovery) (s : PlayerSession) : ClientError → Prop where
  | version (unspoken : ⟨0, 1⟩ ∉ d.versions) :
      Fails d s (.unsupportedVersion "0.1" (listed d.versions))
  | unnamed (version : ⟨0, 1⟩ ∈ d.versions) (unoffered : ¬d.Offers "auth:verification_scheme") :
      Fails d s (.missingFeature "auth:verification_scheme")
  | scheme (f : Feature) (scheme : String) (version : ⟨0, 1⟩ ∈ d.versions)
      (named : d.Scheme f) (value : f.value = .text scheme) (clashes : Clashes s scheme) :
      Fails d s (.verificationScheme scheme)
  | feature (before : List String) (name : String) (after : List String)
      (version : ⟨0, 1⟩ ∈ d.versions) (serves : d.Serves s)
      (required : ["groups:locations", "groups:waypoints", "profile:friends"] =
        before ++ name :: after)
      (offered : ∀ n ∈ before, d.Offers n) (unoffered : ¬d.Offers name) :
      Fails d s (.missingFeature name)

/-! ## The texts of an error -/

theorem text_clientVersion : clientVersion.text = "0.1" := by decide

theorem versionList_eq_listed (d : Discovery) : d.versionList = listed d.versions := by
  obtain ⟨versions, features⟩ := d
  change ",".intercalate (versions.map Version.text) = listed versions
  induction versions using listed.induct with
  | case1 => rfl
  | case2 v => exact String.intercalate_singleton
  | case3 v w vs ih =>
    rw [List.map_cons, List.map_cons, String.intercalate_cons_cons, ← List.map_cons, ih]
    rfl

/-! ## The search for a feature -/

theorem feature?_eq_some_iff : d.feature? name = some f ↔ d.IsFirst f ∧ f.name = name := by
  simp only [feature?, IsFirst, List.find?_eq_some_iff_append, decide_eq_true_eq,
    Bool.not_eq_true', decide_eq_false_iff_not]
  constructor
  · rintro ⟨rfl, before, after, hd, hb⟩
    exact ⟨⟨before, after, hd, hb⟩, rfl⟩
  · rintro ⟨⟨before, after, hd, hb⟩, rfl⟩
    exact ⟨rfl, before, after, hd, hb⟩

theorem isNone_feature?_iff : (d.feature? name).isNone = true ↔ ¬d.Offers name := by
  simp [feature?, Offers]

theorem Scheme.feature? (h : d.Scheme f) : d.feature? schemeFeature = some f :=
  feature?_eq_some_iff.mpr h

theorem Offers.exists_scheme (h : d.Offers schemeFeature) : ∃ f, d.Scheme f := by
  cases hf : d.feature? schemeFeature with
  | none => exact absurd h (isNone_feature?_iff.mp (by rw [hf]; rfl))
  | some f => exact ⟨f, feature?_eq_some_iff.mp hf⟩

theorem text?_eq_some_iff {scheme : String} : f.text? = some scheme ↔ f.value = .text scheme := by
  unfold Feature.text?
  split
  · next t ht => simp [ht]
  · next hn => exact iff_of_false nofun fun hv ↦ hn scheme hv

theorem refuses_iff {scheme : String} : refuses scheme s = true ↔ Clashes s scheme := by
  simp only [refuses, Bool.or_eq_true, Bool.and_eq_true, decide_eq_true_eq, Option.isNone_iff_eq_none,
    Option.isSome_iff_ne_none]
  constructor
  · rintro (⟨⟨rfl, hm⟩, ht⟩ | ⟨⟨rfl, hm⟩, ht⟩)
    · exact .checked (by cases h : s.mode <;> simp_all) ht
    · exact .trusted (by cases h : s.mode <;> simp_all) ht
  · rintro (⟨hm, ht⟩ | ⟨hm, ht⟩)
    · exact .inl ⟨⟨rfl, by simp [hm]⟩, ht⟩
    · exact .inr ⟨⟨rfl, by simp [hm]⟩, ht⟩

/-! ## Verdicts -/

theorem checkFeatures_of_offers {names : List String} (h : ∀ name ∈ names, d.Offers name) :
    d.checkFeatures names = .ok () := by
  induction names with
  | nil => rfl
  | cons name names ih =>
    obtain ⟨hn, hs⟩ := List.forall_mem_cons.mp h
    rw [checkFeatures, if_neg fun hm ↦ isNone_feature?_iff.mp hm hn, ih hs]

theorem checkFeatures_of_missing {before after : List String} (h : ∀ name ∈ before, d.Offers name)
    (hn : ¬d.Offers name) :
    d.checkFeatures (before ++ name :: after) = .error (.missingFeature name) := by
  induction before with
  | nil => rw [List.nil_append, checkFeatures, if_pos (isNone_feature?_iff.mpr hn)]
  | cons b before ih =>
    obtain ⟨hb, hs⟩ := List.forall_mem_cons.mp h
    rw [List.cons_append, checkFeatures, if_neg fun hm ↦ isNone_feature?_iff.mp hm hb, ih hs]

/-- Once version and scheme are as they should be, the features decide. -/
theorem check_of_serves (hv : clientVersion ∈ d.versions) (hs : d.Serves s) :
    d.check s = d.checkFeatures requiredFeatures := by
  obtain ⟨f, hf, hc⟩ := hs
  rw [check, if_neg (not_not_intro hv), hf.feature?]
  dsimp only
  cases ht : f.text? with
  | none => rfl
  | some scheme => exact if_neg fun hr ↦ hc scheme (text?_eq_some_iff.mp ht) (refuses_iff.mp hr)

theorem check_of_suits (h : d.Suits s) : d.check s = .ok () :=
  (check_of_serves h.version h.scheme).trans (checkFeatures_of_offers h.features)

theorem check_of_unspoken (hv : clientVersion ∉ d.versions) :
    d.check s = .error (.unsupportedVersion "0.1" (listed d.versions)) := by
  rw [check, if_pos hv, text_clientVersion, versionList_eq_listed]

theorem check_of_unnamed (hv : clientVersion ∈ d.versions) (hs : ¬d.Offers schemeFeature) :
    d.check s = .error (.missingFeature schemeFeature) := by
  rw [check, if_neg (not_not_intro hv), Option.isNone_iff_eq_none.mp (isNone_feature?_iff.mpr hs)]

theorem check_of_clashes {scheme : String} (hv : clientVersion ∈ d.versions) (hf : d.Scheme f)
    (ht : f.value = .text scheme) (hc : Clashes s scheme) :
    d.check s = .error (.verificationScheme scheme) := by
  rw [check, if_neg (not_not_intro hv), hf.feature?]
  dsimp only
  rw [text?_eq_some_iff.mpr ht]
  exact if_pos (refuses_iff.mpr hc)

theorem check_of_fails {e : ClientError} (h : d.Fails s e) : d.check s = .error e := by
  cases h with
  | version hv => exact check_of_unspoken hv
  | unnamed hv hs => exact check_of_unnamed hv hs
  | scheme f scheme hv hf ht hc => exact check_of_clashes hv hf ht hc
  | feature before name after hv hs hr ho hn =>
    calc d.check s = d.checkFeatures requiredFeatures := check_of_serves hv hs
      _ = d.checkFeatures (before ++ name :: after) := congrArg d.checkFeatures hr
      _ = .error (.missingFeature name) := checkFeatures_of_missing ho hn

/-- A list of names is offered as a whole, or there is a first one that is not. -/
theorem offers_or_missing (d : Discovery) (names : List String) : (∀ name ∈ names, d.Offers name) ∨
    ∃ before name after, names = before ++ name :: after ∧ (∀ n ∈ before, d.Offers n) ∧
      ¬d.Offers name := by
  induction names with
  | nil => exact .inl nofun
  | cons name names ih =>
    by_cases hn : d.Offers name
    · rcases ih with ho | ⟨before, n, after, rfl, ho, hm⟩
      · exact .inl (List.forall_mem_cons.mpr ⟨hn, ho⟩)
      · exact .inr ⟨name :: before, n, after, rfl, List.forall_mem_cons.mpr ⟨hn, ho⟩, hm⟩
    · exact .inr ⟨[], name, names, rfl, nofun, hn⟩

/-- A server can serve a session, or there is a first condition that it does not meet. -/
theorem suits_or_fails (d : Discovery) (s : PlayerSession) : d.Suits s ∨ ∃ e, d.Fails s e := by
  by_cases hv : clientVersion ∈ d.versions
  · by_cases hs : d.Offers schemeFeature
    · obtain ⟨f, hf⟩ := hs.exists_scheme
      by_cases hc : ∃ scheme, f.value = .text scheme ∧ Clashes s scheme
      · obtain ⟨scheme, ht, hc⟩ := hc
        exact .inr ⟨_, .scheme f scheme hv hf ht hc⟩
      · have serves : d.Serves s := ⟨f, hf, fun scheme ht hcl ↦ hc ⟨scheme, ht, hcl⟩⟩
        rcases offers_or_missing d requiredFeatures with ho | ⟨before, name, after, hr, ho, hn⟩
        · exact .inl ⟨hv, serves, ho⟩
        · exact .inr ⟨_, .feature before name after hv serves hr ho hn⟩
    · exact .inr ⟨_, .unnamed hv hs⟩
  · exact .inr ⟨_, .version hv⟩

theorem check_eq_ok_iff : d.check s = .ok () ↔ d.Suits s := by
  refine ⟨fun h ↦ (suits_or_fails d s).resolve_right fun ⟨e, he⟩ ↦ ?_, check_of_suits⟩
  rw [check_of_fails he] at h
  cases h

theorem check_eq_error_iff {e : ClientError} : d.check s = .error e ↔ d.Fails s e := by
  refine ⟨fun h ↦ ?_, check_of_fails⟩
  rcases suits_or_fails d s with hs | ⟨e', he⟩
  · rw [check_of_suits hs] at h
    cases h
  · rw [check_of_fails he] at h
    cases h
    exact he

/-! ## Other documents -/

/-- The features of a name, in their order. -/
def named (d : Discovery) (name : String) : List Feature :=
  d.features.filter fun f ↦ f.name = name

theorem feature?_eq_head? : d.feature? name = (d.named name).head? := by
  rw [feature?, named, List.head?_filter]

/-- Features whose names are all different may stand in any order. -/
theorem named_of_perm (hp : d'.features.Perm d.features)
    (hn : (d.features.map Feature.name).Nodup) (name : String) : d'.named name = d.named name := by
  have hp' : (d'.named name).Perm (d.named name) := hp.filter _
  have short : (d.named name).length ≤ 1 := by
    rw [named, ← List.countP_eq_length_filter]
    calc d.features.countP (fun f ↦ f.name = name)
        = (d.features.map Feature.name).count name := by
          rw [List.count, List.countP_map]
          exact List.countP_congr fun f _ ↦ by simp
      _ ≤ 1 := List.nodup_iff_count_le_one.mp hn name
  match hd : d.named name, short with
  | [], _ => exact List.perm_nil.mp (hd ▸ hp')
  | [f], _ => exact List.perm_singleton.mp (hd ▸ hp')

/-- A document suits if another one does that speaks the same versions and has the same features,
those of each name in the same order. -/
theorem Suits.congr (h : d.Suits s) (hv : ∀ v, v ∈ d.versions → v ∈ d'.versions)
    (hf : ∀ name, d'.named name = d.named name) : d'.Suits s := by
  have found (name : String) : d'.feature? name = d.feature? name := by
    rw [feature?_eq_head?, feature?_eq_head?, hf]
  refine ⟨hv _ h.version, ?_, fun name hn ↦ ?_⟩
  · obtain ⟨f, hs, hc⟩ := h.scheme
    exact ⟨f, feature?_eq_some_iff.mp ((found _).trans hs.feature?), hc⟩
  · by_contra ho
    exact isNone_feature?_iff.mp ((found name) ▸ isNone_feature?_iff.mpr ho) (h.features name hn)

/-- What is appended to a document that suits comes after all that counts. -/
theorem Suits.append (h : d.Suits s) (versions : List Version) (features : List Feature) :
    Suits ⟨d.versions ++ versions, d.features ++ features⟩ s := by
  refine ⟨List.mem_append_left _ h.version, ?_, fun name hn ↦ ?_⟩
  · obtain ⟨f, ⟨⟨before, after, hd, hb⟩, hn⟩, hc⟩ := h.scheme
    refine ⟨f, ⟨⟨before, after ++ features, ?_, hb⟩, hn⟩, hc⟩
    simp [hd]
  · obtain ⟨f, hf, hn⟩ := h.features name hn
    exact ⟨f, List.mem_append_left _ hf, hn⟩

/-- A document is accepted exactly if it suits the session, and otherwise the error is the first
condition that it does not meet. So the order of the versions does not matter for acceptance, nor that
of features but those of one name; and a server that adds versions and features behind those it has
stays accepted. -/
theorem verdict_exact (d : Discovery) (s : PlayerSession) :
    (d.check s = .ok () ↔ d.Suits s) ∧
    (∀ e, d.check s = .error e ↔ d.Fails s e) ∧
    (∀ d' : Discovery, d'.versions.Perm d.versions → (∀ name, d'.named name = d.named name) →
      (d'.check s = .ok () ↔ d.check s = .ok ())) ∧
    (∀ d' : Discovery, d'.versions.Perm d.versions → d'.features.Perm d.features →
      (d.features.map Feature.name).Nodup → (d'.check s = .ok () ↔ d.check s = .ok ())) ∧
    ∀ versions features, d.check s = .ok () →
      check ⟨d.versions ++ versions, d.features ++ features⟩ s = .ok () := by
  have rearranged (d' : Discovery) (hv : d'.versions.Perm d.versions)
      (hf : ∀ name, d'.named name = d.named name) :
      d'.check s = .ok () ↔ d.check s = .ok () := by
    rw [check_eq_ok_iff, check_eq_ok_iff]
    exact ⟨fun h ↦ h.congr (fun _ ↦ hv.mem_iff.mp) fun name ↦ (hf name).symm,
      fun h ↦ h.congr (fun _ ↦ hv.mem_iff.mpr) hf⟩
  refine ⟨check_eq_ok_iff, fun _ ↦ check_eq_error_iff, rearranged, fun d' hv hp hn ↦ ?_,
    fun versions features h ↦ ?_⟩
  · exact rearranged d' hv (named_of_perm hp hn)
  · exact check_of_suits ((check_eq_ok_iff.mp h).append versions features)

end SealedSession.Discovery
