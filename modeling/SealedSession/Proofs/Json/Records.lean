import Mathlib.Data.List.Perm.Basic
import SealedSession.Message.Written
import SealedSession.Proofs.Json.Tolerance

/-!
# Records are read from whatever stands for them

A reader is `Tolerant` of a value if it takes whatever may stand for the value for the same thing.
A record is read field by field, so it is enough that each field can be found and that the reader
of each is tolerant.

* `tolerant_word`, `tolerant_bytes`, `tolerant_orNull`: the values that fields are made of.
* `Record.read?_of_loosens`: the fields of a record are found, in whatever order they stand.
* `readTagged?_of_loosens`: so is its tag.
-/

namespace SealedSession.Json

/-- A reader takes whatever may stand for a value for the same thing. -/
def Tolerant {α : Type} (f : Raw → Option α) (v : Value) (a : α) : Prop :=
  ∀ j, v.Loosens j → f j = some a

/-! ## Values of fields -/

theorem tolerant_string (s : String) : Tolerant Raw.string? (.text s) s := by
  rintro j h
  cases h with
  | text h => exact h

theorem below?_of_loosens {bound n : Nat} (h : n < bound) :
    Tolerant (Raw.below? bound) (.number (.int n)) n := by
  intro j hj
  rw [hj.eq_ofNat (Number.written_natCast n)]
  change ((Literal.ofNat n).toNat?.bind fun n ↦ if n < bound then some n else none) = _
  rw [Literal.toNat?_ofNat, Option.bind_some, if_pos h]

theorem tolerant_byte (b : UInt8) : Tolerant Raw.byte? (.number (.int b.toNat)) b := by
  intro j hj
  rw [Raw.byte?, below?_of_loosens b.toNat_lt j hj, Option.map_some, UInt8.ofNat_toNat]

theorem tolerant_word (n : UInt32) : Tolerant Raw.word? (ofWord n) n := by
  intro j hj
  rw [Raw.word?, below?_of_loosens n.toNat_lt j hj, Option.map_some, UInt32.ofNat_toNat]

theorem tolerant_bytes (bytes : Bytes) : Tolerant Raw.bytes? (ofBytes bytes) bytes := by
  have further {bytes : Bytes} {js : List Raw}
      (h : Value.LoosensItems (bytes.map fun b ↦ .number (.int b.toNat)) js) :
      js.mapM Raw.byte? = some bytes := by
    induction bytes generalizing js with
    | nil =>
      cases h
      rfl
    | cons b bytes ih =>
      cases h with
      | cons hb hs =>
        rw [List.mapM_cons, tolerant_byte b _ hb, ih hs]
        rfl
  intro j hj
  cases hj with
  | array h => exact further h

theorem Raw.option?_of_ne_null {α : Type} {f : Raw → Option α} {j : Raw} (h : j ≠ .null) :
    option? f j = (f j).map some := by
  cases j with
  | null => exact absurd rfl h
  | _ => rfl

/-- What may be missing is read as it was, if what is there never looks missing. -/
theorem tolerant_orNull {α : Type} {f : Raw → Option α} {g : α → Value}
    (hf : ∀ a, Tolerant f (g a) a) (hg : ∀ a, g a ≠ .null) (o : Option α) :
    Tolerant (Raw.option? f) (orNull g o) o := by
  intro j hj
  cases o with
  | none =>
    cases hj
    rfl
  | some a =>
    have hn : j ≠ .null := by
      rintro rfl
      exact hg a hj.eq_null
    rw [Raw.option?_of_ne_null hn, hf a j hj, Option.map_some]

/-! ## Fields by name -/

namespace Raw

/-- A field of an object has a name and a value. -/
def Denotes (g : List Piece × Raw) (f : String × Raw) : Prop :=
  Piece.toString? g.1 = some f.1 ∧ g.2 = f.2

theorem named?_eq_some {gs : List (List Piece × Raw)} {all : List (String × Raw)} :
    named? gs = some all ↔ List.Forall₂ Denotes gs all := by
  induction gs generalizing all with
  | nil => simp [named?, eq_comm]
  | cons g gs ih =>
    obtain ⟨key, j⟩ := g
    have hn : named? ((key, j) :: gs) = (Piece.toString? key).bind fun name ↦
        (named? gs).map ((name, j) :: ·) := by
      rw [named?, List.mapM_cons, ← named?]
      cases Piece.toString? key <;> cases named? gs <;> rfl
    rw [hn]
    simp only [Option.bind_eq_some_iff, Option.map_eq_some_iff]
    constructor
    · rintro ⟨name, hk, rest, hr, rfl⟩
      exact .cons ⟨hk, rfl⟩ (ih.mp hr)
    · rintro (_ | @⟨_, ⟨name, k⟩, _, rest, ⟨hk, rfl⟩, hr⟩)
      exact ⟨name, hk, rest, ih.mpr hr, rfl⟩

/-- Fields whose names are texts can be named. -/
theorem exists_denoted {P : String → Prop} {gs : List (List Piece × Raw)}
    (h : ∀ g ∈ gs, ∃ name, Piece.toString? g.1 = some name ∧ P name) :
    ∃ all, List.Forall₂ Denotes gs all ∧ ∀ f ∈ all, P f.1 := by
  induction gs with
  | nil => exact ⟨[], .nil, List.forall_mem_nil _⟩
  | cons g gs ih =>
    obtain ⟨⟨name, hg, hp⟩, h⟩ := List.forall_mem_cons.mp h
    obtain ⟨all, hall, hps⟩ := ih h
    exact ⟨(name, g.2) :: all, .cons ⟨hg, rfl⟩ hall, List.forall_mem_cons.mpr ⟨hp, hps⟩⟩

end Raw

theorem Value.LoosensFields.name_mem {fields : List (String × Value)}
    {gs : List (List Piece × Raw)} (h : LoosensFields fields gs) :
    ∀ g ∈ gs, ∃ name, Piece.toString? g.1 = some name ∧ name ∈ fields.map (·.1) := by
  induction fields generalizing gs with
  | nil =>
    cases h
    exact List.forall_mem_nil _
  | cons f fields ih =>
    rw [List.map_cons]
    cases h with
    | @cons name v _ key j _ hk hv hs =>
      refine List.forall_mem_cons.mpr ⟨⟨name, hk, List.mem_cons_self⟩, fun g hg ↦ ?_⟩
      obtain ⟨name, hg, hm⟩ := ih hs g hg
      exact ⟨name, hg, List.mem_cons_of_mem _ hm⟩
    | omitted hs =>
      intro g hg
      obtain ⟨name, hg, hm⟩ := ih hs g hg
      exact ⟨name, hg, List.mem_cons_of_mem _ hm⟩

/-- The fields that stand for those of an object have their names, each at most once, and a field
that does not stand for any was `null`. -/
theorem Value.LoosensFields.exists_named {fields : List (String × Value)}
    {gs : List (List Piece × Raw)} (h : LoosensFields fields gs)
    (hn : (fields.map (·.1)).Nodup) :
    ∃ all, List.Forall₂ Raw.Denotes gs all ∧
      (all.map (·.1)).Sublist (fields.map (·.1)) ∧
      ∀ f ∈ fields, (∃ j, (f.1, j) ∈ all ∧ f.2.Loosens j) ∨ f.2 = .null ∧ f.1 ∉ all.map (·.1) := by
  induction fields generalizing gs with
  | nil =>
    cases h
    exact ⟨[], .nil, .slnil, List.forall_mem_nil _⟩
  | cons f fields ih =>
    rw [List.map_cons, List.nodup_cons] at hn
    obtain ⟨hf, hn⟩ := hn
    cases h with
    | @cons name v _ key j _ hk hv hs =>
      obtain ⟨all, ha, hsub, hall⟩ := ih hs hn
      refine ⟨(name, j) :: all, .cons ⟨hk, rfl⟩ ha, hsub.cons_cons _, ?_⟩
      rintro f (_ | ⟨_, hm⟩)
      · exact .inl ⟨j, List.mem_cons_self, hv⟩
      · rcases hall f hm with ⟨k, hk, hl⟩ | ⟨h₀, hn'⟩
        · exact .inl ⟨k, List.mem_cons_of_mem _ hk, hl⟩
        · refine .inr ⟨h₀, ?_⟩
          rw [List.map_cons, List.mem_cons, not_or]
          refine ⟨fun he ↦ hf ?_, hn'⟩
          change f.1 = name at he
          subst he
          exact List.mem_map.mpr ⟨f, hm, rfl⟩
    | @omitted name _ _ hs =>
      obtain ⟨all, ha, hsub, hall⟩ := ih hs hn
      refine ⟨all, ha, hsub.cons _, ?_⟩
      rintro f (_ | ⟨_, hm⟩)
      · exact .inr ⟨rfl, fun hm ↦ hf (hsub.subset hm)⟩
      · exact hall f hm

namespace Record

theorem field?_eq_none {r : Record} {name : String} :
    r.field? name = none ↔ name ∉ r.fields.map (·.1) := by
  rw [field?, Option.map_eq_none_iff, List.find?_eq_none, List.mem_map, not_exists]
  simp only [decide_eq_true_eq, not_and]

/-- A field whose name stands once is the field of that name. -/
theorem field?_of_mem {r : Record} (hn : (r.fields.map (·.1)).Nodup) {name : String} {j : Raw}
    (h : (name, j) ∈ r.fields) : r.field? name = some j := by
  obtain ⟨before, after, hr⟩ := List.append_of_mem h
  rw [hr, List.map_append, List.map_cons, List.nodup_append] at hn
  have hb : before.find? (fun f ↦ f.1 = name) = none := by
    rw [List.find?_eq_none]
    intro f hf he
    exact hn.2.2 f.1 (List.mem_map_of_mem hf) name List.mem_cons_self (of_decide_eq_true he)
  rw [field?, hr, List.find?_append, hb]
  simp

/-- What a record gives for a field that was written. -/
def Gives (r : Record) (name : String) (v : Value) : Prop :=
  (∃ j, r.field? name = some j ∧ v.Loosens j) ∨ v = .null ∧ r.field? name = none

/-- A record is found in whatever stands for it. -/
theorem read?_of_loosens {names : List String} {fields : List (String × Value)}
    (hn : fields.map (·.1) = names) (hd : names.Nodup) {j : Raw}
    (h : Value.Loosens (.object fields) j) :
    ∃ r, read? names [] j = some r ∧ ∀ f ∈ fields, r.Gives f.1 f.2 := by
  subst hn
  cases h with
  | @object _ kept added gs hk ha hp =>
    obtain ⟨known, hkn, hsub, hall⟩ := hk.exists_named hd
    obtain ⟨further, hfn, hfar⟩ := Raw.exists_denoted fun g hg ↦ (ha g hg).2
    obtain ⟨all, hgs, hperm⟩ := List.perm_comp_forall₂ hp (List.rel_append hkn hfn)
    -- the declared fields among all are those that stand for a written one
    have hdecl : (all.filter fun f ↦ f.1 ∈ fields.map (·.1) ++ []).Perm known := by
      refine (hperm.filter _).trans ?_
      rw [List.filter_append, List.filter_eq_self.mpr, List.filter_eq_nil_iff.mpr, List.append_nil]
      · intro f hf hm
        rw [List.append_nil] at hm
        exact hfar f hf (of_decide_eq_true hm)
      · intro f hf
        rw [List.append_nil]
        exact decide_eq_true (hsub.subset (List.mem_map_of_mem hf))
    have hnodup : ((all.filter fun f ↦ f.1 ∈ fields.map (·.1) ++ []).map (·.1)).Nodup :=
      (hdecl.map (·.1)).nodup_iff.mpr (hd.sublist hsub)
    refine ⟨⟨all.filter fun f ↦ f.1 ∈ fields.map (·.1) ++ []⟩, ?_, ?_⟩
    · simp only [read?, Raw.named?_eq_some.mpr hgs, Option.bind_eq_bind, Option.bind_some]
      exact if_pos hnodup
    · intro f hf
      rcases hall f hf with ⟨k, hk, hl⟩ | ⟨h₀, hn⟩
      · exact .inl ⟨k, field?_of_mem hnodup (hdecl.mem_iff.mpr hk), hl⟩
      · refine .inr ⟨h₀, field?_eq_none.mpr fun hm ↦ hn ?_⟩
        exact (hdecl.map (·.1)).mem_iff.mp hm

/-- What is read of a record whose fields are found. -/
theorem bind_of_loosens {α : Type} {names : List String} {fields : List (String × Value)}
    {f : Record → Option α} {a : α} (hn : fields.map (·.1) = names) (hd : names.Nodup)
    (hf : ∀ r : Record, (∀ f ∈ fields, r.Gives f.1 f.2) → f r = some a) {j : Raw}
    (h : Value.Loosens (.object fields) j) : (read? names [] j >>= f) = some a := by
  obtain ⟨r, hr, hg⟩ := read?_of_loosens hn hd h
  rw [hr]
  exact hf r hg

theorem Gives.required? {α : Type} {r : Record} {name : String} {v : Value} {f : Raw → Option α}
    {a : α} (h : r.Gives name v) (hf : Tolerant f v a) (hv : v ≠ .null) :
    r.required? name f = some a := by
  rcases h with ⟨j, hj, hl⟩ | ⟨h₀, -⟩
  · rw [Record.required?, hj, Option.bind_some, hf j hl]
  · exact absurd h₀ hv

theorem Gives.optional? {α : Type} {r : Record} {name : String} {g : α → Value}
    {f : Raw → Option α} {o : Option α} (h : r.Gives name (orNull g o))
    (hf : ∀ a, Tolerant f (g a) a) (hg : ∀ a, g a ≠ .null) :
    r.optional? name f = some o := by
  rcases h with ⟨j, hj, hl⟩ | ⟨h₀, hj⟩
  · rw [Record.optional?, hj]
    exact tolerant_orNull hf hg o j hl
  · rw [Record.optional?, hj]
    cases o with
    | none => rfl
    | some a => exact absurd h₀ (hg a)

end Record

/-! ## Tags -/

/-- The variant of a name. -/
def named {α : Type} (variants : List (String × α)) (name : String) : Option α :=
  (variants.find? fun v ↦ v.1 = name).map (·.2)

theorem variant?_text {α : Type} (source : Source) (variants : List (String × α))
    {pieces : List Piece} {name : String} (h : Piece.toString? pieces = some name) :
    variant? source variants (.text pieces) = named variants name := by
  simp only [variant?, Raw.string?, h]
  cases source <;> rfl

theorem tolerant_plain {α : Type} (source : Source) {variants : List (String × α)}
    {name : String} {a : α} (h : named variants name = some a) :
    Tolerant (plain? source variants) (.text name) a := by
  intro j hj
  cases hj with
  | text hs => rw [plain?, variant?_text .direct variants hs, h]

theorem tolerant_unit {α : Type} (a : α) (fields : List (String × Value)) :
    Tolerant (fun j ↦ (unit? j).map fun _ ↦ a) (.object fields) a := by
  intro j hj
  cases hj
  rfl

/-- The tag of a record is found wherever it stands, and the other fields remain. -/
theorem tagged?_of_loosens {tag name : String} {fields : List (String × Value)}
    (ht : tag ∉ fields.map (·.1)) {j : Raw} (h : (tagged tag name fields).Loosens j) :
    ∃ pieces rest, tagged? tag j = some (.text pieces, rest) ∧
      Piece.toString? pieces = some name ∧ Value.Loosens (.object fields) rest := by
  cases h with
  | @object _ kept added gs hk ha hp =>
    cases hk with
    | @cons _ _ _ key j kept hkey hv hs =>
      cases hv with
      | @text _ pieces hname =>
        have hrest : ∀ g ∈ kept ++ added, ∃ name, Piece.toString? g.1 = some name ∧ name ≠ tag := by
          intro g hg
          rcases List.mem_append.mp hg with hg | hg
          · obtain ⟨name, hg, hm⟩ := hs.name_mem g hg
            exact ⟨name, hg, fun he ↦ ht (he ▸ hm)⟩
          · obtain ⟨-, name, hg, hm⟩ := ha g hg
            exact ⟨name, hg, fun he ↦ hm (he ▸ List.mem_cons_self)⟩
        obtain ⟨others, hothers, hne⟩ := Raw.exists_denoted hrest
        have hfound : Raw.Denotes (key, .text pieces) (tag, .text pieces) := ⟨hkey, rfl⟩
        obtain ⟨all, hgs, hperm⟩ := List.perm_comp_forall₂ hp (.cons hfound hothers)
        have htag : all.filter (fun f ↦ f.1 = tag) = [(tag, .text pieces)] := by
          rw [← List.perm_singleton]
          refine (hperm.filter _).trans ?_
          rw [List.filter_cons_of_pos (by simp), List.filter_eq_nil_iff.mpr]
          exact fun f hf he ↦ hne f hf (of_decide_eq_true he)
        refine ⟨pieces, .object (gs.filter fun g ↦ Piece.toString? g.1 ≠ some tag), ?_, hname, ?_⟩
        · simp only [tagged?, Raw.named?_eq_some.mpr hgs, Option.bind_eq_bind, Option.bind_some,
            htag]
        · have hadded : ∀ g ∈ added, g.2.isSound = true ∧
              ∃ name, Piece.toString? g.1 = some name ∧ name ∉ fields.map (·.1) := by
            intro g hg
            obtain ⟨hsound, name, hg, hm⟩ := ha g hg
            exact ⟨hsound, name, hg, fun he ↦ hm (List.mem_cons_of_mem _ he)⟩
          refine .object hs hadded ((hp.filter _).trans ?_)
          rw [List.cons_append, List.filter_cons_of_neg (by simp [hkey]), List.filter_eq_self.mpr]
          intro g hg
          obtain ⟨name, hg, hne⟩ := hrest g hg
          rw [hg]
          exact decide_eq_true fun he ↦ hne (Option.some.inj he)

/-- A tagged record is read by the variant of its tag. -/
theorem readTagged?_of_loosens {α β : Type} {source : Source} {tag name : String}
    {variants : List (String × β)} {body : β → Raw → Option α} {fields : List (String × Value)}
    {v : β} {a : α} (hv : named variants name = some v) (hb : Tolerant (body v) (.object fields) a)
    (ht : tag ∉ fields.map (·.1)) {j : Raw} (h : (tagged tag name fields).Loosens j)
    (hf : source = .direct → j.fits nestingLimit = true) :
    readTagged? source tag variants body j = some a := by
  obtain ⟨pieces, rest, htag, hname, hrest⟩ := tagged?_of_loosens ht h
  have hfits : ¬ (source = .direct ∧ (!j.fits nestingLimit) = true) := by
    rintro ⟨hs, hn⟩
    rw [hf hs] at hn
    cases hn
  rw [readTagged?, if_neg hfits, htag]
  simp only [Option.bind_eq_bind, Option.bind_some, variant?_text source variants hname, hv]
  exact hb rest hrest

end SealedSession.Json
