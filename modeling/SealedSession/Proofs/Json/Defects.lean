import Mathlib.Data.List.Nodup
import SealedSession.Proofs.Json.Records

/-!
# What stands for no record

A record is open to fields that it does not declare, and strict about those that it does: each may
stand once, and must stand if it is required. A tag stands once and names a variant, whose fields
are as strict again. A `Format` declares this much of a reader and nothing of the leaves.

* `Defective`: which documents break a format, in whichever of their objects it may be.
* `Strict`: a reader that takes nothing defective.
* `strict_plain`, `strict_record`, `strict_readTagged?`: the readers of choices, of records and of
  tagged records are strict, if those of their parts are.
-/

namespace SealedSession.Json

/-! ## Formats -/

/-- Whether a record is read without a field. An optional field may also be `null`. -/
inductive Presence where
  | required
  | optional

/-- What a reader declares. -/
inductive Format where
  /-- Anything that declares no field. -/
  | leaf
  | choice (names : List String)
  | record (fields : List (String × Presence × Format))
  | tagged (tag : String) (source : Source) (variants : List (String × Format))

/-- A plain variant of a name: the name itself, or an object with the name as its only field. -/
inductive Chooses (name : String) : Raw → Prop
  | text {pieces : List Piece} (h : Piece.toString? pieces = some name) :
      Chooses name (.text pieces)
  | object {key : List Piece} {j : Raw} (h : Piece.toString? key = some name) :
      Chooses name (.object [(key, j)])

/-- Which value stands in the place of a field: in an object the one of that name, in an array the
one of that position. -/
inductive Places (names : List String) : Raw → String → Raw → Prop
  | byName {gs : List (List Piece × Raw)} {key : List Piece} {j : Raw} {name : String}
      (hg : (key, j) ∈ gs) (hk : Piece.toString? key = some name) : Places names (.object gs) name j
  | byPosition {items : List Raw} {name : String} {j : Raw} (h : (name, j) ∈ names.zip items) :
      Places names (.array items) name j

/-- What stands in the place of a tag, and what remains. -/
inductive Splits (tag : String) : Raw → Raw → Raw → Prop
  | byName {gs : List (List Piece × Raw)} {key : List Piece} {j : Raw} (hg : (key, j) ∈ gs)
      (hk : Piece.toString? key = some tag) :
      Splits tag (.object gs) j (.object (gs.filter fun g ↦ Piece.toString? g.1 ≠ some tag))
  | byPosition {j : Raw} {items : List Raw} : Splits tag (.array (j :: items)) j (.array items)

/-- Which variant a tag selects: by its name, or in a collected document by its position. -/
inductive Selects {β : Type} (source : Source) (variants : List (String × β)) : Raw → β → Prop
  | byName {pieces : List Piece} {name : String} {b : β} (h : Piece.toString? pieces = some name)
      (hv : (name, b) ∈ variants) : Selects source variants (.text pieces) b
  | byPosition {l : Literal} {n : Nat} {name : String} {b : β} (hs : source = .collected)
      (h : l.toNat? = some n) (hv : variants[n]? = some (name, b)) :
      Selects source variants (.number l) b

/-- How often a name stands in an object. -/
def occurrences (name : String) (gs : List (List Piece × Raw)) : Nat :=
  gs.countP fun g ↦ Piece.toString? g.1 = some name

/-- Some object of a document breaks the format. Fields that are not declared may hold anything. -/
inductive Defective : Format → Raw → Prop
  | unnamed {names : List String} {j : Raw} (h : ∀ name ∈ names, ¬ Chooses name j) :
      Defective (.choice names) j
  | fieldRepeated {fields : List (String × Presence × Format)} {gs : List (List Piece × Raw)}
      {name : String} (hf : name ∈ fields.map (·.1)) (h : 1 < occurrences name gs) :
      Defective (.record fields) (.object gs)
  | fieldMissing {fields : List (String × Presence × Format)} {gs : List (List Piece × Raw)}
      {name : String} {format : Format} (hf : (name, .required, format) ∈ fields)
      (h : occurrences name gs = 0) : Defective (.record fields) (.object gs)
  | field {fields : List (String × Presence × Format)} {j k : Raw} {name : String}
      {presence : Presence} {format : Format} (hf : (name, presence, format) ∈ fields)
      (hk : Places (fields.map (·.1)) j name k) (hp : presence = .optional → k ≠ .null)
      (h : Defective format k) : Defective (.record fields) j
  | tagRepeated {tag : String} {source : Source} {variants : List (String × Format)}
      {gs : List (List Piece × Raw)} (h : 1 < occurrences tag gs) :
      Defective (.tagged tag source variants) (.object gs)
  | tagMissing {tag : String} {source : Source} {variants : List (String × Format)}
      {gs : List (List Piece × Raw)} (h : occurrences tag gs = 0) :
      Defective (.tagged tag source variants) (.object gs)
  | tagUnknown {tag : String} {source : Source} {variants : List (String × Format)}
      {j t rest : Raw} (hs : Splits tag j t rest)
      (h : ∀ format, ¬ Selects source variants t format) :
      Defective (.tagged tag source variants) j
  | variant {tag : String} {source : Source} {variants : List (String × Format)}
      {j t rest : Raw} {format : Format} (hs : Splits tag j t rest)
      (hv : Selects source variants t format) (h : Defective format rest) :
      Defective (.tagged tag source variants) j

/-! ## Strict readers -/

/-- A reader takes nothing that breaks its format. -/
def Strict {α : Type} (f : Raw → Option α) (format : Format) : Prop :=
  ∀ j a, f j = some a → ¬ Defective format j

theorem Strict.eq_none {α : Type} {f : Raw → Option α} {format : Format} (hf : Strict f format)
    {j : Raw} (h : Defective format j) : f j = none :=
  Option.eq_none_iff_forall_ne_some.mpr fun a ha ↦ hf j a ha h

/-- Nothing breaks the format of a leaf. -/
theorem strict_leaf {α : Type} (f : Raw → Option α) : Strict f .leaf := by
  rintro j a - h
  cases h

theorem Strict.map {α β : Type} {f : Raw → Option α} {format : Format} (hf : Strict f format)
    (g : α → β) : Strict (fun j ↦ (f j).map g) format := by
  intro j b h
  obtain ⟨a, ha, -⟩ := Option.map_eq_some_iff.mp h
  exact hf j a ha

/-! ## Choices -/

theorem exists_of_named {α : Type} {variants : List (String × α)} {name : String} {a : α}
    (h : named variants name = some a) : (name, a) ∈ variants := by
  obtain ⟨v, hv, rfl⟩ := Option.map_eq_some_iff.mp h
  have hn : v.1 = name := by simpa using List.find?_some hv
  exact hn ▸ List.mem_of_find?_eq_some hv

theorem exists_of_variant?_text {α : Type} {variants : List (String × α)} {source : Source}
    {pieces : List Piece} {a : α} (h : variant? source variants (.text pieces) = some a) :
    ∃ name, Piece.toString? pieces = some name ∧ (name, a) ∈ variants := by
  cases hs : Piece.toString? pieces with
  | none =>
    simp only [variant?, Raw.string?, hs] at h
    cases source <;> cases h
  | some name =>
    rw [variant?_text source variants hs] at h
    exact ⟨name, rfl, exists_of_named h⟩

/-- A plain variant is read only where it is named. -/
theorem strict_plain {α : Type} (source : Source) (variants : List (String × α)) :
    Strict (plain? source variants) (.choice (variants.map (·.1))) := by
  rintro j a h ⟨hd⟩
  unfold plain? at h
  split at h
  · obtain ⟨name, hs, hm⟩ := exists_of_variant?_text h
    exact hd name (List.mem_map_of_mem hm) (.text hs)
  · split at h
    · obtain ⟨name, hs, hm⟩ := exists_of_variant?_text h
      exact hd name (List.mem_map_of_mem hm) (.object hs)
    · obtain ⟨name, hs, hm⟩ := exists_of_variant?_text h
      exact hd name (List.mem_map_of_mem hm) (.object hs)
    · cases h
  · cases h

/-! ## Records -/

namespace Raw

theorem occurrences_eq_count {gs : List (List Piece × Raw)} {all : List (String × Raw)}
    (h : List.Forall₂ Denotes gs all) (name : String) :
    occurrences name gs = (all.map (·.1)).count name := by
  induction h with
  | nil => rfl
  | @cons g f gs all hg _ ih =>
    rw [occurrences] at ih ⊢
    rw [List.countP_cons, List.map_cons, List.count_cons, ih, hg.1]
    simp

theorem mem_of_denotes {gs : List (List Piece × Raw)} {all : List (String × Raw)}
    (h : List.Forall₂ Denotes gs all) {key : List Piece} {j : Raw} {name : String}
    (hg : (key, j) ∈ gs) (hk : Piece.toString? key = some name) : (name, j) ∈ all := by
  induction h with
  | nil => cases hg
  | @cons g f gs all hd _ ih =>
    rcases List.mem_cons.mp hg with rfl | hg
    · obtain ⟨hf, rfl⟩ : Piece.toString? key = some f.1 ∧ j = f.2 := hd
      rw [hk, Option.some.injEq] at hf
      exact hf ▸ List.mem_cons_self
    · exact List.mem_cons_of_mem _ (ih hg)

end Raw

namespace Record

variable {names : List String} {j : Raw} {r : Record}

/-- How a record is read from its two forms. -/
theorem read?_cases (h : read? names [] j = some r) :
    (∃ items, j = .array items ∧ r.fields = names.zip items ∧ r.fields.map (·.1) = names) ∨
    ∃ gs all, j = .object gs ∧ List.Forall₂ Raw.Denotes gs all ∧
      r.fields = all.filter (fun f ↦ f.1 ∈ names) ∧ (r.fields.map (·.1)).Nodup := by
  unfold read? at h
  split at h
  · next items =>
    split at h
    · next hl =>
      cases h
      refine .inl ⟨items, rfl, by rw [List.append_nil], ?_⟩
      rw [List.append_nil]
      exact List.map_fst_zip hl.1
    · cases h
  · next gs =>
    simp only [Option.bind_eq_bind, Option.bind_eq_some_iff, List.append_nil] at h
    obtain ⟨all, ha, h⟩ := h
    split at h
    · next hn =>
      cases h
      exact .inr ⟨gs, all, rfl, Raw.named?_eq_some.mp ha, rfl, hn⟩
    · cases h
  · cases h

theorem nodup_read? (hd : names.Nodup) (h : read? names [] j = some r) :
    (r.fields.map (·.1)).Nodup := by
  rcases read?_cases h with ⟨items, rfl, -, hn⟩ | ⟨gs, all, rfl, -, -, hn⟩
  · rw [hn]
    exact hd
  · exact hn

theorem mem_of_places (h : read? names [] j = some r) {name : String} {k : Raw}
    (hk : Places names j name k) (hm : name ∈ names) : (name, k) ∈ r.fields := by
  rcases read?_cases h with ⟨items, rfl, hr, -⟩ | ⟨gs, all, rfl, ha, hr, -⟩
  · cases hk with
    | byPosition hz => rw [hr]; exact hz
  · cases hk with
    | byName hg hs =>
      rw [hr]
      exact List.mem_filter.mpr ⟨Raw.mem_of_denotes ha hg hs, decide_eq_true hm⟩

theorem count_of_read? {gs : List (List Piece × Raw)} (h : read? names [] (.object gs) = some r)
    {name : String} (hm : name ∈ names) :
    (r.fields.map (·.1)).count name = occurrences name gs := by
  rcases read?_cases h with ⟨items, hj, -⟩ | ⟨gs, all, hj, ha, hr, -⟩
  · cases hj
  · cases hj
    have hf : r.fields.map (·.1) = (all.map (·.1)).filter (fun n ↦ n ∈ names) := by
      rw [hr, List.filter_map]
      rfl
    rw [Raw.occurrences_eq_count ha, hf, List.count_filter (by simpa using hm)]

/-- A record gives a field as it is declared. -/
structure Meets (r : Record) (name : String) (presence : Presence) (format : Format) : Prop where
  given : presence = .required → r.field? name ≠ none
  sound : ∀ k, r.field? name = some k → (presence = .optional → k ≠ .null) → ¬ Defective format k

theorem Meets.of_required? {α : Type} {name : String} {f : Raw → Option α} {format : Format}
    (hf : Strict f format) {a : α} (h : r.required? name f = some a) :
    r.Meets name .required format := by
  obtain ⟨k, hk, ha⟩ := Option.bind_eq_some_iff.mp h
  refine ⟨fun _ hn ↦ ?_, fun k' hk' _ ↦ ?_⟩
  · rw [hk] at hn
    cases hn
  · rw [hk] at hk'
    cases hk'
    exact hf k a ha

theorem Meets.of_optional? {α : Type} {name : String} {f : Raw → Option α} {format : Format}
    (hf : Strict f format) {o : Option α} (h : r.optional? name f = some o) :
    r.Meets name .optional format := by
  refine ⟨nofun, fun k hk hn ↦ ?_⟩
  have hk : k.option? f = some o := by
    rw [Record.optional?, hk] at h
    exact h
  rw [Raw.option?_of_ne_null (hn rfl)] at hk
  obtain ⟨a, ha, -⟩ := Option.map_eq_some_iff.mp hk
  exact hf k a ha

/-- A record that gives every field as it is declared breaks no format. -/
theorem not_defective {fields : List (String × Presence × Format)} (hd : (fields.map (·.1)).Nodup)
    (hr : read? (fields.map (·.1)) [] j = some r)
    (hm : ∀ f ∈ fields, r.Meets f.1 f.2.1 f.2.2) : ¬ Defective (.record fields) j := by
  have hn := nodup_read? hd hr
  intro h
  cases h with
  | @fieldRepeated _ gs name hf h =>
    rw [← count_of_read? hr hf] at h
    have hone := List.nodup_iff_count_le_one.mp hn name
    omega
  | @fieldMissing _ gs name format hf h =>
    rw [← count_of_read? hr (List.mem_map.mpr ⟨_, hf, rfl⟩), List.count_eq_zero] at h
    exact (hm _ hf).given rfl (field?_eq_none.mpr h)
  | @field _ _ k name presence format hf hk hp h =>
    have hk := field?_of_mem hn (mem_of_places hr hk (List.mem_map.mpr ⟨_, hf, rfl⟩))
    exact (hm _ hf).sound k hk hp h

end Record

/-- A reader of a record is strict if it gives nothing but for fields as they are declared. -/
theorem strict_record {α : Type} {names : List String}
    {fields : List (String × Presence × Format)} {f : Record → Option α}
    (hn : fields.map (·.1) = names) (hd : names.Nodup)
    (hf : ∀ r a, f r = some a → ∀ g ∈ fields, r.Meets g.1 g.2.1 g.2.2) :
    Strict (fun j ↦ Record.read? names [] j >>= f) (.record fields) := by
  subst hn
  intro j a h
  obtain ⟨r, hr, ha⟩ := Option.bind_eq_some_iff.mp h
  exact Record.not_defective hd hr (hf r a ha)

/-- A variant without fields declares none. -/
theorem strict_unit : Strict unit? (.record []) := by
  rintro j a - h
  cases h with
  | fieldRepeated hf | fieldMissing hf | field hf => cases hf

/-! ## Tagged records -/

theorem tagged?_of_splits {tag : String} {j t rest : Raw} (hs : Splits tag j t rest)
    {x : Raw × Raw} (h : tagged? tag j = some x) : x = (t, rest) := by
  cases hs with
  | @byName gs key _ hg hk =>
    simp only [tagged?, Option.bind_eq_bind, Option.bind_eq_some_iff] at h
    obtain ⟨all, ha, h⟩ := h
    have hm := Raw.mem_of_denotes (Raw.named?_eq_some.mp ha) hg hk
    split at h
    · next name k he =>
      have hm : (tag, t) ∈ all.filter fun f ↦ f.1 = tag := List.mem_filter.mpr ⟨hm, by simp⟩
      rw [he, List.mem_singleton] at hm
      cases hm
      cases h
      rfl
    · cases h
  | byPosition =>
    cases h
    rfl

/-- A tag that is found stands once. -/
theorem occurrences_of_tagged? {tag : String} {gs : List (List Piece × Raw)} {x : Raw × Raw}
    (h : tagged? tag (.object gs) = some x) : occurrences tag gs = 1 := by
  simp only [tagged?, Option.bind_eq_bind, Option.bind_eq_some_iff] at h
  obtain ⟨all, ha, h⟩ := h
  split at h
  · next name k he =>
    have hc : (all.map (·.1)).count tag = (all.filter fun f ↦ f.1 = tag).length := by
      rw [List.count, List.countP_map, List.countP_eq_length_filter]
      rfl
    rw [Raw.occurrences_eq_count (Raw.named?_eq_some.mp ha), hc, he, List.length_singleton]
  · cases h

section Variants

variable {β : Type} {source : Source} {variants : List (String × β)} (format : β → Format) {t : Raw}

theorem Selects.of_variant? {v : β} (h : variant? source variants t = some v) :
    Selects source (variants.map fun v ↦ (v.1, format v.2)) t (format v) := by
  cases t with
  | text pieces =>
    obtain ⟨name, hs, hm⟩ := exists_of_variant?_text h
    exact .byName hs (List.mem_map.mpr ⟨_, hm, rfl⟩)
  | number l =>
    cases source with
    | direct => cases h
    | collected =>
      simp only [variant?, Option.bind_eq_bind, Option.bind_eq_some_iff] at h
      obtain ⟨n, hn, h⟩ := h
      obtain ⟨⟨name, b⟩, hb, rfl⟩ := Option.map_eq_some_iff.mp h
      exact .byPosition rfl hn (by rw [List.getElem?_map, hb]; rfl)
  | _ => cases source <;> cases h

theorem Selects.eq_format (hn : (variants.map (·.1)).Nodup) {v : β} {selected : Format}
    (h : variant? source variants t = some v)
    (hs : Selects source (variants.map fun v ↦ (v.1, format v.2)) t selected) :
    selected = format v := by
  cases hs with
  | @byName pieces name _ hs hm =>
    obtain ⟨⟨_, b⟩, hb, he⟩ := List.mem_map.mp hm
    cases he
    obtain ⟨name', hs', hv⟩ := exists_of_variant?_text h
    rw [hs, Option.some.injEq] at hs'
    subst hs'
    cases List.inj_on_of_nodup_map hn hb hv rfl
    rfl
  | @byPosition l n name _ hc hl hm =>
    subst hc
    rw [List.getElem?_map] at hm
    obtain ⟨⟨_, b⟩, hb, he⟩ := Option.map_eq_some_iff.mp hm
    cases he
    simp only [variant?, hl, hb, Option.bind_eq_bind, Option.bind_some, Option.map_some] at h
    cases h
    rfl

end Variants

/-- A reader of a tagged record is strict if it reads each variant strictly. -/
theorem strict_readTagged? {α β : Type} {source : Source} {tag : String}
    {variants : List (String × β)} {body : β → Raw → Option α} {format : β → Format}
    (hn : (variants.map (·.1)).Nodup) (hb : ∀ v, Strict (body v) (format v)) :
    Strict (readTagged? source tag variants body)
      (.tagged tag source (variants.map fun v ↦ (v.1, format v.2))) := by
  intro j a h hd
  unfold readTagged? at h
  split at h
  · cases h
  · simp only [Option.bind_eq_bind, Option.bind_eq_some_iff] at h
    obtain ⟨⟨t, rest⟩, ht, v, hv, ha⟩ := h
    cases hd with
    | tagRepeated h =>
      rw [occurrences_of_tagged? ht] at h
      omega
    | tagMissing h =>
      rw [occurrences_of_tagged? ht] at h
      cases h
    | tagUnknown hs h =>
      cases tagged?_of_splits hs ht
      exact h _ (.of_variant? format hv)
    | variant hs hsel h =>
      cases tagged?_of_splits hs ht
      rw [Selects.eq_format format hn hv hsel] at h
      exact hb v rest a ha h

end SealedSession.Json
