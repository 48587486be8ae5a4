import SealedSession.Json.Record
import SealedSession.Proofs.Json.RoundTrip

/-!
# What may stand for a value

A value is written in one way, but a sender need not write it so. An object may have its fields in
any order, be without those that are `null` and have others besides, and every object within it
may. Blanks and the spelling of texts are free as well; they are a matter of the grammar.

What is added must be worth keeping, because a reader that looks for a tag collects whatever it
passes.

* `Raw.isSound`, `Raw.depth`, `Raw.fits_of_isSound`: which documents may be collected.
* `Value.Loosens`: which documents may stand for a value.
* `Value.loosens_seen`: the document that a value is written as may.
* `Value.Loosens.isSound`: whatever stands for a tame value may be collected, if it is not too deep.
-/

namespace SealedSession.Json

/-! ## What may be collected -/

namespace Raw

mutual

/-- Whether every text of a document denotes a string and every number is finite. -/
def isSound : Raw → Bool
  | .null => true
  | .bool _ => true
  | .number l => l.number?.isSome
  | .text pieces => (Piece.toString? pieces).isSome
  | .array items => isSoundItems items
  | .object fields => isSoundFields fields

/-- `isSound` for the items of an array. -/
def isSoundItems : List Raw → Bool
  | [] => true
  | j :: items => isSound j && isSoundItems items

/-- `isSound` for the fields of an object. -/
def isSoundFields : List (List Piece × Raw) → Bool
  | [] => true
  | (key, j) :: fields => (Piece.toString? key).isSome && isSound j && isSoundFields fields

end

mutual

/-- How many arrays and objects stand around the innermost value. -/
def depth : Raw → Nat
  | .null => 0
  | .bool _ => 0
  | .number _ => 0
  | .text _ => 0
  | .array items => depthItems items + 1
  | .object fields => depthFields fields + 1

/-- `depth` for the items of an array. -/
def depthItems : List Raw → Nat
  | [] => 0
  | j :: items => max (depth j) (depthItems items)

/-- `depth` for the fields of an object. -/
def depthFields : List (List Piece × Raw) → Nat
  | [] => 0
  | (_, j) :: fields => max (depth j) (depthFields fields)

end

mutual

/-- A sound document may be collected where it is not too deep. -/
theorem fits_of_isSound {room : Nat} (j : Raw) (h : j.isSound = true) (hd : j.depth < room) :
    fits room j = true := by
  cases j with
  | null => rfl
  | bool b => rfl
  | number l => exact h
  | text pieces => exact h
  | array items =>
    rw [depth] at hd
    rw [fits, fitsItems_of_isSound items h (by omega), decide_eq_true (show 1 < room by omega)]
    rfl
  | object fields =>
    rw [depth] at hd
    rw [fits, fitsFields_of_isSound fields h (by omega), decide_eq_true (show 1 < room by omega)]
    rfl

theorem fitsItems_of_isSound {room : Nat} (items : List Raw) (h : isSoundItems items = true)
    (hd : depthItems items < room) : fitsItems room items = true := by
  cases items with
  | nil => rfl
  | cons j items =>
    simp only [isSoundItems, Bool.and_eq_true] at h
    rw [depthItems] at hd
    rw [fitsItems, fits_of_isSound j h.1 (by omega), fitsItems_of_isSound items h.2 (by omega)]
    rfl

theorem fitsFields_of_isSound {room : Nat} (fields : List (List Piece × Raw))
    (h : isSoundFields fields = true) (hd : depthFields fields < room) :
    fitsFields room fields = true := by
  cases fields with
  | nil => rfl
  | cons f fields =>
    obtain ⟨key, j⟩ := f
    simp only [isSoundFields, Bool.and_eq_true] at h
    rw [depthFields] at hd
    rw [fitsFields, h.1.1, fits_of_isSound j h.1.2 (by omega),
      fitsFields_of_isSound fields h.2 (by omega)]
    rfl

end

theorem isSoundFields_iff {fields : List (List Piece × Raw)} :
    isSoundFields fields = true ↔
      ∀ f ∈ fields, (Piece.toString? f.1).isSome = true ∧ f.2.isSound = true := by
  induction fields with
  | nil => simp [isSoundFields]
  | cons f fields ih => simp [isSoundFields, ih]

end Raw

/-! ## What may stand for a value -/

namespace Value

mutual

/-- What may stand for a value. -/
inductive Loosens : Value → Raw → Prop
  | null : Loosens .null .null
  | bool (b : Bool) : Loosens (.bool b) (.bool b)
  | number {n : Number} {l : Literal} (h : l.Spells n.written) : Loosens (.number n) (.number l)
  | text {s : String} {pieces : List Piece} (h : Piece.toString? pieces = some s) :
      Loosens (.text s) (.text pieces)
  | array {items : List Value} {js : List Raw} (h : LoosensItems items js) :
      Loosens (.array items) (.array js)
  | object {fields : List (String × Value)} {kept added gs : List (List Piece × Raw)}
      (hk : LoosensFields fields kept)
      (ha : ∀ g ∈ added, g.2.isSound = true ∧
        ∃ name, Piece.toString? g.1 = some name ∧ name ∉ fields.map (·.1))
      (hp : gs.Perm (kept ++ added)) : Loosens (.object fields) (.object gs)

/-- `Loosens` for the items of an array. -/
inductive LoosensItems : List Value → List Raw → Prop
  | nil : LoosensItems [] []
  | cons {v : Value} {items : List Value} {j : Raw} {js : List Raw} (hv : Loosens v j)
      (hs : LoosensItems items js) : LoosensItems (v :: items) (j :: js)

/-- `Loosens` for the fields of an object, in their order and without others. -/
inductive LoosensFields : List (String × Value) → List (List Piece × Raw) → Prop
  | nil : LoosensFields [] []
  | cons {name : String} {v : Value} {fields : List (String × Value)} {key : List Piece} {j : Raw}
      {gs : List (List Piece × Raw)} (hk : Piece.toString? key = some name) (hv : Loosens v j)
      (hs : LoosensFields fields gs) : LoosensFields ((name, v) :: fields) ((key, j) :: gs)
  | omitted {name : String} {fields : List (String × Value)} {gs : List (List Piece × Raw)}
      (hs : LoosensFields fields gs) : LoosensFields ((name, .null) :: fields) gs

end

mutual

/-- The document that a value is written as may stand for it. -/
theorem loosens_seen {room : Nat} (v : Value) (h : v.tame room = true) : v.Loosens v.seen := by
  cases v with
  | null => exact .null
  | bool b => exact .bool b
  | number n =>
    obtain ⟨k, -, hk, hl⟩ := Number.written_of_isWord (n := n) h
    rw [seen, hl]
    exact .number (hk ▸ Literal.spells_ofNat k)
  | text s => exact .text (Piece.toString?_ofString s)
  | array items =>
    simp only [tame, Bool.and_eq_true] at h
    exact .array (loosensItems_seen items h.2)
  | object fields =>
    simp only [tame, Bool.and_eq_true] at h
    have hp : (seenFields fields).Perm (seenFields fields ++ []) := by rw [List.append_nil]
    exact .object (loosensFields_seen fields h.2) (List.forall_mem_nil _) hp

theorem loosensItems_seen {room : Nat} (items : List Value) (h : tameItems room items = true) :
    LoosensItems items (seenItems items) := by
  cases items with
  | nil => exact .nil
  | cons v items =>
    simp only [tameItems, Bool.and_eq_true] at h
    exact .cons (loosens_seen v h.1) (loosensItems_seen items h.2)

theorem loosensFields_seen {room : Nat} (fields : List (String × Value))
    (h : tameFields room fields = true) : LoosensFields fields (seenFields fields) := by
  cases fields with
  | nil => exact .nil
  | cons f fields =>
    obtain ⟨name, v⟩ := f
    simp only [tameFields, Bool.and_eq_true] at h
    exact .cons (Piece.toString?_ofString name) (loosens_seen v h.1) (loosensFields_seen fields h.2)

end

mutual

/-- A tame value nests no deeper than it says. -/
theorem depth_seen {room : Nat} (v : Value) (h : v.tame room = true) (hr : 0 < room) :
    v.seen.depth < room := by
  cases v with
  | null | bool _ | number _ | text _ => exact hr
  | array items =>
    simp only [tame, Bool.and_eq_true, decide_eq_true_eq] at h
    have hi := depthItems_seen items h.2 (by omega)
    rw [seen, Raw.depth]
    omega
  | object fields =>
    simp only [tame, Bool.and_eq_true, decide_eq_true_eq] at h
    have hf := depthFields_seen fields h.2 (by omega)
    rw [seen, Raw.depth]
    omega

theorem depthItems_seen {room : Nat} (items : List Value) (h : tameItems room items = true)
    (hr : 0 < room) : Raw.depthItems (seenItems items) < room := by
  cases items with
  | nil => exact hr
  | cons v items =>
    simp only [tameItems, Bool.and_eq_true] at h
    rw [seenItems, Raw.depthItems]
    exact Nat.max_lt.mpr ⟨depth_seen v h.1 hr, depthItems_seen items h.2 hr⟩

theorem depthFields_seen {room : Nat} (fields : List (String × Value))
    (h : tameFields room fields = true) (hr : 0 < room) :
    Raw.depthFields (seenFields fields) < room := by
  cases fields with
  | nil => exact hr
  | cons f fields =>
    obtain ⟨name, v⟩ := f
    simp only [tameFields, Bool.and_eq_true] at h
    rw [seenFields, Raw.depthFields]
    exact Nat.max_lt.mpr ⟨depth_seen v h.1 hr, depthFields_seen fields h.2 hr⟩

end

/-- What stands for a natural number is its literal. -/
theorem Loosens.eq_ofNat {n : Number} {k : Nat} (hn : n.written = Nat.toDigits 10 k) {j : Raw}
    (h : Loosens (.number n) j) : j = .number (.ofNat k) := by
  cases h with
  | number h => exact Spells.unique (.bare (.number h)) (.bare (.number (hn ▸ Literal.spells_ofNat k)))

/-- Only `null` stands for `null`. -/
theorem Loosens.eq_null {v : Value} (h : v.Loosens .null) : v = .null := by
  cases h
  rfl

mutual

/-- Whatever stands for a tame value is sound. -/
theorem Loosens.isSound {room : Nat} {v : Value} {j : Raw} (h : v.Loosens j)
    (ht : v.tame room = true) : j.isSound = true := by
  cases v with
  | null | bool _ =>
    cases h
    rfl
  | number n =>
    obtain ⟨k, hk, hw, -⟩ := Number.written_of_isWord (n := n) ht
    rw [h.eq_ofNat hw, Raw.isSound, Literal.number?_ofNat hk]
    rfl
  | text s =>
    cases h with
    | text h =>
      rw [Raw.isSound, h]
      rfl
  | array items =>
    simp only [tame, Bool.and_eq_true] at ht
    cases h with
    | array h => exact LoosensItems.isSound h ht.2
  | object fields =>
    simp only [tame, Bool.and_eq_true] at ht
    cases h with
    | object hk ha hp =>
      refine Raw.isSoundFields_iff.mpr fun g hg ↦ ?_
      rcases List.mem_append.mp (hp.mem_iff.mp hg) with hg | hg
      · exact Raw.isSoundFields_iff.mp (LoosensFields.isSound hk ht.2) g hg
      · obtain ⟨hs, name, hn, -⟩ := ha g hg
        exact ⟨by rw [hn]; rfl, hs⟩

theorem LoosensItems.isSound {room : Nat} {items : List Value} {js : List Raw}
    (h : LoosensItems items js) (ht : tameItems room items = true) :
    Raw.isSoundItems js = true := by
  cases items with
  | nil =>
    cases h
    rfl
  | cons v items =>
    simp only [tameItems, Bool.and_eq_true] at ht
    cases h with
    | cons hv hs =>
      rw [Raw.isSoundItems, hv.isSound ht.1, LoosensItems.isSound hs ht.2]
      rfl

theorem LoosensFields.isSound {room : Nat} {fields : List (String × Value)}
    {gs : List (List Piece × Raw)} (h : LoosensFields fields gs)
    (ht : tameFields room fields = true) : Raw.isSoundFields gs = true := by
  cases fields with
  | nil =>
    cases h
    rfl
  | cons f fields =>
    obtain ⟨name, v⟩ := f
    simp only [tameFields, Bool.and_eq_true] at ht
    cases h with
    | cons hk hv hs =>
      rw [Raw.isSoundFields, hk, hv.isSound ht.1, LoosensFields.isSound hs ht.2]
      rfl
    | omitted hs => exact LoosensFields.isSound hs ht.2

end

end Value

end SealedSession.Json
