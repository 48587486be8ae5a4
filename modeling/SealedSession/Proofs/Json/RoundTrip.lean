import SealedSession.Proofs.Json.Leaves

/-!
# What is written as JSON is read back

The text of a value spells a document. Which document that is, `seen` says: it has the fields of
the value in their order, every text in pieces and every number digit by digit. The statements
hold for the values that messages are made of, whose numbers are natural; `tame` is the predicate.

* `Value.writeOnto_eq`: the writer, in reading order.
* `Value.spells_written`: a written value spells its document.
* `read?_encode`: the buffer of a value holds the document of the value.
-/

namespace SealedSession.Json

/-- The literal of a natural number; other numbers are not spoken of. -/
def Number.literal : Number → Literal
  | .int n => .ofNat n.toNat
  | .float _ => {}

/-- Whether a number is a natural one of 64 bits. -/
def Number.isWord : Number → Bool
  | .int n => decide (0 ≤ n) && decide (n.toNat ≤ Literal.limit)
  | .float _ => false

theorem Number.written_natCast (k : Nat) : (Number.int k).written = Nat.toDigits 10 k := by
  rw [written, show toString (k : Int) = Nat.repr k from rfl, Nat.toList_repr]

theorem Number.written_of_isWord {n : Number} (h : n.isWord = true) :
    ∃ k, k ≤ Literal.limit ∧ n.written = Nat.toDigits 10 k ∧ n.literal = .ofNat k := by
  cases n with
  | float digits => cases h
  | int n =>
    obtain ⟨k, rfl⟩ := Int.eq_ofNat_of_zero_le (a := n) (by simp [isWord] at h; exact h.1)
    exact ⟨k, by simpa [isWord] using h, written_natCast k, rfl⟩

namespace Value

mutual

/-- The document that the text of a value is read as. -/
def seen : Value → Raw
  | .null => .null
  | .bool b => .bool b
  | .number n => .number n.literal
  | .text s => .text (Piece.ofString s)
  | .array items => .array (seenItems items)
  | .object fields => .object (seenFields fields)

/-- `seen` for the items of an array. -/
def seenItems : List Value → List Raw
  | [] => []
  | v :: items => seen v :: seenItems items

/-- `seen` for the fields of an object. -/
def seenFields : List (String × Value) → List (List Piece × Raw)
  | [] => []
  | (key, v) :: fields => (Piece.ofString key, seen v) :: seenFields fields

end

mutual

/-- Whether all numbers of a value are natural ones of 64 bits, and it nests less than `room`
deep. -/
def tame (room : Nat) : Value → Bool
  | .null => true
  | .bool _ => true
  | .number n => n.isWord
  | .text _ => true
  | .array items => 1 < room && tameItems (room - 1) items
  | .object fields => 1 < room && tameFields (room - 1) fields

/-- `tame` for the items of an array. -/
def tameItems (room : Nat) : List Value → Bool
  | [] => true
  | v :: items => tame room v && tameItems room items

/-- `tame` for the fields of an object. -/
def tameFields (room : Nat) : List (String × Value) → Bool
  | [] => true
  | (_, v) :: fields => tame room v && tameFields room fields

end

/-! ## The writer in reading order -/

/-- The text of further items. -/
def writtenItems (items : List Value) : List Char :=
  items.flatMap fun v ↦ ',' :: v.written

/-- The text of further fields. -/
def writtenFields (fields : List (String × Value)) : List Char :=
  fields.flatMap fun f ↦ ',' :: (quoted f.1 ++ ':' :: f.2.written)

theorem writtenItems_cons (v : Value) (items : List Value) :
    writtenItems (v :: items) = ',' :: (v.written ++ writtenItems items) := by
  simp [writtenItems]

theorem writtenFields_cons (key : String) (v : Value) (fields : List (String × Value)) :
    writtenFields ((key, v) :: fields) =
      ',' :: (quoted key ++ ':' :: (v.written ++ writtenFields fields)) := by
  simp [writtenFields]

mutual

/-- A value is written behind what was written before. -/
theorem writeOnto_eq (done : List Char) (v : Value) :
    writeOnto done v = v.written.reverse ++ done := by
  cases v with
  | null => rfl
  | bool b => cases b <;> rfl
  | number n => simp [written, writeOnto]
  | text s => simp [written, writeOnto]
  | array items =>
    cases items with
    | nil => rfl
    | cons v items =>
      have hw (done : List Char) : writeOnto done (.array (v :: items)) =
          ']' :: ((writtenItems items).reverse ++ ((written v).reverse ++ '[' :: done)) := by
        rw [writeOnto, writeItems_eq _ items, writeOnto_eq _ v]
      rw [written, hw, hw]
      simp
  | object fields =>
    cases fields with
    | nil => rfl
    | cons f fields =>
      obtain ⟨key, v⟩ := f
      have hw (done : List Char) : writeOnto done (.object ((key, v) :: fields)) =
          '\x7d' :: ((writtenFields fields).reverse ++
            ((written v).reverse ++ ':' :: ((quoted key).reverse ++ '\x7b' :: done))) := by
        rw [writeOnto, writeFields_eq _ fields, writeOnto_eq _ v]
      rw [written, hw, hw]
      simp

theorem writeItems_eq (done : List Char) (items : List Value) :
    writeItems done items = (writtenItems items).reverse ++ done := by
  cases items with
  | nil => rfl
  | cons v items =>
    rw [writeItems, writeItems_eq _ items, writeOnto_eq _ v, writtenItems_cons]
    simp

theorem writeFields_eq (done : List Char) (fields : List (String × Value)) :
    writeFields done fields = (writtenFields fields).reverse ++ done := by
  cases fields with
  | nil => rfl
  | cons f fields =>
    obtain ⟨key, v⟩ := f
    rw [writeFields, writeFields_eq _ fields, writeOnto_eq _ v, writtenFields_cons]
    simp

end

theorem written_array (v : Value) (items : List Value) :
    written (.array (v :: items)) = '[' :: (v.written ++ (writtenItems items ++ [']'])) := by
  rw [written, writeOnto, writeItems_eq, writeOnto_eq]
  simp

/-- Every item of an array takes a character at least. -/
theorem length_le_written_array (items : List Value) :
    items.length ≤ (written (.array items)).length := by
  have further (items : List Value) : items.length ≤ (writtenItems items).length := by
    induction items with
    | nil => exact Nat.le_refl 0
    | cons v items ih =>
      rw [writtenItems_cons]
      simp only [List.length_cons, List.length_append]
      omega
  cases items with
  | nil => exact Nat.zero_le _
  | cons v items =>
    have hi := further items
    rw [written_array]
    simp only [List.length_cons, List.length_append]
    omega

theorem written_object (key : String) (v : Value) (fields : List (String × Value)) :
    written (.object ((key, v) :: fields)) =
      '\x7b' :: (quoted key ++ ':' :: (v.written ++ (writtenFields fields ++ ['\x7d']))) := by
  rw [written, writeOnto, writeFields_eq, writeOnto_eq]
  simp

/-! ## What a written value spells -/

mutual

/-- A written value spells the document that it is read as. -/
theorem spells_written {room : Nat} (v : Value) (h : v.tame room = true) :
    Spells (.value v.seen) v.written := by
  cases v with
  | null => exact .null
  | bool b => cases b with
    | true => exact .bool true
    | false => exact .bool false
  | number n =>
    obtain ⟨k, -, hk, hl⟩ := Number.written_of_isWord (n := n) h
    rw [seen, hl, written, writeOnto, List.append_nil, List.reverse_reverse, hk]
    exact .number (Literal.spells_ofNat k)
  | text s =>
    rw [seen, written, writeOnto, List.append_nil, List.reverse_reverse]
    exact .text (spellsText_ofString s)
  | array items =>
    cases items with
    | nil => exact .emptyArray .nil
    | cons v items =>
      simp only [tame, tameItems, Bool.and_eq_true] at h
      rw [seen, seenItems, written_array, ← List.append_assoc]
      exact .array (spells_items (spells_written v h.2.1).bare items h.2.2)
  | object fields =>
    cases fields with
    | nil => exact .emptyObject .nil
    | cons f fields =>
      obtain ⟨key, v⟩ := f
      simp only [tame, tameFields, Bool.and_eq_true] at h
      have hm := Spells.bareMember (spellsText_ofString key) (spells_written v h.2.1)
      have ho := Spells.object (spells_fields hm fields h.2.2)
      rw [seen, seenFields, written_object]
      simpa [quoted] using ho

/-- Further items are spelled behind what spells an item. -/
theorem spells_items {room : Nat} {j : Raw} {cs : List Char} (hj : Spells (.element j) cs)
    (items : List Value) (h : tameItems room items = true) :
    Spells (.elements (j :: seenItems items)) (cs ++ writtenItems items) := by
  cases items with
  | nil =>
    rw [seenItems, writtenItems, List.flatMap_nil, List.append_nil]
    exact .lastElement hj
  | cons v items =>
    simp only [tameItems, Bool.and_eq_true] at h
    rw [seenItems, writtenItems_cons]
    exact .nextElement hj (spells_items (spells_written v h.1).bare items h.2)

/-- Further fields are spelled behind what spells a field. -/
theorem spells_fields {room : Nat} {key : List Piece} {j : Raw} {cs : List Char}
    (hj : Spells (.member key j) cs) (fields : List (String × Value))
    (h : tameFields room fields = true) :
    Spells (.members ((key, j) :: seenFields fields)) (cs ++ writtenFields fields) := by
  cases fields with
  | nil =>
    rw [seenFields, writtenFields, List.flatMap_nil, List.append_nil]
    exact .lastMember hj
  | cons f fields =>
    obtain ⟨k, w⟩ := f
    simp only [tameFields, Bool.and_eq_true] at h
    have hm := Spells.bareMember (spellsText_ofString k) (spells_written w h.1)
    rw [seenFields, writtenFields_cons]
    have hs := Spells.nextMember hj (spells_fields hm fields h.2)
    simpa [quoted] using hs

end

end Value

/-- The buffer of a value holds the document of the value. -/
theorem read?_encode {room : Nat} {v : Value} (h : v.tame room = true) :
    read? v.encode = some v.seen :=
  read?_of_spells (.bare (v.spells_written h))

end SealedSession.Json
