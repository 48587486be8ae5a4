import SealedSession.Json.Number

/-! # Reading records from JSON

A record is an object with named fields, or an array that gives the same fields in order. In an
object each declared field stands at most once, in any place, and fields with other names are
skipped. In an array every field must be given, optional ones as `null`.

A tagged record carries one more field, the tag, which says what the others are; in an array
form the tag stands first. To find its tag wherever it stands, a tagged record is collected as a
whole before any of it is read. What is collected must therefore be well formed throughout: its
texts must denote strings, its numbers must be finite and its nesting must stay below a limit.
The rest of this file speaks of a *collected* document in that case. Reading a collected document
differs in two more points: a plain variant may be given as `{name: {}}` beside `{name: null}`,
and a tag may be given as the position of its variant.
-/

namespace SealedSession.Json

/-- Whether a document is read as it comes, or was collected to find a tag. -/
inductive Source where
  | direct
  | collected
deriving DecidableEq, Repr

/-- The nesting that a kept document must stay below. -/
def nestingLimit : Nat := 128

namespace Raw

/-- The string of a text. -/
def string? : Raw → Option String
  | .text pieces => Piece.toString? pieces
  | _ => none

/-- The number of an unsigned integer below `bound`. -/
def below? (bound : Nat) : Raw → Option Nat
  | .number l => do
    let n ← l.toNat?
    if n < bound then some n else none
  | _ => none

/-- A byte. -/
def byte? (j : Raw) : Option UInt8 :=
  (j.below? 256).map UInt8.ofNat

/-- A number of 32 bits. -/
def word? (j : Raw) : Option UInt32 :=
  (j.below? UInt32.size).map UInt32.ofNat

/-- The items of an array, each read by `f`. -/
def list? {α : Type} (f : Raw → Option α) : Raw → Option (List α)
  | .array items => items.mapM f
  | _ => none

/-- A byte string, written as an array of numbers. -/
def bytes? (j : Raw) : Option Bytes :=
  j.list? byte?

/-- A value that may be `null`. -/
def option? {α : Type} (f : Raw → Option α) : Raw → Option (Option α)
  | .null => some none
  | j => (f j).map some

mutual

/-- Whether a document is well formed throughout and nests less than `room` deep. -/
def fits (room : Nat) : Raw → Bool
  | .null => true
  | .bool _ => true
  | .number l => l.number?.isSome
  | .text pieces => (Piece.toString? pieces).isSome
  | .array items => 1 < room && fitsItems (room - 1) items
  | .object fields => 1 < room && fitsFields (room - 1) fields

/-- `fits` for the items of an array. -/
def fitsItems (room : Nat) : List Raw → Bool
  | [] => true
  | j :: items => fits room j && fitsItems room items

/-- `fits` for the fields of an object. -/
def fitsFields (room : Nat) : List (List Piece × Raw) → Bool
  | [] => true
  | (key, j) :: fields =>
    (Piece.toString? key).isSome && fits room j && fitsFields room fields

end

/-- Puts a field into its place in the order of keys, replacing one with the same key. -/
def insertField (key : String) (v : Value) : List (String × Value) → List (String × Value)
  | [] => [(key, v)]
  | (k, w) :: fields =>
    if key < k then (key, v) :: (k, w) :: fields
    else if key = k then (key, v) :: fields
    else (k, w) :: insertField key v fields

mutual

/-- A document kept as a value: fields are ordered by key, and the last of several fields with
one key is the one that counts. -/
def value? (room : Nat) : Raw → Option Value
  | .null => some .null
  | .bool b => some (.bool b)
  | .number l => l.number?.map .number
  | .text pieces => (Piece.toString? pieces).map .text
  | .array items => if 1 < room then (values? (room - 1) items).map .array else none
  | .object fields =>
    if 1 < room then
      (valueFields? (room - 1) fields).map fun fs =>
        .object (fs.foldl (fun done f => insertField f.1 f.2 done) [])
    else none

/-- `value?` for the items of an array. -/
def values? (room : Nat) : List Raw → Option (List Value)
  | [] => some []
  | j :: items => do
    let v ← value? room j
    let vs ← values? room items
    return v :: vs

/-- `value?` for the fields of an object, in the order of the document. -/
def valueFields? (room : Nat) : List (List Piece × Raw) → Option (List (String × Value))
  | [] => some []
  | (key, j) :: fields => do
    let k ← Piece.toString? key
    let v ← value? room j
    let vs ← valueFields? room fields
    return (k, v) :: vs

end

/-- The fields of an object, with their names as strings. -/
def named? (fields : List (List Piece × Raw)) : Option (List (String × Raw)) :=
  fields.mapM fun f => (Piece.toString? f.1).map (·, f.2)

end Raw

/-- The declared fields that a record gives, each at most once. -/
structure Record where
  fields : List (String × Raw)

namespace Record

/-- The record with the declared `names`. In an array form the fields in `trailing`, which follow
the others, may be left out at the end. -/
def read? (names trailing : List String) : Raw → Option Record
  | .array items =>
    if names.length ≤ items.length ∧ items.length ≤ names.length + trailing.length then
      some ⟨(names ++ trailing).zip items⟩
    else none
  | .object fields => do
    let all ← Raw.named? fields
    let known := all.filter fun f => f.1 ∈ names ++ trailing
    if (known.map (·.1)).Nodup then some ⟨known⟩ else none
  | _ => none

/-- The field of a name. -/
def field? (r : Record) (name : String) : Option Raw :=
  (r.fields.find? fun f => f.1 = name).map (·.2)

/-- A field that must be given. -/
def required? {α : Type} (r : Record) (name : String) (f : Raw → Option α) : Option α :=
  (r.field? name).bind f

/-- A field that may be missing or `null`. -/
def optional? {α : Type} (r : Record) (name : String) (f : Raw → Option α) :
    Option (Option α) :=
  match r.field? name with
  | none => some none
  | some j => j.option? f

end Record

/-- Splits a tagged record into its tag and what remains. -/
def tagged? (tag : String) : Raw → Option (Raw × Raw)
  | .array (j :: items) => some (j, .array items)
  | .object fields => do
    let all ← Raw.named? fields
    match all.filter fun f => f.1 = tag with
    | [(_, j)] => some (j, .object (fields.filter fun f => Piece.toString? f.1 ≠ some tag))
    | _ => none
  | _ => none

/-- The variant that a tag names, or whose position it gives in a collected document. -/
def variant? {α : Type} (source : Source) (variants : List (String × α)) (tag : Raw) :
    Option α :=
  match source, tag with
  | _, .text _ => do
    let name ← tag.string?
    (variants.find? fun v => v.1 = name).map (·.2)
  | .collected, .number l => do
    let n ← l.toNat?
    (variants[n]?).map (·.2)
  | _, _ => none

/-- A tagged record, collected unless it is part of a collected document already. -/
def readTagged? {α β : Type} (source : Source) (tag : String) (variants : List (String × β))
    (body : β → Raw → Option α) (j : Raw) : Option α := do
  if source = .direct ∧ !j.fits nestingLimit then none
  else
    let (name, rest) ← tagged? tag j
    let v ← variant? source variants name
    body v rest

/-- A plain variant: its name, or an object with its name as the only field and nothing in it. -/
def plain? {α : Type} (source : Source) (variants : List (String × α)) : Raw → Option α
  | .text pieces => variant? .direct variants (.text pieces)
  | .object [(key, j)] =>
    match source, j with
    | _, .null => variant? .direct variants (.text key)
    | .collected, .object [] => variant? .direct variants (.text key)
    | _, _ => none
  | _ => none

/-- A variant without fields ignores the fields of an object form; its array form has none. -/
def unit? : Raw → Option Unit
  | .array [] => some ()
  | .object _ => some ()
  | _ => none

end SealedSession.Json
