import SealedSession.Json.Tree

/-! # Reading JSON

The reader is an automaton with a stack. It takes one unit of the input at a time, so a document
is read by a single fold, however deep it nests: the stack holds the containers that wait for a
value, and the mode says what may come next.

Only the four blanks of JSON separate tokens. A number ends at the first unit that cannot
continue it, and that unit is then looked at again as what follows a value.

## Main definitions

* `Reader.step`: what one unit does, `none` when the input is no JSON.
* `Reader.finish`: the document, once the input has ended.
* `Json.read?`: the document written in a buffer.
-/

namespace SealedSession.Json

namespace Reader

/-- A container whose next value is being read, with what it holds already, newest first. -/
inductive Frame where
  | items (done : List Raw)
  | field (done : List (List Piece × Raw)) (key : List Piece)

/-- Where a text stands: as a value, or as a key after the fields `done`. -/
inductive Place where
  | value
  | key (done : List (List Piece × Raw))

/-- How far an escape inside a text has come. -/
inductive Escape where
  | none
  | opened
  | hex (digits : Nat) (unit : Nat)

/-- The part of a number that was read last. -/
inductive Part where
  | sign | zero | whole | point | fraction | mark | markSign | exponent

/-- Whether a number may end after this part. -/
def Part.complete : Part → Bool
  | .zero | .whole | .fraction | .exponent => true
  | _ => false

/-- What the next unit is read as. -/
inductive Mode where
  | value
  | firstItem
  | firstKey
  | key (done : List (List Piece × Raw))
  | colon (done : List (List Piece × Raw)) (key : List Piece)
  | text (place : Place) (pieces : List Piece) (escape : Escape)
  | number (part : Part) (literal : Literal)
  | word (rest : List Char) (value : Raw)
  | afterItem (done : List Raw)
  | afterField (done : List (List Piece × Raw))
  | finished (value : Raw)

/-- The reader between two units. -/
structure State where
  stack : List Frame := []
  mode : Mode := .value

/-- Space, tab, line feed and carriage return. -/
def isBlank (c : Char) : Bool :=
  c = ' ' || c = '\t' || c = '\n' || c = '\r'

/-- The value of a decimal digit. -/
def digit? (c : Char) : Option Nat :=
  if '0' ≤ c ∧ c ≤ '9' then some (c.toNat - 48) else none

/-- Hands a finished value to the container that waits for it. -/
def complete (value : Raw) : List Frame → State
  | [] => ⟨[], .finished value⟩
  | .items done :: stack => ⟨stack, .afterItem (value :: done)⟩
  | .field done key :: stack => ⟨stack, .afterField ((key, value) :: done)⟩

/-- Begins a value at its first character. -/
def start (stack : List Frame) (c : Char) : Option State :=
  if c = '\x7b' then some ⟨stack, .firstKey⟩
  else if c = '[' then some ⟨stack, .firstItem⟩
  else if c = '\"' then some ⟨stack, .text .value [] .none⟩
  else if c = '-' then some ⟨stack, .number .sign ⟨true, [], [], none⟩⟩
  else if c = 'n' then some ⟨stack, .word ['u', 'l', 'l'] .null⟩
  else if c = 't' then some ⟨stack, .word ['r', 'u', 'e'] (.bool true)⟩
  else if c = 'f' then some ⟨stack, .word ['a', 'l', 's', 'e'] (.bool false)⟩
  else (digit? c).map fun d =>
    ⟨stack, .number (if d = 0 then .zero else .whole) ⟨false, [d], [], none⟩⟩

/-- Puts the digits of a number, collected newest first, into reading order. -/
def Literal.settled (l : Literal) : Literal :=
  ⟨l.negative, l.whole.reverse, l.fraction.reverse, l.exponent.map fun e => (e.1, e.2.reverse)⟩

/-- The number with one more character, if that character continues it. -/
def extend? (part : Part) (l : Literal) (c : Char) : Option (Part × Literal) :=
  match part, digit? c with
  | .sign, some d => some (if d = 0 then .zero else .whole, { l with whole := [d] })
  | .whole, some d => some (.whole, { l with whole := d :: l.whole })
  | .point, some d | .fraction, some d =>
    some (.fraction, { l with fraction := d :: l.fraction })
  | .mark, some d => some (.exponent, { l with exponent := some (true, [d]) })
  | .markSign, some d | .exponent, some d =>
    some (.exponent, { l with exponent := l.exponent.map fun e => (e.1, d :: e.2) })
  | .zero, none | .whole, none =>
    if c = '.' then some (.point, l)
    else if c = 'e' || c = 'E' then some (.mark, l)
    else none
  | .fraction, none => if c = 'e' || c = 'E' then some (.mark, l) else none
  | .mark, none =>
    if c = '+' then some (.markSign, { l with exponent := some (true, []) })
    else if c = '-' then some (.markSign, { l with exponent := some (false, []) })
    else none
  | _, _ => none

/-- The character that a one-letter escape stands for. -/
def escape? (c : Char) : Option Char :=
  if c = '\"' || c = '\\' || c = '/' then some c
  else if c = 'b' then some '\x08'
  else if c = 'f' then some '\x0c'
  else if c = 'n' then some '\n'
  else if c = 'r' then some '\r'
  else if c = 't' then some '\t'
  else none

/-- What a closing quote does. -/
def closeText (stack : List Frame) (pieces : List Piece) : Place → State
  | .value => complete (.text pieces.reverse) stack
  | .key done => ⟨stack, .colon done pieces.reverse⟩

/-- One unit inside a text. -/
def textStep (stack : List Frame) (place : Place) (pieces : List Piece) :
    Escape → Utf8.Unit → Option State
  | .none, .stray b => some ⟨stack, .text place (.stray b :: pieces) .none⟩
  | .none, .char c =>
    if c = '\"' then some (closeText stack pieces place)
    else if c = '\\' then some ⟨stack, .text place pieces .opened⟩
    else if c.toNat < 0x20 then none
    else some ⟨stack, .text place (.char c :: pieces) .none⟩
  | .opened, .char c =>
    if c = 'u' then some ⟨stack, .text place pieces (.hex 0 0)⟩
    else (escape? c).map fun e => ⟨stack, .text place (.char e :: pieces) .none⟩
  | .hex digits unit, .char c => do
    let d ← Hex.value? c
    if digits = 3 then return ⟨stack, .text place (.escaped (16 * unit + d) :: pieces) .none⟩
    else return ⟨stack, .text place pieces (.hex (digits + 1) (16 * unit + d))⟩
  | _, .stray _ => none

/-- One character after an item of an array. -/
def afterItem (stack : List Frame) (done : List Raw) (c : Char) : Option State :=
  if isBlank c then some ⟨stack, .afterItem done⟩
  else if c = ',' then some ⟨.items done :: stack, .value⟩
  else if c = ']' then some (complete (.array done.reverse) stack)
  else none

/-- One character after a field of an object. -/
def afterField (stack : List Frame) (done : List (List Piece × Raw)) (c : Char) :
    Option State :=
  if isBlank c then some ⟨stack, .afterField done⟩
  else if c = ',' then some ⟨stack, .key done⟩
  else if c = '\x7d' then some (complete (.object done.reverse) stack)
  else none

/-- One character after a finished value. -/
def afterValue (s : State) (c : Char) : Option State :=
  match s.mode with
  | .afterItem done => afterItem s.stack done c
  | .afterField done => afterField s.stack done c
  | .finished _ => if isBlank c then some s else none
  | _ => none

/-- One unit of the input. -/
def step (s : State) (u : Utf8.Unit) : Option State :=
  match s.mode, u with
  | .text place pieces escape, u => textStep s.stack place pieces escape u
  | .value, .char c => if isBlank c then some s else start s.stack c
  | .firstItem, .char c =>
    if isBlank c then some s
    else if c = ']' then some (complete (.array []) s.stack)
    else start (.items [] :: s.stack) c
  | .firstKey, .char c =>
    if isBlank c then some s
    else if c = '\"' then some ⟨s.stack, .text (.key []) [] .none⟩
    else if c = '\x7d' then some (complete (.object []) s.stack)
    else none
  | .key done, .char c =>
    if isBlank c then some s
    else if c = '\"' then some ⟨s.stack, .text (.key done) [] .none⟩
    else none
  | .colon done key, .char c =>
    if isBlank c then some s
    else if c = ':' then some ⟨.field done key :: s.stack, .value⟩
    else none
  | .number part l, .char c =>
    match extend? part l c with
    | some (part, l) => some ⟨s.stack, .number part l⟩
    | none =>
      if part.complete then afterValue (complete (.number (Literal.settled l)) s.stack) c
      else none
  | .word (expected :: rest) value, .char c =>
    if c ≠ expected then none
    else if rest = [] then some (complete value s.stack)
    else some ⟨s.stack, .word rest value⟩
  | .afterItem done, .char c => afterItem s.stack done c
  | .afterField done, .char c => afterField s.stack done c
  | .finished _, .char c => if isBlank c then some s else none
  | _, _ => none

/-- The document, when the input may end here. -/
def finish (s : State) : Option Raw :=
  match s.stack, s.mode with
  | [], .finished value => some value
  | [], .number part l => if part.complete then some (.number (Literal.settled l)) else none
  | _, _ => none

/-- Takes all units of an input in turn. -/
def run (s : State) : List Utf8.Unit → Option State
  | [] => some s
  | u :: rest => match step s u with
    | some s => run s rest
    | none => none

@[simp] theorem run_nil (s : State) : run s [] = some s := rfl

theorem run_append (s : State) (us vs : List Utf8.Unit) :
    run s (us ++ vs) = (run s us).bind fun s => run s vs := by
  induction us generalizing s with
  | nil => rfl
  | cons u us ih =>
    simp only [List.cons_append, run]
    cases step s u with
    | none => rfl
    | some s => exact ih s

end Reader

/-- The document that a buffer holds, with nothing but blanks around it. -/
def read? (bytes : Bytes) : Option Raw :=
  (Reader.run {} (Utf8.scan bytes)).bind Reader.finish

end SealedSession.Json
