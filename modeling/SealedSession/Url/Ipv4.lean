import SealedSession.Bytes
import SealedSession.Text.Split

/-! # IPv4 addresses

An address is a 32-bit number. It is read from one to four numbers with dots between them and at
most one dot behind them; the last number fills whatever the ones before it leave, each of which
is a byte. A number behind `0x` is hexadecimal and one behind `0` octal. A host that ends in a
number is an address or nothing. The written form is always four decimal bytes.
-/

namespace SealedSession.Ipv4

/-- The number that digits of a base spell, the empty text being zero. -/
def digits? (base : Nat) (text : List Char) : Option Nat :=
  text.foldlM (fun n c => do
    let d ← Hex.value? c
    if d < base then some (base * n + d) else none) 0

/-- A number in one of the three bases. -/
def number? : List Char → Option Nat
  | [] => none
  | '0' :: 'x' :: rest | '0' :: 'X' :: rest => digits? 16 rest
  | '0' :: c :: rest => digits? 8 (c :: rest)
  | text => digits? 10 text

/-- The numbers of a written address. -/
def parts (text : List Char) : List (List Char) :=
  let ps := Text.pieces (· = '.') text
  if 1 < ps.length ∧ ps.getLast? = some [] then ps.dropLast else ps

/-- Whether the last part of a host is a number, well formed or not. -/
def endsInNumber (host : List Char) : Bool :=
  match (parts host).getLast? with
  | some last => (last ≠ [] && last.all Char.isDigit) || (number? last).isSome
  | none => false

/-- Bytes followed by a number that fills the rest of `width` bytes. -/
def join? (width : Nat) : List Nat → Option Nat
  | [] => none
  | [last] => if last < 256 ^ width then some last else none
  | n :: rest => do
    let low ← join? (width - 1) rest
    if n < 256 then some (n * 256 ^ (width - 1) + low) else none

/-- Reads an address. -/
def parse? (text : List Char) : Option UInt32 := do
  let numbers ← (parts text).mapM number?
  if 4 < numbers.length then none
  else
    let n ← join? 4 numbers
    return UInt32.ofNat n

/-- The four bytes of an address. -/
def bytes (a : UInt32) : List Nat :=
  let n := a.toNat
  [n / 0x1000000, n / 0x10000 % 256, n / 0x100 % 256, n % 256]

/-- Four decimal bytes. -/
def text (a : UInt32) : String :=
  ".".intercalate ((bytes a).map toString)

end SealedSession.Ipv4
