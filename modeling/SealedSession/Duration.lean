/-! # Spans of time

A duration is a whole number of nanoseconds, as large as 64 bits of seconds and a fraction allow.
The sum of two durations may exceed that bound, and then there is none.
-/

namespace SealedSession

/-- A span of time. -/
structure Duration where
  nanos : Nat
  bounded : nanos < UInt64.size * 1000000000
deriving DecidableEq, Repr

namespace Duration

/-- The empty span. -/
def zero : Duration := ⟨0, by decide⟩

instance : Inhabited Duration := ⟨zero⟩

/-- The duration of so many nanoseconds, cut to the bound. -/
def ofNanos (n : Nat) : Duration :=
  ⟨n % (UInt64.size * 1000000000), Nat.mod_lt _ (by decide)⟩

/-- The duration of seconds and nanoseconds. -/
def ofParts (secs nanos : Nat) : Duration :=
  ofNanos (secs * 1000000000 + nanos)

/-- The whole seconds. -/
def secs (d : Duration) : Nat := d.nanos / 1000000000

/-- The nanoseconds beyond the whole seconds. -/
def subsec (d : Duration) : Nat := d.nanos % 1000000000

/-- The whole microseconds. -/
def micros (d : Duration) : Nat := d.nanos / 1000

/-- The sum, unless it exceeds the bound. -/
def add? (d e : Duration) : Option Duration :=
  if h : d.nanos + e.nanos < UInt64.size * 1000000000 then some ⟨d.nanos + e.nanos, h⟩ else none

theorem nanos_inj {d e : Duration} : d.nanos = e.nanos ↔ d = e := by
  cases d
  cases e
  simp

/-- A count within the bound is not cut. -/
theorem nanos_ofNanos {n : Nat} (h : n < UInt64.size * 1000000000) : (ofNanos n).nanos = n :=
  Nat.mod_eq_of_lt h

/-- A sum is exact, if there is one. -/
theorem add?_eq_some_iff {d e s : Duration} : d.add? e = some s ↔ s.nanos = d.nanos + e.nanos := by
  unfold add?
  split
  · rw [Option.some.injEq, eq_comm, ← nanos_inj]
  · have := s.bounded
    simp only [reduceCtorEq, false_iff]
    omega

/-- A count and a fraction of `digits` places, without the zeros at its end. -/
def decimal (whole fraction digits : Nat) : List Char :=
  let ds := Nat.toDigits 10 fraction
  let padded := List.replicate (digits - ds.length) '0' ++ ds
  let trimmed := (padded.reverse.dropWhile (· = '0')).reverse
  Nat.toDigits 10 whole ++ if trimmed = [] then [] else '.' :: trimmed

/-- The diagnostic text uses the largest of four units that is not larger than the duration. -/
def diagnostic (d : Duration) : String :=
  String.ofList <|
    if 1000000000 ≤ d.nanos then decimal d.secs d.subsec 9 ++ ['s']
    else if 1000000 ≤ d.nanos then
      decimal (d.nanos / 1000000) (d.nanos % 1000000) 6 ++ ['m', 's']
    else if 1000 ≤ d.nanos then decimal (d.nanos / 1000) (d.nanos % 1000) 3 ++ ['µ', 's']
    else decimal d.nanos 0 0 ++ ['n', 's']

end Duration

end SealedSession
