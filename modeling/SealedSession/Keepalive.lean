import SealedSession.Duration
import SealedSession.Identity

/-! # Keepalive probes

A monitor probes at a fixed interval while it runs. The first probe is due one interval after
the start, plus a delay drawn below the configured jitter; each later probe is due one interval
after the one before. A monitor that finds itself late probes once and skips what it missed: the
next probe is due at the first multiple of the interval, counted from the first probe, that lies
in the future.

Starting discards whatever schedule there was. The number of probes is counted over all starts, in
64 bits.

## Main definitions

* `KeepaliveConfig.validated`, `KeepaliveConfig.firstDelay?`: the settings that are used.
* `Keepalive.later?`: the instants that the clock can tell.
* `Keepalive.start?`, `Keepalive.stop`: the schedule.
* `Keepalive.pass`: time passes and every due probe is made in its turn.
* `Keepalive.stall`: time jumps and a due probe is made late.

Time is counted in nanoseconds.
-/

namespace SealedSession

/-- The settings of a monitor. -/
structure KeepaliveConfig where
  interval : Duration := .ofParts 10 0
  /-- The first probe is delayed by less than this. -/
  jitter : Duration := .zero
deriving DecidableEq, Repr, Inhabited

namespace KeepaliveConfig

/-- The shortest interval. -/
def leastInterval : Duration := .ofParts 0 100000000

/-- Settings without jitter. -/
def withInterval (interval : Duration) : KeepaliveConfig := ⟨interval, .zero⟩

/-- Raises an interval that is too short. -/
def validated (c : KeepaliveConfig) : KeepaliveConfig :=
  if c.interval.nanos < leastInterval.nanos then { c with interval := leastInterval } else c

/-- The jitter in whole microseconds, cut to 64 bits. -/
def jitterMicros (c : KeepaliveConfig) : Nat :=
  c.jitter.micros % UInt64.size

/-- The delay of the first probe for a draw below `jitterMicros`, which is not looked at when
that is zero. There is none when the sum exceeds every duration. -/
def firstDelay? (c : KeepaliveConfig) (draw : Nat) : Option Duration :=
  if c.jitterMicros = 0 then some c.interval
  else c.interval.add? (.ofNanos (draw * 1000))

theorem le_interval_validated (c : KeepaliveConfig) :
    leastInterval.nanos ≤ c.validated.interval.nanos := by
  unfold validated
  split <;> simp_all

@[simp] theorem jitter_validated (c : KeepaliveConfig) : c.validated.jitter = c.jitter := by
  unfold validated
  split <;> rfl

end KeepaliveConfig

namespace Keepalive

/-- When the next probe is due, and whom it names. -/
structure Schedule where
  identity : Option Identity
  due : Nat
deriving DecidableEq, Repr

end Keepalive

/-- A monitor. -/
structure Keepalive where
  config : KeepaliveConfig
  schedule : Option Keepalive.Schedule := none
  /-- The number of probes over all starts. -/
  sent : UInt64 := 0
deriving DecidableEq, Repr

namespace Keepalive

/-- A monitor at rest, with settings that are safe to use. -/
def ofConfig (c : KeepaliveConfig) : Keepalive := { config := c.validated }

/-- The interval in use. -/
def interval (k : Keepalive) : Nat := k.config.interval.nanos

/-- Whether probes are being made. -/
def isRunning (k : Keepalive) : Bool := k.schedule.isSome

/-- Ends the schedule. -/
def stop (k : Keepalive) : Keepalive := { k with schedule := none }

/-- The first instant beyond the clock, which counts whole seconds in 63 bits. -/
def horizon : Nat := 0x8000000000000000 * 1000000000

/-- The instant so much later than `now`, unless it is beyond the clock. -/
def later? (now span : Nat) : Option Nat :=
  if now + span < horizon then some (now + span) else none

/-- Begins a fresh schedule. There is none when the clock cannot tell the instant of the first
probe. -/
def start? (k : Keepalive) (now draw : Nat) (identity : Option Identity) : Option Keepalive :=
  ((k.config.firstDelay? draw).bind (later? now ·.nanos)).map fun due =>
    { k with schedule := some ⟨identity, due⟩ }

/-- How many probes are due up to and including `limit`, the first being due at `due`. -/
def dueCount (interval due limit : Nat) : Nat :=
  if limit < due then 0 else (limit - due) / interval + 1

/-- Time passes until `limit`; each probe is made at the instant at which it is due. -/
def pass (k : Keepalive) (limit : Nat) : Keepalive × List (Nat × Option Identity) :=
  match k.schedule with
  | none => (k, [])
  | some s =>
    let n := dueCount k.interval s.due limit
    ({ k with schedule := some { s with due := s.due + n * k.interval },
              sent := k.sent + .ofNat n },
      (List.range n).map fun j => (s.due + j * k.interval, s.identity))

/-- The first multiple of the interval, counted from `due`, after `now`. -/
def nextDue (interval due now : Nat) : Nat :=
  now + interval - (now - due) % interval

/-- Time jumps to `now`; a probe that is due by then is made once. -/
def stall (k : Keepalive) (now : Nat) : Keepalive × List (Option Identity) :=
  match k.schedule with
  | none => (k, [])
  | some s =>
    if now < s.due then (k, [])
    else
      ({ k with schedule := some { s with due := nextDue k.interval s.due now },
                sent := k.sent + 1 }, [s.identity])

@[simp] theorem isRunning_stop (k : Keepalive) : k.stop.isRunning = false := rfl

@[simp] theorem sent_stop (k : Keepalive) : k.stop.sent = k.sent := rfl

end Keepalive

end SealedSession
