import AgentDelegation.Decimal.Shortest

/-!
# Durations

Timeouts are whole seconds in settings and may be any number of nanoseconds elsewhere. A message shows a
duration as a number of seconds: the double nearest to it, in the fewest digits and without an exponent.
-/

namespace AgentDelegation

open Decimal

/-- Whole seconds, and nanoseconds short of one second. -/
structure Duration where
  seconds : Nat
  nanos : Nat
deriving DecidableEq, Repr, Inhabited

namespace Duration

def ofSeconds (n : Nat) : Duration := ⟨n, 0⟩

def ofMillis (n : Nat) : Duration := ⟨n / 1000, n % 1000 * 1000000⟩

def millis (d : Duration) : Nat := d.seconds * 1000 + d.nanos / 1000000

def totalNanos (d : Duration) : Nat := d.seconds * 1000000000 + d.nanos

/-- The number of milliseconds that a wait of this length takes; clocks go by whole milliseconds, so a
started one counts. -/
def ticks (d : Duration) : Nat := if d.nanos % 1000000 = 0 then d.millis else d.millis + 1

/-- The number of seconds; seconds and nanoseconds are rounded apart and once more when added. -/
def toDouble (d : Duration) : Double :=
  .addMagnitudes (.ofNat d.seconds) (.div (.ofNat d.nanos) (.ofNat 1000000000))

def text (d : Duration) : String := d.toDouble.format .plain

@[simp] theorem millis_ofMillis (n : Nat) : (ofMillis n).millis = n := by
  simp only [ofMillis, millis]
  omega

@[simp] theorem millis_ofSeconds (n : Nat) : (ofSeconds n).millis = n * 1000 := by
  simp [ofSeconds, millis]

/-- A wait runs out at the first millisecond that is not short of its length. -/
theorem lt_ticks_iff (d : Duration) (clock : Nat) : clock < d.ticks ↔ clock * 1000000 < d.totalNanos := by
  simp only [ticks, millis, totalNanos]
  split <;> omega

theorem ticks_ne_zero {d : Duration} (h : 0 < d.totalNanos) : d.ticks ≠ 0 := by
  have := (d.lt_ticks_iff 0).mpr (by omega)
  omega

end Duration

end AgentDelegation
