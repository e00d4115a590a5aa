/-!
# Enrolment.Duration

Spans of time in whole seconds and nanoseconds, at most `2^64 - 1` seconds and 999 999 999
nanoseconds. Multiplying by a count stops at the longest span; adding two spans may have no answer.
-/

namespace Enrolment

structure Duration where
  secs : Nat
  nanos : Nat
  deriving DecidableEq, Repr

namespace Duration

def nanosPerSec : Nat := 1000000000

/-- The least number of seconds that is too long. -/
def secsBound : Nat := 0x10000000000000000

def ofSecs (n : Nat) : Duration := ⟨n, 0⟩

def ofMillis (n : Nat) : Duration := ⟨n / 1000, n % 1000 * 1000000⟩

def longest : Duration := ⟨secsBound - 1, nanosPerSec - 1⟩

def toNanos (d : Duration) : Nat := d.secs * nanosPerSec + d.nanos

def ofNanos (n : Nat) : Duration := ⟨n / nanosPerSec, n % nanosPerSec⟩

def toMillis (d : Duration) : Nat := d.toNanos / 1000000

/-- `n` times the span, or the longest span if that is shorter. -/
def saturatingMul (d : Duration) (n : Nat) : Duration :=
  let product := ofNanos (d.toNanos * n)
  if product.secs < secsBound then product else longest

/-- The sum, unless it is longer than the longest span. -/
def add? (a b : Duration) : Option Duration :=
  let sum := ofNanos (a.toNanos + b.toNanos)
  if sum.secs < secsBound then some sum else none

/-- The least whole number of seconds that is not shorter than the span, and at least one. -/
def wholeSeconds (d : Duration) : Nat := max 1 (d.secs + if 0 < d.nanos then 1 else 0)

theorem toNanos_ofNanos (n : Nat) : (ofNanos n).toNanos = n := by
  simp only [toNanos, ofNanos]
  exact Nat.div_add_mod' n nanosPerSec

end Duration

end Enrolment
