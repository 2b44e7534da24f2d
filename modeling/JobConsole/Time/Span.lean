/-!
# Spans of time

A span is a signed number of nanoseconds.  Spans are shown as whole seconds and
the nanoseconds beyond them, both with the sign of the span.
-/

namespace JobConsole.Time

/-- A signed span of time. -/
structure Span where
  nanos : Int
deriving DecidableEq

namespace Span

/-- The number of nanoseconds in a second. -/
def nanosPerSecond : Nat := 1000000000

/-- The number of nanoseconds in a millisecond. -/
def nanosPerMilli : Nat := 1000000

/-- A span of milliseconds. -/
def ofMillis (millis : Int) : Span :=
  ⟨millis * nanosPerMilli⟩

/-- The whole seconds of a span, cut toward zero. -/
def seconds (span : Span) : Int :=
  span.nanos.tdiv nanosPerSecond

/-- The nanoseconds of a span beyond its whole seconds. -/
def subsecondNanos (span : Span) : Int :=
  span.nanos.tmod nanosPerSecond

/-- The whole seconds and the rest make up the span. -/
theorem seconds_mul_add_subsecondNanos (span : Span) :
    span.seconds * nanosPerSecond + span.subsecondNanos = span.nanos := by
  unfold seconds subsecondNanos
  rw [Int.mul_comm]
  exact Int.mul_tdiv_add_tmod _ _

/-- The greatest number of milliseconds that a retention span may have. -/
def greatestMillis : Int := 9223372036854775807

end Span

end JobConsole.Time
