import JobConsole.Json.Decode
import JobConsole.Json.Printer
import JobConsole.Retention.Expression
import JobConsole.Time.Instant

/-!
# Retention policies

A server says how long it keeps jobs in a final state, either as a number of
seconds or as a duration expression.  A setting of no positive length disables
the automatic transition; any other one makes it happen that long after the
last change of state, if the calendar reaches that far.

A countdown relates the instant of the transition to the present.
-/

namespace JobConsole.Retention

open JobConsole.Number JobConsole.Time

/-- A retention setting as a server reports it. -/
inductive Setting where
  | seconds (count : Int)
  | text (expression : String)
deriving DecidableEq

namespace Setting

/-- Decodes a setting: an integer counts seconds, the fraction of any other
number is cut off, a string is kept. -/
def decode? : Json.Raw → Option Setting
  | .number numeral =>
      numeral.number?.map fun
        | .whole i => .seconds (saturate64 i)
        | .real x => .seconds (saturate64 x.truncate)
  | .string content => content.map .text
  | _ => none

/-- A setting as a value. -/
def encode : Setting → Json.Value
  | .seconds count => .whole count
  | .text expression => .string expression

end Setting

/-- What a setting means. -/
inductive Policy where
  | disabled
  | activeFor (span : Span)
deriving DecidableEq

namespace Policy

/-- The policy of a span of milliseconds. -/
def ofMillis (millis : Int) : Policy :=
  if millis ≤ 0 then .disabled else .activeFor (Span.ofMillis millis)

/-- The policy of a number of seconds; one that is too large is the greatest
span. -/
def ofSeconds (count : Int) : Policy :=
  ofMillis (min (count * 1000) Span.greatestMillis)

/-- The policy of a setting. -/
def parse : Setting → Except ParseError Policy
  | .seconds count => .ok (ofSeconds count)
  | .text expression => (parseMillis expression).map ofMillis

/-- Whether there is no automatic transition. -/
def isDisabled : Policy → Bool
  | .disabled => true
  | .activeFor _ => false

/-- The instant of the transition after the last change of state, unless there
is none or it lies beyond the calendar. -/
def transitionInstant? (policy : Policy) (last : Instant) : Option Instant :=
  match policy with
  | .disabled => none
  | .activeFor span => last.add? span

/-- A setting of seconds disables the transition exactly when it is not
positive. -/
theorem ofSeconds_eq_disabled_iff {count : Int} : ofSeconds count = .disabled ↔ count ≤ 0 := by
  unfold ofSeconds ofMillis
  have positive : (0 : Int) < Span.greatestMillis := by decide
  split
  · rename_i small
    have : count * 1000 ≤ 0 := by omega
    simp only [true_iff]
    omega
  · rename_i large
    simp only [reduceCtorEq, false_iff]
    omega

end Policy

/-- How the present relates to the instant of a transition. -/
inductive Countdown where
  | pending (remaining : Span)
  | reached (ago : Span)
deriving DecidableEq

namespace Countdown

/-- The countdown to an instant. -/
def between (target now : Instant) : Countdown :=
  if now.isBefore target then .pending (target.since now) else .reached (now.since target)

/-- Whether the instant lies ahead. -/
def isPending : Countdown → Bool
  | .pending _ => true
  | .reached _ => false

/-- A countdown is pending exactly when the present is before its instant. -/
@[simp]
theorem isPending_between (target now : Instant) :
    (between target now).isPending = now.isBefore target := by
  unfold between
  cases now.isBefore target <;> rfl

end Countdown

end JobConsole.Retention
