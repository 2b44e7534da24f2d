import JobConsole.Text.Decimal
import JobConsole.Time.Span

/-!
# Spans for people

A span is shown by its two most significant units, days, hours, minutes or
seconds.  The first unit is the largest one that is not zero; the one below it
is shown only if it is not zero either.  A span below a second, or a negative
one, is shown as zero seconds.
-/

namespace JobConsole.Time.Span

open JobConsole.Text

/-- A number of units of one size. -/
structure Amount where
  count : Nat
  unit : Char
deriving DecidableEq

/-- The days, hours, minutes and seconds of a number of seconds. -/
def amounts (seconds : Nat) : List Amount :=
  [⟨seconds / 86400, 'd'⟩, ⟨seconds % 86400 / 3600, 'h'⟩, ⟨seconds % 3600 / 60, 'm'⟩,
    ⟨seconds % 60, 's'⟩]

/-- The amounts that are shown. -/
def shownAmounts (seconds : Nat) : List Amount :=
  (((amounts seconds).dropWhile fun amount => amount.count == 0).take 2).filter fun amount =>
    amount.count != 0

/-- The text of an amount. -/
def Amount.text (amount : Amount) : String :=
  natText amount.count ++ String.singleton amount.unit

/-- The text of a span for people. -/
def humanized (span : Span) : String :=
  match shownAmounts span.seconds.toNat with
  | [] => "0s"
  | shown => String.intercalate " " (shown.map Amount.text)

/-- At most two amounts are shown. -/
theorem length_shownAmounts_le (seconds : Nat) : (shownAmounts seconds).length ≤ 2 := by
  unfold shownAmounts
  exact Nat.le_trans (List.length_filter_le _ _) (List.length_take_le _ _)

/-- No amount that is shown is zero. -/
theorem count_ne_zero_of_mem_shownAmounts {seconds : Nat} {amount : Amount}
    (member : amount ∈ shownAmounts seconds) : amount.count ≠ 0 := by
  unfold shownAmounts at member
  simpa using (List.mem_filter.mp member).2

end JobConsole.Time.Span
