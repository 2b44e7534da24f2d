import Mathlib.Algebra.Group.Nat.Defs
import Mathlib.Data.List.Induction
import Mathlib.Data.List.TakeDrop
import JobConsole.Text.Decimal

/-!
# Runs of digits

A run of digits is cut off a text whole when what follows it is no digit.  Written
numbers are such runs, and they are never empty.  A run has the value of its places.
-/

namespace JobConsole.Text

/-- Digits are cut off a text whole. -/
theorem span_isDigit_append {run rest : List Char} (areDigits : ∀ c ∈ run, isDigit c = true)
    (stops : ∀ c ∈ rest.head?, isDigit c = false) :
    (run ++ rest).span isDigit = (run, rest) := by
  have nothing : rest.takeWhile isDigit = [] ∧ rest.dropWhile isDigit = rest := by
    cases rest with
    | nil => exact ⟨rfl, rfl⟩
    | cons c rest => simp [stops c rfl]
  rw [List.span_eq_takeWhile_dropWhile, List.takeWhile_append_of_pos areDigits,
    List.dropWhile_append_of_pos areDigits, nothing.1, nothing.2, List.append_nil]

theorem digits_eq_digit_cons (n : Nat) :
    ∃ first rest, digits n = first :: rest ∧ isDigit first = true := by
  obtain ⟨first, rest, shown⟩ := List.exists_cons_of_ne_nil (digits_ne_nil n)
  exact ⟨first, rest, shown, isDigit_of_mem_digits (shown ▸ List.mem_cons_self)⟩

/-- A number that is not too large is filled up to exactly the width. -/
theorem length_paddedDigits {width n : Nat} (positive : 0 < width) (small : n < 10 ^ width) :
    (paddedDigits width n).length = width := by
  have bound : (digits n).length ≤ width :=
    (Nat.length_toDigits_le_iff (by decide) positive).2 small
  simp only [paddedDigits, List.length_append, List.length_replicate]
  omega

theorem isDigit_of_mem_paddedDigits {width n : Nat} {c : Char}
    (member : c ∈ paddedDigits width n) : isDigit c = true := by
  rcases List.mem_append.mp member with zero | digit
  · rw [List.eq_of_mem_replicate zero]
    rfl
  · exact isDigit_of_mem_digits digit

theorem paddedDigits_ne_nil (width n : Nat) : paddedDigits width n ≠ [] :=
  List.append_ne_nil_of_right_ne_nil _ (digits_ne_nil n)

theorem paddedDigits_eq_digit_cons (width n : Nat) :
    ∃ first rest, paddedDigits width n = first :: rest ∧ isDigit first = true := by
  obtain ⟨first, rest, shown⟩ := List.exists_cons_of_ne_nil (paddedDigits_ne_nil width n)
  exact ⟨first, rest, shown, isDigit_of_mem_paddedDigits (shown ▸ List.mem_cons_self)⟩

/-! ## Places -/

theorem digitValue_lt {c : Char} (digit : isDigit c = true) : digitValue c < 10 := by
  have bounds : 48 ≤ c.toNat ∧ c.toNat ≤ 57 := by
    simpa [isDigit, Char.isDigit, UInt32.le_iff_toNat_le] using digit
  have zero : '0'.toNat = 48 := rfl
  unfold digitValue
  omega

/-- Digits move those in front of them by as many places as they are. -/
theorem readDigits_append (left right : List Char) :
    readDigits (left ++ right) = readDigits left * 10 ^ right.length + readDigits right := by
  induction right using List.reverseRecOn with
  | nil => simp [readDigits, readDigitsFrom]
  | append_singleton right c ih =>
      rw [← List.append_assoc, readDigits_append_singleton, ih, readDigits_append_singleton,
        List.length_append, List.length_singleton, Nat.pow_succ, ← Nat.mul_assoc]
      omega

theorem readDigits_lt {run : List Char} (areDigits : ∀ c ∈ run, isDigit c = true) :
    readDigits run < 10 ^ run.length := by
  induction run using List.reverseRecOn with
  | nil => simp [readDigits, readDigitsFrom]
  | append_singleton run c ih =>
      have before := ih fun d member => areDigits d (List.mem_append_left _ member)
      have last := digitValue_lt (areDigits c (by simp))
      rw [readDigits_append_singleton, List.length_append, List.length_singleton, Nat.pow_succ]
      omega

theorem readDigits_replicate_zero (count : Nat) : readDigits (List.replicate count '0') = 0 := by
  induction count with
  | zero => rfl
  | succ count ih =>
      rw [List.replicate_succ', readDigits_append_singleton, ih]
      rfl

end JobConsole.Text
