/-!
# Decimal digits

Numbers are written with the ten ASCII digits and no others.  The writer gives
the shortest form, the reader takes any number of leading zeros, and reading a
written number gives the number back.
-/

namespace JobConsole.Text

/-- Whether a character is one of the ten ASCII digits. -/
def isDigit (c : Char) : Bool :=
  c.isDigit

/-- The value of a digit. -/
def digitValue (c : Char) : Nat :=
  c.toNat - '0'.toNat

/-- The number that a run of digits continues to, from the number read so
far. -/
def readDigitsFrom (value : Nat) (digits : List Char) : Nat :=
  digits.foldl (fun value c => 10 * value + digitValue c) value

/-- The number that a run of digits stands for; the empty run stands for
zero. -/
def readDigits (digits : List Char) : Nat :=
  readDigitsFrom 0 digits

/-- The shortest run of digits for a number. -/
def digits (n : Nat) : List Char :=
  Nat.toDigits 10 n

/-- The digits of a number, filled up with zeros on the left to a width. -/
def paddedDigits (width n : Nat) : List Char :=
  let shortest := digits n
  List.replicate (width - shortest.length) '0' ++ shortest

/-- The digits of an integer, with a minus sign in front of a negative one. -/
def intDigits (i : Int) : List Char :=
  if i < 0 then '-' :: digits i.natAbs else digits i.natAbs

/-- A natural number as a text. -/
def natText (n : Nat) : String :=
  String.ofList (digits n)

/-- An integer as a text. -/
def intText (i : Int) : String :=
  String.ofList (intDigits i)

/-- The value of the digit that stands for a number below ten. -/
theorem digitValue_digitChar {d : Nat} (small : d < 10) : digitValue d.digitChar = d := by
  have cases : d = 0 ∨ d = 1 ∨ d = 2 ∨ d = 3 ∨ d = 4 ∨ d = 5 ∨ d = 6 ∨ d = 7 ∨ d = 8 ∨ d = 9 := by
    omega
  rcases cases with rfl | rfl | rfl | rfl | rfl | rfl | rfl | rfl | rfl | rfl <;> rfl

theorem readDigitsFrom_append (value : Nat) (left right : List Char) :
    readDigitsFrom value (left ++ right) = readDigitsFrom (readDigitsFrom value left) right := by
  simp [readDigitsFrom, List.foldl_append]

theorem readDigits_append_singleton (left : List Char) (c : Char) :
    readDigits (left ++ [c]) = 10 * readDigits left + digitValue c := by
  simp [readDigits, readDigitsFrom, List.foldl_append]

theorem digits_of_lt {n : Nat} (small : n < 10) : digits n = [n.digitChar] :=
  Nat.toDigits_of_lt_base small

/-- The last digit of a number stands behind the digits of its tenth. -/
theorem digits_of_le {n : Nat} (large : 10 ≤ n) :
    digits n = digits (n / 10) ++ [(n % 10).digitChar] :=
  Nat.toDigits_of_base_le (by decide) large

/-- Reading the written form of a number gives the number back. -/
@[simp]
theorem readDigits_digits (n : Nat) : readDigits (digits n) = n := by
  induction n using Nat.strongRecOn with
  | _ n ih =>
      by_cases small : n < 10
      · simp [digits_of_lt small, readDigits, readDigitsFrom, digitValue_digitChar small]
      · rw [digits_of_le (by omega), readDigits_append_singleton, ih (n / 10) (by omega),
          digitValue_digitChar (Nat.mod_lt n (by decide))]
        omega

/-- A positive number is written without leading zeros. -/
theorem digits_eq_cons {n : Nat} (positive : 0 < n) :
    ∃ first rest, digits n = first :: rest ∧ first ≠ '0' := by
  induction n using Nat.strongRecOn with
  | _ n ih =>
      by_cases small : n < 10
      · have nonzero : ∀ d < 10, 0 < d → d.digitChar ≠ '0' := by decide
        exact ⟨n.digitChar, [], digits_of_lt small, nonzero n small positive⟩
      · obtain ⟨first, rest, shown, nonzero⟩ := ih (n / 10) (by omega) (by omega)
        exact ⟨first, rest ++ [(n % 10).digitChar],
          by rw [digits_of_le (by omega), shown, List.cons_append], nonzero⟩

/-- Every character of a written number is a digit. -/
theorem isDigit_of_mem_digits {n : Nat} {c : Char} (member : c ∈ digits n) :
    isDigit c = true :=
  Nat.isDigit_of_mem_toDigits (by decide) (by decide) member

/-- A written number has at least one digit. -/
theorem digits_ne_nil (n : Nat) : digits n ≠ [] := by
  simp [digits]

/-- Leading zeros do not change the number that is read. -/
@[simp]
theorem readDigits_paddedDigits (width n : Nat) : readDigits (paddedDigits width n) = n := by
  have zeros : ∀ count : Nat, readDigits (List.replicate count '0') = 0 := by
    intro count
    induction count with
    | zero => rfl
    | succ count ih =>
        rw [List.replicate_succ', readDigits_append_singleton, ih]
        rfl
  unfold paddedDigits readDigits
  rw [readDigitsFrom_append]
  have start := zeros (width - (digits n).length)
  unfold readDigits at start
  rw [start]
  exact readDigits_digits n

end JobConsole.Text
