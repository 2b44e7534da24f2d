/-!
# Punycode

A text is written with ASCII characters alone: its ASCII characters, a hyphen if there
are any, and numbers that say which other characters stand where.  A number is written
in digits of base thirty-six, the lowest first.  A digit below the threshold of its
place ends the number; the thresholds depend on the numbers before.

The numbers count steps.  A step goes to the next place in the text, and from its end
to its start, with the next character in hand; each number says how many steps to take
before the character in hand is put down.

`readNumber_writeNumber` says that a written number is read back.
-/

namespace JobConsole.Text.Punycode

/-- The number of digits. -/
def base : Nat := 36

/-- The digit for a number below the base. -/
def digit (n : Nat) : Char :=
  if n < 26 then Char.ofNat ('a'.toNat + n) else Char.ofNat ('0'.toNat + (n - 26))

/-- The number that a digit stands for. -/
def digitValue? (c : Char) : Option Nat :=
  if 'a' ≤ c ∧ c ≤ 'z' then some (c.toNat - 'a'.toNat)
  else if 'A' ≤ c ∧ c ≤ 'Z' then some (c.toNat - 'A'.toNat)
  else if '0' ≤ c ∧ c ≤ '9' then some (c.toNat - '0'.toNat + 26)
  else none

/-- The threshold of a place; places are counted in steps of the base. -/
def threshold (bias place : Nat) : Nat :=
  max 1 (min 26 (place - bias))

/-- The bias for a typical number of the given size, when the place counted so far is
the given one. -/
def biasFrom (place size : Nat) : Nat :=
  if 455 < size then biasFrom (place + base) (size / 35) else place + base * size / (size + 38)
termination_by size
decreasing_by omega

/-- The bias before the first number. -/
def firstBias : Nat := 72

/-- The bias behind a number, when the text has the given length. -/
def nextBias (isFirst : Bool) (length number : Nat) : Nat :=
  let size := if isFirst then number / 700 else number / 2
  biasFrom 0 (size + size / length)

theorem one_le_threshold (bias place : Nat) : 1 ≤ threshold bias place :=
  Nat.le_max_left _ _

theorem threshold_le (bias place : Nat) : threshold bias place ≤ 26 := by
  unfold threshold
  omega

/-- What is left of a number behind a digit is smaller. -/
theorem rest_lt {bias place number : Nat} (more : threshold bias place ≤ number) :
    (number - threshold bias place) / (base - threshold bias place) < number := by
  have low := one_le_threshold bias place
  have shrunk := Nat.div_le_self (number - threshold bias place) (base - threshold bias place)
  omega

/-- The digits of a number from a place on. -/
def writeNumber (bias place number : Nat) : List Char :=
  let least := threshold bias place
  if _ : number < least then [digit number]
  else
    digit (least + (number - least) % (base - least)) ::
      writeNumber bias (place + base) ((number - least) / (base - least))
termination_by number
decreasing_by exact rest_lt (Nat.le_of_not_lt ‹_›)

/-- Reads digits from a place on and adds them, each with its weight, to a number.
Numbers and weights of more than four bytes are refused. -/
def readNumber (bias place weight number : Nat) : List Char → Option (Nat × List Char)
  | [] => none
  | c :: rest =>
      match digitValue? c with
      | none => none
      | some value =>
          let least := threshold bias place
          let number := number + value * weight
          if UInt32.size ≤ number then none
          else if value < least then some (number, rest)
          else if UInt32.size ≤ weight * (base - least) then none
          else readNumber bias (place + base) (weight * (base - least)) number rest

theorem digitValue?_digit {n : Nat} (small : n < base) : digitValue? (digit n) = some n := by
  have all : ∀ m < base, digitValue? (digit m) = some m := by decide
  exact all n small

/-- A number is its lowest digit and the rest of it, with the weight of the next
place. -/
theorem digit_add_rest {least number : Nat} (more : least ≤ number) :
    least + (number - least) % (base - least) +
      (base - least) * ((number - least) / (base - least)) = number := by
  have division := Nat.mod_add_div (number - least) (base - least)
  omega

/-- A written number that is not too great is read back. -/
theorem readNumber_writeNumber {bias place weight start number : Nat} (rest : List Char)
    (small : start + base * weight * number < UInt32.size) :
    readNumber bias place weight start (writeNumber bias place number ++ rest) =
      some (start + weight * number, rest) := by
  induction number using Nat.strongRecOn generalizing place weight start with
  | _ number ih =>
      have least := one_le_threshold bias place
      have most := threshold_le bias place
      have fits : start + weight * number < UInt32.size := by
        refine Nat.lt_of_le_of_lt (Nat.add_le_add_left ?_ start) small
        exact Nat.mul_le_mul_right number (Nat.le_mul_of_pos_left weight (by decide))
      unfold writeNumber
      by_cases last : number < threshold bias place
      · have value : digitValue? (digit number) = some number :=
          digitValue?_digit (Nat.lt_of_lt_of_le last (Nat.le_trans most (by decide)))
        rw [dif_pos last, List.singleton_append, readNumber, value]
        simp only [if_pos last]
        rw [Nat.mul_comm number weight, if_neg (Nat.not_le.mpr fits)]
      · have more := Nat.le_of_not_lt last
        have whole := digit_add_rest more
        have smaller := rest_lt more
        have below : threshold bias place +
            (number - threshold bias place) % (base - threshold bias place) < base := by
          have bounded : (number - threshold bias place) % (base - threshold bias place) <
              base - threshold bias place := Nat.mod_lt _ (by unfold base; omega)
          omega
        rw [dif_neg last, List.cons_append, readNumber, digitValue?_digit below]
        generalize next_eq : (number - threshold bias place) / (base - threshold bias place) = next
          at whole smaller ⊢
        generalize value_eq : threshold bias place +
          (number - threshold bias place) % (base - threshold bias place) = value at whole ⊢
        have front : weight * value + weight * (base - threshold bias place) * next =
            weight * number := by
          rw [← whole, Nat.mul_add, Nat.mul_assoc]
        have scaled : base * weight * value +
            base * (weight * (base - threshold bias place)) * next = base * weight * number := by
          rw [← whole, Nat.mul_add, ← Nat.mul_assoc base weight, Nat.mul_assoc (base * weight)]
        have light : value * weight ≤ base * weight * value := by
          rw [Nat.mul_comm value weight]
          exact Nat.mul_le_mul_right value (Nat.le_mul_of_pos_left weight (by decide))
        have weighted : weight * (base - threshold bias place) ≤ base * weight * number := by
          rw [Nat.mul_comm base weight]
          refine Nat.le_trans (Nat.mul_le_mul_left weight (Nat.sub_le base _)) ?_
          exact Nat.le_mul_of_pos_right (weight * base) (by omega)
        simp only
        rw [if_neg (by omega), if_neg (by omega), if_neg (by omega), ih next smaller (by omega)]
        rw [Nat.mul_comm value weight]
        exact congrArg (fun total => some (total, rest)) (by omega)

/-- What is behind a number is shorter than the text. -/
theorem length_of_readNumber {bias place weight start number : Nat} {text rest : List Char}
    (found : readNumber bias place weight start text = some (number, rest)) :
    rest.length < text.length := by
  induction text generalizing place weight start with
  | nil => simp [readNumber] at found
  | cons c more ih =>
      unfold readNumber at found
      split at found
      · contradiction
      · dsimp only at found
        split at found
        · contradiction
        · split at found
          · cases found
            exact Nat.lt_succ_self _
          · split at found
            · contradiction
            · exact Nat.lt_succ_of_lt (ih found)

/-- Where the writing of a text has arrived: the bias, the steps since the last
number, and the number of characters put down. -/
structure Progress where
  bias : Nat
  steps : Nat
  count : Nat

/-- Walks over a text with a character in hand, and writes a number at each place where
that character stands.  Places of greater characters do not count yet. -/
def writePlaces (basic inHand : Nat) (progress : Progress) : List Char → List Char × Progress
  | [] => ([], progress)
  | c :: rest =>
      if c.toNat < inHand then
        writePlaces basic inHand { progress with steps := progress.steps + 1 } rest
      else if c.toNat = inHand then
        let bias := nextBias (progress.count == basic) (progress.count + 1) progress.steps
        let (digits, last) := writePlaces basic inHand ⟨bias, 0, progress.count + 1⟩ rest
        (writeNumber progress.bias base progress.steps ++ digits, last)
      else writePlaces basic inHand progress rest

/-- Writes the numbers for the characters with the given code points, in ascending
order, when the given one is in hand. -/
def writeAll (text : List Char) (basic inHand : Nat) (progress : Progress) :
    List Nat → List Char
  | [] => []
  | next :: more =>
      let steps := progress.steps + (next - inHand) * (progress.count + 1)
      let (digits, last) := writePlaces basic next { progress with steps := steps } text
      digits ++ writeAll text basic (next + 1) { last with steps := last.steps + 1 } more

/-- The first code point beyond the ASCII range. -/
def firstBeyond : Nat := 0x80

/-- Whether a character is one of the ASCII range. -/
def isBasic (c : Char) : Bool :=
  c.toNat < firstBeyond

/-- The code points beyond the ASCII range in a text, in ascending order and each of
them once. -/
def codePointsBeyond (text : List Char) : List Nat :=
  (((text.filter fun c => !isBasic c).map Char.toNat).mergeSort).eraseDups

/-- The ASCII form of a text. -/
def encode (text : List Char) : List Char :=
  let basic := text.filter isBasic
  (if basic.isEmpty then [] else basic ++ ['-']) ++
    writeAll text basic.length firstBeyond ⟨firstBias, 0, basic.length⟩ (codePointsBeyond text)

/-- The character with a code point, if there is one. -/
def charOf? (codePoint : Nat) : Option Char :=
  if (Char.ofNat codePoint).toNat = codePoint then some (Char.ofNat codePoint) else none

/-- Puts characters into a text as the numbers say, when the given character is in hand
at the given place. -/
def putDown? (bias inHand place : Nat) (found : List Char) (text : List Char) :
    Option (List Char) :=
  if text.isEmpty then some found
  else
    match _ : readNumber bias base 1 place text with
    | none => none
    | some (steps, rest) =>
        let length := found.length + 1
        let next := inHand + steps / length
        match charOf? next with
        | none => none
        | some c =>
            putDown? (nextBias (place == 0) length (steps - place)) next (steps % length + 1)
              (found.insertIdx (steps % length) c) rest
termination_by text.length
decreasing_by exact length_of_readNumber ‹_›

/-- Splits a text at its last hyphen, unless that is the first character. -/
def splitBasic (text : List Char) : List Char × List Char :=
  match text.reverse.span (· != '-') with
  | (behind, _ :: before) =>
      if before.isEmpty then ([], text) else (before.reverse, behind.reverse)
  | (_, []) => ([], text)

/-- The text with an ASCII form. -/
def decode? (text : List Char) : Option (List Char) :=
  let (basic, numbers) := splitBasic text
  if basic.all isBasic then putDown? firstBias firstBeyond 0 basic numbers else none

end JobConsole.Text.Punycode
