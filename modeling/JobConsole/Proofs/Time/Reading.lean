import JobConsole.Proofs.Text.Digits
import JobConsole.Proofs.Time.Calendar
import JobConsole.Time.Json

/-!
# Reading written instants

The text of an instant is read as this instant.  The reader takes the parts in the order
in which the printer sets them, so each part is a lemma about any text that starts with
it.  A leap second is written as the second 60, which is read as second 59 with
nanoseconds that run on.
-/

namespace JobConsole.Time

open JobConsole.Text

theorem isBlank_of_isDigit {c : Char} (digit : isDigit c = true) : isBlank c = false := by
  simp only [isDigit, Char.isDigit, Bool.and_eq_true, decide_eq_true_eq] at digit
  have low : 48 ≤ c.toNat := digit.1
  have high : c.toNat ≤ 57 := digit.2
  cases blank : isBlank c with
  | false => rfl
  | true =>
      simp only [isBlank, Bool.or_eq_true, Bool.and_eq_true, decide_eq_true_eq, beq_iff_eq] at blank
      omega

theorem trimStart_cons {c : Char} (solid : isBlank c = false) (text : List Char) :
    trimStart (c :: text) = c :: text :=
  List.dropWhile_cons_of_neg (by simp [solid])

theorem trimStart_paddedDigits (width n : Nat) (rest : List Char) :
    trimStart (paddedDigits width n ++ rest) = paddedDigits width n ++ rest := by
  obtain ⟨first, others, shown, digit⟩ := paddedDigits_eq_digit_cons width n
  rw [shown, List.cons_append, trimStart_cons (isBlank_of_isDigit digit)]

namespace Instant

/-! ## Numbers -/

theorem readNumber?_append {width : Nat} {shown rest : List Char} (nonempty : shown ≠ [])
    (areDigits : ∀ c ∈ shown, isDigit c = true) (within : shown.length ≤ width)
    (stops : (rest.take (width - shown.length)).takeWhile isDigit = []) :
    readNumber? width (shown ++ rest) = some (readDigits shown, rest) := by
  have run : ((shown ++ rest).take width).takeWhile isDigit = shown := by
    rw [List.take_append, List.take_of_length_le within, List.takeWhile_append_of_pos areDigits,
      stops, List.append_nil]
  unfold readNumber?
  rw [run]
  split
  · next nothing => exact absurd rfl nonempty
  · rw [List.drop_left]

/-- A number that fills the width is read whatever follows. -/
theorem readNumber?_paddedDigits {width n : Nat} (positive : 0 < width) (small : n < 10 ^ width)
    (rest : List Char) :
    readNumber? width (paddedDigits width n ++ rest) = some (n, rest) := by
  have length := length_paddedDigits positive small
  rw [readNumber?_append (paddedDigits_ne_nil width n) (fun _ => isDigit_of_mem_paddedDigits)
    (Nat.le_of_eq length) (by rw [length, Nat.sub_self]; rfl), readDigits_paddedDigits]

theorem readPart?_paddedDigits {bound n : Nat} (within : n ≤ bound) (small : n < 100)
    (rest : List Char) : readPart? bound (paddedDigits 2 n ++ rest) = some (n, rest) := by
  rw [readPart?, trimStart_paddedDigits, readNumber?_paddedDigits (by decide) small]
  exact if_pos within

/-! ## Dates -/

/-- A year with a sign takes all digits behind it, one without a sign has four. -/
theorem readYear?_yearChars (year : Int) (rest : List Char) :
    readYear? (Date.yearChars year ++ '-' :: rest) = some (year, '-' :: rest) := by
  have signed : readNumber? (paddedDigits 4 year.natAbs ++ '-' :: rest).length
      (paddedDigits 4 year.natAbs ++ '-' :: rest) = some (year.natAbs, '-' :: rest) := by
    rw [readNumber?_append (paddedDigits_ne_nil _ _) (fun _ => isDigit_of_mem_paddedDigits)
      (by simp), readDigits_paddedDigits]
    rw [List.length_append, Nat.add_sub_cancel_left, List.take_length]
    rfl
  unfold Date.yearChars
  split
  · next four =>
      rw [readYear?, trimStart_paddedDigits]
      have read := readNumber?_paddedDigits (by decide) (show year.natAbs < 10 ^ 4 by omega)
        ('-' :: rest)
      obtain ⟨first, others, shown, digit⟩ := paddedDigits_eq_digit_cons 4 year.natAbs
      rw [shown, List.cons_append] at read ⊢
      split
      · next minus =>
          cases minus
          cases digit
      · next plus =>
          cases plus
          cases digit
      · rw [read]
        simp only [Option.map_some]
        congr 2
        omega
  · split
    · next negative =>
        rw [List.cons_append, readYear?, trimStart_cons rfl]
        simp only [signed, Option.map_some]
        congr 2
        omega
    · next positive =>
        rw [List.cons_append, readYear?, trimStart_cons rfl]
        simp only [signed, Option.map_some]
        congr 2
        omega

theorem readDate?_chars {date : Date} (isDate : date.exists? = true) (rest : List Char) :
    readDate? (date.chars ++ rest) = some (date, rest) := by
  obtain ⟨month_le, day_le⟩ := Date.bounds_of_exists? isDate
  unfold readDate? Date.chars
  simp only [List.append_assoc, List.cons_append]
  rw [readYear?_yearChars]
  simp only [Option.bind_eq_bind, Option.bind_some, trimStart_cons (c := '-') rfl, expect?, if_true]
  rw [readPart?_paddedDigits month_le (by omega)]
  simp only [Option.bind_some, trimStart_cons (c := '-') rfl, if_true]
  rw [readPart?_paddedDigits day_le (by omega)]
  rfl

/-! ## Times of day -/

/-- Digits of a fraction stand for nanoseconds by their places. -/
theorem fractionNanos_paddedDigits {width n : Nat} (positive : 0 < width) (short : width ≤ 9)
    (small : n < 10 ^ width) :
    fractionNanos (paddedDigits width n) = n * Nat.pow 10 (9 - width) := by
  have length := length_paddedDigits positive small
  have whole : (paddedDigits width n).take 9 = paddedDigits width n :=
    List.take_of_length_le (by omega)
  simp only [fractionNanos, whole, readDigits_paddedDigits, length]

theorem readFraction?_paddedDigits {width n : Nat} (positive : 0 < width) (short : width ≤ 9)
    (small : n < 10 ^ width) (zone : List Char) :
    readFraction? ('.' :: (paddedDigits width n ++ 'Z' :: zone)) =
      some (n * Nat.pow 10 (9 - width), 'Z' :: zone) := by
  have run : (paddedDigits width n ++ 'Z' :: zone).span isDigit =
      (paddedDigits width n, 'Z' :: zone) :=
    span_isDigit_append (fun _ => isDigit_of_mem_paddedDigits) (by rintro c ⟨⟩; rfl)
  simp only [readFraction?, run]
  split
  · next nothing => exact absurd (congrArg Prod.fst nothing) (paddedDigits_ne_nil _ _)
  · next same =>
      cases same
      rw [fractionNanos_paddedDigits positive short small]

/-- The shortest fraction that shows the nanoseconds is read as them. -/
theorem readFraction?_fractionChars {nano : Nat} (small : nano < Span.nanosPerSecond)
    (zone : List Char) :
    readFraction? (fractionChars nano ++ 'Z' :: zone) = some (nano, 'Z' :: zone) := by
  simp only [Span.nanosPerSecond] at small
  unfold fractionChars
  split
  · next zero =>
      rw [zero]
      rfl
  split
  · next millis =>
      rw [List.cons_append, readFraction?_paddedDigits (by decide) (by decide) (by omega)]
      congr 2
      show nano / 1000000 * 1000000 = nano
      omega
  split
  · next micros =>
      rw [List.cons_append, readFraction?_paddedDigits (by decide) (by decide) (by omega)]
      congr 2
      show nano / 1000 * 1000 = nano
      omega
  · rw [List.cons_append, readFraction?_paddedDigits (by decide) (by decide) (by omega)]
    congr 2
    exact Nat.mul_one nano

/-- A written time of day is read back, and so is a leap second. -/
theorem readClock?_clockChars (instant : Instant) (zone : List Char) :
    readClock? (instant.clockChars ++ 'Z' :: zone) =
      some ((instant.second, instant.nano), 'Z' :: zone) := by
  obtain ⟨day, second, nano, -, -, second_lt, nano_lt, leap⟩ := instant
  simp only [secondsPerDay, Span.nanosPerSecond] at second_lt nano_lt leap
  have isLeap : nano / 1000000000 = 0 ∨ nano / 1000000000 = 1 ∧ second % 60 = 59 := by omega
  unfold readClock? clockChars
  simp only [List.append_assoc, List.cons_append, Span.nanosPerSecond]
  rw [readPart?_paddedDigits (by omega) (by omega)]
  simp only [Option.bind_eq_bind, Option.bind_some, trimStart_cons (c := ':') rfl, expect?, if_true]
  rw [readPart?_paddedDigits (by omega) (by omega)]
  simp only [Option.bind_some, trimStart_cons (c := ':') rfl, if_true]
  rw [readPart?_paddedDigits (by omega) (by omega)]
  simp only [Option.bind_some]
  have small : nano % 1000000000 < Span.nanosPerSecond := Nat.mod_lt nano (by decide)
  rw [readFraction?_fractionChars small]
  simp only [Option.bind_some]
  split
  · next sixty => congr 3 <;> omega
  · next plain => congr 3 <;> omega

/-! ## Instants -/

/-- The date and the time of day of an instant lead back to it. -/
theorem ofLocal?_universal (instant : Instant) :
    ofLocal? (Date.ofNumber instant.day) instant.second instant.nano 0 = some instant := by
  obtain ⟨first, last, second_lt, -⟩ := instant.isInstant
  unfold ofLocal?
  simp only [Date.number_ofNumber, Date.exists?_ofNumber]
  rw [if_neg (by simp [first, last]), of?_eq_some_iff]
  have perDay : (secondsPerDay : Int) = 86400 := rfl
  simp only [secondsPerDay] at second_lt
  rw [perDay]
  omega

theorem read?_charsWith (instant : Instant) : read? (instant.charsWith ['Z']) = some instant := by
  unfold read? charsWith
  rw [List.append_assoc, readDate?_chars (Date.exists?_ofNumber _)]
  simp only [List.cons_append, Option.bind_eq_bind, Option.bind_some, readSeparator?]
  rw [readClock?_clockChars]
  exact ofLocal?_universal instant

theorem ofText?_text (instant : Instant) : ofText? instant.text = some instant := by
  rw [ofText?, text, String.toList_ofList, read?_charsWith]

end Instant

end JobConsole.Time
