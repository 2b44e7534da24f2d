import Mathlib.Algebra.Order.Group.Nat
import Mathlib.Data.List.Infix
import JobConsole.Notice.Humanized
import JobConsole.Proofs.Text.Digits

/-!
# Spans for people read back

The text of a span has one part or two, in units that follow each other.  It can be read
back as the sum of its parts, which is the number of whole seconds, rounded down to the
lower one of the two units that a number of this size is shown in.  A second part that is
zero is left out, but it takes the place of the part below it, so that no third unit is
ever seen.

So the text never promises more time than there is, and a longer span never shows less.
-/

namespace JobConsole.Time.Span

open JobConsole.Text

/-! ## Reading amounts -/

/-- The units of amounts, from the largest one down. -/
def units : List Char :=
  ['d', 'h', 'm', 's']

/-- The seconds in a unit. -/
def unitSeconds? : Char → Option Nat
  | 'd' => some 86400
  | 'h' => some 3600
  | 'm' => some 60
  | 's' => some 1
  | _ => none

/-- Reads a number with its unit, in seconds. -/
def readAmount? (word : List Char) : Option Nat :=
  match word.span isDigit with
  | ([], _) => none
  | (run, [unit]) => (unitSeconds? unit).map (readDigits run * ·)
  | _ => none

/-- Reads the sum of amounts, in seconds. -/
def readSum? : List (List Char) → Option Nat
  | [] => some 0
  | word :: rest =>
      match readAmount? word, readSum? rest with
      | some first, some others => some (first + others)
      | _, _ => none

/-- Reads a text of amounts with spaces between them, in seconds. -/
def readSeconds? (text : List Char) : Option Nat :=
  readSum? (text.splitOn ' ')

/-- Amounts as they are meant to be seen: one or two of them, none of them zero, in units
that follow each other, and none so large that a larger unit could take it. -/
structure IsLegible (shown : List Amount) : Prop where
  oneOrTwo : shown.length = 1 ∨ shown.length = 2
  positive : ∀ amount ∈ shown, 0 < amount.count
  adjacent : shown.map Amount.unit <:+: units
  hours : ∀ amount ∈ shown, amount.unit = 'h' → amount.count < 24
  sixtieths : ∀ amount ∈ shown, amount.unit = 'm' ∨ amount.unit = 's' → amount.count < 60

/-- The seconds that the lower one of the two units has in which a number of seconds is
shown. -/
def grain (seconds : Nat) : Nat :=
  if 86400 ≤ seconds then 3600 else if 3600 ≤ seconds then 60 else 1

/-- The seconds that are shown of a number of seconds. -/
def shownSeconds (seconds : Nat) : Nat :=
  seconds / grain seconds * grain seconds

/-! ## The amounts that are shown -/

/-- A number of seconds in a unit, and what is over in the unit below, unless it is zero. -/
def inUnits (upper lower : Char) (size part seconds : Nat) : List Amount :=
  ⟨seconds / size, upper⟩ ::
    [Amount.mk (seconds % size / part) lower].filter fun amount => amount.count != 0

/-- The first amount that is not zero begins what is shown. -/
theorem filter_take_eq_cons {first : Amount} (notZero : first.count ≠ 0) (rest : List Amount) :
    (((first :: rest).dropWhile fun amount => amount.count == 0).take 2).filter
        (fun amount => amount.count != 0) =
      first :: (rest.take 1).filter fun amount => amount.count != 0 := by
  rw [List.dropWhile_cons_of_neg (by simpa using notZero), List.take_succ_cons,
    List.filter_cons_of_pos (by simpa using notZero)]

theorem dropWhile_cons_of_zero {first : Amount} (zero : first.count = 0) (rest : List Amount) :
    ((first :: rest).dropWhile fun amount => amount.count == 0) =
      rest.dropWhile fun amount => amount.count == 0 :=
  List.dropWhile_cons_of_pos (by simpa using zero)

theorem shownAmounts_of_days {seconds : Nat} (large : 86400 ≤ seconds) :
    shownAmounts seconds = inUnits 'd' 'h' 86400 3600 seconds := by
  have days : seconds / 86400 ≠ 0 := by omega
  exact filter_take_eq_cons days _

theorem shownAmounts_of_hours {seconds : Nat} (large : 3600 ≤ seconds) (small : seconds < 86400) :
    shownAmounts seconds = inUnits 'h' 'm' 3600 60 seconds := by
  have days : seconds / 86400 = 0 := by omega
  have hours : seconds / 3600 ≠ 0 := by omega
  rw [shownAmounts, amounts, dropWhile_cons_of_zero days, Nat.mod_eq_of_lt small]
  exact filter_take_eq_cons hours _

theorem shownAmounts_of_minutes {seconds : Nat} (large : 60 ≤ seconds) (small : seconds < 3600) :
    shownAmounts seconds = inUnits 'm' 's' 60 1 seconds := by
  have days : seconds / 86400 = 0 := by omega
  have hours : seconds % 86400 / 3600 = 0 := by omega
  have minutes : seconds / 60 ≠ 0 := by omega
  rw [shownAmounts, amounts, dropWhile_cons_of_zero days, dropWhile_cons_of_zero hours,
    Nat.mod_eq_of_lt small, inUnits, Nat.div_one]
  exact filter_take_eq_cons minutes _

theorem shownAmounts_of_seconds {seconds : Nat} (positive : 0 < seconds) (small : seconds < 60) :
    shownAmounts seconds = [⟨seconds, 's'⟩] := by
  have days : seconds / 86400 = 0 := by omega
  have hours : seconds % 86400 / 3600 = 0 := by omega
  have minutes : seconds % 3600 / 60 = 0 := by omega
  rw [shownAmounts, amounts, dropWhile_cons_of_zero days, dropWhile_cons_of_zero hours,
    dropWhile_cons_of_zero minutes, Nat.mod_eq_of_lt small]
  exact filter_take_eq_cons (Nat.pos_iff_ne_zero.mp positive) _

/-- The amounts of a positive number of seconds are one of four kinds. -/
theorem shownAmounts_cases {seconds : Nat} (positive : 0 < seconds) :
    86400 ≤ seconds ∧ shownAmounts seconds = inUnits 'd' 'h' 86400 3600 seconds ∨
      (3600 ≤ seconds ∧ seconds < 86400) ∧
        shownAmounts seconds = inUnits 'h' 'm' 3600 60 seconds ∨
      (60 ≤ seconds ∧ seconds < 3600) ∧ shownAmounts seconds = inUnits 'm' 's' 60 1 seconds ∨
      seconds < 60 ∧ shownAmounts seconds = [⟨seconds, 's'⟩] := by
  rcases Nat.lt_or_ge seconds 60 with small | large
  · exact .inr (.inr (.inr ⟨small, shownAmounts_of_seconds positive small⟩))
  rcases Nat.lt_or_ge seconds 3600 with small | larger
  · exact .inr (.inr (.inl ⟨⟨large, small⟩, shownAmounts_of_minutes large small⟩))
  rcases Nat.lt_or_ge seconds 86400 with small | largest
  · exact .inr (.inl ⟨⟨larger, small⟩, shownAmounts_of_hours larger small⟩)
  · exact .inl ⟨largest, shownAmounts_of_days largest⟩

/-! ## What the amounts look like -/

/-- A number in two units that follow each other is legible when both numbers are within
their units. -/
theorem isLegible_inUnits {upper lower : Char} {size part seconds : Nat}
    (adjacent : [upper, lower] <:+: units) (large : size ≤ seconds) (positive : 0 < size)
    (hours : (upper = 'h' → seconds / size < 24) ∧ (lower = 'h' → seconds % size / part < 24))
    (sixtieths : (upper = 'm' ∨ upper = 's' → seconds / size < 60) ∧
      (lower = 'm' ∨ lower = 's' → seconds % size / part < 60)) :
    IsLegible (inUnits upper lower size part seconds) := by
  have first : 0 < seconds / size := Nat.div_pos large positive
  have alone : [upper] <:+: units := (List.prefix_append [upper] [lower]).isInfix.trans adjacent
  by_cases nothing : seconds % size / part = 0
  · have shown : inUnits upper lower size part seconds = [⟨seconds / size, upper⟩] := by
      simp [inUnits, nothing]
    rw [shown]
    exact ⟨.inl rfl, by simpa using first, alone, by simpa using hours.1,
      by simpa using sixtieths.1⟩
  · have shown : inUnits upper lower size part seconds =
        [⟨seconds / size, upper⟩, ⟨seconds % size / part, lower⟩] := by
      rw [inUnits, List.filter_cons_of_pos (by simpa using nothing), List.filter_nil]
    rw [shown]
    refine ⟨.inr rfl, ?_, adjacent, ?_, ?_⟩
    · have second : 0 < seconds % size / part := Nat.pos_of_ne_zero nothing
      exact List.forall_mem_cons.mpr ⟨first, List.forall_mem_singleton.mpr second⟩
    · exact List.forall_mem_cons.mpr ⟨hours.1, List.forall_mem_singleton.mpr hours.2⟩
    · exact List.forall_mem_cons.mpr ⟨sixtieths.1, List.forall_mem_singleton.mpr sixtieths.2⟩

theorem isLegible_shownAmounts {seconds : Nat} (positive : 0 < seconds) :
    IsLegible (shownAmounts seconds) := by
  rcases shownAmounts_cases positive with ⟨large, shown⟩ | ⟨⟨large, small⟩, shown⟩ |
    ⟨⟨large, small⟩, shown⟩ | ⟨small, shown⟩
  · rw [shown]
    exact isLegible_inUnits ⟨[], ['m', 's'], rfl⟩ large (by decide)
      ⟨by simp, fun _ => by omega⟩ ⟨by simp, by simp⟩
  · rw [shown]
    exact isLegible_inUnits ⟨['d'], ['s'], rfl⟩ large (by decide)
      ⟨fun _ => by omega, by simp⟩ ⟨by simp, fun _ => by omega⟩
  · rw [shown]
    exact isLegible_inUnits ⟨['d', 'h'], [], rfl⟩ large (by decide)
      ⟨by simp, by simp⟩ ⟨fun _ => by omega, fun _ => by omega⟩
  · rw [shown]
    exact ⟨.inl rfl, by simpa using positive, ⟨['d', 'h', 'm'], [], rfl⟩, by simp,
      by simpa using small⟩

/-! ## What the amounts come to -/

theorem isDigit_of_unit {unit : Char} {size : Nat} (isUnit : unitSeconds? unit = some size) :
    isDigit unit = false ∧ unit ≠ ' ' := by
  unfold unitSeconds? at isUnit
  split at isUnit
  · decide
  · decide
  · decide
  · decide
  · cases isUnit

theorem Amount.toList_text (amount : Amount) :
    amount.text.toList = digits amount.count ++ [amount.unit] := by
  simp [Amount.text, natText]

/-- The text of an amount is read as its seconds. -/
theorem readAmount?_text {amount : Amount} {size : Nat}
    (isUnit : unitSeconds? amount.unit = some size) :
    readAmount? amount.text.toList = some (amount.count * size) := by
  have run : (digits amount.count ++ [amount.unit]).span isDigit =
      (digits amount.count, [amount.unit]) :=
    span_isDigit_append (fun _ => isDigit_of_mem_digits)
      (by simpa using (isDigit_of_unit isUnit).1)
  rw [readAmount?, Amount.toList_text, run]
  split
  · next nothing => exact absurd (congrArg Prod.fst nothing) (digits_ne_nil _)
  · next same =>
      obtain ⟨rfl, isOne⟩ := Prod.mk.inj same
      cases isOne
      rw [isUnit, Option.map_some, readDigits_digits]
  · next other => exact absurd rfl (other _ _)

/-- What is over in the unit below makes up what is missing to a multiple of it. -/
theorem div_mul_add_mod_div_mul {size part : Nat} (divides : part ∣ size) (seconds : Nat) :
    seconds / size * size + seconds % size / part * part = seconds / part * part := by
  obtain ⟨ratio, rfl⟩ := divides
  calc
    seconds / (part * ratio) * (part * ratio) + seconds % (part * ratio) / part * part =
        (ratio * (seconds / part / ratio) + seconds / part % ratio) * part := by
      rw [Nat.mod_mul_right_div_self, Nat.div_div_eq_div_mul, Nat.add_mul, Nat.mul_comm part,
        ← Nat.mul_assoc, Nat.mul_comm ratio (_ / _)]
    _ = seconds / part * part := by rw [Nat.div_add_mod]

theorem readSum?_inUnits {upper lower : Char} {size part : Nat} (divides : part ∣ size)
    (isUpper : unitSeconds? upper = some size) (isLower : unitSeconds? lower = some part)
    (seconds : Nat) :
    readSum? ((inUnits upper lower size part seconds).map fun amount => amount.text.toList) =
      some (seconds / part * part) := by
  have first : readAmount? (Amount.mk (seconds / size) upper).text.toList = _ :=
    readAmount?_text isUpper
  have second : readAmount? (Amount.mk (seconds % size / part) lower).text.toList = _ :=
    readAmount?_text isLower
  have sum := div_mul_add_mod_div_mul divides seconds
  by_cases nothing : seconds % size / part = 0
  · rw [nothing, Nat.zero_mul, Nat.add_zero] at sum
    simp [inUnits, nothing, readSum?, first, sum]
  · rw [inUnits, List.filter_cons_of_pos (by simpa using nothing), List.filter_nil]
    simp [readSum?, first, second, sum]

theorem readSum?_shownAmounts {seconds : Nat} (positive : 0 < seconds) :
    readSum? ((shownAmounts seconds).map fun amount => amount.text.toList) =
      some (shownSeconds seconds) := by
  unfold shownSeconds grain
  rcases shownAmounts_cases positive with ⟨large, shown⟩ | ⟨⟨large, small⟩, shown⟩ |
    ⟨⟨large, small⟩, shown⟩ | ⟨small, shown⟩
  · rw [shown, if_pos large]
    exact readSum?_inUnits (by decide) rfl rfl seconds
  · rw [shown, if_neg (Nat.not_le.mpr small), if_pos large]
    exact readSum?_inUnits (by decide) rfl rfl seconds
  · rw [shown, if_neg (by omega), if_neg (Nat.not_le.mpr small)]
    exact readSum?_inUnits (by decide) rfl rfl seconds
  · have alone : readAmount? (Amount.mk seconds 's').text.toList = _ := readAmount?_text rfl
    rw [shown, if_neg (by omega), if_neg (by omega)]
    simp [readSum?, alone]

/-! ## Texts -/

theorem space_not_mem_text {amount : Amount} (isUnit : amount.unit ∈ units) :
    ' ' ∉ amount.text.toList := by
  have apart : ' ' ∉ units := by simp [units]
  rw [Amount.toList_text]
  intro member
  rcases List.mem_append.mp member with digit | unit
  · exact absurd (isDigit_of_mem_digits digit) (by decide)
  · rw [← List.mem_singleton.mp unit] at isUnit
    exact apart isUnit

/-- The spaces in a text of amounts are those between them. -/
theorem readSeconds?_intercalate {shown : List Amount} (legible : IsLegible shown) :
    readSeconds? (String.intercalate " " (shown.map Amount.text)).toList =
      readSum? (shown.map fun amount => amount.text.toList) := by
  have words : ∀ word ∈ shown.map fun amount => amount.text.toList, ' ' ∉ word := by
    intro word member
    obtain ⟨amount, isShown, rfl⟩ := List.mem_map.mp member
    exact space_not_mem_text (legible.adjacent.subset (List.mem_map_of_mem isShown))
  have filled : (shown.map fun amount => amount.text.toList) ≠ [] := by
    intro nothing
    have none : shown.length = 0 := by simpa using nothing
    have oneOrTwo := legible.oneOrTwo
    omega
  have space : " ".toList = [' '] := rfl
  rw [readSeconds?, String.toList_intercalate, List.map_map, space]
  exact congrArg readSum? (List.splitOn_intercalate ' ' words filled)

theorem humanized_of_pos {span : Span} (positive : 0 < span.seconds.toNat) :
    span.humanized =
      String.intercalate " " ((shownAmounts span.seconds.toNat).map Amount.text) := by
  have oneOrTwo := (isLegible_shownAmounts positive).oneOrTwo
  unfold humanized
  split
  · next nothing =>
      rw [nothing, List.length_nil] at oneOrTwo
      omega
  · rfl

theorem humanized_of_zero {span : Span} (zero : span.seconds.toNat = 0) :
    span.humanized = "0s" := by
  rw [humanized, zero]
  rfl

/-! ## What is shown and what there is -/

theorem grain_cases (seconds : Nat) :
    86400 ≤ seconds ∧ grain seconds = 3600 ∨
      (3600 ≤ seconds ∧ seconds < 86400) ∧ grain seconds = 60 ∨
      seconds < 3600 ∧ grain seconds = 1 := by
  unfold grain
  split
  · omega
  · split <;> omega

theorem shownSeconds_le (seconds : Nat) : shownSeconds seconds ≤ seconds :=
  Nat.div_mul_le_self seconds (grain seconds)

/-- More seconds never show less: either both are shown in the same units, or the larger
number reaches the first one that is shown in larger units, and the smaller one does not. -/
theorem shownSeconds_mono {less more : Nat} (le : less ≤ more) :
    shownSeconds less ≤ shownSeconds more := by
  unfold shownSeconds
  rcases grain_cases less with ⟨_, ofLess⟩ | ⟨_, ofLess⟩ | ⟨_, ofLess⟩ <;>
    rcases grain_cases more with ⟨_, ofMore⟩ | ⟨_, ofMore⟩ | ⟨_, ofMore⟩ <;>
      rw [ofLess, ofMore] <;> omega

/-- The whole seconds of a span that is not negative, and none of a negative one. -/
theorem toNat_seconds (span : Span) : span.seconds.toNat = span.nanos.toNat / nanosPerSecond := by
  obtain ⟨nanos⟩ := span
  cases nanos with
  | ofNat n => rfl
  | negSucc n =>
      exact (Int.toNat_neg_natCast (n.succ / nanosPerSecond)).trans (Nat.zero_div _).symm

/-- The seconds that are shown are no more than the span has. -/
theorem shownSeconds_mul_le (span : Span) :
    shownSeconds span.seconds.toNat * nanosPerSecond ≤ span.nanos.toNat :=
  calc
    shownSeconds span.seconds.toNat * nanosPerSecond ≤ span.seconds.toNat * nanosPerSecond :=
      Nat.mul_le_mul_right _ (shownSeconds_le _)
    _ ≤ span.nanos.toNat := by
      rw [toNat_seconds]
      exact Nat.div_mul_le_self _ _

theorem toNat_seconds_mono {shorter longer : Span} (le : shorter.nanos ≤ longer.nanos) :
    shorter.seconds.toNat ≤ longer.seconds.toNat := by
  rw [toNat_seconds, toNat_seconds]
  exact Nat.div_le_div_right (Int.toNat_le_toNat le)

/-- The text of a span has one or two legible amounts, or is `0s` when the span has no
whole second.  Read back as a sum it gives the whole seconds, rounded down to the lower one
of the units; this is never more than the span has, and never less than for a shorter
one. -/
theorem humanized_rounds_down (span : Span) :
    (span.seconds.toNat = 0 → span.humanized = "0s") ∧
      (0 < span.seconds.toNat → ∃ shown, IsLegible shown ∧
        span.humanized = String.intercalate " " (shown.map Amount.text)) ∧
      readSeconds? span.humanized.toList = some (shownSeconds span.seconds.toNat) ∧
      shownSeconds span.seconds.toNat * nanosPerSecond ≤ span.nanos.toNat ∧
      ∀ longer : Span, span.nanos ≤ longer.nanos →
        shownSeconds span.seconds.toNat ≤ shownSeconds longer.seconds.toNat := by
  refine ⟨humanized_of_zero, fun positive => ?_, ?_, shownSeconds_mul_le span,
    fun longer le => shownSeconds_mono (toNat_seconds_mono le)⟩
  · exact ⟨_, isLegible_shownAmounts positive, humanized_of_pos positive⟩
  · rcases Nat.eq_zero_or_pos span.seconds.toNat with zero | positive
    · rw [humanized_of_zero zero, zero]
      rfl
    · rw [humanized_of_pos positive, readSeconds?_intercalate (isLegible_shownAmounts positive),
        readSum?_shownAmounts positive]

/-- A day and five minutes, whose hours are zero; a second less than a day; and less than
no time. -/
theorem humanized_of_day :
    (ofMillis 86700999).humanized = "1d" ∧
      (∃ shown, IsLegible shown ∧ "1d" = String.intercalate " " (shown.map Amount.text)) ∧
      readSeconds? "1d".toList = some 86400 ∧
      (ofMillis 86399999).humanized = "23h 59m" ∧
      shownSeconds (ofMillis 86399999).seconds.toNat ≤
        shownSeconds (ofMillis 86700999).seconds.toNat ∧
      (ofMillis (-1)).humanized = "0s" := by
  have day : (ofMillis 86700999).humanized = "1d" := by decide +kernel
  obtain ⟨-, legible, reads, -⟩ := humanized_rounds_down (ofMillis 86700999)
  rw [day] at legible reads
  refine ⟨day, legible (by decide), reads, by decide +kernel, ?_, ?_⟩
  · exact (humanized_rounds_down (ofMillis 86399999)).2.2.2.2 (ofMillis 86700999) (by decide)
  · exact (humanized_rounds_down (ofMillis (-1))).1 (by decide)

end JobConsole.Time.Span
