import Mathlib.Algebra.Order.Field.Basic
import Mathlib.Algebra.Order.Field.Rat
import Mathlib.Tactic.Linarith
import Mathlib.Tactic.Positivity
import Mathlib.Tactic.Ring
import JobConsole.Proofs.Retention.Grammar
import JobConsole.Retention.Policy

/-!
# The value of a duration expression

An expression stands for a rational number of milliseconds.  Its value in whole
milliseconds takes three digits of the fraction and drops the others, so that it is
less than one millisecond away.  The value is computed in steps that must fit in 64 bits;
what they come to is the value.

`parse_duration_expression` says for every text what reading it gives, and what
policy it stands for.
-/

namespace JobConsole.Retention

open JobConsole.Number JobConsole.Text JobConsole.Time

/-- A sign as a factor. -/
def signFactor (negative : Bool) : Int :=
  if negative then -1 else 1

namespace Expression

/-- The number of a part; a part that is missing counts as zero. -/
def amount : Option Component → Int
  | none => 0
  | some number => number.value

/-- The sign of the seconds, which a zero may have as well. -/
def secondsSign (expression : Expression) : Int :=
  signFactor ((expression.seconds.map Component.negative).getD false)

/-- The first three digits of the fraction, filled up with zeros on the right. -/
def thousandths (expression : Expression) : Nat :=
  readDigits ((expression.fraction ++ ['0', '0', '0']).take 3)

/-- The value of an expression in whole milliseconds. -/
def exactMillis (expression : Expression) : Int :=
  signFactor expression.negative *
    (86400000 * amount expression.days + 3600000 * amount expression.hours +
      60000 * amount expression.minutes + 1000 * amount expression.seconds +
      expression.secondsSign * expression.thousandths)

/-- The milliseconds that an expression stands for, with all digits of the fraction. -/
def exactLength (expression : Expression) : ℚ :=
  signFactor expression.negative *
    (86400000 * amount expression.days + 3600000 * amount expression.hours +
      60000 * amount expression.minutes + 1000 * amount expression.seconds +
      expression.secondsSign *
        (1000 * readDigits expression.fraction / 10 ^ expression.fraction.length))

/-! ## The value is what is computed -/

theorem amount_mul_of_millis? {unit : Nat} {number : Option Component} {millis : Int}
    (computed : Component.millis? unit number = some millis) : millis = unit * amount number := by
  cases number with
  | none =>
      cases computed
      simp [amount]
  | some number =>
      simp only [Component.millis?, Option.bind_eq_bind, Option.bind_eq_some_iff,
        signed64?_eq_some_iff] at computed
      obtain ⟨value, ⟨rfl, -, -⟩, rfl, -, -⟩ := computed
      exact Int.mul_comm _ _

theorem fractionMillis_eq (expression : Expression) :
    expression.fractionMillis = expression.secondsSign * expression.thousandths := by
  have filled : readDigits (expression.fraction.take 3) *
      Nat.pow 10 (3 - (expression.fraction.take 3).length) = expression.thousandths := by
    have zeros : ['0', '0', '0'] = List.replicate 3 '0' := rfl
    rw [thousandths, List.take_append, zeros, List.take_replicate, readDigits_append,
      readDigits_replicate_zero, List.length_replicate, List.length_take, Nat.add_zero]
    congr 2
    omega
  simp only [fractionMillis, filled, secondsSign, signFactor]
  split <;> simp

/-- What is computed in steps that fit is the value. -/
theorem eq_exactMillis_of_millis? {expression : Expression} {millis : Int}
    (computed : expression.millis? = some millis) : millis = expression.exactMillis := by
  simp only [Expression.millis?, Option.bind_eq_bind, Option.bind_eq_some_iff,
    signed64?_eq_some_iff, Option.ite_none_right_eq_some, Option.some.injEq] at computed
  obtain ⟨days, daysRead, hours, hoursRead, minutes, minutesRead, seconds, secondsRead, _, ⟨rfl, -⟩,
    _, ⟨rfl, -⟩, _, ⟨rfl, -⟩, _, ⟨rfl, -⟩, _, ⟨rfl, -⟩, -, rfl⟩ := computed
  have daysValue := amount_mul_of_millis? daysRead
  have hoursValue := amount_mul_of_millis? hoursRead
  have minutesValue := amount_mul_of_millis? minutesRead
  have secondsValue := amount_mul_of_millis? secondsRead
  rw [exactMillis, ← fractionMillis_eq, daysValue, hoursValue, minutesValue, secondsValue]
  unfold signFactor dayMillis hourMillis minuteMillis secondMillis
  split
  · push_cast
    ring
  · push_cast
    ring

/-! ## The value is exact -/

theorem isDigit_of_mem_fraction {expression : Expression} {text : List Char}
    (isExpression : IsExpression expression text) :
    ∀ c ∈ expression.fraction, isDigit c = true := by
  have ofFraction {fraction shown : List Char} (isFraction : IsFraction fraction shown) :
      ∀ c ∈ fraction, isDigit c = true := by
    cases isFraction with
    | absent => exact fun c member => absurd member List.not_mem_nil
    | present isMark short areDigits => exact areDigits
  obtain ⟨-, -, -, time, -, -, -, -, isTime, -⟩ := isExpression
  cases isTime with
  | absent noHours noMinutes noSeconds noFraction =>
      rw [noFraction]
      exact fun c member => absurd member List.not_mem_nil
  | present form isHours isMinutes isSeconds filled =>
      generalize expression.seconds = seconds at isSeconds
      generalize expression.fraction = fraction at isSeconds ⊢
      cases isSeconds with
      | absent => exact fun c member => absurd member List.not_mem_nil
      | present isNumber isFraction form => exact ofFraction isFraction

/-- The digits behind the first three make less than one thousandth. -/
theorem exists_rest_of_thousandths {expression : Expression}
    (areDigits : ∀ c ∈ expression.fraction, isDigit c = true) :
    ∃ rest : Nat, rest < 10 ^ expression.fraction.length ∧
      1000 * readDigits expression.fraction =
        expression.thousandths * 10 ^ expression.fraction.length + rest := by
  have zeros : ['0', '0', '0'] = List.replicate 3 '0' := rfl
  have filled : ∀ c ∈ expression.fraction ++ ['0', '0', '0'], isDigit c = true := by
    intro c member
    rcases List.mem_append.mp member with digit | zero
    · exact areDigits c digit
    · rw [zeros] at zero
      rw [List.eq_of_mem_replicate zero]
      rfl
  have length : ((expression.fraction ++ ['0', '0', '0']).drop 3).length =
      expression.fraction.length := by
    simp
  have places := readDigits_append expression.fraction ['0', '0', '0']
  have split := readDigits_append ((expression.fraction ++ ['0', '0', '0']).take 3)
    ((expression.fraction ++ ['0', '0', '0']).drop 3)
  rw [List.take_append_drop, length] at split
  rw [zeros, readDigits_replicate_zero, ← zeros] at places
  refine ⟨readDigits ((expression.fraction ++ ['0', '0', '0']).drop 3), ?_, ?_⟩
  · rw [← length]
    exact readDigits_lt fun c member => filled c (List.mem_of_mem_drop member)
  · have three : ['0', '0', '0'].length = 3 := rfl
    rw [thousandths, ← split, places, three]
    omega

/-- The value is less than one millisecond away from what the expression stands for. -/
theorem abs_exactMillis_sub_lt {expression : Expression}
    (areDigits : ∀ c ∈ expression.fraction, isDigit c = true) :
    |(expression.exactMillis : ℚ) - expression.exactLength| < 1 := by
  obtain ⟨rest, small, same⟩ := exists_rest_of_thousandths areDigits
  have positive : (0 : ℚ) < 10 ^ expression.fraction.length := by positivity
  have cut : 1000 * (readDigits expression.fraction : ℚ) / 10 ^ expression.fraction.length =
      expression.thousandths + rest / 10 ^ expression.fraction.length := by
    have cast : 1000 * (readDigits expression.fraction : ℚ) =
        expression.thousandths * 10 ^ expression.fraction.length + rest := by
      exact_mod_cast same
    rw [cast, add_div, mul_div_cancel_right₀ _ positive.ne']
  have low : (0 : ℚ) ≤ rest / 10 ^ expression.fraction.length := by positivity
  have high : (rest : ℚ) / 10 ^ expression.fraction.length < 1 := by
    rw [div_lt_one positive]
    exact_mod_cast small
  unfold exactMillis exactLength secondsSign signFactor
  rw [cut, abs_lt]
  push_cast
  split
  · split
    · constructor <;> linarith
    · constructor <;> linarith
  · split
    · constructor <;> linarith
    · constructor <;> linarith

end Expression

/-! ## Reading a text -/

/-- Reading a text without its blanks gives an error that says what is wrong with it, or
its value. -/
theorem parseMillis_of_ne_nil {input : String} (filled : trim input.toList ≠ []) :
    parseMillis input =
      match Expression.read? (trim input.toList) with
      | none => .error (.malformed input)
      | some expression =>
          match expression.millis? with
          | none => .error (.overflow input)
          | some millis => .ok millis := by
  have notEmpty : ¬ (trim input.toList).isEmpty = true := by simpa using filled
  exact if_neg notEmpty

theorem IsExpression.ne_nil {expression : Expression} {text : List Char}
    (isExpression : IsExpression expression text) : text ≠ [] := by
  obtain ⟨sign, letter, days, time, rfl, -⟩ := isExpression
  simp

/-- The text of an expression is read as its value, or is out of range. -/
theorem parseMillis_of_isExpression {input : String} {expression : Expression}
    (isExpression : IsExpression expression (trim input.toList)) :
    parseMillis input = .error (.overflow input) ∨
      parseMillis input = .ok expression.exactMillis := by
  rw [parseMillis_of_ne_nil isExpression.ne_nil, Expression.read?_of_isExpression isExpression]
  cases computed : expression.millis? with
  | none =>
      left
      simp only [computed]
  | some millis =>
      right
      simp only [computed, Expression.eq_exactMillis_of_millis? computed]

/-- A text is malformed when it has something else than blanks and is no expression. -/
theorem parseMillis_eq_malformed_iff {input shown : String} :
    parseMillis input = .error (.malformed shown) ↔
      shown = input ∧ trim input.toList ≠ [] ∧
        ∀ expression, ¬ IsExpression expression (trim input.toList) := by
  by_cases blank : trim input.toList = []
  · have isEmpty := parseMillis_eq_empty_iff.mpr blank
    simp [isEmpty, blank]
  · by_cases found : ∃ expression, IsExpression expression (trim input.toList)
    · obtain ⟨expression, isExpression⟩ := found
      constructor
      · intro malformed
        rcases parseMillis_of_isExpression isExpression with overflow | value
        · cases overflow.symm.trans malformed
        · cases value.symm.trans malformed
      · rintro ⟨-, -, none⟩
        exact absurd isExpression (none expression)
    · have none := Expression.read?_eq_none_iff.mpr (not_exists.mp found)
      rw [parseMillis_of_ne_nil blank, none]
      simp only [Except.error.injEq, ParseError.malformed.injEq]
      constructor
      · rintro rfl
        exact ⟨rfl, blank, not_exists.mp found⟩
      · rintro ⟨rfl, -⟩
        rfl

theorem exists_isExpression_of_parseMillis {input : String} {millis : Int}
    (parsed : parseMillis input = .ok millis) :
    ∃ expression, IsExpression expression (trim input.toList) ∧
      millis = expression.exactMillis := by
  have filled : trim input.toList ≠ [] := by
    intro blank
    cases (parseMillis_eq_empty_iff.mpr blank).symm.trans parsed
  by_cases found : ∃ expression, IsExpression expression (trim input.toList)
  · obtain ⟨expression, isExpression⟩ := found
    refine ⟨expression, isExpression, ?_⟩
    rcases parseMillis_of_isExpression isExpression with overflow | value
    · cases overflow.symm.trans parsed
    · exact Except.ok.inj (parsed.symm.trans value)
  · cases (parseMillis_eq_malformed_iff.mpr ⟨rfl, filled, not_exists.mp found⟩).symm.trans parsed

namespace Policy

theorem ofMillis_eq_disabled_iff {millis : Int} : ofMillis millis = .disabled ↔ millis ≤ 0 := by
  unfold ofMillis
  split
  · rename_i small
    simp [small]
  · rename_i large
    simp [large]

theorem ofMillis_eq_activeFor_iff {millis : Int} {span : Span} :
    ofMillis millis = .activeFor span ↔ 0 < millis ∧ span = Span.ofMillis millis := by
  unfold ofMillis
  split
  · rename_i small
    simp [Int.not_lt.mpr small]
  · rename_i large
    simp [Int.not_le.mp large, eq_comm]

/-- The policy of an expression follows from the value that is read, and from nothing
else. -/
theorem parse_text_eq_ok_iff {input : String} {policy : Policy} :
    parse (.text input) = .ok policy ↔
      ∃ millis, parseMillis input = .ok millis ∧ ofMillis millis = policy := by
  simp only [parse]
  cases parseMillis input with
  | error error => simp [Except.map]
  | ok millis => simp [Except.map]

theorem parse_text_eq_error_iff {input : String} {error : ParseError} :
    parse (.text input) = .error error ↔ parseMillis input = .error error := by
  simp only [parse]
  cases parseMillis input with
  | error error => simp [Except.map]
  | ok millis => simp [Except.map]

end Policy

/-- A text of blanks is empty; any other text that is no duration expression is
malformed; and an expression is out of range or gives exactly its value, which is less
than one millisecond away from what the expression stands for.  The policy is disabled
when the value is not positive, and active for as long as the value says otherwise. -/
theorem parse_duration_expression (input : String) :
    (parseMillis input = .error .empty ↔ trim input.toList = []) ∧
      (∀ shown, parseMillis input = .error (.malformed shown) ↔
        shown = input ∧ trim input.toList ≠ [] ∧
          ∀ expression, ¬ IsExpression expression (trim input.toList)) ∧
      (∀ expression, IsExpression expression (trim input.toList) →
        parseMillis input = .error (.overflow input) ∨
          parseMillis input = .ok expression.exactMillis) ∧
      (∀ millis, parseMillis input = .ok millis →
        ∃ expression, IsExpression expression (trim input.toList) ∧
          millis = expression.exactMillis ∧ |(millis : ℚ) - expression.exactLength| < 1) ∧
      (Policy.parse (.text input) = .ok .disabled ↔
        ∃ millis, parseMillis input = .ok millis ∧ millis ≤ 0) ∧
      (∀ span, Policy.parse (.text input) = .ok (.activeFor span) ↔
        ∃ millis, parseMillis input = .ok millis ∧ 0 < millis ∧ span = Span.ofMillis millis) ∧
      ∀ error, Policy.parse (.text input) = .error error ↔ parseMillis input = .error error := by
  refine ⟨parseMillis_eq_empty_iff, fun _ => parseMillis_eq_malformed_iff,
    fun _ => parseMillis_of_isExpression, ?_, ?_, ?_, fun _ => Policy.parse_text_eq_error_iff⟩
  · intro millis parsed
    obtain ⟨expression, isExpression, rfl⟩ := exists_isExpression_of_parseMillis parsed
    have areDigits := Expression.isDigit_of_mem_fraction isExpression
    exact ⟨expression, isExpression, rfl, Expression.abs_exactMillis_sub_lt areDigits⟩
  · simp only [Policy.parse_text_eq_ok_iff, Policy.ofMillis_eq_disabled_iff]
  · intro span
    simp only [Policy.parse_text_eq_ok_iff, Policy.ofMillis_eq_activeFor_iff]

/-- A lower-case text with a comma, a long s and a negative zero of seconds. -/
example : parseMillis " p1dt-0,5009\u017f" = .ok 86399500 := by
  decide +kernel

end JobConsole.Retention
