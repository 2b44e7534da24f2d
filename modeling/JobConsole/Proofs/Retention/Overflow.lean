import JobConsole.Proofs.Retention.Range

/-!
# Overflow of duration expressions

An expression is computed from the left: the number of each part, the part in
milliseconds, the sums of the parts, the sum with the fraction, and the sum with the sign
in front.  Each of these steps has an exact value.  The computation goes on as long as the
exact values fit in 64 bits, so that no step ever wraps: an expression is read exactly when
all its steps fit and its value is within the bound, which leaves out the least number of
64 bits.

Where the parts have different signs, a step may be too large though the value is not.
Where they have one sign, an expression is out of range exactly when its value is.
-/

namespace JobConsole.Number

/-- A number is a signed number of 64 bits. -/
def IsSigned64 (i : Int) : Prop :=
  leastSigned64 ≤ i ∧ i ≤ greatestSigned64

instance (i : Int) : Decidable (IsSigned64 i) :=
  inferInstanceAs (Decidable (leastSigned64 ≤ i ∧ i ≤ greatestSigned64))

theorem signed64?_eq_some_iff_isSigned64 {i j : Int} :
    signed64? i = some j ↔ j = i ∧ IsSigned64 i := by
  rw [signed64?_eq_some_iff, eq_comm]
  rfl

end JobConsole.Number

namespace JobConsole.Retention

open JobConsole.Number JobConsole.Text

/-- A part is computed when its number and its milliseconds fit. -/
theorem Component.millis?_eq_some_iff {unit : Nat} {number : Option Component} {millis : Int} :
    Component.millis? unit number = some millis ↔
      millis = unit * Expression.amount number ∧ IsSigned64 (Expression.amount number) ∧
        IsSigned64 (unit * Expression.amount number) := by
  cases number with
  | none =>
      have zero : IsSigned64 0 := by decide
      simp only [Component.millis?, Expression.amount, Int.mul_zero, zero, and_true,
        Option.some.injEq, eq_comm]
  | some number =>
      simp only [Component.millis?, Expression.amount, Option.bind_eq_bind,
        Option.bind_eq_some_iff, signed64?_eq_some_iff_isSigned64]
      constructor
      · rintro ⟨value, ⟨rfl, fits⟩, rfl, productFits⟩
        rw [Int.mul_comm] at productFits ⊢
        exact ⟨rfl, fits, productFits⟩
      · rintro ⟨rfl, fits, productFits⟩
        exact ⟨number.value, ⟨rfl, fits⟩, by rw [Int.mul_comm], by rwa [Int.mul_comm]⟩

namespace Expression

/-- The sum of the parts in milliseconds, without the sign in front. -/
def total (expression : Expression) : Int :=
  86400000 * amount expression.days + 3600000 * amount expression.hours +
    60000 * amount expression.minutes + 1000 * amount expression.seconds +
    expression.secondsSign * expression.thousandths

theorem exactMillis_eq_total (expression : Expression) :
    expression.exactMillis = signFactor expression.negative * expression.total :=
  rfl

/-- The exact values of the steps in which an expression is computed: its numbers, their
milliseconds, the sums of these from the left, the fraction, and the sum with it and with
the sign in front. -/
def steps (expression : Expression) : List Int :=
  [amount expression.days, 86400000 * amount expression.days,
    amount expression.hours, 3600000 * amount expression.hours,
    amount expression.minutes, 60000 * amount expression.minutes,
    amount expression.seconds, 1000 * amount expression.seconds,
    86400000 * amount expression.days + 3600000 * amount expression.hours,
    86400000 * amount expression.days + 3600000 * amount expression.hours +
      60000 * amount expression.minutes,
    86400000 * amount expression.days + 3600000 * amount expression.hours +
      60000 * amount expression.minutes + 1000 * amount expression.seconds,
    expression.secondsSign * expression.thousandths, expression.total, expression.exactMillis]

/-- A step does not fit, or the value is beyond the bound. -/
def Overflows (expression : Expression) : Prop :=
  (∃ step ∈ expression.steps, ¬ IsSigned64 step) ∨ 2 ^ 63 - 1 < |expression.exactMillis|

/-- The fraction is a number of three digits, so that it fits with either sign. -/
theorem thousandths_lt {expression : Expression}
    (areDigits : ∀ c ∈ expression.fraction, isDigit c = true) : expression.thousandths < 1000 := by
  have filled : ∀ c ∈ (expression.fraction ++ ['0', '0', '0']).take 3, isDigit c = true := by
    intro c member
    rcases List.mem_append.mp (List.mem_of_mem_take member) with digit | zero
    · exact areDigits c digit
    · have isZero : c = '0' := by simpa using zero
      rw [isZero]
      rfl
  have length : ((expression.fraction ++ ['0', '0', '0']).take 3).length = 3 := by simp
  have below := readDigits_lt filled
  rwa [length] at below

theorem isSigned64_fraction {expression : Expression}
    (areDigits : ∀ c ∈ expression.fraction, isDigit c = true) :
    IsSigned64 (expression.secondsSign * expression.thousandths) := by
  have small := thousandths_lt areDigits
  unfold IsSigned64 leastSigned64 greatestSigned64 secondsSign signFactor
  split <;> omega

theorem not_bound_lt_abs_iff {i : Int} : ¬ 2 ^ 63 - 1 < |i| ↔ (i.natAbs : Int) ≤ bound := by
  rw [Int.not_lt, Int.abs_eq_natAbs]
  rfl

/-- An expression is computed exactly when all its steps fit and its value is within the
bound. -/
theorem millis?_eq_some_iff {expression : Expression}
    (areDigits : ∀ c ∈ expression.fraction, isDigit c = true) {millis : Int} :
    expression.millis? = some millis ↔
      ¬ expression.Overflows ∧ millis = expression.exactMillis := by
  have signed (i : Int) : (if expression.negative then -i else i) =
      signFactor expression.negative * i := by
    unfold signFactor
    split <;> omega
  have fraction := isSigned64_fraction areDigits
  simp only [Overflows, not_or, not_exists, not_and, not_not, not_bound_lt_abs_iff, steps,
    List.forall_mem_cons, List.not_mem_nil, false_imp_iff, implies_true, and_true,
    exactMillis_eq_total, total]
  simp only [Expression.millis?, Option.bind_eq_bind, Option.bind_eq_some_iff,
    Component.millis?_eq_some_iff, signed64?_eq_some_iff_isSigned64, fractionMillis_eq, signed,
    Option.ite_none_right_eq_some, Option.some.injEq, dayMillis, hourMillis, minuteMillis,
    secondMillis, Nat.cast_ofNat]
  constructor
  · rintro ⟨_, ⟨rfl, days, dayMillis⟩, _, ⟨rfl, hours, hourMillis⟩, _,
      ⟨rfl, minutes, minuteMillis⟩, _, ⟨rfl, seconds, secondMillis⟩, _, ⟨rfl, first⟩,
      _, ⟨rfl, second⟩, _, ⟨rfl, third⟩, _, ⟨rfl, fourth⟩, _, ⟨rfl, fifth⟩, within, rfl⟩
    exact ⟨⟨⟨days, dayMillis, hours, hourMillis, minutes, minuteMillis, seconds, secondMillis,
      first, second, third, fraction, fourth, fifth⟩, within⟩, rfl⟩
  · rintro ⟨⟨⟨days, dayMillis, hours, hourMillis, minutes, minuteMillis, seconds, secondMillis,
      first, second, third, -, fourth, fifth⟩, within⟩, rfl⟩
    exact ⟨_, ⟨rfl, days, dayMillis⟩, _, ⟨rfl, hours, hourMillis⟩, _,
      ⟨rfl, minutes, minuteMillis⟩, _, ⟨rfl, seconds, secondMillis⟩, _, ⟨rfl, first⟩,
      _, ⟨rfl, second⟩, _, ⟨rfl, third⟩, _, ⟨rfl, fourth⟩, _, ⟨rfl, fifth⟩, within, rfl⟩

theorem millis?_eq_none_iff {expression : Expression}
    (areDigits : ∀ c ∈ expression.fraction, isDigit c = true) :
    expression.millis? = none ↔ expression.Overflows := by
  rw [Option.eq_none_iff_forall_ne_some]
  simp only [ne_eq, millis?_eq_some_iff areDigits, not_and]
  constructor
  · intro never
    by_contra fits
    exact never _ fits rfl
  · exact fun overflows _ fits _ => fits overflows

end Expression

theorem parseMillis_eq_overflow_iff {input : String} {expression : Expression}
    (isExpression : IsExpression expression (trim input.toList)) :
    parseMillis input = .error (.overflow input) ↔ expression.Overflows := by
  rw [← Expression.millis?_eq_none_iff (Expression.isDigit_of_mem_fraction isExpression),
    parseMillis_of_ne_nil isExpression.ne_nil, Expression.read?_of_isExpression isExpression]
  cases computed : expression.millis? with
  | none => simp only [computed]
  | some millis => simp [computed]

/-- Where the parts have one sign, only a value beyond the bound overflows. -/
theorem Expression.overflows_iff_of_oneSign {expression : Expression}
    (areDigits : ∀ c ∈ expression.fraction, isDigit c = true) (oneSign : expression.OneSign) :
    expression.Overflows ↔ 2 ^ 63 - 1 < |expression.exactMillis| := by
  refine ⟨fun overflows => ?_, .inr⟩
  by_contra within
  have computed := millis?_of_oneSign oneSign (not_bound_lt_abs_iff.mp within)
  exact ((millis?_eq_some_iff areDigits).mp computed).1 overflows

/-- A text that is no expression is refused before anything is computed.  An expression
overflows exactly when one of its steps does not fit in 64 bits or its value is beyond the
bound, and has its exact value otherwise; the fraction, whose sign is changed without a
check, has three digits.  Where the parts have one sign, the value alone decides. -/
theorem parseMillis_overflow_exact (input : String) :
    ((∀ expression, ¬ IsExpression expression (trim input.toList)) →
        parseMillis input = .error .empty ∨ parseMillis input = .error (.malformed input)) ∧
      ∀ expression, IsExpression expression (trim input.toList) →
        (parseMillis input = .error (.overflow input) ↔
            (∃ step ∈ expression.steps, ¬ IsSigned64 step) ∨
              2 ^ 63 - 1 < |expression.exactMillis|) ∧
          (parseMillis input = .ok expression.exactMillis ↔
            (∀ step ∈ expression.steps, IsSigned64 step) ∧
              |expression.exactMillis| ≤ 2 ^ 63 - 1) ∧
          expression.thousandths < 1000 ∧
          (expression.OneSign →
            (parseMillis input = .error (.overflow input) ↔
                2 ^ 63 - 1 < |expression.exactMillis|) ∧
              (parseMillis input = .ok expression.exactMillis ↔
                |expression.exactMillis| ≤ 2 ^ 63 - 1)) := by
  constructor
  · intro none
    by_cases blank : trim input.toList = []
    · exact .inl (parseMillis_eq_empty_iff.mpr blank)
    · exact .inr (parseMillis_eq_malformed_iff.mpr ⟨rfl, blank, none⟩)
  · intro expression isExpression
    have areDigits := Expression.isDigit_of_mem_fraction isExpression
    have overflows := parseMillis_eq_overflow_iff isExpression
    have isOk : parseMillis input = .ok expression.exactMillis ↔ ¬ expression.Overflows := by
      rw [← overflows]
      rcases parseMillis_of_isExpression isExpression with error | value
      · simp [error]
      · simp [value]
    refine ⟨overflows, ?_, Expression.thousandths_lt areDigits, fun oneSign => ?_⟩
    · rw [isOk]
      simp only [Expression.Overflows, not_or, not_exists, not_and, not_not, Int.not_lt]
    · rw [overflows, isOk, Expression.overflows_iff_of_oneSign areDigits oneSign, Int.not_lt]
      exact ⟨Iff.rfl, Iff.rfl⟩

/-- An expression with a sign in front, whose parts but the fraction come close to the
bound. -/
def nearBound (fraction : String) : Expression :=
  ⟨true, some ⟨false, "0106751991167".toList⟩, some ⟨false, ['7']⟩, some ⟨false, ['1', '2']⟩,
    some ⟨false, ['5', '5']⟩, fraction.toList⟩

/-- An expression whose days are too many, though its hours take the excess back. -/
def mixedSigns : Expression :=
  ⟨false, some ⟨false, "106751991168".toList⟩, some ⟨true, ['2', '4']⟩, none, none, []⟩

theorem parseMillis_at_bound :
    (nearBound "8079").exactMillis = -9223372036854775807 ∧
      parseMillis "-P0106751991167DT7H12M55.8079S" = .ok (nearBound "8079").exactMillis ∧
      (nearBound "808").exactMillis = -9223372036854775808 ∧
      parseMillis "-P0106751991167DT7H12M55.808S" =
        .error (.overflow "-P0106751991167DT7H12M55.808S") ∧
      mixedSigns.exactMillis = 9223372036828800000 ∧
      parseMillis "P106751991168DT-24H" = .error (.overflow "P106751991168DT-24H") := by
  have isGreatest : IsExpression (nearBound "8079")
      (trim "-P0106751991167DT7H12M55.8079S".toList) :=
    Expression.isExpression_of_read? (by decide +kernel)
  have isBeyond : IsExpression (nearBound "808")
      (trim "-P0106751991167DT7H12M55.808S".toList) :=
    Expression.isExpression_of_read? (by decide +kernel)
  have isMixed : IsExpression mixedSigns (trim "P106751991168DT-24H".toList) :=
    Expression.isExpression_of_read? (by decide +kernel)
  have greatest : (nearBound "8079").exactMillis = -9223372036854775807 := by decide +kernel
  have beyond : (nearBound "808").exactMillis = -9223372036854775808 := by decide +kernel
  refine ⟨greatest, ?_, beyond, ?_, by decide +kernel, ?_⟩
  · obtain ⟨-, -, -, oneSign⟩ := (parseMillis_overflow_exact _).2 _ isGreatest
    exact (oneSign (.inl (by decide +kernel))).2.mpr (by rw [greatest]; decide)
  · obtain ⟨-, -, -, oneSign⟩ := (parseMillis_overflow_exact _).2 _ isBeyond
    exact (oneSign (.inl (by decide +kernel))).1.mpr (by rw [beyond]; decide)
  · obtain ⟨overflows, -⟩ := (parseMillis_overflow_exact _).2 _ isMixed
    exact overflows.mpr (.inl ⟨86400000 * 106751991168, by decide +kernel, by decide⟩)

end JobConsole.Retention
