import JobConsole.Proofs.Retention.Exact

/-!
# The range of duration expressions

The value of an expression is computed in steps of which each must fit in 64 bits.  Where
the parts have different signs a step may be too large though the value is not.  But where
no two parts have different signs, no step is larger than the value, so that the expression
is read exactly when its value is within the bound.
-/

namespace JobConsole.Retention

open JobConsole.Number JobConsole.Text

theorem signed64?_of_fits {i : Int} (low : leastSigned64 ≤ i) (high : i ≤ greatestSigned64) :
    signed64? i = some i :=
  signed64?_eq_some_iff.mpr ⟨rfl, low, high⟩

theorem signed64?_of_between {i total : Int} (within : (total.natAbs : Int) ≤ Expression.bound)
    (between : 0 ≤ i ∧ i ≤ total ∨ total ≤ i ∧ i ≤ 0) : signed64? i = some i := by
  simp only [Expression.bound, greatestSigned64] at within
  apply signed64?_of_fits
  · simp only [leastSigned64]
    omega
  · simp only [greatestSigned64]
    omega

namespace Expression

/-- The numbers of the parts of an expression, of which the last one is the fraction in
thousandths. -/
def parts (expression : Expression) : List Int :=
  [amount expression.days, amount expression.hours, amount expression.minutes,
    amount expression.seconds, expression.secondsSign * expression.thousandths]

/-- The parts of an expression have one sign, if they are not zero. -/
def OneSign (expression : Expression) : Prop :=
  (∀ part ∈ expression.parts, 0 ≤ part) ∨ ∀ part ∈ expression.parts, part ≤ 0

/-- A number in its unit fits when the product does. -/
theorem millis?_of_between {unit : Nat} (positive : 0 < unit) {number : Option Component}
    {total : Int} (within : (total.natAbs : Int) ≤ bound)
    (between : 0 ≤ unit * amount number ∧ unit * amount number ≤ total ∨
      total ≤ unit * amount number ∧ unit * amount number ≤ 0) :
    Component.millis? unit number = some (unit * amount number) := by
  cases number with
  | none => simp [Component.millis?, amount]
  | some number =>
      have atLeastOne : (1 : Int) ≤ unit := by exact_mod_cast positive
      have smaller : 0 ≤ number.value ∧ number.value ≤ unit * number.value ∨
          unit * number.value ≤ number.value ∧ number.value ≤ 0 := by
        rcases Int.le_total 0 number.value with nonneg | nonpos
        · exact .inl ⟨nonneg, le_mul_of_one_le_left nonneg atLeastOne⟩
        · exact .inr ⟨mul_le_of_one_le_left nonpos atLeastOne, nonpos⟩
      simp only [amount] at between
      have numberFits : signed64? number.value = some number.value :=
        signed64?_of_between within (by omega)
      simp only [Component.millis?, numberFits, Option.bind_eq_bind, Option.bind_some,
        Int.mul_comm number.value]
      exact signed64?_of_between within between

theorem natAbs_le_of_millis? {expression : Expression} {millis : Int}
    (computed : expression.millis? = some millis) : (millis.natAbs : Int) ≤ bound := by
  simp only [Expression.millis?, Option.bind_eq_bind, Option.bind_eq_some_iff,
    Option.ite_none_right_eq_some, Option.some.injEq] at computed
  obtain ⟨_, -, _, -, _, -, _, -, _, -, _, -, _, -, _, -, total, -, within, rfl⟩ := computed
  exact within

/-- Where the parts have one sign, every sum of some of them lies between zero and the sum
of all of them, so that all steps fit when the value does. -/
theorem millis?_of_oneSign {expression : Expression} (oneSign : expression.OneSign)
    (within : (expression.exactMillis.natAbs : Int) ≤ bound) :
    expression.millis? = some expression.exactMillis := by
  have signed (total : Int) : (if expression.negative then -total else total) =
      signFactor expression.negative * total := by
    unfold signFactor
    split <;> omega
  have sized (total : Int) : (signFactor expression.negative * total).natAbs = total.natAbs := by
    unfold signFactor
    split <;> omega
  have sum := within
  rw [exactMillis, sized] at sum
  simp only [OneSign, parts, List.forall_mem_cons, List.not_mem_nil] at oneSign
  have days : Component.millis? dayMillis expression.days = some _ :=
    millis?_of_between (by decide) sum (by simp only [dayMillis]; omega)
  have hours : Component.millis? hourMillis expression.hours = some _ :=
    millis?_of_between (by decide) sum (by simp only [hourMillis]; omega)
  have minutes : Component.millis? minuteMillis expression.minutes = some _ :=
    millis?_of_between (by decide) sum (by simp only [minuteMillis]; omega)
  have seconds : Component.millis? secondMillis expression.seconds = some _ :=
    millis?_of_between (by decide) sum (by simp only [secondMillis]; omega)
  have whole : signed64? expression.exactMillis = some _ :=
    signed64?_of_between within (by omega)
  simp only [exactMillis] at within whole ⊢
  simp only [Expression.millis?, days, hours, minutes, seconds, fractionMillis_eq, signed,
    Option.bind_eq_bind, Option.bind_some]
  simp (disch := omega) only [dayMillis, hourMillis, minuteMillis, secondMillis, Nat.cast_ofNat,
    signed64?_of_between sum, Option.bind_some, whole, if_pos within]

end Expression

/-- An expression whose parts have one sign is out of range exactly when its value is
beyond the bound. -/
theorem parseMillis_of_oneSign {input : String} {expression : Expression}
    (isExpression : IsExpression expression (trim input.toList))
    (oneSign : expression.OneSign) :
    parseMillis input =
      if (expression.exactMillis.natAbs : Int) ≤ Expression.bound then
        .ok expression.exactMillis
      else
        .error (.overflow input) := by
  rw [parseMillis_of_ne_nil isExpression.ne_nil, Expression.read?_of_isExpression isExpression]
  by_cases within : (expression.exactMillis.natAbs : Int) ≤ Expression.bound
  · simp only [Expression.millis?_of_oneSign oneSign within, within, if_true]
  · cases computed : expression.millis? with
    | none => simp only [computed, within, if_false]
    | some millis =>
        have bounded := Expression.natAbs_le_of_millis? computed
        rw [Expression.eq_exactMillis_of_millis? computed] at bounded
        exact absurd bounded within

end JobConsole.Retention
