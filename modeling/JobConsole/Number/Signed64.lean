/-!
# Signed numbers of 64 bits

Integers are kept as they are; that one fits in a word of 64 bits is a property
of it.  The bounds are literals, so that linear arithmetic sees them.  A number
that does not fit is nothing to `signed64?`, and the nearest bound to
`saturate64`.
-/

namespace JobConsole.Number

/-- The least signed number of 64 bits. -/
def leastSigned64 : Int := -9223372036854775808

/-- The greatest signed number of 64 bits. -/
def greatestSigned64 : Int := 9223372036854775807

/-- A number, if it is a signed number of 64 bits. -/
def signed64? (i : Int) : Option Int :=
  if leastSigned64 ≤ i ∧ i ≤ greatestSigned64 then some i else none

/-- The nearest signed number of 64 bits. -/
def saturate64 (i : Int) : Int :=
  max leastSigned64 (min greatestSigned64 i)

/-- The number that passes the check is the number itself. -/
theorem signed64?_eq_some_iff {i j : Int} :
    signed64? i = some j ↔ i = j ∧ leastSigned64 ≤ i ∧ i ≤ greatestSigned64 := by
  unfold signed64?
  split
  · rename_i fits
    simp only [Option.some.injEq]
    exact ⟨fun same => ⟨same, fits⟩, fun ⟨same, _⟩ => same⟩
  · rename_i large
    simp only [reduceCtorEq, false_iff]
    exact fun ⟨_, fits⟩ => large fits

/-- What saturation gives fits. -/
theorem saturate64_fits (i : Int) :
    leastSigned64 ≤ saturate64 i ∧ saturate64 i ≤ greatestSigned64 := by
  simp only [saturate64, leastSigned64, greatestSigned64]
  omega

/-- A number that fits is its own saturation. -/
theorem saturate64_eq_self {i : Int} (low : leastSigned64 ≤ i) (high : i ≤ greatestSigned64) :
    saturate64 i = i := by
  simp only [saturate64]
  omega

end JobConsole.Number
