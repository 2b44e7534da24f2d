import Mathlib.Data.List.TakeDrop
import JobConsole.Proofs.Text.Digits
import JobConsole.Retention.Expression

/-!
# The grammar of duration expressions

What a duration expression looks like is said here without reading one: an optional
sign, the letter `P`, optional days, and an optional time part with at least one of
hours, minutes and seconds.  Something must stand behind the `P`.

`Expression.read?_eq_some_iff` says that the reader accepts exactly these texts and gives
their parts.  A part that is not there must not be read out of what follows it; `Lacks`
says which texts have nothing of a part at their front.
-/

namespace JobConsole.Retention

open JobConsole.Text

/-! ## Letters -/

theorem toNat_toUpper (c : Char) :
    c.toUpper.toNat = if 97 ≤ c.toNat ∧ c.toNat ≤ 122 then c.toNat - 32 else c.toNat := by
  unfold Char.toUpper
  have inside : 'a'.val ≤ c.val ∧ c.val ≤ 'z'.val ↔ 97 ≤ c.toNat ∧ c.toNat ≤ 122 := Iff.rfl
  have wrap : ('A'.val - 'a'.val).toNat = 4294967264 := rfl
  split
  · rename_i lower
    rw [inside] at lower
    rw [if_pos lower]
    change (c.val + ('A'.val - 'a'.val)).toNat = c.val.toNat - 32
    change 97 ≤ c.val.toNat ∧ c.val.toNat ≤ 122 at lower
    rw [UInt32.toNat_add, wrap]
    omega
  · rename_i other
    rw [inside] at other
    rw [if_neg other]

theorem toNat_toLower (c : Char) :
    c.toLower.toNat = if 65 ≤ c.toNat ∧ c.toNat ≤ 90 then c.toNat + 32 else c.toNat := by
  unfold Char.toLower
  have inside : c.val ≥ 'A'.val ∧ c.val ≤ 'Z'.val ↔ 65 ≤ c.toNat ∧ c.toNat ≤ 90 := Iff.rfl
  have wrap : ('a'.val - 'A'.val).toNat = 32 := rfl
  split
  · rename_i upper
    rw [inside] at upper
    rw [if_pos upper]
    change (c.val + ('a'.val - 'A'.val)).toNat = c.val.toNat + 32
    change 65 ≤ c.val.toNat ∧ c.val.toNat ≤ 90 at upper
    rw [UInt32.toNat_add, wrap]
    omega
  · rename_i other
    rw [inside] at other
    rw [if_neg other]

/-- Two characters have an upper-case letter for their upper case: that letter and its
lower case. -/
theorem toUpper_eq_iff {letter c : Char} (upper : 65 ≤ letter.toNat ∧ letter.toNat ≤ 90) :
    c.toUpper = letter ↔ c = letter ∨ c = letter.toLower := by
  simp only [← Char.toNat_inj, toNat_toUpper, toNat_toLower, if_pos upper]
  split <;> omega

/-- The letters that an expression is made of. -/
def letters : List Char :=
  ['P', 'D', 'T', 'H', 'M', 'S']

/-- The forms of a letter: both cases, and the long s for an `S`. -/
def forms (letter : Char) : List Char :=
  if letter = 'S' then ['S', 's', '\u017f'] else [letter, letter.toLower]

theorem range_of_mem_letters {letter : Char} (member : letter ∈ letters) :
    65 ≤ letter.toNat ∧ letter.toNat ≤ 90 := by
  have checked : letters.all (fun letter => 65 ≤ letter.toNat ∧ letter.toNat ≤ 90) = true := by
    decide
  simpa using List.all_eq_true.mp checked letter member

theorem isLetter_iff_mem_forms {letter c : Char} (member : letter ∈ letters) :
    isLetter letter c = true ↔ c ∈ forms letter := by
  have lowerS : 'S'.toLower = 's' := rfl
  unfold isLetter forms
  rw [Bool.or_eq_true, beq_iff_eq, toUpper_eq_iff (range_of_mem_letters member)]
  split
  · rename_i isS
    subst isS
    simp [lowerS, or_assoc]
  · rename_i other
    simp [other]

/-- A form of a letter is a form of no other letter, and neither a digit nor a sign. -/
theorem form_cases :
    ∀ letter ∈ letters, ∀ c ∈ forms letter, isDigit c = false ∧ c ≠ '-' ∧ c ≠ '+' ∧
      ∀ other ∈ letters, other ≠ letter → isLetter other c = false := by
  have checked : letters.all (fun letter => (forms letter).all fun c =>
      !isDigit c && c != '-' && c != '+' &&
        letters.all fun other => other == letter || !isLetter other c) = true := by
    decide
  intro letter member c form
  have ofForm := List.all_eq_true.mp (List.all_eq_true.mp checked letter member) c form
  simp only [Bool.and_eq_true, Bool.not_eq_true', bne_iff_ne, List.all_eq_true, Bool.or_eq_true,
    beq_iff_eq] at ofForm
  obtain ⟨⟨⟨noDigit, noMinus⟩, noPlus⟩, others⟩ := ofForm
  refine ⟨noDigit, noMinus, noPlus, ?_⟩
  intro other isOther apart
  exact (others other isOther).resolve_left apart

/-- The marks in front of a fraction are no digits and no letters. -/
theorem mark_cases :
    ∀ mark ∈ ['.', ','], isDigit mark = false ∧
      ∀ letter ∈ letters, isLetter letter mark = false := by
  have checked : ['.', ','].all (fun mark =>
      !isDigit mark && letters.all fun letter => !isLetter letter mark) = true := by
    decide
  intro mark isMark
  have ofMark := List.all_eq_true.mp checked mark isMark
  simp only [Bool.and_eq_true, Bool.not_eq_true', List.all_eq_true] at ofMark
  exact ofMark

theorem readLetter?_of_form {letter c : Char} (member : letter ∈ letters) (form : c ∈ forms letter)
    (rest : List Char) : readLetter? letter (c :: rest) = some rest := by
  have isForm := (isLetter_iff_mem_forms member).mpr form
  simp only [readLetter?, isForm, if_true]

theorem form_of_readLetter? {letter : Char} {text rest : List Char} (member : letter ∈ letters)
    (read : readLetter? letter text = some rest) : ∃ c ∈ forms letter, text = c :: rest := by
  cases text with
  | nil => cases read
  | cons c behind =>
      simp only [readLetter?] at read
      split at read
      · rename_i isForm
        cases read
        exact ⟨c, (isLetter_iff_mem_forms member).mp isForm, rfl⟩
      · cases read

/-! ## Signs and numbers -/

/-- The sign of a number or of a whole expression. -/
inductive IsSign : Bool → List Char → Prop
  | absent : IsSign false []
  | plus : IsSign false ['+']
  | minus : IsSign true ['-']

/-- A number is a sign and at least one digit. -/
def IsNumber (number : Component) (text : List Char) : Prop :=
  ∃ sign, IsSign number.negative sign ∧ text = sign ++ number.digits ∧
    number.digits ≠ [] ∧ ∀ c ∈ number.digits, isDigit c = true

theorem readSign_of_ne {c : Char} (noMinus : c ≠ '-') (noPlus : c ≠ '+') (rest : List Char) :
    readSign (c :: rest) = (false, c :: rest) := by
  unfold readSign
  split
  · rename_i same
    exact absurd (List.cons.inj same).1 noMinus
  · rename_i same
    exact absurd (List.cons.inj same).1 noPlus
  · rfl

theorem IsSign.read {negative : Bool} {sign : List Char} (isSign : IsSign negative sign)
    {c : Char} (noMinus : c ≠ '-') (noPlus : c ≠ '+') (rest : List Char) :
    readSign (sign ++ c :: rest) = (negative, c :: rest) := by
  cases isSign with
  | absent => exact readSign_of_ne noMinus noPlus rest
  | plus => rfl
  | minus => rfl

theorem isSign_of_readSign {negative : Bool} {text rest : List Char}
    (read : readSign text = (negative, rest)) :
    ∃ sign, IsSign negative sign ∧ text = sign ++ rest := by
  unfold readSign at read
  split at read
  · cases read
    exact ⟨['-'], .minus, rfl⟩
  · cases read
    exact ⟨['+'], .plus, rfl⟩
  · cases read
    exact ⟨[], .absent, rfl⟩

theorem readComponent?_append {number : Component} {shown : List Char} (rest : List Char)
    (isNumber : IsNumber number shown) (stops : ∀ c ∈ rest.head?, isDigit c = false) :
    readComponent? (shown ++ rest) = some (number, rest) := by
  obtain ⟨sign, isSign, rfl, filled, areDigits⟩ := isNumber
  obtain ⟨negative, digits⟩ := number
  have span := span_isDigit_append areDigits stops
  cases digits with
  | nil => exact absurd rfl filled
  | cons first digits =>
      have isFirst := areDigits first List.mem_cons_self
      have noMinus : first ≠ '-' := by
        rintro rfl
        exact absurd isFirst (by decide)
      have noPlus : first ≠ '+' := by
        rintro rfl
        exact absurd isFirst (by decide)
      rw [List.cons_append] at span
      simp only [readComponent?, List.append_assoc, List.cons_append,
        isSign.read noMinus noPlus, span]

theorem isNumber_of_readComponent? {number : Component} {text rest : List Char}
    (read : readComponent? text = some (number, rest)) :
    ∃ shown, IsNumber number shown ∧ text = shown ++ rest := by
  unfold readComponent? at read
  rcases signRead : readSign text with ⟨negative, behind⟩
  obtain ⟨sign, isSign, rfl⟩ := isSign_of_readSign signRead
  rw [signRead] at read
  simp only [List.span_eq_takeWhile_dropWhile] at read
  split at read
  · cases read
  · rename_i digits after filled split
    cases read
    obtain ⟨rfl, rfl⟩ := Prod.mk.inj split
    refine ⟨sign ++ behind.takeWhile isDigit, ⟨sign, isSign, rfl, ?_, ?_⟩, ?_⟩
    · exact fun nothing => filled nothing
    · exact List.all_eq_true.mp List.all_takeWhile
    · rw [List.append_assoc, List.takeWhile_append_dropWhile]

/-! ## Optional parts -/

/-- A number with its unit. -/
def IsUnit (unit : Char) (number : Component) (text : List Char) : Prop :=
  ∃ shown, IsNumber number shown ∧ ∃ letter ∈ forms unit, text = shown ++ [letter]

/-- A part that may be missing. -/
inductive Optionally {α : Type} (IsPart : α → List Char → Prop) : Option α → List Char → Prop
  | absent : Optionally IsPart none []
  | present {part : α} {text : List Char} (isPart : IsPart part text) :
      Optionally IsPart (some part) text

/-- The fraction of the seconds: a mark and at most nine digits, or nothing. -/
inductive IsFraction : List Char → List Char → Prop
  | absent : IsFraction [] []
  | present {mark : Char} {digits : List Char} (isMark : mark ∈ ['.', ','])
      (short : digits.length ≤ 9) (areDigits : ∀ c ∈ digits, isDigit c = true) :
      IsFraction digits (mark :: digits)

/-- The seconds with their fraction, which may be missing together. -/
inductive IsSeconds : Option Component → List Char → List Char → Prop
  | absent : IsSeconds none [] []
  | present {number : Component} {fraction shown behind : List Char} {letter : Char}
      (isNumber : IsNumber number shown) (isFraction : IsFraction fraction behind)
      (form : letter ∈ forms 'S') : IsSeconds (some number) fraction (shown ++ behind ++ [letter])

/-- A text has no number with the given unit at its front: it is at its end, it begins
with a letter, or it begins with a number behind which something else stands. -/
inductive Lacks (unit : Char) : List Char → Prop
  | nothing : Lacks unit []
  | letter {letter c : Char} (member : letter ∈ letters) (form : c ∈ forms letter)
      (rest : List Char) : Lacks unit (c :: rest)
  | number {number : Component} {shown : List Char} {c : Char} (isNumber : IsNumber number shown)
      (noDigit : isDigit c = false) (other : isLetter unit c = false) (rest : List Char) :
      Lacks unit (shown ++ c :: rest)

/-- Nothing is read from a text that has nothing of the unit at its front. -/
theorem Lacks.read {unit : Char} {text : List Char} (lacks : Lacks unit text) :
    readUnit unit text = (none, text) := by
  cases lacks with
  | nothing => rfl
  | @letter letter c member form rest =>
      obtain ⟨noDigit, noMinus, noPlus, -⟩ := form_cases letter member c form
      have noSpan : (c :: rest).span isDigit = ([], c :: rest) := by
        rw [List.span_eq_takeWhile_dropWhile, List.takeWhile_cons_of_neg (by simp [noDigit]),
          List.dropWhile_cons_of_neg (by simp [noDigit])]
      simp only [readUnit, readComponent?, readSign_of_ne noMinus noPlus, noSpan]
  | number isNumber noDigit other rest =>
      have read := readComponent?_append (_ :: rest) isNumber (by simpa using noDigit)
      simp only [readUnit, read, readLetter?, other, Bool.false_eq_true, if_false]

/-- An optional number with its unit is read off, whatever follows it. -/
theorem readUnit_append {unit : Char} {number : Option Component} {shown : List Char}
    (rest : List Char) (member : unit ∈ letters) (isPart : Optionally (IsUnit unit) number shown)
    (lacks : number = none → Lacks unit rest) :
    readUnit unit (shown ++ rest) = (number, rest) := by
  cases isPart with
  | absent => exact (lacks rfl).read
  | present isPart =>
      obtain ⟨digits, isNumber, letter, form, rfl⟩ := isPart
      have noDigit := (form_cases unit member letter form).1
      have read := readComponent?_append (letter :: rest) isNumber (by simpa using noDigit)
      simp only [readUnit, List.append_assoc, List.singleton_append, read,
        readLetter?_of_form member form]

theorem isUnit_of_readUnit {unit : Char} {number : Option Component} {text rest : List Char}
    (member : unit ∈ letters) (read : readUnit unit text = (number, rest)) :
    ∃ shown, Optionally (IsUnit unit) number shown ∧ text = shown ++ rest := by
  unfold readUnit at read
  split at read
  · cases read
    exact ⟨[], .absent, rfl⟩
  · rename_i component behind numberRead
    obtain ⟨digits, isNumber, rfl⟩ := isNumber_of_readComponent? numberRead
    split at read
    · rename_i after letterRead
      cases read
      obtain ⟨letter, form, rfl⟩ := form_of_readLetter? member letterRead
      refine ⟨digits ++ [letter], .present ⟨digits, isNumber, letter, form, rfl⟩, ?_⟩
      rw [List.append_assoc, List.singleton_append]
    · cases read
      exact ⟨[], .absent, rfl⟩

/-! ## Seconds -/

/-- A fraction is read off in front of a form of the letter `S`. -/
theorem readFraction_append {fraction shown : List Char} (isFraction : IsFraction fraction shown)
    {letter : Char} (form : letter ∈ forms 'S') (rest : List Char) :
    readFraction (shown ++ letter :: rest) = (fraction, letter :: rest) := by
  have noDigit := (form_cases 'S' (by decide) letter form).1
  cases isFraction with
  | absent =>
      have noMark : ¬ (letter = '.' ∨ letter = ',') := by
        rintro (rfl | rfl)
        · exact absurd form (by decide)
        · exact absurd form (by decide)
      rw [List.nil_append, readFraction, if_neg noMark]
  | @present mark fraction isMark short areDigits =>
      have isPoint : mark = '.' ∨ mark = ',' := by simpa using isMark
      have cut : ((fraction ++ letter :: rest).take 9).takeWhile isDigit = fraction := by
        rw [List.take_append, List.take_of_length_le short, List.takeWhile_append_of_pos areDigits]
        cases 9 - fraction.length with
        | zero => simp
        | succ more => simp [noDigit]
      rw [List.cons_append, readFraction, if_pos isPoint, cut, List.drop_left]

theorem isFraction_of_readFraction {fraction text rest : List Char}
    (read : readFraction text = (fraction, rest)) :
    ∃ shown, IsFraction fraction shown ∧ text = shown ++ rest := by
  cases text with
  | nil =>
      cases read
      exact ⟨[], .absent, rfl⟩
  | cons mark behind =>
      simp only [readFraction] at read
      split at read
      · rename_i isMark
        cases read
        have isPrefix : (behind.take 9).takeWhile isDigit <+: behind :=
          (List.takeWhile_prefix _).trans (List.take_prefix 9 behind)
        refine ⟨mark :: (behind.take 9).takeWhile isDigit, .present ?_ ?_ ?_, ?_⟩
        · simpa using isMark
        · exact Nat.le_trans (List.takeWhile_prefix _).length_le (List.length_take_le 9 behind)
        · exact List.all_eq_true.mp List.all_takeWhile
        · rw [List.cons_append, List.prefix_iff_eq_append.mp isPrefix]
      · cases read
        exact ⟨[], .absent, rfl⟩

/-- Seconds are read off a text that they end. -/
theorem IsSeconds.read {number : Option Component} {fraction shown : List Char}
    (isSeconds : IsSeconds number fraction shown) : readSeconds shown = (number, fraction, []) := by
  cases isSeconds with
  | absent => rfl
  | @present number fraction digits behind letter isNumber isFraction form =>
      have stops : ∀ c ∈ (behind ++ [letter]).head?, isDigit c = false := by
        cases isFraction with
        | absent => simpa using (form_cases 'S' (by decide) letter form).1
        | present isMark short areDigits => simpa using (mark_cases _ isMark).1
      simp only [readSeconds, List.append_assoc, readComponent?_append _ isNumber stops,
        readFraction_append isFraction form, readLetter?_of_form (by decide : 'S' ∈ letters) form]

theorem isSeconds_of_readSeconds {number : Option Component} {fraction text rest : List Char}
    (read : readSeconds text = (number, fraction, rest)) :
    ∃ shown, IsSeconds number fraction shown ∧ text = shown ++ rest := by
  unfold readSeconds at read
  split at read
  · cases read
    exact ⟨[], .absent, rfl⟩
  · rename_i component behind numberRead
    obtain ⟨digits, isNumber, rfl⟩ := isNumber_of_readComponent? numberRead
    rcases fractionRead : readFraction behind with ⟨found, after⟩
    obtain ⟨point, isFraction, rfl⟩ := isFraction_of_readFraction fractionRead
    rw [fractionRead] at read
    simp only at read
    split at read
    · rename_i last letterRead
      cases read
      obtain ⟨letter, form, rfl⟩ := form_of_readLetter? (by decide) letterRead
      refine ⟨digits ++ point ++ [letter], .present isNumber isFraction form, ?_⟩
      simp only [List.append_assoc, List.singleton_append]
    · cases read
      exact ⟨[], .absent, rfl⟩

/-- Seconds are neither hours nor minutes. -/
theorem IsSeconds.lacks {number : Option Component} {fraction shown : List Char}
    (isSeconds : IsSeconds number fraction shown) {unit : Char} (member : unit ∈ letters)
    (ne : unit ≠ 'S') : Lacks unit shown := by
  cases isSeconds with
  | absent => exact .nothing
  | present isNumber isFraction form =>
      rw [List.append_assoc]
      cases isFraction with
      | absent =>
          obtain ⟨noDigit, -, -, others⟩ := form_cases 'S' (by decide) _ form
          exact .number isNumber noDigit (others unit member ne) []
      | present isMark short areDigits =>
          obtain ⟨noDigit, noLetter⟩ := mark_cases _ isMark
          exact .number isNumber noDigit (noLetter unit member) _

/-! ## Whole expressions -/

/-- The time part of an expression: nothing, or the letter `T` and at least one of hours,
minutes and seconds. -/
inductive IsTime (expression : Expression) : List Char → Prop
  | absent (noHours : expression.hours = none) (noMinutes : expression.minutes = none)
      (noSeconds : expression.seconds = none) (noFraction : expression.fraction = []) :
      IsTime expression []
  | present {letter : Char} {hours minutes seconds : List Char} (form : letter ∈ forms 'T')
      (isHours : Optionally (IsUnit 'H') expression.hours hours)
      (isMinutes : Optionally (IsUnit 'M') expression.minutes minutes)
      (isSeconds : IsSeconds expression.seconds expression.fraction seconds)
      (filled : expression.hours.isSome ∨ expression.minutes.isSome ∨ expression.seconds.isSome) :
      IsTime expression (letter :: (hours ++ minutes ++ seconds))

/-- A duration expression: an optional sign, the letter `P`, optional days and an
optional time part, of which at least one is there. -/
def IsExpression (expression : Expression) (text : List Char) : Prop :=
  ∃ sign letter days time, text = sign ++ letter :: (days ++ time) ∧
    IsSign expression.negative sign ∧ letter ∈ forms 'P' ∧
    Optionally (IsUnit 'D') expression.days days ∧ IsTime expression time ∧
    (expression.days.isSome ∨ time ≠ [])

namespace Expression

/-- A number of minutes, or what follows where there is none, is no number of hours. -/
theorem lacks_hours {minutes seconds : Option Component} {fraction shown rest : List Char}
    (isMinutes : Optionally (IsUnit 'M') minutes shown)
    (isSeconds : IsSeconds seconds fraction rest) :
    Lacks 'H' (shown ++ rest) := by
  cases isMinutes with
  | absent => exact isSeconds.lacks (by decide) (by decide)
  | present isPart =>
      obtain ⟨digits, isNumber, letter, form, rfl⟩ := isPart
      obtain ⟨noDigit, -, -, others⟩ := form_cases 'M' (by decide) letter form
      rw [List.append_assoc]
      exact .number isNumber noDigit (others 'H' (by decide) (by decide)) rest

/-- The reader accepts a time part. -/
theorem readTime?_of_parts {expression : Expression} {hours minutes seconds : List Char}
    (isHours : Optionally (IsUnit 'H') expression.hours hours)
    (isMinutes : Optionally (IsUnit 'M') expression.minutes minutes)
    (isSeconds : IsSeconds expression.seconds expression.fraction seconds)
    (filled : expression.hours.isSome ∨ expression.minutes.isSome ∨ expression.seconds.isSome) :
    readTime? expression.negative expression.days (hours ++ minutes ++ seconds) =
      some expression := by
  have hoursRead := readUnit_append _ (by decide) isHours
    fun _ => lacks_hours isMinutes isSeconds
  have minutesRead := readUnit_append _ (by decide) isMinutes
    fun _ => isSeconds.lacks (by decide) (by decide)
  simp only [readTime?, List.append_assoc, hoursRead, minutesRead, isSeconds.read,
    List.isEmpty_nil, true_and, filled, if_true]

theorem isTime_of_readTime? {negative : Bool} {days : Option Component} {text : List Char}
    {expression : Expression} (read : readTime? negative days text = some expression)
    {letter : Char} (form : letter ∈ forms 'T') :
    expression.negative = negative ∧ expression.days = days ∧
      IsTime expression (letter :: text) := by
  unfold readTime? at read
  rcases hoursRead : readUnit 'H' text with ⟨hours, behind⟩
  rcases minutesRead : readUnit 'M' behind with ⟨minutes, after⟩
  rcases secondsRead : readSeconds after with ⟨seconds, fraction, rest⟩
  simp only [hoursRead, minutesRead, secondsRead] at read
  split at read
  · rename_i complete
    cases read
    obtain ⟨atEnd, filled⟩ := complete
    obtain ⟨hoursShown, isHours, rfl⟩ := isUnit_of_readUnit (by decide) hoursRead
    obtain ⟨minutesShown, isMinutes, rfl⟩ := isUnit_of_readUnit (by decide) minutesRead
    obtain ⟨secondsShown, isSeconds, rfl⟩ := isSeconds_of_readSeconds secondsRead
    rw [List.isEmpty_iff.mp atEnd, List.append_nil, ← List.append_assoc]
    exact ⟨rfl, rfl, .present form isHours isMinutes isSeconds filled⟩
  · cases read

/-- The reader accepts what the grammar allows. -/
theorem read?_of_isExpression {expression : Expression} {text : List Char}
    (isExpression : IsExpression expression text) : read? text = some expression := by
  obtain ⟨sign, letter, days, time, rfl, isSign, form, isDays, isTime, filled⟩ := isExpression
  obtain ⟨-, noMinus, noPlus, -⟩ := form_cases 'P' (by decide) letter form
  have signRead := isSign.read noMinus noPlus (days ++ time)
  have letterRead := readLetter?_of_form (by decide : 'P' ∈ letters) form (days ++ time)
  cases isTime with
  | absent noHours noMinutes noSeconds noFraction =>
      have daysRead := readUnit_append [] (by decide) isDays fun _ => .nothing
      have hasDays : expression.days.isSome = true := by simpa using filled
      obtain ⟨negative, found, hours, minutes, seconds, fraction⟩ := expression
      subst noHours noMinutes noSeconds noFraction
      simp only [read?, signRead, letterRead, daysRead, hasDays, Option.bind_eq_bind,
        Option.bind_some, if_true]
  | @present first hours minutes seconds formT isHours isMinutes isSeconds holds =>
      have daysRead := readUnit_append (first :: (hours ++ minutes ++ seconds))
        (by decide) isDays fun _ => .letter (by decide) formT _
      have firstRead := readLetter?_of_form (by decide : 'T' ∈ letters) formT
        (hours ++ minutes ++ seconds)
      simp only [read?, signRead, letterRead, daysRead, firstRead, Option.bind_eq_bind,
        Option.bind_some]
      exact readTime?_of_parts isHours isMinutes isSeconds holds

/-- What the reader accepts is allowed by the grammar. -/
theorem isExpression_of_read? {expression : Expression} {text : List Char}
    (read : read? text = some expression) : IsExpression expression text := by
  unfold read? at read
  rcases signRead : readSign text with ⟨negative, signed⟩
  obtain ⟨sign, isSign, rfl⟩ := isSign_of_readSign signRead
  simp only [signRead, Option.bind_eq_bind, Option.bind_eq_some_iff] at read
  obtain ⟨behind, letterRead, read⟩ := read
  obtain ⟨letter, form, rfl⟩ := form_of_readLetter? (by decide) letterRead
  rcases daysRead : readUnit 'D' behind with ⟨days, time⟩
  obtain ⟨shown, isDays, rfl⟩ := isUnit_of_readUnit (by decide) daysRead
  rw [daysRead] at read
  cases time with
  | nil =>
      simp only at read
      split at read
      · rename_i hasDays
        cases read
        exact ⟨sign, letter, shown, [], rfl, isSign, form, isDays, .absent rfl rfl rfl rfl,
          .inl hasDays⟩
      · cases read
  | cons first rest =>
      simp only [Option.bind_eq_some_iff] at read
      obtain ⟨after, firstRead, read⟩ := read
      obtain ⟨c, formT, same⟩ := form_of_readLetter? (by decide) firstRead
      cases same
      obtain ⟨rfl, rfl, isTime⟩ := isTime_of_readTime? read formT
      exact ⟨sign, letter, shown, first :: rest, rfl, isSign, form, isDays, isTime,
        .inr (List.cons_ne_nil _ _)⟩

/-- The reader accepts exactly the duration expressions. -/
theorem read?_eq_some_iff {expression : Expression} {text : List Char} :
    read? text = some expression ↔ IsExpression expression text :=
  ⟨isExpression_of_read?, read?_of_isExpression⟩

theorem read?_eq_none_iff {text : List Char} :
    read? text = none ↔ ∀ expression, ¬ IsExpression expression text := by
  simp only [Option.eq_none_iff_forall_not_mem, Option.mem_def, read?_eq_some_iff]

end Expression

/-- A text is one expression only. -/
theorem IsExpression.unique {expression other : Expression} {text : List Char}
    (isExpression : IsExpression expression text) (also : IsExpression other text) :
    expression = other := by
  have read := Expression.read?_eq_some_iff.mpr isExpression
  have readAlso := Expression.read?_eq_some_iff.mpr also
  exact Option.some.inj (read.symm.trans readAlso)

end JobConsole.Retention
