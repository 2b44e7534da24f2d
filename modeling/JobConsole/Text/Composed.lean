import JobConsole.Text.CombiningClass
import JobConsole.Text.Composite

/-!
# Composed text

Some characters can be written in several ways: as one character, or as a character
and the marks that join it, and these in several orders.  The composed form of a text
is the same for all of them: every composite is taken apart, marks are ordered by
their classes, and what makes a composite is put together.

A text of the ASCII range is in composed form.
-/

namespace JobConsole.Text

/-- The characters that a character stands for, when it is taken apart at most the
given number of times. -/
def takeApart : Nat → Char → List Char
  | 0, c => [c]
  | times + 1, c =>
      match partsOf? c.toNat with
      | none => [c]
      | some (first, second) => takeApart times (Char.ofNat first) ++ [Char.ofNat second]

/-- No character has to be taken apart more often. -/
def greatestDepth : Nat := 2

/-- Puts a character before a text, and a mark behind the marks of lower classes. -/
def placeMark (c : Char) : List Char → List Char
  | [] => [c]
  | d :: rest =>
      if combiningClass d ≠ 0 ∧ combiningClass d < combiningClass c then d :: placeMark c rest
      else c :: d :: rest

/-- A text with the marks behind each character ordered by their classes.  Marks of
the same class stay in their order. -/
def orderMarks (text : List Char) : List Char :=
  text.foldr placeMark []

/-- The composite of two characters. -/
def join? (first second : Char) : Option Char :=
  (compositeOf? first.toNat second.toNat).map Char.ofNat

/-- Puts a text together behind a character and the marks behind it that do not join
it, in reverse.  A mark joins the character unless a mark of its own class, or of a
higher one, is between them. -/
def putTogether (base : Char) (marks : List Char) : List Char → List Char
  | [] => base :: marks.reverse
  | c :: rest =>
      let isNear :=
        match marks with
        | [] => true
        | mark :: _ => combiningClass mark < combiningClass c
      match if isNear then join? base c else none with
      | some both => putTogether both marks rest
      | none =>
          if combiningClass c = 0 then base :: marks.reverse ++ putTogether c [] rest
          else putTogether base (c :: marks) rest

/-- The composed form of a text. -/
def composed (text : List Char) : List Char :=
  match orderMarks (text.flatMap (takeApart greatestDepth)) with
  | [] => []
  | first :: rest => putTogether first [] rest

theorem perm_placeMark (c : Char) (text : List Char) : (placeMark c text).Perm (c :: text) := by
  induction text with
  | nil => exact .refl _
  | cons d rest ih =>
      unfold placeMark
      split
      · exact (ih.cons d).trans (.swap c d rest)
      · exact .refl _

/-- Ordering marks keeps the characters. -/
theorem perm_orderMarks (text : List Char) : (orderMarks text).Perm text := by
  induction text with
  | nil => exact .refl _
  | cons c rest ih => exact (perm_placeMark c (orderMarks rest)).trans (ih.cons c)

theorem orderMarks_eq_self {text : List Char} (all : ∀ c ∈ text, combiningClass c = 0) :
    orderMarks text = text := by
  induction text with
  | nil => rfl
  | cons c rest ih =>
      have others := ih fun d member => all d (List.mem_cons_of_mem c member)
      change placeMark c (orderMarks rest) = c :: rest
      rw [others]
      cases rest with
      | nil => rfl
      | cons d rest =>
          have zero := all d (List.mem_cons_of_mem c List.mem_cons_self)
          simp [placeMark, zero]

/-- The parts of a composite are beyond the ASCII range, and so is the composite. -/
theorem ascii_lt_of_mem_composites :
    ∀ row ∈ composites, 0x80 ≤ row.1 ∧ ∀ pair ∈ row.2, 0x80 ≤ pair.2 := by
  decide +kernel

theorem partsOf?_eq_none_of_ascii {codePoint : Nat} (ascii : codePoint < 0x80) :
    partsOf? codePoint = none := by
  have noSyllable : Hangul.partsOf? codePoint = none := by
    unfold Hangul.partsOf? Hangul.syllable
    exact if_neg (by omega)
  simp only [partsOf?, noSyllable, listedParts?, List.findSome?_eq_none_iff, Option.map_eq_none_iff,
    List.find?_eq_none, beq_iff_eq]
  intro row member pair isPair same
  have above := (ascii_lt_of_mem_composites row member).2 pair isPair
  omega

theorem compositeOf?_eq_none_of_ascii {first second : Nat} (ascii : second < 0x80) :
    compositeOf? first second = none := by
  have noSyllable : Hangul.compositeOf? first second = none := by
    unfold Hangul.compositeOf? Hangul.vowel Hangul.trailing
    rw [if_neg (by omega), if_neg (by omega)]
  have noRow : composites.lookup second = none := by
    rw [List.lookup_eq_none_iff]
    intro row member
    have above := (ascii_lt_of_mem_composites row member).1
    simp only [bne_iff_ne, ne_eq]
    omega
  simp [compositeOf?, noSyllable, listedComposite?, noRow]

theorem putTogether_eq_self {base : Char} {text : List Char}
    (all : ∀ c ∈ text, c.toNat < 0x80) : putTogether base [] text = base :: text := by
  induction text generalizing base with
  | nil => rfl
  | cons c rest ih =>
      have ascii := all c List.mem_cons_self
      have others : ∀ d ∈ rest, d.toNat < 0x80 :=
        fun d member => all d (List.mem_cons_of_mem c member)
      simp [putTogether, join?, compositeOf?_eq_none_of_ascii ascii,
        combiningClass_eq_zero_of_ascii ascii, ih others]

/-- A text of the ASCII range is in composed form. -/
theorem composed_eq_self {text : List Char} (all : ∀ c ∈ text, c.toNat < 0x80) :
    composed text = text := by
  have whole : text.flatMap (takeApart greatestDepth) = text := by
    induction text with
    | nil => rfl
    | cons c rest ih =>
        have others := ih fun d member => all d (List.mem_cons_of_mem c member)
        have alone : takeApart greatestDepth c = [c] := by
          simp [takeApart, greatestDepth, partsOf?_eq_none_of_ascii (all c List.mem_cons_self)]
        rw [List.flatMap_cons, alone, others]
        rfl
  have inOrder : orderMarks text = text :=
    orderMarks_eq_self fun c member => combiningClass_eq_zero_of_ascii (all c member)
  unfold composed
  rw [whole, inOrder]
  cases text with
  | nil => rfl
  | cons first rest =>
      exact putTogether_eq_self fun c member => all c (List.mem_cons_of_mem first member)

end JobConsole.Text
