/-!
# Blanks

White space in the sense of the Unicode property `White_Space`: twenty-five
characters, of which six are ASCII.  Texts are trimmed and cut into words at
these characters and at no others, so a zero-width space or a byte-order mark
is ordinary text.
-/

namespace JobConsole.Text

/-- The characters with the property `White_Space`. -/
def isBlank (c : Char) : Bool :=
  let n := c.toNat
  (0x09 ≤ n && n ≤ 0x0d) || n == 0x20 || n == 0x85 || n == 0xa0 || n == 0x1680 ||
    (0x2000 ≤ n && n ≤ 0x200a) || n == 0x2028 || n == 0x2029 || n == 0x202f ||
    n == 0x205f || n == 0x3000

/-- Every character that the core library calls white space is a blank. -/
theorem isBlank_of_isWhitespace {c : Char} (white : c.isWhitespace = true) :
    isBlank c = true := by
  simp only [Char.isWhitespace, Bool.or_eq_true, decide_eq_true_eq] at white
  rcases white with ((rfl | rfl) | rfl) | rfl <;> decide

/-- A text without its leading blanks. -/
def trimStart (text : List Char) : List Char :=
  text.dropWhile isBlank

/-- A text without its trailing blanks. -/
def trimEnd (text : List Char) : List Char :=
  (text.reverse.dropWhile isBlank).reverse

/-- A text without the blanks at its two ends. -/
def trim (text : List Char) : List Char :=
  trimEnd (trimStart text)

@[simp]
theorem trim_nil : trim [] = [] :=
  rfl

/-- The words of a text that continues the given word, whose characters stand
in reverse. -/
def wordsAfter (word : List Char) : List Char → List (List Char)
  | [] => if word.isEmpty then [] else [word.reverse]
  | c :: rest =>
      if isBlank c then
        if word.isEmpty then wordsAfter [] rest else word.reverse :: wordsAfter [] rest
      else
        wordsAfter (c :: word) rest

/-- The maximal runs of characters that are not blank. -/
def words (text : List Char) : List (List Char) :=
  wordsAfter [] text

/-- No word is empty. -/
theorem ne_nil_of_mem_wordsAfter {word text found : List Char}
    (member : found ∈ wordsAfter word text) : found ≠ [] := by
  induction text generalizing word with
  | nil =>
      cases word with
      | nil => simp [wordsAfter] at member
      | cons c word => simp_all [wordsAfter]
  | cons c rest ih =>
      simp only [wordsAfter] at member
      split at member
      · cases word with
        | nil => exact ih (by simpa using member)
        | cons d word =>
            rcases List.mem_cons.mp (by simpa using member) with rfl | later
            · simp
            · exact ih later
      · exact ih member

/-- No word of a text is empty. -/
theorem ne_nil_of_mem_words {text found : List Char} (member : found ∈ words text) :
    found ≠ [] :=
  ne_nil_of_mem_wordsAfter member

end JobConsole.Text
