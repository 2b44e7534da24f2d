import JobConsole.Text.Extending
import JobConsole.Text.Ranges
import JobConsole.Text.Unprintable

/-!
# Quoted texts

Error messages show a text between double quotes, so that its ends and its
invisible characters can be seen.  Five characters and the two quoting
characters have short forms; a character that would not show, or that would
join the character before it, is written by its code point in braces; every
other character stands for itself.
-/

namespace JobConsole.Text

/-- The letters that show nothing: the fillers of Hangul syllables. -/
def isFiller (codePoint : Nat) : Bool :=
  codePoint == 0x115f || codePoint == 0x1160 || codePoint == 0x3164 || codePoint == 0xffa0

/-- Whether a character can stand for itself between quotes.  The ASCII range
is decided first; it needs no table. -/
def isPlain (c : Char) : Bool :=
  let n := c.toNat
  if n < 0x7f then
    0x20 ≤ n
  else
    !(inRanges unprintableRanges n || inRanges extendingRanges n || isFiller n)

/-- The least form of a number in base sixteen, with small letters. -/
def hexDigits (n : Nat) : List Char :=
  Nat.toDigits 16 n

/-- How a character is written between double quotes. -/
def quotedChar (c : Char) : List Char :=
  if c == '\x00' then ['\\', '0']
  else if c == '\t' then ['\\', 't']
  else if c == '\n' then ['\\', 'n']
  else if c == '\r' then ['\\', 'r']
  else if c == '\"' then ['\\', '\"']
  else if c == '\\' then ['\\', '\\']
  else if isPlain c then [c]
  else ['\\', 'u', '\x7b'] ++ hexDigits c.toNat ++ ['\x7d']

/-- A text between double quotes. -/
def quoted (text : String) : String :=
  String.ofList ('\"' :: text.toList.flatMap quotedChar ++ ['\"'])

/-- The characters of a quoted text are the written forms of the characters of
the text, between two quotes. -/
theorem toList_quoted (text : String) :
    (quoted text).toList = '\"' :: text.toList.flatMap quotedChar ++ ['\"'] := by
  simp [quoted]

/-- A letter or digit of the ASCII range stands for itself. -/
theorem quotedChar_of_isAlphanum {c : Char} (plain : c.isAlphanum = true) :
    quotedChar c = [c] := by
  have bounds : 0x20 ≤ c.toNat ∧ c.toNat < 0x7f ∧ c ≠ '\"' ∧ c ≠ '\\' := by
    unfold Char.isAlphanum Char.isAlpha Char.isUpper Char.isLower Char.isDigit at plain
    simp only [Bool.or_eq_true, Bool.and_eq_true, decide_eq_true_eq, ge_iff_le,
      UInt32.le_iff_toNat_le, UInt32.reduceToNat, Char.reduceVal] at plain
    refine ⟨?_, ?_, ?_, ?_⟩
    · simp only [Char.toNat]
      omega
    · simp only [Char.toNat]
      omega
    · rintro rfl
      simp at plain
    · rintro rfl
      simp at plain
  obtain ⟨low, high, notQuote, notSlash⟩ := bounds
  have distinct : ∀ d : Char, d.toNat < 0x20 → c ≠ d := by
    rintro d small rfl
    omega
  have isNul := distinct '\x00' (by decide)
  have isTab := distinct '\t' (by decide)
  have isLf := distinct '\n' (by decide)
  have isCr := distinct '\r' (by decide)
  simp [quotedChar, isPlain, isNul, isTab, isLf, isCr, notQuote, notSlash, low, high]

end JobConsole.Text
