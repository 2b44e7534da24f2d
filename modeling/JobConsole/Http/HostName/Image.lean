import JobConsole.Http.HostName.Listed
import JobConsole.Http.HostName.Shifted
import JobConsole.Text.Mark
import JobConsole.Text.Unprintable

/-!
# Images of characters in host names

Host names that mean the same are written in many ways.  In a name every character
has an image: capitals have small letters, characters of other shapes have the plain
ones, and some characters have nothing.  A character that has no image may not stand
in a name.  The images are those of Unicode 17.
-/

namespace JobConsole.Http.HostName

open JobConsole.Text

/-- The characters that do not count in a name. -/
def ignoredRanges : List (Nat × Nat) :=
  [(0xad, 0xad), (0x34f, 0x34f), (0x115f, 0x1160), (0x17b4, 0x17b5), (0x180b, 0x180f),
    (0x200b, 0x200b), (0x2060, 0x2064), (0x206a, 0x206f), (0x3164, 0x3164), (0xfe00, 0xfe0f),
    (0xfeff, 0xfeff), (0xffa0, 0xffa0), (0x1bca0, 0x1bca3), (0x1d173, 0x1d17a),
    (0xe0100, 0xe01ef)]

/-- The printable characters that may not stand in a name. -/
def refusedRanges : List (Nat × Nat) :=
  [(0xa8, 0xa8), (0xaf, 0xaf), (0xb4, 0xb4), (0xb8, 0xb8), (0x2d8, 0x2dd), (0x37a, 0x37a),
    (0x384, 0x385), (0x1fbd, 0x1fbd), (0x1fbf, 0x1fc1), (0x1fcd, 0x1fcf), (0x1fdd, 0x1fdf),
    (0x1fed, 0x1fee), (0x1ffd, 0x1ffe), (0x2017, 0x2017), (0x2024, 0x2026), (0x203e, 0x203e),
    (0x2047, 0x2049), (0x2100, 0x2101), (0x2105, 0x2106), (0x2488, 0x249b), (0x2a74, 0x2a74),
    (0x2ff0, 0x2fff), (0x309b, 0x309c), (0x31ef, 0x31ef), (0x33c2, 0x33c2), (0x33c7, 0x33c7),
    (0x33d8, 0x33d8), (0xfc5e, 0xfc63), (0xfdfa, 0xfdfb), (0xfe12, 0xfe13), (0xfe16, 0xfe16),
    (0xfe19, 0xfe19), (0xfe30, 0xfe30), (0xfe47, 0xfe4c), (0xfe52, 0xfe52), (0xfe55, 0xfe56),
    (0xfe5f, 0xfe5f), (0xfe64, 0xfe65), (0xfe68, 0xfe68), (0xfe6a, 0xfe6b), (0xfe70, 0xfe70),
    (0xfe72, 0xfe72), (0xfe74, 0xfe74), (0xfe76, 0xfe76), (0xfe78, 0xfe78), (0xfe7a, 0xfe7a),
    (0xfe7c, 0xfe7c), (0xfe7e, 0xfe7e), (0xff03, 0xff03), (0xff05, 0xff05), (0xff0f, 0xff0f),
    (0xff1a, 0xff1a), (0xff1c, 0xff1c), (0xff1e, 0xff20), (0xff3b, 0xff3e), (0xff5c, 0xff5c),
    (0xffe3, 0xffe3), (0xfffc, 0xfffd), (0x1f100, 0x1f100)]

/-- Whether a character may not stand in a name, which holds for the unprintable ones
except for the joiners. -/
def isRefused (c : Char) : Bool :=
  inRanges refusedRanges c.toNat ||
    (inRanges unprintableRanges c.toNat && c ≠ joiner && c ≠ nonJoiner)

/-- The image of a character beyond the ASCII range. -/
def imageBeyond? (c : Char) : Option (List Char) :=
  if inRanges ignoredRanges c.toNat then some []
  else if isRefused c then none
  else
    match shifted? c.toNat with
    | some image => some [Char.ofNat image]
    | none => some ((listed? c.toNat).getD [c])

/-- The image of a character. -/
def image? (c : Char) : Option (List Char) :=
  if c.toNat < 0x80 then some [c.toLower] else imageBeyond? c

/-- The image of a text. -/
def imageOfText? (text : List Char) : Option (List Char) :=
  (text.mapM image?).map List.flatten

/-- A text of the ASCII range loses its case. -/
theorem imageOfText?_of_ascii {text : List Char} (all : ∀ c ∈ text, c.toNat < 0x80) :
    imageOfText? text = some (text.map Char.toLower) := by
  induction text with
  | nil => rfl
  | cons c rest ih =>
      have others := ih fun d member => all d (List.mem_cons_of_mem c member)
      obtain ⟨images, found, same⟩ := Option.map_eq_some_iff.mp others
      have first : image? c = some [c.toLower] := if_pos (all c List.mem_cons_self)
      simp [imageOfText?, List.mapM_cons, first, found, same]

end JobConsole.Http.HostName
