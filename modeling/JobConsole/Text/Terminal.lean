/-!
# Text on a terminal

A terminal takes some characters as orders: single control characters, and
sequences that an escape character begins.  `visible` leaves them out and keeps
what a reader sees.  Among the control characters, tabs and the ends of lines and
pages are seen.

The main statement is that a text without orders is visible as it stands.
-/

namespace JobConsole.Text

/-- What a terminal is in the middle of: nothing, an escape sequence that has just
begun or has signs in it, a control sequence, an order with a text that a bell may
end, or a text for someone else. -/
inductive TerminalMode where
  | plain
  | escape
  | designation
  | control
  | order
  | message
deriving DecidableEq

namespace TerminalMode

/-- The control characters that are seen. -/
def isSpacing (c : Char) : Bool :=
  c == '\t' || c == '\n' || c == '\x0c' || c == '\r'

/-- Whether a character shows itself when nothing has begun. -/
def isShown (c : Char) : Bool :=
  (' ' ≤ c && c ≠ '\x7f') || isSpacing c

/-- What goes on after a printable character right behind an escape character:
the signs from the blank to the slash leave the sequence open, and some characters
begin something longer. -/
def afterEscape (c : Char) : TerminalMode :=
  if c ≤ '/' then .designation
  else if c = '[' then .control
  else if c = ']' then .order
  else if c = 'P' ∨ c = 'X' ∨ c = '^' ∨ c = '_' then .message
  else .plain

/-- A character of several bytes breaks off what has begun.  Its first byte is
lost with it, and each of the others shows as a character that cannot be read. -/
def breakOff (c : Char) : TerminalMode × List Char :=
  (.plain, List.replicate (c.utf8Size - 1) '\ufffd')

/-- What goes on after a character in a sequence, and what is seen of it, given
what goes on after a printable one.  A tab or the end of a line breaks the sequence
off; other control characters do nothing. -/
def withinSequence (mode : TerminalMode) (next : Char → TerminalMode) (c : Char) :
    TerminalMode × List Char :=
  if isSpacing c then (.plain, [c])
  else if '\x7f' < c then breakOff c
  else (if isShown c then next c else mode, [])

/-- What goes on after a character that does not begin or cancel anything, and
what is seen of it. -/
def proceed (c : Char) : TerminalMode → TerminalMode × List Char
  | .plain => (.plain, if isShown c then [c] else [])
  | .order =>
      if '\x7f' < c then breakOff c else (if c = '\x07' then .plain else .order, [])
  | .message => if '\x7f' < c then breakOff c else (.message, [])
  | .escape => withinSequence .escape afterEscape c
  | .designation =>
      withinSequence .designation (fun sign => if sign ≤ '/' then .designation else .plain) c
  | .control =>
      withinSequence .control (fun sign => if sign < '@' then .control else .plain) c

/-- What goes on after a character, and what is seen of it.  An escape character
begins a sequence and two others cancel one, wherever they stand. -/
def step (mode : TerminalMode) (c : Char) : TerminalMode × List Char :=
  if c = '\x1b' then (.escape, [])
  else if c = '\x18' ∨ c = '\x1a' then (.plain, [])
  else proceed c mode

/-- What is seen of characters. -/
def shown (mode : TerminalMode) : List Char → List Char
  | [] => []
  | c :: rest => (mode.step c).2 ++ shown (mode.step c).1 rest

end TerminalMode

/-- What is seen of a text. -/
def visible (text : String) : String :=
  String.ofList (TerminalMode.plain.shown text.toList)

/-- A text that stands out among others.  The order that ends it also ends an
order that the text has left open. -/
def emphasised (text : String) : String :=
  "\x1b[33m" ++ text ++ "\x1b[0m"

/-- A character that shows itself is seen and begins nothing. -/
theorem TerminalMode.step_plain_of_isShown {c : Char} (itself : TerminalMode.isShown c = true) :
    TerminalMode.plain.step c = (.plain, [c]) := by
  have noOrder : c ≠ '\x1b' ∧ c ≠ '\x18' ∧ c ≠ '\x1a' := by
    refine ⟨?_, ?_, ?_⟩ <;> (rintro rfl; revert itself; decide)
  simp [TerminalMode.step, noOrder, TerminalMode.proceed, itself]

/-- Characters that show themselves are seen as they stand. -/
theorem TerminalMode.shown_eq_self {text : List Char}
    (all : ∀ c ∈ text, TerminalMode.isShown c = true) : TerminalMode.plain.shown text = text := by
  induction text with
  | nil => rfl
  | cons c rest ih =>
      have first := TerminalMode.step_plain_of_isShown (all c List.mem_cons_self)
      have others := ih fun d member => all d (List.mem_cons_of_mem c member)
      rw [TerminalMode.shown, first, others]
      rfl

/-- A text without orders is visible as it stands. -/
theorem visible_eq_self {text : String}
    (all : ∀ c ∈ text.toList, TerminalMode.isShown c = true) : visible text = text := by
  rw [visible, TerminalMode.shown_eq_self all, String.ofList_toList]

end JobConsole.Text
