import JobConsole.Http.Host

/-!
# Paths of addresses

A path is a list of segments, each of which is written behind a slash.  A segment
of one dot stands for the place where it is, one of two dots for the place above.
The place above a drive, which is a letter with a colon or a bar, is the drive
itself.  Dots may be percent-encoded.

`isPlace_of_mem_resolve` says that a resolved path names places only.
-/

namespace JobConsole.Http.Url

/-- Whether a character is a visible one of the ASCII range. -/
def isVisibleAscii (c : Char) : Bool :=
  0x20 < c.toNat && c.toNat < 0x7f

/-- The characters that may stand in a fragment. -/
def mayStandInFragment (c : Char) : Bool :=
  isVisibleAscii c && c ∉ ['\"', '<', '>', '`']

/-- The characters that may stand in a path. -/
def mayStandInPath (c : Char) : Bool :=
  mayStandInFragment c && c ∉ ['#', '?', '\x7b', '\x7d']

/-- Whether a character separates segments; for the schemes of the web a backslash
does. -/
def isSlash (web : Bool) (c : Char) : Bool :=
  c == '/' || (web && c == '\\')

/-- A segment with its percent-encoded dots decoded. -/
def plainDots : List Char → List Char
  | '%' :: '2' :: 'e' :: rest => '.' :: plainDots rest
  | '%' :: '2' :: 'E' :: rest => '.' :: plainDots rest
  | c :: rest => c :: plainDots rest
  | [] => []

/-- Whether a segment stands for the place where it is. -/
def isHere (segment : List Char) : Bool :=
  plainDots segment == ['.']

/-- Whether a segment stands for the place above. -/
def isAbove (segment : List Char) : Bool :=
  plainDots segment == ['.', '.']

/-- Whether a segment names a place of its own. -/
def isPlace (segment : List Char) : Bool :=
  !isHere segment && !isAbove segment

/-- Whether a text names a drive. -/
def isDrive : List Char → Bool
  | [letter, mark] => letter.isAlpha && (mark == ':' || mark == '|')
  | _ => false

/-- A segment, with a colon if it names a drive. -/
def driveForm (segment : List Char) : List Char :=
  if isDrive segment then segment.take 1 ++ [':'] else segment

/-- The segments of the place above, in reverse.  A backslash may follow the name of
a drive. -/
def above : List (List Char) → List (List Char)
  | [] => []
  | segment :: before =>
      if isDrive (segment.takeWhile (· != '\\')) then segment :: before else before

/-- The segments, in reverse, with one more that a slash follows.  The path of a file
may begin with a drive, which has a colon then. -/
def enter (file : Bool) (before : List (List Char)) (segment : List Char) :
    List (List Char) :=
  if isAbove segment then above before
  else if isHere segment then before
  else (if file && before.isEmpty then driveForm segment else segment) :: before

/-- The segments, in reverse, with the last one.  Behind dots it is empty. -/
def finish (file : Bool) (before : List (List Char)) (last : List Char) : List (List Char) :=
  if isPlace last then enter file before last else [] :: enter file before last

/-- The segments of a path with the dots resolved, on top of the segments before
them in reverse. -/
def resolve (file : Bool) (before : List (List Char)) : List (List Char) → List (List Char)
  | [] => before.reverse
  | [last] => (finish file before last).reverse
  | segment :: rest => resolve file (enter file before segment) rest

/-- The segments of a text that begins with the first of them. -/
def segments (web file : Bool) (text : List Char) : List (List Char) :=
  resolve file [] ((text.splitOnP (isSlash web)).map (encode mayStandInPath))

/-- The text of a path with the given segments. -/
def joinSegments (segments : List (List Char)) : List Char :=
  segments.flatMap fun segment => '/' :: segment

/-- A text without the slash it may begin with. -/
def withoutSlash (web : Bool) : List Char → List Char
  | [] => []
  | c :: rest => if isSlash web c then rest else c :: rest

/-- The path that a text stands for.  For the schemes of the web it is never
empty. -/
def readPath (web : Bool) (text : List Char) : List Char :=
  if text.isEmpty then if web then ['/'] else []
  else joinSegments (segments web false (withoutSlash web text))

/-- The path of segments of a file, which begins with a single slash. -/
def filePath (segments : List (List Char)) : List Char :=
  '/' :: (joinSegments segments).dropWhile (· == '/')

theorem isPlace_driveForm {segment : List Char} (place : isPlace segment = true) :
    isPlace (driveForm segment) = true := by
  unfold driveForm
  split
  · rename_i drive
    match segment with
    | [] => simp [isDrive] at drive
    | [_] => simp [isDrive] at drive
    | [letter, _] =>
        simp [isPlace, isHere, isAbove, plainDots]
    | _ :: _ :: _ :: _ => simp [isDrive] at drive
  · exact place

theorem isPlace_of_mem_enter {file : Bool} {before : List (List Char)} {segment : List Char}
    (places : ∀ s ∈ before, isPlace s = true) :
    ∀ s ∈ enter file before segment, isPlace s = true := by
  intro s member
  unfold enter at member
  split at member
  · unfold above at member
    split at member
    · simp at member
    · split at member
      · exact places s member
      · exact places s (List.mem_cons_of_mem _ member)
  · split at member
    · exact places s member
    · rename_i notAbove notHere
      have place : isPlace segment = true := by simp [isPlace, notAbove, notHere]
      rcases List.mem_cons.mp member with rfl | member
      · split
        · exact isPlace_driveForm place
        · exact place
      · exact places s member

/-- No segment of a resolved path consists of dots that stand for a place. -/
theorem isPlace_of_mem_resolve {file : Bool} {before rest : List (List Char)}
    (places : ∀ s ∈ before, isPlace s = true) :
    ∀ s ∈ resolve file before rest, isPlace s = true := by
  induction rest generalizing before with
  | nil => simpa [resolve] using places
  | cons segment rest ih =>
      have entered : ∀ s ∈ enter file before segment, isPlace s = true :=
        isPlace_of_mem_enter places
      cases rest with
      | nil =>
          intro s member
          simp only [resolve, List.mem_reverse, finish] at member
          split at member
          · exact entered s member
          · rcases List.mem_cons.mp member with rfl | member
            · decide
            · exact entered s member
      | cons next rest => exact ih entered

end JobConsole.Http.Url
