import JobConsole.Text.Utf8

/-!
# Event streams

An event stream is a text of events with an empty line behind each of them.  The
data of an event are the rests of its lines that start with `data:`, without one
space in front; several of them are joined by line breaks.  An event without
data is passed over, and so is the part behind the last empty line, which may
still be growing.

A stream arrives in chunks, which may cut it anywhere, also inside a character.
After each chunk all bytes so far are read anew.
-/

namespace JobConsole.Http.EventStream

open JobConsole.Text

/-- A text with each carriage return in front of a line feed left out. -/
def normalizeBreaks : List Char → List Char
  | '\r' :: '\n' :: rest => '\n' :: normalizeBreaks rest
  | c :: rest => c :: normalizeBreaks rest
  | [] => []

/-- The complete blocks of a text that continues the given block, whose
characters stand in reverse.  Two line feeds end a block. -/
def blocksAfter (block : List Char) : List Char → List (List Char)
  | '\n' :: '\n' :: rest => block.reverse :: blocksAfter [] rest
  | c :: rest => blocksAfter (c :: block) rest
  | [] => []

/-- The complete blocks of a text. -/
def blocks (text : List Char) : List (List Char) :=
  blocksAfter [] text

/-- A line in reverse, without a carriage return at its end. -/
def finishLine : List Char → List Char
  | '\r' :: line => line.reverse
  | line => line.reverse

/-- The lines of a block that continues the given line, whose characters stand in
reverse.  What stands behind the last line feed is a line if it is not
empty. -/
def linesAfter (line : List Char) : List Char → List (List Char)
  | '\n' :: rest => finishLine line :: linesAfter [] rest
  | c :: rest => linesAfter (c :: line) rest
  | [] => if line.isEmpty then [] else [line.reverse]

/-- The lines of a block. -/
def lines (block : List Char) : List (List Char) :=
  linesAfter [] block

/-- The data of a line, if it has any. -/
def lineData? : List Char → Option (List Char)
  | 'd' :: 'a' :: 't' :: 'a' :: ':' :: ' ' :: rest => some rest
  | 'd' :: 'a' :: 't' :: 'a' :: ':' :: rest => some rest
  | _ => none

/-- Lines with line feeds between them. -/
def joinLines : List (List Char) → List Char
  | [] => []
  | [line] => line
  | line :: rest => line ++ '\n' :: joinLines rest

/-- The data of a block, if it has any. -/
def blockData? (block : List Char) : Option (List Char) :=
  match (lines block).filterMap lineData? with
  | [] => none
  | found => some (joinLines found)

/-- The data of the first complete event of a stream, if there is one. -/
def firstData? (stream : List Char) : Option (List Char) :=
  (blocks (normalizeBreaks stream)).findSome? blockData?

/-- The data of the first event of a stream that arrives in chunks, behind the
bytes that have arrived before. -/
def receive (arrived : List UInt8) : List (List UInt8) → Option (List Char)
  | [] => none
  | chunk :: rest =>
      match firstData? (decodeLossy (arrived ++ chunk)) with
      | some found => some found
      | none => receive (arrived ++ chunk) rest

end JobConsole.Http.EventStream
