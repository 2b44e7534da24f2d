import JobConsole.Json.Decode
import JobConsole.Json.Printer

/-!
# Problems

A problem has a type, perhaps a text for an issue report, and any other members
the server sends with it.  They are kept, sorted by key; of several with one key
the last one counts.  A problem is read strictly as a whole, since nothing in it
is ignored.
-/

namespace JobConsole

open JobConsole.Json

/-- A problem that the background job servers report. -/
structure Problem where
  kind : String
  githubIssueBody : Option String
  details : List (String × Value)

namespace Problem

/-- The type of the report of a severe exception. -/
def severeExceptionKind : String := "severe-jobrunr-exception"

/-- The members that have a field of their own. -/
def fieldNames : List String :=
  ["type", "githubIssueBody"]

/-- Decodes a problem, whatever its depth. -/
def decodeItem? : Raw → Option Problem
  | .object members => do
      let fields ← Raw.knownMembers? fieldNames members
      let values ← Raw.memberValues? members
      some {
        kind := ← fields.required? "type" Raw.text?
        githubIssueBody := ← fields.optional? "githubIssueBody" Raw.text?
        details := sortMembers (values.filter fun member => !fieldNames.contains member.1)
      }
  | _ => none

/-- Decodes a problem. -/
def decode? (raw : Raw) : Option Problem :=
  if raw.depth ≤ Raw.depthBound then decodeItem? raw else none

/-- Decodes a list of problems. -/
def decodeAll? (raw : Raw) : Option (List Problem) :=
  if raw.depth ≤ Raw.depthBound then Raw.list? decodeItem? raw else none

/-- A problem as a value. -/
def encode (problem : Problem) : Value :=
  .object (("type", .string problem.kind) ::
    ("githubIssueBody", .ofOption .string problem.githubIssueBody) :: problem.details)

/-- A list of problems as a value. -/
def encodeAll (problems : List Problem) : Value :=
  .array (problems.map encode)

/-- Whether a problem is the report of a severe exception. -/
def isSevereException (problem : Problem) : Bool :=
  problem.kind == severeExceptionKind

/-- One line that shows the types of problems. -/
def summary (problems : List Problem) : String :=
  if problems.isEmpty then "problems: none"
  else "problems: " ++ String.intercalate ", " (problems.map kind)

end Problem

end JobConsole
