import JobConsole.Clipboard.Tool
import JobConsole.LogEvent
import JobConsole.Notification

/-!
# Copying the text of an issue

The text for an issue report is written to a clipboard.  When there is none, or
when writing fails, the text is shown in a dialog for copying by hand.
-/

namespace JobConsole.Clipboard

open JobConsole.Json

/-- What has become of a text that was to be copied. -/
inductive CopyOutcome where
  | copied (notification : Notification)
  | dialog (body : String)
deriving DecidableEq

/-- The title of the dialog. -/
def dialogTitle : String := "Could not copy issue data to clipboard"

/-- What the dialog asks for. -/
def dialogHint : String :=
  "Please copy the data below and paste it in the Github issue as is."

/-- The notification of a copied text. -/
def copiedNotification : Notification :=
  ⟨"copied", .success, "Successfully copied issue data to the clipboard"⟩

/-- What an error of a clipboard is called. -/
def faultMessage (fault : String) : String :=
  "clipboard write failed: " ++ fault

/-- The report of a text that could not be written. -/
def fallbackEvent (fault : String) : LogEvent :=
  ⟨.problems, .warn, "falling back to issue dialog", [("error", .text (faultMessage fault))]⟩

/-- The outcome of writing a text, with what went wrong, if anything. -/
def ofFault (body : String) : Option String → CopyOutcome × List LogEvent
  | none => (.copied copiedNotification, [])
  | some fault => (.dialog body, [fallbackEvent fault])

/-- Copies a text to a clipboard, if there is one.  Writing yields what went
wrong. -/
def copy (write? : Option (String → Option String)) (body : String) :
    CopyOutcome × List LogEvent :=
  match write? with
  | none => (.dialog body, [])
  | some write => ofFault body (write body)

/-- The dialog as a value. -/
def encodeDialog (body : String) : Value :=
  .object [("title", .string dialogTitle), ("body", .string body)]

/-- The text is copied exactly when there is a clipboard that takes it. -/
theorem copy_fst_eq_copied_iff {write? : Option (String → Option String)} {body : String}
    {notification : Notification} :
    (copy write? body).1 = .copied notification ↔
      notification = copiedNotification ∧ ∃ write, write? = some write ∧ write body = none := by
  cases write? with
  | none => simp [copy]
  | some write =>
      cases written : write body with
      | none => simp [copy, ofFault, written, eq_comm]
      | some fault => simp [copy, ofFault, written]

end JobConsole.Clipboard
