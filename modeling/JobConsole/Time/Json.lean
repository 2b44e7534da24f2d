import JobConsole.Json.Decode
import JobConsole.Json.Printer
import JobConsole.Time.Printer
import JobConsole.Time.Reader

/-!
# Instants as data

In JSON texts an instant is a string.
-/

namespace JobConsole.Time.Instant

/-- An instant as a value. -/
def encode (instant : Instant) : Json.Value :=
  .string instant.text

/-- Decodes an instant. -/
def decode? (raw : Json.Raw) : Option Instant :=
  raw.text?.bind ofText?

end JobConsole.Time.Instant
