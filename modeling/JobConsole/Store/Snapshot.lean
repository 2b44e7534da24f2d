/-!
# Snapshots

A snapshot is the latest known value of a resource, if it has been loaded.
-/

namespace JobConsole

/-- The latest value of a resource. -/
inductive Snapshot (α : Type) where
  | notLoaded
  | loaded (value : α)
deriving DecidableEq

namespace Snapshot

variable {α : Type}

/-- Whether there is a value. -/
def isLoaded : Snapshot α → Bool
  | .notLoaded => false
  | .loaded _ => true

/-- The value, if there is one. -/
def value? : Snapshot α → Option α
  | .notLoaded => none
  | .loaded value => some value

/-- The description of a snapshot, given how values are shown. -/
def describe (shown : α → String) : Snapshot α → String
  | .notLoaded => "NotLoaded"
  | .loaded value => "Loaded(" ++ shown value ++ ")"

@[simp]
theorem isSome_value? (snapshot : Snapshot α) : snapshot.value?.isSome = snapshot.isLoaded := by
  cases snapshot <;> rfl

end Snapshot

end JobConsole
