import JobConsole.Store.Snapshot
import JobConsole.Text.Decimal
import JobConsole.Text.Quoted

/-!
# Stores

A store holds the snapshot of one resource and the observers that are to be told
of later ones.  Observers are kept in the order of their registration, each of
them once.  A pushed value becomes the snapshot at once and waits in a queue
until all observers have been told of the values before it.

The operations here are single steps.  How a queue is worked off is the subject
of `JobConsole.Store.Dispatch`.
-/

namespace JobConsole

/-- A snapshot, its observers, the values they are still to be told of, and
whether they are being told right now. -/
structure Store (α ο : Type) where
  current : Snapshot α
  observers : List ο
  pending : List α
  dispatching : Bool
deriving DecidableEq

namespace Store

variable {α ο : Type} [DecidableEq ο]

/-- A store that has never been used. -/
def empty : Store α ο :=
  ⟨.notLoaded, [], [], false⟩

/-- The store with an observer registered behind the others; an observer that is
registered keeps its place. -/
def subscribe (observer : ο) (store : Store α ο) : Store α ο :=
  if observer ∈ store.observers then store
  else { store with observers := store.observers ++ [observer] }

/-- The store without a registration of an observer. -/
def unsubscribe (observer : ο) (store : Store α ο) : Store α ο :=
  { store with observers := store.observers.filter (· ≠ observer) }

omit [DecidableEq ο] in
/-- The store with a new snapshot, which waits to be told. -/
def enqueue (value : α) (store : Store α ο) : Store α ο :=
  { store with current := .loaded value, pending := store.pending ++ [value] }

omit [DecidableEq ο] in
/-- The store without its snapshot, its observers and all that waits.  Values
that are being told right now are not called back. -/
def reset (store : Store α ο) : Store α ο :=
  { store with current := .notLoaded, observers := [], pending := [] }

omit [DecidableEq ο] in
/-- The store while observers are told of the first value that waits; the others
stay in the queue. -/
def startPass (rest : List α) (store : Store α ο) : Store α ο :=
  { store with pending := rest, dispatching := true }

omit [DecidableEq ο] in
/-- The store when nothing waits any more. -/
def settle (store : Store α ο) : Store α ο :=
  { store with dispatching := false }

omit [DecidableEq ο] in
/-- The store when an observer has failed: whatever waits is given up. -/
def abandon (store : Store α ο) : Store α ο :=
  { store with pending := [], dispatching := false }

omit [DecidableEq ο] in
/-- The description of a store with the given name. -/
def describe (name : String) (store : Store α ο) : String :=
  "StateStore \x7b name: " ++ Text.quoted name ++ ", loaded: " ++
    (if store.current.isLoaded then "true" else "false") ++ ", observers: " ++
    Text.natText store.observers.length ++ " \x7d"

@[simp]
theorem current_subscribe (observer : ο) (store : Store α ο) :
    (store.subscribe observer).current = store.current := by
  unfold subscribe
  split <;> rfl

@[simp]
theorem pending_subscribe (observer : ο) (store : Store α ο) :
    (store.subscribe observer).pending = store.pending := by
  unfold subscribe
  split <;> rfl

@[simp]
theorem mem_observers_subscribe {observer other : ο} {store : Store α ο} :
    other ∈ (store.subscribe observer).observers ↔ other = observer ∨ other ∈ store.observers := by
  unfold subscribe
  split
  · rename_i registered
    constructor
    · exact Or.inr
    · rintro (rfl | member)
      · exact registered
      · exact member
  · simp [or_comm]

@[simp]
theorem mem_observers_unsubscribe {observer other : ο} {store : Store α ο} :
    other ∈ (store.unsubscribe observer).observers ↔
      other ∈ store.observers ∧ other ≠ observer := by
  simp [unsubscribe]

end Store

end JobConsole
