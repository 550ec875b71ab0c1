/-
**Snapshots of a node.**

A `Snapshot` is what was known about a node at one moment: its path and, if it existed, its version
stamps together with its content. Stamps and content come together or not at all, so both stand in
one `Option` (`Snapshot.make` is the check at the border). Absent snapshots are all the same,
whatever their path (`Snapshot.Same`).
-/
import WatchedNode.Error

namespace WatchedNode

/-- The stamps of a node's creation and of its last change. -/
structure Stat where
  created : Int
  modified : Int
  deriving Repr, DecidableEq

/-- The version stamps and the content of a node that exists. -/
structure Content where
  stat : Stat
  data : List UInt8
  deriving Repr, DecidableEq

/-- A node as seen at one moment. -/
structure Snapshot where
  path : String
  content : Option Content
  deriving Repr, DecidableEq

namespace Snapshot

/-- A node that does not exist. -/
def absent (path : String) : Snapshot := ⟨path, none⟩

/-- A node that exists. -/
def present (path : String) (stat : Stat) (data : List UInt8) : Snapshot :=
  ⟨path, some ⟨stat, data⟩⟩

/-- Builds a snapshot from stamps and content, which must be given together. -/
def make (path : String) : Option Stat → Option (List UInt8) → Except Error Snapshot
  | none, none => .ok (absent path)
  | some stat, some data => .ok (present path stat data)
  | _, _ => .error .halfSnapshot

/-- The node existed. -/
def exists? (snapshot : Snapshot) : Bool := snapshot.content.isSome

/-- Snapshots say the same if both are absent, or if path, stamps and content agree. -/
def Same (first second : Snapshot) : Prop :=
  (first.content = none ∧ second.content = none) ∨ first = second

instance (first second : Snapshot) : Decidable (Same first second) :=
  inferInstanceAs (Decidable (_ ∨ _))

/-- What a snapshot says, without the path of an absent node: equal for the same snapshots only. -/
def essence (snapshot : Snapshot) : Option (String × Content) :=
  snapshot.content.map (snapshot.path, ·)

/-- Sameness is equality of what the snapshots say. -/
theorem same_iff_essence (first second : Snapshot) :
    Same first second ↔ first.essence = second.essence := by
  cases first with
  | mk path content =>
    cases second with
    | mk path' content' =>
      cases content <;> cases content' <;> simp [Same, essence]

/-- Every snapshot says the same as itself. -/
theorem Same.refl (snapshot : Snapshot) : Same snapshot snapshot := .inr rfl

/-- Sameness does not depend on the order. -/
theorem Same.symm {first second : Snapshot} (same : Same first second) : Same second first := by
  rw [same_iff_essence] at *
  exact same.symm

/-- Sameness goes on from one snapshot to the next. -/
theorem Same.trans {first second third : Snapshot} (left : Same first second)
    (right : Same second third) : Same first third := by
  rw [same_iff_essence] at *
  exact left.trans right

/-- The number of different things that a list of snapshots says. -/
def distinct (snapshots : List Snapshot) : Nat :=
  (snapshots.map essence).eraseDups.length

end Snapshot

end WatchedNode
