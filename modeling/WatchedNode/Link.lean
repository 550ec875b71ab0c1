/-
**Connection states.**

What a session says about its connection. The first state of a connection that works is `connected`;
after a loss it is `reconnected`.
-/

namespace WatchedNode

/-- The state of a connection. -/
inductive Link
  | connected
  | reconnected
  | suspended
  | lost
  | readOnly
  deriving Repr, DecidableEq

namespace Link

/-- Requests can be expected to work. -/
def isUp : Link → Bool
  | .connected | .reconnected => true
  | .suspended | .lost | .readOnly => false

/-- The written form. -/
def toText : Link → String
  | .connected => "connected"
  | .reconnected => "reconnected"
  | .suspended => "suspended"
  | .lost => "lost"
  | .readOnly => "read_only"

/-- All states. -/
def all : List Link := [.connected, .reconnected, .suspended, .lost, .readOnly]

/-- The state with that written form. -/
def ofText? (text : String) : Option Link :=
  all.find? (·.toText = text)

/-- A state that is not known yet counts as up. -/
def isUpOrUnset : Option Link → Bool
  | none => true
  | some link => link.isUp

end Link

end WatchedNode
