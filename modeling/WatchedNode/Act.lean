/-
**Monitors' acts.**

A monitor does a number of `Act`s when it is called. It may leave a `Deed` to be done after it has
returned.
-/
import WatchedNode.Link
import WatchedNode.Config.Value

namespace WatchedNode

/-- What a monitor leaves to be done when it has returned. -/
inductive Deed
  | nothing
  | hold
  | rebuild
  | close
  | cancel
  | fail
  deriving Repr, DecidableEq

/-- One thing that a monitor does when it is called. -/
inductive Act
  | fail
  | remove (monitor : String)
  | add (monitor : String)
  | cancel (token : String)
  | reset
  | setNode (path : String) (data : List UInt8)
  | setLink (link : Link)
  | answer (value : Value)
  | later (deed : Deed)
  deriving Repr, BEq

end WatchedNode
