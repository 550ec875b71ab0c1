/-
**Complaints.**

A failure that nobody waits for is written down: each `Complaint` says who met which failure, and
`Complaint.text` is its wording.
-/
import WatchedNode.Error

namespace WatchedNode

/-- What is written down when something fails that nobody waits for. -/
inductive Complaint
  | lookFailed (serial : Nat) (path : String) (error : Error)
  | fetchFailed (serial : Nat) (path : String) (error : Error)
  | itemFailed (serial : Nat) (error : Error)
  | resyncFailed (serial : Nat) (error : Error)
  | monitorFailed (serial : Nat) (monitor : String) (error : Error)
  | deedFailed (serial : Nat) (error : Error)
  | listenerFailed (name : String) (error : Error)
  | probeFailed (error : Error)
  | watchFailed (key : String) (error : Error)
  | watcherFailed (key : String) (error : Error)
  deriving Repr, BEq

/-- The wording of a complaint. -/
def Complaint.text : Complaint → String
  | .lookFailed serial path error =>
    "WARNING " ++ toString serial ++ ":exists " ++ path ++ " failed: " ++ error.kind
  | .fetchFailed serial path error =>
    "WARNING " ++ toString serial ++ ":get_data " ++ path ++ " failed: " ++ error.kind
  | .itemFailed serial error => "ERROR " ++ toString serial ++ ":Queue error [" ++ error.kind ++ "]"
  | .resyncFailed serial error =>
    "ERROR " ++ toString serial ++ ":Trying to reset after reconnection [" ++ error.kind ++ "]"
  | .monitorFailed serial monitor error =>
    "ERROR " ++ toString serial ++ ":Calling monitor " ++ monitor ++ " [" ++ error.kind ++ "]"
  | .deedFailed serial error =>
    "ERROR " ++ toString serial ++ ":Calling monitor [" ++ error.kind ++ "]"
  | .listenerFailed name error =>
    "ERROR Connection listener " ++ name ++ " [" ++ error.kind ++ "]"
  | .probeFailed error => "ERROR Probing etcd [" ++ error.kind ++ "]"
  | .watchFailed key error => "WARNING Watch on " ++ key ++ " failed: " ++ error.kind
  | .watcherFailed key error => "ERROR Watcher for " ++ key ++ " [" ++ error.kind ++ "]"

end WatchedNode
