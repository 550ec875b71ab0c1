/-
**Transports.**

A `Transport` says what calls of the store may come to. Over `faults` a call fails in ways of the
store's own only. Over `usual` it fails only because the store cannot be reached, because a key that
is read is not there, because a key that is written is, or because a watch took too long or starts
too far in the past.
-/
import WatchedNode.Proofs.Store.Speech

namespace WatchedNode

/-- What calls may come to. -/
abbrev Transport := StoreCall → Except Error Record → Bool

/-- All failures are the store's own. -/
def faults : Transport
  | _, .ok _ | _, .error (.store ..) => true
  | _, .error _ => false

theorem isFault_of_faults {call : StoreCall} {error : Error}
    (isFault : faults call (.error error) = true) :
    ∃ fault message payload, error = .store fault message payload := by
  cases error with
  | store fault message payload => exact ⟨fault, message, payload, rfl⟩
  | _ => cases isFault

/-- All failures are usual ones for such calls; one for want of a key tells an index, or none. -/
def usual : Transport
  | _, .ok _ => true
  | call, .error (.store fault _ payload) =>
    match fault with
    | .connectionFailed => true
    | .keyNotFound => call.method = "read" && (Key.nextIndex payload).isOk
    | .alreadyExist => call.method = "write"
    | .watchTimedOut | .eventIndexCleared => call.method = "watch"
    | .compareFailed | .other _ => false
  | _, .error _ => false

theorem faults_of_usual {call : StoreCall} {result : Except Error Record}
    (may : usual call result = true) :
    faults call result = true := by
  cases result with
  | ok record => rfl
  | error error =>
    cases error with
    | store fault message payload => rfl
    | _ => cases may

end WatchedNode
