/-
**Who ends as one that was cancelled.**

A turn of a session's task either leaves it something to do, or ends it with an answer or an error.
No such turn ends it as one that was cancelled, unless that is what it was told (`turn_plain`): the
session never makes up a cancellation (`Sessions.resume_cancelled`).
-/
import WatchedNode.Proofs.Store.Aftermath

namespace WatchedNode

namespace Session

variable (session : Session) (handle : Handle) (next : TaskId) (errand : Errand)

/-- The task does not end as one that was cancelled. -/
def IsPlain (turn : SessionTurn) : Prop := turn.2.2 ≠ .finish .cancelled

variable {session handle next errand}

theorem IsPlain.after {turn : SessionTurn} (isPlain : IsPlain turn) (effects : List SessionEffect) :
    IsPlain (Session.after effects turn) := isPlain

theorem failed_plain (error : Error) : IsPlain (session.ends (.failed error)) := by
  simp [IsPlain, ends]

theorem returned_plain (answer : Answer) : IsPlain (session.ends (.returned answer)) := by
  simp [IsPlain, ends]

theorem goesOn_plain (point : Point) : IsPlain (session.goesOn point) := by
  simp [IsPlain, goesOn]

theorem request_plain (call : StoreCall) : IsPlain (session.request errand call) := by
  unfold request
  split
  · exact goesOn_plain _
  · exact failed_plain _

theorem requestOf_plain (call : Except Error StoreCall) :
    IsPlain (session.requestOf errand call) := by
  cases call with
  | ok call => exact request_plain call
  | error error => exact failed_plain error

theorem ensures_plain (above : String) (below : List String) :
    IsPlain (session.ensures above below) := by
  induction below generalizing above with
  | nil => exact returned_plain _
  | cons segment below step =>
    unfold ensures
    dsimp only
    split
    · exact step _
    · split
      · exact request_plain _
      · exact failed_plain _

theorem begins_plain (isSlow : Bool) (operation : Operation) :
    IsPlain (session.begins isSlow operation) := by
  cases operation with
  | start =>
    unfold begins
    dsimp only
    split
    · exact returned_plain _
    · exact request_plain _
  | stop =>
    unfold begins IsPlain
    dsimp only
    split <;> simp
  | ensure path parentsOnly =>
    cases path with
    | text path => exact goesOn_plain _
    | _ => exact failed_plain _
  | look | fetch | set | delete => exact requestOf_plain _

/-! ## Results -/

theorem answered_plain (key : String) (record : Record) :
    IsPlain (session.answered handle next errand key record) := by
  cases errand with
  | opening | founding | changing | probing | watching => exact returned_plain _
  | ensuring | making => exact goesOn_plain _
  | looking => simp [IsPlain, answered]
  | fetching =>
    unfold answered IsPlain
    dsimp only
    split <;> simp

theorem notFound_plain (key : String) (error : Error) (payload : Value) :
    IsPlain (session.notFound handle next errand key error payload) := by
  cases errand with
  | opening => exact request_plain _
  | ensuring => exact request_plain _
  | looking =>
    unfold notFound
    dsimp only
    split
    · exact failed_plain _
    · simp [IsPlain]
  | fetching path => cases path <;> exact failed_plain _
  | _ => exact failed_plain _

theorem refused_plain (error : Error) : IsPlain (session.refused errand error) := by
  unfold refused
  split
  · exact goesOn_plain _
  · exact failed_plain _

theorem retry_plain (call : StoreCall) (failures : Nat) (result : Except Error Record) :
    IsPlain (session.retry handle next errand call failures result) := by
  unfold retry
  split
  · exact (answered_plain _ _).after _
  · split
    · exact (notFound_plain _ _ _).after _
    · split
      · split
        · exact failed_plain _
        · simp [IsPlain]
        · simp [IsPlain]
      · exact refused_plain _
    · exact refused_plain _

theorem probed_plain (result : Except Error Record) :
    IsPlain (session.probed handle next result) := by
  unfold probed
  split
  · simp [IsPlain]
  · simp [IsPlain]
  · split
    · exact goesOn_plain _
    · simp [IsPlain]
  · exact failed_plain _

theorem watched_plain (self : TaskId) (key : String) (watcher : Subscriber) (index : Option Int)
    (result : Except Error Record) :
    IsPlain (session.watched handle next self key watcher index result) := by
  unfold watched
  dsimp only
  split
  · simp [IsPlain]
  · split
    · exact goesOn_plain _
    · simp [IsPlain]
    · simp [IsPlain]
    · simp [IsPlain]
  · exact failed_plain _

theorem concludes_plain (self : TaskId) (call : StoreCall) (failures : Nat)
    (result : Except Error Record) :
    IsPlain (session.concludes handle next self errand call failures result) := by
  cases errand with
  | probing => exact probed_plain result
  | watching => exact watched_plain self _ _ _ result
  | _ => exact retry_plain call failures result

theorem probes_plain : IsPlain session.probes := by
  unfold probes
  split
  · split
    · simp [IsPlain]
    · exact failed_plain _
  · exact returned_plain _

theorem probeReads_plain : IsPlain session.probeReads := by
  unfold probeReads
  split
  · exact goesOn_plain _
  · exact failed_plain _

theorem polls_plain (self : TaskId) (key : String) (watcher : Subscriber) (index : Option Int) :
    IsPlain (session.polls self key watcher index) := by
  unfold polls
  split
  · exact goesOn_plain _
  · exact failed_plain _

end Session

namespace Sessions

variable {moment : Moment} {handle : Handle} {isSlow : Bool} {point : Point} {wake : Wake Plan}
  {store : Store} {session : Session}

theorem await_plain (errand : Errand) (call : StoreCall) (failures : Nat)
    (written : List SessionEffect) (result : Store × Store.Response × Option Change) :
    Session.IsPlain (await moment handle errand call failures written result session).2 := by
  obtain ⟨store, response, change⟩ := result
  cases response with
  | held => simp [Session.IsPlain, await]
  | answered result => exact (Session.concludes_plain moment.self call failures result).after _

/-- A turn of a task that goes on as it is does not end it as one that was cancelled. -/
theorem turn_plain (isLeft : wake ≠ .cancelled) :
    Session.IsPlain (turn moment handle isSlow point wake store session).2 := by
  unfold turn
  split
  · exact absurd rfl isLeft
  · exact Session.begins_plain _ _
  · exact Session.ensures_plain _ _
  · exact await_plain _ _ _ _ _
  · exact await_plain _ _ _ _ _
  · exact await_plain _ _ _ _ _
  · exact Session.probes_plain
  · exact Session.probeReads_plain
  · exact Session.polls_plain _ _ _ _
  · simp [Session.IsPlain]

/-- **Who ends as one that was cancelled was cancelled**, and belonged to a session. -/
theorem resume_cancelled {place : At} {state : Sessions}
    (ends : (state.resume moment place wake).verdict = .finish .cancelled) :
    wake = .cancelled ∧ ∃ handle session, place.handle = some handle ∧
      state.sessions[handle]? = some session := by
  unfold resume at ends
  split at ends
  · next handle session isHere isThere =>
    refine ⟨?_, handle, session, isHere, ?_⟩
    · by_contra isLeft
      have isPlain :
          Session.IsPlain
            (turn moment handle state.isSlow place.point wake state.store session).2 :=
        turn_plain isLeft
      generalize turn moment handle state.isSlow place.point wake state.store session = turn
        at ends isPlain
      obtain ⟨store, session, effects, verdict⟩ := turn
      cases verdict with
      | finish outcome =>
        cases ends
        exact isPlain rfl
      | _ => cases ends
    · rwa [session?, isHere] at isThere
  · cases ends

end Sessions

end WatchedNode
