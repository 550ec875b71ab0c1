/-
**Workers whose sessions are open.**

The worker of a cache that runs ends only when a read of its own was cancelled. Such reads are made
at the cache's session (`Reaches.readsOwn`). A session does not make up cancellations, and where
nobody outside cancels what is held it hands them only to its own probe and watches, when it is
closed. So the worker of a cache that runs is there as long as the cache's session is open
(`Reaches.worker_lives`).
-/
import WatchedNode.Proofs.Starting
import WatchedNode.Proofs.Store.Ending

namespace WatchedNode.Loop

open Relation

variable {allowed : Outside Sessions.service} {before last loop : Loop Sessions.service}
  {cache : CacheId} {worker : TaskId} {task : Task Sessions.service} {store : Store} {isSlow : Bool}
  {known : Cache} {handle : Handle}

/-! ## Whom a worker asks -/

/-- What a worker calls in its turn is a read of its node. -/
theorem workerTurn_calls {S : Service} {loop : Loop S} {self : TaskId} {stage : WorkerStage}
    {wake : Wake S.Reply} {caller callee : Frame S.Point}
    (calls : (loop.workerTurn self cache known stage wake).2 = .call caller callee) :
    callee = requestFrame known (readRequest known) := by
  unfold workerTurn at calls
  split at calls
  · cases calls
  · split at calls
    · cases calls
    · next item rest taken =>
      cases item with
      | resync =>
        cases calls
        rfl
      | stop | check | looked | fetched => cases calls
  · dsimp only at calls
    split at calls <;> cases calls
  · cases calls

/-- A worker that waits for a read has asked its cache's session for it. -/
theorem worker_asks {self : TaskId} {frame : Frame At} {wake : Wake Plan} {point : At}
    (calls :
      (loop.frameTurn self frame wake).2 = .call (.worker cache .resyncing) (.service point)) :
    ∃ owner, loop.caches[cache]? = some owner ∧ point.handle = owner.handle := by
  have follows := frameTurn_follows self frame wake loop
  rw [calls] at follows
  cases follows with
  | call activity =>
    cases frame with
    | worker owner stage =>
      cases activity
      unfold frameTurn at calls
      dsimp only at calls
      split at calls
      · next known found =>
        cases workerTurn_calls calls
        exact ⟨known, found, rfl⟩
      · cases calls
    | _ => cases activity

theorem Reaches.readsOwn (run : Reaches allowed (unconnected store isSlow) last) :
    last.AsksOwn cache (.worker cache .resyncing) := by
  induction run with
  | refl => exact fun _ _ _ _ found => by cases found
  | tail earlier happens step =>
    exact happens.asksOwn (Reaches.areStacked earlier (fresh_areStacked _))
      (fun _ _ _ _ => worker_asks) step

/-! ## Workers that live -/

/-- A call that ends cancelled in its turn was made at a session that has been closed. -/
theorem AreSpared.isClosed (areSpared : before.AreSpared) {self : TaskId}
    {wake : Wake Plan} {point : At} {rest : List (Frame At)}
    (isAt : before.IsAt self wake (.service point) rest)
    (ends : (before.inTurn.frameTurn self (.service point) wake).2 = .finish .cancelled) :
    ∃ place, point.handle = some place ∧ Sessions.IsClosed place before.service := by
  rcases serviceTurn_next self point wake before.inTurn with ⟨outcome, verdict, finishes⟩
    | ⟨onward, -, frames⟩
  · cases finishes.symm.trans ends
    obtain ⟨rfl, place, session, isHere, -⟩ := Sessions.resume_cancelled verdict
    refine ⟨place, isHere, ?_⟩
    by_contra isOpen
    obtain ⟨given, here⟩ := point
    obtain rfl : given = some place := isHere
    exact areSpared.isLeft isAt isOpen rfl
  · have goesOn := frames []
    rw [show (before.inTurn.serviceTurn self point wake).2 = .finish .cancelled from ends] at goesOn
    cases goesOn

/-- A worker makes a call only when it reads. -/
theorem Crew.reading {duty : Duty} {backlog : Backlog}
    (crew : Crew cache duty backlog worker task before) {wake : Wake Plan} {frame : Frame At}
    {rest : List (Frame At)} (isAt : before.IsAt worker wake frame rest)
    (isCall : frame.activity = .call) :
    ∃ point, frame = .service point ∧ task.frames = [.service point, .worker cache .resyncing] := by
  have stack : task.frames = frame :: rest := by
    have frames := isAt.frames
    rw [crew.found] at frames
    exact Option.some.inj frames
  cases crew.manner with
  | takes frames =>
    cases stack.symm.trans frames
    cases isCall
  | reads point frames =>
    cases stack.symm.trans frames
    exact ⟨point, rfl, frames⟩
  | hasRead frames =>
    cases stack.symm.trans frames
    cases isCall
  | finished ended frames => cases stack.symm.trans frames

/-- **No read of a worker is cancelled as long as the cache's session is open.** -/
theorem Reaches.reads_spared (run : Reaches lenient (unconnected store isSlow) last)
    (found : last.caches[cache]? = some known) (own : known.handle = some handle)
    (isOpen : ¬ Sessions.IsClosed handle last.service) (isTask : last.tasks[worker]? = some task)
    (role : task.role = .worker cache) : .left worker .call .cancelled ∉ last.journal := by
  induction run generalizing known task with
  | refl => cases found
  | @tail before after earlier happens step =>
    intro member
    have areStacked : before.AreStacked := Reaches.areStacked earlier (fresh_areStacked _)
    have wasOpen : ¬ Sessions.IsClosed handle before.service := fun closed =>
      isOpen (happens.closed areStacked (Reaches.isKept earlier) closed)
    cases wasTask : before.tasks[worker]? with
    | none =>
      -- Nothing is written of a task that is not there.
      rcases happens.left member with isOld | ⟨wake, frame, rest, isAt, -⟩
      · have lost : before.IsLost cache worker :=
          (Reaches.isLost earlier fun other isThere => by cases wasTask.symm.trans isThere).mp isOld
        exact (happens.not_isLost wasTask).1 lost
      · have frames := isAt.frames
        rw [wasTask] at frames
        cases frames
    | some old =>
      obtain ⟨task', isTask', role'⟩ := happens.remains.roles worker old wasTask
      cases isTask.symm.trans isTask'
      have wasRole : old.role = .worker cache := role'.symm.trans role
      obtain ⟨duty, backlog, crew⟩ := (Reaches.isManned earlier cache).crew wasTask wasRole
      obtain ⟨owner, isThere, -⟩ := Option.map_eq_some_iff.mp crew.is
      obtain ⟨known', found', ages⟩ := happens.course.grows cache owner isThere
      cases found.symm.trans found'
      have wasOwn : owner.handle = some handle := ages.handle.symm.trans own
      rcases happens.left member with isOld | ⟨wake, frame, rest, isAt, activity, finishes, -⟩
      · exact step isThere wasOwn wasOpen wasTask wasRole isOld
      obtain ⟨point, rfl, frames⟩ := crew.reading isAt activity
      obtain ⟨place, isHere, isClosed⟩ := (Reaches.areSpared earlier).isClosed isAt finishes
      obtain ⟨owner', isThere', same⟩ := Reaches.readsOwn earlier worker old point [] wasTask frames
      cases isThere.symm.trans isThere'
      cases isHere.symm.trans (same.trans wasOwn)
      exact wasOpen isClosed

/-- **The worker of a cache that runs is there**, as long as the cache's session is open. -/
theorem Reaches.worker_lives (run : Reaches lenient (unconnected store isSlow) last)
    (found : last.caches[cache]? = some known) (own : known.handle = some handle)
    (isOpen : ¬ Sessions.IsClosed handle last.service) (runs : known.phase = .started)
    (isTask : last.tasks[worker]? = some task) (role : task.role = .worker cache) :
    last.outcome? worker = none := by
  obtain ⟨duty, backlog, crew⟩ := (Reaches.isManned run cache).crew isTask role
  refine Option.eq_none_iff_forall_ne_some.mpr fun outcome ended => ?_
  rcases crew.either_of_ended ended with rfl | ⟨-, isClosed⟩
  · have written : .left worker .call .cancelled ∈ last.journal :=
      (Reaches.isLost run fun other isThere => by
        cases isTask.symm.trans isThere
        exact role).mpr (.inl ended)
    exact Reaches.reads_spared run found own isOpen isTask role written
  · cases (duty?_of_found found).symm.trans crew.is
    cases runs.symm.trans isClosed

end WatchedNode.Loop
