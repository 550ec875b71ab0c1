/-
**Loops that go on.**

A loop goes on if it begins its next job again and again (`Onward`), whatever else happens in
between. In such a loop every turn is had, and is over at some time (`Onward.turn`), and every job
that is ready is begun: more becomes ready only after it, and each job that is begun before it
brings it nearer to the front (`Onward.begun`).
-/
import WatchedNode.Proofs.Survival

namespace WatchedNode.Loop

open Relation

variable {S : Service} {allowed : Outside S} {before after : Loop S} {course : Nat → Loop S}

/-! ## What is ready -/

/-- A job that is begun makes others ready, which come last. -/
theorem start_ready (job : Job) (loop : Loop S) :
    ∃ jobs, (loop.start job).ready = loop.ready ++ jobs := by
  have same : ∃ jobs, loop.ready = loop.ready ++ jobs := ⟨[], (List.append_nil _).symm⟩
  cases job with
  | resume task =>
    unfold start
    dsimp only
    split
    · exact same
    · exact same
    · have queues : Queues (loop.modifyTask task fun task =>
          { task with status := .ended .cancelled, hooks := [], frames := [] })
            (loop.finish task .cancelled) :=
        .changes _ (fun loop hook => trigger_queues task .cancelled hook loop) _ _
      exact queues.ready
    · exact same
  | hook hook task =>
    unfold start
    dsimp only
    split
    · next outcome ended =>
      cases hook with
      | resume waiter => exact (wake_queues waiter (.ended outcome) loop).ready
      | answered cache query =>
        unfold runHook answered
        dsimp only
        split
        · exact (post_queues _ _ _).ready
        · exact same
      | deedDone cache =>
        have grains : Grains False (fun _ => True) loop (loop.deedDone cache task outcome) :=
          deedDone_grains loop cache trivial outcome
        exact grains.queues.ready
      | count waiter => exact (countDown_queues waiter loop).ready
    · exact same

/-- The job is the first that is ready, and is begun. -/
def TakesUp (job : Job) (before after : Loop S) : Prop :=
  before.turn = none ∧ ∃ rest, before.ready = job :: rest ∧
    after = ({ before with ready := rest } : Loop S).start job

/-- Where a job is when the first one is begun: it is that, or one place nearer to the front. -/
theorem TakesUp.place {job other : Job} {place : Nat} (takesUp : TakesUp other before after)
    (isReady : before.ready[place]? = some job) :
    TakesUp job before after ∨ ∃ nearer < place, after.ready[nearer]? = some job := by
  obtain ⟨isBetween, rest, isFirst, same⟩ := takesUp
  obtain ⟨jobs, ready⟩ := start_ready other ({ before with ready := rest } : Loop S)
  rw [isFirst] at isReady
  cases place with
  | zero =>
    cases isReady
    exact .inl ⟨isBetween, rest, isFirst, same⟩
  | succ place =>
    refine .inr ⟨place, Nat.lt_succ_self place, ?_⟩
    rw [same, ready]
    exact (List.getElem?_append_left (List.getElem?_eq_some_iff.mp isReady).1).trans isReady

/-- **More becomes ready after what was**, or the first job is begun. -/
theorem Happens.ready (happens : Happens allowed before after) (turnRuns : before.TurnRuns) :
    (∃ jobs, after.ready = before.ready ++ jobs) ∨ ∃ job, TakesUp job before after := by
  cases happens with
  | step =>
    have step := step_isStep before
    generalize before.step = after at step
    cases step with
    | @turn task wake frame rest isAt =>
      have plays := frameTurn_plays before.inTurn task frame wake
      exact .inl
        (plays.queues.trans (afterTurn_queues frame rest (frameTurn_running isAt turnRuns))).ready
    | pause turn isOver => exact .inl ⟨[], (List.append_nil _).symm⟩
    | job turn isFirst => exact .inr ⟨_, turn, _, isFirst, rfl⟩
    | rest turn => exact .inl ⟨[], (List.append_nil _).symm⟩
  | command command isBetween isMomentary isAllowed =>
    have grains : Grains False nobody before (before.command command).1 :=
      command_grains before command isMomentary
    exact .inl grains.queues.ready
  | elapse time => exact .inl ⟨[], (List.append_nil _).symm⟩
  | ring =>
    have grains : Grains False nobody before before.ring := ring_grains before
    exact .inl grains.queues.ready
  | decide scripts habits => exact .inl ⟨[], (List.append_nil _).symm⟩

/-- Where nobody has a turn, and a job is ready, the first one is begun. -/
theorem step_takesUp {job : Job} (isBetween : before.turn = none) (isReady : job ∈ before.ready) :
    ∃ first, TakesUp first before before.step := by
  cases ready : before.ready with
  | nil =>
    rw [ready] at isReady
    cases isReady
  | cons first rest => exact ⟨first, isBetween, rest, ready, by rw [step, isBetween, ready]⟩

/-! ## Courses -/

/-- What happens goes on, and again and again the loop takes up what is ready. -/
structure Onward (allowed : Outside S) (course : Nat → Loop S) : Prop where
  happens (moment : Nat) : Happens allowed (course moment) (course (moment + 1))
  goesOn (moment : Nat) : ∃ later ≥ moment, (course later).turn = none ∧
    course (later + 1) = (course later).step

namespace Onward

theorem reaches {first : Loop S} (onward : Onward allowed course)
    (run : Reaches allowed first (course 0)) (moment : Nat) :
    Reaches allowed first (course moment) := by
  induction moment with
  | zero => exact run
  | succ moment earlier => exact earlier.tail (onward.happens moment)

variable {service : S.State} {moment : Nat}

/-- **A task that has its turn goes on.** -/
theorem turn (onward : Onward allowed course) (run : Reaches allowed (fresh service) (course 0))
    {task : TaskId} {wake : Wake S.Reply} {frame : Frame S.Point} {rest : List (Frame S.Point)}
    (isAt : (course moment).IsAt task wake frame rest) :
    ∃ later ≥ moment, (course later).IsAt task wake frame rest ∧
      course (later + 1) =
        afterTurn task frame rest ((course later).inTurn.frameTurn task frame wake) := by
  obtain ⟨later, isLater, isBetween, -⟩ := onward.goesOn moment
  obtain ⟨distance, rfl⟩ := Nat.exists_eq_add_of_le isLater
  -- The turn is had before nobody has one.
  induction distance generalizing moment with
  | zero => cases isAt.turn.symm.trans isBetween
  | succ distance soon =>
    obtain ⟨old, found, frames⟩ := Option.map_eq_some_iff.mp isAt.frames
    obtain ⟨known, found', -⟩ := (onward.happens moment).remains.roles task old found
    cases (onward.happens moment).inherits found' with
    | new unknown => cases unknown.symm.trans found
    | doomed earlier role was bare =>
      have runs := (onward.reaches run moment).turnRuns task wake isAt.turn
      rw [status?, earlier, Option.map_some, was] at runs
      cases runs
    | kept earlier role same steady =>
      cases found.symm.trans earlier
      have isAt' : (course (moment + 1)).IsAt task wake frame rest :=
        ⟨(steady _ _ _ isAt).trans isAt.turn, by rw [found', Option.map_some, same, frames]⟩
      rw [show moment + (distance + 1) = moment + 1 + distance by omega] at isBetween
      obtain ⟨later, isLater, had⟩ := soon isAt' (by omega) isBetween
      exact ⟨later, by omega, had⟩
    | turn earlier role isAt' same =>
      cases isAt.turn.symm.trans isAt'.turn
      cases isAt.frames.symm.trans isAt'.frames
      exact ⟨moment, Nat.le_refl _, isAt, same⟩

/-- A job that is ready is begun, or comes nearer to the front. -/
theorem nearer (onward : Onward allowed course)
    (run : Reaches allowed (fresh service) (course 0)) {job : Job} {place : Nat}
    (isReady : (course moment).ready[place]? = some job) :
    ∃ later ≥ moment, TakesUp job (course later) (course (later + 1)) ∨
      ∃ nearer < place, (course (later + 1)).ready[nearer]? = some job := by
  obtain ⟨later, isLater, isBetween, step⟩ := onward.goesOn moment
  obtain ⟨distance, rfl⟩ := Nat.exists_eq_add_of_le isLater
  induction distance generalizing moment with
  | zero =>
    obtain ⟨first, takesUp⟩ := step_takesUp isBetween (List.mem_of_getElem? isReady)
    exact ⟨moment, Nat.le_refl _, (step ▸ takesUp).place isReady⟩
  | succ distance soon =>
    rcases (onward.happens moment).ready (onward.reaches run moment).turnRuns with ⟨jobs, ready⟩
      | ⟨first, takesUp⟩
    · have isReady' : (course (moment + 1)).ready[place]? = some job := by
        rw [ready]
        exact (List.getElem?_append_left (List.getElem?_eq_some_iff.mp isReady).1).trans isReady
      rw [show moment + (distance + 1) = moment + 1 + distance by omega] at isBetween step
      obtain ⟨later, isLater, comes⟩ := soon isReady' (by omega) isBetween step
      exact ⟨later, by omega, comes⟩
    · exact ⟨moment, Nat.le_refl _, takesUp.place isReady⟩

/-- **A job that is ready is begun.** -/
theorem begun (onward : Onward allowed course)
    (run : Reaches allowed (fresh service) (course 0)) {job : Job}
    (isReady : job ∈ (course moment).ready) :
    ∃ later ≥ moment, TakesUp job (course later) (course (later + 1)) := by
  obtain ⟨place, isThere⟩ := List.getElem?_of_mem isReady
  clear isReady
  induction place using Nat.strong_induction_on generalizing moment with
  | _ place soon =>
    obtain ⟨later, isLater, takesUp | ⟨nearer, isNearer, isReady⟩⟩ := onward.nearer run isThere
    · exact ⟨later, isLater, takesUp⟩
    · obtain ⟨last, isLast, takesUp⟩ := soon nearer isNearer isReady
      exact ⟨last, by omega, takesUp⟩

end Onward

end WatchedNode.Loop
