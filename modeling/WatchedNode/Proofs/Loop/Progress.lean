/-
**How a line moves on.**

Whatever happens to a cache on which there is a lull after that, its line moves on in one of three
ways (`Happens.advances`): it stays as it is; the task of a request ends, and its answer comes last;
or the worker deals with the first answer, which may give the cache a new view, or make it fetch its
node. Its view changes in no other way, since all who read the node for themselves leave a prompt
behind.
-/
import WatchedNode.Proofs.Closing
import WatchedNode.Proofs.Loop.Line

namespace WatchedNode

open Relation

variable {S : Service}

/-- What a cache has seen of the node at the path when it has dealt with an item, if that is
anything. -/
def Item.view? (path : String) : Item → Option Snapshot
  | .looked (.returned answer) => if answer.stat?.isSome then none else some (.absent path)
  | .fetched (.returned answer) => (Snapshot.make path answer.parts.2 answer.parts.1).toOption
  | _ => none

/-- A cache that deals with the item goes on to fetch its node. -/
def Item.isPromise : Item → Bool
  | .looked (.returned answer) => answer.stat?.isSome
  | _ => false

namespace Loop

section Shifts

variable {allowed : Outside S} {before after : Loop S}

/-! ## Answers that become ready -/

/-- How the answers that are ready change, and the tasks that have ended. -/
inductive Shifts (before after : Loop S) : Prop
  | same (dues : after.dues = before.dues)
      (outcomes : ∀ task, after.outcome? task = before.outcome? task) : Shifts before after
  /-- A task ends, and is followed by its answer. -/
  | ended {task : TaskId} {known : Task S} {outcome : Outcome Answer}
      (found : before.tasks[task]? = some known) (isOpen : before.outcome? task = none)
      (isOver : after.outcome? task = some outcome)
      (dues : after.dues = before.dues ++ known.role.answers.map (·, task))
      (outcomes : ∀ other, other ≠ task → after.outcome? other = before.outcome? other) :
      Shifts before after
  /-- The first answer is dealt with. -/
  | begun {hook : Hook} {task : TaskId} {ready : List Job} {outcome : Outcome Answer}
      (turn : before.turn = none) (isFirst : before.ready = .hook hook task :: ready)
      (isAnswer : hook.isAnswer = true) (isOver : before.outcome? task = some outcome)
      (same : after = ({ before with ready } : Loop S).runHook hook task outcome)
      (dues : before.dues = (hook, task) :: after.dues)
      (outcomes : ∀ task, after.outcome? task = before.outcome? task) : Shifts before after

theorem hasEnded_of_outcome {loop : Loop S} {task : TaskId} {known : Task S}
    (found : loop.tasks[task]? = some known) (isOpen : loop.outcome? task = none) :
    known.hasEnded = false := by
  refine hasEnded_iff.mpr fun outcome stage => ?_
  cases isOpen.symm.trans (outcome?_eq_some.mpr ⟨known, found, stage⟩)

theorem noteEnd_ready (task : TaskId) (frame : Frame S.Point) (way : Move S.Point) (loop : Loop S) :
    (loop.noteEnd task frame way).ready = loop.ready := by
  unfold noteEnd
  split <;> rfl

/-- A job that deals with no answer leaves those alone that are ready. -/
theorem dues_of_first {job : Job} {ready : List Job} {loop : Loop S}
    (isFirst : loop.ready = job :: ready) (isOther : job.hook? = none) :
    ({ loop with ready } : Loop S).dues = loop.dues := by
  rw [dues, dues, isFirst, List.filterMap_cons_none isOther]

theorem suspend_pushes (task : TaskId) (on : Await) (loop : Loop S) :
    Pushes loop (loop.suspend task on) := by
  have set : ∀ status, Pushes loop (loop.setStatus task status) := fun _ => .of_eq rfl
  unfold suspend
  split
  · split
    · exact (set _).trans (.push rfl _)
    · exact set _
  · exact set _

theorem move_pushes {task : TaskId} {rest : List (Frame S.Point)} {way : Move S.Point}
    {loop : Loop S} (goesOn : way.frames rest ≠ []) : Pushes loop (loop.move task rest way) := by
  have set : ∀ frames, Pushes loop (loop.setFrames task frames) := fun _ => .of_eq rfl
  cases way with
  | goOn frame => exact .of_eq rfl
  | call caller callee => exact .of_eq rfl
  | await frame on => exact (set _).trans (suspend_pushes task on _)
  | finish outcome =>
    cases rest with
    | nil => exact absurd rfl goesOn
    | cons caller rest => exact .of_eq rfl

theorem afterTurn_pushes (task : TaskId) (frame : Frame S.Point) {rest : List (Frame S.Point)}
    {turn : Turn S} (goesOn : turn.2.frames rest ≠ []) :
    Pushes turn.1 (afterTurn task frame rest turn) := by
  have noted : Pushes turn.1 (turn.1.noteEnd task frame turn.2) :=
    .of_eq (noteEnd_ready task frame turn.2 turn.1)
  exact noted.trans (move_pushes goesOn)

/-- A task that has not ended after its turn has frames left. -/
theorem afterTurn_goesOn {task : TaskId} {frame : Frame S.Point} {rest : List (Frame S.Point)}
    {turn : Turn S} {known : Task S} (found : turn.1.tasks[task]? = some known)
    (isOpen : (afterTurn task frame rest turn).outcome? task = none) : turn.2.frames rest ≠ [] := by
  intro past
  obtain ⟨loop, way⟩ := turn
  cases way with
  | finish outcome =>
    have isLast : rest = [] := past
    subst isLast
    have isThere : (loop.noteEnd task frame (.finish outcome)).tasks[task]? = some known := by
      rw [(noteEnd_tasks task frame (.finish outcome) loop).1]
      exact found
    have ended : (afterTurn task frame [] (loop, .finish outcome)).outcome? task = some outcome :=
      finish_outcome isThere outcome
    cases isOpen.symm.trans ended
  | _ => cases past

/-- A task that comes to its end is followed by its answer. -/
theorem ComesToEnd.shifts {task : TaskId} {outcome : Outcome Answer}
    (comes : ComesToEnd before task outcome after) (areTied : before.AreTied)
    (isOpen : before.outcome? task = none) (isOver : after.outcome? task = some outcome) :
    Shifts before after := by
  cases comes with
  | @turn wake frame isAt finishes =>
    obtain ⟨known, found, -⟩ := Option.map_eq_some_iff.mp isAt.frames
    have nudges := frameTurn_nudges task frame wake before.inTurn
    have spares := nudges.spares
    obtain ⟨known', found', role, -⟩ := spares.old task known found
    have tied : (before.inTurn.frameTurn task frame wake).1.AreTied := nudges.areTied areTied
    have hooks := tied task known' found'
      (hasEnded_of_outcome found' ((spares.outcome task).trans isOpen))
    have dues : (before.inTurn.frameTurn task frame wake).1.dues = before.dues := nudges.pushes.dues
    refine .ended found isOpen isOver ?_ fun other different =>
      ((afterTurn_ends frame [] found').outcome_of_ne different).trans (spares.outcome other)
    generalize before.inTurn.frameTurn task frame wake = turn at found' finishes hooks dues
    obtain ⟨loop, way⟩ := turn
    cases finishes
    have tasks := (noteEnd_tasks task frame (.finish outcome) loop).1
    rw [afterTurn, Loop.move, finish_dues outcome (tasks ▸ found'), hooks, role, ← dues, Loop.dues,
      noteEnd_ready, Loop.dues]
  | @doomed ready isBetween was isFirst =>
    obtain ⟨known, found, -⟩ := Option.map_eq_some_iff.mp was
    have hooks := areTied task known found (hasEnded_of_outcome found isOpen)
    refine .ended found isOpen isOver ?_ fun other different =>
      (finish_ends task .cancelled ({ before with ready } : Loop S)).outcome_of_ne different
    rw [finish_dues .cancelled (show ({ before with ready } : Loop S).tasks[task]? = _ from found),
      hooks,
      dues_of_first isFirst rfl]

/-- A task that gets its turn, and does not end instead, leaves the answers that are ready. -/
theorem start_dues {task : TaskId} {ready : List Job}
    (isFirst : before.ready = .resume task :: ready)
    (outcomes : ∀ other, (({ before with ready } : Loop S).start (.resume task)).outcome? other =
      before.outcome? other) :
    (({ before with ready } : Loop S).start (.resume task)).dues = before.dues := by
  have taken : ({ before with ready } : Loop S).dues = before.dues := dues_of_first isFirst rfl
  unfold Loop.start at outcomes ⊢
  dsimp only at outcomes ⊢
  split
  · exact taken
  · exact taken
  · next was =>
    have isOpen : before.outcome? task = none := by
      have was' : before.status? task = some .doomed := was
      rw [outcome?, was']
    obtain ⟨known, found, -⟩ := Option.map_eq_some_iff.mp was
    have past := finish_outcome found .cancelled
    rw [was] at outcomes
    cases isOpen.symm.trans ((outcomes task).symm.trans past)
  · exact taken

/-- An answer that is first is dealt with. -/
theorem start_shifts {hook : Hook} {task : TaskId} {ready : List Job}
    (isBetween : before.turn = none) (isFirst : before.ready = .hook hook task :: ready)
    (answersAreDue : before.AnswersAreDue) (isAnswer : hook.isAnswer = true)
    (outcomes : ∀ other, (({ before with ready } : Loop S).start (.hook hook task)).outcome? other =
      before.outcome? other) :
    Shifts before (({ before with ready } : Loop S).start (.hook hook task)) := by
  have dues : before.dues = (hook, task) :: ({ before with ready } : Loop S).dues := by
    rw [Loop.dues, isFirst,
      List.filterMap_cons_some (by rw [Job.hook?, if_pos isAnswer]), Loop.dues]
  obtain ⟨outcome, isOver⟩ := answersAreDue (hook, task) (dues ▸ List.mem_cons_self)
  have started : ({ before with ready } : Loop S).start (.hook hook task) =
      ({ before with ready } : Loop S).runHook hook task outcome := by
    have isOver' : ({ before with ready } : Loop S).outcome? task = some outcome := isOver
    rw [Loop.start, isOver']
  refine .begun isBetween isFirst isAnswer isOver started ?_ outcomes
  obtain ⟨owner, labours⟩ := runHook_labours hook task outcome ({ before with ready } : Loop S)
  rw [dues, started, labours.toils.nudges.pushes.dues]

/-- Another hook that is first leaves the answers that are ready. -/
theorem start_hook_dues {hook : Hook} {task : TaskId} {ready : List Job}
    (isFirst : before.ready = .hook hook task :: ready) (isOther : ¬ hook.isAnswer = true) :
    (({ before with ready } : Loop S).start (.hook hook task)).dues = before.dues := by
  have taken : ({ before with ready } : Loop S).dues = before.dues :=
    dues_of_first isFirst (by rw [Job.hook?, if_neg isOther])
  refine (Pushes.dues ?_).trans taken
  unfold Loop.start
  dsimp only
  split
  · obtain ⟨owner, labours⟩ := runHook_labours hook task _ ({ before with ready } : Loop S)
    exact labours.toils.nudges.pushes
  · exact .of_eq rfl

/-- A command leaves the answers that are ready. -/
theorem command_dues (command : Command S) (isMomentary : command.isMomentary) :
    (before.command command).1.dues = before.dues := by
  have order := command_isOrder before command isMomentary
  generalize (before.command command).1 = after at order
  cases order with
  | stirs stirs => exact stirs.toils.nudges.pushes.dues
  | call stirs point =>
    refine (stirs.toils.nudges.pushes.trans (.push ?_ _)).dues
    rfl
  | release tickets release _ =>
    refine Pushes.dues
      (releaseAll_keeps before release (fun loop task pushes => ?_) tickets (.of_eq rfl))
    exact pushes.trans (wake_pushes task _ loop)
  | install name owner path stat data same =>
    exact (installFrom_toils owner path stat data before).nudges.pushes.dues

/-- What becomes of the answers that are ready when no task ends. -/
theorem Happens.shifts_of_open (happens : Happens allowed before after)
    (endedAreBare : before.EndedAreBare) (answersAreDue : before.AnswersAreDue)
    (outcomes : ∀ task, after.outcome? task = before.outcome? task) : Shifts before after := by
  cases happens with
  | step =>
    have step := step_isStep before
    generalize before.step = after at step outcomes
    cases step with
    | @turn task wake frame rest isAt =>
      obtain ⟨known, found, -⟩ := Option.map_eq_some_iff.mp isAt.frames
      have nudges := frameTurn_nudges task frame wake before.inTurn
      obtain ⟨known', found', -⟩ := nudges.spares.old task known found
      have isOpen := (outcomes task).trans (endedAreBare.isAt isAt)
      have goesOn := afterTurn_pushes task frame (afterTurn_goesOn found' isOpen)
      exact .same (nudges.pushes.trans goesOn).dues outcomes
    | pause turn isOver => exact .same rfl outcomes
    | @job job ready turn isFirst =>
      cases job with
      | resume task => exact .same (start_dues isFirst outcomes) outcomes
      | hook hook task =>
        by_cases isAnswer : hook.isAnswer = true
        · exact start_shifts turn isFirst answersAreDue isAnswer outcomes
        · exact .same (start_hook_dues isFirst isAnswer) outcomes
    | rest turn => exact .same rfl outcomes
  | command command isBetween isMomentary isAllowed =>
    exact .same (command_dues command isMomentary) outcomes
  | elapse time => exact .same rfl outcomes
  | ring =>
    have nudges : Nudges True before before.ring := ring_nudges before
    exact .same nudges.pushes.dues outcomes
  | decide scripts habits => exact .same rfl outcomes

/-- **Each answer becomes ready when its task ends, and is dealt with in its turn.** -/
theorem Happens.shifts (happens : Happens allowed before after) (endedAreBare : before.EndedAreBare)
    (areTied : before.AreTied) (answersAreDue : before.AnswersAreDue) : Shifts before after := by
  by_cases ends : ∃ task outcome, before.outcome? task = none ∧ after.outcome? task = some outcome
  · obtain ⟨task, outcome, isOpen, isOver⟩ := ends
    exact (happens.ends isOpen isOver).shifts areTied isOpen isOver
  · refine happens.shifts_of_open endedAreBare answersAreDue fun task => ?_
    cases earlier : before.outcome? task with
    | some outcome => exact happens.outcome endedAreBare earlier
    | none =>
      refine Option.eq_none_iff_forall_ne_some.mpr fun outcome ended => ?_
      exact ends ⟨task, outcome, earlier, ended⟩

/-! ## Order -/

theorem setFrames_areTied (task : TaskId) (frames : List (Frame S.Point)) {loop : Loop S}
    (areTied : loop.AreTied) : (loop.setFrames task frames).AreTied := by
  refine areTied.modifyTask task _ fun known found => ?_
  cases isOpen : known.hasEnded with
  | true => exact .inl isOpen
  | false => exact .inr ⟨rfl, rfl, rfl⟩

theorem suspend_areTied {task : TaskId} {known : Task S} {loop : Loop S}
    (found : loop.tasks[task]? = some known) (isOpen : known.hasEnded = false) (on : Await)
    (areTied : loop.AreTied) : (loop.suspend task on).AreTied := by
  have set : ∀ status, (loop.setStatus task status).AreTied := fun status =>
    setStatus_areTied areTied task status (by rw [status?, found, Option.map_some])
      (hasEnded_iff.mp isOpen)
  unfold suspend
  split
  · split
    · exact set _
    · exact set _
  · exact set _

theorem move_areTied {task : TaskId} {known : Task S} {rest : List (Frame S.Point)}
    (way : Move S.Point) {loop : Loop S} (found : loop.tasks[task]? = some known)
    (isOpen : known.hasEnded = false) (areTied : loop.AreTied) :
    (loop.move task rest way).AreTied := by
  cases way with
  | goOn frame => exact setFrames_areTied task _ areTied
  | call caller callee => exact setFrames_areTied task _ areTied
  | await frame on =>
    have isThere : (loop.setFrames task (frame :: rest)).tasks[task]? =
        some { known with frames := frame :: rest } := by
      rw [show (loop.setFrames task (frame :: rest)).tasks = loop.tasks.modify task _ from rfl,
        List.getElem?_modify_eq, found]
      rfl
    exact suspend_areTied isThere isOpen on (setFrames_areTied task _ areTied)
  | finish outcome =>
    cases rest with
    | nil => exact finish_areTied task outcome areTied
    | cons caller rest => exact setFrames_areTied task _ areTied

theorem start_areTied (job : Job) {loop : Loop S} (areTied : loop.AreTied) :
    (loop.start job).AreTied := by
  unfold Loop.start
  split
  · split
    · next was => exact setStatus_areTied areTied _ _ was fun _ => Stage.noConfusion
    · next was => exact setStatus_areTied areTied _ _ was fun _ => Stage.noConfusion
    · exact finish_areTied _ _ areTied
    · exact areTied
  · split
    · obtain ⟨owner, labours⟩ := runHook_labours _ _ _ loop
      exact labours.toils.nudges.areTied areTied
    · exact areTied

theorem Happens.areTied (happens : Happens allowed before after)
    (endedAreBare : before.EndedAreBare) (areTied : before.AreTied) : after.AreTied := by
  cases happens with
  | step =>
    have step := step_isStep before
    generalize before.step = after at step
    cases step with
    | @turn task wake frame rest isAt =>
      obtain ⟨known, found, -⟩ := Option.map_eq_some_iff.mp isAt.frames
      have nudges := frameTurn_nudges task frame wake before.inTurn
      obtain ⟨known', found', -⟩ := nudges.spares.old task known found
      have isOpen := hasEnded_of_outcome found' ((nudges.spares.outcome task).trans
        (endedAreBare.isAt isAt))
      have tasks := (noteEnd_tasks task frame (before.inTurn.frameTurn task frame wake).2
        (before.inTurn.frameTurn task frame wake).1).1
      have noted : ((before.inTurn.frameTurn task frame wake).1.noteEnd task frame
          (before.inTurn.frameTurn task frame wake).2).AreTied := by
        rw [AreTied, tasks]
        exact nudges.areTied areTied
      exact move_areTied _ (tasks ▸ found') isOpen noted
    | pause turn isOver => exact areTied
    | @job job ready turn isFirst =>
      have taken : ({ before with ready } : Loop S).AreTied := areTied
      exact start_areTied job taken
    | rest turn => exact areTied
  | command command isBetween isMomentary isAllowed =>
    have order := command_isOrder before command isMomentary
    generalize (before.command command).1 = after at order
    cases order with
    | stirs stirs => exact stirs.toils.nudges.areTied areTied
    | call stirs point => exact spawn_areTied rfl _ (stirs.toils.nudges.areTied areTied)
    | release tickets release _ =>
      exact releaseAll_keeps before release (fun loop task => wake_areTied task _) tickets areTied
    | install name owner path stat data same =>
      exact (installFrom_toils owner path stat data before).nudges.areTied areTied
  | elapse time => exact areTied
  | ring =>
    have nudges : Nudges True before before.ring := ring_nudges before
    exact nudges.areTied areTied
  | decide scripts habits => exact areTied

theorem Shifts.answersAreDue (shifts : Shifts before after) (answersAreDue : before.AnswersAreDue) :
    after.AnswersAreDue := by
  intro due member
  cases shifts with
  | same dues outcomes =>
    rw [outcomes]
    exact answersAreDue due (dues ▸ member)
  | @ended task known outcome found isOpen isOver dues outcomes =>
    by_cases here : due.2 = task
    · exact ⟨outcome, here ▸ isOver⟩
    · rw [outcomes due.2 here]
      rw [dues] at member
      refine answersAreDue due ((List.mem_append.mp member).resolve_right fun isNew => here ?_)
      obtain ⟨hook, -, rfl⟩ := List.mem_map.mp isNew
      rfl
  | begun turn isFirst isAnswer isOver same dues outcomes =>
    rw [outcomes]
    exact answersAreDue due (dues ▸ List.mem_cons_of_mem _ member)

/-- The tasks of requests and their answers are in order. -/
structure IsOrderly (loop : Loop S) : Prop where
  areTied : loop.AreTied
  answersAreDue : loop.AnswersAreDue

theorem Reaches.isOrderly {service : S.State} {last : Loop S}
    (run : Reaches allowed (fresh service) last) : last.IsOrderly := by
  induction run with
  | refl =>
    exact ⟨fun task known found => by simp [fresh] at found, fun due member => nomatch member⟩
  | tail run happens step =>
    have endedAreBare := Reaches.endedAreBare run
    exact ⟨happens.areTied endedAreBare step.areTied,
      (happens.shifts endedAreBare step.areTied step.answersAreDue).answersAreDue
        step.answersAreDue⟩

end Shifts

/-! ## Lines -/

section Lines

variable {allowed : Outside S} {before after : Loop S} {cache : CacheId}

/-- The answer that a cache is given when it is dealt with what is due. -/
def answerOf? (cache : CacheId) (loop : Loop S) : Hook × TaskId → Option Item
  | (.answered owner query, task) =>
    if owner = cache then (loop.outcome? task).map (query.answer ·) else none
  | _ => none

/-- The answers to a cache's requests that have not become items yet. -/
def answers (cache : CacheId) (loop : Loop S) : List Item :=
  loop.dues.filterMap (answerOf? cache loop)

/-- All that the cache has to deal with, the earliest first. -/
def line (cache : CacheId) (loop : Loop S) : List Item := loop.items cache ++ loop.answers cache

/-- Answers stay what they are when more tasks end. -/
theorem answers_of_outcomes {loop : Loop S} (answersAreDue : loop.AnswersAreDue)
    (outcomes : ∀ task outcome, loop.outcome? task = some outcome →
      after.outcome? task = some outcome) :
    loop.dues.filterMap (answerOf? cache after) = loop.answers cache := by
  refine List.filterMap_congr fun due member => ?_
  obtain ⟨outcome, ended⟩ := answersAreDue due member
  obtain ⟨hook, task⟩ := due
  cases hook with
  | answered owner query => simp only [answerOf?, ended, outcomes task outcome ended]
  | _ => rfl

/-! ## What the worker does with items -/

/-- A cache that gets a new view and is not prompted keeps its items. -/
theorem install_deals {known : Cache} (data : Snapshot) {loop : Loop S} (believes : loop.Believes)
    (found : loop.caches[cache]? = some known)
    (unprompted : (loop.install cache data).IsUnprompted cache) :
    (loop.install cache data).view? cache = some data ∧
      (loop.install cache data).items cache = loop.items cache := by
  have isThere : (loop.setData cache data false).caches[cache]? = some { known with data } :=
    modifyCache_self found _
  have believes' := (setData_pulses cache data false loop).believes believes
  have set : (loop.setData cache data false).view? cache = some data ∧
      (loop.setData cache data false).items cache = loop.items cache := by
    refine ⟨view_eq isThere, ?_⟩
    rw [items_eq isThere, items_eq found]
    rfl
  unfold install at unprompted ⊢
  dsimp only at unprompted ⊢
  split at unprompted
  · next same =>
    rw [if_pos same]
    exact set
  · next differs =>
    rw [if_neg differs]
    have conveys : Conveys cache (loop.setData cache data false)
        ((loop.setData cache data false).notify cache) := notify_conveys cache believes'
    exact ⟨(conveys.view unprompted).trans set.1, (conveys.items unprompted).trans set.2⟩

/-- What comes of an item for a cache that is not prompted. -/
structure Deals (cache : CacheId) (known : Cache) (item : Item) (before after : Loop S) : Prop where
  view : after.view? cache = some ((item.view? known.path).getD known.data)
  items : after.items cache = before.items cache
  promised : item.isPromise = true →
    (before.tasks.length, queryRequest cache known .fetch) ∈ after.askedSince cache

theorem Deals.trans_conveys {known : Cache} {item : Item} {last : Loop S}
    (deals : Deals cache known item before after) (conveys : Conveys cache after last)
    (unprompted : last.IsUnprompted cache) : Deals cache known item before last :=
  ⟨(conveys.view unprompted).trans deals.view, (conveys.items unprompted).trans deals.items,
    fun isPromise => conveys.retains.asked _ unprompted (deals.promised isPromise)⟩

theorem Deals.of_conveys {known : Cache} {item : Item} (conveys : Conveys cache before after)
    (found : before.caches[cache]? = some known) (unprompted : after.IsUnprompted cache)
    (isSilent : item.view? known.path = none) (isDone : item.isPromise = false) :
    Deals cache known item before after := by
  refine ⟨?_, conveys.items unprompted, fun isPromise => ?_⟩
  · rw [isSilent, conveys.view unprompted, view_eq found, Option.getD_none]
  · cases isDone.symm.trans isPromise

theorem install_is_dealt {known : Cache} {item : Item} {data : Snapshot} {loop : Loop S}
    (believes : loop.Believes) (found : loop.caches[cache]? = some known)
    (isView : item.view? known.path = some data) (isDone : item.isPromise = false)
    (unprompted : (loop.install cache data).IsUnprompted cache) :
    Deals cache known item loop (loop.install cache data) := by
  obtain ⟨view, items⟩ := install_deals data believes found unprompted
  refine ⟨?_, items, fun isPromise => ?_⟩
  · rw [view, isView, Option.getD_some]
  · cases isDone.symm.trans isPromise

theorem looked_deals {known : Cache} (outcome : Outcome Answer) {loop : Loop S}
    (believes : loop.Believes) (found : loop.caches[cache]? = some known)
    (isRunning : known.isRunning = true)
    (unprompted : (loop.looked cache outcome).IsUnprompted cache) :
    Deals cache known (.looked outcome) loop (loop.looked cache outcome) := by
  unfold looked at unprompted ⊢
  rw [found] at unprompted ⊢
  simp only [isRunning, Bool.not_true, Bool.false_eq_true, if_false] at unprompted ⊢
  cases outcome with
  | cancelled => exact .of_conveys (.refl loop) found unprompted rfl rfl
  | failed error => exact .of_conveys (.note loop rfl) found unprompted rfl rfl
  | returned answer =>
    cases stamps : answer.stat? with
    | none =>
      simp only [stamps] at unprompted ⊢
      exact install_is_dealt believes found (by simp [Item.view?, stamps])
        (by simp [Item.isPromise, stamps]) unprompted
    | some stat =>
      simp only [stamps] at unprompted ⊢
      have conveys : Conveys cache loop (loop.ask cache .fetch) := ask_conveys cache .fetch loop
      refine ⟨?_, conveys.items unprompted, fun _ => ?_⟩
      · rw [conveys.view unprompted, view_eq found]
        simp [Item.view?, stamps]
      · rw [askedSince, ask_eq .fetch found, (addHook_keeps _ _ _).2.2.1]
        exact List.mem_of_mem_head? (by simp [posed, WatchedNode.askedSince])

theorem fetched_deals {known : Cache} (outcome : Outcome Answer) {loop : Loop S}
    (believes : loop.Believes) (found : loop.caches[cache]? = some known)
    (isRunning : known.isRunning = true)
    (unprompted : (loop.fetched cache outcome).IsUnprompted cache) :
    Deals cache known (.fetched outcome) loop (loop.fetched cache outcome) := by
  unfold fetched at unprompted ⊢
  rw [found] at unprompted ⊢
  simp only [isRunning, Bool.not_true, Bool.false_eq_true, if_false] at unprompted ⊢
  cases outcome with
  | cancelled => exact .of_conveys (.refl loop) found unprompted rfl rfl
  | failed error =>
    dsimp only at unprompted ⊢
    split at unprompted
    · next gone =>
      rw [if_pos gone]
      exact .of_conveys (.refl loop) found unprompted rfl rfl
    · next isError =>
      rw [if_neg isError]
      exact .of_conveys (.note loop rfl) found unprompted rfl rfl
  | returned answer =>
    cases made : Snapshot.make known.path answer.parts.2 answer.parts.1 with
    | error error =>
      simp only [made] at unprompted ⊢
      exact .of_conveys (.note loop rfl) found unprompted
        (by simp [Item.view?, made, Except.toOption]) rfl
    | ok data =>
      simp only [made] at unprompted ⊢
      exact install_is_dealt believes found (by simp [Item.view?, made, Except.toOption])
        rfl unprompted

/-- How the items of a cache and its view change. -/
inductive Handles (cache : CacheId) (before after : Loop S) : Prop
  | stays (view : after.view? cache = before.view? cache)
      (items : after.items cache = before.items cache) :
      Handles cache before after
  /-- The first item is dealt with. -/
  | dealt {known : Cache} {item : Item} (found : before.caches[cache]? = some known)
      (items : before.items cache = item :: after.items cache)
      (view : after.view? cache = some ((item.view? known.path).getD known.data))
      (promised : item.isPromise = true →
        (before.tasks.length, queryRequest cache known .fetch) ∈ after.askedSince cache) :
      Handles cache before after

theorem Handles.of_inTurn (handles : Handles cache before.inTurn after) :
    Handles cache before after := by
  cases handles with
  | stays view items => exact .stays view items
  | dealt found items view promised => exact .dealt found items view promised

theorem Handles.trans_conveys {last : Loop S} (handles : Handles cache before after)
    (conveys : Conveys cache after last) (unprompted : last.IsUnprompted cache) :
    Handles cache before last := by
  have view := conveys.view unprompted
  have items := conveys.items unprompted
  cases handles with
  | stays view' items' => exact .stays (view.trans view') (items.trans items')
  | dealt found items' view' promised =>
    exact .dealt found (items ▸ items') (view.trans view') fun isPromise =>
      conveys.retains.asked _ unprompted (promised isPromise)

theorem Conveys.handles (conveys : Conveys cache before after)
    (unprompted : after.IsUnprompted cache) :
    Handles cache before after := .stays (conveys.view unprompted) (conveys.items unprompted)

/-- Nothing is to be said about a cache that is prompted after that. -/
theorem Conveys.of_prompted (prompted : ¬ after.IsUnprompted cache) : Conveys cache before after :=
  ⟨⟨(absurd · prompted), fun _ unprompted => absurd unprompted prompted⟩, (absurd · prompted),
    (absurd · prompted)⟩

section OwnWork

variable {known : Cache} {loop : Loop S}

theorem rebuilt_conveys (outcome : Outcome Answer) :
    Conveys cache loop (loop.rebuilt cache known outcome).1 := by
  unfold rebuilt
  split
  · exact .of_prompted (refresh_prompts cache _)
  · exact .refl loop
  · exact .refl loop

theorem startTurn_conveys (hasBegun : known.phase ≠ .latent) (self : TaskId) (buildInitial : Bool)
    (stage : StartStage) (wake : Wake S.Reply) :
    Conveys cache loop (loop.startTurn self cache known buildInitial stage wake).1 := by
  unfold startTurn
  split
  · exact .refl loop
  · rw [if_neg hasBegun]
    exact .refl loop
  · have listens : Conveys cache loop
        (loop.setService (S.listen known.handle (.cache cache) loop.service)) := .of_eq rfl rfl
    dsimp only
    split
    · exact listens.trans (.note _ rfl)
    · exact .of_prompted (refresh_prompts cache _)
  · exact rebuilt_conveys _
  · exact .refl loop
  · exact .refl loop

theorem rebuildTurn_conveys (self : TaskId) (isReading : Bool) (wake : Wake S.Reply) :
    Conveys cache loop (loop.rebuildTurn self cache known isReading wake).1 := by
  unfold rebuildTurn
  split
  · split
    · exact .note loop rfl
    · exact .refl loop
  · exact rebuilt_conveys _
  · exact .refl loop

/-- A worker that goes on with an item which is no prompt deals with it. -/
theorem work_deals {taken : Cache} {item : Item} (isPlain : item.isPrompt = false) (self : TaskId)
    {below : List (Frame S.Point)} (isFree : below ≠ [.worker cache .taking])
    (believes : loop.Believes) (found : loop.caches[cache]? = some taken)
    (isRunning : taken.isRunning = true)
    (goesOn : (loop.work self cache known item).2.frames below = [.worker cache .taking])
    (unprompted : (loop.work self cache known item).1.IsUnprompted cache) :
    Deals cache taken item loop (loop.work self cache known item).1 := by
  have done : ∀ middle, Labours cache False False loop middle →
      (middle.itemDone cache).IsUnprompted cache →
      (middle.IsUnprompted cache → Deals cache taken item loop middle) →
      Deals cache taken item loop (middle.itemDone cache) :=
        fun middle labours unprompted deals => by
    have believes' := labours.toils.pulses.believes believes
    have conveys : Conveys cache middle (middle.itemDone cache) :=
      (itemDone_stirs middle cache).conveys believes'
    exact (deals (conveys.retains.prompts unprompted)).trans_conveys conveys unprompted
  cases item with
  | check => cases isPlain
  | resync => cases isPlain
  | stop => exact absurd goesOn isFree
  | looked outcome =>
    exact done _ (looked_labours outcome loop) unprompted
      (looked_deals outcome believes found isRunning)
  | fetched outcome =>
    exact done _ (fetched_labours outcome loop) unprompted
      (fetched_deals outcome believes found isRunning)

/-- A worker that is idle after its turn has waited for an item, or has dealt with one. -/
theorem workerTurn_handles {self : TaskId} {stage : WorkerStage} {wake : Wake S.Reply}
    {below : List (Frame S.Point)} (isFree : below ≠ [.worker cache .taking])
    (believes : loop.Believes) (found : loop.caches[cache]? = some known)
    (isUnprompted : known.IsUnprompted)
    (goesOn :
      (loop.workerTurn self cache known stage wake).2.frames below = [.worker cache .taking])
    (unprompted : (loop.workerTurn self cache known stage wake).1.IsUnprompted cache) :
    Handles cache loop (loop.workerTurn self cache known stage wake).1 := by
  cases stage with
  | resyncing => exact absurd unprompted (workerTurn_resynced found goesOn isFree)
  | taking =>
    obtain ⟨isActive, backlog, has, plain⟩ := isUnprompted
    have isRunning : known.isRunning = true := (Bool.and_eq_true_iff.mp isActive).1
    by_cases isCancelled : wake = .cancelled
    · subst isCancelled
      exact absurd goesOn isFree
    cases isFirst : known.backlog.bind Backlog.take? with
    | none =>
      have waits : loop.workerTurn self cache known .taking wake =
          (loop.modifyCache cache fun cache =>
            { cache with backlog := cache.backlog.map (Backlog.await self) },
            .await (.worker cache .taking) .item) := by
        cases wake <;> first | exact absurd rfl isCancelled | simp only [workerTurn, isFirst]
      rw [waits] at unprompted ⊢
      have tends : Stir loop (loop.modifyCache cache fun cache =>
          { cache with backlog := cache.backlog.map (Backlog.await self) }) :=
        .tend loop cache _ fun known _ =>
          Cache.tends_backlog (Backlog.await self) (fun _ => rfl) known
      exact (tends.conveys believes).handles unprompted
    | some first =>
      obtain ⟨item, rest⟩ := first
      have takes : loop.workerTurn self cache known .taking wake =
          (loop.modifyCache cache fun cache => { cache with backlog := some rest }).work
            self cache known
            item := by
        cases wake <;> first | exact absurd rfl isCancelled | simp only [workerTurn, isFirst]
      rw [has, Option.bind_some] at isFirst
      have items := (Backlog.take?_eq_some isFirst).1
      have taken := modifyCache_self found fun cache => { cache with backlog := some rest }
      rw [takes] at goesOn unprompted ⊢
      have believes' : (loop.modifyCache cache fun cache =>
          { cache with backlog := some rest }).Believes := by
        have same : Steadfast loop (loop.modifyCache cache fun cache =>
            { cache with backlog := some rest }) :=
          ⟨fun other => modifyCache_map loop (·.connected) cache other _ fun _ => rfl, fun _ => rfl⟩
        exact same.believes believes
      have deals := work_deals (plain item (items ▸ List.mem_cons_self)) self isFree believes' taken
        isRunning goesOn unprompted
      refine .dealt found ?_ deals.view deals.promised
      rw [deals.items, items_eq taken, items_eq found, Cache.items, has]
      exact items

end OwnWork

/-- What a frame that does work of its own does with the items of a cache and its view. -/
theorem ownTurn_handles {task : TaskId} {wake : Wake S.Reply} {frame : Frame S.Point}
    {below : List (Frame S.Point)} (isOwn : frame.isOwnWork) {loop : Loop S}
    (believes : loop.Believes) (hasBegun : loop.HasBegun cache)
    (isFree : below ≠ [.worker cache .taking]) (isUnprompted : loop.IsUnprompted cache)
    (goesOn : ∀ stage, frame = .worker cache stage →
      (loop.frameTurn task frame wake).2.frames below = [.worker cache .taking])
    (unprompted : (loop.frameTurn task frame wake).1.IsUnprompted cache) :
    Handles cache loop (loop.frameTurn task frame wake).1 := by
  obtain ⟨known, found, hasBegun⟩ := hasBegun
  by_cases isMine : frame.activity.owner? = some cache
  · cases frame with
    | worker owner stage =>
      cases isMine
      have turn : loop.frameTurn task (.worker cache stage) wake =
          loop.workerTurn task cache known stage wake := by
        unfold frameTurn
        simp only [found]
        rfl
      have goesOn := goesOn stage rfl
      obtain ⟨known', found', isUnprompted⟩ := isUnprompted
      cases found.symm.trans found'
      rw [turn] at goesOn unprompted ⊢
      exact workerTurn_handles isFree believes found isUnprompted goesOn unprompted
    | start owner buildInitial stage =>
      cases isMine
      have turn : loop.frameTurn task (.start cache buildInitial stage) wake =
          loop.startTurn task cache known buildInitial stage wake := by
        unfold frameTurn
        simp only [found]
        rfl
      rw [turn] at unprompted ⊢
      exact (startTurn_conveys hasBegun task buildInitial stage wake).handles unprompted
    | rebuild owner isReading =>
      cases isMine
      have turn : loop.frameTurn task (.rebuild cache isReading) wake =
          loop.rebuildTurn task cache known isReading wake := by
        unfold frameTurn
        simp only [found]
        rfl
      rw [turn] at unprompted ⊢
      exact (rebuildTurn_conveys task isReading wake).handles unprompted
    | _ => exact isOwn.elim
  · have isNoCall : ¬ frame.isService := by
      cases frame <;> simp_all [Frame.isOwnWork, Frame.isService]
    obtain ⟨owner, middle, isOwner, prepares, labours⟩ :=
      frameTurn_endeavours task frame wake loop isNoCall
    have different : owner ≠ cache := by
      rintro rfl
      exact isMine (isOwner isOwn)
    have prepared : Conveys cache loop middle := prepares.conveys fun isWorker => by
      subst isWorker
      exact isMine rfl
    have believes' : middle.Believes := by
      cases prepares with
      | nothing => exact believes
      | listen isStart isReady isThere => exact setService_believes _ believes
      | @take other _ _ rest isWorker isThere isFirst =>
        have same : Steadfast loop (loop.modifyCache other fun cache =>
            { cache with backlog := some rest }) :=
          ⟨fun last => modifyCache_map loop (·.connected) other last _ fun _ => rfl, fun _ => rfl⟩
        exact same.believes believes
    exact (prepared.trans (labours.conveys different believes')).handles unprompted

theorem serviceTurn_conveys (self : TaskId) (point : S.Point) (wake : Wake S.Reply) {loop : Loop S}
    (believes : loop.Believes) : Conveys cache loop (loop.serviceTurn self point wake).1 := by
  obtain ⟨tickets, alarms, same⟩ := serviceTurn_loop loop self point wake
  have set : Conveys cache loop
      (loop.setService (S.resume (loop.moment self) point wake loop.service).state) :=
    .of_eq rfl rfl
  have reacted : Conveys cache loop (loop.react self point wake) :=
    set.trans (perform_conveys _ (setService_believes _ believes))
  rw [same]
  exact reacted.trans (.of_eq rfl rfl)

/-- What a turn that leaves a lull does with the items of a cache and its view. -/
theorem turn_handles (isRegular : before.IsRegular) (hasBegun : before.HasBegun cache)
    {task : TaskId} {wake : Wake S.Reply} {frame : Frame S.Point} {rest : List (Frame S.Point)}
    (isAt : before.IsAt task wake frame rest)
    (lull : (afterTurn task frame rest (before.inTurn.frameTurn task frame wake)).IsLull cache) :
    Handles cache before (before.inTurn.frameTurn task frame wake).1 := by
  have believes : before.inTurn.Believes := isRegular.believes.of_eq rfl rfl
  have unprompted := (afterTurn_retains task frame rest _).prompts lull.isUnprompted
  by_cases isOwn : frame.isOwnWork
  · have isUnprompted := (turn_retains isRegular hasBegun isAt lull).prompts unprompted
    have isFree : rest ≠ [.worker cache .taking] :=
      not_idle_of_stack (isRegular.areStacked.isAt isAt)
    refine (ownTurn_handles isOwn believes hasBegun isFree isUnprompted (fun stage same => ?_)
      unprompted).of_inTurn
    subst same
    exact turn_isIdle isRegular isAt lull
  · have conveys : Conveys cache before.inTurn (before.inTurn.frameTurn task frame wake).1 := by
      by_cases isService : frame.isService
      · cases frame with
        | service point => exact serviceTurn_conveys task point wake believes
        | _ => exact isService.elim
      · exact (frameTurn_stirs before.inTurn task frame wake isOwn isService).conveys believes
    have inTurn : Conveys cache before before.inTurn := .of_eq rfl rfl
    exact (inTurn.trans conveys).handles unprompted

/-- When the task of a request comes to its end, nothing is done but the call. -/
theorem ComesToEnd.conveys {task : TaskId} {outcome : Outcome Answer}
    (comes : ComesToEnd before task outcome after) (isRegular : before.IsRegular) {known : Task S}
    (found : before.tasks[task]? = some known) {owner : CacheId} {query : Query}
    (role : known.role = .request owner query) : Conveys cache before after := by
  cases comes with
  | @turn wake frame isAt finishes =>
    obtain ⟨known', found', frames⟩ := Option.map_eq_some_iff.mp isAt.frames
    cases found.symm.trans found'
    rcases isRegular.requestsStand task known owner query found role with bare
      | ⟨_, point, -, isCall, -⟩
    · cases bare.symm.trans frames
    · cases isCall.symm.trans frames
      have believes : before.inTurn.Believes := isRegular.believes.of_eq rfl rfl
      have inTurn : Conveys cache before before.inTurn := .of_eq rfl rfl
      exact inTurn.trans ((serviceTurn_conveys task point wake believes).trans
        (afterTurn_conveys task _ [] _))
  | @doomed ready isBetween was isFirst =>
    exact .of_eq (finish_keeps _ _ _).2.1 (finish_keeps _ _ _).2.2.1

/-- What a job that is no answer to the cache's requests does with its items and its view. -/
theorem start_conveys {job : Job} (isOther : job.isAnswer cache = false) {loop : Loop S}
    (believes : loop.Believes) : Conveys cache loop (loop.start job) := by
  cases job with
  | resume task =>
    unfold Loop.start
    dsimp only
    split
    · exact .of_eq rfl rfl
    · exact .of_eq rfl rfl
    · exact .of_eq (finish_keeps _ _ _).2.1 (finish_keeps _ _ _).2.2.1
    · exact .refl loop
  | hook hook task =>
    unfold Loop.start
    dsimp only
    split
    · next outcome _ =>
      by_cases isAnswer : ∃ owner query, hook = .answered owner query
      · obtain ⟨owner, query, rfl⟩ := isAnswer
        have different : owner ≠ cache := of_decide_eq_false isOther
        exact (answered_labours owner query task outcome loop).conveys different believes
      · have stirs := runHook_stirs loop hook task outcome fun owner query same =>
          isAnswer ⟨owner, query, same⟩
        exact stirs.conveys believes
    · exact .refl loop

/-- An answer becomes the last item. -/
theorem answered_items {query : Query} {task : TaskId} {outcome : Outcome Answer} {loop : Loop S}
    (unprompted : (loop.answered cache query task outcome).IsUnprompted cache) :
    (loop.answered cache query task outcome).view? cache = loop.view? cache ∧
      (loop.answered cache query task outcome).items cache =
        loop.items cache ++ [query.answer outcome] := by
  have dealt := modifyCache_map loop (·.data) cache cache (fun cache =>
    { cache with pending := cache.pending.filter (· ≠ task) }) fun _ => rfl
  have same := modifyCache_map loop Cache.items cache cache (fun cache =>
    { cache with pending := cache.pending.filter (· ≠ task) }) fun _ => rfl
  unfold answered at unprompted ⊢
  generalize (loop.modifyCache cache fun cache =>
    { cache with pending := cache.pending.filter (· ≠ task) }) = middle at dealt same unprompted ⊢
  dsimp only at unprompted ⊢
  split at unprompted
  · next runs =>
    obtain ⟨known, found, -, backlog, has, -⟩ := (post_retains cache _ middle).prompts unprompted
    rw [if_pos runs]
    refine ⟨(post_view cache _ middle).trans dealt, ?_⟩
    have items : middle.items cache = loop.items cache := congrArg (·.getD []) same
    rw [← items, post_items _ found has]
    cases query <;> rfl
  · next stops =>
    obtain ⟨known, found, isActive, -⟩ := unprompted
    have isRunning : known.isRunning = true := (Bool.and_eq_true_iff.mp isActive).1
    rw [found] at stops
    exact absurd isRunning stops

/-- **What happens to the items of a cache and its view** in a step that leaves a lull, unless an
answer to one of its requests becomes an item. -/
theorem Happens.handles (happens : Happens published before after) (isRegular : before.IsRegular)
    (hasBegun : before.HasBegun cache) (lull : after.IsLull cache) :
    Handles cache before after ∨ ∃ query task ready outcome,
      before.ready = .hook (.answered cache query) task :: ready ∧
        before.outcome? task = some outcome ∧
          after = ({ before with ready } : Loop S).answered cache query task outcome := by
  have plain : Conveys cache before after → Handles cache before after := fun conveys =>
    conveys.handles lull.isUnprompted
  cases happens with
  | step =>
    have step := step_isStep before
    generalize before.step = after at step lull plain
    cases step with
    | @turn task wake frame rest isAt =>
      exact .inl ((turn_handles isRegular hasBegun isAt lull).trans_conveys
        (afterTurn_conveys task frame rest _) lull.isUnprompted)
    | pause turn isOver => exact .inl (plain (.of_eq rfl rfl))
    | @job job ready turn isFirst =>
      have taken : Conveys cache before { before with ready } := .of_eq rfl rfl
      have believes : ({ before with ready } : Loop S).Believes := isRegular.believes.of_eq rfl rfl
      by_cases isOther : job.isAnswer cache = false
      · exact .inl (plain (taken.trans (start_conveys isOther believes)))
      · cases job with
        | resume task => exact absurd rfl isOther
        | hook hook task =>
          cases hook with
          | answered owner query =>
            have here : owner = cache := of_decide_eq_true (Bool.not_eq_false _ ▸ isOther)
            subst here
            cases ended : before.outcome? task with
            | none =>
              have idle :
                  ({ before with ready } : Loop S).start (.hook (.answered owner query) task) =
                  { before with ready } := by
                rw [Loop.start,
                  show ({ before with ready } : Loop S).outcome? task = none from ended]
              rw [idle] at plain ⊢
              exact .inl (plain taken)
            | some outcome =>
              refine .inr ⟨query, task, ready, outcome, isFirst, ended, ?_⟩
              rw [Loop.start,
                show ({ before with ready } : Loop S).outcome? task = some outcome from ended]
              rfl
          | _ => exact absurd rfl isOther
    | rest turn => exact .inl (plain (.refl before))
  | command command isBetween isMomentary isAllowed =>
    refine .inl (plain ?_)
    have order := command_isOrder before command isMomentary
    generalize (before.command command).1 = after at order
    cases order with
    | stirs stirs => exact stirs.conveys isRegular.believes
    | call stirs point => exact (stirs.conveys isRegular.believes).trans (.of_eq rfl rfl)
    | release tickets release _ =>
      refine releaseAll_keeps before release (fun loop task conveys => conveys.trans ?_) tickets
        (.refl before)
      exact .of_eq (wake_keeps loop task _).2.1 (wake_keeps loop task _).2.2.1
    | install name owner path stat data same =>
      rw [same] at isAllowed
      exact isAllowed.elim
  | elapse time => exact .inl (plain (.of_eq rfl rfl))
  | ring => exact .inl (plain (.of_eq (ring_keeps before).2.1 (ring_keeps before).2.2.1))
  | decide scripts habits => exact .inl (plain (.of_eq rfl rfl))

/-- The task is that of a request of the cache. -/
def IsRequestOf (cache : CacheId) (task : TaskId) (loop : Loop S) : Prop :=
  ∃ known query, loop.tasks[task]? = some known ∧ known.role = .request cache query

/-- How the line of a cache moves on. -/
inductive Advances (cache : CacheId) (before after : Loop S) : Prop
  | stays (view : after.view? cache = before.view? cache)
      (line : after.line cache = before.line cache)
      (outcomes : ∀ task, before.IsRequestOf cache task →
        after.outcome? task = before.outcome? task) :
      Advances cache before after
  /-- The task of a request ends, and its answer comes last. -/
  | ended {task : TaskId} {known : Task S} {query : Query} {outcome : Outcome Answer}
      (found : before.tasks[task]? = some known) (role : known.role = .request cache query)
      (isOpen : before.outcome? task = none) (isOver : after.outcome? task = some outcome)
      (view : after.view? cache = before.view? cache)
      (line : after.line cache = before.line cache ++ [query.answer outcome])
      (outcomes : ∀ other, other ≠ task → after.outcome? other = before.outcome? other) :
      Advances cache before after
  /-- The first answer is dealt with. -/
  | dealt {known : Cache} {item : Item} (found : before.caches[cache]? = some known)
      (line : before.line cache = item :: after.line cache)
      (view : after.view? cache = some ((item.view? known.path).getD known.data))
      (promised : item.isPromise = true → ∃ task,
        (task, queryRequest cache known .fetch) ∈ after.askedSince cache ∧
          after.outcome? task = none)
      (outcomes : ∀ task, before.IsRequestOf cache task →
        after.outcome? task = before.outcome? task) :
      Advances cache before after

/-- What is dealt with when no answer becomes ready. -/
theorem Handles.advances (handles : Handles cache before after)
    (answers : after.answers cache = before.answers cache)
    (isOpen : after.outcome? before.tasks.length = none)
    (outcomes : ∀ task, before.IsRequestOf cache task →
      after.outcome? task = before.outcome? task) :
    Advances cache before after := by
  cases handles with
  | stays view items => exact .stays view (by rw [line, items, answers, line]) outcomes
  | dealt found items view promised =>
    refine .dealt found ?_ view (fun isPromise => ⟨_, promised isPromise, isOpen⟩) outcomes
    rw [line, items, line, answers, List.cons_append]

/-- A task that is still to be made has not ended. -/
theorem Shifts.isOpen (shifts : Shifts before after) :
    after.outcome? before.tasks.length = none := by
  have isOpen : before.outcome? before.tasks.length = none := by simp [outcome?, status?]
  cases shifts with
  | same dues outcomes => rwa [outcomes]
  | ended found _ _ dues outcomes =>
    rwa [outcomes _ (Nat.ne_of_gt (List.getElem?_eq_some_iff.mp found).1)]
  | begun _ _ _ _ _ dues outcomes => rwa [outcomes]

/-- The first answer leaves those that are ready. -/
theorem dues_of_answer {hook : Hook} {task : TaskId} {ready : List Job} {loop : Loop S}
    (isFirst : loop.ready = .hook hook task :: ready) (isAnswer : hook.isAnswer = true) :
    loop.dues = (hook, task) :: ({ loop with ready } : Loop S).dues := by
  rw [dues, isFirst, List.filterMap_cons_some (by rw [Job.hook?, if_pos isAnswer]), dues]

/-- An answer that becomes an item stays where it is in line. -/
theorem answered_advances {query : Query} {task : TaskId} {ready : List Job}
    {outcome : Outcome Answer} (isOrderly : before.IsOrderly)
    (isFirst : before.ready = .hook (.answered cache query) task :: ready)
    (isOver : before.outcome? task = some outcome)
    (same : after = ({ before with ready } : Loop S).answered cache query task outcome)
    (unprompted : after.IsUnprompted cache) : Advances cache before after := by
  have nudges :=
    (answered_labours cache query task outcome ({ before with ready } : Loop S)).toils.nudges
  have dues : before.dues = (.answered cache query, task) :: after.dues := by
    rw [same, nudges.pushes.dues]
    exact dues_of_answer isFirst rfl
  have outcomes : ∀ task, after.outcome? task = before.outcome? task := by
    rw [same]
    exact nudges.spares.outcome
  have answers : before.dues.filterMap (answerOf? cache after) = before.answers cache :=
    answers_of_outcomes isOrderly.answersAreDue fun task outcome ended =>
      (outcomes task).trans ended
  have isAnswer :
      answerOf? cache after (.answered cache query, task) = some (query.answer outcome) := by
    simp [answerOf?, outcomes task, isOver]
  rw [dues, List.filterMap_cons_some isAnswer] at answers
  rw [same] at unprompted
  obtain ⟨view, items⟩ := answered_items unprompted
  rw [← same] at view items
  refine .stays view ?_ fun task _ => outcomes task
  rw [line, items, line, ← answers, List.append_assoc]
  rfl

/-- **Whatever leaves a lull moves the line on.** -/
theorem Happens.advances (happens : Happens published before after) (isRegular : before.IsRegular)
    (isOrderly : before.IsOrderly) (lull : after.IsLull cache) : Advances cache before after := by
  have hasStarted : before.HasStarted cache :=
    (happens.hasStarted lull.hasStarted).resolve_right fun prompted => prompted.1 lull.isUnprompted
  have outcomes : ∀ task outcome, before.outcome? task = some outcome →
      after.outcome? task = some outcome :=
    fun _ _ => happens.outcome isRegular.endedAreBare
  have answers : before.dues.filterMap (answerOf? cache after) = before.answers cache :=
    answers_of_outcomes isOrderly.answersAreDue outcomes
  have shifts := happens.shifts isRegular.endedAreBare isOrderly.areTied isOrderly.answersAreDue
  rcases happens.handles isRegular (isRegular.hasBegun cache hasStarted) lull with
    handles | ⟨query, task, ready, outcome, isFirst, isOver, same⟩
  · have isOpen := shifts.isOpen
    cases shifts with
    | same dues others =>
      refine handles.advances ?_ isOpen fun task _ => others task
      rw [Loop.answers, dues, answers]
    | @ended task known outcome found isOpen' isOver dues others =>
      by_cases isMine : ∃ query, known.role = .request cache query
      · obtain ⟨query, role⟩ := isMine
        have conveys : Conveys cache before after :=
          (happens.ends isOpen' isOver).conveys isRegular found role
        refine .ended found role isOpen' isOver (conveys.view lull.isUnprompted) ?_ others
        rw [line, conveys.items lull.isUnprompted, Loop.answers, dues, List.filterMap_append,
          answers, line,
          List.append_assoc, role]
        simp [Role.answers, answerOf?, isOver]
      · refine handles.advances ?_ isOpen fun other ⟨request, query, isThere, role⟩ =>
          others other ?_
        swap
        · rintro rfl
          cases found.symm.trans isThere
          exact isMine ⟨query, role⟩
        rw [Loop.answers, dues, List.filterMap_append, answers]
        refine List.append_right_eq_self.mpr (List.filterMap_eq_nil_iff.mpr fun due member => ?_)
        obtain ⟨hook, isHook, rfl⟩ := List.mem_map.mp member
        cases role : known.role with
        | request owner query =>
          rw [role] at isHook
          cases List.mem_singleton.mp isHook
          have different : owner ≠ cache := fun here => isMine ⟨query, here ▸ role⟩
          exact if_neg different
        | _ =>
          rw [role] at isHook
          cases isHook
    | @begun hook task ready outcome turn isFirst isAnswer isOver same dues others =>
      cases hook with
      | answered owner query =>
        by_cases here : owner = cache
        · subst here
          exact answered_advances isOrderly isFirst isOver same lull.isUnprompted
        · refine handles.advances ?_ isOpen fun task _ => others task
          have isOther : answerOf? cache after (.answered owner query, task) = none := if_neg here
          rw [← answers, dues, List.filterMap_cons_none isOther]
          rfl
      | _ => cases isAnswer
  · exact answered_advances isOrderly isFirst isOver same lull.isUnprompted

end Lines

end Loop

end WatchedNode
