/-
**Where tasks stand.**

A task stands at a point of the service while its first frame is a call. Chores leave tasks where
they stand, and let only those in that begin at the point of a request, an operation or a start
(`Steady`); in the turn of a call its task goes on to where the service sends it, and those come in
that are sent out (`Turns`).
-/
import WatchedNode.Proofs.Loop.Chores

namespace WatchedNode

variable {S : Service}

/-- A call can begin at that point. -/
def Service.IsFirst (S : Service) (point : S.Point) : Prop :=
  S.IsAsked point ∨ S.Begins (.service point)

theorem Status.not_doomed_of_isPlain {Reply : Type} {status : Status Reply}
    (isPlain : status.isPlain) :
    status ≠ .doomed := by
  rintro rfl
  exact isPlain

namespace Loop

/-- The point at which a task stands. -/
def at? (task : TaskId) (loop : Loop S) : Option S.Point := (loop.tasks[task]?).bind Task.point?

/-- The task was cancelled before its first turn. -/
def IsDoomed (task : TaskId) (loop : Loop S) : Prop :=
  ∃ known, loop.tasks[task]? = some known ∧ known.status = .doomed

section

variable {loop : Loop S} {task : TaskId} {known : Task S}

theorem at?_of_found (found : loop.tasks[task]? = some known) : loop.at? task = known.point? := by
  rw [at?, found, Option.bind_some]

theorem isDoomed_of_found (found : loop.tasks[task]? = some known) :
    loop.IsDoomed task ↔ known.status = .doomed := by
  constructor
  · rintro ⟨known', found', isDoomed⟩
    cases found.symm.trans found'
    exact isDoomed
  · exact fun isDoomed => ⟨known, found, isDoomed⟩

theorem at?_of_frames (found : loop.tasks[task]? = some known) {point : S.Point}
    {rest : List (Frame S.Point)} (frames : known.frames = .service point :: rest) :
    loop.at? task = some point := by
  rw [at?_of_found found, Task.point?, frames]

theorem IsAt.at? {wake : Wake S.Reply} {point : S.Point} {rest : List (Frame S.Point)}
    (isAt : loop.IsAt task wake (.service point) rest) : loop.at? task = some point := by
  obtain ⟨known, found, frames⟩ := Option.map_eq_some_iff.mp isAt.frames
  exact at?_of_frames found frames

end

/-! ## What leaves tasks where they stand -/

/-- Tasks stand where they stood, and only those come in that begin. -/
structure Steady (before after : Loop S) : Prop where
  kept {task : TaskId} {point : S.Point} (stands : before.at? task = some point)
    (isLive : ¬ before.IsDoomed task) : after.at? task = some point ∧ ¬ after.IsDoomed task
  old {task : TaskId} {point : S.Point} (stands : after.at? task = some point) :
    before.at? task = some point ∨ S.IsFirst point

namespace Steady

variable {before after : Loop S}

theorem of_eq (tasks : after.tasks = before.tasks) : Steady before after := by
  have same : ∀ task, after.at? task = before.at? task := fun task => by
    rw [Loop.at?, tasks, Loop.at?]
  refine ⟨fun {task point} stands isLive => ⟨(same task).trans stands, ?_⟩,
    fun {task point} stands =>
    .inl ((same task).symm.trans stands)⟩
  rwa [IsDoomed, tasks]

/-- Where tasks stay, and those that come in begin. -/
theorem of_stand {fates : Fates S} (stand : Stand fates before after)
    (isHarmless : ∀ task point status, fates task point status → status ≠ .doomed)
    (new : ∀ task point, before.tasks[task]? = none → after.at? task = some point →
      S.IsFirst point) :
    Steady before after := by
  refine ⟨fun {task point} stands isLive => ?_, fun {task point} stands => ?_⟩
  · obtain ⟨known, found, here⟩ := Option.bind_eq_some_iff.mp stands
    obtain ⟨known', found', frames, either⟩ := stand task known found
    rw [at?_of_found found', isDoomed_of_found found', Task.point?_of_frames frames]
    rw [isDoomed_of_found found] at isLive
    refine ⟨here, ?_⟩
    rcases either with same | isPlain | fate
    · rwa [same]
    · exact Status.not_doomed_of_isPlain isPlain
    · exact isHarmless task _ _ fate
  · cases found : before.tasks[task]? with
    | none => exact .inr (new task point found stands)
    | some known =>
      obtain ⟨known', found', frames, -⟩ := stand task known found
      rw [at?_of_found found', Task.point?_of_frames frames] at stands
      rw [at?_of_found found]
      exact .inl stands

/-- Where no task comes in. -/
theorem of_length {fates : Fates S} (stand : Stand fates before after)
    (isHarmless : ∀ task point status, fates task point status → status ≠ .doomed)
    (length : after.tasks.length = before.tasks.length) : Steady before after := by
  refine .of_stand stand isHarmless fun task point unknown stands => ?_
  rw [List.getElem?_eq_none_iff, ← length, ← List.getElem?_eq_none_iff] at unknown
  rw [Loop.at?, unknown] at stands
  cases stands

end Steady

theorem Rests.steady {before after : Loop S} (rests : Rests before after) :
    Steady before after := by
  refine .of_stand rests.old (fun _ _ _ => False.elim) fun task point unknown stands => ?_
  obtain ⟨known, found, here⟩ := Option.bind_eq_some_iff.mp stands
  obtain ⟨-, frame, frames, begins⟩ := rests.new task known unknown found
  rw [Task.point?, frames] at here
  cases frame with
  | service => cases here; exact .inr begins
  | _ => cases here

/-- Where nobody is sent out, all stand where they stood. -/
theorem Performs.at? {effects : List (Effect S.Call S.Point S.Reply)} {before after : Loop S}
    (performs : Performs effects before after) (nobody : errands effects = []) (task : TaskId) :
    after.at? task = before.at? task := by
  cases found : before.tasks[task]? with
  | some known =>
    obtain ⟨known', found', frames, -⟩ := performs.old task known found
    rw [at?_of_found found, at?_of_found found', Task.point?_of_frames frames]
  | none =>
    have gone := found
    have length := performs.length
    rw [nobody, List.length_nil, Nat.add_zero] at length
    rw [List.getElem?_eq_none_iff, ← length, ← List.getElem?_eq_none_iff] at gone
    rw [Loop.at?, Loop.at?, found, gone]

/-- Effects that cancel nobody and send out nobody. -/
theorem Performs.steady {effects : List (Effect S.Call S.Point S.Reply)} {before after : Loop S}
    (performs : Performs effects before after) (noCancel : ∀ task, .cancel task ∉ effects)
    (nobody : errands effects = []) : Steady before after := by
  refine .of_length performs.old (fun task point status befalls => ?_) ?_
  · cases befalls with
    | cancel named => exact absurd named (noCancel task)
    | release named isWanted => exact nofun
  · rw [performs.length, nobody, List.length_nil, Nat.add_zero]

theorem releaseAll_steady (release : Release S.Reply) (tickets : List Nat) (loop : Loop S) :
    Steady loop (loop.releaseAll release tickets).1 := by
  have kept : Stand (fun _ _ status => status ≠ .doomed) loop (loop.releaseAll release tickets).1 ∧
      (loop.releaseAll release tickets).1.tasks.length = loop.tasks.length := by
    refine @releaseAll_keeps S loop
      (fun after => Stand (fun _ _ status => status ≠ .doomed) loop after ∧
      after.tasks.length = loop.tasks.length) release (fun other task kept =>
        ⟨?_, ?_⟩) tickets ⟨.refl loop, rfl⟩
    · exact kept.1.trans (wake_stand task fun _ _ _ => .inr nofun)
    · rw [wake_taskCount, kept.2]
  exact .of_length kept.1 (fun _ _ _ => id) kept.2

theorem spawn_steady (role : Role) {point : S.Point} (isFirst : S.IsFirst point) (loop : Loop S) :
    Steady loop (loop.spawn role (.service point)) := by
  have stand : Stand noFate loop (loop.spawn role (.service point)) := .spawn role _ loop
  refine .of_stand stand (fun _ _ _ => False.elim) fun task stands unknown found => ?_
  have isLate : loop.tasks.length ≤ task := List.getElem?_eq_none_iff.mp unknown
  rw [Loop.at?, show (loop.spawn role (.service point)).tasks = loop.tasks ++ [_] from rfl,
    List.getElem?_append_right isLate] at found
  obtain ⟨known, isThere, here⟩ := Option.bind_eq_some_iff.mp found
  rw [List.mem_singleton.mp (List.mem_of_getElem? isThere)] at here
  cases here
  exact isFirst

theorem run_steady (task : TaskId) (wake : Wake S.Reply) (loop : Loop S) :
    Steady loop ((loop.setStatus task .running).give task wake) := by
  have stand : Stand noFate loop ((loop.setStatus task .running).give task wake) :=
    (@Stand.setStatus S noFate loop task .running fun _ _ => .inl trivial).trans (.of_eq rfl)
  exact .of_length stand (fun _ _ _ => False.elim) (modifyTask_taskCount _ _ _)

/-- No frame below another one is a call. -/
theorem not_service_of_awaits {callee caller : Frame S.Point}
    (awaits : caller.awaits callee.activity) (point : S.Point) : caller ≠ .service point := by
  rintro rfl
  exact awaits

/-- What a task that comes to these frames stands at is where a call begins, or where it stood. -/
theorem Moves.steady {task : TaskId} {frames : List (Frame S.Point)} {before after : Loop S}
    (moves : Moves task frames before after)
    (left : ∀ point, before.at? task = some point → before.IsDoomed task)
    (begins : ∀ point rest, frames = .service point :: rest → S.IsFirst point) :
    Steady before after := by
  have others : ∀ {other : TaskId} {known : Task S}, other ≠ task →
      before.tasks[other]? = some known →
      after.at? other = before.at? other ∧ (after.IsDoomed other → before.IsDoomed other) := by
    intro other known different found
    obtain ⟨known', found', same, either⟩ := moves.others other known different found
    rw [at?_of_found found', at?_of_found found, isDoomed_of_found found', isDoomed_of_found found,
      Task.point?_of_frames same]
    refine ⟨rfl, fun isDoomed => ?_⟩
    rcases either with same | isPlain
    · rwa [← same]
    · exact absurd isDoomed (Status.not_doomed_of_isPlain isPlain)
  refine ⟨fun {other point} stands isLive => ?_, fun {other point} stands => ?_⟩
  · have different : other ≠ task := by
      rintro rfl
      exact isLive (left point stands)
    obtain ⟨known, found, -⟩ := Option.bind_eq_some_iff.mp stands
    obtain ⟨same, isLive'⟩ := others different found
    exact ⟨same.trans stands, fun isDoomed => isLive (isLive' isDoomed)⟩
  · obtain ⟨known', found', here⟩ := Option.bind_eq_some_iff.mp stands
    have isThere : other < before.tasks.length :=
      moves.length ▸ (List.getElem?_eq_some_iff.mp found').1
    have found := List.getElem?_eq_getElem isThere
    by_cases same : other = task
    · subst same
      obtain ⟨known'', found'', frames', -⟩ := moves.self _ found
      cases found'.symm.trans found''
      rw [Task.point?, frames'] at here
      split at here
      · cases here
        exact .inr (begins _ _ rfl)
      · cases here
    · exact .inl ((others same found).1.symm.trans stands)

/-- A frame that is no call does not go on as a call, unless it calls the service. -/
theorem begins_of_follows {frame : Frame S.Point} {rest below : List (Frame S.Point)}
    {way : Move S.Point} {point : S.Point} (isOther : ¬ frame.isService)
    (isStack : IsStack (frame :: rest)) (follows : Follows frame way)
    (same : way.frames rest = .service point :: below) :
    S.Begins (.service point) := by
  have replaced : ∀ {next : Frame S.Point}, next.activity = frame.activity →
      next ≠ .service point := by
    rintro next same rfl
    cases frame with
    | service => exact isOther trivial
    | _ => cases same
  cases follows with
  | goOn activity => exact absurd (List.cons.inj same).1 (replaced activity)
  | await activity => exact absurd (List.cons.inj same).1 (replaced activity)
  | call activity awaits isFirst begins =>
    cases (List.cons.inj same).1
    exact begins
  | finish outcome =>
    cases same
    exact absurd rfl (not_service_of_awaits (List.isChain_cons_cons.mp isStack).1 point)

theorem move_steady {task : TaskId} {known : Task S} {frame : Frame S.Point}
    {rest : List (Frame S.Point)} {way : Move S.Point} {before after : Loop S}
    (found : before.tasks[task]? = some known) (frames : known.frames = frame :: rest)
    (isOther : ¬ frame.isService) (isStack : IsStack (frame :: rest)) (follows : Follows frame way)
    (moves : Moves task (way.frames rest) before after) : Steady before after := by
  refine moves.steady (fun point stands => ?_) fun point below same =>
    .inr (begins_of_follows isOther isStack follows same)
  rw [at?_of_found found, Task.point?, frames] at stands
  split at stands
  · next here =>
    cases here
    exact absurd trivial isOther
  · cases stands

theorem doom_steady {task : TaskId} {known : Task S} {before : Loop S} (outcome : Outcome Answer)
    (found : before.tasks[task]? = some known) (was : known.status = .doomed) :
    Steady before (before.finish task outcome) :=
  (finish_moves task outcome before).steady (fun _ _ => ⟨known, found, was⟩) nofun

/-! ## Turns of calls -/

/-- In a turn of a task with those effects it goes on to `next`, and those come in that are sent
out. -/
structure Turns (task : TaskId) (effects : List (Effect S.Call S.Point S.Reply))
    (next : Option S.Point) (before after : Loop S) : Prop where
  self : after.at? task = next
  kept {other : TaskId} {point : S.Point} (different : other ≠ task)
    (stands : before.at? other = some point) : after.at? other = some point
  old {other : TaskId} {point : S.Point} (stands : after.at? other = some point) :
    other = task ∨ before.at? other = some point ∨
      ∃ place, (errands effects)[place]? = some point ∧ other = before.tasks.length + place
  sent {place : Nat} {point : S.Point} (isSent : (errands effects)[place]? = some point) :
    after.at? (before.tasks.length + place) = some point
  isLive {other : TaskId} (isLive : ¬ before.IsDoomed other)
  (uncancelled : .cancel other ∉ effects) :
    ¬ after.IsDoomed other

variable {effects : List (Effect S.Call S.Point S.Reply)}

theorem Performs.isLive {before after : Loop S} (performs : Performs effects before after)
    {task : TaskId} (isLive : ¬ before.IsDoomed task) (uncancelled : .cancel task ∉ effects) :
    ¬ after.IsDoomed task := by
  have spared : ∀ point status, Befalls effects task point status → status ≠ .doomed := by
    intro point status befalls
    cases befalls with
    | cancel named => exact absurd named uncancelled
    | release named isWanted => exact nofun
  rintro ⟨known', found', isDoomed⟩
  cases found : before.tasks[task]? with
  | some known =>
    obtain ⟨known'', found'', -, either⟩ := performs.old task known found
    cases found'.symm.trans found''
    rcases either with same | isPlain | befalls
    · exact isLive ⟨known, found, same ▸ isDoomed⟩
    · exact Status.not_doomed_of_isPlain isPlain isDoomed
    · exact spared _ _ befalls isDoomed
  | none =>
    obtain ⟨place, rfl⟩ := Nat.exists_eq_add_of_le (List.getElem?_eq_none_iff.mp found)
    have isThere := (List.getElem?_eq_some_iff.mp found').1
    rw [performs.length] at isThere
    have isSent := List.getElem?_eq_getElem (Nat.lt_of_add_lt_add_left isThere)
    obtain ⟨known'', found'', -, either⟩ := performs.new place _ isSent
    cases found'.symm.trans found''
    rcases either with isPlain | befalls
    · exact Status.not_doomed_of_isPlain isPlain isDoomed
    · exact spared _ _ befalls isDoomed

theorem Turns.of_moves {task : TaskId} {frames : List (Frame S.Point)} {next : Option S.Point}
    {before middle after : Loop S} {known : Task S} (found : before.tasks[task]? = some known)
    (performs : Performs effects before middle) (moves : Moves task frames middle after)
    (stands : ∀ known : Task S, known.frames = frames → known.point? = next) :
    Turns task effects next before after := by
  obtain ⟨between, foundBetween, -⟩ := performs.old task known found
  have others : ∀ {other : TaskId}, other ≠ task → after.at? other = middle.at? other := by
    intro other different
    cases isThere : middle.tasks[other]? with
    | some known =>
      obtain ⟨known', found', same, -⟩ := moves.others other known different isThere
      rw [at?_of_found isThere, at?_of_found found', Task.point?_of_frames same]
    | none =>
      have gone := isThere
      rw [List.getElem?_eq_none_iff, ← moves.length, ← List.getElem?_eq_none_iff] at gone
      rw [Loop.at?, Loop.at?, isThere, gone]
  have kept : ∀ {other : TaskId} {known : Task S}, before.tasks[other]? = some known →
      middle.at? other = before.at? other := by
    intro other known found
    obtain ⟨known', found', same, -⟩ := performs.old other known found
    rw [at?_of_found found, at?_of_found found', Task.point?_of_frames same]
  have isOld : task < before.tasks.length := (List.getElem?_eq_some_iff.mp found).1
  refine ⟨?_, fun {other point} different here => ?_, fun {other point} here => ?_,
    fun {place point} isSent => ?_, fun {other} isLive uncancelled => ?_⟩
  · obtain ⟨known', found', same, -⟩ := moves.self between foundBetween
    rw [at?_of_found found', stands known' same]
  · obtain ⟨known, found, -⟩ := Option.bind_eq_some_iff.mp here
    rw [others different, kept found, here]
  · by_cases different : other = task
    · exact .inl different
    · rw [others different] at here
      cases isThere : before.tasks[other]? with
      | some known => exact .inr (.inl ((kept isThere).symm.trans here))
      | none =>
        obtain ⟨place, rfl⟩ := Nat.exists_eq_add_of_le (List.getElem?_eq_none_iff.mp isThere)
        obtain ⟨known', found', same⟩ := Option.bind_eq_some_iff.mp here
        have isNew := (List.getElem?_eq_some_iff.mp found').1
        rw [performs.length] at isNew
        have isSent := List.getElem?_eq_getElem (Nat.lt_of_add_lt_add_left isNew)
        obtain ⟨known'', found'', frames, -⟩ := performs.new place _ isSent
        cases found'.symm.trans found''
        rw [Task.point?, frames] at same
        exact .inr (.inr ⟨place, isSent.trans same, rfl⟩)
  · have different : before.tasks.length + place ≠ task :=
      Nat.ne_of_gt (Nat.lt_of_lt_of_le isOld (Nat.le_add_right _ _))
    obtain ⟨known', found', frames, -⟩ := performs.new place point isSent
    rw [others different, at?_of_found found', Task.point?, frames]
  · have isLive' := performs.isLive isLive uncancelled
    rintro ⟨known', found', isDoomed⟩
    have isThere : other < middle.tasks.length :=
      moves.length ▸ (List.getElem?_eq_some_iff.mp found').1
    have between := List.getElem?_eq_getElem isThere
    have either : known'.status = middle.tasks[other].status ∨ known'.status.isPlain := by
      by_cases same : other = task
      · subst same
        obtain ⟨known'', found'', -, either⟩ := moves.self _ between
        cases found'.symm.trans found''
        exact either
      · obtain ⟨known'', found'', -, either⟩ := moves.others other _ same between
        cases found'.symm.trans found''
        exact either
    rcases either with same | isPlain
    · exact isLive' ⟨_, between, same ▸ isDoomed⟩
    · exact Status.not_doomed_of_isPlain isPlain isDoomed

/-- **What the turn of a call comes to.** -/
theorem turn_turns {before : Loop S} {task : TaskId} {wake : Wake S.Reply} {point : S.Point}
    {rest : List (Frame S.Point)} (isAt : before.IsAt task wake (.service point) rest)
    (isStack : IsStack (.service point :: rest)) :
    Turns task (S.resume (before.moment task) point wake before.service).effects
      (S.resume (before.moment task) point wake before.service).verdict.next? before
      (afterTurn task (.service point) rest (before.inTurn.serviceTurn task point wake)) ∧
    S.Heeds (S.resume (before.moment task) point wake before.service).state
      (afterTurn task (.service point) rest
        (before.inTurn.serviceTurn task point wake)).service := by
  obtain ⟨known, found, frames⟩ := Option.map_eq_some_iff.mp isAt.frames
  have performs := serviceTurn_performs task point wake before.inTurn
  have moves :=
    afterTurn_moves task (.service point) rest (before.inTurn.serviceTurn task point wake)
  have stands : ∀ known :
      Task S, known.frames = (before.inTurn.serviceTurn task point wake).2.frames rest →
      known.point? = (S.resume (before.moment task) point wake before.service).verdict.next? := by
    intro known same
    rw [Task.point?, same]
    rcases serviceTurn_next task point wake before.inTurn with
      ⟨outcome, verdict, finishes⟩ | ⟨next, verdict, goesOn⟩
    · have verdict : (S.resume (before.moment task) point wake before.service).verdict = _ :=
        verdict
      rw [finishes, Move.frames, verdict, Verdict.next?]
      split
      · next caller below =>
        exact absurd rfl (not_service_of_awaits (List.isChain_cons_cons.mp isStack).1 caller)
      · rfl
    · rw [goesOn]
      exact verdict.symm
  have found : (before.inTurn.setService (S.resume (before.moment task) point wake
      before.service).state).tasks[task]? = some known := found
  obtain ⟨self, kept, old, sent, isLive⟩ := Turns.of_moves found performs moves stands
  exact ⟨⟨self, kept, old, sent, isLive⟩, moves.service ▸ performs.heeds⟩

end Loop

end WatchedNode
