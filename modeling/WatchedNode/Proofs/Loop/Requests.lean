/-
**Requests under way.**

What a cache asks in the background is a task of its own, which does nothing but make that call
(`RequestsStand`), and every request with a watcher is one of these (`AskedStand`). A task ends when
its last frame has come to its end, or when it was cancelled before its first turn (`Happens.ends`).
-/
import WatchedNode.Proofs.Belief

namespace WatchedNode

open Relation

variable {S : Service}

/-- The entry says that a request with a watcher was made. -/
def Entry.isWatch {Call : Type} : Entry Call → Prop
  | .asked _ _ request => request.watcher? ≠ none
  | _ => False

theorem Entry.not_isWatch {Call : Type} {entry : Entry Call} (isReport : entry.isReport) :
    ¬ entry.isWatch := by
  cases entry with
  | asked cache task request => cases isReport
  | _ => exact not_false

/-- A cache asks the same as long as it is there. -/
theorem Cache.Ages.queryRequest {before after : Cache} (ages : before.Ages after) (cache : CacheId)
    (query : Query) :
    Loop.queryRequest cache after query = Loop.queryRequest cache before query := by
  cases query <;> simp [Loop.queryRequest, ages.path, ages.compressed]

namespace Loop

variable {allowed : Outside S} {before after : Loop S}

/-! ## The ends of tasks -/

theorem outcome?_eq_some {loop : Loop S} {task : TaskId} {outcome : Outcome Answer} :
    loop.outcome? task = some outcome ↔
      ∃ known, loop.tasks[task]? = some known ∧ known.status.stage = .ended outcome := by
  unfold outcome? status?
  cases loop.tasks[task]? with
  | none => simp
  | some known => cases same : known.status <;> simp [same, Status.stage]

/-- A task that is spared has ended if it had. -/
theorem Spares.outcome (spares : Spares before after) (task : TaskId) :
    after.outcome? task = before.outcome? task := by
  refine Option.ext fun outcome => ?_
  rw [outcome?_eq_some, outcome?_eq_some]
  constructor
  · rintro ⟨known, found, ended⟩
    cases earlier : before.tasks[task]? with
    | none =>
      obtain ⟨frame, -, -, isNew⟩ := spares.new task known earlier found
      cases isNew.symm.trans ended
    | some old =>
      obtain ⟨known', found', -, -, stage⟩ := spares.old task old earlier
      cases found.symm.trans found'
      exact ⟨old, rfl, stage.symm.trans ended⟩
  · rintro ⟨old, earlier, ended⟩
    obtain ⟨known, found, -, -, stage⟩ := spares.old task old earlier
    exact ⟨known, found, stage.trans ended⟩

/-- Where one task goes on, all others have ended if they had. -/
theorem Ends.outcome_of_ne {self task : TaskId} {frames : List (Frame S.Point)}
    (ends : Ends self frames before after) (different : task ≠ self) :
    after.outcome? task = before.outcome? task := by
  refine Option.ext fun outcome => ?_
  rw [outcome?_eq_some, outcome?_eq_some]
  constructor
  · rintro ⟨known, found, ended⟩
    cases earlier : before.tasks[task]? with
    | none =>
      obtain ⟨frame, -, -, isNew⟩ := ends.new task known earlier found
      cases isNew.symm.trans ended
    | some old =>
      obtain ⟨known', found', -, -, stage⟩ := ends.others task old different earlier
      cases found.symm.trans found'
      exact ⟨old, rfl, stage.symm.trans ended⟩
  · rintro ⟨old, earlier, ended⟩
    obtain ⟨known, found, -, -, stage⟩ := ends.others task old different earlier
    exact ⟨known, found, stage.trans ended⟩

theorem setStatus_outcome {task : TaskId} {known : Task S} {loop : Loop S}
    (found : loop.tasks[task]? = some known) (status : Status S.Reply) {outcome : Outcome Answer}
    (ended : (loop.setStatus task status).outcome? task = some outcome) :
    status.stage = .ended outcome := by
  obtain ⟨known', found', ended⟩ := outcome?_eq_some.mp ended
  rw [show (loop.setStatus task status).tasks = loop.tasks.modify task _ from rfl,
    List.getElem?_modify_eq, found] at found'
  cases found'
  exact ended

theorem finish_outcome {task : TaskId} {known : Task S} {loop : Loop S}
    (found : loop.tasks[task]? = some known) (outcome : Outcome Answer) :
    (loop.finish task outcome).outcome? task = some outcome := by
  have ended : (loop.modifyTask task fun task =>
      { task with status := .ended outcome, hooks := [], frames := [] }).outcome? task =
        some outcome := by
    refine outcome?_eq_some.mpr ⟨{ known with status := .ended outcome, hooks := [], frames := [] },
      ?_, rfl⟩
    rw [show (loop.modifyTask task _).tasks = loop.tasks.modify task _ from rfl,
      List.getElem?_modify_eq, found]
    rfl
  have triggered : ∀ hooks : List Hook, ∀ loop : Loop S,
      (hooks.foldl (fun loop hook => loop.trigger task outcome hook) loop).outcome? task =
        loop.outcome? task := fun hooks loop =>
    foldl_keeps (·.outcome? task) _
      (fun loop hook => (trigger_spares task outcome hook loop).outcome task)
      hooks loop
  exact (triggered _ _).trans ended

/-- A task whose turn is over has ended if that was the end of its last frame. -/
theorem afterTurn_outcome {task : TaskId} {frame : Frame S.Point} {rest : List (Frame S.Point)}
    {turn : Turn S} {known : Task S} (isThere : turn.1.tasks[task]? = some known)
    {outcome : Outcome Answer}
    (ended : (afterTurn task frame rest turn).outcome? task = some outcome) :
    turn.2 = .finish outcome ∧ rest = [] ∨ turn.1.outcome? task = some outcome := by
  obtain ⟨loop, way⟩ := turn
  have tasks := (noteEnd_tasks task frame way loop).1
  have isThere' : (loop.noteEnd task frame way).tasks[task]? = some known := tasks ▸ isThere
  have set : ∀ frames, ((loop.noteEnd task frame way).setFrames task frames).tasks[task]? =
      some { known with frames } := by
    intro frames
    rw [show ((loop.noteEnd task frame way).setFrames task frames).tasks =
      (loop.noteEnd task frame way).tasks.modify task _ from rfl, List.getElem?_modify_eq, isThere']
    rfl
  have given : ∀ frames wake,
      (((loop.noteEnd task frame way).setFrames task frames).give task wake).outcome? task =
        some outcome → loop.outcome? task = some outcome := by
    intro frames wake ended
    obtain ⟨known', found', stage⟩ := outcome?_eq_some.mp ended
    cases (set frames).symm.trans found'
    exact outcome?_eq_some.mpr ⟨known, isThere, stage⟩
  have waits : ∀ frames status, status.stage ≠ .ended outcome →
      (((loop.noteEnd task frame way).setFrames task frames).setStatus task status).outcome? task ≠
        some outcome := fun frames status open_ ended =>
          open_ (setStatus_outcome (set frames) status ended)
  unfold afterTurn Loop.move at ended
  cases way with
  | goOn next => exact .inr (given _ _ ended)
  | call caller callee => exact .inr (given _ _ ended)
  | await next on =>
    unfold suspend at ended
    dsimp only at ended
    split at ended
    · split at ended
      · rw [(push_spares _ _).outcome] at ended
        exact absurd ended (waits _ _ Stage.noConfusion)
      · exact absurd ended (waits _ _ Stage.noConfusion)
    · exact absurd ended (waits _ _ Stage.noConfusion)
  | finish result =>
    cases rest with
    | nil =>
      dsimp only at ended
      rw [finish_outcome isThere'] at ended
      cases ended
      exact .inl ⟨rfl, rfl⟩
    | cons caller rest => exact .inr (given _ _ ended)

/-- The only task that ends when a job is begun is one that was cancelled before its first turn. -/
theorem start_outcome {job : Job} {loop : Loop S} {task : TaskId} {outcome : Outcome Answer}
    (isOpen : loop.outcome? task = none) (ended : (loop.start job).outcome? task = some outcome) :
    job = .resume task ∧ outcome = .cancelled ∧ loop.status? task = some .doomed ∧
      loop.start job = loop.finish task .cancelled := by
  have same : (loop.start job).outcome? task ≠ loop.outcome? task := by
    rw [ended, isOpen]
    exact Option.some_ne_none outcome
  cases job with
  | resume self =>
    have given : ∀ wake old, loop.status? self = some old →
        ((loop.setStatus self .running).give self wake).outcome? task = some outcome → False := by
      intro wake old was ended
      obtain ⟨known, found, ends⟩ := running_ends was wake
      by_cases here : task = self
      · subst here
        exact Stage.noConfusion (setStatus_outcome found .running ended)
      · rw [ends.outcome_of_ne here, isOpen] at ended
        cases ended
    unfold start at ended ⊢
    dsimp only at ended ⊢
    split at ended
    · next was => exact (given _ _ was ended).elim
    · next was => exact (given _ _ was ended).elim
    · next was =>
      by_cases here : task = self
      · subst here
        obtain ⟨known, found, -⟩ := Option.map_eq_some_iff.mp was
        rw [finish_outcome found] at ended
        cases ended
        exact ⟨rfl, rfl, was, rfl⟩
      · rw [(finish_ends self .cancelled loop).outcome_of_ne here, isOpen] at ended
        cases ended
    · cases isOpen.symm.trans ended
  | hook hook self =>
    unfold start at same
    dsimp only at same
    split at same
    · obtain ⟨owner, labours⟩ := runHook_labours hook self _ loop
      exact absurd (labours.toils.nudges.spares.outcome task) same
    · exact absurd rfl same

/-- How a task comes to its end. -/
inductive ComesToEnd (before : Loop S) (task : TaskId) (outcome : Outcome Answer) : Loop S → Prop
  /-- Its last frame has. -/
  | turn {wake : Wake S.Reply} {frame : Frame S.Point} (isAt : before.IsAt task wake frame [])
      (finishes : (before.inTurn.frameTurn task frame wake).2 = .finish outcome) :
      ComesToEnd before task outcome
        (afterTurn task frame [] (before.inTurn.frameTurn task frame wake))
  /-- It was cancelled before its first turn. -/
  | doomed {ready : List Job} (isBetween : before.turn = none)
      (was : before.status? task = some .doomed) (isFirst : before.ready = .resume task :: ready)
      (isCancelled : outcome = .cancelled) :
      ComesToEnd before task outcome ({ before with ready }.finish task .cancelled)

/-- **A task ends when its last frame does**, unless it was cancelled before its first turn. -/
theorem Happens.ends (happens : Happens allowed before after) {task : TaskId}
    {outcome : Outcome Answer} (isOpen : before.outcome? task = none)
    (ended : after.outcome? task = some outcome) : ComesToEnd before task outcome after := by
  have spared : Spares before after → ComesToEnd before task outcome after := by
    intro spares
    rw [spares.outcome, isOpen] at ended
    cases ended
  cases happens with
  | step =>
    have step := step_isStep before
    generalize before.step = after at step spared ended
    cases step with
    | @turn self wake frame rest isAt =>
      obtain ⟨known, found, -⟩ := Option.map_eq_some_iff.mp isAt.frames
      have spares := frameTurn_spares self frame wake before.inTurn
      obtain ⟨known', found', -⟩ := spares.old self known found
      have isOpen' : (before.inTurn.frameTurn self frame wake).1.outcome? task = none :=
        (spares.outcome task).trans isOpen
      by_cases here : task = self
      · subst here
        rcases afterTurn_outcome found' ended with ⟨finishes, rfl⟩ | earlier
        · exact .turn isAt finishes
        · cases isOpen'.symm.trans earlier
      · rw [(afterTurn_ends frame rest found').outcome_of_ne here, isOpen'] at ended
        cases ended
    | pause turn isOver => exact spared (.of_eq (.of_eq rfl) rfl)
    | @job job ready turn isFirst =>
      have isOpen' : ({ before with ready } : Loop S).outcome? task = none := isOpen
      obtain ⟨rfl, rfl, was, same⟩ := start_outcome isOpen' ended
      rw [same]
      exact .doomed turn was isFirst rfl
    | rest turn => exact spared (.refl before)
  | command command isBetween isMomentary isAllowed =>
    exact spared (command_spares before command isMomentary)
  | elapse time => exact spared (.of_eq (.of_eq rfl) rfl)
  | ring =>
    have nudges : Nudges True before before.ring := ring_nudges before
    exact spared nudges.spares
  | decide scripts habits => exact spared (.of_eq (.of_eq rfl) rfl)

/-- A task that has ended has no frames. -/
def EndedAreBare (loop : Loop S) : Prop :=
  ∀ (task : TaskId) (known : Task S) (outcome : Outcome Answer), loop.tasks[task]? = some known →
    known.status.stage = .ended outcome → known.frames = []

theorem EndedAreBare.isAt {loop : Loop S} (endedAreBare : loop.EndedAreBare) {task : TaskId}
    {wake : Wake S.Reply} {frame : Frame S.Point} {rest : List (Frame S.Point)}
    (isAt : loop.IsAt task wake frame rest) : loop.outcome? task = none := by
  refine Option.eq_none_iff_forall_ne_some.mpr fun outcome ended => ?_
  obtain ⟨known, found, stage⟩ := outcome?_eq_some.mp ended
  obtain ⟨known', found', frames⟩ := Option.map_eq_some_iff.mp isAt.frames
  cases found.symm.trans found'
  cases (endedAreBare task known outcome found stage).symm.trans frames

theorem Happens.endedAreBare (happens : Happens allowed before after)
    (endedAreBare : before.EndedAreBare) : after.EndedAreBare := by
  intro task known outcome found stage
  have ended := outcome?_eq_some.mpr ⟨known, found, stage⟩
  cases earlier : before.outcome? task with
  | none =>
    cases happens.ends earlier ended with
    | @turn wake frame isAt finishes =>
      obtain ⟨old, isThere, -⟩ := Option.map_eq_some_iff.mp isAt.frames
      obtain ⟨old', isThere', -⟩ :=
        (frameTurn_spares task frame wake before.inTurn).old task old isThere
      obtain ⟨known', found', -, frames⟩ := (afterTurn_ends frame [] isThere').self old' isThere'
      cases found.symm.trans found'
      rw [frames, finishes]
      rfl
    | @doomed ready isBetween was isFirst isCancelled =>
      obtain ⟨old, isThere, -⟩ := Option.map_eq_some_iff.mp was
      obtain ⟨known', found', -, frames⟩ :=
        (finish_ends task .cancelled ({ before with ready } : Loop S)).self old isThere
      cases found.symm.trans found'
      exact frames
  | some outcome' =>
    obtain ⟨old, isThere, stage'⟩ := outcome?_eq_some.mp earlier
    have bare := endedAreBare task old outcome' isThere stage'
    cases happens.inherits found with
    | new unknown frames enters isNew => cases unknown.symm.trans isThere
    | doomed isThere' role was frames => exact frames
    | kept isThere' role frames steady =>
      cases isThere.symm.trans isThere'
      exact frames.trans bare
    | turn isThere' role isAt same frames => cases earlier.symm.trans (endedAreBare.isAt isAt)

theorem start_outcome_stays {job : Job} {loop : Loop S} {task : TaskId} {outcome : Outcome Answer}
    (ended : loop.outcome? task = some outcome) :
    (loop.start job).outcome? task = some outcome := by
  obtain ⟨known, found, stage⟩ := outcome?_eq_some.mp ended
  have open_ : ∀ self old, loop.status? self = some old → old.stage ≠ .ended outcome →
      task ≠ self := by
    rintro self old was isOpen rfl
    obtain ⟨known', found', rfl⟩ := Option.map_eq_some_iff.mp was
    cases found.symm.trans found'
    exact isOpen stage
  have given : ∀ self wake old, loop.status? self = some old → old.stage ≠ .ended outcome →
      ((loop.setStatus self .running).give self wake).outcome? task = some outcome := by
    intro self wake old was isOpen
    obtain ⟨known', found', ends⟩ := running_ends was wake
    exact (ends.outcome_of_ne (open_ self old was isOpen)).trans ended
  unfold start
  split
  · split
    · next was => exact given _ _ _ was Stage.noConfusion
    · next was => exact given _ _ _ was Stage.noConfusion
    · next was =>
      exact ((finish_ends _ _ loop).outcome_of_ne (open_ _ _ was Stage.noConfusion)).trans ended
    · exact ended
  · split
    · obtain ⟨owner, labours⟩ := runHook_labours _ _ _ loop
      exact (labours.toils.nudges.spares.outcome task).trans ended
    · exact ended

/-- **A task that has ended stays like that.** -/
theorem Happens.outcome (happens : Happens allowed before after)
    (endedAreBare : before.EndedAreBare) {task : TaskId} {outcome : Outcome Answer}
    (ended : before.outcome? task = some outcome) :
    after.outcome? task = some outcome := by
  cases happens with
  | step =>
    have step := step_isStep before
    generalize before.step = after at step
    cases step with
    | @turn self wake frame rest isAt =>
      obtain ⟨known, found, -⟩ := Option.map_eq_some_iff.mp isAt.frames
      have spares := frameTurn_spares self frame wake before.inTurn
      obtain ⟨known', found', -⟩ := spares.old self known found
      have different : task ≠ self := by
        rintro rfl
        cases ended.symm.trans (endedAreBare.isAt isAt)
      rw [(afterTurn_ends frame rest found').outcome_of_ne different, spares.outcome]
      exact ended
    | pause turn isOver => exact ended
    | @job job ready turn isFirst =>
      have taken : ({ before with ready } : Loop S).outcome? task = some outcome := ended
      exact start_outcome_stays taken
    | rest turn => exact ended
  | command command isBetween isMomentary isAllowed =>
    exact ((command_spares before command isMomentary).outcome task).trans ended
  | elapse time => exact ended
  | ring =>
    have nudges : Nudges True before before.ring := ring_nudges before
    exact (nudges.spares.outcome task).trans ended
  | decide scripts habits => exact ended

theorem Reaches.endedAreBare {service : S.State} {last : Loop S}
    (run : Reaches allowed (fresh service) last) : last.EndedAreBare :=
  run.keeps (fun task known outcome found => by simp [fresh] at found)
    fun _ _ happens endedAreBare => happens.endedAreBare endedAreBare

/-! ## Workers -/

/-- The work of a cache is done by tasks for that. -/
def WorkersOwn (loop : Loop S) : Prop :=
  ∀ (task : TaskId) (known : Task S) (cache : CacheId) (stage : WorkerStage),
    loop.tasks[task]? = some known → .worker cache stage ∈ known.frames → known.role = .worker cache

theorem Happens.workersOwn (happens : Happens allowed before after)
    (workersOwn : before.WorkersOwn) :
    after.WorkersOwn := by
  intro task known cache stage found member
  cases happens.inherits found with
  | new unknown frames enters isNew =>
    rw [frames, List.mem_singleton] at member
    subst member
    generalize known.role = role at enters ⊢
    cases enters with
    | opening isOwn isOpening => exact isOpening.elim
    | worker cache => rfl
  | doomed earlier role was frames =>
    rw [frames] at member
    cases member
  | kept earlier role frames steady =>
    exact role.trans (workersOwn task _ cache stage earlier (frames ▸ member))
  | @turn old wake frame rest earlier role isAt same frames =>
    obtain ⟨old', earlier', stack⟩ := Option.map_eq_some_iff.mp isAt.frames
    cases earlier.symm.trans earlier'
    have ofOld : ∀ stage, .worker cache stage ∈ frame :: rest → known.role = .worker cache :=
      fun stage member => role.trans (workersOwn task old cache stage earlier (stack ▸ member))
    have ofFrame : ∀ next : Frame S.Point, next.activity = frame.activity →
        .worker cache stage = next → known.role = .worker cache := by
      rintro next activity rfl
      cases frame with
      | worker owner stage =>
        cases activity
        exact ofOld stage List.mem_cons_self
      | _ => cases activity
    rw [frames] at member
    have follows := frameTurn_follows task frame wake before.inTurn
    generalize (before.inTurn.frameTurn task frame wake).2 = way at follows member
    cases follows with
    | goOn activity _ =>
      rcases List.mem_cons.mp member with isNext | isRest
      · exact ofFrame _ activity isNext
      · exact ofOld stage (List.mem_cons_of_mem frame isRest)
    | await activity _ =>
      rcases List.mem_cons.mp member with isNext | isRest
      · exact ofFrame _ activity isNext
      · exact ofOld stage (List.mem_cons_of_mem frame isRest)
    | @call caller callee activity awaits isFirst =>
      rcases List.mem_cons.mp member with rfl | member
      · cases caller with
        | enter owner isStarting => cases isStarting <;> exact awaits.elim
        | worker owner stage => cases stage <;> exact awaits.elim
        | start owner buildInitial stage => cases stage <;> exact awaits.elim
        | rebuild owner isReading => cases isReading <;> exact awaits.elim
        | deed monitor left stage => cases stage <;> exact awaits.elim
        | openSession source defaultFile handle => cases handle <;> exact awaits.elim
        | openCache opening stage => cases stage <;> exact awaits.elim
        | _ => exact awaits.elim
      · rcases List.mem_cons.mp member with isNext | isRest
        · exact ofFrame _ activity isNext
        · exact ofOld stage (List.mem_cons_of_mem frame isRest)
    | finish outcome => exact ofOld stage (List.mem_cons_of_mem frame member)

theorem Reaches.workersOwn {service : S.State} {last : Loop S}
    (run : Reaches allowed (fresh service) last) : last.WorkersOwn :=
  run.keeps (fun task known cache stage found => by simp [fresh] at found)
    fun _ _ happens workersOwn => happens.workersOwn workersOwn

/-! ## The tasks of requests -/

/-- What a call stands for is settled where it begins, and stays the same as long as it goes on. -/
structure Stands (stands : S.Point → Request → Prop) : Prop where
  opens (handle : Option Handle) (request : Request) : stands (S.request handle request) request
  goesOn (moment : Moment) (point next : S.Point) (wake : Wake S.Reply) (state : S.State)
    (request : Request) : stands point request →
      (S.resume moment point wake state).verdict.next? = some next → stands next request

/-- A task for a request of a cache does nothing but make the call that stands for it. -/
def RequestsStand (stands : S.Point → Request → Prop) (loop : Loop S) : Prop :=
  ∀ (task : TaskId) (known : Task S) (cache : CacheId) (query : Query),
    loop.tasks[task]? = some known → known.role = .request cache query → known.frames = [] ∨
      ∃ owner point, loop.caches[cache]? = some owner ∧ known.frames = [.service point] ∧
        stands point (queryRequest cache owner query)

theorem Happens.requestsStand {stands : S.Point → Request → Prop} (laws : Stands stands)
    (happens : Happens allowed before after) (requestsStand : before.RequestsStand stands) :
    after.RequestsStand stands := by
  intro task known cache query found role
  have grows := happens.course.grows
  cases happens.inherits found with
  | new unknown frames enters isNew =>
    rw [role] at enters
    cases enters with
    | opening isOwn isOpening =>
      rcases isOwn with isCaller | ⟨owner, isDeed⟩
      · cases isCaller
      · cases isDeed
    | @request _ owner _ isThere =>
      exact .inr ⟨owner, _, isThere, frames, laws.opens owner.handle _⟩
  | doomed earlier role' was frames => exact .inl frames
  | kept earlier role' frames steady =>
    rcases requestsStand task _ cache query earlier (role'.symm.trans role) with
      past | ⟨owner, point, isThere, same, stands⟩
    · exact .inl (frames.trans past)
    · obtain ⟨owner', isThere', ages⟩ := grows cache owner isThere
      exact .inr ⟨owner', point, isThere', frames.trans same,
        ages.queryRequest cache query ▸ stands⟩
  | @turn old wake frame rest earlier role' isAt _ frames =>
    obtain ⟨old', earlier', stack⟩ := Option.map_eq_some_iff.mp isAt.frames
    cases earlier.symm.trans earlier'
    rcases requestsStand task _ cache query earlier (role'.symm.trans role) with
      past | ⟨owner, point, isThere, same, stands⟩
    · cases past.symm.trans stack
    · cases same.symm.trans stack
      obtain ⟨owner', isThere', ages⟩ := grows cache owner isThere
      have turn : before.inTurn.frameTurn task (.service point) wake =
        before.inTurn.serviceTurn task point wake := rfl
      rw [turn] at frames
      rcases serviceTurn_next task point wake before.inTurn with
        ⟨outcome, -, finishes⟩ | ⟨next, isNext, goesOn⟩
      · rw [finishes] at frames
        exact .inl frames
      · rw [goesOn] at frames
        refine .inr ⟨owner', next, isThere', frames, ?_⟩
        rw [ages.queryRequest cache query]
        exact laws.goesOn _ point next wake _ _ stands isNext

theorem Reaches.requestsStand {stands : S.Point → Request → Prop} (laws : Stands stands)
    {service : S.State} {last : Loop S} (run : Reaches allowed (fresh service) last) :
    last.RequestsStand stands :=
  run.keeps (fun task known cache query found => by simp [fresh] at found)
    fun _ _ happens requestsStand => happens.requestsStand laws requestsStand

/-! ## Requests with a watcher -/

/-- The task is that of a request of the cache. -/
def IsRequest (cache : CacheId) (task : TaskId) (request : Request) (loop : Loop S) : Prop :=
  ∃ known owner query, loop.tasks[task]? = some known ∧ known.role = .request cache query ∧
    loop.caches[cache]? = some owner ∧ request = queryRequest cache owner query

/-- Each request with a watcher has its own task. -/
def AskedStand (loop : Loop S) : Prop :=
  ∀ (cache : CacheId) (task : TaskId) (request : Request),
    .asked cache task request ∈ loop.journal → request.watcher? ≠ none →
      loop.IsRequest cache task request

/-- Caches and tasks that are there remain what they are. -/
structure Remains (before after : Loop S) : Prop where
  grows : Grows before after
  roles (task : TaskId) (known : Task S) : before.tasks[task]? = some known →
    ∃ known', after.tasks[task]? = some known' ∧ known'.role = known.role

theorem Spares.remains (spares : Spares before after) : Remains before after := by
  refine ⟨spares.grows, fun task known found => ?_⟩
  obtain ⟨known', found', role, -⟩ := spares.old task known found
  exact ⟨known', found', role⟩

theorem Ends.remains {self : TaskId} {frames : List (Frame S.Point)}
    (ends : Ends self frames before after) : Remains before after := by
  refine ⟨ends.grows, fun task known found => ?_⟩
  by_cases here : task = self
  · subst here
    obtain ⟨known', found', role, -⟩ := ends.self known found
    exact ⟨known', found', role⟩
  · obtain ⟨known', found', role, -⟩ := ends.others task known here found
    exact ⟨known', found', role⟩

theorem Remains.isRequest (remains : Remains before after) {cache : CacheId} {task : TaskId}
    {request : Request} (isRequest : before.IsRequest cache task request) :
    after.IsRequest cache task request := by
  obtain ⟨known, owner, query, found, role, isThere, same⟩ := isRequest
  obtain ⟨known', found', role'⟩ := remains.roles task known found
  obtain ⟨owner', isThere', ages⟩ := remains.grows cache owner isThere
  exact ⟨known', owner', query, found', role'.trans role, isThere',
    same.trans (ages.queryRequest cache query).symm⟩

/-- Where no request with a watcher is made, those that were made still have their tasks. -/
theorem AskedStand.remains (askedStand : before.AskedStand) (remains : Remains before after)
    (writes : Writes (fun entry => ¬ entry.isWatch) before after) : after.AskedStand := by
  intro cache task request member watched
  have isOther : ¬ ¬ (Entry.asked cache task request : Entry S.Call).isWatch :=
    not_not_intro watched
  exact remains.isRequest
    (askedStand cache task request ((writes.mem_iff isOther).mp member) watched)

/-- A request in the background has its own task. -/
theorem ask_isRequest {cache : CacheId} {owner : Cache} (query : Query) {loop : Loop S}
    (isThere : loop.caches[cache]? = some owner) :
    (loop.ask cache query).IsRequest cache loop.tasks.length (queryRequest cache owner query) := by
  have posed : (loop.posed cache query owner).tasks[loop.tasks.length]? =
      some { role := .request cache query
             frames := [requestFrame owner (queryRequest cache owner query)] } := by
    rw [show (loop.posed cache query owner).tasks = loop.tasks ++ [_] from rfl]
    simp
  obtain ⟨owner', isThere', ages, -⟩ := (ask_calm cache query loop).caches cache owner isThere
  rw [ask_eq query isThere] at isThere' ⊢
  obtain ⟨known, found, role, -⟩ := (addHook_spares loop.tasks.length (.answered cache query)
    (loop.posed cache query owner)).old _ _ posed
  exact ⟨known, owner', query, found, role, isThere', (ages.queryRequest cache query).symm⟩

theorem ask_askedStand (cache : CacheId) (query : Query) {loop : Loop S}
    (askedStand : loop.AskedStand) : (loop.ask cache query).AskedStand := by
  have remains := (ask_spares cache query loop).remains
  cases isThere : loop.caches[cache]? with
  | none =>
    rw [ask_none query isThere]
    exact askedStand
  | some owner =>
    intro asker task request member watched
    have journal : (loop.ask cache query).journal =
        .asked cache loop.tasks.length (queryRequest cache owner query) :: loop.journal := by
      rw [ask_eq query isThere, (addHook_keeps _ _ _).2.2.1]
      rfl
    rw [journal] at member
    rcases List.mem_cons.mp member with isNew | isOld
    · cases isNew
      exact ask_isRequest query isThere
    · exact remains.isRequest (askedStand asker task request isOld watched)

/-- No request is made by a new view, nor by those who are told of it. -/
theorem install_writes (cache : CacheId) (data : Snapshot) (loop : Loop S) :
    Writes (fun entry => ¬ entry.isWatch) loop (loop.install cache data) := by
  have set : Writes (fun entry => ¬ entry.isWatch) loop (loop.setData cache data false) :=
    .note loop not_false
  have round := notify_bustles cache (loop.setData cache data false)
  unfold install
  dsimp only
  split
  · exact set
  · generalize (loop.setData cache data false).notify cache = after at round
    induction round with
    | refl => exact set
    | tail _ bustle step =>
      cases bustle with
      | stir stir => exact step.trans (stir.writes.mono fun _ => Entry.not_isWatch)
      | call caller monitor => exact step.trans (.note _ not_false)

theorem Labour.askedStand {owner : CacheId} {isDue looks : Prop}
    (labour : Labour owner isDue looks before after) (askedStand : before.AskedStand) :
    after.AskedStand := by
  have remains := labour.toils.nudges.spares.remains
  cases labour with
  | stir stir => exact askedStand.remains remains (stir.writes.mono fun _ => Entry.not_isWatch)
  | asked task known request found isPlain isRight =>
    exact askedStand.remains remains (.note _ (not_not_intro isPlain))
  | install known data found isStarted =>
    exact askedStand.remains remains (install_writes owner data before)
  | rebuild known data found isStarted => exact askedStand.remains remains (.note _ not_false)
  | look known found isActive => exact ask_askedStand owner .look askedStand
  | fetch known found isStarted => exact ask_askedStand owner .fetch askedStand
  | answer known query outcome found isStarted =>
    exact askedStand.remains remains (.of_eq (post_keeps before owner _).2.1)
  | refresh isRight =>
    exact askedStand.remains remains (.of_eq (refresh_keeps before owner).2.1)
  | begin known found isLatent => exact askedStand.remains remains (.of_eq rfl)

theorem Labours.askedStand {owner : CacheId} {isDue looks : Prop}
    (labours : Labours owner isDue looks before after) (askedStand : before.AskedStand) :
    after.AskedStand := by
  induction labours with
  | refl => exact askedStand
  | tail _ labour step => exact labour.askedStand step

theorem Stirs.askedStand (stirs : Stirs before after) (askedStand : before.AskedStand) :
    after.AskedStand := by
  have labours : Labours 0 False False before after := stirs.labours
  exact labours.askedStand askedStand

theorem installFrom_askedStand (cache : CacheId) (path : Option String) (stat : Option Stat)
    (data : Option (List UInt8)) {loop : Loop S} (askedStand : loop.AskedStand) :
    (loop.installFrom cache path stat data).1.AskedStand := by
  have remains := (installFrom_toils cache path stat data loop).nudges.spares.remains
  refine askedStand.remains remains ?_
  unfold installFrom
  split
  · exact .of_eq rfl
  · split
    · exact install_writes cache _ loop
    · exact .of_eq rfl

theorem frameTurn_askedStand (self : TaskId) (frame : Frame S.Point) (wake : Wake S.Reply)
    {loop : Loop S} (askedStand : loop.AskedStand) :
    (loop.frameTurn self frame wake).1.AskedStand := by
  have remains := (frameTurn_spares self frame wake loop).remains
  rcases frameTurn_kinds self frame wake loop with
    ⟨point, tickets, alarms, rfl, same⟩ | ⟨owner, middle, -, prepares, labours⟩
  · refine askedStand.remains remains ?_
    rw [same]
    exact ((react_writes self point wake loop).mono fun _ => Entry.not_isWatch).trans (.of_eq rfl)
  · have prepared : Nudge True loop middle := prepares.nudge
    exact labours.askedStand (askedStand.remains prepared.spares.remains (.of_eq prepares.journal))

theorem afterTurn_askedStand {task : TaskId} {frame : Frame S.Point} {rest : List (Frame S.Point)}
    {turn : Turn S} {known : Task S} (isThere : turn.1.tasks[task]? = some known)
    (askedStand : turn.1.AskedStand) : (afterTurn task frame rest turn).AskedStand := by
  refine askedStand.remains (afterTurn_ends frame rest isThere).remains ?_
  have noted : Writes (fun entry => ¬ entry.isWatch) turn.1 (turn.1.noteEnd task frame turn.2) := by
    unfold noteEnd
    split
    · exact .note _ not_false
    · exact .of_eq rfl
  exact noted.trans (.of_eq (move_keeps (turn.1.noteEnd task frame turn.2) task rest turn.2).2.2)

theorem start_askedStand (job : Job) {loop : Loop S} (askedStand : loop.AskedStand) :
    (loop.start job).AskedStand := by
  have given : ∀ self wake old, loop.status? self = some old →
      ((loop.setStatus self .running).give self wake).AskedStand := by
    intro self wake old was
    obtain ⟨known, found, ends⟩ := running_ends was wake
    exact askedStand.remains ends.remains (.of_eq rfl)
  unfold start
  split
  · split
    · next was => exact given _ _ _ was
    · next was => exact given _ _ _ was
    · exact askedStand.remains (finish_ends _ _ loop).remains (.of_eq (finish_keeps loop _ _).2.2.1)
    · exact askedStand
  · split
    · obtain ⟨owner, labours⟩ := runHook_labours _ _ _ loop
      exact labours.askedStand askedStand
    · exact askedStand

theorem Happens.askedStand (happens : Happens allowed before after)
    (askedStand : before.AskedStand) :
    after.AskedStand := by
  cases happens with
  | step =>
    have step := step_isStep before
    generalize before.step = after at step
    cases step with
    | @turn task wake frame rest isAt =>
      obtain ⟨known, found, -⟩ := Option.map_eq_some_iff.mp isAt.frames
      obtain ⟨known', found', -⟩ :=
        (frameTurn_spares task frame wake before.inTurn).old task known found
      have inTurn : before.inTurn.AskedStand := askedStand
      exact afterTurn_askedStand found' (frameTurn_askedStand task frame wake inTurn)
    | pause turn isOver => exact askedStand
    | @job job ready turn isFirst =>
      have taken : ({ before with ready } : Loop S).AskedStand := askedStand
      exact start_askedStand job taken
    | rest turn => exact askedStand
  | command command isBetween isMomentary isAllowed =>
    have order := command_isOrder before command isMomentary
    generalize (before.command command).1 = after at order
    cases order with
    | stirs stirs => exact stirs.askedStand askedStand
    | call stirs point =>
      refine (stirs.askedStand askedStand).remains (spawn_spares (.outside point)).remains ?_
      exact .of_eq rfl
    | release tickets release _ =>
      refine releaseAll_keeps before release (fun loop task stands => ?_) tickets askedStand
      exact stands.remains (wake_spares _ _ _).remains (.of_eq (wake_keeps _ _ _).2.2.1)
    | install name cache path stat data same =>
      exact installFrom_askedStand cache path stat data askedStand
  | elapse time => exact askedStand
  | ring =>
    have nudges : Nudges True before before.ring := ring_nudges before
    exact askedStand.remains nudges.spares.remains (.of_eq (ring_keeps before).2.2.1)
  | decide scripts habits => exact askedStand

/-- **In every run each request with a watcher has its own task.** -/
theorem Reaches.askedStand {service : S.State} {last : Loop S}
    (run : Reaches allowed (fresh service) last) : last.AskedStand :=
  run.keeps (fun cache task request member => by simp [fresh] at member)
    fun _ _ happens askedStand => happens.askedStand askedStand

/-- **A request that comes to its end, and is not cancelled, does so in a turn of its call.** -/
theorem ComesToEnd.finishes {stands : S.Point → Request → Prop} {task : TaskId}
    {outcome : Outcome Answer} (comes : ComesToEnd before task outcome after)
    (requestsStand : before.RequestsStand stands) {known : Task S} {cache : CacheId} {query : Query}
    (found : before.tasks[task]? = some known) (role : known.role = .request cache query)
    (isPlain : outcome ≠ .cancelled) :
    ∃ owner wake point, before.caches[cache]? = some owner ∧
      before.IsAt task wake (.service point) [] ∧
      stands point (queryRequest cache owner query) ∧
      (S.resume (before.inTurn.moment task) point wake before.service).verdict = .finish outcome ∧
      after = afterTurn task (.service point) [] (before.inTurn.serviceTurn task point wake) := by
  cases comes with
  | doomed isBetween was isFirst isCancelled => exact absurd isCancelled isPlain
  | @turn wake frame isAt finishes =>
    obtain ⟨known', found', frames⟩ := Option.map_eq_some_iff.mp isAt.frames
    cases found.symm.trans found'
    rcases requestsStand task known cache query found role with
      past | ⟨owner, point, isThere, isCall, isFor⟩
    · cases past.symm.trans frames
    · cases isCall.symm.trans frames
      refine ⟨owner, wake, point, isThere, isAt, isFor, ?_, rfl⟩
      rcases serviceTurn_next task point wake before.inTurn with
        ⟨given, verdict, finishes'⟩ | ⟨next, -, goesOn⟩
      · cases finishes'.symm.trans finishes
        exact verdict
      · have stays := goesOn []
        rw [show (before.inTurn.serviceTurn task point wake).2 = .finish outcome from finishes]
          at stays
        cases stays

/-- A task that comes to its end was there. -/
theorem ComesToEnd.isThere {task : TaskId} {outcome : Outcome Answer}
    (comes : ComesToEnd before task outcome after) : ∃ known, before.tasks[task]? = some known := by
  cases comes with
  | turn isAt => exact (Option.map_eq_some_iff.mp isAt.frames).imp fun _ found => found.1
  | doomed isBetween was => exact (Option.map_eq_some_iff.mp was).imp fun _ found => found.1

end Loop

end WatchedNode
