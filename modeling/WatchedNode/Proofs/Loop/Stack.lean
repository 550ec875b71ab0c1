/-
**Stacks of frames.**

The frames of a task stand one upon the other: each waits for the end of what the one above it does
(`Frame.awaits`). A frame goes on as one that does the same, maybe with another one above it that it
waits for (`Follows`), so stacks stay in order (`Reaches.areStacked`). What others do in the
meantime spares the frames of a task (`Spares`), and tasks that come in have one frame, at its
beginning.
-/
import Mathlib.Data.List.Chain
import WatchedNode.Proofs.Loop.Nudge

namespace WatchedNode

open Relation

variable {S : Service}

/-- The frame waits for the end of something that does that. -/
def Frame.awaits {Point : Type} : Frame Point → Activity → Prop
  | .worker _ .resyncing, .call => True
  | .start _ _ .ensuring, .call | .start _ _ .reading, .call => True
  | .rebuild _ true, .call => True
  | .enter cache true, .start started => started = cache
  | .deed _ _ .under, .rebuild _ | .deed _ _ .under, .close _ => True
  | .openSession _ _ (some _), .call => True
  | .openCache _ (.connecting ..), .call => True
  | .openCache _ (.starting cache ..), .start started => started = cache
  | _, _ => False

/-- Each frame waits for the one above it. -/
def IsStack {Point : Type} (frames : List (Frame Point)) : Prop :=
  List.IsChain (fun callee caller => caller.awaits callee.activity) frames

/-- The frame goes on when one that it has called has ended. -/
def Frame.isCalling {Point : Type} : Frame Point → Prop
  | .worker _ .resyncing | .start _ _ .ensuring | .start _ _ .reading | .rebuild _ true
  | .enter _ true | .openSession _ _ (some _) | .openCache _ (.connecting ..)
  | .openCache _ (.starting ..) => True
  | .deed _ left .under => left = .rebuild ∨ left = .close
  | _ => False

/-- If the frame is a call, it is where a request begins, or the start of a session. -/
def Service.Begins (S : Service) (frame : Frame S.Point) : Prop :=
  ∀ point, frame = .service point →
    (∃ handle request, point = S.request handle request) ∨ ∃ handle, point = S.opening handle

theorem Service.begins_request (handle : Option Handle) (request : Request) :
    S.Begins (.service (S.request handle request)) :=
  fun _ same => .inl ⟨handle, request, (Frame.service.inj same).symm⟩

theorem Service.begins_opening (handle : Handle) : S.Begins (.service (S.opening handle)) :=
  fun _ same => .inr ⟨handle, (Frame.service.inj same).symm⟩

/-- How a frame may go on: it does the same, and waits for what it calls and for nothing else. -/
inductive Follows (frame : Frame S.Point) : Move S.Point → Prop
  | goOn {next : Frame S.Point} (same : next.activity = frame.activity)
      (isFree : ¬ next.isCalling) :
      Follows frame (.goOn next)
  | call {caller callee : Frame S.Point} (same : caller.activity = frame.activity)
      (awaits : caller.awaits callee.activity) (isFirst : callee.isFirst)
      (begins : S.Begins callee) :
      Follows frame (.call caller callee)
  | await {next : Frame S.Point} {on : Await} (same : next.activity = frame.activity)
      (isFree : ¬ next.isCalling) : Follows frame (.await next on)
  | finish (outcome : Outcome Answer) : Follows frame (.finish outcome)

theorem Frame.not_isCalling {Point : Type} {frame : Frame Point} (first : frame.isFirst) :
    ¬ frame.isCalling := by
  intro calling
  cases frame with
  | worker cache stage => cases stage <;> simp_all [isFirst, isOpening, isCalling]
  | start cache buildInitial stage => cases stage <;> simp_all [isFirst, isOpening, isCalling]
  | rebuild cache isReading => cases isReading <;> simp_all [isFirst, isOpening, isCalling]
  | enter cache isStarting => cases isStarting <;> simp_all [isFirst, isOpening, isCalling]
  | deed monitor left stage => cases stage <;> simp_all [isFirst, isOpening, isCalling]
  | openSession source defaultFile handle =>
    cases handle <;> simp_all [isFirst, isOpening, isCalling]
  | openCache opening stage => cases stage <;> simp_all [isFirst, isOpening, isCalling]
  | _ => exact calling

theorem Frame.isCalling_of_isUnderWay {Point : Type} {frame : Frame Point} {cache : CacheId}
    (under : frame.isUnderWay cache) : frame.isCalling := by
  cases frame with
  | start owner buildInitial stage => cases stage <;> simp_all [isUnderWay, isCalling]
  | _ => exact under.elim

namespace Loop

variable {loop : Loop S}

/-! ## How frames go on -/

section Turns

variable (self : TaskId) (cache : CacheId) (known : Cache) (wake : Wake S.Reply)

theorem serviceTurn_follows (point : S.Point) :
    Follows (.service point) (loop.serviceTurn self point wake).2 := by
  unfold serviceTurn
  dsimp only
  split
  · exact .goOn rfl id
  · exact .await rfl id
  · exact .await rfl id
  · exact .finish _

theorem workerTurn_follows (stage : WorkerStage) :
    Follows (.worker cache stage) (loop.workerTurn self cache known stage wake).2 := by
  unfold workerTurn
  split
  · exact .finish _
  · split
    · exact .await rfl id
    · next item rest _ =>
      cases item with
      | check => exact .goOn rfl id
      | looked outcome => exact .goOn rfl id
      | fetched outcome => exact .goOn rfl id
      | resync => exact .call rfl trivial trivial (Service.begins_request _ _)
      | stop => exact .finish _
  · dsimp only
    split
    · exact .finish _
    · exact .goOn rfl id
  · exact .finish _

theorem rebuilt_follows (frame : Frame S.Point) (outcome : Outcome Answer) :
    Follows frame (loop.rebuilt cache known outcome).2 := by
  unfold rebuilt
  split <;> exact .finish _

theorem startTurn_follows (buildInitial : Bool) (stage : StartStage) :
    Follows (.start cache buildInitial stage)
      (loop.startTurn self cache known buildInitial stage wake).2 := by
  unfold startTurn
  split
  · exact .finish _
  · split
    · exact .call rfl trivial trivial (Service.begins_request _ _)
    · exact .finish _
  · dsimp only
    split
    · exact .call rfl trivial trivial (Service.begins_request _ _)
    · exact .finish _
  · exact rebuilt_follows cache known _ _
  · exact .finish _
  · exact .finish _

theorem rebuildTurn_follows (isReading : Bool) :
    Follows (.rebuild cache isReading) (loop.rebuildTurn self cache known isReading wake).2 := by
  unfold rebuildTurn
  split
  · split
    · exact .call rfl trivial trivial (Service.begins_request _ _)
    · exact .finish _
  · exact rebuilt_follows cache known _ _
  · exact .finish _

theorem closeTurn_follows (isJoining : Bool) :
    Follows (.close cache isJoining) (loop.closeTurn self cache known isJoining wake).2 := by
  unfold closeTurn
  split
  · dsimp only
    split
    · exact .finish _
    · split
      · exact .finish _
      · exact .await rfl id
  · exact .finish _
  · exact .finish _

theorem enterTurn_follows (isStarting : Bool) :
    Follows (.enter cache isStarting) (loop.enterTurn cache isStarting wake).2 := by
  unfold enterTurn
  split
  · exact .call rfl rfl rfl nofun
  · exact .finish _
  · exact .finish _
  · exact .finish _

theorem waitTurn_follows (stage : WaitStage) :
    Follows (.wait cache stage) (loop.waitTurn self cache known stage wake).2 := by
  unfold waitTurn
  split
  · exact .finish _
  · split
    · exact .goOn rfl id
    · exact .await rfl id
  · split
    · exact .await rfl id
    · exact .goOn rfl id
  · split
    · exact .finish _
    · exact .goOn rfl id

theorem deedTurn_follows (monitor : String) (deed : Deed) (stage : DeedStage) :
    Follows (.deed monitor deed stage) (loop.deedTurn monitor deed stage wake).2 := by
  unfold deedTurn
  split
  · split
    · exact .finish _
    · exact .finish _
    · exact .finish _
    · exact .await rfl (by simp [Frame.isCalling])
    · exact .call rfl trivial rfl nofun
    · exact .call rfl trivial rfl nofun
    · exact .finish _
  · exact .finish _
  · exact .finish _
  · exact .finish _
  · exact .finish _

theorem openSessionTurn_follows (source : Source) (defaultFile : SettingsFile)
    (handle : Option Handle) :
    Follows (.openSession source defaultFile handle)
      (loop.openSessionTurn source defaultFile handle wake).2 := by
  unfold openSessionTurn
  split
  · split
    · exact .finish _
    · split
      · exact .finish _
      · exact .call rfl trivial trivial (Service.begins_opening _)
  · exact .finish _
  · exact .finish _
  · exact .finish _

theorem startNew_follows (opening : Opening) (stage : OpenStage) (options : CacheOptions)
    (handle session : Option Handle) :
    Follows (.openCache opening stage) (loop.startNew opening options handle session).2 := by
  unfold startNew
  split
  · exact .finish _
  · exact .call rfl rfl rfl nofun

theorem openCacheTurn_follows (opening : Opening) (stage : OpenStage) :
    Follows (.openCache opening stage) (loop.openCacheTurn opening stage wake).2 := by
  unfold openCacheTurn
  split
  · split
    · exact .finish _
    · split
      · split
        · exact .finish _
        · exact .call rfl trivial trivial (Service.begins_opening _)
      · exact startNew_follows opening _ _ _ _
  · exact startNew_follows opening _ _ _ _
  · exact .finish _
  · exact .finish _
  · exact .finish _

end Turns

/-- **A frame goes on as one that does the same.** -/
theorem frameTurn_follows (self : TaskId) (frame : Frame S.Point) (wake : Wake S.Reply)
    (loop : Loop S) : Follows frame (loop.frameTurn self frame wake).2 := by
  cases frame with
  | service point => exact serviceTurn_follows self wake point
  | deed monitor deed stage => exact deedTurn_follows wake monitor deed stage
  | openSession source defaultFile handle => exact openSessionTurn_follows wake source _ handle
  | openCache opening stage => exact openCacheTurn_follows wake opening stage
  | worker cache stage =>
    unfold frameTurn
    dsimp only
    split
    · exact workerTurn_follows self cache _ wake stage
    · exact .finish _
  | start cache buildInitial stage =>
    unfold frameTurn
    dsimp only
    split
    · exact startTurn_follows self cache _ wake buildInitial stage
    · exact .finish _
  | close cache isJoining =>
    unfold frameTurn
    dsimp only
    split
    · exact closeTurn_follows self cache _ wake isJoining
    · exact .finish _
  | rebuild cache isReading =>
    unfold frameTurn
    dsimp only
    split
    · exact rebuildTurn_follows self cache _ wake isReading
    · exact .finish _
  | wait cache stage =>
    unfold frameTurn
    dsimp only
    split
    · exact waitTurn_follows self cache _ wake stage
    · exact .finish _
  | enter cache isStarting =>
    unfold frameTurn
    dsimp only
    split
    · exact enterTurn_follows cache wake isStarting
    · exact .finish _

/-! ## The end of a turn -/

/-- A frame's turn spares all tasks. -/
theorem frameTurn_spares (self : TaskId) (frame : Frame S.Point) (wake : Wake S.Reply)
    (loop : Loop S) : Spares loop (loop.frameTurn self frame wake).1 :=
  (frameTurn_nudges self frame wake loop).spares

end Loop

/-- The frames of a task after one of them has gone on in that way; `rest` are those below it. -/
def Move.frames {Point : Type} (rest : List (Frame Point)) : Move Point → List (Frame Point)
  | .goOn frame | .await frame _ => frame :: rest
  | .call caller callee => callee :: caller :: rest
  | .finish _ => rest

/-- How a call goes on. -/
theorem Loop.serviceTurn_next (self : TaskId) (point : S.Point) (wake : Wake S.Reply)
    (loop : Loop S) :
    (∃ outcome, (S.resume (loop.moment self) point wake loop.service).verdict = .finish outcome ∧
        (loop.serviceTurn self point wake).2 = .finish outcome) ∨
      ∃ next, (S.resume (loop.moment self) point wake loop.service).verdict.next? = some next ∧
        ∀ rest, (loop.serviceTurn self point wake).2.frames rest = .service next :: rest := by
  unfold Loop.serviceTurn
  dsimp only
  split
  · next point verdict => exact .inr ⟨point, by rw [verdict, Verdict.next?], fun _ => rfl⟩
  · next point what key verdict => exact .inr ⟨point, by rw [verdict, Verdict.next?], fun _ => rfl⟩
  · next point delay verdict => exact .inr ⟨point, by rw [verdict, Verdict.next?], fun _ => rfl⟩
  · next outcome verdict => exact .inl ⟨outcome, verdict, rfl⟩

theorem IsStack.follows {frame : Frame S.Point} {rest : List (Frame S.Point)}
    (isStack : IsStack (frame :: rest)) {way : Move S.Point} (follows : Follows frame way) :
    IsStack (way.frames rest) := by
  have replaced : ∀ next : Frame S.Point, next.activity = frame.activity →
      IsStack (next :: rest) := by
    intro next same
    cases rest with
    | nil => exact .singleton next
    | cons caller rest =>
      obtain ⟨awaits, stack⟩ := List.isChain_cons_cons.mp isStack
      refine List.isChain_cons_cons.mpr ⟨?_, stack⟩
      rw [same]
      exact awaits
  cases follows with
  | goOn same => exact replaced _ same
  | await same => exact replaced _ same
  | call same awaits => exact List.isChain_cons_cons.mpr ⟨awaits, replaced _ same⟩
  | finish outcome => exact List.IsChain.tail isStack

namespace Loop

/-- The end of a turn gives the task its new frames, and spares all other tasks. -/
structure Ends (task : TaskId) (frames : List (Frame S.Point)) (before after : Loop S) : Prop where
  grows : Grows before after
  self (known : Task S) : before.tasks[task]? = some known →
    ∃ known', after.tasks[task]? = some known' ∧ known'.role = known.role ∧ known'.frames = frames
  others (other : TaskId) (known : Task S) : other ≠ task → before.tasks[other]? = some known →
    ∃ known', after.tasks[other]? = some known' ∧ known'.role = known.role ∧
      known'.frames = known.frames ∧ known'.status.stage = known.status.stage
  new (other : TaskId) (known : Task S) : before.tasks[other]? = none →
    after.tasks[other]? = some known →
      ∃ frame, known.frames = [frame] ∧ Enters after.caches known.role frame ∧
        known.status.stage = .new

/-- What comes after spares the new frames, too. -/
theorem Ends.spares {task : TaskId} {frames : List (Frame S.Point)} {first second third : Loop S}
    (ends : Ends task frames first second) (spares : Spares second third) :
    Ends task frames first third := by
  refine ⟨ends.grows.trans spares.grows, fun known found => ?_,
    fun other known different found => ?_, fun other known unknown found => ?_⟩
  · obtain ⟨known', found', role, frames⟩ := ends.self known found
    obtain ⟨known'', found'', role', frames', -⟩ := spares.old task known' found'
    exact ⟨known'', found'', role'.trans role, frames'.trans frames⟩
  · obtain ⟨known', found', role, frames, stage⟩ := ends.others other known different found
    obtain ⟨known'', found'', role', frames', stage'⟩ := spares.old other known' found'
    exact ⟨known'', found'', role'.trans role, frames'.trans frames, stage'.trans stage⟩
  · cases between : second.tasks[other]? with
    | none => exact spares.new other known between found
    | some known' =>
      obtain ⟨known'', found'', role, frames, stage⟩ := spares.old other known' between
      cases found.symm.trans found''
      obtain ⟨frame, same, enters, isNew⟩ := ends.new other known' unknown between
      rw [role, frames, stage]
      exact ⟨frame, same, enters.grows spares.grows, isNew⟩

/-- A change of the task gives it its new frames. -/
theorem Ends.modifyTask {task : TaskId} {frames : List (Frame S.Point)} (loop : Loop S)
    (change : Task S → Task S)
    (same : ∀ known, loop.tasks[task]? = some known →
      (change known).role = known.role ∧ (change known).frames = frames) :
    Ends task frames loop (loop.modifyTask task change) := by
  have changed : (loop.modifyTask task change).tasks = loop.tasks.modify task change := rfl
  refine ⟨.of_eq rfl, fun known found => ?_, fun other known different found => ?_,
    fun other known unknown found => ?_⟩
  · refine ⟨change known, ?_, same known found⟩
    rw [changed, List.getElem?_modify_eq, found]
    rfl
  · refine ⟨known, ?_, rfl, rfl, rfl⟩
    rw [changed, List.getElem?_modify, found]
    simp [Ne.symm different]
  · rw [changed, List.getElem?_modify, unknown] at found
    cases found

/-- A new status does not change the new frames. -/
theorem Ends.setStatus {task : TaskId} {frames : List (Frame S.Point)} {first second : Loop S}
    (ends : Ends task frames first second) (status : Status S.Reply) {known : Task S}
    (isThere : first.tasks[task]? = some known) :
    Ends task frames first (second.setStatus task status) := by
  have changed : (second.setStatus task status).tasks =
      second.tasks.modify task fun task => { task with status } := rfl
  refine ⟨ends.grows, fun known found => ?_, fun other known different found => ?_,
    fun other known unknown found => ?_⟩
  · obtain ⟨known', found', role, frames⟩ := ends.self known found
    refine ⟨{ known' with status }, ?_, role, frames⟩
    rw [changed, List.getElem?_modify_eq, found']
    rfl
  · obtain ⟨known', found', rest⟩ := ends.others other known different found
    refine ⟨known', ?_, rest⟩
    rw [changed, List.getElem?_modify, found']
    simp [Ne.symm different]
  · by_cases here : task = other
    · subst here
      cases unknown.symm.trans isThere
    · rw [changed, List.getElem?_modify_ne _ _ here] at found
      exact ends.new other known unknown found

theorem suspend_ends {task : TaskId} {frames : List (Frame S.Point)} {first second : Loop S}
    (ends : Ends task frames first second) (on : Await) {known : Task S}
    (isThere : first.tasks[task]? = some known) :
    Ends task frames first (second.suspend task on) := by
  unfold suspend
  split
  · split
    · exact (ends.setStatus _ isThere).spares (push_spares _ _)
    · exact ends.setStatus _ isThere
  · exact ends.setStatus _ isThere

theorem finish_ends (task : TaskId) (outcome : Outcome Answer) (loop : Loop S) :
    Ends task [] loop (loop.finish task outcome) := by
  have triggered : ∀ hooks : List Hook, ∀ loop : Loop S,
      Spares loop (hooks.foldl (fun loop hook => loop.trigger task outcome hook) loop) :=
    foldl_relates .refl .trans fun loop hook => trigger_spares task outcome hook loop
  have ended : Ends task [] loop (loop.modifyTask task fun task =>
      { task with status := .ended outcome, hooks := [], frames := [] }) :=
    .modifyTask loop _ fun _ _ => ⟨rfl, rfl⟩
  exact ended.spares (triggered _ _)

theorem noteEnd_tasks (task : TaskId) (frame : Frame S.Point) (way : Move S.Point) (loop : Loop S) :
    (loop.noteEnd task frame way).tasks = loop.tasks ∧
      (loop.noteEnd task frame way).caches = loop.caches := by
  unfold noteEnd
  split <;> exact ⟨rfl, rfl⟩

/-- **The task that had its turn has its new frames, and all others have what they had.** -/
theorem afterTurn_ends {task : TaskId} {known : Task S} (frame : Frame S.Point)
    (rest : List (Frame S.Point)) {turn : Turn S} (isThere : turn.1.tasks[task]? = some known) :
    Ends task (turn.2.frames rest) turn.1 (afterTurn task frame rest turn) := by
  obtain ⟨loop, way⟩ := turn
  obtain ⟨tasks, caches⟩ := noteEnd_tasks task frame way loop
  have isThere : (loop.noteEnd task frame way).tasks[task]? = some known := tasks ▸ isThere
  have ends : ∀ frames after, Ends task frames (loop.noteEnd task frame way) after →
      Ends task frames loop after := by
    rintro frames after ⟨grows, self, others, new⟩
    rw [tasks] at self others new
    exact ⟨fun cache known found => grows cache known (caches ▸ found), self, others, new⟩
  have set : ∀ frames, Ends task frames (loop.noteEnd task frame way)
      ((loop.noteEnd task frame way).setFrames task frames) := fun frames =>
    .modifyTask _ _ fun _ _ => ⟨rfl, rfl⟩
  have given : ∀ frames wake, Ends task frames (loop.noteEnd task frame way)
      (((loop.noteEnd task frame way).setFrames task frames).give task wake) := fun frames wake =>
    (set frames).spares (.of_eq (.of_eq rfl) rfl)
  refine ends _ _ ?_
  unfold afterTurn Loop.move
  cases way with
  | goOn next => exact given _ _
  | call caller callee => exact given _ _
  | await next on => exact suspend_ends (set _) on isThere
  | finish outcome =>
    cases rest with
    | nil => exact finish_ends task outcome _
    | cons caller rest => exact given _ _

/-! ## Everything that happens -/

/-- What becomes of the frames of tasks when something happens. -/
inductive Course (before : Loop S) : Loop S → Prop
  /-- A task that has its turn keeps it. -/
  | spared {after : Loop S} (spares : Spares before after)
      (steady : ∀ task wake frame rest, before.IsAt task wake frame rest →
        after.turn = before.turn) : Course before after
  /-- A task gets its turn. -/
  | given {after : Loop S} {task : TaskId} {known : Task S} (isBetween : before.turn = none)
      (found : before.tasks[task]? = some known) (ends : Ends task known.frames before after) :
      Course before after
  /-- A task has had its turn. -/
  | turn {task : TaskId} {wake : Wake S.Reply} {frame : Frame S.Point}
      {rest : List (Frame S.Point)} (isAt : before.IsAt task wake frame rest) :
      Course before (afterTurn task frame rest (before.inTurn.frameTurn task frame wake))
  /-- A task that was cancelled before its first turn has ended. -/
  | doomed {after : Loop S} {task : TaskId} (isBetween : before.turn = none)
      (was : before.status? task = some .doomed) (ends : Ends task [] before after)
      (finishes : ∃ middle : Loop S, middle.tasks = before.tasks ∧
        after = middle.finish task .cancelled) :
      Course before after

/-- Between two jobs no task has its turn. -/
theorem Course.spared_of_between {before after : Loop S} (isBetween : before.turn = none)
    (spares : Spares before after) : Course before after := by
  refine .spared spares fun task wake frame rest isAt => ?_
  cases isBetween.symm.trans isAt.turn

/-- A task that gets its turn has the frames it had. -/
theorem running_ends {task : TaskId} {old : Status S.Reply} {loop : Loop S}
    (was : loop.status? task = some old) (wake : Wake S.Reply) :
    ∃ known, loop.tasks[task]? = some known ∧
      Ends task known.frames loop ((loop.setStatus task .running).give task wake) := by
  obtain ⟨known, found, -⟩ := Option.map_eq_some_iff.mp was
  have ends : Ends task known.frames loop (loop.setStatus task .running) := by
    refine .modifyTask loop _ fun other found' => ⟨rfl, ?_⟩
    cases found.symm.trans found'
    rfl
  exact ⟨known, found, ends.spares (.of_eq (.of_eq rfl) rfl)⟩

theorem start_course (job : Job) {loop : Loop S} (isBetween : loop.turn = none) :
    Course loop (loop.start job) := by
  have given : ∀ task : TaskId, ∀ wake old, loop.status? task = some old →
      Course loop ((loop.setStatus task .running).give task wake) := by
    intro task wake old was
    obtain ⟨known, found, ends⟩ := running_ends was wake
    exact .given isBetween found ends
  unfold start
  split
  · split
    · next was => exact given _ _ _ was
    · next was => exact given _ _ _ was
    · next was => exact .doomed isBetween was (finish_ends _ _ loop) ⟨loop, rfl, rfl⟩
    · exact .spared_of_between isBetween (.refl loop)
  · split
    · obtain ⟨owner, labours⟩ := runHook_labours _ _ _ loop
      exact .spared_of_between isBetween labours.toils.nudges.spares
    · exact .spared_of_between isBetween (.refl loop)

theorem step_course (loop : Loop S) : Course loop loop.step := by
  have step := step_isStep loop
  generalize loop.step = after at step
  cases step with
  | turn isAt => exact .turn isAt
  | pause turn isOver =>
    refine .spared (.of_eq (.of_eq rfl) rfl) fun task wake frame rest isAt => ?_
    cases turn.symm.trans isAt.turn
    exact absurd isAt.frames (isOver frame rest)
  | @job job ready turn isFirst =>
    have begun := start_course job (show ({ loop with ready } : Loop S).turn = none from turn)
    generalize ({ loop with ready } : Loop S).start job = after at begun
    cases begun with
    | spared spares _ => exact .spared_of_between turn ⟨spares.grows, spares.old, spares.new⟩
    | given _ found ends => exact .given turn found ⟨ends.grows, ends.self, ends.others, ends.new⟩
    | turn isAt => cases turn.symm.trans isAt.turn
    | doomed _ was ends finishes =>
      exact .doomed turn was ⟨ends.grows, ends.self, ends.others, ends.new⟩ finishes
  | rest turn => exact .spared_of_between turn (.refl loop)

theorem command_spares (loop : Loop S) (command : Command S) (isMomentary : command.isMomentary) :
    Spares loop (loop.command command).1 := by
  have order := command_isOrder loop command isMomentary
  generalize (loop.command command).1 = after at order
  cases order with
  | stirs stirs => exact stirs.toils.nudges.spares
  | call stirs point => exact stirs.toils.nudges.spares.trans (spawn_spares (.outside _))
  | release tickets release _ =>
    exact releaseAll_keeps loop release (fun _ _ spares => spares.trans (wake_spares _ _ _)) tickets
      (.refl loop)
  | install name cache path stat data _ =>
    exact (installFrom_toils cache path stat data loop).nudges.spares

theorem ring_nudges {isServed : Prop} (loop : Loop S) : Nudges isServed loop loop.ring :=
  foldl_relates (fun _ => .refl) .trans
    (fun _ alarm => .single (.wake alarm.2.2 _ (.inl rfl))) _ loop

/-- **Whatever happens, at most one task has new frames**, which are those that its turn left. -/
theorem Happens.course {allowed : Outside S} {before after : Loop S}
    (happens : Happens allowed before after) : Course before after := by
  cases happens with
  | step => exact step_course before
  | command command isBetween isMomentary _ =>
    refine .spared_of_between ?_ (command_spares before command isMomentary)
    exact Option.isNone_iff_eq_none.mp isBetween
  | elapse time => exact .spared (.of_eq (.of_eq rfl) rfl) fun _ _ _ _ _ => rfl
  | ring =>
    have nudges : Nudges True before before.ring := ring_nudges before
    exact .spared nudges.spares fun _ _ _ _ _ => (ring_keeps before).2.2.2
  | decide scripts habits => exact .spared (.of_eq (.of_eq rfl) rfl) fun _ _ _ _ _ => rfl

theorem Course.grows {before after : Loop S} (course : Course before after) :
    Grows before after := by
  cases course with
  | spared spares _ => exact spares.grows
  | given _ _ ends => exact ends.grows
  | @turn task wake frame rest isAt =>
    obtain ⟨known, found, -⟩ := Option.map_eq_some_iff.mp isAt.frames
    have spares := frameTurn_spares task frame wake before.inTurn
    obtain ⟨known', found', -⟩ := spares.old task known found
    have inTurn : Grows before before.inTurn := .of_eq rfl
    exact (inTurn.trans spares.grows).trans (afterTurn_ends frame rest found').grows
  | doomed _ _ ends => exact ends.grows

/-! ## Where frames come from -/

/-- Where the frames of a task come from after something has happened. -/
inductive Inherits (before after : Loop S) (task : TaskId) (known : Task S) : Prop
  /-- The task has come in. -/
  | new {frame : Frame S.Point} (unknown : before.tasks[task]? = none)
      (frames : known.frames = [frame]) (enters : Enters after.caches known.role frame)
      (isNew : known.status.stage = .new)
  /-- The task was cancelled before its first turn. -/
  | doomed {old : Task S} (found : before.tasks[task]? = some old) (role : known.role = old.role)
      (was : old.status = .doomed) (frames : known.frames = [])
      (finishes : ∃ middle : Loop S, middle.tasks = before.tasks ∧
        after = middle.finish task .cancelled)
  /-- The task has the frames it had, and its turn if it had it. -/
  | kept {old : Task S} (found : before.tasks[task]? = some old) (role : known.role = old.role)
      (frames : known.frames = old.frames)
      (steady : ∀ wake frame rest, before.IsAt task wake frame rest → after.turn = before.turn)
  /-- They are left by the task's turn. -/
  | turn {old : Task S} {wake : Wake S.Reply} {frame : Frame S.Point}
      {rest : List (Frame S.Point)} (found : before.tasks[task]? = some old)
      (role : known.role = old.role) (isAt : before.IsAt task wake frame rest)
      (same : after = afterTurn task frame rest (before.inTurn.frameTurn task frame wake))
      (frames : known.frames = (before.inTurn.frameTurn task frame wake).2.frames rest)

theorem Spares.inherits {before after : Loop S} (spares : Spares before after) {task : TaskId}
    {known : Task S} (found : after.tasks[task]? = some known)
    (steady : ∀ wake frame rest, before.IsAt task wake frame rest → after.turn = before.turn) :
    Inherits before after task known := by
  cases earlier : before.tasks[task]? with
  | none =>
    obtain ⟨frame, frames, enters, isNew⟩ := spares.new task known earlier found
    exact .new earlier frames enters isNew
  | some old =>
    obtain ⟨known', found', role, frames, -⟩ := spares.old task old earlier
    cases found.symm.trans found'
    exact .kept earlier role frames steady

/-- The frames of a task when another one, or the task itself, has been given new ones. -/
theorem Ends.inherits {self task : TaskId} {frames : List (Frame S.Point)} {before after : Loop S}
    (ends : Ends self frames before after) {known : Task S}
    (found : after.tasks[task]? = some known) :
    (∃ frame, before.tasks[task]? = none ∧ known.frames = [frame] ∧
        Enters after.caches known.role frame ∧ known.status.stage = .new) ∨
      ∃ old, before.tasks[task]? = some old ∧ known.role = old.role ∧
        (task = self ∧ known.frames = frames ∨ task ≠ self ∧ known.frames = old.frames) := by
  cases earlier : before.tasks[task]? with
  | none =>
    obtain ⟨frame, frames, enters, isNew⟩ := ends.new task known earlier found
    exact .inl ⟨frame, rfl, frames, enters, isNew⟩
  | some old =>
    refine .inr ⟨old, rfl, ?_⟩
    by_cases here : task = self
    · subst here
      obtain ⟨known', found', role, frames⟩ := ends.self old earlier
      cases found.symm.trans found'
      exact ⟨role, .inl ⟨rfl, frames⟩⟩
    · obtain ⟨known', found', role, frames, -⟩ := ends.others task old here earlier
      cases found.symm.trans found'
      exact ⟨role, .inr ⟨here, frames⟩⟩

/-- **Whatever happens, each task has the frames it had, or those that its own turn left.** -/
theorem Happens.inherits {allowed : Outside S} {before after : Loop S}
    (happens : Happens allowed before after) {task : TaskId} {known : Task S}
    (found : after.tasks[task]? = some known) : Inherits before after task known := by
  have course := happens.course
  clear happens
  cases course with
  | spared spares steady => exact spares.inherits found (steady task)
  | @given _ self owner isBetween isThere ends =>
    have steady : ∀ wake frame rest, before.IsAt task wake frame rest →
        after.turn = before.turn := by
      intro wake frame rest isAt
      cases isBetween.symm.trans isAt.turn
    rcases ends.inherits found with ⟨frame, unknown, frames, enters, isNew⟩ |
      ⟨old, earlier, role, ⟨rfl, frames⟩ | ⟨-, frames⟩⟩
    · exact .new unknown frames enters isNew
    · cases isThere.symm.trans earlier
      exact .kept earlier role frames steady
    · exact .kept earlier role frames steady
  | @turn self wake frame rest isAt =>
    obtain ⟨owner, isThere, -⟩ := Option.map_eq_some_iff.mp isAt.frames
    have spares := frameTurn_spares self frame wake before.inTurn
    obtain ⟨owner', isThere', -⟩ := spares.old self owner isThere
    have ends := afterTurn_ends frame rest isThere'
    rcases ends.inherits found with ⟨first, unknown, frames, enters, isNew⟩ |
      ⟨old, earlier, role, own⟩
    · refine .new ?_ frames enters isNew
      cases earlier : before.tasks[task]? with
      | none => rfl
      | some old =>
        obtain ⟨known', found', -⟩ := spares.old task old earlier
        cases unknown.symm.trans found'
    · cases earlier' : before.tasks[task]? with
      | none =>
        obtain ⟨first, frames, enters, isNew⟩ := spares.new task old earlier' earlier
        rcases own with ⟨rfl, -⟩ | ⟨here, frames'⟩
        · cases earlier'.symm.trans isThere
        · obtain ⟨known', found', -, -, stage⟩ := ends.others task old here earlier
          cases found.symm.trans found'
          refine .new earlier' (frames'.trans frames) ?_ (stage.trans isNew)
          rw [role]
          exact enters.grows ends.grows
      | some older =>
        obtain ⟨old', found', role', frames', -⟩ := spares.old task older earlier'
        cases earlier.symm.trans found'
        rcases own with ⟨rfl, frames⟩ | ⟨here, frames⟩
        · exact .turn earlier' (role.trans role') isAt rfl frames
        · refine .kept earlier' (role.trans role') (frames.trans frames') ?_
          intro wake' frame' rest' isAt'
          cases isAt.turn.symm.trans isAt'.turn
          exact absurd rfl here
  | @doomed _ self isBetween was ends finishes =>
    have steady : ∀ wake frame rest, before.IsAt task wake frame rest →
        after.turn = before.turn := by
      intro wake frame rest isAt
      cases isBetween.symm.trans isAt.turn
    rcases ends.inherits found with ⟨frame, unknown, frames, enters, isNew⟩ |
      ⟨old, earlier, role, ⟨rfl, frames⟩ | ⟨-, frames⟩⟩
    · exact .new unknown frames enters isNew
    · rw [status?, earlier, Option.map_some, Option.some.injEq] at was
      exact .doomed earlier role was frames finishes
    · exact .kept earlier role frames steady

/-- **A frame that waits for another one stood there before, or its own turn has left it.** -/
theorem Happens.calling {allowed : Outside S} {before after : Loop S}
    (happens : Happens allowed before after) {task : TaskId} {known : Task S}
    (found : after.tasks[task]? = some known) {frame : Frame S.Point}
    (member : frame ∈ known.frames) (isCalling : frame.isCalling) :
    (∃ old, before.tasks[task]? = some old ∧ frame ∈ old.frames) ∨
      ∃ wake first rest callee, before.IsAt task wake first rest ∧
        after = afterTurn task first rest (before.inTurn.frameTurn task first wake) ∧
        (before.inTurn.frameTurn task first wake).2 = .call frame callee := by
  cases happens.inherits found with
  | new unknown frames enters isNew =>
    rw [frames, List.mem_singleton] at member
    subst member
    exact absurd isCalling (Frame.not_isCalling enters.isFirst)
  | doomed found role was frames =>
    rw [frames] at member
    cases member
  | kept earlier role frames steady => exact .inl ⟨_, earlier, frames ▸ member⟩
  | @turn old wake first rest earlier role isAt same frames =>
    obtain ⟨older, earlier', stack⟩ := Option.map_eq_some_iff.mp isAt.frames
    have ofRest : frame ∈ rest → ∃ old, before.tasks[task]? = some old ∧ frame ∈ old.frames :=
      fun isRest => ⟨older, earlier', stack ▸ List.mem_cons_of_mem _ isRest⟩
    rw [frames] at member
    have follows := frameTurn_follows task first wake before.inTurn
    generalize result : (before.inTurn.frameTurn task first wake).2 = way at follows member
    cases follows with
    | goOn _ isFree =>
      rcases List.mem_cons.mp member with rfl | isRest
      · exact absurd isCalling isFree
      · exact .inl (ofRest isRest)
    | await _ isFree =>
      rcases List.mem_cons.mp member with rfl | isRest
      · exact absurd isCalling isFree
      · exact .inl (ofRest isRest)
    | call _ _ isFirst =>
      rcases List.mem_cons.mp member with rfl | member
      · exact absurd isCalling (Frame.not_isCalling isFirst)
      · rcases List.mem_cons.mp member with rfl | isRest
        · exact .inr ⟨wake, first, rest, _, isAt, same, result⟩
        · exact .inl (ofRest isRest)
    | finish outcome => exact .inl (ofRest member)

/-! ## Stacks in order -/

/-- The frames of all tasks stand in order. -/
def AreStacked (loop : Loop S) : Prop :=
  ∀ (task : TaskId) (known : Task S), loop.tasks[task]? = some known → IsStack known.frames

theorem AreStacked.isAt {loop : Loop S} (areStacked : loop.AreStacked) {task : TaskId}
    {wake : Wake S.Reply} {frame : Frame S.Point} {rest : List (Frame S.Point)}
    (isAt : loop.IsAt task wake frame rest) : IsStack (frame :: rest) := by
  obtain ⟨known, found, frames⟩ := Option.map_eq_some_iff.mp isAt.frames
  rw [← frames]
  exact areStacked task known found

theorem Happens.areStacked {allowed : Outside S} {before after : Loop S}
    (happens : Happens allowed before after) (areStacked : before.AreStacked) :
    after.AreStacked := by
  intro task known found
  cases happens.inherits found with
  | @new frame unknown frames enters isNew =>
    rw [frames]
    exact .singleton frame
  | doomed found role was frames =>
    rw [frames]
    exact .nil
  | kept found role frames steady =>
    rw [frames]
    exact areStacked task _ found
  | @turn old wake frame rest found role isAt same frames =>
    rw [frames]
    exact (areStacked.isAt isAt).follows (frameTurn_follows task frame wake before.inTurn)

theorem Reaches.areStacked {allowed : Outside S} {first last : Loop S}
    (run : Reaches allowed first last) (start : first.AreStacked) : last.AreStacked :=
  run.keeps start fun _ _ happens areStacked => happens.areStacked areStacked

theorem fresh_areStacked (service : S.State) : (fresh service).AreStacked :=
  fun task known found => by simp [fresh] at found

/-! ## Starts -/

theorem startTurn_beginning (self : TaskId) (cache : CacheId) (known : Cache) (buildInitial : Bool)
    {wake : Wake S.Reply} (isPlain : wake ≠ .cancelled) (loop : Loop S) :
    loop.startTurn self cache known buildInitial .beginning wake =
      if known.phase = .latent then
        (loop.begin cache).callService self cache known (.ensure known.path true)
          (.start cache buildInitial .ensuring)
      else (loop, .finish (.failed .startedTwice)) := by
  cases wake <;> first | rfl | exact absurd rfl isPlain

theorem startTurn_hasBegun (self : TaskId) {cache : CacheId} {known : Cache} (buildInitial : Bool)
    (wake : Wake S.Reply) {loop : Loop S} (found : loop.caches[cache]? = some known)
    {caller callee : Frame S.Point}
    (calls : (loop.startTurn self cache known buildInitial .beginning wake).2 =
      .call caller callee) :
    (loop.startTurn self cache known buildInitial .beginning wake).1.HasBegun cache := by
  have isPlain : wake ≠ .cancelled := by
    rintro rfl
    cases calls
  rw [startTurn_beginning self cache known buildInitial isPlain] at calls ⊢
  split at calls
  · next isLatent =>
    rw [if_pos isLatent]
    exact ⟨_, modifyCache_self found _, Phase.noConfusion⟩
  · cases calls

/-- A start that is to wait for its directories has found its cache latent. -/
theorem frameTurn_ensuring (self : TaskId) (frame : Frame S.Point) (wake : Wake S.Reply)
    (loop : Loop S) {cache : CacheId} {buildInitial : Bool} {callee : Frame S.Point}
    (calls :
      (loop.frameTurn self frame wake).2 = .call (.start cache buildInitial .ensuring) callee) :
    ∃ known, loop.caches[cache]? = some known ∧ known.phase = .latent := by
  have follows := frameTurn_follows self frame wake loop
  rw [calls] at follows
  cases follows with
  | call same awaits isFirst =>
    cases frame with
    | start owner builds stage =>
      cases same
      unfold frameTurn at calls
      dsimp only at calls
      split at calls
      · next known found =>
        refine ⟨known, found, ?_⟩
        unfold cacheTurn startTurn at calls
        dsimp only at calls
        split at calls
        · cases calls
        · split at calls
          · next isLatent => exact isLatent
          · cases calls
        · split at calls
          · cases calls
          · cases calls
        · unfold rebuilt at calls
          split at calls <;> cases calls
        · cases calls
        · cases calls
      · cases calls
    | _ => cases same

/-- A start that asks for its directories is that of a cache that has begun. -/
theorem frameTurn_hasBegun (self : TaskId) (frame : Frame S.Point) (wake : Wake S.Reply)
    (loop : Loop S) {caller callee : Frame S.Point}
    (calls : (loop.frameTurn self frame wake).2 = .call caller callee) {cache : CacheId}
    (isUnderWay : caller.isUnderWay cache) :
    frame.isUnderWay cache ∨ (loop.frameTurn self frame wake).1.HasBegun cache := by
  have follows := frameTurn_follows self frame wake loop
  rw [calls] at follows
  cases follows with
  | call same awaits isFirst =>
    cases caller with
    | start owner buildInitial stage =>
      obtain ⟨rfl, -⟩ := isUnderWay
      cases frame with
      | start cache buildInitial stage =>
        cases same
        by_cases isBeginning : stage = .beginning
        · subst isBeginning
          refine .inr ?_
          unfold frameTurn at calls ⊢
          dsimp only at calls ⊢
          split at calls
          · next known found => exact startTurn_hasBegun self buildInitial wake found calls
          · cases calls
        · exact .inl ⟨rfl, isBeginning⟩
      | _ => cases same
    | _ => exact isUnderWay.elim

/-- **Whatever happens, caches only grow older, and starts under way are of caches that have
begun.** -/
theorem Happens.startsAreBegun {allowed : Outside S} {before after : Loop S}
    (happens : Happens allowed before after) (startsAreBegun : before.StartsAreBegun) :
    after.StartsAreBegun := by
  intro task known frame cache found member isUnderWay
  have grows := happens.course.grows
  rcases happens.calling found member (Frame.isCalling_of_isUnderWay isUnderWay) with
    ⟨old, earlier, isOld⟩ | ⟨wake, first, rest, callee, isAt, same, calls⟩
  · exact grows.hasBegun (startsAreBegun task old frame cache earlier isOld isUnderWay)
  · rcases frameTurn_hasBegun task first wake before.inTurn calls isUnderWay with earlier | begun
    · obtain ⟨known, found, begun⟩ := startsAreBegun.frame isAt.frames cache earlier
      exact grows.hasBegun ⟨known, found, begun⟩
    · rw [same]
      exact (afterTurn_pulses task first rest _).grows.hasBegun begun

theorem fresh_startsAreBegun (service : S.State) : (fresh service).StartsAreBegun :=
  fun task known frame cache found => by simp [fresh] at found

theorem Reaches.startsAreBegun {allowed : Outside S} {first last : Loop S}
    (run : Reaches allowed first last) (start : first.StartsAreBegun) : last.StartsAreBegun :=
  run.keeps start fun _ _ happens startsAreBegun => happens.startsAreBegun startsAreBegun

/-- What each pulse keeps is kept by every run. -/
theorem Reaches.keeps_pulses {allowed : Outside S} {holds : Loop S → Prop} {first last : Loop S}
    (run : Reaches allowed first last) (startsAreBegun : first.StartsAreBegun) (start : holds first)
    (kept : ∀ before after, Pulse before after → holds before → holds after) : holds last := by
  have step : ∀ before after, Happens allowed before after →
      before.StartsAreBegun ∧ holds before → after.StartsAreBegun ∧ holds after := by
    rintro before after happens ⟨begun, start⟩
    refine ⟨happens.startsAreBegun begun, ?_⟩
    have pulses := happens.pulses begun
    clear happens
    induction pulses with
    | refl => exact start
    | tail _ pulse step => exact kept _ _ pulse step
  exact (@Reaches.keeps _ _ (fun loop => loop.StartsAreBegun ∧ holds loop) _ _ run
    ⟨startsAreBegun, start⟩ step).2

/-! ## Callers -/

end Loop

/-- What a frame waits for that waits for the end of a call. -/
theorem Frame.activity_of_awaits_call {Point : Type} {frame : Frame Point} {activity : Activity}
    (awaitsCall : frame.awaits .call) (awaits : frame.awaits activity) : activity = .call := by
  cases frame with
  | worker cache stage => cases stage <;> cases activity <;> simp_all [Frame.awaits]
  | start cache buildInitial stage => cases stage <;> cases activity <;> simp_all [Frame.awaits]
  | rebuild cache isReading => cases isReading <;> cases activity <;> simp_all [Frame.awaits]
  | enter cache isStarting => cases isStarting <;> simp_all [Frame.awaits]
  | deed monitor left stage => cases stage <;> simp_all [Frame.awaits]
  | openSession source defaultFile handle =>
    cases handle <;> cases activity <;> simp_all [Frame.awaits]
  | openCache opening stage => cases stage <;> cases activity <;> simp_all [Frame.awaits]
  | _ => exact awaitsCall.elim

namespace Loop

theorem afterTurn_turn (task : TaskId) (frame caller : Frame S.Point)
    (rest : List (Frame S.Point)) (loop : Loop S) (outcome : Outcome Answer) :
    (afterTurn task frame (caller :: rest) (loop, .finish outcome)).turn =
      some (task, .ended outcome) := rfl

end Loop

end WatchedNode
