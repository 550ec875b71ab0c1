/-
**What the parts of a loop leave alone.**

Most of what the loop does with tasks has no effect on the service, the caches, the journal and the
turn. Each function that only deals with tasks has one lemma about that. The functions that change
one of these have a lemma about the others.
-/
import WatchedNode.Scenario

namespace WatchedNode

/-- The point from which a call goes on. -/
def Verdict.next? {Point : Type} : Verdict Point → Option Point
  | .goOn point | .hold point _ _ | .sleep point _ => some point
  | .finish _ => none

/-- Where each of several changes leads to what it is related to, so do all of them. -/
theorem foldl_relates {state kind : Type} {related : state → state → Prop}
    (refl : ∀ before, related before before)
    (trans : ∀ {first second third}, related first second → related second third →
      related first third)
    {change : state → kind → state} (each : ∀ before item, related before (change before item))
    (items : List kind) (before : state) : related before (items.foldl change before) :=
  List.foldlRecOn items change (refl before) fun after changed item _ =>
    trans changed (each after item)

namespace Loop

variable {S : Service} (loop : Loop S)

/-! ## The smallest parts -/

@[simp] theorem note_keeps (entry : Entry S.Call) :
    (loop.note entry).service = loop.service ∧ (loop.note entry).caches = loop.caches ∧
      (loop.note entry).tasks = loop.tasks ∧ (loop.note entry).ready = loop.ready ∧
      (loop.note entry).turn = loop.turn :=
  ⟨rfl, rfl, rfl, rfl, rfl⟩

@[simp] theorem note_journal (entry : Entry S.Call) :
    (loop.note entry).journal = entry :: loop.journal := rfl

@[simp] theorem complain_eq (complaint : Complaint) :
    loop.complain complaint = loop.note (.complaint complaint) := rfl

@[simp] theorem setService_service (service : S.State) :
    (loop.setService service).service = service := rfl

@[simp] theorem modifyCache_keeps (cache : CacheId) (change : Cache → Cache) :
    (loop.modifyCache cache change).service = loop.service ∧
      (loop.modifyCache cache change).tasks = loop.tasks ∧
      (loop.modifyCache cache change).ready = loop.ready ∧
      (loop.modifyCache cache change).journal = loop.journal ∧
      (loop.modifyCache cache change).turn = loop.turn :=
  ⟨rfl, rfl, rfl, rfl, rfl⟩

theorem modifyCache_caches (cache : CacheId) (change : Cache → Cache) :
    (loop.modifyCache cache change).caches = loop.caches.modify cache change := rfl

/-- The cache that is changed. -/
theorem modifyCache_self {loop : Loop S} {cache : CacheId} {known : Cache}
    (found : loop.caches[cache]? = some known) (change : Cache → Cache) :
    (loop.modifyCache cache change).caches[cache]? = some (change known) := by
  rw [modifyCache_caches, List.getElem?_modify_eq, found]
  rfl

/-- The caches that are not changed. -/
theorem modifyCache_of_ne {cache other : CacheId} (different : cache ≠ other)
    (change : Cache → Cache) :
    (loop.modifyCache cache change).caches[other]? = loop.caches[other]? := by
  simp [modifyCache_caches, different]

/-- Any cache, of which something is kept. -/
theorem modifyCache_map {kind : Type} (view : Cache → kind) (cache other : CacheId)
    (change : Cache → Cache) (same : ∀ known, view (change known) = view known) :
    ((loop.modifyCache cache change).caches[other]?).map view =
      (loop.caches[other]?).map view := by
  rw [modifyCache_caches, List.getElem?_modify]
  by_cases here : cache = other
  · cases loop.caches[other]? <;> simp [here, same]
  · simp [here]

@[simp] theorem modifyTask_keeps (task : TaskId) (change : Task S → Task S) :
    (loop.modifyTask task change).service = loop.service ∧
      (loop.modifyTask task change).caches = loop.caches ∧
      (loop.modifyTask task change).journal = loop.journal ∧
      (loop.modifyTask task change).turn = loop.turn :=
  ⟨rfl, rfl, rfl, rfl⟩

@[simp] theorem setStatus_keeps (task : TaskId) (status : Status S.Reply) :
    (loop.setStatus task status).service = loop.service ∧
      (loop.setStatus task status).caches = loop.caches ∧
      (loop.setStatus task status).journal = loop.journal ∧
      (loop.setStatus task status).turn = loop.turn :=
  ⟨rfl, rfl, rfl, rfl⟩

@[simp] theorem setFrames_keeps (task : TaskId) (frames : List (Frame S.Point)) :
    (loop.setFrames task frames).service = loop.service ∧
      (loop.setFrames task frames).caches = loop.caches ∧
      (loop.setFrames task frames).journal = loop.journal ∧
      (loop.setFrames task frames).turn = loop.turn :=
  ⟨rfl, rfl, rfl, rfl⟩

@[simp] theorem push_keeps (job : Job) :
    (loop.push job).service = loop.service ∧ (loop.push job).caches = loop.caches ∧
      (loop.push job).journal = loop.journal ∧ (loop.push job).turn = loop.turn :=
  ⟨rfl, rfl, rfl, rfl⟩

@[simp] theorem spawn_keeps (role : Role) (frame : Frame S.Point) :
    (loop.spawn role frame).service = loop.service ∧ (loop.spawn role frame).caches = loop.caches ∧
      (loop.spawn role frame).journal = loop.journal ∧ (loop.spawn role frame).turn = loop.turn :=
  ⟨rfl, rfl, rfl, rfl⟩

@[simp] theorem give_keeps (task : TaskId) (wake : Wake S.Reply) :
    (loop.give task wake).service = loop.service ∧ (loop.give task wake).caches = loop.caches ∧
      (loop.give task wake).tasks = loop.tasks ∧ (loop.give task wake).ready = loop.ready ∧
      (loop.give task wake).journal = loop.journal :=
  ⟨rfl, rfl, rfl, rfl, rfl⟩

/-! ## Tasks -/

@[simp] theorem wake_keeps (task : TaskId) (why : Wake S.Reply) :
    (loop.wake task why).service = loop.service ∧ (loop.wake task why).caches = loop.caches ∧
      (loop.wake task why).journal = loop.journal ∧ (loop.wake task why).turn = loop.turn := by
  unfold wake
  split <;> simp

@[simp] theorem trigger_keeps (task : TaskId) (outcome : Outcome Answer) (hook : Hook) :
    (loop.trigger task outcome hook).service = loop.service ∧
      (loop.trigger task outcome hook).caches = loop.caches ∧
      (loop.trigger task outcome hook).journal = loop.journal ∧
      (loop.trigger task outcome hook).turn = loop.turn := by
  unfold trigger
  split <;> simp

@[simp] theorem addHook_keeps (task : TaskId) (hook : Hook) :
    (loop.addHook task hook).service = loop.service ∧
      (loop.addHook task hook).caches = loop.caches ∧
      (loop.addHook task hook).journal = loop.journal ∧ (loop.addHook task hook).turn =
        loop.turn := by
  unfold addHook
  split <;> simp

@[simp] theorem cancel_keeps (task : TaskId) :
    (loop.cancel task).service = loop.service ∧ (loop.cancel task).caches = loop.caches ∧
      (loop.cancel task).journal = loop.journal ∧ (loop.cancel task).turn = loop.turn := by
  unfold cancel
  split <;> simp

@[simp] theorem cancelErrand_keeps (task : TaskId) :
    (loop.cancelErrand task).service = loop.service ∧
      (loop.cancelErrand task).caches = loop.caches ∧
      (loop.cancelErrand task).journal = loop.journal ∧ (loop.cancelErrand task).turn =
        loop.turn := by
  unfold cancelErrand
  split <;> simp

/-- What each of several changes keeps is kept by all of them. -/
theorem foldl_keeps {kind part : Type} (view : Loop S → part) (change : Loop S → kind → Loop S)
    (same : ∀ loop item, view (change loop item) = view loop) (items : List kind) (loop : Loop S) :
    view (items.foldl change loop) = view loop :=
  @foldl_relates (Loop S) kind (fun before after => view after = view before) (fun _ => rfl)
    (fun first second => second.trans first) change same items loop

@[simp] theorem finish_keeps (task : TaskId) (outcome : Outcome Answer) :
    (loop.finish task outcome).service = loop.service ∧
      (loop.finish task outcome).caches = loop.caches ∧
      (loop.finish task outcome).journal = loop.journal ∧
      (loop.finish task outcome).turn = loop.turn := by
  unfold finish
  refine ⟨?_, ?_, ?_, ?_⟩
  · rw [foldl_keeps (·.service) _ (by simp)]
    simp
  · rw [foldl_keeps (·.caches) _ (by simp)]
    simp
  · rw [foldl_keeps (·.journal) _ (by simp)]
    simp
  · rw [foldl_keeps (·.turn) _ (by simp)]
    simp

@[simp] theorem release_keeps (wanted : S.Point → Bool) (reply : S.Reply) :
    (loop.release wanted reply).service = loop.service ∧
      (loop.release wanted reply).caches = loop.caches ∧
      (loop.release wanted reply).journal = loop.journal ∧
      (loop.release wanted reply).turn = loop.turn := by
  unfold release
  refine ⟨?_, ?_, ?_, ?_⟩
  · exact foldl_keeps (·.service) _ (by simp) _ _
  · exact foldl_keeps (·.caches) _ (by simp) _ _
  · exact foldl_keeps (·.journal) _ (by simp) _ _
  · exact foldl_keeps (·.turn) _ (by simp) _ _

@[simp] theorem ring_keeps :
    (loop.ring).service = loop.service ∧ (loop.ring).caches = loop.caches ∧
      (loop.ring).journal = loop.journal ∧ (loop.ring).turn = loop.turn := by
  unfold ring
  refine ⟨?_, ?_, ?_, ?_⟩
  · exact foldl_keeps (·.service) _ (by simp) _ _
  · exact foldl_keeps (·.caches) _ (by simp) _ _
  · exact foldl_keeps (·.journal) _ (by simp) _ _
  · exact foldl_keeps (·.turn) _ (by simp) _ _

@[simp] theorem suspend_keeps (task : TaskId) (on : Await) :
    (loop.suspend task on).service = loop.service ∧ (loop.suspend task on).caches = loop.caches ∧
      (loop.suspend task on).journal = loop.journal ∧ (loop.suspend task on).turn = loop.turn := by
  unfold suspend
  split
  · split <;> simp
  · simp

@[simp] theorem countDown_keeps (task : TaskId) :
    (loop.countDown task).service = loop.service ∧ (loop.countDown task).caches = loop.caches ∧
      (loop.countDown task).journal = loop.journal ∧ (loop.countDown task).turn = loop.turn := by
  unfold countDown
  split
  · split <;> simp
  · simp

/-- How a turn ends changes nothing but tasks and the turn. -/
@[simp] theorem move_keeps (task : TaskId) (rest : List (Frame S.Point)) (way : Move S.Point) :
    (loop.move task rest way).service = loop.service ∧
      (loop.move task rest way).caches = loop.caches ∧
      (loop.move task rest way).journal = loop.journal := by
  unfold move
  split
  · simp
  · simp
  · simp
  · split <;> simp

/-! ## Work for caches -/

@[simp] theorem post_keeps (cache : CacheId) (item : Item) :
    (loop.post cache item).service = loop.service ∧
      (loop.post cache item).journal = loop.journal ∧ (loop.post cache item).turn = loop.turn := by
  unfold post
  split
  · simp
  · dsimp only
    split <;> simp

@[simp] theorem refresh_keeps (cache : CacheId) :
    (loop.refresh cache).service = loop.service ∧ (loop.refresh cache).journal = loop.journal ∧
      (loop.refresh cache).turn = loop.turn := by
  unfold refresh
  split <;> simp

@[simp] theorem linkChanged_keeps (cache : CacheId) (link : Link) :
    (loop.linkChanged cache link).service = loop.service ∧
      (loop.linkChanged cache link).turn = loop.turn := by
  unfold linkChanged
  split
  · simp
  · dsimp only
    split <;> simp

/-! ## Releases from outside -/

/-- Why a task goes on that is released in a way. -/
def wakeOf {Reply : Type} : Release Reply → Wake Reply
  | .reply reply => .reply reply
  | .cancel => .cancelled

/-- One release wakes at most one task. -/
theorem releaseOne_eq (release : Release S.Reply) (ticket : Nat) :
    (loop.releaseOne release ticket).1 = loop ∨
      ∃ task, (loop.releaseOne release ticket).1 = loop.wake task (wakeOf release) := by
  unfold releaseOne
  split
  · exact .inl rfl
  · next held _ =>
    split
    · exact .inr ⟨held.task, rfl⟩
    · dsimp only
      split
      · split
        · exact .inr ⟨held.task, rfl⟩
        · exact .inl rfl
      · exact .inr ⟨held.task, rfl⟩

/-- What each such wake keeps is kept by any number of releases. -/
theorem releaseAll_keeps {holds : Loop S → Prop} (release : Release S.Reply)
    (kept : ∀ loop task, holds loop → holds (loop.wake task (wakeOf release)))
    (tickets : List Nat) (start : holds loop) : holds (loop.releaseAll release tickets).1 := by
  induction tickets generalizing loop with
  | nil => exact start
  | cons ticket rest step =>
    have first : holds (loop.releaseOne release ticket).1 := by
      rcases releaseOne_eq loop release ticket with same | ⟨task, woken⟩
      · rwa [same]
      · rw [woken]
        exact kept loop task start
    exact step _ first

/-! ## Steps -/

/-- The loop while a frame has its turn. -/
def inTurn : Loop S := { loop with turn := none }

/-- The state after a frame has had its turn, which ended with a state and a way to go on. -/
def afterTurn (task : TaskId) (frame : Frame S.Point) (rest : List (Frame S.Point))
    (turn : Turn S) : Loop S :=
  (turn.1.noteEnd task frame turn.2).move task rest turn.2

/-- A task has its turn, at the first of its frames. -/
structure IsAt (task : TaskId) (wake : Wake S.Reply) (frame : Frame S.Point)
    (rest : List (Frame S.Point)) : Prop where
  turn : loop.turn = some (task, wake)
  frames : (loop.tasks[task]?).map (·.frames) = some (frame :: rest)

/-- What a step is. -/
inductive IsStep : Loop S → Prop
  /-- The first frame of the task that has its turn goes on. -/
  | turn {task : TaskId} {wake : Wake S.Reply} {frame : Frame S.Point}
      {rest : List (Frame S.Point)} (isAt : loop.IsAt task wake frame rest) :
      IsStep (afterTurn task frame rest (loop.inTurn.frameTurn task frame wake))
  /-- There is nothing to go on with. -/
  | pause {task : TaskId} {wake : Wake S.Reply} (turn : loop.turn = some (task, wake))
      (isOver : ∀ frame rest, (loop.tasks[task]?).map (·.frames) ≠ some (frame :: rest)) :
      IsStep loop.inTurn
  /-- The first job is begun. -/
  | job {job : Job} {ready : List Job} (turn : loop.turn = none)
      (isFirst : loop.ready = job :: ready) : IsStep ({ loop with ready }.start job)
  /-- There is nothing to do. -/
  | rest (turn : loop.turn = none) : IsStep loop

theorem step_isStep : loop.IsStep loop.step := by
  unfold step
  split
  · next task wake turn =>
    unfold goOn
    dsimp only
    split
    · next frame rest frames => exact .turn ⟨turn, frames⟩
    · next isOver => exact .pause turn fun frame rest frames => isOver frame rest frames
  · next turn =>
    split
    · exact .rest turn
    · next job ready isFirst => exact .job turn isFirst

end Loop

end WatchedNode
