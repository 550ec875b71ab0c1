/-
**The record of requests, answers and views.**

What is written down of a cache's requests and views makes up its record: that it was asked, that a
call has ended, and that a view was installed. A task that has asked something for a cache, and
whose call has not ended, has posed that request (`posed?`); the end of the call is its answer
(`answersTo`).

* `Shows`: a frame that has its turn goes on with an answer that says how the node of its cache is;
* `Adds`: a frame's turn writes nothing into the record, or that one request was made, or that one
  view was installed, and then it goes on with an answer that tells just that;
* `Happens.turns`: nothing else adds to the record, but the end of a call does.
-/
import WatchedNode.Proofs.Closing
import WatchedNode.Proofs.Loop.Grain

namespace WatchedNode

open Relation

variable {S : Service}

/-! ## Entries -/

namespace Entry

variable {Call : Type}

/-- The entry is about a request of a cache, the end of a call, or a new view. -/
def isRecorded : Entry Call → Bool
  | .asked .. | .installed .. | .left _ .call _ => true
  | _ => false

/-- The entry is about a call of that task. -/
def isCallOf (task : TaskId) : Entry Call → Bool
  | .asked _ asker _ => asker = task
  | .left caller .call _ => caller = task
  | _ => false

/-- The request that was made, and the cache for which it was. -/
def request? : Entry Call → Option (CacheId × Request)
  | .asked cache _ request => some (cache, request)
  | _ => none

/-- The view that a cache has got. -/
def view? (cache : CacheId) : Entry Call → Option Snapshot
  | .installed owner data _ => if owner = cache then some data else none
  | _ => none

theorem not_isRecorded_of_isReport {entry : Entry Call} (isReport : entry.isReport) :
    entry.isRecorded = false := by
  cases entry <;> first | rfl | exact absurd isReport Bool.noConfusion

theorem isRecorded_of_view {entry : Entry Call} {cache : CacheId} {data : Snapshot}
    (view : entry.view? cache = some data) : entry.isRecorded = true ∧ entry.isNotice = true := by
  cases entry <;> first | exact ⟨rfl, rfl⟩ | cases view

theorem isRecorded_of_asked {entry : Entry Call} {cache : CacheId} {request : Request}
    (asked : entry.asked? cache = some request) : entry.isRecorded = true := by
  cases entry <;> first | rfl | cases asked

end Entry

section Calls

variable {Call : Type}

/-- What a task has asked, and has no answer to; the latest entry comes first. -/
def posed? (task : TaskId) (entries : List (Entry Call)) : Option (CacheId × Request) :=
  (entries.find? (Entry.isCallOf task)).bind Entry.request?

/-- The answer that is written down to a request of a cache. -/
def Entry.answerTo? (cache : CacheId) (older : List (Entry Call)) : Entry Call →
    Option (Request × Outcome Answer)
  | .left task .call outcome =>
    (posed? task older).bind fun (owner, request) =>
      if owner = cache then some (request, outcome) else none
  | _ => none

/-- The requests of a cache that have been answered, with the answers; the latest entry comes
first. -/
def answersTo (cache : CacheId) : List (Entry Call) → List (Request × Outcome Answer)
  | [] => []
  | entry :: older => (entry.answerTo? cache older).toList ++ answersTo cache older

variable {entry : Entry Call} {older : List (Entry Call)} {cache : CacheId} {task : TaskId}

/-- What is written of the calls of others leaves a task with what it has asked. -/
theorem posed_of_other (isOther : entry.isCallOf task = false) :
    posed? task (entry :: older) = posed? task older := by
  rw [posed?, List.find?_cons_of_neg (by simp [isOther]), posed?]

theorem posed_asked (request : Request) :
    posed? task (.asked cache task request :: older) = some (cache, request) := by
  rw [posed?, List.find?_cons_of_pos (by simp [Entry.isCallOf])]
  rfl

/-- Answers stay. -/
theorem answersTo_cons {answer : Request × Outcome Answer}
    (answered : answer ∈ answersTo cache older) :
    answer ∈ answersTo cache (entry :: older) := List.mem_append_right _ answered

/-- The end of a call is the answer to what its task has asked. -/
theorem answersTo_left {request : Request} (posed : posed? task older = some (cache, request))
    (outcome : Outcome Answer) :
    (request, outcome) ∈ answersTo cache (.left task .call outcome :: older) := by
  refine List.mem_append_left _ ?_
  rw [Entry.answerTo?, posed]
  simp

end Calls

namespace Loop

/-- What is recorded, the latest first. -/
def record (loop : Loop S) : List (Entry S.Call) := loop.journal.filter Entry.isRecorded

/-- The views that a cache has got, the latest first. -/
def viewsOf (cache : CacheId) (loop : Loop S) : List Snapshot :=
  loop.record.filterMap (Entry.view? cache)

variable {before after loop : Loop S} {cache : CacheId}

/-! ## The record -/

theorem record_of_journal (journal : after.journal = before.journal) :
    after.record = before.record := by
  rw [record, journal, record]

/-- What somebody is told is not recorded. -/
theorem Writes.record (writes : Writes (fun entry => entry.isReport) before after) :
    after.record = before.record := by
  obtain ⟨entries, journal, areReports⟩ := writes
  have none : entries.filter Entry.isRecorded = [] :=
    List.filter_eq_nil_iff.mpr fun entry member => by
    simp [Entry.not_isRecorded_of_isReport (areReports entry member)]
  rw [Loop.record, journal, List.filter_append, none, List.nil_append, Loop.record]

theorem note_record (entry : Entry S.Call) (loop : Loop S) :
    (loop.note entry).record = if entry.isRecorded then entry :: loop.record else loop.record := by
  simp only [record, note_journal, List.filter_cons]

/-- What is made of recorded entries can be made of the record. -/
theorem filterMap_record {kind : Type} (part : Entry S.Call → Option kind)
    (isRecorded : ∀ entry result, part entry = some result → entry.isRecorded = true)
    (loop : Loop S) :
    loop.record.filterMap part = loop.journal.filterMap part := by
  rw [record, List.filterMap_filter]
  refine List.filterMap_congr fun entry _ => ?_
  cases made : part entry with
  | none => simp
  | some result => simp [isRecorded entry result made]

theorem requestsOf_record (cache : CacheId) (loop : Loop S) :
    loop.requestsOf cache = loop.record.filterMap (Entry.asked? cache) :=
  (filterMap_record _ (fun _ _ => Entry.isRecorded_of_asked) loop).symm

/-- The views that a cache has got are written in the notices, too. -/
theorem viewsOf_notices (cache : CacheId) (loop : Loop S) :
    loop.viewsOf cache = (loop.notices.filterMap (Entry.view? cache)).reverse := by
  have noticed : (loop.journal.filter Entry.isNotice).filterMap (Entry.view? cache) =
      loop.journal.filterMap (Entry.view? cache) := by
    rw [List.filterMap_filter]
    refine List.filterMap_congr fun entry _ => ?_
    cases view : entry.view? cache with
    | none => simp
    | some data => simp [(Entry.isRecorded_of_view view).2]
  rw [viewsOf, filterMap_record _ (fun _ _ view => (Entry.isRecorded_of_view view).1) loop, notices,
    List.filterMap_reverse, List.reverse_reverse, noticed]

/-- Calls of monitors are not recorded. -/
theorem notify_record (cache : CacheId) (loop : Loop S) :
    (loop.notify cache).record = loop.record := by
  have bustled : ∀ {before after : Loop S}, Bustle before after → after.record = before.record := by
    intro before after bustle
    cases bustle with
    | stir stir => exact stir.writes.record
    | call cache monitor => exact note_record _ before
  have all : ∀ {after : Loop S}, Bustles loop after → after.record = loop.record := by
    intro after bustles
    induction bustles with
    | refl => rfl
    | tail _ bustle same => exact (bustled bustle).trans same
  exact all (notify_bustles cache loop)

theorem setData_record (cache : CacheId) (data : Snapshot) (isSilent : Bool) (loop : Loop S) :
    (loop.setData cache data isSilent).record = .installed cache data isSilent :: loop.record :=
  note_record _ (loop.modifyCache cache _)

theorem install_record (cache : CacheId) (data : Snapshot) (loop : Loop S) :
    (loop.install cache data).record = .installed cache data false :: loop.record := by
  unfold install
  dsimp only
  split
  · exact setData_record cache data false loop
  · exact (notify_record cache _).trans (setData_record cache data false loop)

theorem refresh_record (cache : CacheId) (loop : Loop S) :
    (loop.refresh cache).record = loop.record :=
  record_of_journal (refresh_keeps loop cache).2.1

theorem itemDone_record (cache : CacheId) (loop : Loop S) :
    (loop.itemDone cache).record = loop.record :=
  (Stirs.writes (itemDone_stirs loop cache)).record

theorem ask_record {known : Cache} (found : loop.caches[cache]? = some known) (query : Query) :
    (loop.ask cache query).record =
      .asked cache loop.tasks.length (queryRequest cache known query) :: loop.record := by
  rw [ask_eq query found]
  refine (record_of_journal (addHook_keeps _ _ _).2.2.1).trans ?_
  exact note_record (.asked cache loop.tasks.length (queryRequest cache known query)) loop

end Loop

/-! ## What a frame's turn adds -/

/-- The frame goes on when another one has ended, which it calls. -/
def Move.isCall {Point : Type} : Move Point → Prop
  | .call .. => True
  | _ => False

/-- The frame goes on with what a read of its cache has ended in. -/
def Frame.reads {Point : Type} (cache : CacheId) : Frame Point → Prop
  | .worker owner .resyncing | .start owner _ .reading | .rebuild owner true => owner = cache
  | _ => False

namespace Loop

/-- A frame of a cache goes on with an answer that says how the node is: a look has ended and there
was none, a fetch has returned what the node holds, or so has a read, or there was none. -/
inductive Shows (cache : CacheId) (known : Cache) : Frame S.Point → Wake S.Reply → Snapshot → Prop
  | looked {wake : Wake S.Reply} {answer : Answer} {rest : Backlog}
      (isFirst : known.backlog.bind Backlog.take? = some (.looked (.returned answer), rest))
      (isNone : answer.stat? = none) :
      Shows cache known (.worker cache .taking) wake (.absent known.path)
  | fetched {wake : Wake S.Reply} {answer : Answer} {data : Snapshot} {rest : Backlog}
      (isFirst : known.backlog.bind Backlog.take? = some (.fetched (.returned answer), rest))
      (made : Snapshot.make known.path answer.parts.2 answer.parts.1 = .ok data) :
      Shows cache known (.worker cache .taking) wake data
  | read {frame : Frame S.Point} {outcome : Outcome Answer} {data : Snapshot}
      (reads : frame.reads cache) (meant : known.reading outcome = .returned data) :
      Shows cache known frame (.ended outcome) data

/-- What a frame's turn adds to the record. -/
inductive Adds (self : TaskId) (loop : Loop S) : Frame S.Point → Wake S.Reply → Turn S → Prop
  | nothing {frame : Frame S.Point} {wake : Wake S.Reply} {turn : Turn S}
      (record : turn.1.record = loop.record)
      (noCall : ∀ cache caller callee, turn.2 = .call caller callee → ¬ caller.reads cache) :
      Adds self loop frame wake turn
  /-- A cache begins to run, and asks for its directories. -/
  | begins {cache : CacheId} {known : Cache} {buildInitial : Bool} {wake : Wake S.Reply}
      {turn : Turn S} (found : loop.caches[cache]? = some known) (isLatent : known.phase = .latent)
      (record : turn.1.record = .asked cache self (.ensure known.path true) :: loop.record)
      (way :
        turn.2 =
          .call (.start cache buildInitial .ensuring)
            (requestFrame known (.ensure known.path true))) :
      Adds self loop (.start cache buildInitial .beginning) wake turn
  /-- The node is read. -/
  | reads {cache : CacheId} {known : Cache} {frame caller : Frame S.Point} {wake : Wake S.Reply}
      {turn : Turn S} (found : loop.caches[cache]? = some known) (reads : caller.reads cache)
      (hasBegun : known.phase = .started ∨ frame.isUnderWay cache ∨ known.backlog ≠ none)
      (record : turn.1.record = .asked cache self (readRequest known) :: loop.record)
      (way : turn.2 = .call caller (requestFrame known (readRequest known))) :
      Adds self loop frame wake turn
  /-- The worker of a cache asks something in the background. -/
  | asks {cache : CacheId} {known : Cache} {query : Query} {item : Item} {rest : Backlog}
      {wake : Wake S.Reply} {turn : Turn S} (found : loop.caches[cache]? = some known)
      (runs : known.phase = .started)
      (isFirst : known.backlog.bind Backlog.take? = some (item, rest))
      (isNext : item.query? = some query) (record : turn.1.record =
        .asked cache loop.tasks.length (queryRequest cache known query) :: loop.record)
      (way : turn.2 = .goOn (.worker cache .taking)) :
      Adds self loop (.worker cache .taking) wake turn
  /-- A cache sees how its node is. -/
  | sees {cache : CacheId} {known : Cache} {frame : Frame S.Point} {wake : Wake S.Reply}
      {turn : Turn S} {data : Snapshot} {isSilent : Bool} (found : loop.caches[cache]? = some known)
      (runs : known.phase = .started) (shows : Shows cache known frame wake data)
      (record : turn.1.record = .installed cache data isSilent :: loop.record)
      (noCall : ¬ turn.2.isCall) : Adds self loop frame wake turn

theorem Adds.quiet {self : TaskId} {frame : Frame S.Point} {wake : Wake S.Reply} {turn : Turn S}
    (record : turn.1.record = loop.record) (noCall : ¬ turn.2.isCall) :
    Adds self loop frame wake turn := .nothing record fun _ _ _ same =>
      (noCall (by rw [same]; trivial)).elim

section Turns

variable {known : Cache} (self : TaskId) (wake : Wake S.Reply)

/-- A frame that is no work of a cache's own does not read. -/
theorem frameTurn_reads (loop : Loop S) {frame : Frame S.Point} (isOther : ¬ frame.isOwnWork)
    {owner : CacheId} {caller callee : Frame S.Point}
    (calls : (loop.frameTurn self frame wake).2 = Move.call caller callee) :
    ¬ caller.reads owner := by
  intro reads
  have follows := frameTurn_follows self frame wake loop
  rw [calls] at follows
  cases follows with
  | call same awaits isFirst begins =>
    cases caller <;> first | exact reads.elim | skip
    all_goals cases frame <;> cases same
    all_goals exact isOther trivial

theorem check_adds {rest : Backlog} (found : loop.caches[cache]? = some known)
    (isFirst : known.backlog.bind Backlog.take? = some (.check, rest)) :
    Adds self loop (.worker cache .taking) wake
      (((loop.setBacklog cache rest).check cache).itemDone cache,
        .goOn (.worker cache .taking)) := by
  have found' :
      (loop.setBacklog cache rest).caches[cache]? = some { known with backlog := some rest } :=
    modifyCache_self found _
  unfold check
  rw [found', Option.any_some]
  split
  · next isActive =>
    have runs : known.phase = .started := of_decide_eq_true (Bool.and_eq_true_iff.mp isActive).1
    exact .asks found runs isFirst rfl
      ((itemDone_record cache _).trans (ask_record found' .look)) rfl
  · exact .quiet (itemDone_record cache _) id

theorem looked_adds {rest : Backlog} {outcome : Outcome Answer}
    (found : loop.caches[cache]? = some known)
    (isFirst : known.backlog.bind Backlog.take? = some (.looked outcome, rest)) :
    Adds self loop (.worker cache .taking) wake
      (((loop.setBacklog cache rest).looked cache outcome).itemDone cache,
        .goOn (.worker cache .taking)) := by
  have found' :
      (loop.setBacklog cache rest).caches[cache]? = some { known with backlog := some rest } :=
    modifyCache_self found _
  have quiet : ∀ {after : Loop S}, after.record = loop.record →
      Adds self loop (.worker cache .taking) wake (after.itemDone cache,
        .goOn (.worker cache .taking)) :=
    fun same => .quiet ((itemDone_record cache _).trans same) id
  unfold looked
  rw [found']
  dsimp only
  split
  · exact quiet rfl
  · next isRunning =>
    have runs : known.phase = .started := Cache.phase_of_isRunning isRunning
    split
    · exact quiet rfl
    · exact quiet (note_record _ _)
    · next answer =>
      split
      · next isNone =>
        exact .sees found runs (.looked isFirst isNone)
          ((itemDone_record cache _).trans (install_record cache _ _)) id
      · next stat isThere =>
        have isNext : (Item.looked (.returned answer)).query? = some .fetch := by
          simp [Item.query?, isThere]
        exact .asks found runs isFirst isNext
          ((itemDone_record cache _).trans (ask_record found' .fetch)) rfl

theorem fetched_adds {rest : Backlog} {outcome : Outcome Answer}
    (found : loop.caches[cache]? = some known)
    (isFirst : known.backlog.bind Backlog.take? = some (.fetched outcome, rest)) :
    Adds self loop (.worker cache .taking) wake
      (((loop.setBacklog cache rest).fetched cache outcome).itemDone cache,
        .goOn (.worker cache .taking)) := by
  have found' :
      (loop.setBacklog cache rest).caches[cache]? = some { known with backlog := some rest } :=
    modifyCache_self found _
  have quiet : ∀ {after : Loop S}, after.record = loop.record →
      Adds self loop (.worker cache .taking) wake (after.itemDone cache,
        .goOn (.worker cache .taking)) :=
    fun same => .quiet ((itemDone_record cache _).trans same) id
  unfold fetched
  rw [found']
  dsimp only
  split
  · exact quiet rfl
  · next isRunning =>
    split
    · exact quiet rfl
    · split
      · exact quiet rfl
      · exact quiet (note_record _ _)
    · split
      · next data made =>
        exact .sees found (Cache.phase_of_isRunning isRunning) (.fetched isFirst made)
          ((itemDone_record cache _).trans (install_record cache _ _)) id
      · exact quiet (note_record _ _)

theorem workerTurn_adds (stage : WorkerStage) (found : loop.caches[cache]? = some known) :
    Adds self loop (.worker cache stage) wake (loop.workerTurn self cache known stage wake) := by
  unfold workerTurn
  split
  · exact .quiet rfl id
  · split
    · exact .quiet rfl id
    · next item rest isFirst =>
      unfold work
      split
      · exact .quiet (itemDone_record cache _) id
      · exact check_adds self wake found isFirst
      · exact looked_adds self wake found isFirst
      · exact fetched_adds self wake found isFirst
      · refine .reads found
          (show (Frame.worker cache .resyncing : Frame S.Point).reads cache from rfl)
          (.inr (.inr fun isNone => ?_)) (note_record _ _) rfl
        rw [isNone] at isFirst
        cases isFirst
  · next outcome =>
    have ended : ∀ {way : Move S.Point}, ¬ way.isCall →
        Adds self loop (.worker cache .resyncing) (.ended outcome)
          ((loop.resynced cache (known.reading outcome)).itemDone cache, way) := by
      intro way noCall
      unfold resynced
      rw [found]
      dsimp only
      split
      · exact .quiet (itemDone_record cache _) noCall
      · refine .quiet
          ((itemDone_record cache _).trans ((refresh_record cache _).trans (note_record _ _)))
            noCall
      · next data meant =>
        split
        · next runs =>
          exact .sees found (of_decide_eq_true runs) (.read rfl meant)
            ((itemDone_record cache _).trans
            ((refresh_record cache _).trans (install_record cache data loop))) noCall
        · exact .quiet ((itemDone_record cache _).trans (refresh_record cache _)) noCall
    dsimp only
    split
    · exact ended id
    · exact ended id
  · exact .quiet (itemDone_record cache _) id

theorem rebuilt_adds {frame : Frame S.Point} {outcome : Outcome Answer}
    (found : loop.caches[cache]? = some known) (reads : frame.reads cache) :
    Adds self loop frame (.ended outcome) (loop.rebuilt cache known outcome) := by
  unfold rebuilt
  split
  · next data meant =>
    split
    · next runs =>
      exact .sees found (of_decide_eq_true runs) (.read reads meant)
        ((refresh_record cache _).trans (setData_record cache data true loop)) id
    · exact .quiet (refresh_record cache _) id
  · exact .quiet rfl id
  · exact .quiet rfl id

theorem startTurn_adds (buildInitial : Bool) (stage : StartStage)
    (found : loop.caches[cache]? = some known) :
    Adds self loop (.start cache buildInitial stage) wake
      (loop.startTurn self cache known buildInitial stage wake) := by
  have ends : ∀ {stage wake} outcome,
      Adds self loop (.start cache buildInitial stage) wake (loop, .finish outcome) :=
    fun _ => .quiet rfl id
  cases stage with
  | beginning =>
    by_cases isCancelled : wake = .cancelled
    · subst isCancelled
      exact ends .cancelled
    · rw [startTurn_beginning self cache known buildInitial isCancelled]
      split
      · next isLatent => exact .begins found isLatent (note_record _ (loop.begin cache)) rfl
      · exact ends _
  | ensuring =>
    cases wake with
    | ended outcome =>
      cases outcome with
      | returned answer =>
        unfold startTurn
        dsimp only
        split
        · exact .reads found
            (show (Frame.start cache buildInitial .reading : Frame S.Point).reads cache from rfl)
            (.inr (.inl ⟨rfl, StartStage.noConfusion⟩)) (note_record _ _) rfl
        · exact .quiet (refresh_record cache _) id
      | _ => exact ends _
    | _ => exact ends _
  | reading =>
    cases wake with
    | ended outcome => exact rebuilt_adds self found rfl
    | _ => exact ends _

theorem rebuildTurn_adds (isReading : Bool) (found : loop.caches[cache]? = some known) :
    Adds self loop (.rebuild cache isReading) wake
      (loop.rebuildTurn self cache known isReading wake) := by
  unfold rebuildTurn
  split
  · split
    · next runs =>
      exact .reads found (show (Frame.rebuild cache true : Frame S.Point).reads cache from rfl)
        (.inl (of_decide_eq_true runs)) (note_record _ _) rfl
    · exact .quiet rfl id
  · exact rebuilt_adds self found rfl
  · exact .quiet rfl id

/-- The turn of a call of the service is not recorded. -/
theorem serviceTurn_record (loop : Loop S) (point : S.Point) :
    (loop.serviceTurn self point wake).1.record = loop.record := by
  obtain ⟨tickets, alarms, same⟩ := serviceTurn_loop loop self point wake
  have written :
      (loop.serviceTurn self point wake).1.record = (loop.react self point wake).record := by
    rw [same]
    rfl
  exact written.trans (react_writes self point wake loop).record

/-- **A frame's turn adds at most one entry to the record.** -/
theorem frameTurn_adds (loop : Loop S) (frame : Frame S.Point) :
    Adds self loop frame wake (loop.frameTurn self frame wake) := by
  have gone : ∀ {frame : Frame S.Point}, Adds self loop frame wake (loop, .finish .cancelled) :=
    .quiet rfl id
  by_cases isOwn : frame.isOwnWork
  · cases frame with
    | worker owner stage =>
      unfold frameTurn
      dsimp only
      split
      · next found => exact workerTurn_adds self wake stage found
      · exact gone
    | start owner buildInitial stage =>
      unfold frameTurn
      dsimp only
      split
      · next found => exact startTurn_adds self wake buildInitial stage found
      · exact gone
    | rebuild owner isReading =>
      unfold frameTurn
      dsimp only
      split
      · next found => exact rebuildTurn_adds self wake isReading found
      · exact gone
    | _ => exact isOwn.elim
  · refine .nothing ?_ fun _ _ _ => frameTurn_reads self wake loop isOwn
    by_cases isCall : frame.isService
    · cases frame with
      | service point => exact serviceTurn_record self wake loop point
      | _ => exact isCall.elim
    · exact (Stirs.writes (frameTurn_stirs loop self frame wake isOwn isCall)).record

end Turns

/-! ## Everything that happens -/

/-- After a turn it is recorded if a call has ended. -/
theorem afterTurn_record (task : TaskId) (frame : Frame S.Point) (rest : List (Frame S.Point))
    (turn : Turn S) :
    (afterTurn task frame rest turn).record = match turn.2 with
      | .finish outcome =>
        if frame.isService then .left task .call outcome :: turn.1.record else turn.1.record
      | _ => turn.1.record := by
  have moved :=
    record_of_journal (move_keeps (turn.1.noteEnd task frame turn.2) task rest turn.2).2.2
  refine moved.trans ?_
  obtain ⟨loop, way⟩ := turn
  cases way with
  | finish outcome =>
    refine (note_record _ loop).trans ?_
    cases frame <;> rfl
  | _ => rfl

theorem start_record (job : Job) (loop : Loop S) : (loop.start job).record = loop.record := by
  cases job with
  | resume task =>
    unfold Loop.start
    dsimp only
    split
    · exact record_of_journal (setStatus_keeps loop task .running).2.2.1
    · exact record_of_journal (setStatus_keeps loop task .running).2.2.1
    · exact record_of_journal (finish_keeps loop task .cancelled).2.2.1
    · rfl
  | hook hook task =>
    unfold Loop.start
    dsimp only
    split
    · next outcome ended =>
      cases hook with
      | answered cache query =>
        show (loop.answered cache query task outcome).record = loop.record
        unfold answered
        dsimp only
        split
        · exact record_of_journal (post_keeps _ _ _).2.1
        · rfl
      | _ =>
        exact (Stirs.writes (runHook_stirs loop _ task outcome fun _ _ same => by
          cases same)).record
    · rfl

/-- Users of caches record nothing. -/
theorem command_record (loop : Loop S) (command : Command S) (isMomentary : command.isMomentary)
    (isPublic : command.isPublic) : (loop.command command).1.record = loop.record := by
  have isOrder := command_isOrder loop command isMomentary
  generalize (loop.command command).1 = after at isOrder ⊢
  cases isOrder with
  | stirs stirs => exact (Stirs.writes stirs).record
  | call stirs point => exact (Stirs.writes stirs).record
  | release tickets release same =>
    have kept (loop' : Loop S) (task : TaskId) (same : loop'.record = loop.record) :
        (loop'.wake task (wakeOf release)).record = loop.record :=
      (record_of_journal (wake_keeps _ _ _).2.2.1).trans same
    exact releaseAll_keeps loop release kept tickets rfl
  | install name cache path stat data same =>
    subst same
    exact isPublic.elim

/-- **Only turns add to the record**, whatever users of caches do. -/
theorem Happens.turns (happens : Happens published before after) :
    after.record = before.record ∨ ∃ task wake frame rest, before.IsAt task wake frame rest ∧
      after = afterTurn task frame rest (before.inTurn.frameTurn task frame wake) := by
  cases happens with
  | step =>
    have step := step_isStep before
    generalize before.step = after at step
    cases step with
    | turn isAt => exact .inr ⟨_, _, _, _, isAt, rfl⟩
    | pause turn isOver => exact .inl rfl
    | job turn isFirst => exact .inl (start_record _ _)
    | rest turn => exact .inl rfl
  | command command isBetween isMomentary isAllowed =>
    exact .inl (command_record before command isMomentary isAllowed)
  | elapse time => exact .inl rfl
  | ring => exact .inl (record_of_journal (ring_keeps before).2.2.1)
  | decide scripts habits => exact .inl rfl

end Loop

end WatchedNode
