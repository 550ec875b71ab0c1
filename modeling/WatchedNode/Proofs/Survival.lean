/-
**The worker of a cache survives.**

A worker deals with whatever the requests of its cache end in, and goes on, but for one case: the
read that it makes itself after a loss of the connection is cancelled. Then it ends, although the
cache runs (`survives_iff`), and who closes the cache after that fails (`ends_when_cancelled`). Else
it is at work (`IsAtWork`): it waits for an item, and there is none, or it is to have its turn, or
it waits for its read.
-/
import WatchedNode.Proofs.Loop.Workers
import WatchedNode.Proofs.Agreement
import WatchedNode.Proofs.Loop.Lull

namespace WatchedNode.Loop

open Relation

variable {S : Service} {allowed : Outside S} {before after last : Loop S} {cache : CacheId}
  {worker : TaskId}

/-! ## What is written of calls that others wait for -/

/-- A frame goes on after what it has called as soon as that has ended, which has been written
down. -/
def EndsAreWritten (loop : Loop S) : Prop :=
  ∀ (task : TaskId) (known : Task S) (frame : Frame S.Point) (rest : List (Frame S.Point)),
    loop.tasks[task]? = some known → known.frames = frame :: rest → frame.isCalling →
      ∃ outcome activity, loop.turn = some (task, .ended outcome) ∧ frame.awaits activity ∧
        .left task activity outcome ∈ loop.journal

theorem Happens.endsAreWritten (happens : Happens allowed before after)
    (areStacked : before.AreStacked) (endsAreWritten : before.EndsAreWritten) :
    after.EndsAreWritten := by
  intro task known frame rest found frames isCalling
  cases happens.inherits found with
  | new unknown single enters isNew =>
    cases frames.symm.trans single
    exact absurd isCalling (Frame.not_isCalling enters.isFirst)
  | doomed earlier role was bare => cases frames.symm.trans bare
  | @kept old earlier role same steady =>
    have frames := same.symm.trans frames
    obtain ⟨outcome, activity, turn, awaits, written⟩ :=
      endsAreWritten task old frame rest earlier frames isCalling
    have isAt : before.IsAt task (.ended outcome) frame rest :=
      ⟨turn, by rw [earlier, Option.map_some, frames]⟩
    exact ⟨outcome, activity, (steady _ _ _ isAt).trans turn, awaits, happens.written written⟩
  | @turn old wake first below earlier role isAt same left =>
    have isStack := areStacked.isAt isAt
    have follows := frameTurn_follows task first wake before.inTurn
    rw [frames] at left
    have journal := afterTurn_journal task first below (before.inTurn.frameTurn task first wake)
    rw [← same] at journal
    generalize result : before.inTurn.frameTurn task first wake = played
      at follows left journal same
    obtain ⟨middle, way⟩ := played
    -- The frame that is left on top was called before it, so the one above it has come to its end.
    cases follows with
    | goOn _ isFree =>
      cases left
      exact absurd isCalling isFree
    | await _ isFree =>
      cases left
      exact absurd isCalling isFree
    | call _ _ isFirst =>
      cases left
      exact absurd isCalling (Frame.not_isCalling isFirst)
    | finish outcome =>
      obtain rfl : frame :: rest = below := left
      refine ⟨outcome, first.activity, ?_, ?_, ?_⟩
      · rw [same]
        exact afterTurn_turn task first frame rest middle outcome
      · exact (List.isChain_cons_cons.mp isStack).1
      · rw [journal]
        exact List.mem_cons_self

/-! ## Reads that are cancelled -/

/-- The worker has ended, or is about to, as its read was cancelled. -/
def IsLost (cache : CacheId) (worker : TaskId) (loop : Loop S) : Prop :=
  loop.outcome? worker = some .cancelled ∨
    (loop.tasks[worker]?).map (·.frames) = some [.worker cache .resyncing] ∧
      loop.turn = some (worker, .ended .cancelled)

section Reads

variable {duty : Duty} {backlog : Backlog} {task : Task S}

/-- A worker that takes items ends only with the end mark. -/
theorem workerTurn_taking_ends (loop : Loop S) {wake : Wake S.Reply} (isPlain : wake ≠ .cancelled)
    (isThere : loop.duty? cache = some duty) {outcome : Outcome Answer}
    (finishes : (loop.frameTurn worker (.worker cache .taking) wake).2 = .finish outcome) :
    outcome = .returned .nothing := by
  have plays := frameTurn_plays loop worker (.worker cache .taking) wake
  generalize loop.frameTurn worker (.worker cache .taking) wake = played at plays finishes
  cases plays with
  | plain isOther => exact absurd rfl (isOther cache .taking)
  | quits isGone =>
    rcases isGone with isGone | ⟨-, isCancelled⟩
    · rw [duty?, isGone] at isThere
      cases isThere
    · exact absurd isCancelled isPlain
  | idles => cases finishes
  | reads => cases finishes
  | works found isPlain has taken grains either =>
    rcases either with ⟨-, way⟩ | ⟨-, way⟩
    · cases way.symm.trans finishes
      rfl
    · cases way.symm.trans finishes

/-- A worker whose read has ended is cancelled if the read was. -/
theorem workerTurn_resyncing_ends (loop : Loop S) (isThere : loop.duty? cache = some duty)
    (outcome : Outcome Answer) :
    (loop.frameTurn worker (.worker cache .resyncing) (.ended outcome)).2 = .finish .cancelled ↔
      outcome = .cancelled := by
  obtain ⟨known, found, -⟩ := Option.map_eq_some_iff.mp isThere
  have turn : loop.frameTurn worker (.worker cache .resyncing) (.ended outcome) =
      loop.workerTurn worker cache known .resyncing (.ended outcome) := by
    simp only [frameTurn, found]
    rfl
  rw [turn]
  cases outcome with
  | cancelled => simp [workerTurn, Cache.reading]
  | failed error =>
    by_cases isNoNode : error.isNoNode <;> simp [workerTurn, Cache.reading, isNoNode]
  | returned answer =>
    cases result : Snapshot.make known.path answer.parts.2 answer.parts.1 <;>
      simp [workerTurn, Cache.reading, Outcome.ofExcept, result]

/-- A worker whose cancelled read has ended ends in its next turn. -/
theorem Crew.falls (happens : Happens allowed before after)
    (crew : Crew cache duty backlog worker task before) (turnRuns : before.TurnRuns)
    (isAt : before.IsAt worker (.ended .cancelled) (.worker cache .resyncing) []) :
    after.IsLost cache worker := by
  obtain ⟨known, found, -⟩ := happens.remains.roles worker task crew.found
  cases happens.inherits found with
  | new unknown => cases unknown.symm.trans crew.found
  | doomed earlier role was =>
    exact absurd (by rw [status?, earlier, Option.map_some, was]) crew.not_doomed
  | kept earlier role frames steady =>
    refine .inr ⟨?_, (steady _ _ _ isAt).trans isAt.turn⟩
    rw [found, Option.map_some, frames, ← isAt.frames, earlier, Option.map_some]
  | turn earlier role isAt' same left =>
    cases isAt.turn.symm.trans isAt'.turn
    cases Option.some.inj (isAt.frames.symm.trans isAt'.frames)
    have finishes :
        (before.inTurn.frameTurn worker (.worker cache .resyncing) (.ended .cancelled)).2 =
        .finish .cancelled := (workerTurn_resyncing_ends before.inTurn crew.is .cancelled).mpr rfl
    obtain ⟨own, isThere, runs⟩ := Option.map_eq_some_iff.mp (frameTurn_running isAt turnRuns)
    obtain ⟨own', isThere', -, -, ⟨-, isBusy, -⟩ | ⟨next, on, waits, -⟩
      | ⟨outcome, ends, -, ended⟩⟩ :=
      afterTurn_self (.worker cache .resyncing) [] isThere runs
    · rw [finishes] at isBusy
      exact absurd rfl isBusy
    · cases finishes.symm.trans waits
    · cases finishes.symm.trans ends
      rw [← same] at isThere'
      exact .inl (outcome?_eq_some.mpr ⟨own', isThere', by rw [ended]; rfl⟩)

/-- The frames of the worker, which has its turn. -/
theorem Crew.stands (crew : Crew cache duty backlog worker task before) {wake : Wake S.Reply}
    {frame : Frame S.Point} {rest : List (Frame S.Point)}
    (isAt : before.IsAt worker wake frame rest) : task.frames = frame :: rest := by
  have frames := isAt.frames
  rw [crew.found] at frames
  exact Option.some.inj frames

/-- A worker whose read has ended cancelled in this turn is lost. -/
theorem Crew.isLost_of_finish (crew : Crew cache duty backlog worker task before)
    (turnRuns : before.TurnRuns) {wake : Wake S.Reply} {frame : Frame S.Point}
    {rest : List (Frame S.Point)} (isAt : before.IsAt worker wake frame rest)
    (activity : frame.activity = .call)
    (finishes : (before.inTurn.frameTurn worker frame wake).2 = .finish .cancelled)
    (left : after = afterTurn worker frame rest (before.inTurn.frameTurn worker frame wake)) :
    after.IsLost cache worker := by
  cases crew.manner with
  | takes frames =>
    cases (crew.stands isAt).symm.trans frames
    cases activity
  | hasRead frames =>
    cases (crew.stands isAt).symm.trans frames
    cases activity
  | finished ended frames => cases (crew.stands isAt).symm.trans frames
  | reads point frames =>
    cases (crew.stands isAt).symm.trans frames
    obtain ⟨own, isThere, runs⟩ := Option.map_eq_some_iff.mp (frameTurn_running isAt turnRuns)
    obtain ⟨own', isThere', -, frames', -⟩ :=
      afterTurn_self (.service point) [.worker cache .resyncing] isThere runs
    rw [finishes] at frames'
    refine .inr ⟨?_, ?_⟩
    · rw [left, isThere', Option.map_some, frames']
      rfl
    · rw [left, ← afterTurn_turn worker (.service point) (.worker cache .resyncing) []
        (before.inTurn.frameTurn worker (.service point) wake).1 .cancelled, ← finishes]

/-- A worker waits for the end of its read. -/
theorem resyncing_awaits (cache : CacheId) :
    (.worker cache .resyncing : Frame S.Point).awaits .call := trivial

/-- A worker that ends cancelled has left a cancelled read. -/
theorem Crew.left_of_ends (happens : Happens allowed before after)
    (crew : Crew cache duty backlog worker task before) (endsAreWritten : before.EndsAreWritten)
    (isOpen : before.outcome? worker = none) (ended : after.outcome? worker = some .cancelled) :
    .left worker .call .cancelled ∈ after.journal := by
  cases happens.ends isOpen ended with
  | doomed isBetween was => exact absurd was crew.not_doomed
  | @turn wake frame isAt finishes =>
    cases crew.manner with
    | takes frames =>
      cases (crew.stands isAt).symm.trans frames
      cases workerTurn_taking_ends before.inTurn (crew.plain wake isAt.turn frames) crew.is finishes
    | reads point frames => cases (crew.stands isAt).symm.trans frames
    | finished isOver frames => cases (crew.stands isAt).symm.trans frames
    | hasRead frames =>
      cases (crew.stands isAt).symm.trans frames
      obtain ⟨outcome, activity, turn, awaits, member⟩ :=
        endsAreWritten worker task _ [] crew.found frames trivial
      cases Frame.activity_of_awaits_call (resyncing_awaits cache) awaits
      cases isAt.turn.symm.trans turn
      cases (workerTurn_resyncing_ends before.inTurn crew.is outcome).mp finishes
      exact happens.written member

/-- **A worker ends cancelled, or is about to, if a read of its own has been cancelled, and only
then.** -/
theorem Crew.isLost (happens : Happens allowed before after)
    (crew : Crew cache duty backlog worker task before) (turnRuns : before.TurnRuns)
    (endedAreBare : before.EndedAreBare) (endsAreWritten : before.EndsAreWritten)
    (written : after.EndsAreWritten)
    (same : .left worker .call .cancelled ∈ before.journal ↔ before.IsLost cache worker) :
    .left worker .call .cancelled ∈ after.journal ↔ after.IsLost cache worker := by
  constructor
  · intro member
    rcases happens.left member with earlier | ⟨wake, frame, rest, isAt, activity, finishes, left⟩
    · rcases same.mp earlier with ended | ⟨frames, turn⟩
      · exact .inl (happens.outcome endedAreBare ended)
      · exact crew.falls happens turnRuns ⟨turn, frames⟩
    · exact crew.isLost_of_finish turnRuns isAt activity finishes left
  · rintro (ended | ⟨frames, turn⟩)
    · cases earlier : before.outcome? worker with
      | some outcome =>
        cases (happens.outcome endedAreBare earlier).symm.trans ended
        exact happens.written (same.mpr (.inl earlier))
      | none => exact crew.left_of_ends happens endsAreWritten earlier ended
    · obtain ⟨known, found, frames⟩ := Option.map_eq_some_iff.mp frames
      obtain ⟨outcome, activity, given, awaits, member⟩ :=
        written worker known _ [] found frames trivial
      cases Frame.activity_of_awaits_call (resyncing_awaits cache) awaits
      cases given.symm.trans turn
      exact member

end Reads

/-! ## Workers at work -/

/-- A worker is at work with a queue: it waits for an item, and then there is none, and nobody waits
for those that there were; or it is to have its turn; or it waits for the read that it makes. -/
inductive IsAtWork (cache : CacheId) (worker : TaskId) (backlog : Backlog) (loop : Loop S) : Prop
  | waits (isWaiting : loop.status? worker = some (.waiting .item)) (isEmpty : backlog.items = [])
      (isFree : backlog.joiners = []) : IsAtWork cache worker backlog loop
  | isNext (isReady : .resume worker ∈ loop.ready) : IsAtWork cache worker backlog loop
  | reads (point : S.Point)
      (frames :
        (loop.tasks[worker]?).map (·.frames) = some [.service point, .worker cache .resyncing]) :
      IsAtWork cache worker backlog loop

section Work

variable {duty : Duty} {backlog : Backlog} {task : Task S}

/-- How a worker ends. -/
theorem Crew.either_of_ended (crew : Crew cache duty backlog worker task last)
    {outcome : Outcome Answer} (ended : last.outcome? worker = some outcome) :
    outcome = .cancelled ∨ outcome = .returned .nothing ∧ duty.phase = .closed := by
  obtain ⟨known, found, stage⟩ := outcome?_eq_some.mp ended
  cases found.symm.trans crew.found
  have status := Status.ended_of_stage stage
  cases crew.manner with
  | takes frames isWork =>
    rw [status] at isWork
    cases isWork
  | reads point frames isUp =>
    rw [stage] at isUp
    rcases isUp with isUp | isUp <;> cases isUp
  | hasRead frames isUp =>
    rw [stage] at isUp
    rcases isUp with isUp | isUp <;> cases isUp
  | finished isOver frames either =>
    cases status.symm.trans isOver
    refine either.imp_right fun isPlain => ⟨isPlain, ?_⟩
    subst isPlain
    have marks := crew.marks
    generalize duty.phase = phase at marks
    cases marks with
    | started isUnmarked isUp => exact absurd status isUp
    | closed => rfl
    | done => rfl

/-- A worker that waits for an item is on the list for that. -/
theorem Crew.getter_of_waiting (crew : Crew cache duty backlog worker task last)
    (areSeated : last.AreSeated) (frames : task.frames = [.worker cache .taking])
    (waits : task.status = .waiting .item) :
    backlog.getter = some worker := by
  have sits : last.seat? worker = some (.item cache) := by
    rw [seat?, crew.found]
    simp [Task.seat?, frames, waits]
  obtain ⟨known, found, same⟩ := Option.map_eq_some_iff.mp crew.is
  have has : known.backlog = some backlog := by
    rw [← crew.has, ← same]
    rfl
  have isOn := (areSeated worker (.item cache)).mp sits
  rw [(seated_of_found found has).1] at isOn
  simpa using isOn

/-- **A worker that has not ended is at work**, where nobody has a turn. -/
theorem Crew.isAtWork (crew : Crew cache duty backlog worker task last)
    (isBetween : last.turn = none) (isQueued : last.IsQueued) (areSeated : last.AreSeated)
    (runningTurns : last.RunningTurns) (endsAreWritten : last.EndsAreWritten)
    (isOpen : last.outcome? worker = none) :
    last.IsAtWork cache worker backlog := by
  cases crew.manner with
  | takes frames isWork count =>
    rcases Status.cases_of_isWork isWork with isDue | runs | waits
    · have once := isQueued.once worker
      rw [show last.isDue worker = true by simp [Loop.isDue, status?, crew.found, isDue]] at once
      exact .isNext (List.count_pos_iff.mp (by rw [once]; decide))
    · exact absurd runs (runningTurns.not_running isBetween crew.found (by simp [frames]))
    · have isEmpty := crew.idle (by simp [crew.getter_of_waiting areSeated frames waits])
      refine .waits (by rw [status?, crew.found, Option.map_some, waits]) isEmpty (crew.free ?_)
      rw [count, isEmpty, List.length_nil]
  | reads point frames => exact .reads point (by rw [crew.found, Option.map_some, frames])
  | hasRead frames =>
    obtain ⟨outcome, activity, turn, -⟩ := endsAreWritten worker task _ [] crew.found frames trivial
    cases isBetween.symm.trans turn
  | finished ended => simp [outcome?, status?, crew.found, ended] at isOpen

end Work

section Runs

variable {service : S.State} {known : Cache}

theorem Reaches.endsAreWritten (run : Reaches allowed (fresh service) last) :
    last.EndsAreWritten := by
  induction run with
  | refl => exact fun task known frame rest found => by cases found
  | tail earlier happens step =>
    exact happens.endsAreWritten (Reaches.areStacked earlier (fresh_areStacked service)) step

/-- A task that is not there is not lost, and one that has just come in is not, either. -/
theorem Happens.not_isLost (happens : Happens allowed before after)
    (isNone : before.tasks[worker]? = none) :
    ¬ before.IsLost cache worker ∧ ¬ after.IsLost cache worker := by
  have fresh : ∀ known, after.tasks[worker]? = some known →
      known.status.stage = .new ∧ known.frames ≠ [.worker cache .resyncing] := by
    intro known found
    cases happens.inherits found with
    | new unknown frames enters isNew =>
      refine ⟨isNew, fun isOld => ?_⟩
      cases isOld.symm.trans frames
      exact enters.isFirst
    | doomed earlier => cases isNone.symm.trans earlier
    | kept earlier => cases isNone.symm.trans earlier
    | turn earlier => cases isNone.symm.trans earlier
  constructor
  · rintro (ended | ⟨frames, -⟩)
    · obtain ⟨known, found, -⟩ := outcome?_eq_some.mp ended
      cases isNone.symm.trans found
    · rw [isNone] at frames
      cases frames
  · rintro (ended | ⟨frames, -⟩)
    · obtain ⟨known, found, stage⟩ := outcome?_eq_some.mp ended
      cases (fresh known found).1.symm.trans stage
    · obtain ⟨known, found, frames⟩ := Option.map_eq_some_iff.mp frames
      exact (fresh known found).2 frames

/-- In every run those workers are lost of which a read has been cancelled. -/
theorem Reaches.isLost (run : Reaches allowed (fresh service) last)
    (owns : ∀ task, last.tasks[worker]? = some task → task.role = .worker cache) :
    .left worker .call .cancelled ∈ last.journal ↔ last.IsLost cache worker := by
  induction run with
  | refl => simp [fresh, IsLost, outcome?, status?]
  | @tail before after earlier happens step =>
    have owned : ∀ task, before.tasks[worker]? = some task → task.role = .worker cache := by
      intro task found
      obtain ⟨task', found', role⟩ := happens.remains.roles worker task found
      rw [← role, owns task' found']
    have same := step owned
    cases found : before.tasks[worker]? with
    | none =>
      have new : ¬ before.IsLost cache worker ∧ ¬ after.IsLost cache worker :=
        happens.not_isLost found
      obtain ⟨wasNot, isNot⟩ := new
      refine ⟨fun member => ?_, fun isLost => absurd isLost isNot⟩
      rcases happens.left member with written | ⟨wake, frame, rest, isAt, -⟩
      · exact absurd (same.mp written) wasNot
      · have frames := isAt.frames
        rw [found] at frames
        cases frames
    | some task =>
      obtain ⟨duty, backlog, crew⟩ := (Reaches.isManned earlier cache).crew found (owned task found)
      exact crew.isLost happens (Reaches.turnRuns earlier) (Reaches.endedAreBare earlier)
        (Reaches.endsAreWritten earlier) (Reaches.endsAreWritten (earlier.tail happens)) same

/-- **The worker of a cache that runs has ended if a read of its own was cancelled, and only then**;
else it is at work, and gets to every item that is put into the queue. -/
theorem survives_iff (run : Reaches allowed (fresh service) last) (isBetween : last.turn = none)
    (found : last.caches[cache]? = some known) (runs : known.phase = .started) :
    ∃ worker backlog, known.worker = some worker ∧ known.backlog = some backlog ∧
      (last.outcome? worker ≠ none ↔ .left worker .call .cancelled ∈ last.journal) ∧
      (last.outcome? worker = none → last.IsAtWork cache worker backlog) := by
  have isThere := duty?_of_found found
  cases Reaches.isManned run cache with
  | off isNew nobody =>
    cases (congrArg Duty.phase (isNew _ isThere)).symm.trans runs
  | @on duty backlog worker task crew =>
    obtain rfl : known.duty = duty := Option.some.inj (isThere.symm.trans crew.is)
    have knows : known.worker = some worker := by
      rcases crew.knows with knows | ⟨-, isClosed⟩
      · exact knows
      · cases runs.symm.trans isClosed
    have lost : .left worker .call .cancelled ∈ last.journal ↔ last.IsLost cache worker :=
      Reaches.isLost run fun other found => by
        cases found.symm.trans crew.found
        exact crew.role
    refine ⟨worker, backlog, knows, crew.has, ?_, fun isOpen => ?_⟩
    · rw [lost]
      refine ⟨fun isOver => ?_, fun isLost => ?_⟩
      · obtain ⟨outcome, ended⟩ := Option.ne_none_iff_exists'.mp isOver
        rcases crew.either_of_ended ended with rfl | ⟨-, isClosed⟩
        · exact .inl ended
        · cases runs.symm.trans isClosed
      · rcases isLost with ended | ⟨-, turn⟩
        · simp [ended]
        · cases isBetween.symm.trans turn
    · exact crew.isAtWork isBetween (Reaches.isQueued run) (Reaches.areSeated run)
        (Reaches.runningTurns run)
        (Reaches.endsAreWritten run) isOpen

end Runs

/-! ## A read that is held -/

instance {result : Type} : (outcome : Option (Outcome result)) →
    Decidable (outcome = some .cancelled)
  | some .cancelled => isTrue rfl
  | none | some (.returned _) | some (.failed _) => isFalse (by simp)

/-- A cache loses its connection, has it back, and reads its node again; the store holds that
read. -/
def rereading : List (Command Sessions.service) :=
  connecting :: starting ++ [.occur (SessionEvent.down true true),
    .occur (SessionEvent.down false false),
    .occur (SessionEvent.plan "read" [.serve, .hold]), .operate (Operation.look (.text "/x") none)]

/-- A worker whose read is held is at work. -/
theorem survives_held_read :
    ∃ backlog, (enact 60 rereading (unconnected {} false)).IsAtWork 0 1 backlog := by
  have run : Reaches anything (unconnected {} false) (enact 60 rereading (unconnected {} false)) :=
    enact_reaches 60 rereading _ (by simp [anything]) (by decide +kernel)
  have runs :
      ((enact 60 rereading (unconnected {} false)).caches[0]?).map
        (fun known => (known.phase, known.worker)) =
      some (.started, some 1) := by decide +kernel
  obtain ⟨known, found, same⟩ := Option.map_eq_some_iff.mp runs
  obtain ⟨phase, knows⟩ := Prod.mk.inj same
  obtain ⟨worker, backlog, knows', -, -, isAtWork⟩ :=
    survives_iff run (by decide +kernel) found phase
  cases knows.symm.trans knows'
  exact ⟨backlog, isAtWork (by decide +kernel)⟩

/-- The connection is lost again, and the read is cancelled. -/
def cancelling : List (Command Sessions.service) := rereading ++ failing ++ [.release [2] .cancel]

/-- **A worker whose read is cancelled ends**, although its cache runs, and closing the cache fails
after that. -/
theorem ends_when_cancelled :
    Reaches anything (unconnected {} false) (enact 60 cancelling (unconnected {} false)) ∧
      (enact 60 cancelling (unconnected {} false)).isIdle ∧
      ((enact 60 cancelling (unconnected {} false)).caches[0]?).map
        (fun known => (known.phase, known.worker)) =
        some (.started, some 1) ∧
      (enact 60 cancelling (unconnected {} false)).outcome? 1 = some .cancelled ∧
      (enact 60 (cancelling ++ [.close "c"]) (unconnected {} false)).outcome? 7 =
        some .cancelled := by
  refine ⟨enact_reaches 60 cancelling _ (by simp [anything]) ?_, ?_, ?_, ?_, ?_⟩
  all_goals decide +kernel

end WatchedNode.Loop
