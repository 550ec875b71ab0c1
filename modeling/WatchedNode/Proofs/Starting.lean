/-
**What a start that fails leaves behind.**

A start sets a cache up step by step: the worker comes in before anything is asked, and the cache
begins to listen when its directories are there. Of this a start takes nothing back when its request
fails. It is for closing to do that, as it is for a cache that runs (`failed_start_leaves`): until
the cache is closed its worker lives on, and the cache listens exactly if it was the first read that
failed; once it is closed it does not listen any more, and the worker is on its way out.

* `IsStarting`: a start is under way in a task, and has come to a stage;
* `StartsInOrder`: one start of a cache is under way at a time, and the cache listens when that has
  come to its read;
* `IsSetUp`: no start of the cache will do anything more to it.
-/
import WatchedNode.Proofs.Listening
import WatchedNode.Proofs.Retrying
import WatchedNode.Proofs.Survival

namespace WatchedNode

open Relation

variable {S : Service}

/-! ## Starts in stacks -/

/-- Nothing below a frame that is no call waits for a call. -/
theorem IsStack.not_isUnderWay {Point : Type} {frame : Frame Point} {rest : List (Frame Point)}
    (isStack : IsStack (frame :: rest)) (isOther : frame.activity ≠ .call) (cache : CacheId) :
    ∀ other ∈ rest, ¬ other.isUnderWay cache := by
  induction rest generalizing frame with
  | nil => exact fun _ member => by cases member
  | cons caller rest ih =>
    obtain ⟨awaits, below⟩ := List.isChain_cons_cons.mp isStack
    have isOwn : caller.activity ≠ .call := fun isCall => by
      cases caller with
      | service point => exact awaits.elim
      | _ => cases isCall
    intro other member
    rcases List.mem_cons.mp member with rfl | member
    · intro isUnderWay
      cases other with
      | start owner buildInitial stage =>
        refine isOther (Frame.activity_of_awaits_call ?_ awaits)
        cases stage with
        | beginning => exact absurd rfl isUnderWay.2
        | ensuring | reading => trivial
      | _ => exact isUnderWay.elim
    · exact ih below isOwn other member

namespace Loop

/-! ## Starts under way -/

section Starts

variable {allowed : Outside S} {before after loop : Loop S} {cache : CacheId} {task self : TaskId}
  {stage : StartStage} {wake : Wake S.Reply}

/-- A start of the cache stands in the task, and has come to that stage. -/
def IsStarting (cache : CacheId) (task : TaskId) (stage : StartStage) (loop : Loop S) : Prop :=
  ∃ known buildInitial, loop.tasks[task]? = some known ∧
    .start cache buildInitial stage ∈ known.frames

theorem IsAt.isStarting {buildInitial : Bool} {rest : List (Frame S.Point)}
    (isAt : loop.IsAt task wake (.start cache buildInitial stage) rest) :
    loop.IsStarting cache task stage := by
  obtain ⟨known, found, frames⟩ := Option.map_eq_some_iff.mp isAt.frames
  exact ⟨known, buildInitial, found, frames ▸ List.mem_cons_self⟩

theorem StartsAreBegun.isStarting (areBegun : loop.StartsAreBegun)
    (isStarting : loop.IsStarting cache task stage) (isUnder : stage ≠ .beginning) :
    loop.HasBegun cache := by
  obtain ⟨known, buildInitial, found, member⟩ := isStarting
  exact areBegun task known _ cache found member ⟨rfl, isUnder⟩

/-- What a start calls in its turn. -/
theorem startTurn_calls {known : Cache} {buildInitial : Bool} {caller callee : Frame S.Point}
    (calls : (loop.startTurn self cache known buildInitial stage wake).2 = .call caller callee) :
    stage = .beginning ∧ known.phase = .latent ∧ caller = .start cache buildInitial .ensuring ∧
        callee = requestFrame known (.ensure known.path true) ∨
      stage = .ensuring ∧ (∃ answer, wake = .ended (.returned answer)) ∧
        caller = .start cache buildInitial .reading := by
  unfold startTurn at calls
  split at calls
  · cases calls
  · split at calls
    · next isLatent =>
      cases calls
      exact .inl ⟨rfl, isLatent, rfl, rfl⟩
    · cases calls
  · next answer =>
    dsimp only at calls
    split at calls
    · cases calls
      exact .inr ⟨rfl, ⟨answer, rfl⟩, rfl⟩
    · cases calls
  · unfold rebuilt at calls
    split at calls <;> cases calls
  · cases calls
  · cases calls

theorem frameTurn_start_calls {buildInitial : Bool} {caller callee : Frame S.Point}
    (calls : (loop.frameTurn self (.start cache buildInitial stage) wake).2 = .call caller callee) :
    ∃ known, loop.caches[cache]? = some known ∧
      (stage = .beginning ∧ known.phase = .latent ∧ caller = .start cache buildInitial .ensuring ∧
          callee = requestFrame known (.ensure known.path true) ∨
        stage = .ensuring ∧ (∃ answer, wake = .ended (.returned answer)) ∧
          caller = .start cache buildInitial .reading) := by
  unfold frameTurn at calls
  dsimp only at calls
  split at calls
  · next known found => exact ⟨known, found, startTurn_calls calls⟩
  · cases calls

/-- How a start comes to a stage. -/
inductive Comes (cache : CacheId) (task : TaskId) (before after : Loop S) : StartStage → Prop
  /-- It has found its cache latent, and asks for the directories. -/
  | ensuring {known : Cache} {buildInitial : Bool} {wake : Wake S.Reply}
      {rest : List (Frame S.Point)} (found : before.caches[cache]? = some known)
      (isLatent : known.phase = .latent)
      (isAt : before.IsAt task wake (.start cache buildInitial .beginning) rest) :
      Comes cache task before after .ensuring
  /-- It has its directories, and reads the node. -/
  | reading {buildInitial : Bool} {answer : Answer} {rest : List (Frame S.Point)}
      (isAt :
        before.IsAt task (.ended (.returned answer)) (.start cache buildInitial .ensuring) rest)
      (same :
        after = afterTurn task (.start cache buildInitial .ensuring) rest
          (before.inTurn.frameTurn task
        (.start cache buildInitial .ensuring) (.ended (.returned answer)))) :
        Comes cache task before after .reading

/-- **A start that is under way was at that stage before, or has come to it in its turn.** -/
theorem Happens.isStarting (happens : Happens allowed before after) (isUnder : stage ≠ .beginning)
    (isStarting : after.IsStarting cache task stage) :
    before.IsStarting cache task stage ∨ Comes cache task before after stage := by
  obtain ⟨known, buildInitial, found, member⟩ := isStarting
  have isUnderWay : (.start cache buildInitial stage : Frame S.Point).isUnderWay cache :=
    ⟨rfl, isUnder⟩
  rcases happens.calling found member (Frame.isCalling_of_isUnderWay isUnderWay) with
    ⟨old, earlier, isOld⟩ | ⟨wake, first, rest, callee, isAt, same, calls⟩
  · exact .inl ⟨old, buildInitial, earlier, isOld⟩
  refine .inr ?_
  have follows := frameTurn_follows task first wake before.inTurn
  rw [calls] at follows
  cases follows with
  | call activity awaits isFirst =>
    cases first with
    | start owner builds earlier =>
      cases activity
      obtain ⟨known', found', ⟨rfl, isLatent, way, -⟩ | ⟨rfl, ⟨answer, rfl⟩, way⟩⟩ :=
        frameTurn_start_calls calls
      · cases way
        exact .ensuring found' isLatent isAt
      · cases way
        exact .reading isAt same
    | _ => cases activity

/-- Where a start stands after its turn. -/
theorem IsAt.isStarting_after {buildInitial : Bool} {earlier : StartStage}
    {rest : List (Frame S.Point)}
    (isAt : before.IsAt task wake (.start cache buildInitial earlier) rest)
    (turnRuns : before.TurnRuns) (areStacked : before.AreStacked) (isUnder : stage ≠ .beginning)
    (isStarting : (afterTurn task (.start cache buildInitial earlier) rest
      (before.inTurn.frameTurn task (.start cache buildInitial earlier) wake)).IsStarting cache
        task stage) :
    ∃ builds callee, (before.inTurn.frameTurn task (.start cache buildInitial earlier) wake).2 =
      .call (.start cache builds stage) callee := by
  obtain ⟨own, isThere, runs⟩ := Option.map_eq_some_iff.mp (frameTurn_running isAt turnRuns)
  obtain ⟨own', isThere', -, frames, -⟩ :=
    afterTurn_self (.start cache buildInitial earlier) rest isThere runs
  obtain ⟨known, builds, found, member⟩ := isStarting
  cases isThere'.symm.trans found
  rw [frames] at member
  have isUnderWay : (.start cache builds stage : Frame S.Point).isUnderWay cache := ⟨rfl, isUnder⟩
  have notBelow : .start cache builds stage ∉ rest := fun below =>
    (areStacked.isAt isAt).not_isUnderWay Activity.noConfusion cache _ below isUnderWay
  have notFree : ∀ next : Frame S.Point, ¬ next.isCalling →
      .start cache builds stage ∉ next :: rest := by
    intro next isFree member
    rcases List.mem_cons.mp member with rfl | below
    · exact isFree (Frame.isCalling_of_isUnderWay isUnderWay)
    · exact notBelow below
  have follows := frameTurn_follows task (.start cache buildInitial earlier) wake before.inTurn
  generalize (before.inTurn.frameTurn task (.start cache buildInitial earlier) wake).2 = way
    at follows member ⊢
  cases follows with
  | goOn _ isFree => exact absurd member (notFree _ isFree)
  | await _ isFree => exact absurd member (notFree _ isFree)
  | finish outcome => exact absurd member notBelow
  | @call caller callee activity awaits isFirst =>
    rcases List.mem_cons.mp member with rfl | member
    · exact absurd (Frame.isCalling_of_isUnderWay isUnderWay) (Frame.not_isCalling isFirst)
    · rcases List.mem_cons.mp member with rfl | below
      · exact ⟨builds, callee, rfl⟩
      · exact absurd below notBelow

end Starts

open Sessions

variable {allowed : Outside Sessions.service} {before after last loop : Loop Sessions.service}
  {cache : CacheId} {task : TaskId} {store : Store} {isSlow : Bool}

/-! ## Whom a start asks -/

/-- The calls that such a frame waits for are made at the session of the cache. -/
def AsksOwn (cache : CacheId) (caller : Frame At) (loop : Loop Sessions.service) : Prop :=
  ∀ (task : TaskId) (known : Task Sessions.service) (point : At) (rest : List (Frame At)),
    loop.tasks[task]? = some known → known.frames = .service point :: caller :: rest →
      ∃ owner, loop.caches[cache]? = some owner ∧ point.handle = owner.handle

/-- A start of the cache that waits for its directories has asked the session of its cache, and if
it is to go on with an answer, that session is there. -/
structure AsksOwnSession (cache : CacheId) (loop : Loop Sessions.service) : Prop where
  asks (buildInitial : Bool) : loop.AsksOwn cache (.start cache buildInitial .ensuring)
  has {task : TaskId} {answer : Answer} {buildInitial : Bool} {rest : List (Frame At)} :
    loop.IsAt task (.ended (.returned answer)) (.start cache buildInitial .ensuring) rest →
      ∃ owner handle options, loop.caches[cache]? = some owner ∧ owner.handle = some handle ∧
        loop.HasOptions handle options

/-- A call that goes on stays with its session, and one that returns has its session. -/
theorem resume_handle (moment : Moment) (point : At) (wake : Wake Plan) (state : Sessions) :
    (∀ onward, (state.resume moment point wake).verdict.next? = some onward →
      onward.handle = point.handle) ∧
      ∀ answer, (state.resume moment point wake).verdict = .finish (.returned answer) →
        ∃ handle session, point.handle = some handle ∧ state.sessions[handle]? = some session := by
  unfold Sessions.resume
  split
  · next handle session isHere isThere =>
    refine ⟨fun onward goesOn => ?_, fun answer returns => ⟨handle, session, isHere, ?_⟩⟩
    · dsimp only at goesOn
      rw [verdictAt_next?] at goesOn
      obtain ⟨here, -, rfl⟩ := Option.map_eq_some_iff.mp goesOn
      exact isHere.symm
    · rwa [session?, isHere] at isThere
  · refine ⟨fun onward goesOn => ?_, fun answer returns => ?_⟩
    · cases goesOn
    · cases returns

/-- A call above another frame is one that goes on after its turn, or that this frame has called in
its own. -/
theorem IsAt.asks {wake : Wake Plan} {frame caller : Frame At}
    {below rest : List (Frame At)} {point : At} (isAt : before.IsAt task wake frame below)
    (areStacked : before.AreStacked)
    (left :
      (before.inTurn.frameTurn task frame wake).2.frames below = .service point :: caller :: rest) :
    (∃ earlier : At, frame = .service earlier ∧ below = caller :: rest ∧
      point.handle = earlier.handle) ∨
      (before.inTurn.frameTurn task frame wake).2 = .call caller (.service point) := by
  have isStack := areStacked.isAt isAt
  have notBelow : below ≠ .service point :: caller :: rest := by
    rintro rfl
    exact (List.isChain_cons_cons.mp isStack).1.elim
  by_cases isCall : frame.activity = .call
  · cases frame with
    | service earlier =>
      rcases serviceTurn_next task earlier wake before.inTurn with ⟨outcome, -, finishes⟩
        | ⟨onward, goesOn, frames⟩
      · have left : (before.inTurn.serviceTurn task earlier wake).2.frames below = _ := left
        rw [finishes] at left
        exact absurd left notBelow
      · cases (frames below).symm.trans left
        exact .inl ⟨earlier, rfl, rfl, (resume_handle _ earlier wake before.service).1 point goesOn⟩
    | _ => cases isCall
  have follows := frameTurn_follows task frame wake before.inTurn
  generalize (before.inTurn.frameTurn task frame wake).2 = way at follows left
  cases follows with
  | goOn same isFree =>
    cases left
    exact absurd same.symm isCall
  | await same isFree =>
    cases left
    exact absurd same.symm isCall
  | finish outcome => exact absurd left notBelow
  | call activity awaits isFirst =>
    cases left
    exact .inr rfl

/-- Where a frame calls the session of its cache, the calls that it waits for stay there. -/
theorem Happens.asksOwn {caller : Frame At} (happens : Happens allowed before after)
    (areStacked : before.AreStacked)
    (calls : ∀ task frame wake point, (before.inTurn.frameTurn task frame wake).2 =
      .call caller (.service point) →
      ∃ owner, before.caches[cache]? = some owner ∧ point.handle = owner.handle)
    (asksOwn : before.AsksOwn cache caller) : after.AsksOwn cache caller := by
  intro task known point rest found frames
  have own : ∃ owner, before.caches[cache]? = some owner ∧ point.handle = owner.handle := by
    cases happens.inherits found with
    | new unknown single => cases single.symm.trans frames
    | doomed earlier role was bare => cases bare.symm.trans frames
    | kept earlier role same => exact asksOwn _ _ _ _ earlier (same.symm.trans frames)
    | @turn old wake frame below earlier role isAt same left =>
      rcases isAt.asks areStacked (left.symm.trans frames) with ⟨before', rfl, rfl, handle⟩ | called
      · obtain ⟨old', earlier', stack⟩ := Option.map_eq_some_iff.mp isAt.frames
        rw [handle]
        exact asksOwn _ _ _ _ earlier' stack
      · exact calls task frame wake point called
  obtain ⟨owner, isThere, same⟩ := own
  obtain ⟨owner', isThere', ages⟩ := happens.course.grows cache owner isThere
  exact ⟨owner', isThere', same.trans ages.handle.symm⟩

/-- A start that waits for its directories has asked its cache's session for them. -/
theorem start_asks {self : TaskId} {frame : Frame At} {wake : Wake Plan}
    {buildInitial : Bool} {point : At}
    (calls :
      (loop.frameTurn self frame wake).2 =
        .call (.start cache buildInitial .ensuring) (.service point)) :
    ∃ owner, loop.caches[cache]? = some owner ∧ point.handle = owner.handle := by
  have follows := frameTurn_follows self frame wake loop
  rw [calls] at follows
  cases follows with
  | call activity =>
    cases frame with
    | start owner builds earlier =>
      cases activity
      obtain ⟨known, found, ⟨-, -, -, callee⟩ | ⟨-, -, way⟩⟩ := frameTurn_start_calls calls
      · cases callee
        exact ⟨known, found, rfl⟩
      · cases way
    | _ => cases activity

/-- A start that goes on with an answer has it from a call that has returned. -/
theorem IsAt.answered {wake : Wake Plan} {frame : Frame At} {below rest : List (Frame At)}
    {answer : Answer} {buildInitial : Bool} (isAt : before.IsAt task wake frame below)
    (areStacked : before.AreStacked)
    (left :
      (before.inTurn.frameTurn task frame wake).2.frames below =
        .start cache buildInitial .ensuring :: rest)
    (given : (afterTurn task frame below (before.inTurn.frameTurn task frame wake)).turn =
      some (task, .ended (.returned answer))) :
    ∃ point, frame = .service point ∧ below = .start cache buildInitial .ensuring :: rest ∧
      ∃ handle session, point.handle = some handle ∧ before.service.sessions[handle]? =
        some session := by
  have isCalling : (.start cache buildInitial .ensuring : Frame At).isCalling := trivial
  have isStack := areStacked.isAt isAt
  have follows := frameTurn_follows task frame wake before.inTurn
  have turn : before.inTurn.frameTurn task frame wake =
    ((before.inTurn.frameTurn task frame wake).1, (before.inTurn.frameTurn task frame wake).2) :=
    rfl
  generalize result : (before.inTurn.frameTurn task frame wake).2 = way at follows left turn
  cases follows with
  | goOn same isFree =>
    cases left
    exact absurd isCalling isFree
  | await same isFree =>
    cases left
    exact absurd isCalling isFree
  | call same awaits isFirst =>
    cases left
    exact absurd isCalling (Frame.not_isCalling isFirst)
  | finish outcome =>
    obtain rfl : below = .start cache buildInitial .ensuring :: rest := left
    rw [turn] at given
    cases (afterTurn_turn task frame (.start cache buildInitial .ensuring) rest
      (before.inTurn.frameTurn task frame wake).1 outcome).symm.trans given
    have awaits : (.start cache buildInitial .ensuring : Frame At).awaits .call := trivial
    have isCall := Frame.activity_of_awaits_call awaits (List.isChain_cons_cons.mp isStack).1
    cases frame with
    | service point =>
      refine ⟨point, rfl, rfl, ?_⟩
      rcases serviceTurn_next task point wake before.inTurn with ⟨outcome, verdict, finishes⟩
        | ⟨onward, -, frames⟩
      · cases finishes.symm.trans result
        exact (resume_handle _ point wake before.service).2 answer verdict
      · have goesOn := frames []
        rw [show (before.inTurn.serviceTurn task point wake).2 = .finish (.returned answer) from
          result] at goesOn
        cases goesOn
    | _ => cases isCall

theorem Happens.asksOwnSession (happens : Happens allowed before after)
    (areStacked : before.AreStacked) (isKept : before.IsKept)
    (endsAreWritten : before.EndsAreWritten) (asksOwn : before.AsksOwnSession cache) :
    after.AsksOwnSession cache := by
  have grows := happens.course.grows
  refine ⟨fun buildInitial =>
    happens.asksOwn areStacked (fun _ _ _ _ => start_asks) (asksOwn.asks buildInitial),
    fun {task answer buildInitial rest} isAt => ?_⟩
  have held : ∃ known handle options, before.caches[cache]? = some known ∧
      known.handle = some handle ∧
      before.HasOptions handle options := by
    obtain ⟨known, found, frames⟩ := Option.map_eq_some_iff.mp isAt.frames
    cases happens.inherits found with
    | new unknown single enters =>
      cases single.symm.trans frames
      exact absurd (show Frame.isCalling (.start cache buildInitial .ensuring : Frame At) from
        trivial)
        (Frame.not_isCalling enters.isFirst)
    | doomed earlier role was bare => cases bare.symm.trans frames
    | @kept old earlier role same steady =>
      have stack := same.symm.trans frames
      obtain ⟨outcome, -, turn, -⟩ := endsAreWritten task old _ rest earlier stack trivial
      have wasAt : before.IsAt task (.ended outcome) (.start cache buildInitial .ensuring) rest :=
        ⟨turn, by rw [earlier, Option.map_some, stack]⟩
      cases ((steady _ _ _ wasAt).trans turn).symm.trans isAt.turn
      exact asksOwn.has wasAt
    | @turn old wake frame below earlier role wasAt same left =>
      rw [same] at isAt
      obtain ⟨point, rfl, rfl, handle, session, isHere, isThere⟩ :=
        wasAt.answered areStacked (left.symm.trans frames) isAt.turn
      obtain ⟨old', earlier', stack⟩ := Option.map_eq_some_iff.mp wasAt.frames
      obtain ⟨owner, found', own⟩ := asksOwn.asks buildInitial _ _ _ _ earlier' stack
      exact ⟨owner, handle, session.options, found', own.symm.trans isHere, session, isThere, rfl⟩
  obtain ⟨known, handle, options, found, own, has⟩ := held
  obtain ⟨known', found', ages⟩ := grows cache known found
  exact ⟨known', handle, options, found', ages.handle.trans own,
    happens.hasOptions areStacked isKept has⟩

theorem Reaches.asksOwnSession (run : Reaches allowed (unconnected store isSlow) last) :
    last.AsksOwnSession cache := by
  induction run with
  | refl =>
    refine ⟨fun _ _ _ _ _ found => ?_, fun isAt => ?_⟩
    · cases found
    · cases isAt.turn
  | tail earlier happens step =>
    exact happens.asksOwnSession (Reaches.areStacked earlier (fresh_areStacked _))
      (Reaches.isKept earlier)
      (Reaches.endsAreWritten earlier) step

/-! ## Starts in order -/

/-- What closing a cache makes of it. -/
theorem IsLeft.duty? {known : Cache} (isLeft : IsLeft cache before after)
    (found : before.caches[cache]? = some known) : after.duty? cache = some known.duty.closed := by
  obtain ⟨task, wake, rest, isAt, rfl⟩ := isLeft
  have was : before.inTurn.duty? cache = some known.duty := duty?_of_found found
  rw [afterTurn_duty?]
  simp only [frameTurn, show before.inTurn.caches[cache]? = some known from found, cacheTurn]
  have retires :
      (before.inTurn.retire cache known.handle).duty? cache = some known.duty.closed := by
    rw [retire_duty?, if_pos rfl, was, Option.map_some]
  unfold closeTurn
  dsimp only
  split
  · exact retires
  · split
    · exact retires
    · rw [duty?, (addHook_keeps _ _ _).2.1]
      exact retires

/-- A cache that runs after something has happened, and had begun before, ran before and was not
closed. -/
theorem Happens.ran (happens : Happens allowed before after) (hasBegun : before.HasBegun cache)
    {known : Cache} (found : after.caches[cache]? = some known) (runs : known.phase = .started) :
    (∃ old, before.caches[cache]? = some old ∧ old.phase = .started) ∧
      ¬ IsLeft cache before after := by
  obtain ⟨old, earlier, begun⟩ := hasBegun
  have is := duty?_of_found found
  have was := duty?_of_found earlier
  have matures := (happens.passes.fares cache).matures is
  rw [show known.duty.phase = .started from runs] at matures
  have ran : old.phase = .started := by
    generalize phase : Phase.started = now at matures
    cases matures with
    | comes => cases phase
    | stays was' =>
      cases was.symm.trans was'
      rfl
    | begins was' isLatent =>
      cases was.symm.trans was'
      exact absurd isLatent begun
    | closes => cases phase
  refine ⟨⟨old, earlier, ran⟩, fun isLeft => ?_⟩
  have same := is.symm.trans (isLeft.duty? earlier)
  have phase : known.duty.phase = old.duty.closed.phase :=
    congrArg Duty.phase (Option.some.inj same)
  rw [show known.duty.phase = .started from runs, Duty.closed,
    if_pos (show old.duty.phase = .started from ran)] at phase
  cases phase

/-- A cache that does not listen does so only after a start has its directories. -/
theorem Happens.not_isListed (happens : Happens allowed before after)
    (run : Reaches allowed (unconnected store isSlow) before)
    (isNoStart : ¬ BeginsToListen cache before after) (isOff : ¬ IsListed cache before.service) :
    ¬ IsListed cache after.service := by
  by_cases isLeft : IsLeft cache before after
  · exact isLeft.not_isListed (Reaches.attuned run).2 (Reaches.areDistinct run)
  · rwa [happens.passes.isListed isNoStart isLeft]

/-- A cache begins to listen where a start of it waits for its directories. -/
theorem BeginsToListen.isStarting (begins : BeginsToListen cache before after)
    (turnRuns : before.TurnRuns) (areStacked : before.AreStacked) :
    ∃ task, before.IsStarting cache task .ensuring ∧
      ¬ after.IsStarting cache task .ensuring := by
  obtain ⟨task, buildInitial, answer, rest, -, -, -, isAt, rfl, -⟩ := begins
  refine ⟨task, isAt.isStarting, fun isStarting => ?_⟩
  obtain ⟨builds, callee, calls⟩ :=
    isAt.isStarting_after turnRuns areStacked StartStage.noConfusion isStarting
  obtain ⟨known, found, ⟨isFirst, -⟩ | ⟨-, -, way⟩⟩ := frameTurn_start_calls calls
  · cases isFirst
  · cases way

/-- One start of the cache at most is under way. The cache does not listen before that has its
directories, and does so from then on, as long as it runs. -/
structure StartsInOrder (cache : CacheId) (loop : Loop Sessions.service) : Prop where
  once {task other : TaskId} {stage stage' : StartStage} : stage ≠ .beginning →
    stage' ≠ .beginning →
    loop.IsStarting cache task stage → loop.IsStarting cache other stage' → task = other
  isNew : ¬ loop.HasBegun cache → ¬ IsListed cache loop.service
  ensuring {task : TaskId} : loop.IsStarting cache task .ensuring → ¬ IsListed cache loop.service
  reading {task : TaskId} {known : Cache} : loop.IsStarting cache task .reading →
    loop.caches[cache]? = some known → known.phase = .started → IsListed cache loop.service

theorem Happens.startsInOrder (happens : Happens allowed before after)
    (run : Reaches allowed (unconnected store isSlow) before)
    (inOrder : before.StartsInOrder cache) :
    after.StartsInOrder cache := by
  have areStacked : before.AreStacked := Reaches.areStacked run (fresh_areStacked _)
  have areBegun : before.StartsAreBegun := Reaches.startsAreBegun run (fresh_startsAreBegun _)
  have grows := happens.course.grows
  have isLatent {known : Cache} (found : before.caches[cache]? = some known)
      (latent : known.phase = .latent) :
      ¬ before.HasBegun cache := by
    rintro ⟨known', found', begun⟩
    cases found.symm.trans found'
    exact begun latent
  have notFresh (isNew : ¬ before.HasBegun cache) : ¬ BeginsToListen cache before after :=
    fun begins => by
    obtain ⟨task, isStarting, -⟩ := begins.isStarting (Reaches.turnRuns run) areStacked
    exact isNew (areBegun.isStarting isStarting StartStage.noConfusion)
  refine ⟨fun {task other stage stage'} isUnder isUnder' here there => ?_, fun isNew => ?_,
    fun {task} here => ?_,
    fun {task known} here found runs => ?_⟩
  · rcases happens.isStarting isUnder here with here | comes
    · rcases happens.isStarting isUnder' there with there | comes
      · exact inOrder.once isUnder isUnder' here there
      · cases comes with
        | ensuring found latent isAt =>
          exact absurd (areBegun.isStarting here isUnder) (isLatent found latent)
        | reading isAt same =>
          exact inOrder.once isUnder StartStage.noConfusion here isAt.isStarting
    · rcases happens.isStarting isUnder' there with there | comes'
      · cases comes with
        | ensuring found latent isAt =>
          exact absurd (areBegun.isStarting there isUnder') (isLatent found latent)
        | reading isAt same =>
          exact inOrder.once StartStage.noConfusion isUnder' isAt.isStarting there
      · -- Both have their turns, and so they are the same task.
        have turn : ∃ wake, before.turn = some (task, wake) := by
          cases comes with
          | ensuring found latent isAt => exact ⟨_, isAt.turn⟩
          | reading isAt same => exact ⟨_, isAt.turn⟩
        have turn' : ∃ wake, before.turn = some (other, wake) := by
          cases comes' with
          | ensuring found latent isAt => exact ⟨_, isAt.turn⟩
          | reading isAt same => exact ⟨_, isAt.turn⟩
        obtain ⟨wake, given⟩ := turn
        obtain ⟨wake', given'⟩ := turn'
        cases given.symm.trans given'
        rfl
  · have wasNew : ¬ before.HasBegun cache := fun begun => isNew (grows.hasBegun begun)
    exact happens.not_isListed run (notFresh wasNew) (inOrder.isNew wasNew)
  · rcases happens.isStarting StartStage.noConfusion here with earlier | comes
    · refine happens.not_isListed run (fun begins => ?_) (inOrder.ensuring earlier)
      obtain ⟨other, isStarting, isOver⟩ := begins.isStarting (Reaches.turnRuns run) areStacked
      cases inOrder.once StartStage.noConfusion StartStage.noConfusion earlier isStarting
      exact isOver here
    · cases comes with
      | ensuring found latent isAt =>
        exact happens.not_isListed run (notFresh (isLatent found latent))
          (inOrder.isNew (isLatent found latent))
  · rcases happens.isStarting StartStage.noConfusion here with earlier | comes
    · obtain ⟨⟨old, isThere, ran⟩, isNoEnd⟩ :=
        happens.ran (areBegun.isStarting earlier StartStage.noConfusion) found runs
      by_cases begins : BeginsToListen cache before after
      · exact begins.isListed
      · exact (happens.passes.isListed begins isNoEnd).mpr (inOrder.reading earlier isThere ran)
    · cases comes with
      | reading isAt same =>
        have asksOwn : before.AsksOwnSession cache := Reaches.asksOwnSession run
        obtain ⟨owner, handle, options, isThere, own, session, has, -⟩ := asksOwn.has isAt
        exact BeginsToListen.isListed ⟨task, _, _, _, owner, handle, session, isAt, same,
          isThere, own, has⟩

theorem Reaches.startsInOrder (run : Reaches allowed (unconnected store isSlow) last) :
    last.StartsInOrder cache := by
  induction run with
  | refl =>
    have nobody : ∀ task stage, ¬ (unconnected store isSlow).IsStarting cache task stage := by
      rintro task stage ⟨known, buildInitial, found, -⟩
      cases found
    refine ⟨fun _ _ here => absurd here (nobody _ _), fun _ => ?_,
      fun here => absurd here (nobody _ _),
      fun here => absurd here (nobody _ _)⟩
    rintro ⟨handle, link, session, found, -⟩
    cases found
  | tail earlier happens step => exact happens.startsInOrder earlier step

/-! ## Starts that fail -/

/-- No start of the cache will do anything more to it. As long as it runs it listens if that has
been set up, and once it is closed it does not, unless it was closed while its start was to set that
up. -/
structure IsSetUp (cache : CacheId) (listens wasOpen : Prop)
    (loop : Loop Sessions.service) : Prop where
  hasBegun : loop.HasBegun cache
  isOver {task : TaskId} {stage : StartStage} : stage ≠ .beginning →
    ¬ loop.IsStarting cache task stage
  isRunning {known : Cache} : loop.caches[cache]? = some known → known.phase = .started →
    (IsListed cache loop.service ↔ listens)
  isClosed {known : Cache} : loop.caches[cache]? = some known → known.phase = .closed →
    (listens → wasOpen) → ¬ IsListed cache loop.service

section Failing

variable {listens wasOpen : Prop} {stage : StartStage} {wake : Wake Plan} {buildInitial : Bool}
  {rest : List (Frame At)} {outcome : Outcome Answer}

/-- A cache that is closed after something has happened, and had begun before, was closed before, or
ran and was closed by that. -/
theorem Happens.wasClosed (happens : Happens allowed before after)
    (hasBegun : before.HasBegun cache) {known : Cache} (found : after.caches[cache]? = some known)
    (isClosed : known.phase = .closed) :
    ∃ old, before.caches[cache]? = some old ∧
      (old.phase = .closed ∨ old.phase = .started ∧ IsLeft cache before after) := by
  obtain ⟨old, earlier, begun⟩ := hasBegun
  have was := duty?_of_found earlier
  have matures := (happens.passes.fares cache).matures (duty?_of_found found)
  rw [show known.duty.phase = .closed from isClosed] at matures
  refine ⟨old, earlier, ?_⟩
  generalize phase : Phase.closed = now at matures
  cases matures with
  | comes => cases phase
  | stays was' =>
    cases was.symm.trans was'
    exact .inl rfl
  | begins => cases phase
  | closes was' ran isAt same =>
    cases was.symm.trans was'
    exact .inr ⟨ran, _, _, _, isAt, same⟩

theorem Happens.isSetUp (happens : Happens allowed before after)
    (run : Reaches allowed (unconnected store isSlow) before)
    (isSetUp : before.IsSetUp cache listens wasOpen) :
    after.IsSetUp cache listens wasOpen := by
  have isNoStart : ¬ BeginsToListen cache before after := fun begins => by
    obtain ⟨task, isStarting, -⟩ :=
      begins.isStarting (Reaches.turnRuns run) (Reaches.areStacked run (fresh_areStacked _))
    exact isSetUp.isOver StartStage.noConfusion isStarting
  refine ⟨happens.course.grows.hasBegun isSetUp.hasBegun, fun {task stage} isUnder isStarting => ?_,
    fun {known} found runs => ?_, fun {known} found isClosed wasOpen => ?_⟩
  · rcases happens.isStarting isUnder isStarting with earlier | comes
    · exact isSetUp.isOver isUnder earlier
    · cases comes with
      | ensuring found latent isAt =>
        obtain ⟨known, found', begun⟩ := isSetUp.hasBegun
        cases found.symm.trans found'
        exact begun latent
      | reading isAt same => exact isSetUp.isOver StartStage.noConfusion isAt.isStarting
  · obtain ⟨⟨old, earlier, ran⟩, isNoEnd⟩ := happens.ran isSetUp.hasBegun found runs
    exact (happens.passes.isListed isNoStart isNoEnd).trans (isSetUp.isRunning earlier ran)
  · obtain ⟨old, earlier, wasClosed | ⟨ran, isLeft⟩⟩ :=
      happens.wasClosed isSetUp.hasBegun found isClosed
    · exact happens.not_isListed run isNoStart (isSetUp.isClosed earlier wasClosed wasOpen)
    · exact isLeft.not_isListed (Reaches.attuned run).2 (Reaches.areDistinct run)

/-- A start that has its directories and comes to its end returns. -/
theorem ensured_finish {self : TaskId} {known : Cache} {answer : Answer}
    (found : loop.caches[cache]? = some known)
    (finishes :
      (loop.frameTurn self (.start cache buildInitial .ensuring) (.ended (.returned answer))).2 =
      .finish outcome) : outcome = .returned .nothing := by
  simp only [frameTurn, found, cacheTurn, startTurn] at finishes
  split at finishes
  · cases finishes
  · cases finishes
    rfl

/-- Where a start of the cache has come to its end none is under way. -/
theorem IsAt.isOver (isAt : before.IsAt task wake (.start cache buildInitial stage) rest)
    (run : Reaches allowed (unconnected store isSlow) before) (isUnder : stage ≠ .beginning)
    (ends : (before.inTurn.frameTurn task (.start cache buildInitial stage) wake).2 =
      .finish outcome)
    {other : TaskId} {stage' : StartStage} (isUnder' : stage' ≠ .beginning) :
    ¬ before.step.IsStarting cache other stage' := by
  intro isStarting
  have areStacked : before.AreStacked := Reaches.areStacked run (fresh_areStacked _)
  have areBegun : before.StartsAreBegun := Reaches.startsAreBegun run (fresh_startsAreBegun _)
  have inOrder : before.StartsInOrder cache := Reaches.startsInOrder run
  have happens : Happens allowed before before.step := .step
  have isGone : ∀ stage', stage' ≠ .beginning → ¬ before.step.IsStarting cache task stage' := by
    intro stage' isUnder' isStarting
    rw [isAt.step] at isStarting
    obtain ⟨builds, callee, calls⟩ :=
      isAt.isStarting_after (Reaches.turnRuns run) areStacked isUnder' isStarting
    cases calls.symm.trans ends
  rcases happens.isStarting isUnder' isStarting with earlier | comes
  · cases inOrder.once isUnder isUnder' isAt.isStarting earlier
    exact isGone stage' isUnder' isStarting
  · cases comes with
    | ensuring found latent isAt' =>
      obtain ⟨known, found', begun⟩ := areBegun.isStarting isAt.isStarting isUnder
      cases found.symm.trans found'
      exact begun latent
    | reading isAt' same =>
      cases inOrder.once isUnder StartStage.noConfusion isAt.isStarting isAt'.isStarting
      exact isGone .reading StartStage.noConfusion isStarting

/-- **When a start of a cache has returned none is under way** any more. -/
theorem Reaches.start_isOver (run : Reaches allowed (unconnected store isSlow) loop)
    (hasStarted : loop.HasStarted cache) (isUnder : stage ≠ .beginning) :
    ¬ loop.IsStarting cache task stage := by
  induction run generalizing task stage with
  | refl =>
    obtain ⟨entry, member, -⟩ := hasStarted
    cases member
  | @tail before after earlier happens step =>
    intro isStarting
    rcases happens.returned hasStarted with
      started | ⟨self, wake, buildInitial, stage', rest, answer, isAt, isUnder', finishes, -, same⟩
    · rcases happens.isStarting isUnder isStarting with was | comes
      · exact step started isUnder was
      · cases comes with
        | ensuring found latent isAt =>
          obtain ⟨known, found', begun⟩ := (Reaches.isRegular earlier).hasBegun cache started
          cases found.symm.trans found'
          exact begun latent
        | reading isAt same => exact step started StartStage.noConfusion isAt.isStarting
    · rw [same, ← isAt.step] at isStarting
      exact isAt.isOver earlier isUnder' finishes isUnder isStarting

/-- A start that has failed will do nothing more to its cache. -/
theorem IsAt.isSetUp (isAt : before.IsAt task wake (.start cache buildInitial stage) rest)
    (run : Reaches allowed (unconnected store isSlow) before) (isUnder : stage ≠ .beginning)
    (fails : (before.inTurn.frameTurn task (.start cache buildInitial stage) wake).2 =
      .finish outcome)
    (isFailure : ∀ answer, outcome ≠ .returned answer) :
    before.step.IsSetUp cache (stage = .reading)
      (∃ known, before.caches[cache]? = some known ∧ known.phase = .started) := by
  have areStacked : before.AreStacked := Reaches.areStacked run (fresh_areStacked _)
  have areBegun : before.StartsAreBegun := Reaches.startsAreBegun run (fresh_startsAreBegun _)
  have inOrder : before.StartsInOrder cache := Reaches.startsInOrder run
  have happens : Happens allowed before before.step := .step
  have hasBegun := areBegun.isStarting isAt.isStarting isUnder
  -- It is not this turn in which the cache begins to listen, as that of a start that has its
  -- directories goes on.
  have isNoStart : ¬ BeginsToListen cache before before.step := by
    rintro ⟨self, builds, answer, below, known, -, -, isAt', -, found, -⟩
    cases isAt.turn.symm.trans isAt'.turn
    cases isAt.frames.symm.trans isAt'.frames
    have found : before.inTurn.caches[cache]? = some known := found
    exact isFailure _ (ensured_finish found fails)
  refine ⟨happens.course.grows.hasBegun hasBegun, isAt.isOver run isUnder fails,
    fun {known} found runs => ?_, fun {known} found isClosed wasOpen => ?_⟩
  · obtain ⟨⟨old, earlier, ran⟩, isNoEnd⟩ := happens.ran hasBegun found runs
    rw [happens.passes.isListed isNoStart isNoEnd]
    cases stage with
    | beginning => exact absurd rfl isUnder
    | ensuring => exact iff_of_false (inOrder.ensuring isAt.isStarting) StartStage.noConfusion
    | reading => exact iff_of_true (inOrder.reading isAt.isStarting earlier ran) rfl
  · obtain ⟨old, earlier, wasClosed | ⟨ran, isLeft⟩⟩ := happens.wasClosed hasBegun found isClosed
    · cases stage with
      | beginning => exact absurd rfl isUnder
      | ensuring => exact happens.not_isListed run isNoStart (inOrder.ensuring isAt.isStarting)
      | reading =>
        obtain ⟨old', earlier', ran⟩ := wasOpen rfl
        cases earlier.symm.trans earlier'
        cases wasClosed.symm.trans ran
    · exact isLeft.not_isListed (Reaches.attuned run).2 (Reaches.areDistinct run)

/-- The worker of a closed cache does not wait for an item: it has ended, or is to have its turn, or
waits for its read. -/
theorem Reaches.not_waiting (run : Reaches allowed (unconnected store isSlow) last)
    (isBetween : last.turn = none) {known : Cache} (found : last.caches[cache]? = some known)
    (isClosed : known.phase = .closed) {worker : TaskId}
    (owns : last.roles[worker]? = some (Role.worker cache)) (isOpen : last.outcome? worker = none) :
    .resume worker ∈ last.ready ∨
      ∃ point, (last.tasks[worker]?).map (·.frames) =
        some [.service point, .worker cache .resyncing] := by
  have isThere := duty?_of_found found
  cases Reaches.isManned run cache with
  | off isNew nobody => exact absurd owns (nobody worker)
  | @on duty backlog own task crew =>
    obtain rfl : known.duty = duty := Option.some.inj (isThere.symm.trans crew.is)
    cases crew.only worker owns
    cases crew.isAtWork isBetween (Reaches.isQueued run) (Reaches.areSeated run)
      (Reaches.runningTurns run)
      (Reaches.endsAreWritten run) isOpen with
    | waits isWaiting isEmpty =>
      -- The end mark is still in the queue.
      have marks := crew.marks
      rw [show known.duty.phase = .closed from isClosed, isEmpty] at marks
      cases marks with
      | closed same =>
        exact absurd same.symm (List.append_ne_nil_of_right_ne_nil _ (List.cons_ne_nil _ _))
      | done isEmpty isOver =>
        rw [status?, crew.found, Option.map_some, isOver] at isWaiting
        cases isWaiting
    | isNext isReady => exact .inl isReady
    | reads point frames => exact .inr ⟨point, frames⟩

/-- **A start that fails leaves what it has set up, and closing takes that back.** From when a
request of the start of a cache has failed, as long as the cache is not closed it runs, it listens
exactly if it was the read that failed, and its worker has ended only if a read of its own was
cancelled. When the cache is closed after that, or if it was the directories that failed, it does
not listen, and its worker has ended or is about to. -/
theorem failed_start_leaves (run : Reaches allowed (unconnected store isSlow) before)
    (isAt : before.IsAt task wake (.start cache buildInitial stage) rest)
    (isUnder : stage ≠ .beginning)
    (fails : (before.inTurn.frameTurn task (.start cache buildInitial stage) wake).2 =
      .finish outcome)
    (isFailure : ∀ answer, outcome ≠ .returned answer) (later : Reaches allowed before.step last)
    (isBetween : last.turn = none) :
    ∃ known, last.caches[cache]? = some known ∧
      (known.phase = .started ∧ (IsListed cache last.service ↔ stage = .reading) ∧
          (∃ worker backlog, known.worker = some worker ∧ known.backlog = some backlog ∧
            (last.outcome? worker ≠ none ↔ .left worker .call .cancelled ∈ last.journal) ∧
            (last.outcome? worker = none → last.IsAtWork cache worker backlog)) ∨
        known.phase = .closed ∧
          ((stage = .reading → ∃ earlier, before.caches[cache]? = some earlier ∧
            earlier.phase = .started) →
            ¬ IsListed cache last.service) ∧
          ∀ worker : TaskId, last.roles[worker]? = some (Role.worker cache) →
            last.outcome? worker = none →
            .resume worker ∈ last.ready ∨
              ∃ point, (last.tasks[worker]?).map (·.frames) =
                some [.service point, .worker cache .resyncing]) := by
  have isSetUp : Reaches allowed (unconnected store isSlow) last ∧
      last.IsSetUp cache (stage = .reading)
      (∃ known, before.caches[cache]? = some known ∧ known.phase = .started) := by
    clear isBetween
    induction later with
    | refl => exact ⟨run.tail .step, isAt.isSetUp run isUnder fails isFailure⟩
    | tail _ happens step => exact ⟨step.1.tail happens, happens.isSetUp step.1 step.2⟩
  obtain ⟨run, isSetUp⟩ := isSetUp
  obtain ⟨known, found, begun⟩ := isSetUp.hasBegun
  refine ⟨known, found, ?_⟩
  cases phase : known.phase with
  | latent => exact absurd phase begun
  | started =>
    exact .inl ⟨rfl, isSetUp.isRunning found phase, survives_iff run isBetween found phase⟩
  | closed =>
    exact .inr ⟨rfl, isSetUp.isClosed found phase, fun worker owns =>
      Reaches.not_waiting run isBetween found phase owns⟩

end Failing

/-! ## A read that fails -/

/-- A cache is to be started, and the store does not answer. -/
def failingStart : List (Command Sessions.service) :=
  [connecting,
    .occur (SessionEvent.plan "read" [.fail (Store.failure .connectionFailed "down" .null)]),
    .make "c" (.text "/a") (.bool false), .start "c" (.bool true)]

/-- The start is about to fail, as its read has. -/
def failedRead : Loop Sessions.service := step^[7] (commanded failingStart (unconnected {} false))

theorem steps_reach (count : Nat) (loop : Loop Sessions.service) :
    Reaches allowed loop (step^[count] loop) := by
  induction count with
  | zero => exact .refl
  | succ count ih =>
    rw [Function.iterate_succ_apply']
    exact ih.tail .step

theorem failedRead_reaches : Reaches anything (unconnected {} false) failedRead := by
  have next : ∀ (loop : Loop Sessions.service) (command : Command Sessions.service),
      loop.isBetween → command.isMomentary → Happens anything loop (loop.command command).1 :=
    fun loop command isBetween isMomentary => .command command isBetween isMomentary trivial
  exact .head (next _ _ rfl rfl)
    (.head (next _ _ (by decide +kernel) rfl) (.head (next _ _ (by decide +kernel) rfl)
    (.head (next _ _ (by decide +kernel) rfl) (steps_reach 7 _))))

/-- What the start is to end with. -/
def unreachable : Outcome Answer := .failed (.unavailable "localhost")

theorem failedRead_isAt : failedRead.IsAt 0 (.ended unreachable) (.start 0 true .reading) [] :=
  ⟨rfl, rfl⟩

/-- After a read that has failed the cache listens and its worker is at work, and neither is so any
more when the cache has been closed. -/
theorem failed_start_leaves_until_closed :
    (failedRead.step.settle 60).isIdle ∧ IsListed 0 (failedRead.step.settle 60).service ∧
      (∃ backlog, (failedRead.step.settle 60).IsAtWork 0 1 backlog) ∧
      ¬ IsListed 0 (enact 60 [.close "c"] (failedRead.step.settle 60)).service := by
  have settles : Reaches anything failedRead.step (failedRead.step.settle 60) := settle_reaches 60 _
  have closes :
      Reaches anything (failedRead.step.settle 60)
        (enact 60 [.close "c"] (failedRead.step.settle 60)) :=
    enact_reaches 60 [.close "c"] _ (by simp [anything]) (by decide +kernel)
  have isFailure : ∀ answer, unreachable ≠ .returned answer := fun answer same => by cases same
  have runs :
      ((failedRead.step.settle 60).caches[0]?).map (fun known => (known.phase, known.worker)) =
      some (.started, some 1) := by decide +kernel
  have isClosed : ((enact 60 [.close "c"] (failedRead.step.settle 60)).caches[0]?).map (·.phase) =
      some .closed := by
    decide +kernel
  have ran : (failedRead.caches[0]?).map (·.phase) = some .started := by decide +kernel
  obtain ⟨known, found, same⟩ := Option.map_eq_some_iff.mp runs
  obtain ⟨phase, knows⟩ := Prod.mk.inj same
  obtain ⟨known', found', leaves⟩ :=
    failed_start_leaves failedRead_reaches failedRead_isAt StartStage.noConfusion rfl
    isFailure settles (by decide +kernel)
  cases found.symm.trans found'
  rcases leaves with ⟨-, listens, worker, backlog, knows', -, -, isAtWork⟩ | ⟨closed, -⟩
  · cases knows.symm.trans knows'
    refine ⟨by decide +kernel, listens.mpr rfl, ⟨backlog, isAtWork (by decide +kernel)⟩, ?_⟩
    obtain ⟨last, isThere, phase⟩ := Option.map_eq_some_iff.mp isClosed
    obtain ⟨last', isThere', leaves⟩ := failed_start_leaves failedRead_reaches failedRead_isAt
      StartStage.noConfusion rfl isFailure (settles.trans closes) (by decide +kernel)
    cases isThere.symm.trans isThere'
    rcases leaves with ⟨runs, -⟩ | ⟨-, isOff, -⟩
    · cases runs.symm.trans phase
    · exact isOff fun _ => Option.map_eq_some_iff.mp ran
  · cases closed.symm.trans phase

/-- The store could not be reached. -/
def isUnreachable : Outcome Answer → Bool
  | .failed (.unavailable _) => true
  | _ => false

/-- **A start has failed, and its cache listens and has a worker** that waits for work. -/
theorem works_after_failed_start :
    Reaches anything (unconnected {} false) (enact 60 failingStart (unconnected {} false)) ∧
      (enact 60 failingStart (unconnected {} false)).isIdle ∧
      ((enact 60 failingStart (unconnected {} false)).outcome? 0).map isUnreachable = some true ∧
      ((enact 60 failingStart (unconnected {} false)).caches[0]?).map
        (fun known => (known.phase, known.worker)) =
        some (.started, some 1) ∧
      (enact 60 failingStart (unconnected {} false)).outcome? 1 = none ∧
      ((enact 60 failingStart (unconnected {} false)).service.sessions[0]?).map (·.listeners) =
        some [.cache 0] := by
  refine ⟨enact_reaches 60 failingStart _ (by simp [anything]) ?_, ?_, ?_, ?_, ?_, ?_⟩
  all_goals decide +kernel

end Loop

end WatchedNode
