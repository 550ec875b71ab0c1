/-
**No change is missed by a watch.**

While a session is open, each watcher waits at most once for each key (`IsKept.single_watch`). When
a look has been answered, or a fetch that has found the node, the watcher waits for the key
(`Answers.armed`), from the index after one that the session has been told (`Answered.index`). From
then on the watch asks for the same key from the same index, again and again, until it tells its
watcher, once, or the connection has failed, which the session then knows (`Happens.watch_course`).
-/
import WatchedNode.Proofs.Accounting
import WatchedNode.Proofs.Loop.Requests
import WatchedNode.Proofs.Store.Watching

namespace WatchedNode

/-! ## What is known of sessions -/

namespace Sessions

/-- The session can make calls. -/
def IsOpen (handle : Handle) (state : Sessions) : Prop :=
  ∃ session, state.sessions[handle]? = some session ∧ session.isOpen = true

/-- The session has been closed. -/
def IsClosed (handle : Handle) (state : Sessions) : Prop :=
  ∃ session, state.sessions[handle]? = some session ∧ session.isOpen = false

/-- What the session knows of the connection. -/
def link? (handle : Handle) (state : Sessions) : Option Link :=
  (state.sessions[handle]?).bind (·.link)

variable {handle : Handle} {state after : Sessions} {session changed : Session}

theorem IsOpen.not_closed (isOpen : state.IsOpen handle) : ¬ state.IsClosed handle := by
  rintro ⟨session, found, closed⟩
  obtain ⟨session', found', isOpen⟩ := isOpen
  cases found.symm.trans found'
  cases closed.symm.trans isOpen

theorem isOpen_of_found (found : state.sessions[handle]? = some session)
    (isOpen : ¬ state.IsClosed handle) : session.isOpen = true := by
  cases open? : session.isOpen with
  | true => rfl
  | false => exact absurd ⟨session, found, open?⟩ isOpen

theorem link?_of_found (found : state.sessions[handle]? = some session) :
    link? handle state = session.link := by
  rw [link?, found, Option.bind_some]

theorem Minds.closed (minds : Minds state after) (closed : state.IsClosed handle) :
    after.IsClosed handle := by
  obtain ⟨session, found, closed⟩ := closed
  obtain ⟨listeners, found'⟩ := minds.old found
  exact ⟨_, found', closed⟩

theorem Minds.link (minds : Minds state after) (handle : Handle) :
    link? handle after = link? handle state := by
  cases found : state.sessions[handle]? with
  | some session =>
    obtain ⟨listeners, found'⟩ := minds.old found
    rw [link?_of_found found, link?_of_found found']
  | none =>
    unfold link?
    rw [found]
    cases found' : after.sessions[handle]? with
    | none => rfl
    | some session =>
      rcases minds.new found' with ⟨session', impossible⟩ | ⟨options, listeners, rfl⟩
      · cases found.symm.trans impossible
      · rfl

/-- The sessions when one of them has been closed. -/
theorem modify_close {place : Handle} (found : state.sessions[place]? = some session)
    (handle : Handle) :
    (state.modify (some place) fun _ => session.close.1.1).sessions[handle]? =
      if handle = place then some session.close.1.1 else state.sessions[handle]? := by
  unfold modify
  dsimp only
  split
  · next here => rw [here, List.getElem?_modify_eq, found]; rfl
  · next other => rw [List.getElem?_modify_ne _ _ (Ne.symm other)]

theorem IsClosed.close {place : Handle} (found : state.sessions[place]? = some session)
    (closed : state.IsClosed handle) :
    IsClosed handle (state.modify (some place) fun _ => session.close.1.1) := by
  obtain ⟨session', found', closed⟩ := closed
  unfold IsClosed
  rw [modify_close found]
  split
  · exact ⟨_, rfl, rfl⟩
  · exact ⟨session', found', closed⟩

theorem link?_close {place : Handle} (found : state.sessions[place]? = some session)
    (handle : Handle) :
    link? handle (state.modify (some place) fun _ => session.close.1.1) = link? handle state := by
  unfold link?
  rw [modify_close found]
  split
  · next here => rw [here, found]; rfl
  · rfl

end Sessions

/-! ## Watches of a loop -/

namespace Loop

variable {allowed : Outside Sessions.service} {before after : Loop Sessions.service}
  {handle : Handle} {vigil : Vigil} {task : TaskId}

/-- The task watches for that on behalf of the session. -/
abbrev Watches (handle : Handle) (vigil : Vigil) (task : TaskId)
    (loop : Loop Sessions.service) : Prop :=
  loop.roll.Watches handle vigil task

/-! ### Nobody else does what a watch does -/

/-- A task that watches does nothing else. -/
def AreAlone (loop : Loop Sessions.service) : Prop :=
  ∀ (task : TaskId) (known : Task Sessions.service) (point : At) (rest : List (Frame At)),
    loop.tasks[task]? = some known → known.frames = .service point :: rest →
      point.point.vigil? ≠ none → rest = []

theorem Happens.areAlone (happens : Happens allowed before after) (areStacked : before.AreStacked)
    (isKept : before.IsKept) (areAlone : before.AreAlone) : after.AreAlone := by
  intro task known point rest found frames isWatch
  cases happens.inherits found with
  | @new frame unknown frames' enters isNew =>
    rw [frames'] at frames
    cases frames
    rfl
  | doomed isThere role was frames' => cases frames'.symm.trans frames
  | kept isThere role frames' steady =>
    exact areAlone task _ point rest isThere (frames'.symm.trans frames) isWatch
  | @turn old wake frame below isThere role isAt same frames' =>
    have isStack := areStacked.isAt isAt
    have stands : after.roll.stands task = some point := at?_of_frames found frames
    rw [frames'] at frames
    by_cases isService : frame.isService
    · cases frame with
      | service here =>
        obtain ⟨old', isThere', frames''⟩ := Option.map_eq_some_iff.mp isAt.frames
        cases isThere.symm.trans isThere'
        have isOnly : below = [] := by
          rw [same] at stands
          rcases turn_atSession isAt isStack isKept with
            ⟨handle, point', session, rfl, turns⟩ | idles
          · obtain ⟨stands', isNext, rfl⟩ :=
              Option.map_eq_some_iff.mp (turns.turns.self.symm.trans stands)
            obtain ⟨vigil, isVigil⟩ := Option.ne_none_iff_exists'.mp isWatch
            refine areAlone task old _ below isThere frames'' ?_
            rw [turns.accounts.vigil? isNext isVigil]
            exact Option.some_ne_none vigil
          · cases idles.turns.self.symm.trans stands
        rcases serviceTurn_next task here wake before.inTurn with ⟨outcome, -, finishes⟩
          | ⟨next, -, goesOn⟩
        · have finishes : (before.inTurn.frameTurn task (.service here) wake).2 = .finish outcome :=
            finishes
          rw [finishes, isOnly] at frames
          cases frames
        · have goesOn : ∀ rest, (before.inTurn.frameTurn task (.service here) wake).2.frames rest =
              .service next :: rest := goesOn
          rw [goesOn, isOnly] at frames
          cases frames
          rfl
      | _ => exact isService.elim
    · have begins :=
        begins_of_follows isService isStack (frameTurn_follows task frame wake before.inTurn) frames
      rcases Sessions.begins_or_closes (.inr begins) with ⟨operation, same⟩ | same
      · exact absurd (same ▸ rfl) isWatch
      · exact absurd (same ▸ rfl) isWatch

/-! ### What leaves watches alone -/

/-- The watches of a session go on, unless it is closed, and it knows what it knew. -/
structure LeavesWatches (handle : Handle) (before after : Loop Sessions.service) : Prop where
  closed : Sessions.IsClosed handle before.service → Sessions.IsClosed handle after.service
  kept {vigil : Vigil} {task : TaskId} : ¬ Sessions.IsClosed handle after.service →
    before.Watches handle vigil task → after.Watches handle vigil task
  old {vigil : Vigil} {task : TaskId} : after.Watches handle vigil task →
    before.Watches handle vigil task
  link : Sessions.link? handle after.service = Sessions.link? handle before.service

theorem LeavesWatches.refl (handle : Handle) (loop : Loop Sessions.service) :
    LeavesWatches handle loop loop :=
  ⟨id, fun {_ _} _ => id, fun {_ _} => id, rfl⟩

theorem LeavesWatches.trans {first second third : Loop Sessions.service}
    (left : LeavesWatches handle first second) (right : LeavesWatches handle second third) :
    LeavesWatches handle first third :=
  ⟨fun closed => right.closed (left.closed closed),
    fun {_ _} isLeft isWatch =>
      right.kept isLeft (left.kept (fun closed => isLeft (right.closed closed)) isWatch),
    fun {_ _} isWatch => left.old (right.old isWatch), right.link.trans left.link⟩

/-- A watch of a session that is open is in its account. -/
theorem Watches.listed (isKept : before.IsKept) (isOpen : ¬ Sessions.IsClosed handle before.service)
    (isWatch : before.Watches handle vigil task) :
    ∃ session, before.service.sessions[handle]? = some session ∧ session.isOpen = true ∧
      ⟨vigil.key, vigil.watcher, task⟩ ∈ session.watches := by
  obtain ⟨session, found⟩ := isKept.isThere isWatch
  have isOpen := Sessions.isOpen_of_found found isOpen
  exact ⟨session, found, isOpen, (isKept.sessions found).listed isOpen isWatch⟩

theorem Steady.leaves_watches (steady : Steady before after)
    (minds : Sessions.Minds before.service after.service) (isKept : before.IsKept)
    (handle : Handle) : LeavesWatches handle before after := by
  refine ⟨minds.closed, fun {vigil task} isLeft isWatch => ?_, fun {vigil task} isWatch => ?_,
    minds.link handle⟩
  · obtain ⟨session, found, isOpen, isListed⟩ :=
      Watches.listed isKept (fun closed => isLeft (minds.closed closed)) isWatch
    have isLive := ((isKept.sessions found).watch isListed).2
    obtain ⟨point, stands, isWatch⟩ := isWatch
    exact ⟨point, (steady.kept stands isLive).1, isWatch⟩
  · obtain ⟨point, stands, isWatch⟩ := isWatch
    refine ⟨point, (steady.old stands).resolve_right fun isFirst => ?_, isWatch⟩
    rcases Sessions.begins_or_closes isFirst with ⟨operation, same⟩ | same
    · cases (show point = _ from same) ▸ isWatch
    · cases (show point = _ from same) ▸ isWatch

theorem Closes.leaves_watches (closes : Closes before after) (handle : Handle) :
    LeavesWatches handle before after := by
  obtain ⟨place, session, found, performs⟩ := closes
  have minds : Sessions.Minds (before.service.modify (some place) fun _ => session.close.1.1)
      after.service := .of_heeds performs.heeds
  have same : ∀ task, after.roll.stands task = before.roll.stands task :=
    performs.at? session.close_silent
  refine ⟨fun closed => minds.closed (closed.close found), fun {vigil task} isLeft isWatch => ?_,
    fun {vigil task} isWatch => ?_, (minds.link handle).trans (Sessions.link?_close found handle)⟩
  · obtain ⟨point, stands, isWatch⟩ := isWatch
    exact ⟨point, (same task).trans stands, isWatch⟩
  · obtain ⟨point, stands, isWatch⟩ := isWatch
    exact ⟨point, (same task).symm.trans stands, isWatch⟩

/-- **Chores leave watches alone.** -/
theorem Chore.leaves_watches (chore : Chore allowed before after) (isKept : before.IsKept)
    (handle : Handle) :
    LeavesWatches handle before after := by
  rcases chore.steady with ⟨steady, minds⟩ | closes
  · exact steady.leaves_watches minds isKept handle
  · exact closes.leaves_watches handle

theorem Chores.leaves_watches (chores : Chores allowed before after) (isKept : before.IsKept)
    (handle : Handle) :
    LeavesWatches handle before after := by
  have both : LeavesWatches handle before after ∧ after.IsKept := by
    induction chores with
    | refl => exact ⟨.refl handle before, isKept⟩
    | tail _ chore step =>
      exact ⟨step.1.trans (chore.leaves_watches step.2 handle), chore.isKept step.2⟩
  exact both.1

/-! ### Turns -/

/-- A session that is closed stays so in turns. -/
theorem SessionTurns.closed {task : TaskId} {wake : Wake Plan} {place : Handle} {point : Point}
    {session : Session} (turns : SessionTurns task wake place point session before after)
    (closed : Sessions.IsClosed handle before.service) :
    Sessions.IsClosed handle after.service := by
  refine turns.minds.closed ?_
  obtain ⟨session', found, closed⟩ := closed
  unfold Sessions.IsClosed
  dsimp only
  by_cases here : handle = place
  · subst here
    cases turns.found.symm.trans found
    rw [List.getElem?_set_self (List.getElem?_eq_some_iff.mp found).1]
    exact ⟨_, rfl, turns.accounts.closed closed⟩
  · rw [List.getElem?_set_ne (Ne.symm here)]
    exact ⟨session', found, closed⟩

/-- What a session knows after the turn of a task of its own. -/
theorem SessionTurns.link {task : TaskId} {wake : Wake Plan} {point : Point} {session : Session}
    (turns : SessionTurns task wake handle point session before after) :
    Sessions.link? handle after.service =
      (Sessions.turn (before.moment task) handle before.service.isSlow point wake
        before.service.store
        session).2.1.link := by
  rw [turns.minds.link]
  unfold Sessions.link?
  dsimp only
  rw [List.getElem?_set_self (List.getElem?_eq_some_iff.mp turns.found).1]
  rfl

/-- A watch of a session that is new has been armed by an answer. -/
theorem SessionTurns.old {task other : TaskId} {wake : Wake Plan} {place : Handle} {point : Point}
    {session : Session} (turns : SessionTurns task wake place point session before after)
    (isWatch : after.Watches handle vigil other) : before.Watches handle vigil other ∨
      handle = place ∧ Sessions.ArmedBy point wake before.service.store vigil := by
  obtain ⟨point', stands, isWatch⟩ := isWatch
  rcases turns.turns.old stands with rfl | isOld | ⟨-, isSent⟩
  · obtain ⟨stands', isNext, same⟩ := Option.map_eq_some_iff.mp (turns.turns.self.symm.trans stands)
    cases same
    exact .inl ⟨point, turns.stands, turns.accounts.vigil? isNext isWatch⟩
  · exact .inl ⟨point', isOld, isWatch⟩
  · exact .inr (turns.accounts.armed isSent isWatch)

theorem Idles.closed {point : At} (idles : Idles task point before after)
    (closed : Sessions.IsClosed handle before.service) : Sessions.IsClosed handle after.service :=
  idles.minds.closed closed

theorem Idles.old {other : TaskId} {point : At} (idles : Idles task point before after)
    (isWatch : after.Watches handle vigil other) : before.Watches handle vigil other := by
  obtain ⟨point', stands, isWatch⟩ := isWatch
  rcases idles.turns.old stands with rfl | isOld | ⟨-, isSent⟩
  · cases idles.turns.self.symm.trans stands
  · exact ⟨point', isOld, isWatch⟩
  · cases isSent

/-- The state after a turn. -/
theorem IsAt.step {S : Service} {before : Loop S} {task : TaskId} {wake : Wake S.Reply}
    {frame : Frame S.Point} {rest : List (Frame S.Point)}
    (isAt : before.IsAt task wake frame rest) :
    before.step = afterTurn task frame rest (before.inTurn.frameTurn task frame wake) := by
  have step := step_isStep before
  generalize before.step = after at step
  cases step with
  | turn isAt' =>
    cases isAt.turn.symm.trans isAt'.turn
    cases isAt.frames.symm.trans isAt'.frames
    rfl
  | pause turn isOver =>
    cases isAt.turn.symm.trans turn
    exact absurd isAt.frames (isOver _ _)
  | job turn => cases isAt.turn.symm.trans turn
  | rest turn => cases isAt.turn.symm.trans turn

/-- A task that stands in a session that is there has its turn in it. -/
theorem IsAt.sessionTurns {task : TaskId} {wake : Wake Plan} {handle : Handle} {point : Point}
    {rest : List (Frame At)} {session : Session}
    (isAt : before.IsAt task wake (.service ⟨some handle, point⟩) rest)
    (areStacked : before.AreStacked) (isKept : before.IsKept)
    (found : before.service.sessions[handle]? = some session) :
    SessionTurns task wake handle point session before before.step := by
  have step : before.step = afterTurn task (.service (At.mk (some handle) point)) rest
    (before.inTurn.serviceTurn task (At.mk (some handle) point) wake) := isAt.step
  rw [step]
  rcases turn_atSession isAt (areStacked.isAt isAt) isKept with
    ⟨place, here, session', same, turns⟩ | idles
  · cases same
    cases found.symm.trans turns.found
    exact turns
  · exact absurd found (idles.nobody handle session rfl)

/-! ## Answers -/

/-- In its next step the session is answered, so that the watch is to be armed: to a look, whether
there is a node or not, or to a fetch that has found it. -/
def Answers (handle : Handle) (vigil : Vigil) (result : Except Error Record)
    (loop : Loop Sessions.service) : Prop :=
  ∃ task wake point rest errand call, loop.IsAt task wake (.service ⟨some handle, point⟩) rest ∧
    (∃ session, loop.service.sessions[handle]? = some session) ∧ point.made? = some (errand, call) ∧
    Sessions.heard point wake loop.service.store = some result ∧ Arms call.key errand result vigil

/-- A run in which the session has been given such answers, telling these indices of the store. -/
inductive Answered (allowed : Outside Sessions.service) (store : Store) (isSlow : Bool)
    (handle : Handle) :
    List Int → Loop Sessions.service → Prop
  | start : Answered allowed store isSlow handle [] (unconnected store isSlow)
  | answer {numbers : List Int} {number : Int} {before : Loop Sessions.service} {vigil : Vigil}
      {result : Except Error Record}
      (answered : Answered allowed store isSlow handle numbers before)
      (answers : before.Answers handle vigil result) (tells : indexOf result = some number) :
      Answered allowed store isSlow handle (numbers ++ [number]) before.step
  | other {numbers : List Int} {before after : Loop Sessions.service}
      (answered : Answered allowed store isSlow handle numbers before)
      (happens : Happens allowed before after)
      (unanswered : after = before.step → ∀ vigil result, ¬ before.Answers handle vigil result) :
      Answered allowed store isSlow handle numbers after

variable {store : Store} {isSlow : Bool} {numbers : List Int}

theorem Answered.run (answered : Answered allowed store isSlow handle numbers before) :
    Reaches allowed (unconnected store isSlow) before := by
  induction answered with
  | start => exact .refl
  | answer _ _ _ run => exact run.tail .step
  | other _ happens _ run => exact run.tail happens

theorem Answered.areStacked (answered : Answered allowed store isSlow handle numbers before) :
    before.AreStacked := answered.run.areStacked (fresh_areStacked _)

/-- A watch that is new is one for which the session has just been answered. -/
theorem Happens.old_watch (happens : Happens allowed before after) (areStacked : before.AreStacked)
    (isKept : before.IsKept) (isWatch : after.Watches handle vigil task) :
    before.Watches handle vigil task ∨
      after = before.step ∧ ∃ result, before.Answers handle vigil result := by
  rcases happens.chores areStacked with turn | chores
  · obtain ⟨isAt, isStack⟩ := turn
    rcases turn_atSession isAt isStack isKept with ⟨place, here, session, rfl, turns⟩ | idles
    · rcases turns.old isWatch with isOld | ⟨rfl, errand, call, result, isMade, heard, arms⟩
      · exact .inl isOld
      · exact .inr ⟨isAt.step.symm, result, _, _, _, _, errand, call, isAt, ⟨session, turns.found⟩,
          isMade, heard, arms⟩
    · exact .inl (idles.old isWatch)
  · exact .inl ((Chores.leaves_watches chores isKept handle).old isWatch)

theorem Answers.eq {vigil' : Vigil} {result result' : Except Error Record}
    (first : before.Answers handle vigil result) (second : before.Answers handle vigil' result') :
    result = result' := by
  obtain ⟨task, wake, point, rest, errand, call, isAt, -, isMade, heard, arms⟩ := first
  obtain ⟨task', wake', point', rest', errand', call', isAt', -, isMade', heard', arms'⟩ := second
  cases isAt.turn.symm.trans isAt'.turn
  cases isAt.frames.symm.trans isAt'.frames
  exact Option.some.inj (heard.symm.trans heard')

/-- **Every watch asks from the index after one that the session has been told.** -/
theorem Answered.index (answered : Answered allowed store isSlow handle numbers before)
    (isWatch : before.Watches handle vigil task) :
    ∃ number ∈ numbers, vigil.index = some (number + 1) := by
  induction answered with
  | start =>
    obtain ⟨point, stands, -⟩ := isWatch
    cases stands
  | @answer numbers number before vigil' result answered answers tells step =>
    have happens : Happens allowed before before.step := .step
    rcases happens.old_watch answered.areStacked answered.run.isKept isWatch with
      isOld | ⟨-, result', answers'⟩
    · obtain ⟨earlier, member, index⟩ := step isOld
      exact ⟨earlier, List.mem_append_left _ member, index⟩
    · cases answers.eq answers'
      obtain ⟨_, _, _, _, _, _, _, _, _, _, arms⟩ := answers'
      exact ⟨number, List.mem_append_right _ List.mem_cons_self, arms.index tells⟩
  | other answered happens unanswered step =>
    rcases happens.old_watch answered.areStacked answered.run.isKept isWatch with
      isOld | ⟨same, result, answers⟩
    · exact step isOld
    · exact absurd answers (unanswered same vigil result)

theorem Reaches.areAlone (run : Reaches allowed (unconnected store isSlow) before) :
    before.AreAlone := by
  have start : (unconnected store isSlow).AreAlone := fun task known point rest found => by
    simp [unconnected, fresh] at found
  have step : ∀ first second, Happens allowed first second →
      Reaches allowed (unconnected store isSlow) first ∧
      first.AreAlone → Reaches allowed (unconnected store isSlow) second ∧ second.AreAlone := by
    rintro first second happens ⟨run, areAlone⟩
    exact ⟨run.tail happens,
      happens.areAlone (Reaches.areStacked run (fresh_areStacked _)) run.isKept areAlone⟩
  exact (@Reaches.keeps _ _ (fun loop => Reaches allowed (unconnected store isSlow) loop ∧
    loop.AreAlone) _ _
    run ⟨.refl, start⟩ step).2

/-! ## What becomes of a watch -/

/-- What a session does in a turn of its task. -/
def reaction (task : TaskId) (wake : Wake Plan) (handle : Handle) (point : Point)
    (loop : Loop Sessions.service) : Reaction Sessions SessionCall At Plan :=
  Sessions.resume (loop.moment task) ⟨some handle, point⟩ wake loop.service

/-- What becomes of a watch when something happens while its session stays open. -/
inductive WatchCourse (handle : Handle) (vigil : Vigil) (task : TaskId)
    (before after : Loop Sessions.service) : Prop
  /-- It goes on. If it had its turn, the store did not answer, or that took too long; nobody has
  been told of anything, and the session knows what it knew. -/
  | goesOn (stays : after.Watches handle vigil task)
      (quiet : ∀ wake point rest, before.IsAt task wake (.service ⟨some handle, point⟩) rest →
        after = before.step →
          (∀ result, Sessions.heard point wake before.service.store = some result →
          ∃ message payload, result = .error (.store .watchTimedOut message payload)) ∧
        newsIn (before.reaction task wake handle point).effects = [] ∧
        Sessions.link? handle after.service = Sessions.link? handle before.service)
  /-- It has had its last turn. -/
  | ends {wake : Wake Plan} {point : Point} {outcome : Outcome Answer}
      (isAt : before.IsAt task wake (.service ⟨some handle, point⟩) [])
      (ended : after.outcome? task = some outcome)
      (ends : WatchEnds vigil wake (Sessions.heard point wake before.service.store)
        (Sessions.link? handle before.service)
          (newsIn (before.reaction task wake handle point).effects)
        (Sessions.link? handle after.service) outcome)

/-- A task that ends in its turn has ended. -/
theorem serviceTurn_ends {task : TaskId} {wake : Wake Plan} {point : At}
    (isAt : before.IsAt task wake (.service point) []) {outcome : Outcome Answer}
    (finishes : (Sessions.resume (before.moment task) point wake before.service).verdict =
      .finish outcome) :
    (afterTurn task (.service point) [] (before.inTurn.serviceTurn task point wake)).outcome? task =
      some outcome := by
  obtain ⟨known, found, -⟩ := Option.map_eq_some_iff.mp isAt.frames
  obtain ⟨known', found', -⟩ :=
    (frameTurn_spares task (.service point) wake before.inTurn).old task known found
  have found' : (before.inTurn.serviceTurn task point wake).1.tasks[task]? = some known' := found'
  rcases serviceTurn_next task point wake before.inTurn with ⟨given, verdict, finishes'⟩
    | ⟨next, isNext, -⟩
  · have same : given = outcome := by
      have verdict : (Sessions.resume (before.moment task) point wake before.service).verdict =
        .finish given := verdict
      cases verdict.symm.trans finishes
      rfl
    generalize before.inTurn.serviceTurn task point wake = turn at found' finishes'
    obtain ⟨loop, way⟩ := turn
    cases finishes'
    rw [same]
    have noted : (loop.noteEnd task (.service point) (.finish outcome)).tasks[task]? =
        some known' := found'
    exact finish_outcome noted outcome
  · have isNext :
        (Sessions.resume (before.moment task) point wake before.service).verdict.next? =
          some next :=
      isNext
    rw [finishes] at isNext
    cases isNext

theorem reaction_eq {task : TaskId} {wake : Wake Plan} {point : Point} {session : Session}
    (found : before.service.sessions[handle]? = some session) :
    (before.reaction task wake handle point).effects =
      (Sessions.turn (before.moment task) handle before.service.isSlow point wake
        before.service.store
        session).2.2.1 ∧
    (before.reaction task wake handle point).verdict =
      Sessions.verdictAt handle
        (Sessions.turn (before.moment task) handle before.service.isSlow point wake
        before.service.store session).2.2.2 := by
  unfold reaction
  rcases Sessions.resume_eq (before.moment task) ⟨some handle, point⟩ wake before.service with
    ⟨place, here, session', found', same, resumed⟩ | ⟨nobody, -⟩
  · cases same
    cases found.symm.trans found'
    rw [resumed]
    exact ⟨rfl, rfl⟩
  · exact absurd found (nobody handle session rfl)

/-- What becomes of a watch in a turn of its own. -/
theorem SessionTurns.course {wake : Wake Plan} {point : Point} {session : Session}
    (isAt : before.IsAt task wake (.service ⟨some handle, point⟩) [])
    (isWatch : point.vigil? = some vigil)
    (same : after = afterTurn task (.service (At.mk (some handle) point)) []
      (before.inTurn.serviceTurn task (At.mk (some handle) point) wake))
    (turns : SessionTurns task wake handle point session before after)
    (isOpen : session.isOpen = true) :
    WatchCourse handle vigil task before after := by
  have watches := Sessions.turn_watches (before.moment task) handle before.service.isSlow wake
    before.service.store session isWatch
  obtain ⟨effects, verdict⟩ := @reaction_eq before handle task wake point session turns.found
  have link := turns.link
  have link' : Sessions.link? handle before.service = session.link :=
    Sessions.link?_of_found turns.found
  rcases watches.course isOpen with ⟨stands, isNext, isWatch', same', quiet, patient⟩
    | ⟨outcome, finishes, ends⟩
  · refine .goesOn ⟨stands, ?_, isWatch'⟩ fun wake' point' rest' isAt' _ => ?_
    · rw [turns.turns.self, isNext, Option.map_some]
    · cases isAt.turn.symm.trans isAt'.turn
      cases isAt.frames.symm.trans isAt'.frames
      refine ⟨patient, effects ▸ quiet, ?_⟩
      rw [link, same', link']
  · rw [← effects, ← link, ← link'] at ends
    refine .ends isAt ?_ ends
    rw [same]
    refine serviceTurn_ends isAt ?_
    have verdict' : (Sessions.resume (before.moment task) ⟨some handle, point⟩ wake
      before.service).verdict = _ := verdict
    rw [verdict', finishes, Sessions.verdictAt]

/-- **A watch goes on until its own last turn**, as long as its session is open. -/
theorem Happens.watch_course (run : Reaches allowed (unconnected store isSlow) before)
    (happens : Happens allowed before after) (isOpen : ¬ Sessions.IsClosed handle after.service)
    (isWatch : before.Watches handle vigil task) : WatchCourse handle vigil task before after := by
  have areStacked : before.AreStacked := Reaches.areStacked run (fresh_areStacked _)
  have isKept : before.IsKept := run.isKept
  obtain ⟨point, stands, isWatch'⟩ := isWatch
  by_cases ownTurn : ∃ wake rest, before.IsAt task wake (.service ⟨some handle, point⟩) rest ∧
      after = before.step
  · obtain ⟨wake, rest, isAt, rfl⟩ := ownTurn
    have isOnly : rest = [] := by
      obtain ⟨known, found, frames⟩ := Option.map_eq_some_iff.mp isAt.frames
      exact run.areAlone task known _ rest found frames (isWatch' ▸ Option.some_ne_none vigil)
    subst isOnly
    obtain ⟨session, found⟩ := isKept.isThere ⟨point, stands, isWatch'⟩
    have turns := isAt.sessionTurns areStacked isKept found
    refine turns.course isAt isWatch' isAt.step (Sessions.isOpen_of_found found fun closed => ?_)
    exact isOpen (turns.closed closed)
  · refine .goesOn ?_ fun wake point' rest isAt same => ?_
    · rcases happens.chores areStacked with turn | chores
      · obtain @⟨other, wake, point', rest, isAt, isStack⟩ := turn
        have different : task ≠ other := by
          rintro rfl
          have here : before.roll.stands task = some point' := isAt.at?
          cases stands.symm.trans here
          exact ownTurn ⟨wake, rest, isAt, isAt.step.symm⟩
        rcases turn_atSession isAt isStack isKept with ⟨place, here, session, -, turns⟩ | idles
        · exact ⟨point, turns.turns.kept different stands, isWatch'⟩
        · exact ⟨point, idles.turns.kept different stands, isWatch'⟩
      · exact (Chores.leaves_watches chores isKept handle).kept isOpen ⟨point, stands, isWatch'⟩
    · have here : before.roll.stands task = some ⟨some handle, point'⟩ := isAt.at?
      cases stands.symm.trans here
      exact absurd ⟨wake, rest, isAt, same⟩ ownTurn

/-- **Each watcher waits at most once for each key**, while the session is open. -/
theorem IsKept.single_watch {loop : Loop Sessions.service} (isKept : loop.IsKept)
    (isOpen : Sessions.IsOpen handle loop.service) {first second : Vigil} {task other : TaskId}
    (isWatch : loop.Watches handle first task) (isWatch' : loop.Watches handle second other)
    (key : first.key = second.key) (watcher : first.watcher = second.watcher) : task = other := by
  obtain ⟨session, found, isOpen⟩ := isOpen
  have kept := isKept.sessions found
  have listed := kept.listed isOpen isWatch
  rw [key, watcher] at listed
  exact kept.single listed (kept.listed isOpen isWatch')

/-- **After such an answer the watcher waits for the key.** -/
theorem Answers.armed (run : Reaches allowed (unconnected store isSlow) before)
    {result : Except Error Record} (answers : before.Answers handle vigil result) :
    ∃ task index, before.step.Watches handle ⟨vigil.key, vigil.watcher, index⟩ task := by
  obtain ⟨task, wake, point, rest, errand, call, isAt, ⟨session, found⟩, isMade, heard, arms⟩ :=
    answers
  have areStacked : before.AreStacked := Reaches.areStacked run (fresh_areStacked _)
  have isKept : before.step.IsKept := Reaches.isKept (run.tail .step)
  have step : before.step = afterTurn task (.service (At.mk (some handle) point)) rest
    (before.inTurn.serviceTurn task (At.mk (some handle) point) wake) := isAt.step
  rcases turn_atSession isAt (areStacked.isAt isAt) run.isKept with
    ⟨place, here, session', same, turns⟩ | idles
  · cases same
    rw [← step] at turns
    have armed : Sessions.ArmedBy point wake before.service.store vigil :=
      ⟨errand, call, result, isMade, heard, arms⟩
    obtain ⟨task', isListed⟩ :=
      Sessions.turn_arms (before.moment task) handle before.service.isSlow session' armed
    have isThere := List.getElem?_set_self (a := (Sessions.turn (before.moment task) handle
      before.service.isSlow point wake before.service.store session').2.1)
      (List.getElem?_eq_some_iff.mp turns.found).1
    obtain ⟨listeners, found'⟩ := turns.minds.old isThere
    obtain ⟨⟨index, isWatch⟩, -⟩ := (isKept.sessions found').watch isListed
    exact ⟨task', index, isWatch⟩
  · exact absurd found (idles.nobody handle session rfl)

/-- **No change is missed.** In every run, while a session is open:

* each watcher waits at most once for each key;
* after the answer to a look, whether there is a node or not, and to a fetch that has found it, the
  watcher waits for the key, from the index after the answer's or from an earlier one, if the
  answer's index is not less than those before;
* a watch asks for its key from its index whenever it asks, until its last turn, in which its
  watcher is told, once, or the connection has failed, or what was said is no failure of the store,
  or it has been cancelled from outside. -/
theorem misses_no_change (answered : Answered allowed store isSlow handle numbers before)
    (happens : Happens allowed before after) (isOpen : Sessions.IsOpen handle after.service) :
    (∀ first second task other, after.Watches handle first task →
      after.Watches handle second other →
      first.key = second.key → first.watcher = second.watcher → task = other) ∧
    (∀ vigil result number, after = before.step → before.Answers handle vigil result →
      indexOf result = some number → (∀ earlier ∈ numbers, earlier ≤ number) →
        ∃ task index, after.Watches handle ⟨vigil.key, vigil.watcher, some index⟩ task ∧
          index ≤ number + 1) ∧
    ∀ vigil task, before.Watches handle vigil task → WatchCourse handle vigil task before after ∧
      ∀ wake point rest errand call, before.IsAt task wake (.service ⟨some handle, point⟩) rest →
        point.made? = some (errand, call) → call = .watch vigil.key vigil.index := by
  have run := answered.run
  have areStacked := answered.areStacked
  have isKept : after.IsKept := Reaches.isKept (run.tail happens)
  refine ⟨fun first second task other isWatch isWatch' =>
    isKept.single_watch isOpen isWatch isWatch',
    fun vigil result number step answers tells rising => ?_,
    fun vigil task isWatch => ⟨happens.watch_course run isOpen.not_closed isWatch, ?_⟩⟩
  · obtain ⟨task, index, isWatch⟩ := answers.armed run
    obtain ⟨earlier, member, isIndex⟩ := (Answered.answer answered answers tells).index isWatch
    cases isIndex
    refine ⟨task, earlier + 1, step ▸ isWatch, ?_⟩
    rcases List.mem_append.mp member with isEarlier | isLast
    · exact Int.add_le_add_right (rising earlier isEarlier) 1
    · exact Int.le_of_eq (congrArg (· + 1) (List.mem_singleton.mp isLast))
  · intro wake point rest errand call isAt isMade
    obtain ⟨point', stands, isWatch⟩ := isWatch
    have here : before.roll.stands task = some ⟨some handle, point⟩ := isAt.at?
    cases stands.symm.trans here
    exact Point.call_of_vigil isWatch isMade

/-! ## Two looks -/

/-- An answer to the errand can arm a watch. -/
def canArm : Errand → Bool
  | .looking (some _) | .fetching _ (some _) _ => true
  | _ => false

/-- In the next step nothing is answered that can arm a watch. -/
def isQuiet (loop : Loop Sessions.service) : Bool :=
  loop.turn.all fun turn => (loop.roll.stands turn.1).all fun point =>
    point.point.made?.all fun made => !canArm made.1

theorem not_answers (isQuiet : before.isQuiet = true) (vigil : Vigil)
    (result : Except Error Record) :
    ¬ before.Answers handle vigil result := by
  rintro ⟨task, wake, point, rest, errand, call, isAt, -, isMade, -, arms⟩
  have stands : before.roll.stands task = some ⟨some handle, point⟩ := isAt.at?
  unfold Loop.isQuiet at isQuiet
  rw [isAt.turn, Option.all_some, stands, Option.all_some, isMade, Option.all_some] at isQuiet
  cases arms <;> cases isQuiet

theorem Answered.step (answered : Answered allowed store isSlow handle numbers before)
    (isQuiet : before.isQuiet = true) : Answered allowed store isSlow handle numbers before.step :=
  .other answered .step fun _ => not_answers isQuiet

/-- Nothing is answered that can arm a watch until the loop is at rest. -/
def settlesQuietly : Nat → Loop Sessions.service → Bool
  | 0, _ => true
  | fuel + 1, loop => loop.isIdle || loop.isQuiet && settlesQuietly fuel loop.step

theorem Answered.settle
    (answered : Answered allowed store isSlow handle numbers before) {fuel : Nat}
    (quietly : settlesQuietly fuel before = true) :
    Answered allowed store isSlow handle numbers (before.settle fuel) := by
  induction fuel generalizing before with
  | zero => exact answered
  | succ fuel step =>
    unfold Loop.settle
    split
    · exact answered
    · next isBusy =>
      unfold settlesQuietly at quietly
      rw [Bool.eq_false_iff.mpr isBusy, Bool.false_or, Bool.and_eq_true] at quietly
      exact step (answered.step quietly.1) quietly.2

/-- A command is given between two jobs. -/
theorem Answered.command (answered : Answered anything store isSlow handle numbers before)
    (command : Command Sessions.service) (isBetween : before.isBetween)
    (isMomentary : command.isMomentary) :
    Answered anything store isSlow handle numbers (before.command command).1 := by
  refine .other answered (.command command isBetween isMomentary trivial) fun _ => not_answers ?_
  rw [isQuiet, Option.isNone_iff_eq_none.mp isBetween]
  rfl

/-- Somebody looks for a node, to be told when it changes. -/
def looking : Command Sessions.service := .operate (Operation.look (.text "/a") (some (.named "w")))

/-- The first look is about to be answered. -/
def firstLook : Loop Sessions.service :=
  (commanded [connecting, looking] (unconnected {} false)).step.step

/-- Another node is written while the watch waits. -/
def writing : Command Sessions.service := .occur (SessionEvent.write "/b" none)

/-- The second look is about to be answered. -/
def secondLook : Loop Sessions.service :=
  (commanded [writing, looking] (firstLook.step.settle 10)).step.step

/-- The next step of a task of the first session that has its turn at that call. -/
theorem answers_of_turn {loop : Loop Sessions.service} {task : TaskId} {errand : Errand}
    {call : StoreCall} {failures : Nat} {result : Except Error Record}
    (isThere : loop.service.sessions.length = 1) (turn : loop.turn = some (task, .goOn))
    (frames :
      (loop.tasks[task]?).map (·.frames) = some [.service ⟨some 0, .ask errand call failures⟩])
    (heard : (loop.service.store.submit call).2.1.answer? = some result)
    (arms : Arms call.key errand result vigil) : loop.Answers 0 vigil result :=
  ⟨task, .goOn, .ask errand call failures, [], errand, call, ⟨turn, frames⟩,
    ⟨_, List.getElem?_eq_getElem (isThere ▸ Nat.zero_lt_one)⟩, rfl, heard, arms⟩

/-- Between two looks nothing that happens to the node is missed. -/
theorem misses_no_change_between_looks :
    ∃ task index, secondLook.step.Watches 0 ⟨"/a", .named "w", some index⟩ task ∧ index ≤ 2 := by
  have absent : ∀ index : Int, Arms "/a" (.looking (some (.named "w")))
      (.error (Store.keyNotFound (.map [("index", .int index)]))) ⟨"/a", .named "w",
        some (index + 1)⟩ :=
    fun index => .absent _ rfl
  have first : Answered anything {} false 0 [] firstLook := by
    refine .step (.step (.command (.command .start connecting rfl rfl) looking ?_ rfl) ?_) ?_
    all_goals decide +kernel
  have isAnswered : firstLook.Answers 0 ⟨"/a", .named "w", some 1⟩
      (.error (Store.keyNotFound (.map [("index", .int 0)]))) :=
    @answers_of_turn _ firstLook 0 (.looking (some (.named "w"))) (.read "/a") 0 _
      (by decide +kernel) rfl rfl rfl (absent 0)
  have second : Answered anything {} false 0 [0] secondLook := by
    refine .step
      (.step (.command (.command (.settle (.answer first isAnswered rfl) ?_) writing ?_ rfl)
      looking ?_ rfl) ?_) ?_
    all_goals decide +kernel
  have isAnswered' : secondLook.Answers 0 ⟨"/a", .named "w", some 2⟩
      (.error (Store.keyNotFound (.map [("index", .int 1)]))) :=
    @answers_of_turn _ secondLook 2 (.looking (some (.named "w"))) (.read "/a") 0 _
      (by decide +kernel) rfl rfl rfl (absent 1)
  have isOpen : (secondLook.step.service.sessions[0]?).map (·.isOpen) = some true := by
    decide +kernel
  have isOpen : Sessions.IsOpen 0 secondLook.step.service := Option.map_eq_some_iff.mp isOpen
  exact (misses_no_change second .step isOpen).2.1 _ _ 1 rfl isAnswered' rfl (by decide)

end Loop

end WatchedNode
