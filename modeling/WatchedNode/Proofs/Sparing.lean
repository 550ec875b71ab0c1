/-
**Who is cancelled.**

Where nobody outside cancels what is held, a session cancels only its own probe and watches, and
only when it is closed. So a task that is to go on cancelled stands at a point of a session that has
been closed (`Reaches.areSpared`).
-/
import WatchedNode.Proofs.Loop.Cancelled
import WatchedNode.Proofs.Watching

namespace WatchedNode

open Relation

variable {S : Service}

/-- Only when it is closed a session cancels anybody; then it sends out nobody. -/
theorem Accounts.closes_of_cancel {handle : Handle} {next self task : TaskId} {arms : Vigil → Prop}
    {point : Point} {session : Session} {turn : SessionTurn}
    (accounts : Accounts handle next self arms point session turn)
    (cancelled : .cancel task ∈ turn.2.1) :
    point = .begin .stop ∧ turn.1.isOpen = false ∧ errands turn.2.1 = [] := by
  cases accounts with
  | goesOn sends => exact absurd cancelled (sends.harmless.not_cancels task)
  | ends sends => exact absurd cancelled (sends.harmless.not_cancels task)
  | disarms isWatch sends same effects silent noCancel =>
    rw [effects] at cancelled
    rcases List.mem_append.mp cancelled with early | late
    · exact absurd early (sends.harmless.not_cancels task)
    · exact absurd late (noCancel task)
  | unprobes isProbe same harmless => exact absurd cancelled (harmless.not_cancels task)
  | closes isStop same effects => exact ⟨isStop, by rw [same]; rfl, effects ▸ session.close_silent⟩

namespace Loop

/-- Nobody outside cancels what is held. -/
def lenient : Outside S := fun _ command => ∀ tickets, command ≠ .release tickets .cancel

/-- The task has ended, or stands at a point of a session that has been closed. -/
def IsRetired (task : TaskId) (loop : Loop Sessions.service) : Prop :=
  ∃ known, loop.tasks[task]? = some known ∧ (known.frames = [] ∨
    ∃ handle here, known.point? = some ⟨some handle, here⟩ ∧ Sessions.IsClosed handle loop.service)

/-- Whoever is cancelled belongs to a session that has been closed. -/
def AreSpared (loop : Loop Sessions.service) : Prop :=
  ∀ task, loop.IsCancelled task → loop.IsRetired task

variable {before after : Loop Sessions.service}

/-- A task with the same frames stays left. -/
theorem IsRetired.kept {task : TaskId} {known known' : Task Sessions.service}
    (isLeft : before.IsRetired task) (found : before.tasks[task]? = some known)
    (found' : after.tasks[task]? = some known') (frames : known'.frames = known.frames)
    (closed : ∀ handle, Sessions.IsClosed handle before.service →
      Sessions.IsClosed handle after.service) :
    after.IsRetired task := by
  obtain ⟨known'', found'', isOver | ⟨handle, here, stands, isClosed⟩⟩ := isLeft
  · cases found.symm.trans found''
    exact ⟨known', found', .inl (frames.trans isOver)⟩
  · cases found.symm.trans found''
    exact ⟨known', found', .inr ⟨handle, here, (Task.point?_of_frames frames).trans stands,
      closed handle isClosed⟩⟩

/-- **Tasks that stay where they stand are spared**, if those that are cancelled are left. -/
theorem AreSpared.stand {fates : Fates Sessions.service} (areSpared : before.AreSpared)
    (stand : Stand fates before after)
    (closed : ∀ handle, Sessions.IsClosed handle before.service →
      Sessions.IsClosed handle after.service)
    (new : ∀ (task : TaskId) (known : Task Sessions.service), before.tasks[task]? = none →
      after.tasks[task]? = some known → ¬ known.status.isCancelled)
    (turn : ∀ task, after.turn = some (task, .cancelled) → before.IsCancelled task)
    (fated : ∀ (task : TaskId) (known : Task Sessions.service) (status : Status Plan),
      before.tasks[task]? = some known → fates task known.point? status → status.isCancelled →
        ∃ handle here, before.at? task = some ⟨some handle, here⟩ ∧
          Sessions.IsClosed handle after.service) :
    after.AreSpared := by
  have left : ∀ task, before.IsCancelled task → after.IsRetired task := by
    intro task cancelled
    have isLeft := areSpared task cancelled
    obtain ⟨known, found, -⟩ := isLeft
    obtain ⟨known', found', frames, -⟩ := stand task known found
    exact (areSpared task cancelled).kept found found' frames closed
  rintro task (given | ⟨known', found', isCancelled⟩)
  · exact left task (turn task given)
  · cases found : before.tasks[task]? with
    | none => exact absurd isCancelled (new task known' found found')
    | some known =>
      obtain ⟨known'', found'', frames, status⟩ := stand task known found
      cases found'.symm.trans found''
      rcases status with same | isPlain | befalls
      · exact left task (.inr ⟨known, found, same ▸ isCancelled⟩)
      · exact absurd isCancelled isPlain.not_cancelled
      · obtain ⟨handle, here, stands, isClosed⟩ := fated task known _ found befalls isCancelled
        rw [at?_of_found found] at stands
        exact ⟨known', found',
          .inr ⟨handle, here, (Task.point?_of_frames frames).trans stands, isClosed⟩⟩

/-- Where only the service changes, and no session opens again. -/
theorem AreSpared.setService (areSpared : before.AreSpared) {state : Sessions}
    (closed : ∀ handle, Sessions.IsClosed handle before.service → Sessions.IsClosed handle state) :
    (before.setService state).AreSpared :=
  areSpared.stand (.of_eq rfl : Stand noFate _ _) closed (fun _ _ gone here => by
    cases gone.symm.trans here)
    (fun _ given => .inl given) fun _ _ _ _ => False.elim

/-- Where no task comes in, and nobody is cancelled. -/
theorem AreSpared.mild {fates : Fates Sessions.service} (areSpared : before.AreSpared)
    (stand : Stand fates before after) (length : after.tasks.length = before.tasks.length)
    (service : after.service = before.service)
    (turn : ∀ task, after.turn = some (task, .cancelled) → before.IsCancelled task)
    (isMild : ∀ task point status, fates task point status → ¬ status.isCancelled) :
    after.AreSpared := by
  refine areSpared.stand stand (fun handle isClosed => service ▸ isClosed)
    (fun task known gone found => ?_) turn
    fun task known status _ befalls isCancelled => absurd isCancelled (isMild _ _ _ befalls)
  have isThere := (List.getElem?_eq_some_iff.mp found).1
  rw [length] at isThere
  cases gone.symm.trans (List.getElem?_eq_getElem isThere)

/-- What effects do to a task that is named in none of them is no cancellation. -/
theorem Befalls.named {effects : List SessionEffect} {task : TaskId} {point : Option At}
    {status : Status Plan} (befalls : Befalls (S := Sessions.service) effects task point status)
    (isCancelled : status.isCancelled) : .cancel task ∈ effects := by
  rcases befalls with named | named
  · exact named
  · exact isCancelled.elim

/-- **Effects spare all but those that they cancel**, who are left. -/
theorem AreSpared.performs {effects : List SessionEffect} (areSpared : before.AreSpared)
    (performs : Performs (S := Sessions.service) effects before after)
    (named : ∀ task, .cancel task ∈ effects → errands effects = [] ∧
      ∃ handle here, before.at? task = some ⟨some handle, here⟩ ∧
        Sessions.IsClosed handle before.service) :
    after.AreSpared := by
  have closed : ∀ handle, Sessions.IsClosed handle before.service →
      Sessions.IsClosed handle after.service :=
    fun handle => (Sessions.Minds.of_heeds performs.heeds).closed
  refine areSpared.stand performs.old closed (fun task known gone found isCancelled => ?_)
    (fun task given => .inl (performs.turn ▸ given)) fun task known status found befalls
      isCancelled => ?_
  · have isLate : before.tasks.length ≤ task := List.getElem?_eq_none_iff.mp gone
    have isThere := (List.getElem?_eq_some_iff.mp found).1
    rw [performs.length] at isThere
    obtain ⟨place, rfl⟩ := Nat.exists_eq_add_of_le isLate
    have isSent : place < (errands effects).length := Nat.lt_of_add_lt_add_left isThere
    obtain ⟨known', found', -, isPlain | befalls⟩ :=
      performs.new place _ (List.getElem?_eq_getElem isSent)
    · cases found.symm.trans found'
      exact isPlain.not_cancelled isCancelled
    · cases found.symm.trans found'
      rw [(named _ (befalls.named isCancelled)).1] at isSent
      exact absurd isSent (Nat.not_lt_zero place)
  · obtain ⟨-, handle, here, stands, isClosed⟩ := named task (befalls.named isCancelled)
    exact ⟨handle, here, stands, closed handle isClosed⟩

/-- A task that is running goes on, unless it is named. -/
theorem Performs.not_cancelled {effects : List SessionEffect} {task : TaskId}
    {known : Task Sessions.service}
    (performs : Performs (S := Sessions.service) effects before after)
    (isBetween : before.turn = none) (found : before.tasks[task]? = some known)
    (runs : known.status = .running) (uncancelled : .cancel task ∉ effects) :
    ¬ after.IsCancelled task := by
  rintro (given | ⟨known', found', isCancelled⟩)
  · rw [performs.turn, isBetween] at given
    cases given
  · obtain ⟨known'', found'', -, status⟩ := performs.old task known found
    cases found'.symm.trans found''
    rcases status with same | isPlain | befalls
    · rw [same, runs] at isCancelled
      exact isCancelled
    · exact isPlain.not_cancelled isCancelled
    · exact uncancelled (befalls.named isCancelled)

/-- Who is in the account of a session that is closed is left. -/
theorem AreSpared.closes {session : Session} {handle : Handle} (areSpared : before.AreSpared)
    (isKept : before.IsKept) (found : before.service.sessions[handle]? = some session)
    (performs : Performs (S := Sessions.service) session.close.1.2
      (before.setService (before.service.modify (some handle) fun _ => session.close.1.1)) after) :
    after.AreSpared := by
  have isClosed :
      Sessions.IsClosed handle (before.service.modify (some handle) fun _ => session.close.1.1) :=
    ⟨_, (Sessions.modify_close found handle).trans (if_pos rfl), rfl⟩
  refine (areSpared.setService fun other isClosed => isClosed.close found).performs performs
    fun task cancelled => ⟨session.close_silent, ?_⟩
  obtain ⟨here, stands, -⟩ := (isKept.sessions found).stands (Session.close_cancels cancelled)
  exact ⟨handle, here, stands, isClosed⟩

/-- What happens at the service spares all tasks, but those of a session that is closed. -/
theorem happen_areSpared (event : SessionEvent) (isKept : before.IsKept)
    (areSpared : before.AreSpared) :
    (before.happen event).1.AreSpared := by
  unfold Loop.happen
  split
  · exact areSpared
  · next occurrence occurs =>
    have performs := perform_performs occurrence.effects (before.setService occurrence.state)
    by_cases isClose : event = .close
    · subst isClose
      obtain ⟨handle, session, -, found, state, effects, -⟩ := Sessions.occur_close occurs
      rw [effects, state] at performs
      rw [effects, state]
      exact areSpared.closes isKept found performs
    · obtain ⟨minds, noCancel, -, -⟩ := Sessions.Minds.occur isClose occurs
      exact (areSpared.setService fun handle => minds.closed).performs performs
        fun task cancelled => absurd cancelled (noCancel task)

theorem connect_areSpared (settings : Value) (areSpared : before.AreSpared) :
    (before.connect settings).1.AreSpared := by
  unfold Loop.connect
  split
  · exact areSpared
  · split
    · exact areSpared
    · next state effects handle connected =>
      obtain ⟨minds, call, rfl⟩ := Sessions.Minds.connect connected
      refine (areSpared.setService fun handle => minds.closed).performs (perform_performs _ _)
        fun task cancelled => ?_
      cases List.mem_singleton.mp cancelled

/-- When a task goes on that is not cancelled, or ends, all are spared. -/
theorem AreSpared.moves {task : TaskId} {frames : List (Frame At)} (areSpared : before.AreSpared)
    (moves : Moves (S := Sessions.service) task frames before after)
    (isUp : frames = [] ∧ (∃ known, before.tasks[task]? = some known) ∨ ¬ before.IsCancelled task) :
    after.AreSpared := by
  have earlier : ∀ other, after.IsCancelled other → before.IsCancelled other := by
    rintro other (given | ⟨known', found', isCancelled⟩)
    · rcases moves.turn with same | ⟨wake, given', isPlain⟩
      · exact .inl (same ▸ given)
      · cases given.symm.trans given'
        rcases isPlain with impossible | ⟨_, impossible⟩ <;> cases impossible
    · have isThere := (List.getElem?_eq_some_iff.mp found').1
      rw [moves.length] at isThere
      have found := List.getElem?_eq_getElem isThere
      have status : known'.status = before.tasks[other].status ∨ known'.status.isPlain := by
        by_cases here : other = task
        · subst here
          obtain ⟨known'', found'', -, status⟩ := moves.self _ found
          cases found'.symm.trans found''
          exact status
        · obtain ⟨known'', found'', -, status⟩ := moves.others other _ here found
          cases found'.symm.trans found''
          exact status
      rcases status with same | isPlain
      · exact .inr ⟨_, found, same ▸ isCancelled⟩
      · exact absurd isCancelled isPlain.not_cancelled
  intro other cancelled
  by_cases here : other = task
  · subst here
    rcases isUp with ⟨isOver, known, found⟩ | isUp
    · obtain ⟨known', found', frames', -⟩ := moves.self known found
      exact ⟨known', found', .inl (frames'.trans isOver)⟩
    · exact absurd (earlier other cancelled) isUp
  · have isLeft := areSpared other (earlier other cancelled)
    obtain ⟨known, found, -⟩ := isLeft
    obtain ⟨known', found', sameFrames, -⟩ := moves.others other known here found
    exact (areSpared other (earlier other cancelled)).kept found found' sameFrames
      fun handle isClosed => moves.service ▸ isClosed

/-- **Chores spare all tasks**, but those of a session that is closed. -/
theorem Chore.areSpared (chore : Chore lenient before after) (isKept : before.IsKept)
    (areSpared : before.AreSpared) : after.AreSpared := by
  cases chore with
  | aside tasks service turn =>
    refine areSpared.mild (.of_eq tasks : Stand noFate _ _) (by rw [tasks]) service
      (fun task given => ?_)
      fun _ _ _ => False.elim
    rcases turn with same | isOver
    · exact .inl (same ▸ given)
    · cases isOver.symm.trans given
  | mind rests heeds turn =>
    exact areSpared.stand rests.old (fun handle => (Sessions.Minds.of_heeds heeds).closed)
      (fun task known gone found => (rests.new task known gone found).1.not_cancelled)
      (fun task given => .inl (turn ▸ given)) fun _ _ _ _ => False.elim
  | happen event => exact happen_areSpared event isKept areSpared
  | connect settings => exact connect_areSpared settings areSpared
  | @call point isAsked =>
    refine areSpared.stand (.spawn .caller (.service point) before : Stand noFate _ _)
      (fun handle => id)
      (fun task known gone found => ?_) (fun task given => .inl given) fun _ _ _ _ => False.elim
    rw [spawn_tasks] at found
    split at found
    · cases found
      exact id
    · cases gone.symm.trans found
  | release tickets release isAllowed =>
    cases release with
    | cancel => exact absurd rfl (isAllowed tickets)
    | reply plan =>
      have kept :
          Stand (fun _ _ status => ¬ status.isCancelled) before
            (before.releaseAll (.reply plan) tickets).1 ∧
          (before.releaseAll (.reply plan) tickets).1.tasks.length = before.tasks.length ∧
          (before.releaseAll (.reply plan) tickets).1.service = before.service ∧
          (before.releaseAll (.reply plan) tickets).1.turn = before.turn := by
        refine @releaseAll_keeps Sessions.service before (fun after =>
          Stand (fun _ _ status => ¬ status.isCancelled) before after ∧
          after.tasks.length = before.tasks.length ∧ after.service = before.service ∧
            after.turn = before.turn)
          (.reply plan) (fun other task kept => ⟨?_, ?_, ?_, ?_⟩) tickets ⟨.refl before,
            rfl, rfl, rfl⟩
        · exact kept.1.trans (wake_stand task fun _ _ _ => .inr id)
        · rw [wake_taskCount, kept.2.1]
        · exact (wake_keeps other task _).1.trans kept.2.2.1
        · exact (wake_keeps other task _).2.2.2.trans kept.2.2.2
      obtain ⟨stand, length, service, turn⟩ := kept
      exact areSpared.mild stand length service (fun task given => .inl (turn ▸ given)) fun _ _ _ =>
        id
  | @move task known frame rest way _ found frames isOther isStack follows moves =>
    refine areSpared.moves moves (.inr fun cancelled => ?_)
    obtain ⟨known', found', isOver | ⟨handle, here, stands, -⟩⟩ := areSpared task cancelled
    · cases found.symm.trans found'
      cases frames.symm.trans isOver
    · cases found.symm.trans found'
      rw [Task.point?, frames] at stands
      cases frame with
      | service point => exact isOther trivial
      | _ => cases stands
  | @run task known wake found either =>
    have stand : Stand noFate before ((before.setStatus task .running).give task wake) :=
      .setStatus before task fun _ _ => .inl trivial
    refine areSpared.mild stand (modifyTask_taskCount task _ before) rfl (fun other given => ?_)
      fun _ _ _ => False.elim
    cases given
    rcases either with ⟨-, impossible⟩ | ⟨on, was⟩
    · cases impossible
    · exact .inr ⟨known, found, by rw [was]; trivial⟩
  | doom found was =>
    exact areSpared.moves (finish_moves _ .cancelled before) (.inl ⟨rfl, _, found⟩)

/-- **The turn of a call spares all tasks**, but those of a session that it closes. -/
theorem ServiceTurn.areSpared (turn : ServiceTurn before after) (turnRuns : before.TurnRuns)
    (isKept : before.IsKept) (areSpared : before.AreSpared) : after.AreSpared := by
  obtain @⟨task, wake, point, rest, isAt, isStack⟩ := turn
  obtain ⟨known, found, -⟩ := Option.map_eq_some_iff.mp isAt.frames
  have runs : known.status = .running := status_of_running (turnRuns task wake isAt.turn) found
  have first : before.inTurn.AreSpared := by
    refine areSpared.mild (.of_eq rfl : Stand noFate _ _) rfl rfl (fun other given => ?_) fun _ _
      _ => False.elim
    cases given
  have performs := serviceTurn_performs task point wake before.inTurn
  have moves :=
    afterTurn_moves task (.service point) rest (before.inTurn.serviceTurn task point wake)
  have isThere : before.roll.stands task = some point := isAt.at?
  have resumes :
      Sessions.service.resume (before.inTurn.moment task) point wake before.inTurn.service =
      Sessions.resume (before.moment task) point wake before.service := rfl
  rw [resumes] at performs
  rcases Sessions.resume_eq (before.moment task) point wake before.service with
    ⟨handle, here, session, isSession, rfl, resumed⟩ | ⟨-, outcome, resumed⟩
  · have accounts := Sessions.turn_accounts (before.moment task) handle before.service.isSlow wake
      before.service.store session (isKept.isSound isThere)
    rw [resumed] at performs
    have isPlace := (List.getElem?_eq_some_iff.mp isSession).1
    refine ((first.setService fun other isClosed => ?_).performs performs fun other cancelled =>
      ?_).moves moves
      (.inr ?_)
    · obtain ⟨session', found', closed⟩ := isClosed
      unfold Sessions.IsClosed
      dsimp only
      by_cases same : other = handle
      · subst same
        cases isSession.symm.trans found'
        exact ⟨_, List.getElem?_set_self isPlace, accounts.closed closed⟩
      · exact ⟨session', (List.getElem?_set_ne (Ne.symm same)).trans found', closed⟩
    · obtain ⟨-, isClosed, silent⟩ := accounts.closes_of_cancel cancelled
      obtain ⟨point', stands, -⟩ := (isKept.sessions isSession).stands (accounts.cancels cancelled)
      exact ⟨silent, handle, point', stands, _, List.getElem?_set_self isPlace, isClosed⟩
    · refine performs.not_cancelled rfl found runs fun cancelled => ?_
      -- No watch and no probe closes its session, so the task is not in the account.
      obtain ⟨rfl, -⟩ := accounts.closes_of_cancel cancelled
      obtain ⟨point', stands, counted⟩ :=
        (isKept.sessions isSession).stands (accounts.cancels cancelled)
      cases isThere.symm.trans stands
      rcases counted with isWatch | isProbe
      · exact isWatch rfl
      · cases isProbe
  · rw [resumed] at performs
    refine ((first.setService fun _ => id).performs performs fun other cancelled => ?_).moves moves
      (.inr (performs.not_cancelled rfl found runs fun cancelled => ?_))
    · cases cancelled
    · cases cancelled

/-- **Whatever happens, those are spared whose sessions are open**, where nobody outside cancels
anything. -/
theorem Happens.areSpared (happens : Happens lenient before after) (areStacked : before.AreStacked)
    (turnRuns : before.TurnRuns) (isKept : before.IsKept) (areSpared : before.AreSpared) :
    after.AreSpared := by
  rcases happens.chores areStacked with turn | chores
  · exact turn.areSpared turnRuns isKept areSpared
  · have both : after.AreSpared ∧ after.IsKept := by
      clear happens
      induction chores with
      | refl => exact ⟨areSpared, isKept⟩
      | tail _ chore step => exact ⟨chore.areSpared step.2 step.1, chore.isKept step.2⟩
    exact both.1

/-- **Whoever is cancelled belongs to a session that has been closed**, in every run in which nobody
outside cancels anything. -/
theorem Reaches.areSpared {store : Store} {isSlow : Bool} {loop : Loop Sessions.service}
    (run : Reaches lenient (unconnected store isSlow) loop) : loop.AreSpared := by
  induction run with
  | refl =>
    rintro task (given | ⟨known, found, -⟩)
    · cases given
    · cases found
  | tail earlier happens step =>
    exact happens.areSpared (Reaches.areStacked earlier (fresh_areStacked _))
      (Reaches.turnRuns earlier)
      (Reaches.isKept earlier) step

/-- A task of a session that is open is not cancelled. -/
theorem AreSpared.not_cancelled {task : TaskId} {known : Task Sessions.service} {handle : Handle}
    {point : Point} {rest : List (Frame At)} (areSpared : before.AreSpared)
    (isTask : before.tasks[task]? = some known)
    (frames : known.frames = .service ⟨some handle, point⟩ :: rest)
    (isOpen : ¬ Sessions.IsClosed handle before.service) : ¬ before.IsCancelled task := by
  intro isCancelled
  obtain ⟨known', found, isOver | ⟨handle', here, stands, isClosed⟩⟩ := areSpared task isCancelled
  · cases isTask.symm.trans found
    cases frames.symm.trans isOver
  · cases isTask.symm.trans found
    rw [Task.point?, frames] at stands
    cases stands
    exact isOpen isClosed

/-- Nor is it so in its turn. -/
theorem AreSpared.isLeft {task : TaskId} {wake : Wake Plan} {handle : Handle} {point : Point}
    {rest : List (Frame At)} (areSpared : before.AreSpared)
    (isAt : before.IsAt task wake (.service ⟨some handle, point⟩) rest)
    (isOpen : ¬ Sessions.IsClosed handle before.service) : wake ≠ .cancelled := by
  rintro rfl
  obtain ⟨known, isTask, frames⟩ := Option.map_eq_some_iff.mp isAt.frames
  exact areSpared.not_cancelled isTask frames isOpen (.inl isAt.turn)

end Loop

end WatchedNode
