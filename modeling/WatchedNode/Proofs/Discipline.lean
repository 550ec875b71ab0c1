/-
**The life of a cache, and the discipline of its queue.**

A cache is made, may be started, and then closed, each once (`Phase.course`). What is put into its
queue comes last there, and the worker takes what is first (`Passes.draws`), so what has been taken
and what is still in the queue are what was put there, in this order. The end mark is put there when
the cache is closed, nothing comes after it, and once the worker has taken it nothing is left and
nobody waits (`is_disciplined`).
-/
import WatchedNode.Proofs.Loop.Line
import WatchedNode.Proofs.Survival

namespace WatchedNode

open Relation

variable {S : Service}

/-- The phases of a cache's life up to this one. -/
def Phase.course : Phase → List Phase
  | .latent => [.latent]
  | .started => [.latent, .started]
  | .closed => [.latent, .started, .closed]

theorem Query.answer_ne_stop (query : Query) (outcome : Outcome Answer) :
    query.answer outcome ≠ .stop := by
  cases query <;> exact Item.noConfusion

/-- The frame goes on when the node has been read that an item is for. -/
def Frame.isReading {Point : Type} (cache : CacheId) : Frame Point → Bool
  | .worker owner .resyncing => owner = cache
  | _ => false

/-- The worker has taken an item, and has not done with it. -/
def Task.isReading (cache : CacheId) (task : Task S) : Bool :=
  task.frames.any (Frame.isReading cache)

namespace Loop

variable {before after loop last : Loop S} {cache : CacheId}

/-! ## What comes into a queue, and what goes out -/

/-- The phase of a cache that is there. -/
def phase? (cache : CacheId) (loop : Loop S) : Option Phase := (loop.duty? cache).map (·.phase)

/-- What comes into the queue of a cache as it goes from one phase to the next, or stays in it:
prompts and answers while it runs, and the end mark when it is closed. -/
inductive Unfolds (more : List Item) : Option Phase → Option Phase → Prop
  | absent (isNone : more = []) : Unfolds more none none
  | comes (isNone : more = []) : Unfolds more none (some .latent)
  | stays {phase : Phase} (isUnmarked : .stop ∉ more) (runs : more = [] ∨ phase = .started) :
      Unfolds more (some phase) (some phase)
  | begins (isNone : more = []) : Unfolds more (some .latent) (some .started)
  | closes (isMark : more = [.stop]) : Unfolds more (some .started) (some .closed)

/-- A worker of the cache that takes items has its turn. -/
def Takes (cache : CacheId) (before after : Loop S) : Prop :=
  ∃ self wake rest, before.IsAt self wake (.worker cache .taking) rest ∧ wake ≠ .cancelled ∧
    after =
      afterTurn self (.worker cache .taking) rest
        (before.inTurn.frameTurn self (.worker cache .taking) wake)

section Draws

theorem items_of_duty (loop : Loop S) (cache : CacheId) :
    loop.items cache = (loop.duty? cache).elim [] (·.backlog.elim [] (·.items)) := by
  rw [items, duty?]
  cases loop.caches[cache]? with
  | none => rfl
  | some known =>
    show known.items = known.backlog.elim [] (·.items)
    unfold Cache.items
    cases known.backlog <;> rfl

theorem items_of_some {duty : Duty} {backlog : Backlog} (is : loop.duty? cache = some duty)
    (has : duty.backlog = some backlog) : loop.items cache = backlog.items := by
  rw [items_of_duty, is, Option.elim_some, has, Option.elim_some]

theorem items_of_bare (isBare : ∀ duty, loop.duty? cache = some duty → duty.backlog = none) :
    loop.items cache = [] := by
  rw [items_of_duty]
  cases is : loop.duty? cache with
  | none => rfl
  | some duty => rw [Option.elim_some, isBare duty is, Option.elim_none]

theorem phase_of_some {duty : Duty} (is : loop.duty? cache = some duty) :
    loop.phase? cache = some duty.phase := by
  rw [phase?, is, Option.map_some]

/-- Items come last in the queue. -/
theorem Feeds.draws {items : List Item} (feeds : Feeds cache items before after)
    (areNoMarks : .stop ∉ items) :
    ∃ more, Unfolds more (before.phase? cache) (after.phase? cache) ∧
      after.items cache = before.items cache ++ more := by
  cases was : before.duty? cache with
  | none =>
    refine ⟨[], ?_, ?_⟩
    · rw [phase?, was, phase?]
      cases is : after.duty? cache with
      | none => exact .absent rfl
      | some duty =>
        rw [feeds.new was duty is]
        exact .comes rfl
    · have isNone : before.items cache = [] := items_of_bare (by simp [was])
      have isNone' : after.items cache = [] := items_of_bare fun duty is => by
        rw [feeds.new was duty is]
      rw [isNone, isNone']
      rfl
  | some duty =>
    have is := feeds.old duty was
    have phases (more : List Item) (isUnmarked : .stop ∉ more)
        (runs : more = [] ∨ duty.phase = .started) :
        Unfolds more (before.phase? cache) (after.phase? cache) := by
      rw [phase_of_some was, phase_of_some is]
      exact .stays isUnmarked runs
    cases has : duty.backlog with
    | none =>
      refine ⟨[], phases [] (by simp) (.inl rfl), ?_⟩
      rw [items_of_duty, items_of_duty, is, was]
      simp [Duty.feed, has]
    | some backlog =>
      refine ⟨items, phases items areNoMarks (feeds.mayRun was), ?_⟩
      rw [items_of_some is (show (duty.feed items).backlog = some (backlog.puts items) by
        simp [Duty.feed, has]),
        items_of_some was has, Backlog.puts_eq]

/-- What happens to a queue: items come last in it, and if the worker has its turn, it takes the
first one. -/
inductive Draws (cache : CacheId) (before after : Loop S) (more : List Item) : List Item → Prop
  | posts (isOther : ¬ Takes cache before after ∨ before.items cache = [])
      (is : after.items cache = before.items cache ++ more) : Draws cache before after more []
  | takes {item : Item} {rest : List Item} (takes : Takes cache before after)
      (was : before.items cache = item :: rest) (is : after.items cache = rest ++ more) :
      Draws cache before after more [item]

/-- The worker has its turn, and there is an item. -/
theorem Takes.draws (takes : Takes cache before after) (isBusy : before.items cache ≠ []) :
    ∃ more out, Unfolds more (before.phase? cache) (after.phase? cache) ∧
      Draws cache before after more out := by
  obtain ⟨self, wake, rest, isAt, isPlain, same⟩ := id takes
  have tends := (frameTurn_plays before.inTurn self (.worker cache .taking) wake).tends cache
  have ended := afterTurn_duty? self (.worker cache .taking) rest
    (before.inTurn.frameTurn self (.worker cache .taking) wake) cache
  rw [← same] at ended
  generalize before.inTurn.frameTurn self (.worker cache .taking) wake = turn at tends ended
  cases tends with
  | feeds isOther => exact absurd rfl (isOther .taking)
  | quits isGone =>
    rcases isGone with isGone | ⟨-, isCancelled⟩
    · exact absurd (items_of_bare fun duty is => by cases isGone.symm.trans is) isBusy
    · exact absurd isCancelled isPlain
  | @idles _ _ duty was _ isEmpty =>
    have was : before.duty? cache = some duty := was
    refine absurd ?_ isBusy
    cases has : duty.backlog with
    | none => exact items_of_bare fun duty' is => by cases was.symm.trans is; exact has
    | some backlog =>
      rw [items_of_some was has]
      rw [has, Option.bind_some] at isEmpty
      exact Backlog.items_of_take?_none isEmpty
  | @reads _ _ duty _ _ _ was _ has taken is =>
    have was : before.duty? cache = some duty := was
    have is := ended.trans is
    refine ⟨[], _, ?_,
      .takes takes ((items_of_some was has).trans (Backlog.take?_eq_some taken).1) ?_⟩
    · rw [phase_of_some is, phase_of_some was]
      exact .stays (by simp) (.inl rfl)
    · rw [items_of_some is rfl, List.append_nil]
  | @works _ _ duty _ queue item items was _ has taken areAsking runs is =>
    have was : before.duty? cache = some duty := was
    have is := ended.trans is
    refine ⟨items, _, ?_,
      .takes takes ((items_of_some was has).trans (Backlog.take?_eq_some taken).1) ?_⟩
    · rw [phase_of_some is, phase_of_some was]
      exact .stays (not_stop_of_asking areAsking) runs
    · rw [items_of_some is rfl, (done_eq _).1, Backlog.puts_eq]

/-- Where the worker takes nothing, what comes in is all that happens to the queue. -/
theorem Feeds.posts {items : List Item} (feeds : Feeds cache items before after)
    (areNoMarks : .stop ∉ items) (isOther : ¬ Takes cache before after ∨ before.items cache = []) :
    ∃ more out, Unfolds more (before.phase? cache) (after.phase? cache) ∧
      Draws cache before after more out := by
  obtain ⟨more, unfolds, is⟩ := feeds.draws areNoMarks
  exact ⟨more, [], unfolds, .posts isOther is⟩

section OtherTurns

variable {self : TaskId} {frame : Frame S.Point} {wake : Wake S.Reply} {turn : Turn S}
  (isOther : ¬ Takes cache before after ∨ before.items cache = [])
  (ended : after.duty? cache = turn.1.duty? cache)
  (notTaken : ∀ {item : Item} {queue queue' : Backlog}
    {duty : Duty}, frame = .worker cache .taking →
    wake ≠ .cancelled → before.duty? cache = some duty → duty.backlog = some queue →
    queue.take? ≠ some (item, queue'))
  (tends : Tends cache self before.inTurn frame wake turn)

include isOther ended notTaken tends

/-- A turn in which nothing is taken, where the cache has not begun to run. -/
theorem Tends.draws_of_off
    (isNew : ∀ duty, before.duty? cache = some duty → duty = ⟨.latent, none, none⟩) :
    ∃ more out, Unfolds more (before.phase? cache) (after.phase? cache) ∧
      Draws cache before after more out := by
  have stays (now : turn.1.duty? cache = before.duty? cache) :
      ∃ more out, Unfolds more (before.phase? cache) (after.phase? cache) ∧
        Draws cache before after more out :=
    (Feeds.of_eq (ended.trans now)).posts (by simp) isOther
  cases tends with
  | feeds _ areAsking feeds =>
    exact Feeds.posts (.still ⟨feeds.runs, feeds.old, feeds.new⟩ ended)
      (not_stop_of_asking areAsking) isOther
  | begins was isLatent is =>
    have was : before.duty? cache = _ := was
    refine ⟨[], _, ?_, .posts isOther ?_⟩
    · rw [phase_of_some was, phase_of_some (ended.trans is), isLatent]
      exact .begins rfl
    · have isNone : before.items cache = [] := items_of_bare fun duty is =>
          congrArg Duty.backlog (isNew duty is)
      rw [items_of_some (ended.trans is) rfl, isNone]
      rfl
  | closes is =>
    refine stays (is.trans ?_)
    show (before.duty? cache).map Duty.closed = before.duty? cache
    cases was : before.duty? cache with
    | none => rfl
    | some duty =>
      cases isNew duty was
      rfl
  | joins was has =>
    cases isNew _ was
    cases has
  | quits => exact stays rfl
  | idles was _ _ is =>
    cases isNew _ was
    exact stays (is.trans was.symm)
  | reads was isPlain has taken => exact absurd taken (notTaken rfl isPlain was has)
  | works was isPlain has taken => exact absurd taken (notTaken rfl isPlain was has)
  | returns was _ _ is =>
    cases isNew _ was
    exact stays (is.trans was.symm)

/-- A turn in which nothing is taken, where the cache has its worker. -/
theorem Tends.draws_of_crew {duty : Duty} {backlog : Backlog} {worker : TaskId} {task : Task S}
    (crew : Crew cache duty backlog worker task before) :
    ∃ more out, Unfolds more (before.phase? cache) (after.phase? cache) ∧
      Draws cache before after more out := by
  have stays {new : Duty} {backlog' : Backlog} (items : List Item)
      (now : turn.1.duty? cache = some new) (phase : new.phase = duty.phase)
      (has : new.backlog = some backlog') (is : backlog'.items = backlog.items ++ items)
      (isUnmarked : .stop ∉ items) (runs : items = [] ∨ duty.phase = .started) :
      ∃ more out, Unfolds more (before.phase? cache) (after.phase? cache) ∧
        Draws cache before after more out := by
    have is' := ended.trans now
    refine ⟨items, _, ?_, .posts isOther ?_⟩
    · rw [phase_of_some crew.is, phase_of_some is', phase]
      exact .stays isUnmarked runs
    · rw [items_of_some is' has, items_of_some crew.is crew.has, is]
  cases tends with
  | feeds _ areAsking feeds =>
    exact Feeds.posts (.still ⟨feeds.runs, feeds.old, feeds.new⟩ ended)
      (not_stop_of_asking areAsking) isOther
  | begins was isLatent =>
    cases crew.is.symm.trans was
    exact absurd isLatent crew.hasBegun
  | closes is =>
    have is : turn.1.duty? cache = some duty.closed :=
      is.trans (by rw [show before.inTurn.duty? cache = _ from crew.is]; rfl)
    by_cases runs : duty.phase = .started
    · have has : duty.closed.backlog = some (backlog.put .stop) := by
        simp [Duty.closed, runs, crew.has]
      have is' := ended.trans is
      refine ⟨[.stop], _, ?_, .posts isOther ?_⟩
      · rw [phase_of_some crew.is, phase_of_some is', runs, show duty.closed.phase = .closed by
          simp [Duty.closed, runs]]
        exact .closes rfl
      · rw [items_of_some is' has, items_of_some crew.is crew.has]
        rfl
    · exact stays [] is (by simp [Duty.closed, runs]) (show duty.closed.backlog = some backlog by
        simp [Duty.closed, runs, crew.has]) (List.append_nil _).symm (by simp) (.inl rfl)
  | joins was has _ is =>
    cases crew.is.symm.trans was
    cases crew.has.symm.trans has
    exact stays [] is rfl rfl (List.append_nil _).symm (by simp) (.inl rfl)
  | quits => exact stays [] crew.is rfl crew.has (List.append_nil _).symm (by simp) (.inl rfl)
  | idles was _ isEmpty is =>
    cases crew.is.symm.trans was
    exact stays [] is rfl (show duty.backlog.map _ = some (backlog.await self) by
      rw [crew.has]; rfl)
      (List.append_nil _).symm (by simp) (.inl rfl)
  | reads was isPlain has taken => exact absurd taken (notTaken rfl isPlain was has)
  | works was isPlain has taken => exact absurd taken (notTaken rfl isPlain was has)
  | @returns _ _ _ items was areAsking runs is =>
    cases crew.is.symm.trans was
    refine stays items is rfl
      (show (itemDoneDuty (duty.feed items)).backlog = some (backlog.puts items).done.2 by
      simp [itemDoneDuty, Duty.feed, crew.has]) ?_ (not_stop_of_asking areAsking) runs
    rw [(done_eq _).1, Backlog.puts_eq]

end OtherTurns

/-- **What comes into the queue of a cache comes last, and only its worker takes anything out**,
which is what is first. -/
theorem Passes.draws (passes : Passes before after) (isManned : IsManned cache before) :
    ∃ more out, Unfolds more (before.phase? cache) (after.phase? cache) ∧
      Draws cache before after more out := by
  by_cases isTaking : Takes cache before after ∧ before.items cache ≠ []
  · exact isTaking.1.draws isTaking.2
  have isOther : ¬ Takes cache before after ∨ before.items cache = [] := by
    by_cases takes : Takes cache before after
    · exact .inr (not_not.mp fun isBusy => isTaking ⟨takes, isBusy⟩)
    · exact .inl takes
  cases passes.fares cache with
  | feeds areAsking feeds => exact feeds.posts (not_stop_of_asking areAsking) isOther
  | answers _ _ _ feeds =>
    exact feeds.posts (by simpa using (Query.answer_ne_stop _ _).symm) isOther
  | @turn self wake frame rest turn isAt made tends same =>
    have ended := afterTurn_duty? self frame rest turn cache
    rw [← same] at ended
    rw [made] at same
    have notTaken {item : Item} {queue queue' : Backlog} {duty : Duty}
        (isTaking : frame = .worker cache .taking) (isPlain : wake ≠ .cancelled)
        (was : before.duty? cache = some duty) (has : duty.backlog = some queue) :
        queue.take? ≠ some (item, queue') := by
      intro taken
      subst isTaking
      rcases isOther with isOther | isEmpty
      · exact isOther ⟨self, wake, rest, isAt, isPlain, same⟩
      · rw [items_of_some was has, (Backlog.take?_eq_some taken).1] at isEmpty
        cases isEmpty
    cases isManned with
    | off isNew nobody => exact tends.draws_of_off isOther ended notTaken isNew
    | on crew => exact tends.draws_of_crew isOther ended notTaken crew

end Draws

/-! ## Chronicles -/

/-- What has happened in the life of a cache: the phases that it has come to, what was put into its
queue, and what its worker has taken, the earliest first. -/
structure Chronicle where
  phases : List Phase := []
  posted : List Item := []
  taken : List Item := []

/-- The phase that a cache has come to. -/
def entered (cache : CacheId) (before after : Loop S) : List Phase :=
  if after.phase? cache = before.phase? cache then [] else (after.phase? cache).toList

/-- How the chronicle of a cache goes on. -/
inductive Chronicles (cache : CacheId) (before after : Loop S) (chronicle : Chronicle) :
    Chronicle → Prop
  | draws {more out : List Item} (draws : Draws cache before after more out) :
      Chronicles cache before after chronicle
        ⟨chronicle.phases ++ entered cache before after, chronicle.posted ++ more,
          chronicle.taken ++ out⟩

/-- Where the end mark is in what was put into a queue: it comes last when the cache is closed. -/
inductive Stamped (posted : List Item) : Option Phase → Prop
  | absent (isNone : posted = []) : Stamped posted none
  | latent (isNone : posted = []) : Stamped posted (some .latent)
  | started (isUnmarked : .stop ∉ posted) : Stamped posted (some .started)
  | closed {earlier : List Item} (same : posted = earlier ++ [.stop])
      (isUnmarked : .stop ∉ earlier) :
      Stamped posted (some .closed)

/-- The chronicle of a cache tells the truth. -/
structure IsChronicled (cache : CacheId) (chronicle : Chronicle) (loop : Loop S) : Prop where
  phases : chronicle.phases = (loop.phase? cache).elim [] Phase.course
  order : chronicle.posted = chronicle.taken ++ loop.items cache
  stamped : Stamped chronicle.posted (loop.phase? cache)

section Chronicles

variable {more posted out : List Item} {chronicle : Chronicle}

theorem Stamped.unfolds {was is : Option Phase} (stamped : Stamped posted was)
    (unfolds : Unfolds more was is) :
    Stamped (posted ++ more) is := by
  cases unfolds with
  | absent isNone =>
    cases stamped with
    | absent none => exact .absent (by rw [none, isNone, List.append_nil])
  | comes isNone =>
    cases stamped with
    | absent none => exact .latent (by rw [none, isNone, List.append_nil])
  | begins isNone =>
    cases stamped with
    | latent none => exact .started (by simp [none, isNone])
  | closes isMark =>
    cases stamped with
    | started isUnmarked => exact .closed (by rw [isMark]) isUnmarked
  | @stays phase isUnmarked runs =>
    cases stamped with
    | latent none =>
      rcases runs with isNone | isStarted
      · exact .latent (by rw [none, isNone, List.append_nil])
      · cases isStarted
    | started isPlain => exact .started (by simp [isPlain, isUnmarked])
    | closed same isPlain =>
      rcases runs with isNone | isStarted
      · exact .closed (by rw [isNone, List.append_nil, same]) isPlain
      · cases isStarted

/-- The phases that a cache has come to are those of its course. -/
theorem Unfolds.course (unfolds : Unfolds more (before.phase? cache) (after.phase? cache)) :
    (before.phase? cache).elim [] Phase.course ++ entered cache before after =
      (after.phase? cache).elim [] Phase.course := by
  unfold entered
  generalize before.phase? cache = was at unfolds
  generalize after.phase? cache = is at unfolds
  cases unfolds <;> simp [Phase.course]

/-- What is put and what is taken leave the queue in order. -/
theorem Draws.order (draws : Draws cache before after more out)
    (order : posted = chronicle.taken ++ before.items cache) :
    posted ++ more = chronicle.taken ++ out ++ after.items cache := by
  cases draws with
  | posts _ is => rw [is, order, List.append_nil, List.append_assoc]
  | takes _ was is =>
    rw [is, order, was]
    simp

/-- **The chronicle of a cache goes on to tell the truth**, whatever happens. -/
theorem Passes.isChronicled (passes : Passes before after) (isManned : IsManned cache before)
    (isChronicled : IsChronicled cache chronicle before) :
    ∃ longer, Chronicles cache before after chronicle longer ∧ IsChronicled cache longer after := by
  obtain ⟨more, out, unfolds, draws⟩ := passes.draws isManned
  refine ⟨_, .draws draws, ?_, draws.order isChronicled.order, isChronicled.stamped.unfolds unfolds⟩
  rw [isChronicled.phases, unfolds.course]

/-- What happens to a queue is said in one way only. -/
theorem Draws.unique {more' out' : List Item} (draws : Draws cache before after more out)
    (other : Draws cache before after more' out') : more' = more ∧ out' = out := by
  have excludes {item : Item} {rest : List Item} (takes : Takes cache before after)
      (was : before.items cache = item :: rest) :
      ¬ (¬ Takes cache before after ∨ before.items cache = []) := by
    rintro (isOther | isEmpty)
    · exact isOther takes
    · cases was.symm.trans isEmpty
  cases draws with
  | posts isOther is =>
    cases other with
    | posts _ is' => exact ⟨List.append_cancel_left (is'.symm.trans is), rfl⟩
    | takes takes was => exact absurd isOther (excludes takes was)
  | takes takes was is =>
    cases other with
    | posts isOther => exact absurd isOther (excludes takes was)
    | takes _ was' is' =>
      cases was.symm.trans was'
      exact ⟨List.append_cancel_left (is'.symm.trans is), rfl⟩

theorem Chronicles.unique {longer longer' : Chronicle}
    (noted : Chronicles cache before after chronicle longer)
    (other : Chronicles cache before after chronicle longer') : longer' = longer := by
  obtain ⟨draws⟩ := noted
  obtain ⟨draws'⟩ := other
  obtain ⟨rfl, rfl⟩ := draws.unique draws'
  rfl

variable {allowed : Outside S} {service : S.State}

/-- Every run has a chronicle. -/
theorem Reaches.hasChronicle (run : Reaches allowed (fresh service) last) (cache : CacheId) :
    ∃ chronicle, Recounts allowed service (Chronicles cache) {} last chronicle := by
  refine Reaches.recounts run fun before after history earlier happens => ?_
  obtain ⟨more, out, -, draws⟩ := happens.passes.draws (Reaches.isManned earlier cache)
  exact ⟨_, .draws draws⟩

/-- Whichever way a state has been reached, the chronicle of that way tells the truth. -/
theorem Recounts.isChronicled
    (recounts : Recounts allowed service (Chronicles cache) {} last chronicle) :
    IsChronicled cache chronicle last := by
  induction recounts with
  | start => exact ⟨rfl, rfl, .absent rfl⟩
  | next earlier happens noted step =>
    obtain ⟨longer, noted', isChronicled⟩ :=
      happens.passes.isChronicled (Reaches.isManned earlier.run cache) step
    rwa [noted.unique noted'] at isChronicled

end Chronicles

/-! ## Discipline -/

/-- How a cache that has been started stands with its queue and its worker: what was put there has
been taken, or is still there, in this order; the count is that of the items, and one more if the
worker deals with one; and when the worker has ended, of which no read was cancelled, nothing is
left, and nobody waits for that. -/
inductive IsServed (cache : CacheId) (chronicle : Chronicle) (known : Cache) (loop : Loop S) : Prop
  | served {backlog : Backlog} {worker : TaskId} {task : Task S}
      (has : known.backlog = some backlog) (found : loop.tasks[worker]? = some task)
      (role : task.role = .worker cache)
      (order : chronicle.posted = chronicle.taken ++ backlog.items)
      (count : backlog.unfinished = backlog.items.length + (task.isReading cache).toNat)
      (ends : .left worker .call .cancelled ∉ loop.journal → loop.outcome? worker ≠ none →
        backlog.items = [] ∧ backlog.unfinished = 0 ∧
          ∀ waiter, loop.seat? waiter ≠ some (.drained cache)) :
      IsServed cache chronicle known loop

/-- How a cache stands with its chronicle. -/
inductive IsDisciplined (cache : CacheId) (chronicle : Chronicle) (loop : Loop S) : Prop
  | absent (isNone : loop.caches[cache]? = none) (blank : chronicle = {}) :
      IsDisciplined cache chronicle loop
  /-- It has no queue, and there is no worker for it. -/
  | latent {known : Cache} (found : loop.caches[cache]? = some known)
      (isLatent : known.phase = .latent) (phases : chronicle.phases = [.latent])
      (bare : known.backlog = none ∧ known.worker = none)
      (nobody : ∀ (task : TaskId) (other : Task S), loop.tasks[task]? = some other →
        other.role ≠ .worker cache)
      (nothing : chronicle.posted = [] ∧ chronicle.taken = []) : IsDisciplined cache chronicle loop
  /-- No end mark has been put into the queue. -/
  | started {known : Cache} (found : loop.caches[cache]? = some known)
      (runs : known.phase = .started) (phases : chronicle.phases = [.latent, .started])
      (isUnmarked : .stop ∉ chronicle.posted) (served : IsServed cache chronicle known loop) :
      IsDisciplined cache chronicle loop
  /-- The end mark was put there, once, and nothing after it. -/
  | closed {known : Cache} {earlier : List Item} (found : loop.caches[cache]? = some known)
      (isClosed : known.phase = .closed) (phases : chronicle.phases = [.latent, .started, .closed])
      (same : chronicle.posted = earlier ++ [.stop]) (isUnmarked : .stop ∉ earlier)
      (served : IsServed cache chronicle known loop) : IsDisciplined cache chronicle loop

section Discipline

variable {allowed : Outside S} {service : S.State} {chronicle : Chronicle} {duty : Duty}
  {backlog : Backlog} {worker : TaskId} {task : Task S}

/-- The count of a queue. -/
theorem Crew.count (crew : Crew cache duty backlog worker task loop) :
    backlog.unfinished = backlog.items.length + (task.isReading cache).toNat := by
  cases crew.manner with
  | takes frames _ count => simp [count, Task.isReading, frames, Frame.isReading]
  | reads point frames _ count => simp [count, Task.isReading, frames, Frame.isReading]
  | hasRead frames _ count => simp [count, Task.isReading, frames, Frame.isReading]
  | finished _ frames _ count => simp [count, Task.isReading, frames]

/-- A worker that has ended, and was not cancelled, has taken the end mark, and nothing is left. -/
theorem Crew.isDone (crew : Crew cache duty backlog worker task loop) (areSeated : loop.AreSeated)
    {outcome : Outcome Answer} (ended : loop.outcome? worker = some outcome)
    (isPlain : outcome ≠ .cancelled) :
    backlog.items = [] ∧ backlog.unfinished = 0 ∧
      ∀ waiter, loop.seat? waiter ≠ some (.drained cache) := by
  obtain ⟨rfl, -⟩ := (crew.either_of_ended ended).resolve_left isPlain
  obtain ⟨known, found, stage⟩ := outcome?_eq_some.mp ended
  cases found.symm.trans crew.found
  have isOver := Status.ended_of_stage stage
  have isEmpty : backlog.items = [] := by
    have marks := crew.marks
    generalize duty.phase = phase at marks
    cases marks with
    | started _ isUp => exact absurd isOver isUp
    | closed _ _ isUp => exact absurd isOver isUp
    | done isEmpty => exact isEmpty
  have isNone : backlog.unfinished = 0 := by
    cases crew.manner with
    | takes _ isWork =>
      rw [isOver] at isWork
      cases isWork
    | reads _ _ isUp | hasRead _ isUp =>
      rw [stage] at isUp
      rcases isUp with isUp | isUp <;> cases isUp
    | finished _ _ _ count => rw [count, isEmpty, List.length_nil]
  refine ⟨isEmpty, isNone, fun waiter waits => ?_⟩
  have isOn := (mem_joiners_iff areSeated crew.is crew.has).mpr waits
  rw [crew.free isNone] at isOn
  cases isOn

/-- A cache that has a worker is served. -/
theorem Crew.isServed (crew : Crew cache duty backlog worker task last)
    (run : Reaches allowed (fresh service) last) {known : Cache}
    (found : last.caches[cache]? = some known) (isChronicled : IsChronicled cache chronicle last) :
    IsServed cache chronicle known last := by
  obtain rfl : known.duty = duty := Option.some.inj ((duty?_of_found found).symm.trans crew.is)
  refine .served crew.has crew.found crew.role ?_ crew.count fun unwritten isOver => ?_
  · rw [isChronicled.order, items_of_some crew.is crew.has]
  · obtain ⟨outcome, ended⟩ := Option.ne_none_iff_exists'.mp isOver
    refine crew.isDone (Reaches.areSeated run) ended ?_
    rintro rfl
    have lost : .left worker .call .cancelled ∈ last.journal ↔ last.IsLost cache worker :=
      Reaches.isLost run fun other there => by
        cases there.symm.trans crew.found
        exact crew.role
    exact unwritten (lost.mpr (.inl ended))

/-- What the chronicle of a run tells of a cache, and how the cache stands, agree. -/
theorem IsChronicled.isDisciplined (isChronicled : IsChronicled cache chronicle last)
    (run : Reaches allowed (fresh service) last) : IsDisciplined cache chronicle last := by
  have phases := isChronicled.phases
  have stamped := isChronicled.stamped
  cases found : last.caches[cache]? with
  | none =>
    have isNone : last.duty? cache = none := by rw [duty?, found, Option.map_none]
    have order := isChronicled.order
    rw [phase?, isNone, Option.map_none] at phases stamped
    cases stamped with
    | absent none =>
      rw [none] at order
      refine .absent found ?_
      obtain ⟨isEmpty, -⟩ := List.append_eq_nil_iff.mp order.symm
      cases chronicle
      simp_all
  | some known =>
    have is := duty?_of_found found
    rw [phase_of_some is] at phases stamped
    cases Reaches.isManned run cache with
    | off isNew nobody =>
      have same := isNew known.duty is
      have isLatent : known.phase = .latent := congrArg Duty.phase same
      rw [show known.duty.phase = .latent from isLatent] at phases stamped
      have order := isChronicled.order
      cases stamped with
      | latent none =>
        rw [none] at order
        refine .latent found isLatent phases ⟨congrArg Duty.backlog same, congrArg Duty.worker same⟩
          (fun task other there role => nobody task ?_) ⟨none,
            (List.append_eq_nil_iff.mp order.symm).1⟩
        rw [roles, List.getElem?_map, there, Option.map_some, role]
    | on crew =>
      obtain rfl : known.duty = _ := Option.some.inj (is.symm.trans crew.is)
      have served := crew.isServed run found isChronicled
      have hasBegun : known.phase ≠ .latent := crew.hasBegun
      generalize phase : known.duty.phase = now at phases stamped
      cases stamped with
      | latent => exact absurd phase hasBegun
      | started isUnmarked => exact .started found phase phases isUnmarked served
      | closed same isUnmarked => exact .closed found phase phases same isUnmarked served

/-- **In every run a cache keeps to the course of its life, and its queue to its order**, whatever
it is told and asked, and whatever its requests end in: the run has a chronicle, and whichever way a
state has been reached, the cache stands there as the chronicle of that way says. -/
theorem is_disciplined (run : Reaches allowed (fresh service) last) (cache : CacheId) :
    (∃ chronicle, Recounts allowed service (Chronicles cache) {} last chronicle) ∧
      ∀ chronicle, Recounts allowed service (Chronicles cache) {} last chronicle →
        IsDisciplined cache chronicle last :=
  ⟨Reaches.hasChronicle run cache, fun _ recounts => recounts.isChronicled.isDisciplined run⟩

/-- A cache is started, and closed after that. -/
def passing : List (Command Sessions.service) := connecting :: starting ++ [.close "c"]

/-- Such a cache has come to all phases of its life, and all that was put into its queue has been
taken, the end mark last, whichever way it has come there. -/
theorem passing_is_disciplined :
    (∃ chronicle, Recounts anything ({ store := {}, isSlow := false } : Sessions) (Chronicles 0) {}
      (enact 60 passing (unconnected {} false)) chronicle) ∧
      ∀ chronicle, Recounts anything ({ store := {}, isSlow := false } : Sessions) (Chronicles 0) {}
          (enact 60 passing (unconnected {} false)) chronicle →
        chronicle.phases = [.latent, .started, .closed] ∧ chronicle.posted = chronicle.taken ∧
          chronicle.taken.getLast? = some .stop := by
  have run : Reaches anything (unconnected {} false) (enact 60 passing (unconnected {} false)) :=
    enact_reaches 60 passing _ (by simp [anything]) (by decide +kernel)
  have isClosed : ((enact 60 passing (unconnected {} false)).caches[0]?).map (fun known =>
      (known.phase, known.backlog.map (·.items.length))) = some (.closed, some 0) := by
    decide +kernel
  obtain ⟨known, found, same⟩ := Option.map_eq_some_iff.mp isClosed
  obtain ⟨phase, isEmpty⟩ := Prod.mk.inj same
  obtain ⟨hasChronicle, areDisciplined⟩ := is_disciplined run 0
  refine ⟨hasChronicle, fun chronicle recounts => ?_⟩
  cases areDisciplined chronicle recounts with
  | absent isNone => cases found.symm.trans isNone
  | latent there isLatent =>
    cases found.symm.trans there
    cases phase.symm.trans isLatent
  | started there runs =>
    cases found.symm.trans there
    cases phase.symm.trans runs
  | closed there _ phases stamped _ served =>
    cases found.symm.trans there
    obtain ⟨has, -, -, order⟩ := served
    rw [has, Option.map_some, Option.some.injEq, List.length_eq_zero_iff] at isEmpty
    have all : chronicle.posted = chronicle.taken := by rw [order, isEmpty, List.append_nil]
    exact ⟨phases, all, by rw [← all, stamped, List.getLast?_concat]⟩

end Discipline

end Loop

end WatchedNode
