/-
**Requests in flight.**

A request in the background is pending, once, from when it is asked until its answer is dealt with:
while its task has not ended nothing of it is due, and after that its answer is, once, as long as it
is pending (`RequestsArePending`). So each request leaves those that are pending with its answer
(`Clears`), and in no other way (`Happens.clears`).
-/
import WatchedNode.Proofs.Loop.Answers
import WatchedNode.Proofs.Loop.Progress

namespace WatchedNode.Loop

open Relation

variable {S : Service} {allowed : Outside S} {before after loop last : Loop S} {cache : CacheId}
  {query : Query} {task : TaskId}

/-! ## Who is pending -/

/-- Those that a cache waits for are its requests, and deeds. -/
def PendingAreKnown (loop : Loop S) : Prop :=
  ∀ (cache : CacheId) (task : TaskId), task ∈ loop.pending cache →
    (∃ query, loop.roles[task]? = some (.request cache query)) ∨
      ∃ owner, loop.roles[task]? = some (.deed owner)

/-- A task that is there keeps its role. -/
theorem Custody.grows (custody : Custody before after) : before.roles <+: after.roles := by
  cases custody with
  | bides bides => exact bides.grows
  | asks isAt isPlain found runs has taken isNext asks record => exact ⟨_, asks.roles.symm⟩
  | answers isBetween isFirst ended same roles pending hooks => exact roles ▸ List.prefix_rfl

theorem Custody.pendingAreKnown (custody : Custody before after)
    (areKnown : before.PendingAreKnown) :
    after.PendingAreKnown := by
  have still (cache : CacheId) (task : TaskId) (member : task ∈ before.pending cache) :
      (∃ query, after.roles[task]? = some (.request cache query)) ∨
        ∃ owner, after.roles[task]? = some (.deed owner) :=
    (areKnown cache task member).imp (fun ⟨query, is⟩ => ⟨query, roles_kept custody.grows is⟩)
      fun ⟨owner, is⟩ => ⟨owner, roles_kept custody.grows is⟩
  intro cache task member
  cases custody with
  | bides bides => exact (bides.new cache task member).elim (still cache task) .inr
  | asks isAt isPlain found runs has taken isNext asks record =>
    rw [asks.pending] at member
    split at member
    · next here =>
      subst here
      rcases List.mem_append.mp member with earlier | new
      · exact still _ task earlier
      · rw [List.mem_singleton.mp new, ← roles_length]
        exact .inl ⟨_, by rw [asks.roles, List.getElem?_concat_length]⟩
    · exact still cache task member
  | answers isBetween isFirst ended same roles pending hooks =>
    rw [pending] at member
    split at member
    · exact still cache task (List.mem_filter.mp member).1
    · exact still cache task member

theorem Reaches.pendingAreKnown {service : S.State} (run : Reaches allowed (fresh service) last) :
    last.PendingAreKnown := by
  induction run with
  | refl => exact fun _ _ member => by cases member
  | tail earlier happens areKnown =>
    have earlier : Reaches allowed (fresh service) _ := earlier
    exact (happens.passes.custody earlier.hooksFit).pendingAreKnown areKnown

/-! ## Answers that are dealt with -/

/-- The times that the answer to a request is still to be dealt with: once before its task has
ended, and after that as long as it is due. -/
def owed (cache : CacheId) (query : Query) (task : TaskId) (loop : Loop S) : Nat :=
  match loop.outcome? task with
  | none => 1
  | some _ => loop.dues.count (.answered cache query, task)

theorem owed_of_ended {outcome : Outcome Answer} (ended : loop.outcome? task = some outcome) :
    loop.owed cache query task = loop.dues.count (.answered cache query, task) := by
  rw [owed, ended]

/-- A request of the cache has been answered, and that is dealt with. -/
structure Clears (cache : CacheId) (query : Query) (task : TaskId) (outcome : Outcome Answer)
    (before after : Loop S) : Prop where
  role : before.roles[task]? = some (.request cache query)
  ended : before.outcome? task = some outcome
  dues : before.dues = (.answered cache query, task) :: after.dues
  outcomes (other : TaskId) : after.outcome? other = before.outcome? other
  roles : after.roles = before.roles
  pending (owner : CacheId) : after.pending owner =
    if owner = cache then (before.pending owner).filter (· ≠ task) else before.pending owner
  same : ∃ ready, before.ready = .hook (.answered cache query) task :: ready ∧
    after = ({ before with ready } : Loop S).answered cache query task outcome

/-- What happens to requests: one has been answered, and that is dealt with, or as many as before
are pending and owed answers; new ones may come in. -/
inductive Cares (before after : Loop S) : Prop
  | clears {cache : CacheId} {query : Query} {task : TaskId} {outcome : Outcome Answer}
      (clears : Clears cache query task outcome before after) : Cares before after
  | keeps (pending : ∀ (cache : CacheId) (query : Query) (task : TaskId),
        before.roles[task]? = some (.request cache query) →
          (after.pending cache).count task = (before.pending cache).count task ∧
            after.owed cache query task = before.owed cache query task) : Cares before after

/-- Where a request is, when its answer is dealt with. -/
theorem answered_clears {ready : List Job} {outcome : Outcome Answer} (hooksFit : before.HooksFit)
    (isFirst : before.ready = .hook (.answered cache query) task :: ready)
    (ended : before.outcome? task = some outcome)
    (same : after = ({ before with ready } : Loop S).answered cache query task outcome) :
    Clears cache query task outcome before after := by
  obtain ⟨role, is, fits⟩ := hooksFit _ task (.inr (isFirst ▸ List.mem_cons_self))
  have nudges :=
    (answered_labours cache query task outcome ({ before with ready } : Loop S)).toils.nudges
  exact {
    role := is.trans (congrArg some fits)
    ended
    dues := by
      rw [same, nudges.pushes.dues]
      exact dues_of_answer isFirst rfl
    outcomes := same ▸ nudges.spares.outcome
    roles := same ▸ answered_roles cache query task outcome _
    pending := same ▸ answered_pending cache query task outcome { before with ready }
    same := ⟨ready, isFirst, same⟩ }

/-- As many of a task's answers are owed where no more tasks end, and no more answers become due. -/
theorem owed_eq (outcome : after.outcome? task = before.outcome? task)
    (dues : before.outcome? task ≠ none →
      after.dues.count (.answered cache query, task) =
        before.dues.count (.answered cache query, task)) :
    after.owed cache query task = before.owed cache query task := by
  unfold owed
  rw [outcome]
  cases ended : before.outcome? task with
  | none => rfl
  | some outcome => exact dues (by simp [ended])

/-- The answer to a request that has not ended becomes due, once, when it ends. -/
theorem Shifts.owed (shifts : Shifts before after) (answersAreDue : before.AnswersAreDue)
    (role : before.roles[task]? = some (.request cache query))
    (isStill : ∀ hook task, before.dues ≠ (hook, task) :: after.dues) :
    after.owed cache query task = before.owed cache query task := by
  cases shifts with
  | same dues outcomes => exact owed_eq (outcomes task) fun _ => by rw [dues]
  | @ended other known outcome found isOpen isOver dues outcomes =>
    by_cases here : task = other
    · subst here
      have is : known.role = .request cache query := by
        rw [roles, List.getElem?_map, found] at role
        exact Option.some.inj role
      have notDue : before.dues.count (.answered cache query, task) = 0 := by
        refine List.count_eq_zero.mpr fun member => ?_
        obtain ⟨outcome, ended⟩ := answersAreDue _ member
        cases isOpen.symm.trans ended
      rw [Loop.owed, Loop.owed, isOpen, isOver, dues, is]
      simp [Role.answers, notDue]
    · refine owed_eq (outcomes task here) fun _ => ?_
      rw [dues, List.count_append, Nat.add_eq_left, List.count_eq_zero]
      intro member
      obtain ⟨hook, -, same⟩ := List.mem_map.mp member
      exact here (Prod.mk.inj same).2.symm
  | begun _ _ _ _ _ dues => exact absurd dues (isStill _ _)

/-- The first answer is dealt with. -/
theorem Shifts.clears (shifts : Shifts before after) (hooksFit : before.HooksFit) {hook : Hook}
    (isFirst : before.dues = (hook, task) :: after.dues) :
    ∃ cache query task outcome, Clears cache query task outcome before after := by
  cases shifts with
  | same dues => exact absurd (isFirst.symm.trans dues.symm) (List.cons_ne_self _ _)
  | ended found isOpen isOver dues =>
    have longer := congrArg List.length (isFirst ▸ dues)
    rw [List.length_append, List.length_cons] at longer
    omega
  | @begun hook task ready outcome turn isFirst isAnswer isOver same =>
    cases hook with
    | answered cache query =>
      exact ⟨cache, query, task, outcome, answered_clears hooksFit isFirst isOver same⟩
    | _ => cases isAnswer

/-- As many requests are pending unless the answer to one is dealt with. -/
theorem Custody.pending_count (custody : Custody before after) (hooksFit : before.HooksFit)
    (isAsked : before.IsAsked task) (cache : CacheId) :
    (after.pending cache).count task = (before.pending cache).count task ∨
      before.turn = none ∧ ∃ owner query other outcome,
        Clears owner query other outcome before after := by
  cases custody with
  | bides bides => exact .inl (bides.pending cache task isAsked)
  | asks isAt isPlain found runs has taken isNext asks record =>
    obtain ⟨owner, query, is⟩ := isAsked
    refine .inl ?_
    rw [asks.pending]
    split
    · rw [List.count_append, Nat.add_eq_left, List.count_eq_zero, List.mem_singleton,
        ← roles_length]
      exact Nat.ne_of_lt (List.getElem?_eq_some_iff.mp is).1
    · rfl
  | answers isBetween isFirst ended same =>
    exact .inr ⟨isBetween, _, _, _, _, answered_clears hooksFit isFirst ended same⟩

/-- **What happens to requests**, whatever happens. -/
theorem Happens.cares (happens : Happens allowed before after) (hooksFit : before.HooksFit)
    (endedAreBare : before.EndedAreBare) (isOrderly : before.IsOrderly) : Cares before after := by
  have shifts := happens.shifts endedAreBare isOrderly.areTied isOrderly.answersAreDue
  by_cases isFirst : ∃ hook task, before.dues = (hook, task) :: after.dues
  · obtain ⟨hook, task, isFirst⟩ := isFirst
    obtain ⟨cache, query, task, outcome, clears⟩ := shifts.clears hooksFit isFirst
    exact .clears clears
  · have isStill : ∀ hook task, before.dues ≠ (hook, task) :: after.dues :=
      fun hook task same => isFirst ⟨hook, task, same⟩
    refine .keeps fun cache query task role =>
      ⟨?_, shifts.owed isOrderly.answersAreDue role isStill⟩
    refine ((happens.passes.custody hooksFit).pending_count hooksFit ⟨cache, query,
      role⟩ cache).resolve_right ?_
    rintro ⟨-, owner, query, other, outcome, clears⟩
    exact isStill _ _ clears.dues

/-! ## How often a request is pending -/

/-- **A request is pending as often as an answer to it is owed**, which is once at most. -/
def RequestsArePending (loop : Loop S) : Prop :=
  ∀ (cache : CacheId) (query : Query)
  (task : TaskId), loop.roles[task]? = some (.request cache query) →
    (loop.pending cache).count task = loop.owed cache query task ∧ loop.owed cache query task ≤ 1

/-- Requests come in one by one. -/
theorem Custody.new (custody : Custody before after) (isNew : before.roles[task]? = none)
    (role : after.roles[task]? = some (.request cache query)) (areKnown : before.PendingAreKnown) :
    (after.pending cache).count task = 1 := by
  cases custody with
  | bides bides => cases isNew.symm.trans (bides.requests task cache query role)
  | asks isAt isPlain found runs has taken isNext asks record =>
    rw [asks.roles] at role
    have here : task = before.roles.length := by
      have bound := (List.getElem?_eq_some_iff.mp role).1
      rw [List.length_append, List.length_singleton] at bound
      exact Nat.le_antisymm (Nat.le_of_lt_succ bound) (List.getElem?_eq_none_iff.mp isNew)
    subst here
    rw [List.getElem?_concat_length] at role
    cases role
    have notThere : before.roles.length ∉ before.pending cache := fun member => by
      rcases areKnown cache _ member with ⟨query, is⟩ | ⟨deed, is⟩ <;> cases isNew.symm.trans is
    rw [asks.pending, if_pos rfl, List.count_append, List.count_eq_zero.mpr notThere, roles_length]
    simp
  | answers isBetween isFirst ended same roles => cases isNew.symm.trans (roles ▸ role)

/-- A request that is owed one answer is owed none when that is dealt with. -/
theorem Clears.requestsArePending {outcome : Outcome Answer}
    (clears : Clears cache query task outcome before after)
    (arePending : before.RequestsArePending) : after.RequestsArePending := by
  intro owner query' other role
  rw [clears.roles] at role
  obtain ⟨count, atMost⟩ := arePending owner query' other role
  rw [clears.pending]
  by_cases here : other = task
  · subst here
    cases clears.role.symm.trans role
    have last : after.owed cache query other + 1 = before.owed cache query other := by
      rw [owed, owed, clears.outcomes, clears.ended, clears.dues, List.count_cons_self]
    rw [if_pos rfl, List.count_eq_zero.mpr (by simp)]
    omega
  · have same : after.owed owner query' other = before.owed owner query' other := by
      refine owed_eq (clears.outcomes other) fun _ => ?_
      rw [clears.dues, List.count_cons_of_ne]
      exact fun same => here (Prod.mk.inj same).2.symm
    refine ⟨?_, same ▸ atMost⟩
    rw [same, ← count]
    split
    · exact List.count_filter (by simpa using here)
    · rfl

theorem Happens.requestsArePending (happens : Happens allowed before after)
    (hooksFit : before.HooksFit) (endedAreBare : before.EndedAreBare) (isOrderly : before.IsOrderly)
    (areKnown : before.PendingAreKnown) (arePending : before.RequestsArePending) :
    after.RequestsArePending := by
  cases happens.cares hooksFit endedAreBare isOrderly with
  | clears clears => exact clears.requestsArePending arePending
  | keeps keeps =>
    have custody := happens.passes.custody hooksFit
    intro cache query task role
    cases was : before.roles[task]? with
    | none =>
      have isNone : before.tasks[task]? = none := by
        rwa [roles, List.getElem?_map, Option.map_eq_none_iff] at was
      have isOpen : after.owed cache query task = 1 := by rw [owed, happens.outcome_of_new isNone]
      rw [isOpen]
      exact ⟨custody.new was role areKnown, Nat.le_refl 1⟩
    | some other =>
      cases (roles_kept custody.grows was).symm.trans role
      obtain ⟨count, atMost⟩ := arePending cache query task was
      obtain ⟨sameCount, sameOwed⟩ := keeps cache query task was
      rw [sameCount, sameOwed]
      exact ⟨count, atMost⟩

/-- Each request is pending once until its answer is dealt with, and not after that, in every
run. -/
theorem Reaches.requestsArePending {service : S.State}
    (run : Reaches allowed (fresh service) last) :
    last.RequestsArePending := by
  induction run with
  | refl => exact fun _ _ _ role => by cases role
  | tail earlier happens arePending =>
    have earlier : Reaches allowed (fresh service) _ := earlier
    exact happens.requestsArePending earlier.hooksFit earlier.endedAreBare earlier.isOrderly
      earlier.pendingAreKnown arePending

/-! ## Requests in flight -/

/-- The requests of that kind that a cache waits for. -/
def flights (cache : CacheId) (query : Query) (loop : Loop S) : Nat :=
  (loop.pending cache).countP fun task => loop.roles[task]? = some (.request cache query)

/-- As many things are of a kind, if there are as many of each of them. -/
theorem countP_of_count {first second : List TaskId} {isOne : TaskId → Bool}
    (same : ∀ task, isOne task = true → second.count task = first.count task) :
    second.countP isOne = first.countP isOne := by
  rw [List.countP_eq_length_filter, List.countP_eq_length_filter]
  refine (List.perm_iff_count.mpr fun task => ?_).length_eq
  by_cases holds : isOne task = true
  · rw [List.count_filter holds, List.count_filter holds, same task holds]
  · have none {tasks : List TaskId} : (tasks.filter isOne).count task = 0 :=
      List.count_eq_zero.mpr fun member => holds (List.mem_filter.mp member).2
    rw [none, none]

/-- What does not concern requests leaves as many in flight. -/
theorem Bides.flights (bides : Bides before after) (cache : CacheId) (query : Query) :
    after.flights cache query = before.flights cache query := by
  have same (task : TaskId) : after.roles[task]? = some (.request cache query) ↔
      before.roles[task]? = some (.request cache query) :=
    ⟨bides.requests task cache query, roles_kept bides.grows⟩
  rw [Loop.flights, Loop.flights]
  simp only [same]
  exact countP_of_count fun task is => bides.pending cache task ⟨cache, query, of_decide_eq_true is⟩

/-- One more request is in flight when a cache has asked it. -/
theorem Asks.flights {owner : CacheId} {asked : Query} (asks : Asks owner asked before after)
    (areKnown : before.PendingAreKnown) (cache : CacheId) (query : Query) :
    after.flights cache query = before.flights cache query + if cache = owner ∧ query = asked then
      1 else 0 := by
  have old :
      (before.pending cache).countP (fun task => after.roles[task]? = some (.request cache query)) =
      before.flights cache query := by
    refine List.countP_congr fun task member => ?_
    have isThere : task < before.roles.length := by
      rcases areKnown cache task member with ⟨_, is⟩ | ⟨_, is⟩ <;>
        exact (List.getElem?_eq_some_iff.mp is).1
    rw [asks.roles, List.getElem?_append_left isThere]
  rw [Loop.flights, asks.pending]
  by_cases here : cache = owner
  · subst here
    rw [if_pos rfl, List.countP_append, old, ← roles_length, asks.roles]
    by_cases same : query = asked
    · subst same
      simp
    · have different : ¬ asked = query := fun other => same other.symm
      simp [same, different]
  · rw [if_neg here, old, if_neg fun both => here both.1, Nat.add_zero]

/-- One request less is in flight when its answer is dealt with. -/
theorem Clears.flights {owner : CacheId} {asked : Query} {outcome : Outcome Answer}
    (clears : Clears owner asked task outcome before after) (arePending : before.RequestsArePending)
    (cache : CacheId) (query : Query) :
    before.flights cache query = after.flights cache query + if cache = owner ∧ query = asked then
      1 else 0 := by
  rw [Loop.flights, Loop.flights, clears.pending, clears.roles]
  by_cases here : cache = owner
  · subst here
    obtain ⟨count, atMost⟩ := arePending cache asked task clears.role
    have once : (before.pending cache).count task = 1 := by
      have due : before.owed cache asked task ≠ 0 := by
        rw [owed, clears.ended, clears.dues, List.count_cons_self]
        exact Nat.succ_ne_zero _
      omega
    have split := List.countP_eq_countP_filter_add (before.pending cache)
      (fun other => decide (before.roles[other]? = some (.request cache query)))
        (fun other => decide (other ≠ task))
    have gone : (before.pending cache).filter (fun other => !decide (other ≠ task)) = [task] := by
      have same : (fun other => !decide (other ≠ task)) = (· == task) :=
        funext fun other => Bool.eq_iff_iff.mpr (by simp)
      rw [same, List.filter_beq, once, List.replicate_one]
    rw [gone] at split
    rw [if_pos rfl, split]
    by_cases same : query = asked
    · subst same
      simp [clears.role]
    · have different : ¬ asked = query := fun other => same other.symm
      simp [same, different, clears.role]
  · rw [if_neg here, if_neg fun both => here both.1, Nat.add_zero]

end WatchedNode.Loop
