/-
**Requests that are pending.**

A cache asks in the background by a task of its own for each request, and waits for all of them:
they are pending until their answers are dealt with. Others may come in and be waited for as well,
which monitors left to be done; they are no requests.

* `Bides`: no request comes in, and none of those that are pending is dealt with;
* `Custody`: what happens does not concern requests, or the worker of a cache asks for something,
  which is pending from then on, or the answer to a request is dealt with, which is pending no
  longer.
-/
import WatchedNode.Proofs.Loop.Record
import WatchedNode.Proofs.Loop.Workers

namespace WatchedNode

open Relation

variable {S : Service} {drops : TaskId → Prop}

namespace Loop

variable {before after loop : Loop S} {cache : CacheId} {task : TaskId}

/-! ## Roles -/

/-- Where no task comes in and none goes, all have their roles. -/
theorem Spares.roles (spares : Spares before after)
    (count : after.tasks.length = before.tasks.length) :
    after.roles = before.roles := by
  refine List.ext_getElem? fun task => ?_
  rw [Loop.roles, Loop.roles, List.getElem?_map, List.getElem?_map]
  cases found : before.tasks[task]? with
  | none =>
    rw [List.getElem?_eq_none]
    rw [count]
    exact List.getElem?_eq_none_iff.mp found
  | some known =>
    obtain ⟨known', found', role, -⟩ := spares.old task known found
    rw [found', Option.map_some, Option.map_some, role]

theorem post_roles (cache : CacheId) (item : Item) (loop : Loop S) :
    (loop.post cache item).roles = loop.roles := by
  unfold post
  split
  · rfl
  · dsimp only
    split
    · exact wake_roles _ _ _
    · rfl

theorem itemDone_roles (cache : CacheId) (loop : Loop S) :
    (loop.itemDone cache).roles = loop.roles := by
  unfold itemDone
  split
  · rfl
  · exact foldl_keeps roles _ (fun loop joiner => wake_roles joiner _ loop) _ _

theorem addHook_roles (task : TaskId) (hook : Hook) (loop : Loop S) :
    (loop.addHook task hook).roles = loop.roles :=
  (addHook_spares task hook loop).roles (addHook_taskCount task hook loop)

theorem retire_roles (cache : CacheId) (handle : Option Handle) (loop : Loop S) :
    (loop.retire cache handle).roles = loop.roles := by
  have stopped : (loop.stopCache cache).roles = loop.roles := by
    unfold stopCache
    split
    · exact post_roles _ _ _
    · rfl
  exact stopped

/-! ## Those that are pending -/

theorem pending_eq (caches : after.caches = before.caches) (cache : CacheId) :
    after.pending cache = before.pending cache := by
  rw [pending, caches, pending]

/-- A change of a cache that keeps those that it waits for. -/
theorem modifyCache_pending (owner : CacheId) (change : Cache → Cache)
    (same : ∀ known, (change known).pending = known.pending) (loop : Loop S) (cache : CacheId) :
    (loop.modifyCache owner change).pending cache = loop.pending cache := by
  have kept := modifyCache_map loop (·.pending) owner cache change same
  unfold pending
  cases found : loop.caches[cache]? <;> cases found' :
    (loop.modifyCache owner change).caches[cache]? <;>
    simp_all

/-- One cache waits for others than before, if it is there. -/
theorem modifyCache_pending_self (owner : CacheId) (change : List TaskId → List TaskId)
    (loop : Loop S) (isThere : (∃ known, loop.caches[owner]? = some known) ∨ change [] = [])
    (cache : CacheId) :
    (loop.modifyCache owner fun cache =>
      { cache with pending := change cache.pending }).pending cache =
      if cache = owner then change (loop.pending cache) else loop.pending cache := by
  unfold pending
  by_cases here : cache = owner
  · subst here
    rw [if_pos rfl]
    cases found : loop.caches[cache]? with
    | none => simp_all [modifyCache_caches]
    | some known =>
      rw [modifyCache_self found]
      rfl
  · rw [modifyCache_of_ne loop (Ne.symm here), if_neg here]

theorem post_pending (owner : CacheId) (item : Item) (loop : Loop S) (cache : CacheId) :
    (loop.post owner item).pending cache = loop.pending cache := by
  unfold post
  split
  · rfl
  · dsimp only
    split
    · exact (pending_eq (wake_keeps _ _ _).2.1 cache).trans
        (modifyCache_pending owner _ (by intro; rfl) loop cache)
    · exact modifyCache_pending owner _ (by intro; rfl) loop cache

theorem itemDone_pending (owner : CacheId) (loop : Loop S) (cache : CacheId) :
    (loop.itemDone owner).pending cache = loop.pending cache := by
  unfold itemDone
  split
  · rfl
  · exact (foldl_keeps (·.pending cache) _ (fun loop joiner =>
      pending_eq (wake_keeps loop joiner _).2.1 cache) _ _).trans
      (modifyCache_pending owner _ (by intro; rfl) loop cache)

theorem retire_pending (owner : CacheId) (handle : Option Handle) (loop : Loop S)
    (cache : CacheId) :
    (loop.retire owner handle).pending cache = loop.pending cache := by
  have stopped : (loop.stopCache owner).pending cache = loop.pending cache := by
    unfold stopCache
    split
    · exact (post_pending owner _ _ cache).trans
        (modifyCache_pending owner _ (by intro; rfl) loop cache)
    · rfl
  exact (modifyCache_pending owner _ (by intro; rfl) _ cache).trans stopped

/-! ## Hooks -/

/-- The task has the hook, or has ended and the hook is ready. -/
def IsHooked (hook : Hook) (task : TaskId) (loop : Loop S) : Prop :=
  (∃ known, loop.tasks[task]? = some known ∧ hook ∈ known.hooks) ∨ .hook hook task ∈ loop.ready

section Hooks

variable {hook : Hook}

/-- Tasks that are changed, but not in their hooks, have those they had. -/
theorem modifyTask_isHooked {self : TaskId} {change : Task S → Task S}
    (same : ∀ known, (change known).hooks = known.hooks)
    (isHooked : (loop.modifyTask self change).IsHooked hook task) : loop.IsHooked hook task := by
  rcases isHooked with ⟨known, found, member⟩ | isReady
  · simp only [modifyTask, List.getElem?_modify] at found
    obtain ⟨old, earlier, rfl⟩ := Option.map_eq_some_iff.mp found
    refine .inl ⟨old, earlier, ?_⟩
    split at member
    · rwa [same] at member
    · exact member
  · exact .inr isReady

theorem push_isHooked {job : Job} (isHooked : (loop.push job).IsHooked hook task) :
    loop.IsHooked hook task ∨ job = .hook hook task := by
  rcases isHooked with isThere | isReady
  · exact .inl (.inl isThere)
  · rcases List.mem_append.mp isReady with earlier | isNew
    · exact .inl (.inr earlier)
    · exact .inr (List.mem_singleton.mp isNew).symm

theorem wake_isHooked {self : TaskId} {why : Wake S.Reply}
    (isHooked : (loop.wake self why).IsHooked hook task) :
    loop.IsHooked hook task := by
  unfold wake at isHooked
  split at isHooked
  · rcases push_isHooked isHooked with isHooked | same
    · exact modifyTask_isHooked (by intro; rfl) isHooked
    · cases same
  · exact isHooked

theorem wakes_isHooked {why : Wake S.Reply} {tasks : List TaskId}
    (isHooked : (tasks.foldl (fun loop task => loop.wake task why) loop).IsHooked hook task) :
    loop.IsHooked hook task := by
  induction tasks generalizing loop with
  | nil => exact isHooked
  | cons first rest step => exact wake_isHooked (step isHooked)

theorem post_isHooked {owner : CacheId} {item : Item}
    (isHooked : (loop.post owner item).IsHooked hook task) :
    loop.IsHooked hook task := by
  unfold post at isHooked
  split at isHooked
  · exact isHooked
  · dsimp only at isHooked
    split at isHooked
    · have was := wake_isHooked isHooked
      exact was
    · exact isHooked

theorem itemDone_isHooked {owner : CacheId} (isHooked : (loop.itemDone owner).IsHooked hook task) :
    loop.IsHooked hook task := by
  unfold itemDone at isHooked
  split at isHooked
  · exact isHooked
  · have was := wakes_isHooked isHooked
    exact was

theorem retire_isHooked {owner : CacheId} {handle : Option Handle}
    (isHooked : (loop.retire owner handle).IsHooked hook task) : loop.IsHooked hook task := by
  have stopped : (loop.stopCache owner).IsHooked hook task := isHooked
  unfold stopCache at stopped
  split at stopped
  · have was := post_isHooked stopped
    exact was
  · exact stopped

theorem spawn_isHooked {role : Role} {frame : Frame S.Point}
    (isHooked : (loop.spawn role frame).IsHooked hook task) :
    loop.IsHooked hook task := by
  rcases push_isHooked isHooked with (⟨known, found, member⟩ | isReady) | same
  · have isNew : (loop.spawn role frame).tasks[task]? = some known := found
    rw [spawn_tasks] at isNew
    split at isNew
    · cases isNew
      cases member
    · exact .inl ⟨known, isNew, member⟩
  · exact .inr isReady
  · cases same

theorem trigger_isHooked {self : TaskId} {outcome : Outcome Answer} {other : Hook}
    (isHooked : (loop.trigger self outcome other).IsHooked hook task) :
    loop.IsHooked hook task ∨ task = self ∧ hook = other := by
  unfold trigger at isHooked
  split at isHooked
  · exact .inl (wake_isHooked isHooked)
  · exact (push_isHooked isHooked).imp_right fun same => by
      cases same
      exact ⟨rfl, rfl⟩

theorem addHook_isHooked {self : TaskId} {other : Hook}
    (isHooked : (loop.addHook self other).IsHooked hook task) :
    loop.IsHooked hook task ∨ task = self ∧ hook = other := by
  unfold addHook at isHooked
  split at isHooked
  · exact trigger_isHooked isHooked
  · rcases isHooked with ⟨known, found, member⟩ | isReady
    · simp only [modifyTask, List.getElem?_modify] at found
      obtain ⟨old, earlier, rfl⟩ := Option.map_eq_some_iff.mp found
      split at member
      · next here =>
        rcases List.mem_append.mp member with isOld | isNew
        · exact .inl (.inl ⟨old, earlier, isOld⟩)
        · exact .inr ⟨here.symm, List.mem_singleton.mp isNew⟩
      · exact .inl (.inl ⟨old, earlier, member⟩)
    · exact .inl (.inr isReady)

/-- When a task ends, its hooks become ready, and no others. -/
theorem finish_isHooked {self : TaskId} {outcome : Outcome Answer}
    (isHooked : (loop.finish self outcome).IsHooked hook task) : loop.IsHooked hook task := by
  have triggered : ∀ (hooks : List Hook) (loop : Loop S),
      (hooks.foldl (fun loop hook => loop.trigger self outcome hook) loop).IsHooked hook task →
        loop.IsHooked hook task ∨ task = self ∧ hook ∈ hooks := by
    intro hooks
    induction hooks with
    | nil => exact fun loop isHooked => .inl isHooked
    | cons first rest step =>
      intro loop isHooked
      rcases step _ isHooked with earlier | ⟨here, member⟩
      · exact (trigger_isHooked earlier).imp_right fun ⟨here, same⟩ =>
          ⟨here, same ▸ List.mem_cons_self⟩
      · exact .inr ⟨here, List.mem_cons_of_mem _ member⟩
  rcases triggered _ _ isHooked with ended | ⟨rfl, member⟩
  · rcases ended with ⟨known, found, member⟩ | isReady
    · simp only [modifyTask, List.getElem?_modify] at found
      obtain ⟨old, earlier, rfl⟩ := Option.map_eq_some_iff.mp found
      split at member
      · cases member
      · exact .inl ⟨old, earlier, member⟩
    · exact .inr isReady
  · cases found : loop.tasks[task]? with
    | none => simp [found] at member
    | some known => exact .inl ⟨known, found, by simpa [found] using member⟩

theorem afterTurn_isHooked {self : TaskId} {frame : Frame S.Point} {rest : List (Frame S.Point)}
    {turn : Turn S} (isHooked : (afterTurn self frame rest turn).IsHooked hook task) :
    turn.1.IsHooked hook task := by
  obtain ⟨loop, way⟩ := turn
  have noted : (loop.noteEnd self frame way).IsHooked hook task → loop.IsHooked hook task := by
    unfold noteEnd
    split <;> exact id
  have set : ∀ {frames}, ((loop.noteEnd self frame way).setFrames self frames).IsHooked hook task →
      loop.IsHooked hook task := fun isHooked =>
        noted (modifyTask_isHooked (by intro; rfl) isHooked)
  cases way with
  | goOn next => exact set isHooked
  | call caller callee => exact set isHooked
  | await next on =>
    refine set (?_ :
      ((loop.noteEnd self frame (.await next on)).setFrames self (next :: rest)).IsHooked hook task)
    have isHooked : (suspend self on
      ((loop.noteEnd self frame (.await next on)).setFrames self (next :: rest))).IsHooked hook
        task := isHooked
    generalize (loop.noteEnd self frame (.await next on)).setFrames self (next :: rest) = middle
      at isHooked ⊢
    unfold suspend at isHooked
    split at isHooked
    · split at isHooked
      · rcases push_isHooked isHooked with isHooked | same
        · exact modifyTask_isHooked (by intro; rfl) isHooked
        · cases same
      · exact modifyTask_isHooked (by intro; rfl) isHooked
    · exact modifyTask_isHooked (by intro; rfl) isHooked
  | finish outcome =>
    cases rest with
    | nil => exact noted (finish_isHooked isHooked)
    | cons caller rest => exact set isHooked

end Hooks

/-! ## What does not concern requests -/

/-- The task is that of a request. -/
def IsAsked (task : TaskId) (loop : Loop S) : Prop :=
  ∃ cache query, loop.roles[task]? = some (.request cache query)

/-- No task comes in, each cache waits for those that it waited for, and no task gets a hook. -/
structure Stalls (before after : Loop S) : Prop where
  roles : after.roles = before.roles
  pending (cache : CacheId) : after.pending cache = before.pending cache
  hooks (hook : Hook) (task : TaskId) : after.IsHooked hook task → before.IsHooked hook task

theorem Stalls.trans {middle : Loop S} (left : Stalls before middle) (right : Stalls middle after) :
    Stalls before after :=
  ⟨right.roles.trans left.roles, fun cache => (right.pending cache).trans (left.pending cache),
    fun hook task isHooked => left.hooks hook task (right.hooks hook task isHooked)⟩

/-- No request comes in, and none of those that are pending is dealt with; tasks get only such hooks
as they can have. -/
structure Bides (before after : Loop S) : Prop where
  grows : before.roles <+: after.roles
  requests (task : TaskId) (cache : CacheId) (query : Query) :
    after.roles[task]? = some (.request cache query) →
      before.roles[task]? = some (.request cache query)
  pending (cache : CacheId) (task : TaskId) : before.IsAsked task →
    (after.pending cache).count task = (before.pending cache).count task
  new (cache : CacheId) (task : TaskId) : task ∈ after.pending cache →
    task ∈ before.pending cache ∨ ∃ owner, after.roles[task]? = some (.deed owner)
  hooks (hook : Hook) (task : TaskId) : after.IsHooked hook task →
    before.IsHooked hook task ∨ ∃ role, after.roles[task]? = some role ∧ hook.fits role

/-- A task has the role that it had. -/
theorem roles_kept (grows : before.roles <+: after.roles) {role : Role}
    (was : before.roles[task]? = some role) :
    after.roles[task]? = some role := by
  obtain ⟨more, same⟩ := grows
  have isThere := (List.getElem?_eq_some_iff.mp was).1
  rw [← same, List.getElem?_append_left isThere, was]

namespace Bides

variable {first second third : Loop S}

theorem of_stalls (stalls : Stalls first second) : Bides first second where
  grows := stalls.roles ▸ List.prefix_rfl
  requests _ _ _ is := stalls.roles ▸ is
  pending cache task _ := by rw [stalls.pending]
  new cache task member := .inl (stalls.pending cache ▸ member)
  hooks hook task isHooked := .inl (stalls.hooks hook task isHooked)

theorem refl (loop : Loop S) : Bides loop loop := of_stalls ⟨rfl, fun _ => rfl, fun _ _ => id⟩

theorem isAsked (bides : Bides first second) (isAsked : first.IsAsked task) :
    second.IsAsked task := by
  obtain ⟨cache, query, was⟩ := isAsked
  exact ⟨cache, query, roles_kept bides.grows was⟩

theorem trans (left : Bides first second) (right : Bides second third) : Bides first third where
  grows := left.grows.trans right.grows
  requests task cache query is :=
    left.requests task cache query (right.requests task cache query is)
  pending cache task isAsked :=
    (right.pending cache task (left.isAsked isAsked)).trans (left.pending cache task isAsked)
  new cache task member := by
    rcases right.new cache task member with earlier | isDeed
    · rcases left.new cache task earlier with earlier | ⟨owner, isDeed⟩
      · exact .inl earlier
      · exact .inr ⟨owner, roles_kept right.grows isDeed⟩
    · exact .inr isDeed
  hooks hook task isHooked := by
    rcases right.hooks hook task isHooked with earlier | fits
    · rcases left.hooks hook task earlier with earlier | ⟨role, is, fits⟩
      · exact .inl earlier
      · exact .inr ⟨role, roles_kept right.grows is, fits⟩
    · exact .inr fits

/-- A task comes in that is no request. -/
theorem spawn {role : Role} (isPlain : ∀ cache query, role ≠ .request cache query)
    (frame : Frame S.Point) (loop : Loop S) : Bides loop (loop.spawn role frame) where
  grows := ⟨[role], by simp [roles, Loop.spawn, push]⟩
  requests task cache query is := by
    rw [show (loop.spawn role frame).roles = loop.roles ++ [role] by simp [roles, Loop.spawn, push]]
      at is
    rcases Nat.lt_or_ge task loop.roles.length with isOld | isNew
    · rwa [List.getElem?_append_left isOld] at is
    · rw [List.getElem?_append_right isNew] at is
      have same := List.mem_singleton.mp (List.mem_of_getElem? is)
      exact absurd same.symm (isPlain cache query)
  pending _ _ _ := rfl
  new _ _ member := .inl member
  hooks _ _ isHooked := .inl (spawn_isHooked isHooked)

end Bides

/-- A cache that has just come in waits for nothing. -/
theorem create_pending {known : Cache} (isBare : known.pending = []) (loop : Loop S)
    (cache : CacheId) :
    ({ loop with caches := loop.caches ++ [known] } : Loop S).pending cache =
      loop.pending cache := by
  unfold pending
  dsimp only
  rcases Nat.lt_trichotomy cache loop.caches.length with isOld | isNew | isNone
  · rw [List.getElem?_append_left isOld]
  · rw [isNew, List.getElem?_concat_length, List.getElem?_eq_none (Nat.le_refl _)]
    exact isBare
  · rw [List.getElem?_eq_none (Nat.le_of_lt isNone),
      List.getElem?_eq_none (by simpa [Nat.succ_le_iff] using isNone)]

theorem Pends.bides {was is : List TaskId} (pends : Pends drops before was is)
    (areOthers : ∀ task, drops task → ¬ before.IsAsked task) (isAsked : before.IsAsked task) :
    is.count task = was.count task := by
  cases pends with
  | same => rfl
  | @deed other owner isDeed =>
    have isOther : task ≠ other := by
      rintro rfl
      obtain ⟨cache, query, was⟩ := isAsked
      rw [roles, List.getElem?_map] at was
      cases was.symm.trans isDeed
    simp [isOther.symm]
  | @gone other isDone =>
    have isOther : task ≠ other := by
      rintro rfl
      exact areOthers task isDone isAsked
    rw [List.count_filter]
    simpa using isOther

theorem Pends.new {was is : List TaskId} (pends : Pends drops before was is) (member : task ∈ is) :
    task ∈ was ∨ ∃ owner, before.roles[task]? = some (.deed owner) := by
  cases pends with
  | same => exact .inl member
  | @deed other owner isDeed =>
    rcases List.mem_append.mp member with isOld | isNew
    · exact .inl isOld
    · rw [List.mem_singleton.mp isNew]
      refine .inr ⟨owner, ?_⟩
      rw [roles, List.getElem?_map]
      exact isDeed
  | gone => exact .inl (List.mem_of_mem_filter member)

/-- A task gets a hook that it can have, if it is there. -/
theorem addHook_bides {other : TaskId} {added : Hook}
    (fits : ∀ known, loop.tasks[other]? = some known → added.fits known.role) :
    Bides loop (loop.addHook other added) := by
  cases found : loop.tasks[other]? with
  | none =>
    have gone : loop.addHook other added = loop := by
      have isOpen : loop.outcome? other = none := by simp [outcome?, status?, found]
      rw [addHook, isOpen]
      show ({ loop with tasks := loop.tasks.modify other _ } : Loop S) = loop
      rw [List.modify_eq_self (List.getElem?_eq_none_iff.mp found)]
    rw [gone]
    exact .refl loop
  | some known =>
    have roles := addHook_roles other added loop
    have pending := pending_eq (addHook_keeps loop other added).2.1
    refine {
      grows := roles ▸ List.prefix_rfl
      requests := fun _ _ _ is => roles ▸ is
      pending := fun cache _ _ => by rw [pending]
      new := fun cache _ member => .inl (pending cache ▸ member)
      hooks := fun hook task isHooked => ?_ }
    refine (addHook_isHooked isHooked).imp_right ?_
    rintro ⟨rfl, rfl⟩
    exact ⟨known.role, by rw [roles, Loop.roles, List.getElem?_map, found]; rfl, fits known found⟩

/-- **What is no asking does not concern requests**, unless it deals with one. -/
theorem Grain.bides (grain : Grain False drops before after)
    (areOthers : ∀ task, drops task → ¬ before.IsAsked task) : Bides before after := by
  cases grain with
  | still service duty tasks ready turn pends =>
    have roles : after.roles = before.roles := by rw [Loop.roles, tasks, Loop.roles]
    exact {
      grows := roles ▸ List.prefix_rfl
      requests := fun _ _ _ is => roles ▸ is
      pending := fun cache _ isAsked => (pends cache).bides areOthers isAsked
      new := fun cache _ member => roles ▸ (pends cache).new member
      hooks := fun hook task isHooked => .inl (by rwa [IsHooked, tasks, ready] at isHooked) }
  | serve drift => exact .of_stalls ⟨rfl, fun _ => rfl, fun _ _ => id⟩
  | create known isNew isBare => exact .of_stalls ⟨rfl, create_pending isBare before, fun _ _ => id⟩
  | post found runs isPlain =>
    exact .of_stalls ⟨post_roles _ _ _, post_pending _ _ _, fun _ _ => post_isHooked⟩
  | spawn isOther enters isPlain => exact .spawn isPlain _ before
  | ask query mayAsk found => exact mayAsk.elim
  | wake isFree =>
    exact .of_stalls ⟨wake_roles _ _ _, pending_eq (wake_keeps _ _ _).2.1, fun _ _ => wake_isHooked⟩
  | count other =>
    refine .of_stalls ⟨(countDown_spares other before).roles (countDown_taskCount other before),
      pending_eq (countDown_keeps _ _).2.1, fun _ _ isHooked => ?_⟩
    unfold countDown at isHooked
    split at isHooked
    · split at isHooked
      · exact wake_isHooked isHooked
      · exact modifyTask_isHooked (by intro; rfl) isHooked
    · exact isHooked
  | cancel other =>
    have spares : Spares before (before.cancelErrand other) := by
      unfold cancelErrand
      split
      · exact cancel_spares other before
      · exact .refl before
    refine .of_stalls ⟨spares.roles (cancelErrand_taskCount other before),
      pending_eq (cancelErrand_keeps _ _).2.1,
      fun _ _ isHooked => ?_⟩
    unfold cancelErrand Loop.cancel at isHooked
    split at isHooked
    · split at isHooked
      · exact modifyTask_isHooked (by intro; rfl) isHooked
      · exact wake_isHooked isHooked
      · exact modifyTask_isHooked (by intro; rfl) isHooked
      · exact isHooked
    · exact isHooked
  | hook other isPlain fits => exact addHook_bides fits

theorem Grains.bides (grains : Grains False drops before after)
    (areOthers : ∀ task, drops task → ¬ before.IsAsked task) : Bides before after := by
  induction grains with
  | refl => exact .refl before
  | tail _ grain step =>
    refine step.trans (grain.bides fun task isDone isAsked => areOthers task isDone ?_)
    obtain ⟨cache, query, is⟩ := isAsked
    exact ⟨cache, query, step.requests task cache query is⟩

/-! ## Turns -/

theorem afterTurn_pending (self : TaskId) (frame : Frame S.Point) (rest : List (Frame S.Point))
    (turn : Turn S) (cache : CacheId) :
    (afterTurn self frame rest turn).pending cache = turn.1.pending cache :=
  pending_eq
    ((move_keeps _ self rest turn.2).2.1.trans (noteEnd_tasks self frame turn.2 turn.1).2) cache

theorem afterTurn_stalls (self : TaskId) (frame : Frame S.Point) (rest : List (Frame S.Point))
    (turn : Turn S) :
    Stalls turn.1 (afterTurn self frame rest turn) :=
  ⟨afterTurn_roles self frame rest turn, afterTurn_pending self frame rest turn,
    fun _ _ => afterTurn_isHooked⟩

/-- A change of a cache that keeps those that it waits for. -/
theorem modifyCache_stalls (owner : CacheId) (change : Cache → Cache)
    (same : ∀ known, (change known).pending = known.pending) (loop : Loop S) :
    Stalls loop (loop.modifyCache owner change) :=
  ⟨rfl, modifyCache_pending owner change same loop, fun _ _ => id⟩

theorem setBacklog_stalls (cache : CacheId) (backlog : Backlog) (loop : Loop S) :
    Stalls loop (loop.setBacklog cache backlog) := modifyCache_stalls cache _ (by intro; rfl) loop

theorem itemDone_stalls (cache : CacheId) (loop : Loop S) : Stalls loop (loop.itemDone cache) :=
  ⟨itemDone_roles cache loop, itemDone_pending cache loop, fun _ _ => itemDone_isHooked⟩

theorem retire_stalls (cache : CacheId) (handle : Option Handle) (loop : Loop S) :
    Stalls loop (loop.retire cache handle) :=
  ⟨retire_roles cache handle loop, retire_pending cache handle loop, fun _ _ => retire_isHooked⟩

/-- Grains in which nobody asks or is dealt with do not concern requests. -/
theorem Grains.bides_of_nobody (grains : Grains False nobody before after) : Bides before after :=
  Grains.bides grains fun _ => False.elim

/-- A cache has asked something: the request is a task of its own, and is pending from then on. -/
structure Asks (cache : CacheId) (query : Query) (before after : Loop S) : Prop where
  roles : after.roles = before.roles ++ [.request cache query]
  pending (owner : CacheId) : after.pending owner =
    if owner = cache then before.pending owner ++ [before.tasks.length] else before.pending owner
  hooks (hook : Hook) (task : TaskId) : after.IsHooked hook task →
    before.IsHooked hook task ∨ hook = .answered cache query ∧ task = before.tasks.length

section Asking

variable {query : Query} {middle : Loop S}

theorem roles_length (loop : Loop S) : loop.roles.length = loop.tasks.length := List.length_map ..

theorem ask_asks {known : Cache} (found : loop.caches[cache]? = some known) (query : Query) :
    Asks cache query loop (loop.ask cache query) := by
  rw [ask_eq query found]
  refine ⟨?_, fun owner => ?_, fun hook task isHooked => ?_⟩
  · rw [addHook_roles]
    simp [roles, posed, modifyCache, spawn, push, note]
  · rw [pending_eq (addHook_keeps _ _ _).2.1]
    exact modifyCache_pending_self cache (· ++ [loop.tasks.length]) ((loop.note _).spawn _ _)
      (.inl ⟨known, found⟩)
      owner
  · refine (addHook_isHooked isHooked).imp (fun isHooked => ?_) And.symm
    have was := spawn_isHooked isHooked
    exact was

theorem Asks.stalls (asks : Asks cache query before middle) (stalls : Stalls middle after) :
    Asks cache query before after where
  roles := stalls.roles.trans asks.roles
  pending owner := (stalls.pending owner).trans (asks.pending owner)
  hooks hook task isHooked := asks.hooks hook task (stalls.hooks hook task isHooked)

theorem Stalls.thenAsks (stalls : Stalls before middle) (asks : Asks cache query middle after) :
    Asks cache query before after := by
  have count : middle.tasks.length = before.tasks.length := by
    rw [← roles_length, stalls.roles, roles_length]
  refine ⟨?_, fun owner => ?_, fun hook task isHooked => ?_⟩
  · rw [asks.roles, stalls.roles]
  · rw [asks.pending, stalls.pending, count]
  · rw [← count]
    exact (asks.hooks hook task isHooked).imp_left (stalls.hooks hook task)

end Asking

/-! ## Everything that happens -/

/-- What happens to the requests of caches. -/
inductive Custody (before : Loop S) : Loop S → Prop
  | bides {after : Loop S} (bides : Bides before after) : Custody before after
  /-- The worker of a cache takes an item, and asks something. -/
  | asks {after : Loop S} {self : TaskId} {wake : Wake S.Reply} {below : List (Frame S.Point)}
      {cache : CacheId} {known : Cache} {backlog rest : Backlog} {item : Item} {query : Query}
      (isAt : before.IsAt self wake (.worker cache .taking) below) (isPlain : wake ≠ .cancelled)
      (found : before.caches[cache]? = some known) (runs : known.phase = .started)
      (has : known.backlog = some backlog) (taken : backlog.take? = some (item, rest))
      (isNext : item.query? = some query) (asks : Asks cache query before after)
      (record :
        after.record = .asked cache before.tasks.length (queryRequest cache known query) ::
          before.record) :
      Custody before after
  /-- The answer to a request is dealt with, which is pending no longer. -/
  | answers {after : Loop S} {cache : CacheId} {query : Query} {task : TaskId}
      {outcome : Outcome Answer} {ready : List Job} (isBetween : before.turn = none)
      (isFirst : before.ready = .hook (.answered cache query) task :: ready)
      (ended : before.outcome? task = some outcome)
      (same : after = ({ before with ready } : Loop S).answered cache query task outcome)
      (roles : after.roles = before.roles) (pending : ∀ owner, after.pending owner =
        if owner = cache then (before.pending owner).filter (· ≠ task) else before.pending owner)
      (hooks : ∀ hook task, after.IsHooked hook task → before.IsHooked hook task) :
      Custody before after

/-- Tasks have only such hooks as they can have. -/
def HooksFit (loop : Loop S) : Prop :=
  ∀ (hook : Hook) (task : TaskId), loop.IsHooked hook task → ∃ role, loop.roles[task]? = some role ∧
    hook.fits role

theorem Custody.hooksFit (custody : Custody before after) (hooksFit : before.HooksFit) :
    after.HooksFit := by
  intro hook task isHooked
  cases custody with
  | bides bides =>
    rcases bides.hooks hook task isHooked with earlier | fits
    · obtain ⟨role, is, fits⟩ := hooksFit hook task earlier
      exact ⟨role, roles_kept bides.grows is, fits⟩
    · exact fits
  | asks isAt isPlain found runs has taken isNext asks record =>
    rw [asks.roles]
    rcases asks.hooks hook task isHooked with earlier | ⟨rfl, rfl⟩
    · obtain ⟨role, is, fits⟩ := hooksFit hook task earlier
      exact ⟨role, by rw [List.getElem?_append_left (List.getElem?_eq_some_iff.mp is).1, is], fits⟩
    · exact ⟨_, by rw [← roles_length, List.getElem?_concat_length], rfl⟩
  | answers isBetween isFirst ended same roles pending hooks =>
    rw [roles]
    exact hooksFit hook task (hooks hook task isHooked)

/-- **What a frame's turn does to requests.** -/
theorem Plays.custody {self : TaskId} {frame : Frame S.Point} {below : List (Frame S.Point)}
    {wake : Wake S.Reply} {turn : Turn S} (plays : Plays self before.inTurn frame wake turn)
    (isAt : before.IsAt self wake frame below) :
    Custody before (afterTurn self frame below turn) := by
  have inTurn : Stalls before before.inTurn := ⟨rfl, fun _ => rfl, fun _ _ => id⟩
  have bided : Bides before.inTurn turn.1 → Custody before (afterTurn self frame below turn) :=
    fun bides =>
    .bides
      ((Bides.of_stalls inTurn).trans
        (bides.trans (.of_stalls (afterTurn_stalls self frame below turn))))
  cases plays with
  | plain isOther grains isFree => exact bided (Grains.bides_of_nobody grains)
  | @begins cache known _ _ found isLatent =>
    have begun : Bides before.inTurn (before.inTurn.begin cache) :=
      (Bides.of_stalls (modifyCache_stalls cache _ (by intro; rfl) _)).trans
        (.spawn (fun _ _ => Role.noConfusion) _ _)
    exact bided (begun.trans (.of_stalls ⟨rfl, fun _ => rfl, fun _ _ => id⟩))
  | @listens cache known _ _ _ found grains isFree =>
    have listened : Stalls before.inTurn
        (before.inTurn.setService (S.listen known.handle (.cache cache) before.inTurn.service)) :=
      ⟨rfl, fun _ => rfl, fun _ _ => id⟩
    exact bided ((Bides.of_stalls listened).trans (Grains.bides_of_nobody grains))
  | retires outcome found => exact bided (.of_stalls (retire_stalls _ _ _))
  | shuts found knows isOpen =>
    exact bided ((Bides.of_stalls (retire_stalls _ _ _)).trans (addHook_bides fun _ _ => trivial))
  | joins found has isBusy => exact bided (.of_stalls (setBacklog_stalls _ _ _))
  | quits isGone => exact bided (.refl _)
  | idles found isPlain isEmpty =>
    exact bided (.of_stalls (modifyCache_stalls _ _ (by intro; rfl) _))
  | @reads cache known backlog rest _ found isPlain has taken =>
    exact bided ((Bides.of_stalls (setBacklog_stalls cache rest _)).trans
      (.of_stalls ⟨rfl, fun _ => rfl, fun _ _ => id⟩))
  | @works cache known backlog rest item _ middle way found isPlain has taken grains
      either asking =>
    have taking := setBacklog_stalls cache rest before.inTurn
    have done := itemDone_stalls cache middle
    cases asking with
    | nothing isResync isSilent grains =>
      exact bided
        ((Bides.of_stalls taking).trans ((Grains.bides_of_nobody grains).trans (.of_stalls done)))
    | @asks query isNext runs =>
      have found' :
          (before.inTurn.setBacklog cache rest).caches[cache]? =
            some { known with backlog := some rest } :=
        modifyCache_self found _
      have isTaking : way = .goOn (.worker cache .taking) := by
        rcases either with ⟨rfl, -⟩ | ⟨-, way⟩
        · cases isNext
        · exact way
      refine .asks isAt isPlain found runs has taken isNext ?_ ?_
      · exact inTurn.thenAsks ((taking.thenAsks (ask_asks found' query)).stalls
          (done.trans (afterTurn_stalls self (.worker cache .taking) below (_, way))))
      · rw [afterTurn_record, isTaking]
        exact (itemDone_record cache _).trans (ask_record found' query)
  | returns found grains either =>
    exact bided ((Grains.bides_of_nobody grains).trans (.of_stalls (itemDone_stalls _ _)))

theorem setStatus_stalls (task : TaskId) (status : Status S.Reply) (loop : Loop S) :
    Stalls loop (loop.setStatus task status) :=
  ⟨modifyTask_roles task (by intro; rfl) loop, fun _ => rfl,
    fun _ _ => modifyTask_isHooked (by intro; rfl)⟩

/-- A job that is ready is begun, and is ready no longer. -/
theorem ready_stalls {job : Job} {ready : List Job} (isFirst : before.ready = job :: ready) :
    Stalls before { before with ready } :=
  ⟨rfl, fun _ => rfl, fun _ _ isHooked => isHooked.imp_right fun member =>
    isFirst ▸ List.mem_cons_of_mem job member⟩

/-! ### Answers -/

theorem answered_roles (cache : CacheId) (query : Query) (task : TaskId) (outcome : Outcome Answer)
    (loop : Loop S) :
    (loop.answered cache query task outcome).roles = loop.roles := by
  unfold answered
  dsimp only
  split
  · exact post_roles _ _ _
  · rfl

/-- A request is pending no longer when its answer is dealt with. -/
theorem answered_pending (cache : CacheId) (query : Query) (task : TaskId)
    (outcome : Outcome Answer) (loop : Loop S) (owner : CacheId) :
    (loop.answered cache query task outcome).pending owner =
      if owner = cache then (loop.pending owner).filter (· ≠ task) else loop.pending owner := by
  have dropped := modifyCache_pending_self cache (·.filter (· ≠ task)) loop (.inr rfl) owner
  unfold answered
  dsimp only
  split
  · exact (post_pending _ _ _ owner).trans dropped
  · exact dropped

theorem answered_isHooked {query : Query} {outcome : Outcome Answer} {hook : Hook} {other : TaskId}
    (isHooked : (loop.answered cache query task outcome).IsHooked hook other) :
    loop.IsHooked hook other := by
  unfold answered at isHooked
  dsimp only at isHooked
  split at isHooked
  · have was := post_isHooked isHooked
    exact was
  · exact isHooked

/-- What happens: a frame has its turn, or the answer to a request is dealt with, or else items come
last in queues, and that does not concern requests. -/
inductive Betides (before : Loop S) : Loop S → Prop
  | turn {task : TaskId} {wake : Wake S.Reply} {frame : Frame S.Point} {rest : List (Frame S.Point)}
      (isAt : before.IsAt task wake frame rest)
      (plays : Plays task before.inTurn frame wake (before.inTurn.frameTurn task frame wake)) :
      Betides before (afterTurn task frame rest (before.inTurn.frameTurn task frame wake))
  | answer {cache : CacheId} {query : Query} {task : TaskId} {outcome : Outcome Answer}
      {ready : List Job} (isBetween : before.turn = none)
      (isFirst : before.ready = .hook (.answered cache query) task :: ready)
      (ended : before.outcome? task = some outcome) :
      Betides before (({ before with ready } : Loop S).answered cache query task outcome)
  | plain {after : Loop S}
      (feeds : ∀ cache, ∃ items, (∀ item ∈ items, item.isAsking) ∧ Feeds cache items before after)
      (bides : Bides before after) : Betides before after

theorem Passes.betides (passes : Passes before after) (hooksFit : before.HooksFit) :
    Betides before after := by
  have still {after : Loop S} (duty : ∀ cache, after.duty? cache = before.duty? cache)
      (bides : Bides before after) : Betides before after :=
    .plain (fun cache => ⟨[], by simp, .of_eq (duty cache)⟩) bides
  cases passes with
  | grains grains => exact .plain (Grains.feeds grains) (Grains.bides_of_nobody grains)
  | turn isAt same plays =>
    subst same
    exact .turn isAt plays
  | pause turn isOver => exact still (fun _ => rfl) (.of_stalls ⟨rfl, fun _ => rfl, fun _ _ => id⟩)
  | @run task status wake ready isBetween isFirst was either =>
    exact still (fun _ => rfl) (.of_stalls ((ready_stalls isFirst).trans
      ((setStatus_stalls task .running _).trans ⟨rfl, fun _ => rfl, fun _ _ => id⟩)))
  | @doom task ready isBetween isFirst was =>
    have caches := (finish_keeps ({ before with ready } : Loop S) task .cancelled).2.1
    exact still (fun _ => by rw [duty?, caches, duty?]) (.of_stalls ((ready_stalls isFirst).trans
      ⟨finish_roles task .cancelled _, pending_eq caches, fun _ _ => finish_isHooked⟩))
  | stale isBetween isFirst isOver => exact still (fun _ => rfl) (.of_stalls (ready_stalls isFirst))
  | answer isBetween isFirst ended => exact .answer isBetween isFirst ended
  | @hook hook task ready after isBetween isFirst isPlain does =>
    have first := Bides.of_stalls (ready_stalls isFirst)
    rcases does with grains | ⟨waiter, outcome, rfl, rfl⟩
    · refine .plain (fun cache => ?_) (first.trans (Grains.bides grains ?_))
      · obtain ⟨items, areAsking, feeds⟩ := Grains.feeds grains cache
        exact ⟨items, areAsking, (Feeds.of_eq (by rfl)).trans feeds⟩
      · rintro other ⟨rfl, owner, rfl⟩ ⟨cache, query, is⟩
        obtain ⟨role, was, fits⟩ :=
          hooksFit (.deedDone owner) other (.inr (isFirst ▸ List.mem_cons_self))
        cases (show role = .deed owner from fits)
        cases was.symm.trans is
    · exact still (wake_duty? _ _ _)
        (first.trans (.of_stalls ⟨wake_roles _ _ _, pending_eq (wake_keeps _ _ _).2.1,
        fun _ _ => wake_isHooked⟩))

/-- **What happens to requests**, whatever happens. -/
theorem Passes.custody (passes : Passes before after) (hooksFit : before.HooksFit) :
    Custody before after := by
  cases passes.betides hooksFit with
  | turn isAt plays => exact plays.custody isAt
  | @answer cache query task outcome ready isBetween isFirst ended =>
    exact .answers isBetween isFirst ended rfl (answered_roles cache query task outcome _)
      (answered_pending cache query task outcome { before with ready })
      fun hook other isHooked =>
        (ready_stalls isFirst).hooks hook other (answered_isHooked isHooked)
  | plain feeds bides => exact .bides bides

/-- **Tasks have only such hooks as they can have**, in all that can happen. -/
theorem Reaches.hooksFit {allowed : Outside S} {service : S.State} {last : Loop S}
    (run : Reaches allowed (fresh service) last) : last.HooksFit := by
  refine run.keeps (fun hook task isHooked => ?_) fun before after happens hooksFit =>
    (happens.passes.custody hooksFit).hooksFit hooksFit
  rcases isHooked with ⟨known, found, -⟩ | isReady
  · cases found
  · cases isReady

end Loop

end WatchedNode
