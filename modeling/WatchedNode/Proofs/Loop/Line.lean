/-
**What is in line.**

The answers to what a cache asks in the background stand in line: those that have become items of
its backlog come first, then those whose tasks have ended, in the order in which they did (`line`).
Each task of a request ends with one answer (`AreTied`), and no answer is in line before its task
has ended (`AnswersAreDue`).
-/
import WatchedNode.Proofs.Loop.Lull
import WatchedNode.Proofs.Notification

namespace WatchedNode

open Relation

variable {S : Service}

/-- The hook deals with the answer to a request. -/
def Hook.isAnswer : Hook → Bool
  | .answered .. => true
  | _ => false

/-- The answers that are to be dealt with when a task of that role has ended. -/
def Role.answers : Role → List Hook
  | .request cache query => [.answered cache query]
  | _ => []

/-- The items that a cache has to deal with. -/
def Cache.items (cache : Cache) : List Item := cache.backlog.elim [] (·.items)

/-- The hook of a job that deals with the answer to a request. -/
def Job.hook? : Job → Option (Hook × TaskId)
  | .hook due task => if due.isAnswer then some (due, task) else none
  | .resume _ => none

namespace Loop

/-! ## What becomes ready -/

/-- The hooks that are ready to deal with answers, with the tasks that have given them. -/
def dues (loop : Loop S) : List (Hook × TaskId) := loop.ready.filterMap Job.hook?

/-- Jobs are pushed, none of which deals with the answer to a request. -/
def Pushes (before after : Loop S) : Prop :=
  ∃ jobs, after.ready = before.ready ++ jobs ∧ ∀ job ∈ jobs, job.hook? = none

namespace Pushes

variable {first second third : Loop S}

theorem of_eq (ready : second.ready = first.ready) : Pushes first second :=
  ⟨[], by simp [ready], by simp⟩

theorem push {job : Job} (isOther : job.hook? = none) (loop : Loop S) :
    Pushes loop (loop.push job) :=
  ⟨[job], rfl, by simpa using isOther⟩

theorem trans (left : Pushes first second) (right : Pushes second third) : Pushes first third := by
  obtain ⟨jobs, same, others⟩ := left
  obtain ⟨jobs', same', others'⟩ := right
  refine ⟨jobs ++ jobs', by rw [same', same, List.append_assoc], fun job member => ?_⟩
  exact (List.mem_append.mp member).elim (others job) (others' job)

theorem dues (pushes : Pushes first second) : second.dues = first.dues := by
  obtain ⟨jobs, ready, others⟩ := pushes
  rw [Loop.dues, ready, List.filterMap_append, List.filterMap_eq_nil_iff.mpr others,
    List.append_nil,
    Loop.dues]

end Pushes

theorem wake_pushes (task : TaskId) (why : Wake S.Reply) (loop : Loop S) :
    Pushes loop (loop.wake task why) := by
  unfold wake
  split
  · have set : ∀ status, Pushes loop (loop.setStatus task status) := fun _ => .of_eq rfl
    exact (set _).trans (.push rfl _)
  · exact .of_eq rfl

theorem cancelErrand_pushes (task : TaskId) (loop : Loop S) :
    Pushes loop (loop.cancelErrand task) := by
  unfold cancelErrand cancel
  split
  · split
    · exact .of_eq rfl
    · exact wake_pushes task _ loop
    · exact .of_eq rfl
    · exact .of_eq rfl
  · exact .of_eq rfl

theorem countDown_pushes (task : TaskId) (loop : Loop S) : Pushes loop (loop.countDown task) := by
  unfold countDown
  split
  · split
    · exact wake_pushes task _ loop
    · exact .of_eq rfl
  · exact .of_eq rfl

theorem trigger_pushes {hook : Hook} (isPlain : hook.isAnswer = false) (task : TaskId)
    (outcome : Outcome Answer) (loop : Loop S) : Pushes loop (loop.trigger task outcome hook) := by
  cases hook with
  | resume waiter => exact wake_pushes waiter _ loop
  | answered cache query => cases isPlain
  | deedDone cache => exact .push rfl loop
  | count waiter => exact .push rfl loop

theorem addHook_pushes {task : TaskId} {hook : Hook} {loop : Loop S}
    (isPlain : hook.isAnswer = false ∨ loop.outcome? task = none) :
    Pushes loop (loop.addHook task hook) := by
  unfold addHook
  split
  · next ended =>
    rcases isPlain with isPlain | isOpen
    · exact trigger_pushes isPlain task _ loop
    · cases isOpen.symm.trans ended
  · exact .of_eq rfl

/-- A task that has just been made has not ended. -/
theorem posed_outcome (cache : CacheId) (query : Query) (known : Cache) (loop : Loop S) :
    (loop.posed cache query known).outcome? loop.tasks.length = none := by
  have tasks : (loop.posed cache query known).tasks = loop.tasks ++ [{
      role := .request cache query
      frames := [requestFrame known (queryRequest cache known query)] }] := rfl
  simp [outcome?, status?, tasks]

theorem ask_pushes (cache : CacheId) (query : Query) (loop : Loop S) :
    Pushes loop (loop.ask cache query) := by
  cases found : loop.caches[cache]? with
  | none =>
    rw [ask_none query found]
    exact .of_eq rfl
  | some known =>
    have posed : Pushes loop (loop.posed cache query known) :=
      ⟨[.resume loop.tasks.length], rfl, by simp [Job.hook?]⟩
    rw [ask_eq query found]
    exact posed.trans (addHook_pushes (.inr (posed_outcome cache query known loop)))

variable {isServed : Prop} {before after : Loop S}

theorem Nudge.pushes (nudge : Nudge isServed before after) : Pushes before after := by
  cases nudge with
  | still grows tasks ready => exact .of_eq ready
  | spawn role frame isOwn isOpening => exact .push rfl _
  | begin cache => exact .push rfl _
  | ask cache query => exact ask_pushes cache query before
  | wake task why isPlain => exact wake_pushes task why before
  | count task => exact countDown_pushes task before
  | hook task hook isPlain =>
    refine addHook_pushes (.inl ?_)
    cases hook with
    | answered cache query => exact absurd rfl (isPlain cache query)
    | _ => rfl
  | reply served task reply => exact wake_pushes task _ before
  | cancel served task => exact cancelErrand_pushes task before
  | errand served point => exact .push rfl _

theorem Nudges.pushes (nudges : Nudges isServed before after) : Pushes before after := by
  induction nudges with
  | refl => exact .of_eq rfl
  | tail _ nudge step => exact step.trans nudge.pushes

/-! ## The ends of tasks -/

/-- When a task ends, those of its hooks that deal with answers become ready. -/
theorem finish_dues {task : TaskId} {known : Task S} (outcome : Outcome Answer) {loop : Loop S}
    (found : loop.tasks[task]? = some known) :
    (loop.finish task outcome).dues =
      loop.dues ++ (known.hooks.filter Hook.isAnswer).map (·, task) := by
  have triggered : ∀ (hooks : List Hook) (loop : Loop S),
      (hooks.foldl (fun loop hook => loop.trigger task outcome hook) loop).dues =
        loop.dues ++ (hooks.filter Hook.isAnswer).map (·, task) := by
    intro hooks
    induction hooks with
    | nil => exact fun loop => (List.append_nil _).symm
    | cons hook rest step =>
      intro loop
      rw [List.foldl_cons, step]
      cases isAnswer : hook.isAnswer with
      | true =>
        cases hook with
        | answered cache query =>
          rw [List.filter_cons_of_pos isAnswer, List.map_cons, ← List.singleton_append,
            ← List.append_assoc]
          congr 1
          simp [dues, trigger, push, Job.hook?, isAnswer]
        | _ => cases isAnswer
      | false =>
        rw [(trigger_pushes isAnswer task outcome loop).dues,
          List.filter_cons_of_neg (by simp [isAnswer])]
  unfold finish
  rw [found]
  exact triggered known.hooks _

/-- Each task of a request that has not ended is to be followed by one answer, and no other task
is. -/
def AreTied (loop : Loop S) : Prop :=
  ∀ (task : TaskId) (known : Task S), loop.tasks[task]? = some known → known.hasEnded = false →
    known.hooks.filter Hook.isAnswer = known.role.answers

/-- An answer is dealt with only when its task has ended. -/
def AnswersAreDue (loop : Loop S) : Prop :=
  ∀ due ∈ loop.dues, ∃ outcome, loop.outcome? due.2 = some outcome

theorem hasEnded_iff {known : Task S} :
    known.hasEnded = false ↔ ∀ outcome, known.status.stage ≠ .ended outcome := by
  unfold Task.hasEnded
  split
  · next outcome status => simp [status, Status.stage]
  · next isOpen =>
    refine ⟨fun _ outcome stage => ?_, fun _ => rfl⟩
    cases status : known.status with
    | ended outcome => exact isOpen outcome status
    | _ => simp [status, Status.stage] at stage

/-- A change of a task that keeps its role and its answers, or ends it. -/
theorem AreTied.modifyTask {loop : Loop S} (areTied : loop.AreTied) (task : TaskId)
    (change : Task S → Task S)
    (keeps : ∀ known, loop.tasks[task]? = some known → (change known).hasEnded = true ∨
      known.hasEnded = false ∧ (change known).role = known.role ∧
        (change known).hooks.filter Hook.isAnswer = known.hooks.filter Hook.isAnswer) :
    (loop.modifyTask task change).AreTied := by
  intro other known found isOpen
  rw [show (loop.modifyTask task change).tasks = loop.tasks.modify task change from rfl] at found
  by_cases here : task = other
  · subst here
    rw [List.getElem?_modify_eq] at found
    obtain ⟨old, earlier, rfl⟩ := Option.map_eq_some_iff.mp found
    rcases keeps old earlier with hasEnded | ⟨isOpen', role, hooks⟩
    · cases isOpen.symm.trans hasEnded
    · rw [hooks, role]
      exact areTied task old earlier isOpen'
  · rw [List.getElem?_modify_ne _ _ here] at found
    exact areTied other known found isOpen

theorem setStatus_areTied {loop : Loop S} (areTied : loop.AreTied) (task : TaskId)
    (status : Status S.Reply) {old : Status S.Reply} (was : loop.status? task = some old)
    (isOpen : ∀ outcome, old.stage ≠ .ended outcome) : (loop.setStatus task status).AreTied := by
  refine areTied.modifyTask task _ fun known found => .inr ⟨hasEnded_iff.mpr ?_, rfl, rfl⟩
  rw [status?, found, Option.map_some, Option.some.injEq] at was
  rwa [was]

theorem wake_areTied (task : TaskId) (why : Wake S.Reply) {loop : Loop S} (areTied : loop.AreTied) :
    (loop.wake task why).AreTied := by
  unfold wake
  split
  · next on was =>
      exact setStatus_areTied areTied task (.woken on why) was fun _ => Stage.noConfusion
  · exact areTied

theorem cancelErrand_areTied (task : TaskId) {loop : Loop S} (areTied : loop.AreTied) :
    (loop.cancelErrand task).AreTied := by
  unfold cancelErrand cancel
  split
  · split
    · next was => exact setStatus_areTied areTied task _ was fun _ => Stage.noConfusion
    · exact wake_areTied task _ areTied
    · next was => exact setStatus_areTied areTied task _ was fun _ => Stage.noConfusion
    · exact areTied
  · exact areTied

theorem trigger_areTied (task : TaskId) (outcome : Outcome Answer) (hook : Hook) {loop : Loop S}
    (areTied : loop.AreTied) : (loop.trigger task outcome hook).AreTied := by
  unfold trigger
  split
  · exact wake_areTied _ _ areTied
  · exact areTied

/-- A task that comes in and is not that of a request has no answers to be dealt with. -/
theorem spawn_areTied {role : Role} (isOther : role.answers = []) (frame : Frame S.Point)
    {loop : Loop S} (areTied : loop.AreTied) : (loop.spawn role frame).AreTied := by
  intro task known found isOpen
  rw [show (loop.spawn role frame).tasks = loop.tasks ++ [{ role, frames := [frame] }] from rfl]
    at found
  by_cases isOld : task < loop.tasks.length
  · rw [List.getElem?_append_left isOld] at found
    exact areTied task known found isOpen
  · rw [List.getElem?_append_right (Nat.le_of_not_lt isOld)] at found
    rw [List.mem_singleton.mp (List.mem_of_getElem? found), isOther]
    rfl

theorem ask_areTied (cache : CacheId) (query : Query) {loop : Loop S} (areTied : loop.AreTied) :
    (loop.ask cache query).AreTied := by
  cases isThere : loop.caches[cache]? with
  | none =>
    rw [ask_none query isThere]
    exact areTied
  | some owner =>
    have isOpen := posed_outcome cache query owner loop
    have tasks : (loop.posed cache query owner).tasks = loop.tasks ++ [{
        role := .request cache query
        frames := [requestFrame owner (queryRequest cache owner query)] }] := rfl
    rw [ask_eq query isThere]
    unfold addHook
    rw [isOpen]
    dsimp only
    intro task known found isOpen
    rw [show ((loop.posed cache query owner).modifyTask loop.tasks.length _).tasks =
      (loop.posed cache query owner).tasks.modify loop.tasks.length _ from rfl, tasks] at found
    by_cases here : loop.tasks.length = task
    · subst here
      simp only [List.getElem?_modify_eq, List.getElem?_concat_length] at found
      cases found
      rfl
    · rw [List.getElem?_modify_ne _ _ here] at found
      have isOld : task < loop.tasks.length := by
        have inside := (List.getElem?_eq_some_iff.mp found).1
        rw [List.length_append, List.length_singleton] at inside
        exact Nat.lt_of_le_of_ne (Nat.le_of_lt_succ inside) (Ne.symm here)
      rw [List.getElem?_append_left isOld] at found
      exact areTied task known found isOpen

theorem addHook_areTied {hook : Hook} (isPlain : hook.isAnswer = false) (task : TaskId)
    {loop : Loop S} (areTied : loop.AreTied) : (loop.addHook task hook).AreTied := by
  unfold addHook
  split
  · exact trigger_areTied task _ hook areTied
  · next isOpen =>
    refine areTied.modifyTask task _ fun known found =>
      .inr ⟨hasEnded_iff.mpr fun outcome ended => ?_,
      rfl, ?_⟩
    · cases isOpen.symm.trans (outcome?_eq_some.mpr ⟨known, found, ended⟩)
    · simp [List.filter_append, isPlain]

theorem Nudge.areTied (nudge : Nudge isServed before after) (areTied : before.AreTied) :
    after.AreTied := by
  cases nudge with
  | still grows tasks ready => rwa [AreTied, tasks]
  | spawn role frame isOwn isOpening =>
    refine spawn_areTied ?_ frame areTied
    rcases isOwn with rfl | ⟨cache, rfl⟩ <;> rfl
  | begin cache => exact spawn_areTied rfl _ areTied
  | ask cache query => exact ask_areTied cache query areTied
  | wake task why isPlain => exact wake_areTied task why areTied
  | count task =>
    unfold countDown
    split
    · next was =>
      split
      · exact wake_areTied task _ areTied
      · exact setStatus_areTied areTied task _ was fun _ => Stage.noConfusion
    · exact areTied
  | hook task hook isPlain =>
    refine addHook_areTied ?_ task areTied
    cases hook with
    | answered cache query => exact absurd rfl (isPlain cache query)
    | _ => rfl
  | reply served task reply => exact wake_areTied task _ areTied
  | cancel served task => exact cancelErrand_areTied task areTied
  | errand served point => exact spawn_areTied rfl _ areTied

theorem Nudges.areTied (nudges : Nudges isServed before after) (areTied : before.AreTied) :
    after.AreTied := by
  induction nudges with
  | refl => exact areTied
  | tail _ nudge step => exact nudge.areTied step

theorem finish_areTied (task : TaskId) (outcome : Outcome Answer) {loop : Loop S}
    (areTied : loop.AreTied) : (loop.finish task outcome).AreTied := by
  have triggered : ∀ (hooks : List Hook) (loop : Loop S), loop.AreTied →
      (hooks.foldl (fun loop hook => loop.trigger task outcome hook) loop).AreTied := by
    intro hooks
    induction hooks with
    | nil => exact fun loop => id
    | cons hook rest step =>
      exact fun loop areTied => step _ (trigger_areTied task outcome hook areTied)
  exact triggered _ _ (areTied.modifyTask task _ fun _ _ => .inl rfl)

/-! ## What is left alone -/

/-- The items of a cache. -/
def items (cache : CacheId) (loop : Loop S) : List Item :=
  ((loop.caches[cache]?).map Cache.items).getD []

theorem items_eq {cache : CacheId} {known : Cache} {loop : Loop S}
    (found : loop.caches[cache]? = some known) : loop.items cache = known.items := by
  rw [items, found]
  rfl

theorem view_eq {cache : CacheId} {known : Cache} {loop : Loop S}
    (found : loop.caches[cache]? = some known) : loop.view? cache = some known.data := by
  rw [view?, found]
  rfl

/-- Unless the cache is prompted, what it has seen stays, and so do its items. -/
structure Conveys (cache : CacheId) (before after : Loop S) : Prop where
  retains : Retains cache before after
  view : after.IsUnprompted cache → after.view? cache = before.view? cache
  items : after.IsUnprompted cache → after.items cache = before.items cache

namespace Conveys

variable {cache : CacheId} {first second third : Loop S}

theorem of_eq (caches : second.caches = first.caches) (journal : second.journal = first.journal) :
    Conveys cache first second :=
  ⟨.of_eq caches journal, fun _ => by rw [view?, caches, view?],
    fun _ => by rw [Loop.items, caches, Loop.items]⟩

theorem refl (loop : Loop S) : Conveys cache loop loop := of_eq rfl rfl

theorem trans (left : Conveys cache first second) (right : Conveys cache second third) :
    Conveys cache first third :=
  ⟨left.retains.trans right.retains, fun unprompted =>
    (right.view unprompted).trans (left.view (right.retains.prompts unprompted)), fun unprompted =>
    (right.items unprompted).trans (left.items (right.retains.prompts unprompted))⟩

theorem note (loop : Loop S) {entry : Entry S.Call} (isOther : entry.told? cache = none) :
    Conveys cache loop (loop.note entry) := ⟨.note loop isOther, fun _ => rfl, fun _ => rfl⟩

/-- A change of another cache, or one that keeps view and items. -/
theorem modify {owner : CacheId} {change : Cache → Cache} {loop : Loop S}
    (retains : Retains cache loop (loop.modifyCache owner change))
    (keeps : owner = cache → ∀ known, loop.caches[owner]? = some known →
      (change known).data = known.data ∧ (change known).items = known.items) :
    Conveys cache loop (loop.modifyCache owner change) := by
  by_cases here : owner = cache
  · subst here
    refine ⟨retains, fun _ => ?_, fun _ => ?_⟩
    · rw [view?, modifyCache_caches, List.getElem?_modify_eq, view?]
      cases found : loop.caches[owner]? with
      | none => rfl
      | some known => exact congrArg some (keeps rfl known found).1
    · rw [Loop.items, modifyCache_caches, List.getElem?_modify_eq, Loop.items]
      cases found : loop.caches[owner]? with
      | none => rfl
      | some known => exact (keeps rfl known found).2
  · refine ⟨retains, fun _ => ?_, fun _ => ?_⟩
    · rw [view?, modifyCache_of_ne loop here, view?]
    · rw [Loop.items, modifyCache_of_ne loop here, Loop.items]

end Conveys

section Conveys

variable {cache : CacheId}

theorem modify_of_ne_conveys {owner : CacheId} (different : owner ≠ cache) (change : Cache → Cache)
    (loop : Loop S) : Conveys cache loop (loop.modifyCache owner change) :=
  .modify (.modify loop owner change (absurd · different)) (absurd · different)

theorem post_view (owner : CacheId) (item : Item) (loop : Loop S) :
    (loop.post owner item).view? cache = loop.view? cache := by
  unfold post
  split
  · rfl
  · next backlog _ =>
    have put := modifyCache_map loop (·.data) owner cache (fun cache =>
      { cache with backlog := some (backlog.put item) }) fun _ => rfl
    dsimp only
    split
    · rw [view?, (wake_keeps _ _ _).2.1]
      exact put
    · exact put

theorem post_items {known : Cache} {backlog : Backlog} (item : Item) {loop : Loop S}
    (found : loop.caches[cache]? = some known) (has : known.backlog = some backlog) :
    (loop.post cache item).items cache = loop.items cache ++ [item] := by
  have put : (loop.modifyCache cache fun cache =>
      { cache with backlog := some (backlog.put item) }).items cache =
        loop.items cache ++ [item] := by
    rw [items_eq (modifyCache_self found _), items_eq found, Cache.items, Cache.items, has]
    rfl
  unfold post
  rw [found, Option.bind_some, has]
  dsimp only
  split
  · rw [Loop.items, (wake_keeps _ _ _).2.1]
    exact put
  · exact put

/-- An item for another cache, or one after which the cache is prompted or may not ask. -/
theorem post_conveys {owner : CacheId} {item : Item} {loop : Loop S}
    (isOther : owner = cache → ¬ (loop.post owner item).IsUnprompted cache) :
    Conveys cache loop (loop.post owner item) := by
  refine ⟨post_retains owner item loop, fun _ => post_view owner item loop, fun unprompted => ?_⟩
  by_cases here : owner = cache
  · exact absurd unprompted (isOther here)
  · unfold post
    split
    · rfl
    · next backlog _ =>
      have other := modify_of_ne_conveys here (fun cache =>
        { cache with backlog := some (backlog.put item) }) loop
      have items : (loop.modifyCache owner fun cache =>
          { cache with backlog := some (backlog.put item) }).items cache = loop.items cache := by
        rw [Loop.items, modifyCache_of_ne loop here, Loop.items]
      dsimp only
      split
      · rw [Loop.items, (wake_keeps _ _ _).2.1]
        exact items
      · exact items

theorem refresh_conveys (owner : CacheId) (loop : Loop S) :
    Conveys cache loop (loop.refresh owner) := by
  by_cases isActive : (loop.caches[owner]?).any Cache.isActive
  · have posted : loop.refresh owner = loop.post owner .check := if_pos isActive
    rw [posted]
    refine post_conveys fun here => ?_
    rw [← posted, ← here]
    exact refresh_prompts owner loop
  · rw [show loop.refresh owner = loop from if_neg isActive]
    exact .refl loop

theorem linkChanged_conveys (owner : CacheId) (link : Link) {loop : Loop S}
    (believes : loop.Believes) : Conveys cache loop (loop.linkChanged owner link) := by
  cases found : loop.caches[owner]? with
  | none =>
    unfold linkChanged
    rw [found]
    exact .refl loop
  | some known =>
    have retains : Retains cache loop (loop.linkChanged owner link) :=
      linkChanged_retains owner link believes
    have believed : (loop.believe owner link).view? cache = loop.view? cache ∧
        (loop.believe owner link).items cache = loop.items cache := by
      refine ⟨modifyCache_map (loop.note (.told owner link)) (·.data) owner cache _ fun _ => rfl,
        ?_⟩
      exact congrArg (·.getD [])
        (modifyCache_map (loop.note (.told owner link)) Cache.items owner cache
        (fun cache => { cache with connected := link.isUp }) fun _ => rfl)
    have posts : loop.linkChanged owner link = loop.believe owner link ∨
        loop.linkChanged owner link = (loop.believe owner link).post owner .resync := by
      unfold linkChanged
      rw [found]
      dsimp only
      split
      · exact .inr rfl
      · exact .inl rfl
    rcases posts with same | posted
    · rw [same] at retains ⊢
      exact ⟨retains, fun _ => believed.1, fun _ => believed.2⟩
    · have conveys : Conveys cache (loop.believe owner link)
          ((loop.believe owner link).post owner .resync) := by
        refine post_conveys fun here unprompted => ?_
        subst here
        have has := (post_retains owner .resync (loop.believe owner link)).prompts unprompted
        obtain ⟨known', found', -, backlog, has, -⟩ := has
        exact post_prompts rfl found' has unprompted
      rw [posted] at retains ⊢
      exact ⟨retains, fun unprompted => (conveys.view unprompted).trans believed.1,
        fun unprompted => (conveys.items unprompted).trans believed.2⟩

theorem Ripple.conveys {before after : Loop S} (ripple : Ripple before after)
    (believes : before.Believes) : Conveys cache before after := by
  cases ripple with
  | note entry isShown => exact .note before (Entry.told?_of_isShown isShown cache)
  | told owner link => exact linkChanged_conveys owner link believes
  | fired owner => exact .trans (.note before rfl) (refresh_conveys owner _)
  | listeners handle habit => exact .of_eq rfl rfl
  | reply task reply => exact .of_eq (by simp) (by simp)
  | cancel task => exact .of_eq (by simp) (by simp)
  | errand point => exact .of_eq rfl rfl

theorem perform_conveys (effects : List (Effect S.Call S.Point S.Reply)) {loop : Loop S}
    (believes : loop.Believes) : Conveys cache loop (loop.perform effects) := by
  have ripples := perform_ripples effects loop
  generalize loop.perform effects = after at ripples
  have kept : after.Believes ∧ Conveys cache loop after := by
    induction ripples with
    | refl => exact ⟨believes, .refl loop⟩
    | tail _ ripple step => exact ⟨ripple.believes step.1, step.2.trans (ripple.conveys step.1)⟩
  exact kept.2

theorem happen_conveys (event : S.Event) {loop : Loop S} (believes : loop.Believes) :
    Conveys cache loop (loop.happen event).1 := by
  unfold happen
  split
  · exact .refl loop
  · next occurrence _ =>
    have set : Conveys cache loop (loop.setService occurrence.state) := .of_eq rfl rfl
    exact set.trans (perform_conveys _ (setService_believes _ believes))

theorem connect_conveys (settings : Value) {loop : Loop S} (believes : loop.Believes) :
    Conveys cache loop (loop.connect settings).1 := by
  unfold connect
  split
  · exact .refl loop
  · split
    · exact .refl loop
    · next state _ _ _ =>
      have set : Conveys cache loop (loop.setService state) := .of_eq rfl rfl
      exact set.trans (perform_conveys _ (setService_believes _ believes))

theorem stopCache_conveys (owner : CacheId) (loop : Loop S) :
    Conveys cache loop (loop.stopCache owner) := by
  by_cases runs : (loop.caches[owner]?).any Cache.isRunning
  · have stopped : loop.stopCache owner = (loop.modifyCache owner fun cache =>
        { cache with phase := .closed, registrations := [] }).post owner .stop := if_pos runs
    have retains : Retains cache loop (loop.stopCache owner) := stopCache_retains owner loop
    have closes : Conveys cache loop (loop.modifyCache owner fun cache =>
        { cache with phase := .closed, registrations := [] }) := by
      refine .modify (.modify loop owner _ fun _ known found unprompted => ?_) fun _ _ _ =>
        ⟨rfl, rfl⟩
      have isActive := unprompted.isActive
      simp [Cache.isActive, Cache.isRunning] at isActive
    rw [stopped] at retains ⊢
    refine closes.trans (post_conveys fun here unprompted => ?_)
    subst here
    obtain ⟨known, found, unprompted⟩ := unprompted
    have isActive := unprompted.isActive
    rw [← stopped] at found
    have past := stopCache_phase found
    simp [Cache.isActive, Cache.isRunning, past] at isActive
  · rw [show loop.stopCache owner = loop from if_neg runs]
    exact .refl loop

theorem Stir.conveys {before after : Loop S} (stir : Stir before after)
    (believes : before.Believes) :
    Conveys cache before after := by
  have retains : Retains cache before after := stir.retains believes
  cases stir with
  | note entry isShown => exact .note before (Entry.told?_of_isShown isShown cache)
  | reset owner => exact .trans (.note before rfl) (refresh_conveys owner _)
  | register owner change isOnly =>
    refine .modify retains fun _ known found => ?_
    obtain ⟨⟨registrations, nextId, changed⟩, -⟩ := isOnly known found
    rw [changed]
    exact ⟨rfl, rfl⟩
  | tend owner change isOnly =>
    refine .modify retains fun _ known found => ?_
    obtain ⟨pending, worker, backlog, changed, items⟩ := isOnly known found
    rw [changed]
    refine ⟨rfl, ?_⟩
    rw [Cache.items, Cache.items]
    cases backlog <;> cases same : known.backlog <;> simp_all
  | happen event => exact happen_conveys event believes
  | connect settings => exact connect_conveys settings believes
  | adopt handle => exact .of_eq rfl rfl
  | shut owner known found => exact (stopCache_conveys owner before).trans (.of_eq rfl rfl)
  | create new isNew =>
    have stays : { before with caches := before.caches ++ [new] }.IsUnprompted cache →
        (before.caches ++ [new])[cache]? = before.caches[cache]? := by
      intro unprompted
      obtain ⟨known, found, -⟩ := retains.prompts unprompted
      rw [List.getElem?_append_left (List.getElem?_eq_some_iff.mp found).1]
    refine ⟨retains, fun unprompted => ?_, fun unprompted => ?_⟩
    · rw [view?, stays unprompted, view?]
    · rw [Loop.items, stays unprompted, Loop.items]
  | spawn role frame isOwn isOpening => exact .of_eq rfl rfl
  | wake task why isPlain => exact .of_eq (by simp) (by simp)
  | count task => exact .of_eq (by simp) (by simp)
  | hook task hook isPlain => exact .of_eq (by simp) (by simp)
  | aside serial tickets alarms names tokens => exact .of_eq rfl rfl

theorem Stirs.conveys {before after : Loop S} (stirs : Stirs before after)
    (believes : before.Believes) : Conveys cache before after := by
  have kept : after.Believes ∧ Conveys cache before after := by
    induction stirs with
    | refl => exact ⟨believes, .refl before⟩
    | tail _ stir step =>
      exact ⟨stir.pulses.believes step.1, step.2.trans (stir.conveys step.1)⟩
  exact kept.2

theorem ask_conveys (owner : CacheId) (query : Query) (loop : Loop S) :
    Conveys cache loop (loop.ask owner query) := by
  cases found : loop.caches[owner]? with
  | none =>
    rw [ask_none query found]
    exact .refl loop
  | some known =>
    let request := queryRequest owner known query
    have noted : Conveys cache loop (loop.note (.asked owner loop.tasks.length request)) :=
      .note loop rfl
    have spawned : Conveys cache loop ((loop.note (.asked owner loop.tasks.length request)).spawn
        (.request owner query) (requestFrame known request)) := noted.trans (.of_eq rfl rfl)
    have posed : Conveys cache loop (loop.posed owner query known) := by
      refine spawned.trans (.modify (.modify _ owner _ fun _ known _ unprompted => ?_)
        fun _ _ _ => ⟨rfl, rfl⟩)
      exact unprompted.of_items rfl fun backlog has => ⟨backlog, has, fun _ => id⟩
    rw [ask_eq query found]
    exact posed.trans (.of_eq (by simp) (by simp))

theorem notify_conveys (owner : CacheId) {loop : Loop S} (believes : loop.Believes) :
    Conveys cache loop (loop.notify owner) := by
  have round := notify_bustles owner loop
  generalize loop.notify owner = after at round
  have kept : after.Believes ∧ Conveys cache loop after := by
    induction round with
    | refl => exact ⟨believes, .refl loop⟩
    | tail _ bustle step =>
      cases bustle with
      | stir stir => exact ⟨stir.pulses.believes step.1, step.2.trans (stir.conveys step.1)⟩
      | call caller monitor =>
        exact ⟨Pulse.believes (.note _ _ fun _ => rfl) step.1, step.2.trans (.note _ rfl)⟩
  exact kept.2

/-- A new view of another cache. -/
theorem setData_conveys {owner : CacheId} (different : owner ≠ cache) (data : Snapshot)
    (isSilent : Bool) (loop : Loop S) : Conveys cache loop (loop.setData owner data isSilent) :=
  (modify_of_ne_conveys different _ loop).trans (.note _ rfl)

theorem install_conveys {owner : CacheId} (different : owner ≠ cache) (data : Snapshot)
    {loop : Loop S} (believes : loop.Believes) : Conveys cache loop (loop.install owner data) := by
  have set := setData_conveys different data false loop
  unfold install
  dsimp only
  split
  · exact set
  · exact set.trans
      (notify_conveys owner ((setData_pulses owner data false loop).believes believes))

/-- What another cache does is none of this cache's business. -/
theorem Labour.conveys {owner : CacheId} {isDue looks : Prop} {before after : Loop S}
    (labour : Labour owner isDue looks before after) (different : owner ≠ cache)
    (believes : before.Believes) : Conveys cache before after := by
  cases labour with
  | stir stir => exact stir.conveys believes
  | asked task known request found isPlain isRight => exact .note before rfl
  | install known data found isStarted => exact install_conveys different data believes
  | rebuild known data found isStarted => exact setData_conveys different data true before
  | look known found isActive => exact ask_conveys owner .look before
  | fetch known found isStarted => exact ask_conveys owner .fetch before
  | answer known query outcome found isStarted => exact post_conveys (absurd · different)
  | refresh isRight => exact refresh_conveys owner before
  | begin known found isLatent =>
    exact (modify_of_ne_conveys different _ before).trans (.of_eq rfl rfl)

theorem Labours.conveys {owner : CacheId} {isDue looks : Prop} {before after : Loop S}
    (labours : Labours owner isDue looks before after) (different : owner ≠ cache)
    (believes : before.Believes) : Conveys cache before after := by
  have kept : after.Believes ∧ Conveys cache before after := by
    induction labours with
    | refl => exact ⟨believes, .refl before⟩
    | tail _ labour step =>
      exact ⟨labour.toils.pulses.believes step.1, step.2.trans (labour.conveys different step.1)⟩
  exact kept.2

theorem Prepares.conveys {frame : Frame S.Point} {wake : Wake S.Reply} {before after : Loop S}
    (prepares : Prepares frame wake before after) (isOther : frame ≠ .worker cache .taking) :
    Conveys cache before after := by
  cases prepares with
  | nothing => exact .refl before
  | listen isStart isReady found => exact .of_eq rfl rfl
  | @take owner known item rest isWorker found isFirst =>
    have different : owner ≠ cache := by
      rintro rfl
      exact isOther isWorker
    exact modify_of_ne_conveys different _ before

theorem afterTurn_conveys (task : TaskId) (frame : Frame S.Point) (rest : List (Frame S.Point))
    (turn : Turn S) : Conveys cache turn.1 (afterTurn task frame rest turn) := by
  have noted : Conveys cache turn.1 (turn.1.noteEnd task frame turn.2) := by
    unfold noteEnd
    split
    · exact .note _ rfl
    · exact .refl _
  obtain ⟨-, caches, journal⟩ := move_keeps (turn.1.noteEnd task frame turn.2) task rest turn.2
  exact noted.trans (.of_eq caches journal)

end Conveys

end Loop

end WatchedNode
