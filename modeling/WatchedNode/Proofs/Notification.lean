/-
**One round of calls for each change.**

A cache calls its monitors when it has a new view of its node that says something new, and at no
other time.

* `announcement`: the notices of one new view. A silent one, after a rebuild or the initial read of
  a start, has no calls; nor has one that says the same as the view before it. Else each monitor
  that is registered at that time is called once, in the order of registration, and sees the new
  view.
* `Views`: whatever happens, either no view changes and there is no notice, or one cache has a new
  view, and what is added to the notices is its announcement.

The proof goes from the smallest parts up. What is calm leaves views and notices alone, in
particular all that monitors do during a round, so a round of calls adds just its own notices
(`foldl_notifyOne`); `frameTurn_views` and `step_views` then look where views are installed. Over a
stretch of a run without silent views, what one monitor sees is the list of views with repetitions
removed (`seenBy_of_chain`).
-/
import Mathlib.Data.List.Destutter
import WatchedNode.Proofs.Loop.Calm
import WatchedNode.Remote

namespace WatchedNode

variable {S : Service}

/-- The frame goes on after a read whose result is installed silently in that cache. -/
def Frame.isSilentRead {Point : Type} (cache : CacheId) : Frame Point → Prop
  | .rebuild reader true => reader = cache
  | .start reader _ .reading => reader = cache
  | _ => False

namespace Loop

/-! ## Views -/

/-- What a cache has seen. -/
def view? (cache : CacheId) (loop : Loop S) : Option Snapshot := (loop.caches[cache]?).map (·.data)

/-- In no cache a monitor is registered twice. -/
def IsTidy (loop : Loop S) : Prop :=
  ∀ (cache : CacheId) (known : Cache), loop.caches[cache]? = some known → known.IsTidy

/-- The notices of one new view of a cache. -/
def announcement (cache : CacheId) (known : Cache) (data : Snapshot) (isSilent : Bool) :
    List (Entry S.Call) :=
  .installed cache data isSilent ::
    if isSilent = true ∨ Snapshot.Same known.data data then []
    else known.registrations.map fun registration => .called cache registration.monitor data

/-- What happens to the views of all caches; `isSilent` says whose new view would be silent. -/
inductive Views (isSilent : CacheId → Prop) (before after : Loop S) : Prop
  | kept (notices : after.notices = before.notices)
      (views : ∀ cache data, before.view? cache = some data → after.view? cache = some data)
      (isTidy : before.IsTidy → after.IsTidy)
  | replaced (cache : CacheId) (known : Cache) (data : Snapshot) (silence : Bool)
      (found : before.caches[cache]? = some known) (isRight : silence = true ↔ isSilent cache)
      (notices : after.notices = before.notices ++ announcement cache known data silence)
      (view : after.view? cache = some data)
      (others : ∀ other data, other ≠ cache → before.view? other = some data →
        after.view? other = some data)
      (isTidy : before.IsTidy → after.IsTidy)

/-- The task that has its turn goes on after a read whose result is installed silently. -/
def isSilentAt (loop : Loop S) (cache : CacheId) : Prop :=
  ∃ task wake frame rest, loop.turn = some (task, wake) ∧
    (loop.tasks[task]?).map (·.frames) = some (frame :: rest) ∧ frame.isSilentRead cache

theorem Calm.view {before after : Loop S} (calm : Calm before after) (cache : CacheId)
    (data : Snapshot) (view : before.view? cache = some data) : after.view? cache = some data := by
  obtain ⟨known, found, rfl⟩ := Option.map_eq_some_iff.mp view
  obtain ⟨known', found', -, same⟩ := calm.caches cache known found
  rw [view?, found', Option.map_some, same]

theorem Calm.isTidy {before after : Loop S} (calm : Calm before after) (isTidy : before.IsTidy) :
    after.IsTidy := by
  intro cache known' found'
  cases found : before.caches[cache]? with
  | none => exact (calm.news cache known' found found').1
  | some known =>
    obtain ⟨known'', found'', ages, -⟩ := calm.caches cache known found
    cases found'.symm.trans found''
    exact ages.isTidy (isTidy cache known found)

theorem IsTidy.modify {loop : Loop S} (isTidy : loop.IsTidy) (cache : CacheId)
    (change : Cache → Cache) (kept : ∀ known : Cache, known.IsTidy → (change known).IsTidy) :
    (loop.modifyCache cache change).IsTidy := by
  intro other known' found'
  by_cases here : cache = other
  · subst here
    rw [modifyCache_caches, List.getElem?_modify_eq] at found'
    obtain ⟨known, found, rfl⟩ := Option.map_eq_some_iff.mp found'
    exact kept known (isTidy cache known found)
  · rw [modifyCache_of_ne loop here] at found'
    exact isTidy other known' found'

/-! ## Rounds and installations -/

theorem seen_eq {cache : CacheId} {data : Snapshot} {loop : Loop S}
    (view : loop.view? cache = some data) : loop.seen cache = data := by
  obtain ⟨known, found, rfl⟩ := Option.map_eq_some_iff.mp view
  simp [seen, found]

/-- One monitor in a round adds the notice of its call. -/
theorem notifyOne_notices (cache : CacheId) (registration : Registration) (loop : Loop S) :
    (loop.notifyOne cache registration).notices =
        loop.notices ++ [.called cache registration.monitor (loop.seen cache)] ∧
      (∀ other data, loop.view? other = some data →
        (loop.notifyOne cache registration).view? other = some data) ∧
      (loop.IsTidy → (loop.notifyOne cache registration).IsTidy) := by
  have calm := (notifyOne_stirs cache registration loop).calm
  refine ⟨?_, fun other data seen => calm.view other data seen, fun tidy => calm.isTidy tidy⟩
  rw [calm.notices, notices_note rfl]

/-- **A round adds one call for each registration, in order, and all of them see the view.** -/
theorem foldl_notifyOne (cache : CacheId) (data : Snapshot) (registrations : List Registration)
    (loop : Loop S) (view : loop.view? cache = some data) :
    (registrations.foldl (notifyOne cache) loop).notices =
        loop.notices ++
          registrations.map (fun registration => .called cache registration.monitor data) ∧
      (∀ other data, loop.view? other = some data →
        (registrations.foldl (notifyOne cache) loop).view? other = some data) ∧
      (loop.IsTidy → (registrations.foldl (notifyOne cache) loop).IsTidy) := by
  induction registrations generalizing loop with
  | nil => simp
  | cons registration rest step =>
    obtain ⟨called, kept, tidy⟩ := notifyOne_notices cache registration loop
    obtain ⟨calls, left, tidy'⟩ := step (loop.notifyOne cache registration) (kept cache data view)
    refine ⟨?_, fun other seen known => left other seen (kept other seen known), tidy' ∘ tidy⟩
    rw [List.foldl_cons, calls, called, seen_eq view]
    simp

theorem setData_isTidy (cache : CacheId) (data : Snapshot) (isSilent : Bool) {loop : Loop S}
    (isTidy : loop.IsTidy) : (loop.setData cache data isSilent).IsTidy :=
  isTidy.modify cache (fun cache => { cache with data }) fun _ tidy => tidy

/-- A silent view is announced by itself. -/
theorem setData_views {isSilent : CacheId → Prop} {cache : CacheId} {known : Cache}
    (data : Snapshot) {loop : Loop S} (found : loop.caches[cache]? = some known)
    (silent : isSilent cache) : Views isSilent loop (loop.setData cache data true) := by
  refine .replaced cache known data true found (by simp [silent]) ?_ ?_ ?_
    (setData_isTidy cache data true)
  · rw [setData, notices_note rfl]
    simp [announcement, notices]
  · simp [setData, view?, modifyCache_self found]
  · intro other seen different view
    simpa [setData, view?, modifyCache_of_ne loop different.symm] using view

/-- **A view that is not silent is announced with its round of calls.** -/
theorem install_views {isSilent : CacheId → Prop} {cache : CacheId} {known : Cache}
    (data : Snapshot) {loop : Loop S} (found : loop.caches[cache]? = some known)
    (loud : ¬ isSilent cache) : Views isSilent loop (loop.install cache data) := by
  have before : loop.seen cache = known.data := by simp [seen, found]
  have set : (loop.setData cache data false).caches[cache]? = some { known with data } := by
    simp [setData, modifyCache_self found]
  have view : (loop.setData cache data false).view? cache = some data := by simp [view?, set]
  have others : ∀ other seen, other ≠ cache → loop.view? other = some seen →
      (loop.setData cache data false).view? other = some seen := fun other seen different view => by
    simpa [setData, view?, modifyCache_of_ne loop different.symm] using view
  have noticed : (loop.setData cache data false).notices =
      loop.notices ++ [.installed cache data false] := by
    rw [setData, notices_note rfl]
    rfl
  unfold install
  dsimp only
  rw [before]
  split
  · next same =>
    refine .replaced cache known data false found (by simp [loud]) ?_ view others
      (setData_isTidy cache data false)
    rw [noticed]
    simp [announcement, same]
  · next news =>
    obtain ⟨calls, kept, tidy⟩ := foldl_notifyOne cache data known.registrations _ view
    have round : (loop.setData cache data false).notify cache =
        known.registrations.foldl (notifyOne cache) (loop.setData cache data false) := by
      simp [notify, set]
    rw [round]
    refine .replaced cache known data false found (by simp [loud]) ?_ (kept cache data view)
      (fun other seen different view => kept other seen (others other seen different view))
      (tidy ∘ setData_isTidy cache data false)
    rw [calls, noticed]
    simp [announcement, news]

namespace Views

variable {isSilent : CacheId → Prop} {first second third : Loop S}

theorem of_calm (calm : Calm first second) : Views isSilent first second :=
  .kept calm.notices calm.view calm.isTidy

/-- What follows and is calm changes nothing about what happened. -/
theorem trans_calm (views : Views isSilent first second) (calm : Calm second third) :
    Views isSilent first third := by
  cases views with
  | kept notices views tidy =>
    exact .kept (calm.notices.trans notices)
      (fun cache data seen => calm.view cache data (views cache data seen)) (calm.isTidy ∘ tidy)
  | replaced cache known data silence found isRight notices view others tidy =>
    exact .replaced cache known data silence found isRight (calm.notices.trans notices)
      (calm.view cache data view)
      (fun other seen different view => calm.view other seen (others other seen different view))
      (calm.isTidy ∘ tidy)

/-- Who would be silent can be said in another way. -/
theorem congr {isSilent' : CacheId → Prop} (same : ∀ cache, isSilent cache ↔ isSilent' cache)
    (views : Views isSilent first second) : Views isSilent' first second := by
  cases views with
  | kept notices views tidy => exact .kept notices views tidy
  | replaced cache known data silence found isRight notices view others tidy =>
    exact .replaced cache known data silence found (isRight.trans (same cache)) notices view
      others tidy

/-- What comes before and is calm does not matter, if it leaves the registrations alone. -/
theorem calm_trans (calm : Calm first second)
    (same : ∀ (cache : CacheId) (known : Cache), second.caches[cache]? = some known →
      ∃ known' : Cache, first.caches[cache]? = some known' ∧ known'.data = known.data ∧
        known'.registrations = known.registrations)
    (views : Views isSilent second third) : Views isSilent first third := by
  cases views with
  | kept notices views tidy =>
    exact .kept (notices.trans calm.notices)
      (fun other data seen => views other data (calm.view other data seen)) (tidy ∘ calm.isTidy)
  | replaced cache known data silence found isRight notices view others tidy =>
    obtain ⟨known', found', data', registrations⟩ := same cache known found
    refine .replaced cache known' data silence found' isRight ?_ view
      (fun other seen different view => others other seen different (calm.view other seen view))
      (tidy ∘ calm.isTidy)
    rw [notices, calm.notices]
    simp [announcement, data', registrations]

end Views

/-! ## Items of work -/

section Items

variable {isSilent : CacheId → Prop} {cache : CacheId} {loop : Loop S}

theorem looked_views (outcome : Outcome Answer) (loud : ¬ isSilent cache) :
    Views isSilent loop (loop.looked cache outcome) := by
  unfold looked
  split
  · exact .of_calm (.refl loop)
  · next known found =>
    split
    · exact .of_calm (.refl loop)
    · split
      · exact .of_calm (.refl loop)
      · exact .of_calm (.note loop rfl)
      · split
        · exact install_views _ found loud
        · exact .of_calm (ask_calm cache .fetch loop)

theorem fetched_views (outcome : Outcome Answer) (loud : ¬ isSilent cache) :
    Views isSilent loop (loop.fetched cache outcome) := by
  unfold fetched
  split
  · exact .of_calm (.refl loop)
  · next known found =>
    split
    · exact .of_calm (.refl loop)
    · split
      · exact .of_calm (.refl loop)
      · split
        · exact .of_calm (.refl loop)
        · exact .of_calm (.note loop rfl)
      · split
        · exact install_views _ found loud
        · exact .of_calm (.note loop rfl)

theorem resynced_views (outcome : Outcome Snapshot) (loud : ¬ isSilent cache) :
    Views isSilent loop (loop.resynced cache outcome) := by
  unfold resynced
  split
  · exact .of_calm (.refl loop)
  · next known found =>
    split
    · exact .of_calm (.refl loop)
    · exact .of_calm (.trans (.note loop rfl) (refresh_calm cache _))
    · refine .trans_calm ?_ (refresh_calm cache _)
      split
      · exact install_views _ found loud
      · exact .of_calm (.refl loop)

theorem itemDone_calm (cache : CacheId) (loop : Loop S) : Calm loop (loop.itemDone cache) :=
  (itemDone_stirs loop cache).calm

theorem work_views (self : TaskId) (known : Cache) (item : Item) (loud : ¬ isSilent cache) :
    Views isSilent loop (loop.work self cache known item).1 := by
  cases item with
  | check => exact .of_calm ((check_calm cache loop).trans (itemDone_calm cache _))
  | looked outcome => exact (looked_views outcome loud).trans_calm (itemDone_calm cache _)
  | fetched outcome => exact (fetched_views outcome loud).trans_calm (itemDone_calm cache _)
  | resync => exact .of_calm (callService_calm self cache known _ _ loop)
  | stop => exact .of_calm (itemDone_calm cache loop)

/-- The worker takes an item. -/
theorem take_calm (rest : Backlog) :
    Calm loop (loop.modifyCache cache fun cache => { cache with backlog := some rest }) :=
  .modify_of_eq loop cache _ fun _ => ⟨rfl, rfl, rfl, rfl, rfl, rfl, rfl⟩

theorem workerTurn_views (self : TaskId) (known : Cache) (stage : WorkerStage)
    (wake : Wake S.Reply) (loud : ¬ isSilent cache) :
    Views isSilent loop (loop.workerTurn self cache known stage wake).1 := by
  unfold workerTurn
  split
  · exact .of_calm (.refl loop)
  · split
    · exact .of_calm (.modify_of_eq loop cache _ fun _ => ⟨rfl, rfl, rfl, rfl, rfl, rfl, rfl⟩)
    · next item rest _ =>
      refine .calm_trans (take_calm rest) (fun other after found => ?_)
        (work_views self known item loud)
      have same := modifyCache_map loop (fun known => (known.data, known.registrations)) cache
        other (fun cache => { cache with backlog := some rest }) fun _ => rfl
      rw [found] at same
      obtain ⟨before, origin, pair⟩ := Option.map_eq_some_iff.mp same.symm
      exact ⟨before, origin, (Prod.mk.injEq .. ▸ pair).1, (Prod.mk.injEq .. ▸ pair).2⟩
  · next outcome =>
    have resynced : Views isSilent loop
        ((loop.resynced cache (known.reading outcome)).itemDone cache) :=
      (resynced_views _ loud).trans_calm (itemDone_calm cache _)
    dsimp only
    split <;> exact resynced
  · exact .of_calm (itemDone_calm cache loop)

/-- **A read that somebody waits for installs its result silently.** -/
theorem rebuilt_views (known : Cache) (outcome : Outcome Answer)
    (found : loop.caches[cache]? = some known) (silent : isSilent cache) :
    Views isSilent loop (loop.rebuilt cache known outcome).1 := by
  unfold rebuilt
  split
  · refine .trans_calm ?_ (refresh_calm cache _)
    split
    · exact setData_views _ found silent
    · exact .of_calm (.refl loop)
  · exact .of_calm (.refl loop)
  · exact .of_calm (.refl loop)

end Items

/-! ## Steps -/

section Steps

variable (loop : Loop S)

theorem startTurn_views (self : TaskId) (cache : CacheId) (known : Cache) (buildInitial : Bool)
    (stage : StartStage) (wake : Wake S.Reply) (found : loop.caches[cache]? = some known) :
    Views (fun reader => (.start cache buildInitial stage : Frame S.Point).isSilentRead reader)
      loop (loop.startTurn self cache known buildInitial stage wake).1 := by
  unfold startTurn
  split
  · exact .of_calm (.refl loop)
  · split
    · next latent =>
      refine .of_calm (.trans ?_ (callService_calm self cache known _ _ _))
      refine .trans ?_ (.of_eq (spawn_keeps _ _ _).2.2.1 (spawn_keeps _ _ _).2.1)
      refine .modify loop cache _ fun other same => ?_
      cases found.symm.trans same
      exact ⟨.begin latent _ _, rfl⟩
    · exact .of_calm (.refl loop)
  · have listening : Calm loop
        (loop.setService (S.listen known.handle (.cache cache) loop.service)) :=
      setService_calm loop _
    dsimp only
    split
    · exact .of_calm (listening.trans (callService_calm self cache known _ _ _))
    · exact .of_calm (listening.trans (refresh_calm cache _))
  · exact rebuilt_views known _ found rfl
  · exact .of_calm (.refl loop)
  · exact .of_calm (.refl loop)

theorem rebuildTurn_views (self : TaskId) (cache : CacheId) (known : Cache) (isReading : Bool)
    (wake : Wake S.Reply) (found : loop.caches[cache]? = some known) :
    Views (fun reader => (.rebuild cache isReading : Frame S.Point).isSilentRead reader)
      loop (loop.rebuildTurn self cache known isReading wake).1 := by
  unfold rebuildTurn
  split
  · split
    · exact .of_calm (callService_calm self cache known _ _ loop)
    · exact .of_calm (.refl loop)
  · exact rebuilt_views known _ found rfl
  · exact .of_calm (.refl loop)

/-- What a frame does to views in one turn. -/
theorem frameTurn_views (self : TaskId) (frame : Frame S.Point) (wake : Wake S.Reply) :
    Views (fun cache => frame.isSilentRead cache) loop (loop.frameTurn self frame wake).1 := by
  by_cases isOwn : frame.isOwnWork
  · cases frame with
    | worker cache stage =>
      unfold frameTurn
      dsimp only
      split
      · exact workerTurn_views self _ stage wake id
      · exact .of_calm (.refl loop)
    | start cache buildInitial stage =>
      unfold frameTurn
      dsimp only
      split
      · next known found =>
        exact startTurn_views loop self cache known buildInitial stage wake found
      · exact .of_calm (.refl loop)
    | rebuild cache isReading =>
      unfold frameTurn
      dsimp only
      split
      · next known found => exact rebuildTurn_views loop self cache known isReading wake found
      · exact .of_calm (.refl loop)
    | _ => exact isOwn.elim
  · by_cases isService : frame.isService
    · cases frame with
      | service point => exact .of_calm (serviceTurn_calm self point wake loop)
      | _ => exact isService.elim
    · exact .of_calm (frameTurn_stirs loop self frame wake isOwn isService).calm

/-- **What one step does to views.** -/
theorem step_views : Views loop.isSilentAt loop loop.step := by
  have step := step_isStep loop
  generalize loop.step = after at step
  cases step with
  | @turn task wake frame rest isAt =>
    have views := (frameTurn_views loop.inTurn task frame wake).trans_calm
      (afterTurn_calm task frame rest _)
    have quiet : Calm loop loop.inTurn := .of_eq rfl rfl
    refine .calm_trans quiet (fun _ known found => ⟨known, found, rfl, rfl⟩)
      (.congr (fun cache => ⟨fun silent => ?_, ?_⟩) views)
    · exact ⟨task, wake, frame, rest, isAt.turn, isAt.frames, silent⟩
    · rintro ⟨task', wake', frame', rest', turn', frames', silent⟩
      cases isAt.turn.symm.trans turn'
      cases isAt.frames.symm.trans frames'
      exact silent
  | pause turn _ => exact .of_calm (.of_eq rfl rfl)
  | @job job ready turn isFirst =>
    have popped : Calm loop { loop with ready } := .of_eq rfl rfl
    exact .of_calm (popped.trans (start_calm job _))
  | rest turn => exact .of_calm (.refl loop)

theorem installFrom_views {isSilent : CacheId → Prop} (cache : CacheId) (path : Option String)
    (stat : Option Stat) (data : Option (List UInt8)) (loud : ¬ isSilent cache) :
    Views isSilent loop (loop.installFrom cache path stat data).1 := by
  unfold installFrom
  split
  · exact .of_calm (.refl loop)
  · next known found =>
    split
    · exact install_views _ found loud
    · exact .of_calm (.refl loop)

/-- What a command from outside does to views. -/
theorem command_views {isSilent : CacheId → Prop} (command : Command S)
    (isMomentary : command.isMomentary) (loud : ∀ cache, ¬ isSilent cache) :
    Views isSilent loop (loop.command command).1 := by
  by_cases isSpecial : command.isSpecial
  · cases command with
    | install name path stat data =>
      exact withCache_keeps loop name _ (.of_calm (.refl loop)) fun cache =>
        installFrom_views loop cache path stat data (loud cache)
    | release tickets release => exact .of_calm (releaseAll_calm release tickets loop)
    | operate operation => exact .of_calm (.of_eq rfl rfl)
    | occur event =>
      have happened := happen_calm event loop
      unfold Loop.command
      dsimp only
      split
      · next result =>
        rw [result] at happened
        exact .of_calm happened
      · next result =>
        rw [result] at happened
        exact .of_calm happened
      · next result =>
        rw [result] at happened
        exact .of_calm (happened.trans (.of_eq rfl rfl))
    | advance span => simp [Command.isMomentary] at isMomentary
    | _ => exact isSpecial.elim
  · exact .of_calm (command_stirs loop command isSpecial).calm

/-- **What anything that happens does to views.** -/
theorem Happens.views {allowed : Outside S} {before after : Loop S}
    (happens : Happens allowed before after) : Views before.isSilentAt before after := by
  cases happens with
  | step => exact step_views before
  | command command isBetween isMomentary isAllowed =>
    refine command_views before command isMomentary fun cache silent => ?_
    obtain ⟨task, wake, frame, rest, turn, -⟩ := silent
    simp [Loop.isBetween, turn] at isBetween
  | elapse time => exact .of_calm (.of_eq rfl rfl)
  | ring => exact .of_calm (.of_eq (by simp) (by simp))
  | decide scripts habits => exact .of_calm (.of_eq rfl rfl)

end Steps

end Loop

/-! ## Stretches of a run -/

/-- What a monitor has seen in a call of a cache. -/
def Entry.sight? {Call : Type} (cache : CacheId) (monitor : String) : Entry Call → Option Snapshot
  | .called caller name seen => if caller = cache ∧ name = monitor then some seen else none
  | _ => none

/-- A silent view of a cache. -/
def Entry.silentView? {Call : Type} (cache : CacheId) : Entry Call → Option Snapshot
  | .installed owner data true => if owner = cache then some data else none
  | _ => none

namespace Loop

/-- What a monitor of a cache has seen when the cache called it, the earliest first. -/
def seenBy (cache : CacheId) (monitor : String) (loop : Loop S) : List Snapshot :=
  loop.notices.filterMap (Entry.sight? cache monitor)

/-- The silent views of a cache, the earliest first. -/
def silentViews (cache : CacheId) (loop : Loop S) : List Snapshot :=
  loop.notices.filterMap (Entry.silentView? cache)

/-- The monitor is registered, under that number. -/
def IsRegistered (cache : CacheId) (registration : Registration) (loop : Loop S) : Prop :=
  ∃ known, loop.caches[cache]? = some known ∧ registration ∈ known.registrations

variable {allowed : Outside S}

theorem Reaches.isTidy {first last : Loop S} (run : Reaches allowed first last)
    (start : first.IsTidy) : last.IsTidy := by
  refine run.keeps start fun before after happens tidy => ?_
  cases happens.views with
  | kept notices views isTidy => exact isTidy tidy
  | replaced cache known data silence found isRight notices view others isTidy => exact isTidy tidy

theorem fresh_isTidy (service : S.State) : (fresh service).IsTidy := by
  intro cache known found
  simp [fresh] at found

/-- In a tidy round a monitor that is registered is called once. -/
theorem sights_of_calls (cache : CacheId) (data : Snapshot) {registration : Registration}
    {registrations : List Registration} (unique : (registrations.map (·.monitor)).Nodup)
    (member : registration ∈ registrations) :
    (registrations.map fun other => (.called cache other.monitor data : Entry S.Call)).filterMap
      (Entry.sight? cache registration.monitor) = [data] := by
  induction registrations with
  | nil => cases member
  | cons head rest step =>
    rw [List.map_cons, List.nodup_cons] at unique
    obtain ⟨different, unique⟩ := unique
    rcases List.mem_cons.mp member with rfl | later
    · have nobody : ∀ other ∈ rest, other.monitor ≠ registration.monitor :=
        fun other isOther same => different (same ▸ List.mem_map_of_mem isOther)
      have seen : Entry.sight? cache registration.monitor
          (.called cache registration.monitor data : Entry S.Call) = some data := by
        simp [Entry.sight?]
      rw [List.map_cons, List.filterMap_cons_some seen, List.filterMap_eq_nil_iff.mpr]
      intro entry isEntry
      obtain ⟨other, isOther, rfl⟩ := List.mem_map.mp isEntry
      simp [Entry.sight?, nobody other isOther]
    · have other : head.monitor ≠ registration.monitor :=
        fun same => different (same ▸ List.mem_map_of_mem later)
      simpa [Entry.sight?, other] using step unique later

/-- What the announcement of a view shows to a monitor that is registered. -/
theorem sights_of_announcement {cache : CacheId} {known : Cache} {registration : Registration}
    (data : Snapshot) (tidy : known.IsTidy) (member : registration ∈ known.registrations) :
    (announcement cache known data false : List (Entry S.Call)).filterMap
        (Entry.sight? cache registration.monitor) =
      if Snapshot.Same known.data data then [] else [data] := by
  unfold announcement
  rw [List.filterMap_cons_none rfl]
  by_cases same : Snapshot.Same known.data data
  · simp [same]
  · simpa [same] using sights_of_calls cache data tidy member

/-- The announcement of a view of another cache shows nothing. -/
theorem sights_of_other {cache other : CacheId} (different : other ≠ cache) (known : Cache)
    (data : Snapshot) (silence : Bool) (monitor : String) :
    (announcement other known data silence : List (Entry S.Call)).filterMap
      (Entry.sight? cache monitor) = [] := by
  unfold announcement
  rw [List.filterMap_cons_none rfl]
  split
  · rfl
  · simp [List.filterMap_eq_nil_iff, Entry.sight?, different]

/-- **What happens shows a monitor that is registered the new view, if it is news.** -/
theorem Views.seenBy {isSilent : CacheId → Prop} {before after : Loop S} {cache : CacheId}
    {registration : Registration} {data : Snapshot} (views : Views isSilent before after)
    (tidy : before.IsTidy) (registered : before.IsRegistered cache registration)
    (view : before.view? cache = some data)
    (loud : after.silentViews cache = before.silentViews cache) :
    ∃ data', after.view? cache = some data' ∧
      after.seenBy cache registration.monitor = before.seenBy cache registration.monitor ++
        if Snapshot.Same data data' then [] else [data'] := by
  cases views with
  | kept notices views _ =>
    exact ⟨data, views cache data view, by simp [Loop.seenBy, notices, Snapshot.Same.refl]⟩
  | replaced owner known data' silence found _ notices view' others _ =>
    by_cases here : owner = cache
    · subst here
      obtain ⟨known', found', member⟩ := registered
      cases found.symm.trans found'
      have isLoud : silence = false := by
        cases silence with
        | false => rfl
        | true => simp [silentViews, notices, announcement, Entry.silentView?] at loud
      subst isLoud
      have was : known.data = data := by simpa [view?, found] using view
      refine ⟨data', view', ?_⟩
      rw [Loop.seenBy, notices, List.filterMap_append,
        sights_of_announcement data' (tidy owner known found) member, was]
      rfl
    · refine ⟨data, others cache data (Ne.symm here) view, ?_⟩
      rw [Loop.seenBy, notices, List.filterMap_append, sights_of_other here]
      simp [Loop.seenBy, Snapshot.Same.refl]

theorem Views.silentViews_prefix {isSilent : CacheId → Prop} {before after : Loop S}
    (views : Views isSilent before after) (cache : CacheId) :
    before.silentViews cache <+: after.silentViews cache := by
  cases views with
  | kept notices _ _ => simp only [silentViews, notices, List.prefix_rfl]
  | replaced owner known data silence found isRight notices view others _ =>
    rw [silentViews, silentViews, notices, List.filterMap_append]
    exact List.prefix_append _ _

/-- A list of views with repetitions removed. -/
def changes (views : List Snapshot) : List Snapshot :=
  views.destutter fun first second => ¬ Snapshot.Same first second

theorem changes_of_same {first second : Snapshot} (same : Snapshot.Same first second)
    (views : List Snapshot) : changes (first :: second :: views) = changes (first :: views) := by
  rw [changes, List.destutter_cons_cons, if_neg (not_not_intro same)]
  rfl

theorem changes_of_news {first second : Snapshot} (news : ¬ Snapshot.Same first second)
    (views : List Snapshot) :
    changes (first :: second :: views) = first :: changes (second :: views) := by
  rw [changes, List.destutter_cons_cons, if_pos news]
  rfl

theorem changes_cons (first : Snapshot) (views : List Snapshot) :
    changes (first :: views) = first :: (changes (first :: views)).tail := by
  induction views with
  | nil => rfl
  | cons second rest step =>
    by_cases same : Snapshot.Same first second
    · rw [changes_of_same same]
      exact step
    · rw [changes_of_news same, List.tail_cons]

/-- The first view can be replaced by one that says the same. -/
theorem changes_tail {first second : Snapshot} (same : Snapshot.Same first second)
    (views : List Snapshot) :
    (changes (first :: views)).tail = (changes (second :: views)).tail := by
  induction views with
  | nil => rfl
  | cons third rest step =>
    by_cases news : Snapshot.Same first third
    · rw [changes_of_same news, changes_of_same (same.symm.trans news)]
      exact step
    · have news' : ¬ Snapshot.Same second third := fun like => news (same.trans like)
      rw [changes_of_news news, changes_of_news news', List.tail_cons, List.tail_cons]

theorem changes_cons_cons (first second : Snapshot) (views : List Snapshot) :
    (changes (first :: second :: views)).tail =
      (if Snapshot.Same first second then [] else [second]) ++
        (changes (second :: views)).tail := by
  by_cases same : Snapshot.Same first second
  · rw [if_pos same, List.nil_append, changes_of_same same, changes_tail same]
  · rw [if_neg same, changes_of_news same, List.tail_cons]
    exact changes_cons second views

theorem silentViews_prefix_of_chain {first : Loop S} (trail : List (Loop S))
    (chain : List.IsChain (Happens allowed) (first :: trail)) (cache : CacheId) :
    first.silentViews cache <+:
      ((first :: trail).getLast (List.cons_ne_nil _ _)).silentViews cache := by
  induction trail generalizing first with
  | nil => exact List.prefix_rfl
  | cons second rest step =>
    obtain ⟨happens, chain⟩ := List.isChain_cons_cons.mp chain
    rw [List.getLast_cons_cons]
    exact (happens.views.silentViews_prefix cache).trans (step chain)

/-- **Over a stretch without silent views a monitor sees the views with repetitions removed.** -/
theorem seenBy_of_chain {first : Loop S} {cache : CacheId} {registration : Registration}
    (trail : List (Loop S)) (chain : List.IsChain (Happens allowed) (first :: trail))
    (tidy : first.IsTidy)
    (registered : ∀ loop ∈ first :: trail, loop.IsRegistered cache registration)
    (loud : ((first :: trail).getLast (List.cons_ne_nil _ _)).silentViews cache =
      first.silentViews cache) :
    ((first :: trail).getLast (List.cons_ne_nil _ _)).seenBy cache registration.monitor =
      first.seenBy cache registration.monitor ++
        (changes ((first :: trail).filterMap (view? cache))).tail := by
  induction trail generalizing first with
  | nil =>
    obtain ⟨known, found, -⟩ := registered first (List.mem_singleton.mpr rfl)
    simp [view?, found, changes]
  | cons second rest step =>
    obtain ⟨happens, chain⟩ := List.isChain_cons_cons.mp chain
    rw [List.getLast_cons_cons] at loud ⊢
    have early := happens.views.silentViews_prefix cache
    have late := silentViews_prefix_of_chain rest chain cache
    have same : second.silentViews cache = first.silentViews cache := by
      rw [loud] at late
      exact (early.eq_of_length_le late.length_le).symm
    obtain ⟨known, found, member⟩ := registered first (List.mem_cons_self)
    have view : first.view? cache = some known.data := by rw [view?, found, Option.map_some]
    obtain ⟨data', view', seen⟩ := happens.views.seenBy tidy ⟨known, found, member⟩ view same
    rw [step chain (Reaches.isTidy (.single happens) tidy)
      (fun loop isLater => registered loop (List.mem_cons_of_mem _ isLater)) (loud.trans same.symm),
      seen, List.append_assoc]
    simp only [List.filterMap_cons, view, view', changes_cons_cons]

/-- **Exactly one round of calls for each change**, in every run from the beginning on: no monitor
is registered twice; whatever happens next, a new view comes with its announcement, and nothing else
calls a monitor; and from then on, as long as no view is silent, a monitor that stays registered
sees the views one after the other with repetitions removed. -/
theorem one_round_for_each_change {service : S.State} {first : Loop S}
    (run : Reaches allowed (fresh service) first) :
    first.IsTidy ∧
      (∀ after, Happens allowed first after → Views first.isSilentAt first after) ∧
      ∀ (cache : CacheId) (registration : Registration) (trail : List (Loop S)),
        List.IsChain (Happens allowed) (first :: trail) →
        (∀ loop ∈ first :: trail, loop.IsRegistered cache registration) →
        ∀ last, (first :: trail).getLast (List.cons_ne_nil _ _) = last →
          last.silentViews cache = first.silentViews cache →
          last.seenBy cache registration.monitor =
            first.seenBy cache registration.monitor ++
              (changes ((first :: trail).filterMap (view? cache))).tail := by
  have tidy := run.isTidy (fresh_isTidy service)
  refine ⟨tidy, fun after happens => happens.views, ?_⟩
  rintro cache registration trail chain registered last rfl loud
  exact seenBy_of_chain trail chain tidy registered loud

/-- A view that comes from outside. -/
def given (data : UInt8) : Command Remote.service := .install "c" none (some ⟨1, 1⟩) (some [data])

/-- A cache with a monitor. -/
def monitored : Loop Remote.service :=
  commanded [.make "c" (.text "/x") .null, .addMonitor "c" "m" "t"] (fresh ({} : Remote.State))

/-- Three views, the second of which says nothing new. -/
theorem one_round_for_three_views :
    (commanded [given 7, given 7, given 8] monitored).seenBy 0 "m" =
      [.present "/x" ⟨1, 1⟩ [7], .present "/x" ⟨1, 1⟩ [8]] := by
  have next : ∀ (loop : Loop Remote.service) (command : Command Remote.service),
      loop.isBetween → command.isMomentary → Happens anything loop (loop.command command).1 :=
    fun loop command isBetween isMomentary => .command command isBetween isMomentary trivial
  have run : Reaches anything (fresh ({} : Remote.State)) monitored :=
    .head (next _ _ rfl rfl) (.single (next _ _ rfl rfl))
  have law := (one_round_for_each_change run).2.2 0 ⟨1, "m"⟩
    [commanded [given 7] monitored, commanded [given 7, given 7] monitored,
      commanded [given 7, given 7, given 8] monitored]
  have chain : List.IsChain (Happens anything) [monitored, commanded [given 7] monitored,
      commanded [given 7, given 7] monitored, commanded [given 7, given 7, given 8] monitored] :=
    .cons_cons (next _ (given 7) rfl rfl) (.cons_cons (next _ (given 7) rfl rfl)
      (.cons_cons (next _ (given 8) rfl rfl) (.singleton _)))
  refine (law chain ?_ (commanded [given 7, given 7, given 8] monitored) rfl rfl).trans (by decide)
  simp only [List.mem_cons, List.not_mem_nil, or_false]
  rintro loop (rfl | rfl | rfl | rfl)
  · exact ⟨_, rfl, by decide⟩
  · exact ⟨_, rfl, by decide⟩
  · exact ⟨_, rfl, by decide⟩
  · exact ⟨_, rfl, by decide⟩

end Loop

end WatchedNode
