/-
**What leaves the views of caches alone.**

Almost everything that the loop does leaves alone what caches have seen, and writes down neither a
new view nor the call of a monitor: it is `Calm`. Caches only grow older meanwhile, and those that
come in are new. Everything that is one of `Stirs` is calm.

The entries about new views and about calls of monitors are the *notices*.
-/
import WatchedNode.Proofs.Loop.Stir

namespace WatchedNode

variable {S : Service}

/-- The entry is about a view of a cache or the call of a monitor. -/
def Entry.isNotice {Call : Type} : Entry Call → Bool
  | .installed .. | .called .. => true
  | _ => false

/-- An entry that somebody is told of is no notice. -/
theorem Entry.isNotice_of_isShown {Call : Type} {entry : Entry Call} (isShown : entry.isShown) :
    entry.isNotice = false := by
  cases entry <;> simp_all [Entry.isShown, Entry.isNotice]

namespace Loop

/-- The notices in the journal, the earliest first. -/
def notices (loop : Loop S) : List (Entry S.Call) := (loop.journal.filter Entry.isNotice).reverse

theorem notices_note {entry : Entry S.Call} (isNotice : entry.isNotice = true) (loop : Loop S) :
    (loop.note entry).notices = loop.notices ++ [entry] := by
  simp [notices, isNotice]

/-- Every cache grows older with the view it has, and those that come in are new. -/
structure Calm (before after : Loop S) : Prop where
  notices : after.notices = before.notices
  caches (cache : CacheId) (known : Cache) : before.caches[cache]? = some known →
    ∃ known', after.caches[cache]? = some known' ∧ known.Ages known' ∧ known'.data = known.data
  news (cache : CacheId) (known : Cache) : before.caches[cache]? = none →
    after.caches[cache]? = some known → known.IsTidy ∧ known.IsHushed ∧
      known.data = .absent known.path

namespace Calm

variable {first second third : Loop S}

theorem of_eq (journal : second.journal = first.journal) (caches : second.caches = first.caches) :
    Calm first second := by
  refine ⟨?_, fun cache known found => ?_, fun cache known unknown found => ?_⟩
  · rw [Loop.notices, journal, Loop.notices]
  · exact ⟨known, caches ▸ found, .refl known, rfl⟩
  · rw [caches, unknown] at found
    cases found

theorem refl (loop : Loop S) : Calm loop loop := of_eq rfl rfl

theorem trans (left : Calm first second) (right : Calm second third) : Calm first third := by
  refine ⟨right.notices.trans left.notices, fun cache known found => ?_,
    fun cache known unknown found => ?_⟩
  · obtain ⟨known', found', ages, data⟩ := left.caches cache known found
    obtain ⟨known'', found'', ages', data'⟩ := right.caches cache known' found'
    exact ⟨known'', found'', ages.trans ages', data'.trans data⟩
  · cases between : second.caches[cache]? with
    | none => exact right.news cache known between found
    | some known' =>
      obtain ⟨known'', found'', ages, same⟩ := right.caches cache known' between
      cases found.symm.trans found''
      obtain ⟨isTidy, isHushed, data⟩ := left.news cache known' unknown between
      exact ⟨ages.isTidy isTidy, ages.isHushed isHushed, by rw [same, data, ages.path]⟩

theorem note (loop : Loop S) {entry : Entry S.Call} (plain : entry.isNotice = false) :
    Calm loop (loop.note entry) := by
  refine ⟨?_, fun cache known found => ⟨known, found, .refl known, rfl⟩,
    fun cache known unknown found => ?_⟩
  · simp [Loop.notices, plain]
  · cases unknown.symm.trans found

theorem modify (loop : Loop S) (cache : CacheId) (change : Cache → Cache)
    (ages : ∀ known, loop.caches[cache]? = some known →
      known.Ages (change known) ∧ (change known).data = known.data) :
    Calm loop (loop.modifyCache cache change) := by
  refine ⟨rfl, fun other known found => ?_, fun other known unknown found => ?_⟩
  · by_cases here : cache = other
    · subst here
      exact ⟨_, modifyCache_self found change, ages known found⟩
    · exact ⟨known, (modifyCache_of_ne loop here change).trans found, .refl known, rfl⟩
  · rw [modifyCache_caches, List.getElem?_modify, unknown] at found
    cases found

/-- A change of something about a cache that it does not keep for good. -/
theorem modify_of_eq (loop : Loop S) (cache : CacheId) (change : Cache → Cache)
    (same : ∀ known : Cache, (change known).path = known.path ∧
      (change known).handle = known.handle ∧ (change known).compressed = known.compressed ∧
      (change known).phase = known.phase ∧ (change known).registrations = known.registrations ∧
      (change known).nextId = known.nextId ∧ (change known).data = known.data) :
      Calm loop (loop.modifyCache cache change) := by
  refine modify loop cache change fun known _ => ?_
  obtain ⟨path, handle, compressed, phase, registrations, nextId, data⟩ := same known
  exact ⟨.of_eq path handle compressed phase registrations nextId, data⟩

end Calm

/-! ## Effects of a service -/

theorem setService_calm (loop : Loop S) (service : S.State) :
    Calm loop (loop.setService service) := .of_eq rfl rfl

theorem wake_calm (loop : Loop S) (task : TaskId) (why : Wake S.Reply) :
    Calm loop (loop.wake task why) := .of_eq (by simp) (by simp)

theorem post_calm (cache : CacheId) (item : Item) (loop : Loop S) :
    Calm loop (loop.post cache item) := by
  unfold post
  split
  · exact .refl loop
  · next backlog _ =>
    have put : Calm loop (loop.modifyCache cache fun cache =>
        { cache with backlog := some (backlog.put item) }) :=
      .modify_of_eq loop cache _ fun _ => ⟨rfl, rfl, rfl, rfl, rfl, rfl, rfl⟩
    dsimp only
    split
    · exact put.trans (wake_calm _ _ _)
    · exact put

theorem refresh_calm (cache : CacheId) (loop : Loop S) : Calm loop (loop.refresh cache) := by
  unfold refresh
  split
  · exact post_calm cache .check loop
  · exact .refl loop

theorem linkChanged_calm (cache : CacheId) (link : Link) (loop : Loop S) :
    Calm loop (loop.linkChanged cache link) := by
  unfold linkChanged
  split
  · exact .refl loop
  · have told : Calm loop ((loop.note (.told cache link)).modifyCache cache fun cache =>
        { cache with connected := link.isUp }) :=
      (Calm.note loop rfl).trans (.modify_of_eq _ cache _ fun _ =>
        ⟨rfl, rfl, rfl, rfl, rfl, rfl, rfl⟩)
    dsimp only
    split
    · exact told.trans (post_calm cache .resync _)
    · exact told

theorem Ripple.calm {before after : Loop S} (ripple : Ripple before after) :
    Calm before after := by
  cases ripple with
  | note entry isShown => exact .note _ (Entry.isNotice_of_isShown isShown)
  | told cache link => exact linkChanged_calm cache link _
  | fired cache => exact .trans (.note _ rfl) (refresh_calm cache _)
  | listeners handle habit => exact .of_eq rfl rfl
  | reply task reply => exact wake_calm _ _ _
  | cancel task => exact .of_eq (by simp) (by simp)
  | errand point => exact .of_eq rfl rfl

theorem perform_calm (effects : List (Effect S.Call S.Point S.Reply)) (loop : Loop S) :
    Calm loop (loop.perform effects) := by
  have ripples := perform_ripples effects loop
  generalize loop.perform effects = after at ripples
  induction ripples with
  | refl => exact .refl loop
  | tail _ ripple step => exact step.trans ripple.calm

theorem happen_calm (event : S.Event) (loop : Loop S) : Calm loop (loop.happen event).1 := by
  unfold happen
  split
  · exact .refl loop
  · exact (setService_calm loop _).trans (perform_calm _ _)

/-! ## What others do -/

theorem stopCache_calm (cache : CacheId) (loop : Loop S) : Calm loop (loop.stopCache cache) := by
  unfold stopCache
  split
  · refine .trans ?_ (post_calm cache .stop _)
    exact .modify loop cache _ fun known _ => ⟨.close known, rfl⟩
  · exact .refl loop

theorem connect_calm (settings : Value) (loop : Loop S) : Calm loop (loop.connect settings).1 := by
  unfold connect
  split
  · exact .refl loop
  · split
    · exact .refl loop
    · exact (setService_calm loop _).trans (perform_calm _ _)

theorem create_calm {known : Cache} (isNew : known.IsNew) (loop : Loop S) :
    Calm loop { loop with caches := loop.caches ++ [known] } := by
  refine ⟨rfl, fun cache old found => ⟨old, ?_, .refl old, rfl⟩,
    fun cache other unknown found => ?_⟩
  · have isOld : cache < loop.caches.length := (List.getElem?_eq_some_iff.mp found).1
    simp [List.getElem?_append_left isOld, found]
  · have isLate : loop.caches.length ≤ cache := List.getElem?_eq_none_iff.mp unknown
    have last : other ∈ [known] := by
      rw [List.getElem?_append_right isLate] at found
      exact List.mem_of_getElem? found
    rw [List.mem_singleton.mp last]
    exact ⟨isNew.isTidy, isNew.isHushed, isNew.data⟩

theorem Stir.calm {before after : Loop S} (stir : Stir before after) : Calm before after := by
  cases stir with
  | note entry isShown => exact .note _ (Entry.isNotice_of_isShown isShown)
  | reset cache => exact .trans (.note _ rfl) (refresh_calm cache _)
  | register cache change isOnly =>
    refine .modify _ cache change fun known found => ?_
    have registers := isOnly known found
    obtain ⟨registrations, nextId, changed⟩ := registers.1
    exact ⟨registers.ages, by rw [changed]⟩
  | tend cache change isOnly =>
    refine .modify _ cache change fun known found => ?_
    have tends := isOnly known found
    refine ⟨tends.ages, ?_⟩
    obtain ⟨pending, worker, backlog, changed, -⟩ := tends
    rw [changed]
  | happen event => exact happen_calm event _
  | connect settings => exact connect_calm settings _
  | adopt handle => exact .of_eq rfl rfl
  | shut cache known found => exact (stopCache_calm cache _).trans (setService_calm _ _)
  | create known isNew => exact create_calm isNew _
  | spawn role frame isOwn isOpening => exact .of_eq rfl rfl
  | wake task why isPlain => exact wake_calm _ _ _
  | count task => exact .of_eq (by simp) (by simp)
  | hook task hook isPlain => exact .of_eq (by simp) (by simp)
  | aside serial tickets alarms names tokens => exact .of_eq rfl rfl

/-- All that is no part of a cache's own work on its view is calm. -/
theorem Stirs.calm {before after : Loop S} (stirs : Stirs before after) : Calm before after := by
  induction stirs with
  | refl => exact .refl _
  | tail _ stir step => exact step.trans stir.calm

/-! ## A cache's own work -/

theorem ask_calm (cache : CacheId) (query : Query) (loop : Loop S) :
    Calm loop (loop.ask cache query) := by
  unfold ask
  split
  · exact .refl loop
  · dsimp only
    refine .trans ?_ (.of_eq (addHook_keeps _ _ _).2.2.1 (addHook_keeps _ _ _).2.1)
    refine .trans ?_ (.modify_of_eq _ cache _ fun _ => ⟨rfl, rfl, rfl, rfl, rfl, rfl, rfl⟩)
    exact .trans (.note loop rfl) (.of_eq rfl rfl)

theorem check_calm (cache : CacheId) (loop : Loop S) : Calm loop (loop.check cache) := by
  unfold check
  split
  · exact ask_calm cache .look loop
  · exact .refl loop

theorem callService_calm (self : TaskId) (cache : CacheId) (known : Cache) (request : Request)
    (caller : Frame S.Point) (loop : Loop S) :
    Calm loop (loop.callService self cache known request caller).1 := .note loop rfl

theorem answered_calm (cache : CacheId) (query : Query) (task : TaskId)
    (outcome : Outcome Answer) (loop : Loop S) :
    Calm loop (loop.answered cache query task outcome) := by
  have left : Calm loop (loop.modifyCache cache fun cache =>
      { cache with pending := cache.pending.filter (· ≠ task) }) :=
    .modify_of_eq loop cache _ fun _ => ⟨rfl, rfl, rfl, rfl, rfl, rfl, rfl⟩
  unfold answered
  dsimp only
  split
  · exact left.trans (post_calm cache _ _)
  · exact left

/-! ## Steps -/

theorem runHook_calm (hook : Hook) (task : TaskId) (outcome : Outcome Answer) (loop : Loop S) :
    Calm loop (loop.runHook hook task outcome) := by
  by_cases isAnswer : ∃ cache query, hook = .answered cache query
  · obtain ⟨cache, query, rfl⟩ := isAnswer
    exact answered_calm cache query task outcome loop
  · refine (runHook_stirs loop hook task outcome fun cache query same => ?_).calm
    exact isAnswer ⟨cache, query, same⟩

theorem start_calm (job : Job) (loop : Loop S) : Calm loop (loop.start job) := by
  unfold start
  split
  · split
    · exact .of_eq rfl rfl
    · exact .of_eq rfl rfl
    · exact .of_eq (by simp) (by simp)
    · exact .refl loop
  · split
    · exact runHook_calm _ _ _ loop
    · exact .refl loop

/-- The end of a turn is calm. -/
theorem afterTurn_calm (task : TaskId) (frame : Frame S.Point) (rest : List (Frame S.Point))
    (turn : Turn S) : Calm turn.1 (afterTurn task frame rest turn) := by
  have noted : Calm turn.1 (turn.1.noteEnd task frame turn.2) := by
    unfold noteEnd
    split
    · exact .note _ rfl
    · exact .refl _
  have moved := move_keeps (turn.1.noteEnd task frame turn.2) task rest turn.2
  exact noted.trans (.of_eq moved.2.2 moved.2.1)

/-- A call of the service is calm. -/
theorem serviceTurn_calm (self : TaskId) (point : S.Point) (wake : Wake S.Reply) (loop : Loop S) :
    Calm loop (loop.serviceTurn self point wake).1 := by
  have reacted : Calm loop (loop.react self point wake) :=
    (setService_calm loop _).trans (perform_calm _ _)
  obtain ⟨tickets, alarms, same⟩ := serviceTurn_loop loop self point wake
  rw [same]
  exact reacted.trans (.of_eq rfl rfl)

theorem releaseAll_calm (release : Release S.Reply) (tickets : List Nat) (loop : Loop S) :
    Calm loop (loop.releaseAll release tickets).1 :=
  releaseAll_keeps loop release (fun _ _ calm => calm.trans (wake_calm _ _ _)) tickets
    (.refl loop)

end Loop

end WatchedNode
