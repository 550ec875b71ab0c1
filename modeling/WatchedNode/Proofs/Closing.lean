/-
**After a cache has been closed.**

Whatever was under way when a cache was closed comes to its end, but nothing comes of it: the view
stays what it was, the cache has no monitors and calls none (`unchanged_once_closed`).

What was asked before may still be answered. A closed cache asks nothing with a watcher any more,
and it reads the node only where that was due when it was closed: the worker has an item to read the
node again, or a start that reads the node still waits for its directories
(`asks_only_what_is_due`). So a cache for which nothing is due asks nothing; one for which something
is due does ask (`asks_after_closing`).

What a closed cache has seen, does and asks is left alone by all that others do, and by all labours
of its own, since those have conditions (`Labour.leaves`).
-/
import WatchedNode.Proofs.Notification
import WatchedNode.Proofs.Loop.Stack

namespace WatchedNode

open Relation

variable {S : Service}

/-- The command is one of those for users of a cache; to give it a view from outside is not. -/
def Command.isPublic : Command S → Prop
  | .install .. => False
  | _ => True

/-- The entry is a notice about that cache. -/
def Entry.isNoticeOf {Call : Type} (cache : CacheId) : Entry Call → Bool
  | .installed owner _ _ | .called owner _ _ => owner = cache
  | _ => false

/-- The request that a cache has made. -/
def Entry.asked? {Call : Type} (cache : CacheId) : Entry Call → Option Request
  | .asked owner _ request => if owner = cache then some request else none
  | _ => none

theorem Entry.asked?_of_isReport {Call : Type} {entry : Entry Call} (isReport : entry.isReport)
    (cache : CacheId) : entry.asked? cache = none := by
  cases entry with
  | asked owner task request => cases isReport
  | _ => rfl

theorem Entry.asked?_of_ne {Call : Type} {owner cache : CacheId} (different : owner ≠ cache)
    (task : TaskId) (request : Request) :
    (Entry.asked owner task request : Entry Call).asked? cache = none := if_neg different

/-- The request is a read of the node that leaves no watcher. -/
def Request.isRead : Request → Prop
  | .fetch _ none _ => True
  | _ => False

namespace Loop

/-- What is done from outside by users of caches. -/
def published : Outside S := fun _ command => command.isPublic

/-- The cache has been closed. -/
def IsClosed (cache : CacheId) (loop : Loop S) : Prop :=
  ∃ known, loop.caches[cache]? = some known ∧ known.phase = .closed

/-- The notices about a cache, the earliest first. -/
def noticesOf (cache : CacheId) (loop : Loop S) : List (Entry S.Call) :=
  loop.notices.filter (Entry.isNoticeOf cache)

/-- What a cache has asked, the latest request first. -/
def requestsOf (cache : CacheId) (loop : Loop S) : List Request :=
  loop.journal.filterMap (Entry.asked? cache)

/-- The worker of a cache has an item to read the node again. -/
def HasResync (cache : CacheId) (loop : Loop S) : Prop :=
  ∃ known backlog, loop.caches[cache]? = some known ∧ known.backlog = some backlog ∧
    .resync ∈ backlog.items

/-- What becomes of a closed cache: nothing, but it may ask for what it is due to read. -/
structure Leaves (cache : CacheId) (isDue : Prop) (before after : Loop S) : Prop where
  grows : Grows before after
  view : before.IsClosed cache → after.view? cache = before.view? cache
  notices : before.IsClosed cache → after.noticesOf cache = before.noticesOf cache
  items : before.IsClosed cache → after.HasResync cache → before.HasResync cache
  asks : before.IsClosed cache →
    ∃ reads, after.requestsOf cache = reads ++ before.requestsOf cache ∧
    ∀ request ∈ reads, isDue ∧ request.isRead

theorem Grows.isClosed {before after : Loop S} (grows : Grows before after) {cache : CacheId}
    (isClosed : before.IsClosed cache) : after.IsClosed cache := by
  obtain ⟨known, found, closed⟩ := isClosed
  obtain ⟨known', found', ages⟩ := grows cache known found
  exact ⟨known', found', ages.isClosed closed⟩

namespace Leaves

variable {cache : CacheId} {isDue : Prop} {first second third : Loop S}

/-- What is calm and asks nothing leaves a cache alone, if its items do. -/
theorem of_calm (calm : Calm first second)
    (asks : second.requestsOf cache = first.requestsOf cache)
    (items : first.IsClosed cache → second.HasResync cache → first.HasResync cache) :
    Leaves cache isDue first second := by
  refine ⟨calm.grows, fun isClosed => ?_, fun _ => ?_, items, fun _ => ⟨[], asks, by simp⟩⟩
  · obtain ⟨known, found, -⟩ := isClosed
    have same : first.view? cache = some known.data := by rw [view?, found, Option.map_some]
    rw [same]
    exact calm.view cache _ same
  · rw [noticesOf, calm.notices, noticesOf]

/-- Where caches, entries and items stay, nothing becomes of them. -/
theorem of_eq (caches : second.caches = first.caches) (journal : second.journal = first.journal) :
    Leaves cache isDue first second :=
  .of_calm (.of_eq journal caches) (by rw [requestsOf, journal, requestsOf]) fun _ hasResync => by
    rwa [HasResync, ← caches]

theorem refl (loop : Loop S) : Leaves cache isDue loop loop := of_eq rfl rfl

theorem trans (left : Leaves cache isDue first second) (right : Leaves cache isDue second third) :
    Leaves cache isDue first third := by
  have between : first.IsClosed cache → second.IsClosed cache := left.grows.isClosed
  refine ⟨left.grows.trans right.grows, fun closed => ?_, fun closed => ?_, fun closed items => ?_,
    fun closed => ?_⟩
  · rw [right.view (between closed), left.view closed]
  · rw [right.notices (between closed), left.notices closed]
  · exact left.items closed (right.items (between closed) items)
  · obtain ⟨reads, same, areReads⟩ := left.asks closed
    obtain ⟨reads', same', areReads'⟩ := right.asks (between closed)
    refine ⟨reads' ++ reads, by rw [same', same, List.append_assoc], fun request member => ?_⟩
    exact (List.mem_append.mp member).elim (areReads' request) (areReads request)

end Leaves

theorem Leaves.mono {cache : CacheId} {isDue isDue' : Prop} {before after : Loop S}
    (leaves : Leaves cache isDue before after) (wider : isDue → isDue') :
    Leaves cache isDue' before after := by
  refine ⟨leaves.grows, leaves.view, leaves.notices, leaves.items, fun closed => ?_⟩
  obtain ⟨reads, same, areReads⟩ := leaves.asks closed
  exact ⟨reads, same, fun request member => ⟨wider (areReads request member).1,
    (areReads request member).2⟩⟩

/-! ## Items -/

section Items

variable (loop : Loop S) {cache owner : CacheId}

/-- A change of a cache that leaves it with no items that it did not have. -/
theorem hasResync_modify (change : Cache → Cache)
    (items : ∀ known backlog, loop.caches[owner]? = some known →
      (change known).backlog = some backlog → .resync ∈ backlog.items →
        ∃ backlog', known.backlog = some backlog' ∧ .resync ∈ backlog'.items)
    (hasResync : (loop.modifyCache owner change).HasResync cache) : loop.HasResync cache := by
  obtain ⟨known, backlog, found, has, member⟩ := hasResync
  by_cases here : owner = cache
  · subst here
    rw [modifyCache_caches, List.getElem?_modify_eq] at found
    obtain ⟨known', found', rfl⟩ := Option.map_eq_some_iff.mp found
    obtain ⟨backlog', has', member'⟩ := items known' backlog found' has member
    exact ⟨known', backlog', found', has', member'⟩
  · rw [modifyCache_of_ne loop here] at found
    exact ⟨known, backlog, found, has, member⟩

/-- A change of a cache that keeps its backlog. -/
theorem hasResync_modify_of_eq (owner : CacheId) (change : Cache → Cache)
    (same : ∀ known, (change known).backlog = known.backlog)
    (hasResync : (loop.modifyCache owner change).HasResync cache) : loop.HasResync cache :=
  hasResync_modify loop change (fun known backlog _ has member =>
    ⟨backlog, same known ▸ has, member⟩)
    hasResync

/-- The caches decide whether there is an item to read the node again. -/
theorem hasResync_congr {first second : Loop S} (caches : second.caches = first.caches)
    (hasResync : second.HasResync cache) : first.HasResync cache := by
  rwa [HasResync, ← caches]

theorem hasResync_post {item : Item} (isOther : owner ≠ cache ∨ item ≠ .resync)
    (hasResync : (loop.post owner item).HasResync cache) : loop.HasResync cache := by
  unfold post at hasResync
  split at hasResync
  · exact hasResync
  · next backlog isThere =>
    obtain ⟨known, found, has⟩ := Option.bind_eq_some_iff.mp isThere
    have changed : (loop.modifyCache owner fun cache =>
        { cache with backlog := some (backlog.put item) }).HasResync cache := by
      dsimp only at hasResync
      split at hasResync
      · exact hasResync_congr (wake_keeps _ _ _).2.1 hasResync
      · exact hasResync
    by_cases here : owner = cache
    · refine hasResync_modify loop _ (fun known' backlog' found' has' member => ?_) changed
      cases found.symm.trans found'
      cases has'
      refine ⟨backlog, has, (List.mem_append.mp member).resolve_right fun last => ?_⟩
      exact isOther.elim (absurd here) fun different => different (List.mem_singleton.mp last).symm
    · obtain ⟨known', backlog', found', rest⟩ := changed
      rw [modifyCache_of_ne loop here] at found'
      exact ⟨known', backlog', found', rest⟩

theorem hasResync_refresh (hasResync : (loop.refresh owner).HasResync cache) :
    loop.HasResync cache := by
  unfold refresh at hasResync
  split at hasResync
  · exact hasResync_post loop (.inr Item.noConfusion) hasResync
  · exact hasResync

/-- Only a cache that runs gets an item to read the node again. -/
theorem hasResync_linkChanged (link : Link) (isClosed : loop.IsClosed cache)
    (hasResync : (loop.linkChanged owner link).HasResync cache) : loop.HasResync cache := by
  have told : ((loop.note (.told owner link)).modifyCache owner fun cache =>
      { cache with connected := link.isUp }).HasResync cache → loop.HasResync cache :=
    hasResync_modify_of_eq (loop.note _) owner _ fun _ => rfl
  unfold linkChanged at hasResync
  split at hasResync
  · exact hasResync
  · next known found =>
    dsimp only at hasResync
    split at hasResync
    · next runs =>
      refine told (hasResync_post _ (.inl ?_) hasResync)
      rintro rfl
      obtain ⟨known', found', closed⟩ := isClosed
      cases found.symm.trans found'
      simp [Cache.isRunning, closed] at runs
    · exact told hasResync

end Items

/-! ## What others do -/

section Others

variable {cache : CacheId} {isDue : Prop}

theorem Ripple.leaves {before after : Loop S} (ripple : Ripple before after) :
    Leaves cache isDue before after := by
  refine .of_calm ripple.calm
    (ripple.writes.filterMap _ fun _ isReport => Entry.asked?_of_isReport isReport cache) ?_
  intro isClosed hasResync
  cases ripple with
  | note entry isShown => exact hasResync
  | told owner link => exact hasResync_linkChanged before link isClosed hasResync
  | fired owner => exact hasResync_refresh (before.note (.fired owner)) hasResync
  | listeners handle habit => exact hasResync
  | reply task reply => exact hasResync_congr (wake_keeps before task _).2.1 hasResync
  | cancel task => exact hasResync_congr (cancelErrand_keeps before task).2.1 hasResync
  | errand point => exact hasResync

theorem perform_leaves (effects : List (Effect S.Call S.Point S.Reply)) (loop : Loop S) :
    Leaves cache isDue loop (loop.perform effects) := by
  have ripples := perform_ripples effects loop
  generalize loop.perform effects = after at ripples
  induction ripples with
  | refl => exact .refl loop
  | tail _ ripple step => exact step.trans ripple.leaves

theorem happen_leaves (event : S.Event) (loop : Loop S) :
    Leaves cache isDue loop (loop.happen event).1 := by
  unfold happen
  split
  · exact .refl loop
  · next occurrence _ =>
    have set : Leaves cache isDue loop (loop.setService occurrence.state) := .of_eq rfl rfl
    exact set.trans (perform_leaves _ _)

theorem react_leaves (self : TaskId) (point : S.Point) (wake : Wake S.Reply) (loop : Loop S) :
    Leaves cache isDue loop (loop.react self point wake) := by
  have set : ∀ service, Leaves cache isDue loop (loop.setService service) := fun _ => .of_eq rfl rfl
  exact (set _).trans (perform_leaves _ _)

theorem Stir.leaves {before after : Loop S} (stir : Stir before after) :
    Leaves cache isDue before after := by
  have plain : (before.IsClosed cache → after.HasResync cache → before.HasResync cache) →
      Leaves cache isDue before after :=
    .of_calm stir.calm
      (stir.writes.filterMap _ fun _ isReport => Entry.asked?_of_isReport isReport cache)
  cases stir with
  | note entry isShown => exact plain fun _ => id
  | reset owner => exact plain fun _ => hasResync_refresh (before.note (.reset owner))
  | register owner change isOnly =>
    refine plain fun _ => hasResync_modify before change fun known backlog found has member => ?_
    obtain ⟨registrations, nextId, changed⟩ := (isOnly known found).1
    rw [changed] at has
    exact ⟨backlog, has, member⟩
  | tend owner change isOnly =>
    refine plain fun _ => hasResync_modify before change fun known backlog found has member => ?_
    obtain ⟨pending, worker, backlog', changed, same⟩ := isOnly known found
    rw [changed] at has
    rw [show backlog' = some backlog from has] at same
    obtain ⟨older, isOlder, items⟩ := Option.map_eq_some_iff.mp same.symm
    exact ⟨older, isOlder, by rwa [items]⟩
  | happen event => exact happen_leaves event before
  | connect settings =>
    have set : ∀ service, Leaves cache isDue before (before.setService service) := fun _ =>
      .of_eq rfl rfl
    unfold Loop.connect
    split
    · exact .refl before
    · split
      · exact .refl before
      · exact (set _).trans (perform_leaves _ _)
  | adopt handle => exact plain fun _ => id
  | shut owner known found =>
    refine plain fun _ hasResync => ?_
    unfold Loop.shut stopCache at hasResync
    dsimp only at hasResync
    have closing : (before.modifyCache owner fun cache =>
        { cache with phase := .closed, registrations := [] }).HasResync cache →
          before.HasResync cache := hasResync_modify_of_eq before owner _ fun _ => rfl
    split at hasResync
    · exact closing (hasResync_post _ (.inr Item.noConfusion) hasResync)
    · exact hasResync
  | create known isNew =>
    refine plain fun isClosed hasResync => ?_
    obtain ⟨old, found, -⟩ := isClosed
    obtain ⟨known', backlog, found', rest⟩ := hasResync
    have isOld : cache < before.caches.length := (List.getElem?_eq_some_iff.mp found).1
    rw [List.getElem?_append_left isOld] at found'
    exact ⟨known', backlog, found', rest⟩
  | spawn role frame isOwn isOpening => exact plain fun _ => id
  | wake task why isPlain => exact plain fun _ => hasResync_congr (wake_keeps before task why).2.1
  | count task => exact plain fun _ => hasResync_congr (countDown_keeps before task).2.1
  | hook task hook isPlain =>
    exact plain fun _ => hasResync_congr (addHook_keeps before task hook).2.1
  | aside serial tickets alarms names tokens => exact plain fun _ => id

theorem Stirs.leaves {before after : Loop S} (stirs : Stirs before after) :
    Leaves cache isDue before after := by
  induction stirs with
  | refl => exact .refl before
  | tail _ stir step => exact step.trans stir.leaves

end Others

/-! ## Labours of caches -/

section Labours

variable {cache owner : CacheId} {isDue looks : Prop}

theorem note_leaves {entry : Entry S.Call} (isOther : entry.isNoticeOf cache = false)
    (isNoRequest : entry.asked? cache = none) (loop : Loop S) :
    Leaves cache isDue loop (loop.note entry) := by
  refine ⟨.of_eq rfl, fun _ => rfl, fun _ => ?_, fun _ => id, fun _ => ⟨[], ?_, by simp⟩⟩
  · by_cases isNotice : entry.isNotice
    · rw [noticesOf, notices_note isNotice, List.filter_append, List.filter_singleton, isOther]
      simp [noticesOf]
    · rw [noticesOf, notices, note_journal, List.filter_cons_of_neg isNotice, noticesOf, notices]
  · rw [requestsOf, note_journal, List.filterMap_cons_none isNoRequest, requestsOf, List.nil_append]

/-- A new view of another cache. -/
theorem setData_leaves (different : owner ≠ cache) (data : Snapshot) (isSilent : Bool)
    (loop : Loop S) : Leaves cache isDue loop (loop.setData owner data isSilent) := by
  have changed : Leaves cache isDue loop
      (loop.modifyCache owner fun cache => { cache with data }) := by
    refine ⟨(setData_pulses owner data isSilent loop).grows, fun _ => ?_, fun _ => rfl, fun _ => ?_,
      fun _ => ⟨[], rfl, by simp⟩⟩
    · rw [view?, modifyCache_of_ne loop different, view?]
    · exact hasResync_modify_of_eq loop owner _ fun _ => rfl
  refine changed.trans (note_leaves ?_ rfl _)
  simp [Entry.isNoticeOf, different]

/-- A round of calls of another cache. -/
theorem notify_leaves (different : owner ≠ cache) (loop : Loop S) :
    Leaves cache isDue loop (loop.notify owner) := by
  unfold notify
  refine foldl_relates .refl .trans (fun loop registration => ?_) _ loop
  have called : Leaves cache isDue loop
      (loop.note (.called owner registration.monitor (loop.seen owner))) :=
    note_leaves (by simp [Entry.isNoticeOf, different]) rfl loop
  exact called.trans (notifyOne_stirs owner registration loop).leaves

theorem install_leaves (different : owner ≠ cache) (data : Snapshot) (loop : Loop S) :
    Leaves cache isDue loop (loop.install owner data) := by
  have set : Leaves cache isDue loop (loop.setData owner data false) :=
    setData_leaves different data false loop
  unfold install
  dsimp only
  split
  · exact set
  · exact set.trans (notify_leaves different _)

theorem ask_leaves (different : owner ≠ cache) (query : Query) (loop : Loop S) :
    Leaves cache isDue loop (loop.ask owner query) := by
  have writes : Writes (fun entry => entry.asked? cache = none) loop (loop.ask owner query) :=
    ask_writes fun _ _ => Entry.asked?_of_ne different _ _
  refine .of_calm (ask_calm owner query loop) (writes.filterMap _ fun _ => id) fun _ => ?_
  intro hasResync
  cases found : loop.caches[owner]? with
  | none => rwa [ask_none query found] at hasResync
  | some known =>
    rw [ask_eq query found] at hasResync
    have posed : (loop.posed owner query known).HasResync cache :=
      hasResync_congr (addHook_keeps _ _ _).2.1 hasResync
    exact hasResync_modify_of_eq loop owner
      (fun cache => { cache with pending := cache.pending ++ [loop.tasks.length] })
        (fun _ => rfl) posed

/-- What a cache does under the condition that it runs leaves a closed one alone. -/
theorem Leaves.of_running {before after : Loop S} {known : Cache} (grows : Grows before after)
    (found : before.caches[owner]? = some known) (runs : known.phase ≠ .closed)
    (other : owner ≠ cache → Leaves cache isDue before after) :
    Leaves cache isDue before after := by
  by_cases here : owner = cache
  · have open_ : ¬ before.IsClosed cache := by
      rintro ⟨known', found', closed⟩
      rw [← here, found] at found'
      cases found'
      exact runs closed
    exact ⟨grows, (absurd · open_), (absurd · open_), (absurd · open_), (absurd · open_)⟩
  · exact other here

/-- **A cache's labours leave a closed one alone**, but for what that is due to read. -/
theorem Labour.leaves {before after : Loop S} (labour : Labour owner isDue looks before after) :
    Leaves cache (owner = cache ∧ isDue) before after := by
  have grows : Grows before after := labour.toils.pulses.grows
  have running : ∀ {known : Cache}, before.caches[owner]? = some known → known.phase = .started →
      (owner ≠ cache → Leaves cache (owner = cache ∧ isDue) before after) →
        Leaves cache (owner = cache ∧ isDue) before after := fun found isStarted =>
    .of_running grows found (isStarted ▸ Phase.noConfusion)
  cases labour with
  | stir stir => exact stir.leaves
  | asked task known request found isPlain isRight =>
    rcases isRight with isStarted | ⟨isDue, rfl⟩
    · exact running found isStarted fun different =>
        note_leaves rfl (Entry.asked?_of_ne different _ _) before
    · by_cases here : owner = cache
      · subst here
        refine ⟨grows, fun _ => rfl, fun _ => ?_, fun _ => id,
          fun _ => ⟨[readRequest known], ?_, ?_⟩⟩
        · rw [noticesOf, notices, note_journal, List.filter_cons_of_neg (by simp [Entry.isNotice]),
            noticesOf, notices]
        · simp [requestsOf, Entry.asked?]
        · simpa [readRequest, Request.isRead] using isDue
      · exact note_leaves rfl (Entry.asked?_of_ne here _ _) before
  | install known data found isStarted =>
    exact running found isStarted fun different => install_leaves different data before
  | rebuild known data found isStarted =>
    exact running found isStarted fun different => setData_leaves different data true before
  | look known found isActive =>
    rw [Cache.isActive, Bool.and_eq_true] at isActive
    exact running found (of_decide_eq_true isActive.1) fun different =>
      ask_leaves different .look before
  | fetch known found isStarted =>
    exact running found isStarted fun different => ask_leaves different .fetch before
  | answer known query outcome found isStarted =>
    refine running found isStarted fun different => ?_
    refine .of_calm (post_calm owner _ before) ?_ fun _ => hasResync_post before (.inl different)
    rw [requestsOf, (post_keeps before owner _).2.1, requestsOf]
  | refresh isRight =>
    refine .of_calm (refresh_calm owner before) ?_ fun _ => hasResync_refresh before
    rw [requestsOf, (refresh_keeps before owner).2.1, requestsOf]
  | begin known found isLatent =>
    refine .of_running grows found (isLatent ▸ Phase.noConfusion) fun different => ?_
    refine ⟨grows, fun _ => ?_, fun _ => rfl, fun _ hasResync => ?_, fun _ => ⟨[], rfl, by simp⟩⟩
    · rw [view?, show (before.begin owner).caches = before.caches.modify owner _ from rfl,
        List.getElem?_modify_ne _ _ different, view?]
    · obtain ⟨known', backlog, found', rest⟩ := hasResync
      rw [show (before.begin owner).caches = before.caches.modify owner _ from rfl,
        List.getElem?_modify_ne _ _ different] at found'
      exact ⟨known', backlog, found', rest⟩

theorem Labours.leaves {before after : Loop S} (labours : Labours owner isDue looks before after) :
    Leaves cache (owner = cache ∧ isDue) before after := by
  induction labours with
  | refl => exact .refl before
  | tail _ labour step => exact step.trans labour.leaves

end Labours

/-! ## Everything that happens -/

section Steps

variable {cache : CacheId} {loop : Loop S}

/-- The end of a turn, or of the wait for one. -/
theorem afterTurn_leaves {isDue : Prop} (task : TaskId) (frame : Frame S.Point)
    (rest : List (Frame S.Point)) (turn : Turn S) :
    Leaves cache isDue turn.1 (afterTurn task frame rest turn) := by
  have noted : Leaves cache isDue turn.1 (turn.1.noteEnd task frame turn.2) := by
    unfold noteEnd
    split
    · exact note_leaves rfl rfl _
    · exact .refl _
  obtain ⟨-, caches, journal⟩ := move_keeps (turn.1.noteEnd task frame turn.2) task rest turn.2
  exact noted.trans (.of_eq caches journal)

theorem start_leaves {isDue : Prop} (job : Job) (loop : Loop S) :
    Leaves cache isDue loop (loop.start job) := by
  unfold start
  split
  · split
    · exact .of_eq rfl rfl
    · exact .of_eq rfl rfl
    · exact .of_eq (finish_keeps loop _ _).2.1 (finish_keeps loop _ _).2.2.1
    · exact .refl loop
  · split
    · obtain ⟨owner, labours⟩ := runHook_labours _ _ _ loop
      exact labours.leaves.mono fun isDue => isDue.2.elim
    · exact .refl loop

theorem Prepares.leaves {isDue : Prop} {frame : Frame S.Point} {wake : Wake S.Reply}
    {before after : Loop S} (prepares : Prepares frame wake before after) :
    Leaves cache isDue before after := by
  cases prepares with
  | nothing => exact .refl before
  | listen isStart isReady found => exact .of_eq rfl rfl
  | @take owner known item rest isWorker found isFirst =>
    refine .of_calm (take_calm rest) rfl fun _ => ?_
    refine hasResync_modify before _ fun known' backlog found' has member => ?_
    cases found.symm.trans found'
    cases has
    obtain ⟨older, isOlder, taken⟩ := Option.bind_eq_some_iff.mp isFirst
    have items := (Backlog.take?_eq_some taken).1
    exact ⟨older, isOlder, items ▸ List.mem_cons_of_mem item member⟩

/-- What a frame does in its turn leaves a closed cache alone, but for what the frame is due to
read. -/
theorem frameTurn_leaves (self : TaskId) (frame : Frame S.Point) (wake : Wake S.Reply) :
    Leaves cache (loop.IsDue cache frame) loop (loop.frameTurn self frame wake).1 := by
  rcases frameTurn_kinds self frame wake loop with
    ⟨point, tickets, alarms, rfl, same⟩ | ⟨owner, middle, isOwn, prepares, labours⟩
  · rw [same]
    exact (react_leaves self point wake loop).trans (.of_eq rfl rfl)
  · refine prepares.leaves.trans (labours.leaves.mono ?_)
    rintro ⟨rfl, isDue⟩
    exact isDue

/-- The cache's frame that has its turn is due to read the node. -/
def IsDueNow (cache : CacheId) (loop : Loop S) : Prop :=
  ∃ task wake frame rest, loop.IsAt task wake frame rest ∧ loop.IsDue cache frame

/-- **Whatever happens leaves a closed cache alone**, but for what it is due to read. -/
theorem Happens.leaves {before after : Loop S} (happens : Happens published before after) :
    Leaves cache (before.IsDueNow cache) before after := by
  cases happens with
  | step =>
    have step := step_isStep before
    generalize before.step = after at step
    cases step with
    | @turn task wake frame rest isAt =>
      have inTurn : Leaves cache (before.IsDueNow cache) before before.inTurn := .of_eq rfl rfl
      have turn : Leaves cache (before.IsDueNow cache) before.inTurn
          (before.inTurn.frameTurn task frame wake).1 :=
        (frameTurn_leaves task frame wake).mono fun isDue => ⟨task, wake, frame, rest, isAt, isDue⟩
      exact (inTurn.trans turn).trans (afterTurn_leaves task frame rest _)
    | pause turn isOver => exact .of_eq rfl rfl
    | @job job ready turn isFirst =>
      have taken : Leaves cache (before.IsDueNow cache) before { before with ready } :=
        .of_eq rfl rfl
      exact taken.trans (start_leaves job _)
    | rest turn => exact .refl before
  | command command isBetween isMomentary isAllowed =>
    have order := command_isOrder before command isMomentary
    generalize (before.command command).1 = after at order
    cases order with
    | stirs stirs => exact stirs.leaves
    | call stirs point => exact stirs.leaves.trans (.of_eq rfl rfl)
    | release tickets release _ =>
      refine releaseAll_keeps before release (fun loop task leaves => leaves.trans ?_) tickets
        (.refl before)
      exact .of_eq (wake_keeps loop task _).2.1 (wake_keeps loop task _).2.2.1
    | install name owner path stat data same =>
      rw [same] at isAllowed
      exact isAllowed.elim
  | elapse time => exact .of_eq rfl rfl
  | ring => exact .of_eq (ring_keeps before).2.1 (ring_keeps before).2.2.1
  | decide scripts habits => exact .of_eq rfl rfl

end Steps

/-! ## Runs -/

section Runs

variable {allowed : Outside S} {first last : Loop S} {cache : CacheId}

/-- No closed cache has monitors. -/
def AreHushed (loop : Loop S) : Prop :=
  ∀ (cache : CacheId) (known : Cache), loop.caches[cache]? = some known → known.IsHushed

theorem Calm.areHushed {before after : Loop S} (calm : Calm before after)
    (areHushed : before.AreHushed) : after.AreHushed := by
  intro cache known' found'
  cases found : before.caches[cache]? with
  | none => exact (calm.news cache known' found found').2.1
  | some known =>
    obtain ⟨known'', found'', ages, -⟩ := calm.caches cache known found
    cases found'.symm.trans found''
    exact ages.isHushed (areHushed cache known found)

theorem Pulse.areHushed {before after : Loop S} (pulse : Pulse before after)
    (areHushed : before.AreHushed) : after.AreHushed := by
  cases pulse with
  | tasks _ _ caches _ => exact fun cache known found => areHushed cache known (caches ▸ found)
  | note entry _ => exact areHushed
  | modify cache change keeps =>
    intro other known' found'
    by_cases here : cache = other
    · subst here
      rw [modifyCache_caches, List.getElem?_modify_eq] at found'
      obtain ⟨known, found, rfl⟩ := Option.map_eq_some_iff.mp found'
      exact (keeps known found).1.isHushed (areHushed cache known found)
    · rw [modifyCache_of_ne before here] at found'
      exact areHushed other known' found'
  | create known isNew => exact (create_calm isNew before).areHushed areHushed
  | happen event => exact (happen_calm event before).areHushed areHushed
  | call self point wake =>
    exact ((setService_calm before _).trans (perform_calm _ _)).areHushed areHushed
  | connect settings => exact (connect_calm settings before).areHushed areHushed
  | adopt handle => exact areHushed
  | listen cache known _ _ => exact areHushed
  | unlisten cache handle _ => exact areHushed

theorem Reaches.areHushed {service : S.State} (run : Reaches allowed (fresh service) first) :
    first.AreHushed :=
  run.keeps_pulses (fresh_startsAreBegun service) (fun cache known found => by
    simp [fresh] at found)
    fun _ _ pulse areHushed => pulse.areHushed areHushed

/-- **Nothing changes once a cache has been closed**, in every run from the beginning on: whatever
users of caches and the service do, it stays closed, has the view that it had, has no monitors and
calls none. -/
theorem unchanged_once_closed {service : S.State} (start : Reaches allowed (fresh service) first)
    {known : Cache} (found : first.caches[cache]? = some known) (isClosed : known.phase = .closed)
    (run : Reaches published first last) :
    known.registrations = [] ∧
      ∃ known', last.caches[cache]? = some known' ∧ known'.phase = .closed ∧
        known'.data = known.data ∧ known'.registrations = [] ∧
        last.noticesOf cache = first.noticesOf cache := by
  have leaves : ∃ isDue, Leaves cache isDue first last := by
    induction run with
    | refl => exact ⟨True, .refl first⟩
    | tail _ happens step =>
      obtain ⟨isDue, leaves⟩ := step
      exact ⟨True, (leaves.mono fun _ => trivial).trans (happens.leaves.mono fun _ => trivial)⟩
  obtain ⟨isDue, leaves⟩ := leaves
  have closed : first.IsClosed cache := ⟨known, found, isClosed⟩
  have bare : known.registrations = [] := start.areHushed cache known found isClosed
  obtain ⟨known', found', ages⟩ := leaves.grows cache known found
  have view := leaves.view closed
  rw [view?, view?, found, found', Option.map_some, Option.map_some, Option.some.injEq] at view
  exact ⟨bare, known', found', ages.isClosed isClosed, view,
    ages.isHushed (fun _ => bare) (ages.isClosed isClosed), leaves.notices closed⟩

/-- What comes of commands that are given to a service in memory at the beginning. -/
def settled (commands : List (Command Remote.service)) : Loop Remote.service :=
  enact 60 commands (fresh ({} : Remote.State))

theorem settled_append (first second : List (Command Remote.service)) :
    settled (first ++ second) = enact 60 second (settled first) := enact_append 60 first second _

/-- A cache with a monitor is closed while its node is fetched. -/
def closing : List (Command Remote.service) :=
  [.make "c" (.text "/a") .null, .addMonitor "c" "m" "t", .occur (Remote.Event.set "/a" [7]),
    .occur (Remote.Event.hold ["get_data"]), .start "c" (.bool false), .close "c"]

/-- The fetch is answered, and the node changes. -/
def answering : List (Command Remote.service) :=
  [.release [1] (.reply Remote.Reply.ok), .occur (Remote.Event.set "/a" [8])]

/-- The answer to a fetch comes too late, and so does the next change. -/
theorem unchanged_by_late_answer :
    ((settled (closing ++ answering)).caches[0]?).map (·.data) = some (.absent "/a") ∧
      (settled (closing ++ answering)).noticesOf 0 = [] := by
  have first : Reaches published (fresh ({} : Remote.State)) (settled closing) :=
    enact_reaches 60 closing _ (by simp [closing, published, Command.isPublic]) (by decide +kernel)
  have second : Reaches published (settled closing) (enact 60 answering (settled closing)) :=
    enact_reaches 60 answering _ (by simp [answering, published, Command.isPublic])
      (by decide +kernel)
  have isClosed : ((settled closing).caches[0]?).map (fun known => (known.phase, known.data)) =
      some (.closed, .absent "/a") := by decide +kernel
  obtain ⟨known, found, same⟩ := Option.map_eq_some_iff.mp isClosed
  obtain ⟨phase, data⟩ := Prod.mk.inj same
  obtain ⟨-, known', found', -, kept, -, notices⟩ :=
    unchanged_once_closed first found phase second
  have quiet : (settled closing).noticesOf 0 = [] :=
    List.length_eq_zero_iff.mp (by decide +kernel)
  rw [settled_append, found', Option.map_some, kept, data, notices, quiet]
  exact ⟨rfl, rfl⟩

/-- Nothing is due to be read by a cache: its worker has no item for that, and no start that reads
the node waits for its directories. -/
structure NothingDue (cache : CacheId) (loop : Loop S) : Prop where
  items : ¬ loop.HasResync cache
  starts (task : TaskId) (known : Task S) : loop.tasks[task]? = some known →
    .start cache true .ensuring ∉ known.frames

theorem NothingDue.not_isDueNow {loop : Loop S} (nothingDue : loop.NothingDue cache) :
    ¬ loop.IsDueNow cache := by
  rintro ⟨task, wake, frame, rest, isAt, rfl | ⟨rfl, known, left, found, isFirst⟩⟩
  · obtain ⟨known, found, frames⟩ := Option.map_eq_some_iff.mp isAt.frames
    exact nothingDue.starts task known found (frames ▸ List.mem_cons_self)
  · obtain ⟨backlog, isThere, taken⟩ := Option.bind_eq_some_iff.mp isFirst
    refine nothingDue.items ⟨known, backlog, found, isThere, ?_⟩
    rw [(Backlog.take?_eq_some taken).1]
    exact List.mem_cons_self

/-- Nothing becomes due for a closed cache. -/
theorem Happens.nothingDue {before after : Loop S} (happens : Happens published before after)
    (isClosed : before.IsClosed cache) (nothingDue : before.NothingDue cache) :
    after.NothingDue cache := by
  refine ⟨fun has => nothingDue.items (happens.leaves.items isClosed has),
    fun task known found member => ?_⟩
  rcases happens.calling found member trivial with
    ⟨old, earlier, isOld⟩ | ⟨wake, frame, rest, callee, isAt, same, calls⟩
  · exact nothingDue.starts task old earlier isOld
  · obtain ⟨known, found, isLatent⟩ := frameTurn_ensuring task frame wake before.inTurn calls
    obtain ⟨known', found', closed⟩ := isClosed
    cases found'.symm.trans found
    cases isLatent.symm.trans closed

/-- **A closed cache asks only what is due**: what it asks after it has been closed are reads
without a watcher, and there are none if nothing was due then. -/
theorem asks_only_what_is_due (isClosed : first.IsClosed cache)
    (run : Reaches published first last) :
    ∃ reads, last.requestsOf cache = reads ++ first.requestsOf cache ∧
      (∀ request ∈ reads, request.isRead) ∧ (first.NothingDue cache → reads = []) := by
  suffices asked : last.IsClosed cache ∧ (first.NothingDue cache → last.NothingDue cache) ∧
      ∃ reads, last.requestsOf cache = reads ++ first.requestsOf cache ∧
        (∀ request ∈ reads, request.isRead) ∧ (first.NothingDue cache → reads = []) from asked.2.2
  induction run with
  | refl => exact ⟨isClosed, id, [], rfl, by simp, fun _ => rfl⟩
  | @tail before after _ happens step =>
    obtain ⟨closed, due, reads, same, areReads, none⟩ := step
    obtain ⟨reads', same', areReads'⟩ := happens.leaves.asks closed
    refine ⟨happens.course.grows.isClosed closed,
      fun nothingDue => happens.nothingDue closed (due nothingDue), reads' ++ reads,
      by rw [same', same, List.append_assoc], fun request member => ?_, fun nothingDue => ?_⟩
    · exact (List.mem_append.mp member).elim (fun isNew => (areReads' request isNew).2)
        (areReads request)
    · have quiet : reads' = [] := List.eq_nil_iff_forall_not_mem.mpr fun request member =>
        (due nothingDue).not_isDueNow (areReads' request member).1
      rw [quiet, none nothingDue, List.append_nil]

/-- Nothing is due for a cache that is closed while its node is fetched, and it asks nothing
more. -/
theorem asks_nothing_after_fetch :
    (settled (closing ++ answering)).requestsOf 0 = (settled closing).requestsOf 0 := by
  have run : Reaches published (settled closing) (enact 60 answering (settled closing)) :=
    enact_reaches 60 answering _ (by simp [answering, published, Command.isPublic])
      (by decide +kernel)
  have isClosed : ((settled closing).caches[0]?).map (·.phase) = some .closed := by decide +kernel
  obtain ⟨known, found, closed⟩ := Option.map_eq_some_iff.mp isClosed
  obtain ⟨reads, same, -, none⟩ := asks_only_what_is_due ⟨known, found, closed⟩ run
  have noItems : ((settled closing).caches[0]?).all (fun known =>
      known.backlog.all fun backlog => backlog.items.isEmpty) = true := by decide +kernel
  have noFrames : (settled closing).tasks.all (fun task =>
      task.frames.all fun frame => decide frame.isService) = true := by decide +kernel
  have nothingDue : (settled closing).NothingDue 0 := by
    refine ⟨?_, fun task known found member => ?_⟩
    · rintro ⟨other, backlog, found', isThere, member⟩
      simp [found', isThere] at noItems
      simp [noItems] at member
    · have all := List.all_eq_true.mp noFrames known (List.mem_of_getElem? found)
      exact of_decide_eq_true (List.all_eq_true.mp all _ member)
  rw [none nothingDue, List.nil_append] at same
  rw [settled_append, same]

/-- A cache whose start reads the node is closed while the start waits for its directories. -/
def closingEarly : List (Command Remote.service) :=
  [.make "c" (.text "/a") .null, .occur (Remote.Event.hold ["ensure_path"]),
    .start "c" (.bool true),
    .close "c"]

/-- **A cache may ask after it has been closed.** The start goes on when its directories are there,
and reads the node. -/
theorem asks_after_closing :
    ((settled closingEarly).caches[0]?).map (·.phase) = some .closed ∧
      ((settled closingEarly).requestsOf 0).map Remote.kindOf = [.ensure] ∧
      Reaches published (settled closingEarly)
        (settled (closingEarly ++ [.release [1] (.reply Remote.Reply.ok)])) ∧
      ((settled (closingEarly ++ [.release [1] (.reply Remote.Reply.ok)])).requestsOf 0).map
        Remote.kindOf = [.read, .ensure] := by
  refine ⟨by decide +kernel, by decide +kernel, ?_, by decide +kernel⟩
  have run : Reaches published (settled closingEarly)
      (enact 60 [.release [1] (.reply Remote.Reply.ok)] (settled closingEarly)) :=
    enact_reaches 60 _ _ (by simp [published, Command.isPublic]) (by decide +kernel)
  rw [settled_append]
  exact run

end Runs

end Loop

end WatchedNode
