/-
**What a cache is brought to look for.**

What makes a cache look at its node comes from outside: a watcher of its own is fired, somebody asks
it to look, or it is told that its connection is back. Each of these is written down where it comes
in (`Entry.disturbs`). Whatever happens without them leaves a cache as many prompts as it had, or
fewer (`Abides`). Only a start, somebody who rebuilds the view, and a worker that has read the node
go on to look of their own accord; where the worker is the only one, a step brings no prompt, or is
the worker's turn, which brings one look (`Happens.abides`).
-/
import WatchedNode.Proofs.Loop.Line

namespace WatchedNode

open Relation

variable {S : Service}

/-- The entry is about something that comes from outside to a cache whose connection is up, or down:
a watcher of its own is fired, somebody asks it to look, or it is told otherwise. -/
def Entry.disturbs {Call : Type} (cache : CacheId) (isUp : Bool) : Entry Call → Bool
  | .fired owner | .reset owner => decide (owner = cache)
  | .told owner link => decide (owner = cache) && link.isUp != isUp
  | _ => false

/-- The items that make a cache look at its node. -/
def Cache.prompts (cache : Cache) : List Item := cache.items.filter Item.isPrompt

theorem Cache.prompts_of_backlog {before after : Cache}
    (same : after.backlog.map (·.items) = before.backlog.map (·.items)) :
    after.prompts = before.prompts := by
  have items (cache : Cache) : cache.items = (cache.backlog.map (·.items)).getD [] := by
    unfold Cache.items
    cases cache.backlog <;> rfl
  rw [prompts, prompts, items, items, same]

namespace Loop

variable {allowed : Outside S} {before after loop first second third : Loop S}
  {cache owner : CacheId} {isUp : Bool} {prompts more : List Item}

namespace Writes

variable {kind : Entry S.Call → Prop}

/-- What is written all in all is written in the parts. -/
theorem parts (whole : Writes kind first third) (left : Writes (fun _ => True) first second)
    (right : Writes (fun _ => True) second third) :
    Writes kind first second ∧ Writes kind second third := by
  obtain ⟨entries, same, plain⟩ := whole
  obtain ⟨early, journal, -⟩ := left
  obtain ⟨late, journal', -⟩ := right
  rw [journal', journal, ← List.append_assoc] at same
  cases List.append_cancel_right same
  exact ⟨⟨early, journal, fun entry member => plain entry (List.mem_append_right _ member)⟩,
    ⟨late, journal', fun entry member => plain entry (List.mem_append_left _ member)⟩⟩

/-- The one entry that is written is of the kind. -/
theorem one {entry : Entry S.Call} (writes : Writes kind before after)
    (journal : after.journal = entry :: before.journal) : kind entry := by
  obtain ⟨entries, same, plain⟩ := writes
  have whole : [entry] ++ before.journal = entries ++ before.journal := journal.symm.trans same
  exact plain entry (List.append_cancel_right whole ▸ List.mem_singleton_self entry)

theorem whatever (writes : Writes kind first second) : Writes (fun _ => True) first second :=
  writes.mono fun _ _ => trivial

end Writes

/-! ## Prompts -/

/-- The cache is there, its connection is up, or down, and it has these prompts at most. -/
def IsPoised (cache : CacheId) (isUp : Bool) (prompts : List Item) (loop : Loop S) : Prop :=
  ∃ known, loop.caches[cache]? = some known ∧ known.connected = isUp ∧
    known.prompts.Sublist prompts

namespace IsPoised

theorem of_caches (isPoised : IsPoised cache isUp prompts before)
    (caches : after.caches = before.caches) : IsPoised cache isUp prompts after := by
  rwa [IsPoised, caches]

theorem wider (isPoised : IsPoised cache isUp prompts loop) (more : List Item) :
    IsPoised cache isUp (prompts ++ more) loop := by
  obtain ⟨known, found, connected, fewer⟩ := isPoised
  exact ⟨known, found, connected, fewer.trans (List.sublist_append_left prompts more)⟩

theorem modify (isPoised : IsPoised cache isUp prompts loop) (owner : CacheId)
    (change : Cache → Cache)
    (keeps : owner = cache → ∀ known, loop.caches[owner]? = some known →
      (known.connected = isUp → (change known).connected = isUp) ∧
        (change known).prompts.Sublist (known.prompts ++ more)) :
    IsPoised cache isUp (prompts ++ more) (loop.modifyCache owner change) := by
  obtain ⟨known, found, connected, fewer⟩ := isPoised
  by_cases here : owner = cache
  · subst here
    obtain ⟨connected', fewer'⟩ := keeps rfl known found
    exact ⟨change known, modifyCache_self found change, connected' connected,
      fewer'.trans (fewer.append (.refl more))⟩
  · exact ⟨known, (modifyCache_of_ne loop here change).trans found, connected,
      fewer.trans (List.sublist_append_left prompts more)⟩

/-- An item comes into the queue of a cache, of another one perhaps. -/
theorem post (isPoised : IsPoised cache isUp prompts loop) (owner : CacheId) (item : Item)
    (comes : owner = cache → ([item].filter Item.isPrompt).Sublist more) :
    IsPoised cache isUp (prompts ++ more) (loop.post owner item) := by
  unfold Loop.post
  split
  · exact isPoised.wider more
  · next backlog isThere =>
    have put : IsPoised cache isUp (prompts ++ more) (loop.modifyCache owner fun cache =>
        { cache with backlog := some (backlog.put item) }) := by
      refine isPoised.modify owner _ fun here known found => ⟨id, ?_⟩
      have has : known.backlog = some backlog := by rwa [found] at isThere
      rw [Cache.prompts, Cache.prompts, Cache.items, Cache.items, has]
      show ((backlog.items ++ [item]).filter Item.isPrompt).Sublist _
      rw [List.filter_append]
      exact (List.Sublist.refl _).append (comes here)
    dsimp only
    split
    · exact put.of_caches (wake_keeps _ _ _).2.1
    · exact put

end IsPoised

/-- Unless it is disturbed, a cache that is there believes of its connection what it believed, and
gets no more prompts than these. -/
structure Abides (cache : CacheId) (more : List Item) (before after : Loop S) : Prop where
  writes : Writes (fun _ => True) before after
  keeps {isUp : Bool} {prompts : List Item} :
    Writes (fun entry => entry.disturbs cache isUp = false) before after →
      IsPoised cache isUp prompts before → IsPoised cache isUp (prompts ++ more) after

namespace Abides

theorem of_caches (caches : after.caches = before.caches)
    (writes : Writes (fun _ => True) before after) : Abides cache more before after :=
  ⟨writes, fun _ isPoised => (isPoised.of_caches caches).wider more⟩

theorem of_eq (caches : after.caches = before.caches) (journal : after.journal = before.journal) :
    Abides cache more before after := .of_caches caches (.of_eq journal)

theorem refl (loop : Loop S) : Abides cache [] loop loop := .of_eq rfl rfl

theorem note (loop : Loop S) (entry : Entry S.Call) : Abides cache more loop (loop.note entry) :=
  .of_caches rfl (.note loop trivial)

/-- Nothing comes at first. -/
theorem trans (left : Abides cache [] first second) (right : Abides cache more second third) :
    Abides cache more first third := by
  refine ⟨left.writes.trans right.writes, fun undisturbed isPoised => ?_⟩
  obtain ⟨before, after⟩ := undisturbed.parts left.writes right.writes
  have still := left.keeps before isPoised
  rw [List.append_nil] at still
  exact right.keeps after still

/-- Nothing comes afterwards. -/
theorem still (left : Abides cache more first second) (right : Abides cache [] second third) :
    Abides cache more first third := by
  refine ⟨left.writes.trans right.writes, fun undisturbed isPoised => ?_⟩
  obtain ⟨before, after⟩ := undisturbed.parts left.writes right.writes
  have kept := right.keeps after (left.keeps before isPoised)
  rwa [List.append_nil] at kept

theorem modify (loop : Loop S) (owner : CacheId) (change : Cache → Cache)
    (keeps : owner = cache → ∀ known, loop.caches[owner]? = some known →
      (change known).connected = known.connected ∧
        (change known).prompts.Sublist known.prompts) :
    Abides cache more loop (loop.modifyCache owner change) :=
  ⟨.of_eq rfl, fun _ isPoised => isPoised.modify owner change fun here known found =>
    ⟨(keeps here known found).1.trans,
      (keeps here known found).2.trans (List.sublist_append_left _ more)⟩⟩

/-- A change of something about a cache that is neither its connection nor its queue. -/
theorem modify_of_eq (loop : Loop S) (owner : CacheId) (change : Cache → Cache)
    (same : ∀ known, (change known).connected = known.connected ∧
      (change known).backlog = known.backlog) :
    Abides cache more loop (loop.modifyCache owner change) :=
  .modify loop owner change fun _ known _ => ⟨(same known).1, by
    rw [Cache.prompts_of_backlog (congrArg (Option.map (·.items)) (same known).2)]⟩

theorem post (loop : Loop S) (owner : CacheId) (item : Item)
    (comes : owner = cache → ([item].filter Item.isPrompt).Sublist more) :
    Abides cache more loop (loop.post owner item) :=
  ⟨.of_eq (post_keeps loop owner item).2.1, fun _ isPoised => isPoised.post owner item comes⟩

theorem refresh (loop : Loop S) (owner : CacheId)
    (comes : owner = cache → [Item.check].Sublist more) :
    Abides cache more loop (loop.refresh owner) := by
  unfold Loop.refresh
  split
  · exact .post loop owner .check comes
  · exact .of_eq rfl rfl

/-- A cache is to look at its node again on account of something that is written down. -/
theorem disturbed {entry : Entry S.Call} (loop : Loop S) (owner : CacheId)
    (disturbs : owner = cache → ∀ isUp, entry.disturbs cache isUp = true) :
    Abides cache [] loop ((loop.note entry).refresh owner) := by
  by_cases here : owner = cache
  · have journal := (refresh_keeps (loop.note entry) owner).2.1
    refine ⟨.trans (.note loop trivial) (.of_eq journal), fun {isUp _} undisturbed => ?_⟩
    have quiet : entry.disturbs cache isUp = false := undisturbed.one journal
    rw [disturbs here isUp] at quiet
    cases quiet
  · exact .trans (.note loop entry) (.refresh _ owner (absurd · here))

end Abides

/-- Of each kind of prompts there are no more than these besides those that there were. -/
theorem Abides.countP (abides : Abides cache more before after) {known : Cache}
    (found : before.caches[cache]? = some known)
    (undisturbed : Writes (fun entry => entry.disturbs cache known.connected = false) before after)
    {isOfKind : Item → Bool} (arePrompts : ∀ item, isOfKind item = true → item.isPrompt = true) :
    (after.items cache).countP isOfKind ≤
      (before.items cache).countP isOfKind + more.countP isOfKind := by
  have counts (cache : Cache) : cache.prompts.countP isOfKind = cache.items.countP isOfKind := by
    rw [Cache.prompts, List.countP_filter]
    refine List.countP_congr fun item _ => ?_
    rw [Bool.and_eq_true]
    exact ⟨And.left, fun is => ⟨is, arePrompts item is⟩⟩
  obtain ⟨known', found', -, fewer⟩ := abides.keeps undisturbed ⟨known, found, rfl, .refl _⟩
  rw [items_eq found', items_eq found, ← counts, ← counts, ← List.countP_append]
  exact fewer.countP_le

/-! ## Effects of a service -/

/-- A cache that is told of its connection what it believes gets nothing to do. -/
theorem linkChanged_abides (owner : CacheId) (link : Link) (loop : Loop S) :
    Abides cache [] loop (loop.linkChanged owner link) := by
  cases found : loop.caches[owner]? with
  | none =>
    unfold linkChanged
    rw [found]
    exact .refl loop
  | some known =>
    have journal : (loop.linkChanged owner link).journal = .told owner link :: loop.journal := by
      unfold linkChanged
      rw [found]
      dsimp only
      split
      · exact (post_keeps _ owner .resync).2.1
      · rfl
    refine ⟨(linkChanged_writes owner link loop).whatever,
      fun {isUp prompts} undisturbed isPoised => ?_⟩
    have quiet : (Entry.told owner link : Entry S.Call).disturbs cache isUp = false :=
      undisturbed.one journal
    have noted : IsPoised cache isUp prompts (loop.note (.told owner link)) :=
      isPoised.of_caches rfl
    have told : IsPoised cache isUp (prompts ++ []) (loop.believe owner link) := by
      refine noted.modify owner _ fun here known _ => ⟨fun _ => ?_, List.sublist_append_left _ _⟩
      simpa [Entry.disturbs, here] using quiet
    unfold linkChanged
    rw [found]
    dsimp only
    split
    · next isEdge =>
      rw [List.append_nil] at told
      refine told.post owner .resync fun here => ?_
      -- There is no edge for a cache that is told what it believes.
      subst here
      obtain ⟨known', found', rfl, -⟩ := isPoised
      cases found.symm.trans found'
      simp_all [Entry.disturbs]
    · exact told

theorem Ripple.abides (ripple : Ripple before after) : Abides cache [] before after := by
  cases ripple with
  | note entry isShown => exact .note before entry
  | told owner link => exact linkChanged_abides owner link before
  | fired owner => exact .disturbed before owner fun here _ => decide_eq_true here
  | listeners handle habit => exact .of_eq rfl rfl
  | reply task reply => exact .of_eq (by simp) (by simp)
  | cancel task => exact .of_eq (by simp) (by simp)
  | errand point => exact .of_eq rfl rfl

theorem perform_abides (effects : List (Effect S.Call S.Point S.Reply)) (loop : Loop S) :
    Abides cache [] loop (loop.perform effects) := by
  have ripples := perform_ripples effects loop
  generalize loop.perform effects = after at ripples
  induction ripples with
  | refl => exact .refl loop
  | tail _ ripple step => exact step.trans ripple.abides

theorem served_abides (service : S.State) (effects : List (Effect S.Call S.Point S.Reply))
    (loop : Loop S) : Abides cache [] loop ((loop.setService service).perform effects) := by
  have set : Abides cache [] loop (loop.setService service) := .of_eq rfl rfl
  exact set.trans (perform_abides effects _)

/-! ## What others do -/

theorem stopCache_abides (owner : CacheId) (loop : Loop S) :
    Abides cache [] loop (loop.stopCache owner) := by
  unfold stopCache
  split
  · have closed : Abides cache [] loop (loop.modifyCache owner fun cache =>
        { cache with phase := .closed, registrations := [] }) :=
      .modify_of_eq loop owner _ fun _ => ⟨rfl, rfl⟩
    exact closed.trans (.post _ owner .stop fun _ => .refl _)
  · exact .refl loop

/-- What is no part of a cache's own work brings it no prompts unless it is disturbed. -/
theorem Stir.abides (stir : Stir before after) : Abides cache [] before after := by
  cases stir with
  | note entry isShown => exact .note before entry
  | reset owner => exact .disturbed before owner fun here _ => decide_eq_true here
  | register owner change isOnly =>
    refine .modify before owner change fun _ known found => ?_
    obtain ⟨registrations, nextId, changed⟩ := (isOnly known found).1
    rw [changed]
    exact ⟨rfl, .refl _⟩
  | tend owner change isOnly =>
    refine .modify before owner change fun _ known found => ?_
    obtain ⟨pending, worker, backlog, changed, items⟩ := isOnly known found
    have same : (change known).prompts = known.prompts :=
      Cache.prompts_of_backlog (by rw [changed]; exact items)
    rw [same, changed]
    exact ⟨rfl, .refl _⟩
  | happen event =>
    unfold Loop.happen
    split
    · exact .refl before
    · exact served_abides _ _ before
  | connect settings =>
    unfold Loop.connect
    split
    · exact .refl before
    · split
      · exact .refl before
      · exact served_abides _ _ before
  | adopt handle => exact .of_eq rfl rfl
  | shut owner known found => exact (stopCache_abides owner before).trans (.of_eq rfl rfl)
  | create known isNew =>
    refine ⟨.of_eq rfl, fun _ ⟨known', found, kept⟩ => ⟨known', ?_, ?_⟩⟩
    · have isOld : cache < before.caches.length := (List.getElem?_eq_some_iff.mp found).1
      rw [List.getElem?_append_left isOld, found]
    · rwa [List.append_nil]
  | spawn role frame isOwn isOpening => exact .of_eq rfl rfl
  | wake task why isPlain => exact .of_eq (by simp) (by simp)
  | count task => exact .of_eq (by simp) (by simp)
  | hook task hook isPlain => exact .of_eq (by simp) (by simp)
  | aside serial tickets alarms names tokens => exact .of_eq rfl rfl

theorem Stirs.abides (stirs : Stirs before after) : Abides cache [] before after := by
  induction stirs with
  | refl => exact .refl _
  | tail _ stir step => exact step.trans stir.abides

/-! ## A cache's own work -/

theorem setData_abides (owner : CacheId) (data : Snapshot) (isSilent : Bool) (loop : Loop S) :
    Abides cache [] loop (loop.setData owner data isSilent) := by
  have changed : Abides cache [] loop (loop.modifyCache owner fun cache => { cache with data }) :=
    .modify_of_eq loop owner _ fun _ => ⟨rfl, rfl⟩
  exact changed.trans (.note _ _)

theorem install_abides (owner : CacheId) (data : Snapshot) (loop : Loop S) :
    Abides cache [] loop (loop.install owner data) := by
  have set : Abides cache [] loop (loop.setData owner data false) :=
    setData_abides owner data false loop
  have round := notify_bustles owner (loop.setData owner data false)
  unfold install
  dsimp only
  split
  · exact set
  · generalize (loop.setData owner data false).notify owner = after at round
    induction round with
    | refl => exact set
    | tail _ bustle step =>
      cases bustle with
      | stir stir => exact step.trans stir.abides
      | call caller monitor => exact step.trans (.note _ _)

theorem ask_abides (owner : CacheId) (query : Query) (loop : Loop S) :
    Abides cache [] loop (loop.ask owner query) := by
  cases found : loop.caches[owner]? with
  | none =>
    rw [ask_none query found]
    exact .refl loop
  | some known =>
    rw [ask_eq query found]
    have spawned : Abides cache [] loop
        ((loop.note (.asked owner loop.tasks.length (queryRequest owner known query))).spawn
          (.request owner query) (requestFrame known (queryRequest owner known query))) :=
      .trans (.note loop _) (.of_eq rfl rfl)
    have posed : Abides cache [] loop (loop.posed owner query known) :=
      spawned.trans (.modify_of_eq _ owner _ fun _ => ⟨rfl, rfl⟩)
    exact posed.trans (.of_eq (by simp) (by simp))

/-- The labours of a cache bring it no prompts, unless it is to look at its node again. -/
theorem Labour.abides {isDue looks : Prop} (labour : Labour owner isDue looks before after)
    (isOther : looks → owner ≠ cache) : Abides cache [] before after := by
  cases labour with
  | stir stir => exact stir.abides
  | refresh isRight => exact .refresh before owner (absurd · (isOther isRight))
  | asked task known request found isPlain isRight => exact .note before _
  | install known data found isStarted => exact install_abides owner data before
  | rebuild known data found isStarted => exact setData_abides owner data true before
  | look known found isActive => exact ask_abides owner .look before
  | fetch known found isStarted => exact ask_abides owner .fetch before
  | answer known query outcome found isStarted =>
    refine .post before owner _ fun _ => ?_
    cases query <;> exact .refl _
  | begin known found isLatent =>
    have begun : Abides cache [] before (before.modifyCache owner fun known =>
        { known with
          phase := .started, backlog := some {}, worker := some before.tasks.length }) :=
      .modify before owner _ fun _ known _ => ⟨rfl, List.nil_sublist _⟩
    exact begun.trans (.of_eq rfl rfl)

theorem Labours.abides {isDue looks : Prop} (labours : Labours owner isDue looks before after)
    (isOther : looks → owner ≠ cache) : Abides cache [] before after := by
  induction labours with
  | refl => exact .refl _
  | tail _ labour step => exact step.trans (labour.abides isOther)

theorem Prepares.abides {frame : Frame S.Point} {wake : Wake S.Reply}
    (prepares : Prepares frame wake before after) : Abides cache [] before after := by
  cases prepares with
  | nothing => exact .refl before
  | listen isStart isReady found => exact .of_eq rfl rfl
  | @take owner known item rest isWorker found isFirst =>
    refine .modify before owner _ fun _ known' found' => ⟨rfl, ?_⟩
    cases found.symm.trans found'
    obtain ⟨backlog, has, taken⟩ := Option.bind_eq_some_iff.mp isFirst
    rw [Cache.prompts, Cache.prompts, Cache.items, Cache.items, has]
    show (rest.items.filter Item.isPrompt).Sublist (backlog.items.filter Item.isPrompt)
    rw [(Backlog.take?_eq_some taken).1]
    exact (List.sublist_cons_self item rest.items).filter _

/-- A frame that does not go on to look at the node of the cache brings it no prompts. -/
theorem frameTurn_abides (self : TaskId) (frame : Frame S.Point) (wake : Wake S.Reply)
    (loop : Loop S) (isOther : ¬ frame.looksAgain cache) :
    Abides cache [] loop (loop.frameTurn self frame wake).1 := by
  rcases frameTurn_kinds self frame wake loop with
    ⟨point, tickets, alarms, rfl, same⟩ | ⟨owner, middle, -, prepares, labours⟩
  · rw [same]
    have reacted : Abides cache [] loop (loop.react self point wake) := served_abides _ _ loop
    exact reacted.trans (.of_eq rfl rfl)
  · refine prepares.abides.trans (labours.abides fun looks => ?_)
    rintro rfl
    exact isOther looks

/-- A worker that has read the node looks at it once. -/
theorem resynced_abides (owner : CacheId) (outcome : Outcome Snapshot) (loop : Loop S) :
    Abides owner [.check] loop (loop.resynced owner outcome) := by
  have looks (middle : Loop S) (abides : Abides owner [] loop middle) :
      Abides owner [.check] loop (middle.refresh owner) :=
    abides.trans (.refresh middle owner fun _ => .refl _)
  unfold resynced
  split
  · exact .of_eq rfl rfl
  · next known found =>
    split
    · exact .of_eq rfl rfl
    · exact looks _ (.note loop _)
    · refine looks _ ?_
      split
      · exact install_abides owner _ loop
      · exact .refl loop

theorem frameTurn_resyncing_abides (self : TaskId) (owner : CacheId) (wake : Wake S.Reply)
    (loop : Loop S) :
    Abides owner [.check] loop (loop.frameTurn self (.worker owner .resyncing) wake).1 := by
  unfold frameTurn
  dsimp only
  split
  · next known found =>
    have done (middle : Loop S) : Abides owner [] middle (middle.itemDone owner) :=
      (itemDone_stirs middle owner).abides
    cases wake with
    | ended outcome =>
      unfold cacheTurn workerTurn
      dsimp only
      split <;> exact (resynced_abides owner _ loop).still (done _)
    | _ => exact (Abides.of_eq rfl rfl).still (done loop)
  · exact .of_eq rfl rfl

/-! ## Everything that happens -/

theorem afterTurn_abides (task : TaskId) (frame : Frame S.Point) (rest : List (Frame S.Point))
    (turn : Turn S) : Abides cache [] turn.1 (afterTurn task frame rest turn) := by
  have noted : Abides cache [] turn.1 (turn.1.noteEnd task frame turn.2) := by
    unfold noteEnd
    split
    · exact .note _ _
    · exact .refl _
  obtain ⟨-, caches, journal⟩ := move_keeps (turn.1.noteEnd task frame turn.2) task rest turn.2
  exact noted.trans (.of_eq caches journal)

theorem start_abides (job : Job) (loop : Loop S) : Abides cache [] loop (loop.start job) := by
  unfold start
  split
  · split
    · exact .of_eq rfl rfl
    · exact .of_eq rfl rfl
    · exact .of_eq (by simp) (by simp)
    · exact .refl loop
  · next hook task =>
    split
    · next outcome _ =>
      obtain ⟨owner, labours⟩ := runHook_labours hook task outcome loop
      exact labours.abides False.elim
    · exact .refl loop

theorem command_abides (loop : Loop S) (command : Command S) (isMomentary : command.isMomentary) :
    Abides cache [] loop (loop.command command).1 := by
  have order := command_isOrder loop command isMomentary
  generalize (loop.command command).1 = after at order
  cases order with
  | stirs stirs => exact stirs.abides
  | call stirs point => exact stirs.abides.trans (.of_eq rfl rfl)
  | release tickets release _ =>
    have woken (middle : Loop S) (task : TaskId) (abides : Abides cache [] loop middle) :
        Abides cache [] loop (middle.wake task (wakeOf release)) :=
      abides.trans (.of_eq (by simp) (by simp))
    exact releaseAll_keeps loop release woken tickets (.refl loop)
  | install name owner path stat data _ =>
    unfold installFrom
    split
    · exact .refl loop
    · split
      · exact install_abides owner _ loop
      · exact .refl loop

/-- **Nothing makes a cache look at its node that is not written down**, where only its worker goes
on to do so, which looks once when it has read the node. -/
theorem Happens.abides (happens : Happens allowed before after)
    (isOnly : ∀ task wake frame rest, before.IsAt task wake frame rest →
      frame.looksAgain cache → frame = .worker cache .resyncing) :
    Abides cache [] before after ∨
      Abides cache [.check] before after ∧ ∃ worker wake rest,
        before.IsAt worker wake (.worker cache .resyncing) rest ∧
          after = afterTurn worker (.worker cache .resyncing) rest
            (before.inTurn.frameTurn worker (.worker cache .resyncing) wake) := by
  cases happens with
  | step =>
    have step := step_isStep before
    generalize before.step = after at step
    cases step with
    | @turn task wake frame rest isAt =>
      have inTurn : Abides cache [] before before.inTurn := .of_eq rfl rfl
      by_cases looks : frame.looksAgain cache
      · obtain rfl := isOnly task wake frame rest isAt looks
        have turned := frameTurn_resyncing_abides task cache wake before.inTurn
        exact .inr ⟨(inTurn.trans turned).still (afterTurn_abides task _ rest _),
          task, wake, rest, isAt, rfl⟩
      · have turned := frameTurn_abides task frame wake before.inTurn looks
        exact .inl ((inTurn.trans turned).trans (afterTurn_abides task frame rest _))
    | pause turn isOver => exact .inl (.of_eq rfl rfl)
    | @job job ready turn isFirst =>
      have began : Abides cache [] before { before with ready } := .of_eq rfl rfl
      exact .inl (began.trans (start_abides job _))
    | rest turn => exact .inl (.refl _)
  | command command isBetween isMomentary isAllowed =>
    exact .inl (command_abides before command isMomentary)
  | elapse time => exact .inl (.of_eq rfl rfl)
  | ring => exact .inl (.of_eq (ring_keeps before).2.1 (ring_keeps before).2.2.1)
  | decide scripts habits => exact .inl (.of_eq rfl rfl)

end Loop

end WatchedNode
