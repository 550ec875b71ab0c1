/-
**Who listens to a connection.**

A cache is put on its session's list of listeners when a start has its directories, and is taken off
it whenever the cache is closed. Nothing else that happens changes whether it is on the list
(`Passes.sways`), so it is exactly if a start had its directories after the cache was last closed
(`isListed_iff`). A start does not look whether its cache has been closed while it waited for the
directories, so a closed cache may go on to listen (`listens_after_closing`).
-/
import WatchedNode.Proofs.Agreement
import WatchedNode.Proofs.Loop.Lull
import WatchedNode.Proofs.Loop.Queue
import WatchedNode.Proofs.Loop.Chores

namespace WatchedNode

open Relation

variable {S : Service} {asks : Prop} {drops : TaskId → Prop}

/-- The service goes on, and the cache neither comes to those who listen nor goes from them. -/
inductive Service.Sways (S : Service) (cache : CacheId) (state : S.State) : S.State → Prop
  | drift {after : S.State} (drift : S.Drift state after) : Sways S cache state after
  | listen (handle : Option Handle) {owner : CacheId} (isOther : owner ≠ cache) :
      Sways S cache state (S.listen handle (.cache owner) state)
  | unlisten (handle : Option Handle) {owner : CacheId} (isOther : owner ≠ cache) :
      Sways S cache state (S.unlisten handle (.cache owner) state)

namespace Loop

/-! ## What happens to the service -/

section Service

variable {before after loop : Loop S} {cache : CacheId}

theorem Grain.sways (grain : Grain asks drops before after) :
    ReflTransGen (S.Sways cache) before.service after.service := by
  cases grain with
  | still service => rw [service]
  | serve drift => exact .single (.drift drift)
  | create | spawn | ask => exact .refl
  | post => rw [(post_keeps _ _ _).1]
  | wake => rw [(wake_keeps _ _ _).1]
  | count => rw [(countDown_keeps _ _).1]
  | cancel => rw [(cancelErrand_keeps _ _).1]
  | hook => rw [(addHook_keeps _ _ _).1]

theorem Grains.sways (grains : Grains asks drops before after) :
    ReflTransGen (S.Sways cache) before.service after.service := by
  induction grains with
  | refl => exact .refl
  | tail _ grain step => exact step.trans grain.sways

/-- What a frame's turn makes of the service, as far as a cache is concerned that may listen to
it. -/
inductive Tunes (cache : CacheId) (loop : Loop S) : Frame S.Point → Wake S.Reply → S.State → Prop
  /-- The start has its directories, and the cache begins to listen. -/
  | listens {buildInitial : Bool} {answer : Answer} {known : Cache}
      (found : loop.caches[cache]? = some known) :
      Tunes cache loop (.start cache buildInitial .ensuring) (.ended (.returned answer))
        (S.listen known.handle (.cache cache) loop.service)
  /-- The cache is closed, and does not listen any more. -/
  | leaves {wake : Wake S.Reply} {known : Cache} (found : loop.caches[cache]? = some known) :
      Tunes cache loop (.close cache false) wake
        (S.unlisten known.handle (.cache cache) loop.service)
  | other {frame : Frame S.Point} {wake : Wake S.Reply} {state : S.State}
      (isNoStart : loop.caches[cache]? = none ∨ ∀ buildInitial answer,
        frame = .start cache buildInitial .ensuring → wake ≠ .ended (.returned answer))
      (isNoClose : loop.caches[cache]? = none ∨ frame ≠ .close cache false)
      (sways : ReflTransGen (S.Sways cache) loop.service state) : Tunes cache loop frame wake state

theorem startTurn_service (self : TaskId) (known : Cache) (buildInitial : Bool) (answer : Answer) :
    (loop.startTurn self cache known buildInitial .ensuring (.ended (.returned answer))).1.service =
      S.listen known.handle (.cache cache) loop.service := by
  cases buildInitial <;> simp [startTurn, callService]

theorem closeTurn_service (self : TaskId) (known : Cache) (wake : Wake S.Reply) :
    (loop.closeTurn self cache known false wake).1.service =
      S.unlisten known.handle (.cache cache) loop.service := by
  unfold closeTurn
  dsimp only
  split
  · simp [stopCache_service]
  · split <;> simp [stopCache_service]

theorem itemDone_service (owner : CacheId) (loop : Loop S) :
    (loop.itemDone owner).service = loop.service := by
  unfold itemDone
  split
  · rfl
  · exact (foldl_keeps (·.service) _ (by simp) _ _).trans (modifyCache_keeps loop owner _).1

/-- **What each frame's turn makes of the service.** -/
theorem frameTurn_tunes (self : TaskId) (frame : Frame S.Point) (wake : Wake S.Reply)
    (loop : Loop S) :
    Tunes cache loop frame wake (loop.frameTurn self frame wake).1.service := by
  by_cases closes : frame = .close cache false
  · subst closes
    cases found : loop.caches[cache]? with
    | none =>
      refine .other (.inl found) (.inl found) ?_
      simp only [frameTurn, found]
      exact .refl
    | some known =>
      simp only [frameTurn, found, cacheTurn]
      rw [closeTurn_service]
      exact .leaves found
  by_cases starts : ∃ buildInitial answer, frame = .start cache buildInitial .ensuring ∧
    wake = .ended (.returned answer)
  · obtain ⟨buildInitial, answer, rfl, rfl⟩ := starts
    cases found : loop.caches[cache]? with
    | none =>
      refine .other (.inl found) (.inl found) ?_
      simp only [frameTurn, found]
      exact .refl
    | some known =>
      simp only [frameTurn, found, cacheTurn]
      rw [startTurn_service]
      exact .listens found
  refine .other (.inr fun buildInitial answer same ended =>
    starts ⟨buildInitial, answer, same, ended⟩) (.inr closes) ?_
  -- Only the turns of other caches' starts and of closing them do anything to the list.
  have others {owner : CacheId} {turn : Loop S} (different : owner ≠ cache) {handle : Option Handle}
      (grains :
        Grains False nobody (loop.setService (S.listen handle (.cache owner) loop.service)) turn) :
      ReflTransGen (S.Sways cache) loop.service turn.service :=
    .head (.listen handle different) grains.sways
  have plays := frameTurn_plays loop self frame wake
  generalize loop.frameTurn self frame wake = turn at plays
  cases plays with
  | plain _ grains => exact grains.sways
  | begins => simp [callService, begin, ReflTransGen.refl]
  | listens found grains => exact others (fun here => starts ⟨_, _, by rw [here], rfl⟩) grains
  | @retires owner known _ outcome found =>
    have same :
        (loop.retire owner known.handle).service =
          S.unlisten known.handle (.cache owner) loop.service := by
      simp [retire, shut, stopCache_service]
    rw [same]
    exact .single (.unlisten _ fun here => closes (by rw [here]))
  | @shuts owner known worker _ found =>
    have same :
        (loop.retire owner known.handle).service =
          S.unlisten known.handle (.cache owner) loop.service := by
      simp [retire, shut, stopCache_service]
    rw [(addHook_keeps _ _ _).1, same]
    exact .single (.unlisten _ fun here => closes (by rw [here]))
  | joins | quits | idles => exact .refl
  | reads => exact .refl
  | works _ _ _ _ grains =>
    rw [itemDone_service]
    exact grains.sways
  | returns _ grains =>
    rw [itemDone_service]
    exact grains.sways

/-- **What happens to the service, as far as a cache is concerned that may listen to it.** -/
theorem Passes.sways (passes : Passes before after) :
    ReflTransGen (S.Sways cache) before.service after.service ∨
      ∃ task wake frame rest, before.IsAt task wake frame rest ∧
        after = afterTurn task frame rest (before.inTurn.frameTurn task frame wake) ∧
          Tunes cache before.inTurn frame wake after.service := by
  cases passes with
  | grains grains => exact .inl grains.sways
  | @turn task wake frame rest turn isAt same plays =>
    refine .inr ⟨task, wake, frame, rest, isAt, by rw [same], ?_⟩
    rw [afterTurn_service, same]
    exact frameTurn_tunes task frame wake before.inTurn
  | pause | stale | run => exact .inl .refl
  | doom => exact .inl (by rw [(finish_keeps _ _ _).1])
  | answer =>
    refine .inl ?_
    unfold answered
    dsimp only
    split
    · rw [(post_keeps _ _ _).1]
      exact .refl
    · exact .refl
  | hook isBetween isFirst isPlain does =>
    rcases does with grains | ⟨waiter, outcome, -, rfl⟩
    · exact .inl grains.sways
    · exact .inl (by rw [(wake_keeps _ _ _).1])

end Service

end Loop

/-! ## The lists of sessions -/

namespace Sessions

/-- Nobody is on a list twice. -/
def AreDistinct (state : Sessions) : Prop :=
  ∀ (handle : Handle) (session : Session), state.sessions[handle]? = some session →
    session.listeners.Nodup

section Distinct

variable {state after : Sessions}

theorem AreDistinct.of_eq (areDistinct : state.AreDistinct)
    (same : after.sessions = state.sessions) :
    after.AreDistinct := by
  unfold AreDistinct
  rwa [same]

theorem AreDistinct.modify (areDistinct : state.AreDistinct) (place : Option Handle)
    {change : Session → Session}
    (keeps : ∀ session, session.listeners.Nodup → (change session).listeners.Nodup) :
    (state.modify place change).AreDistinct := by
  cases place with
  | none => exact areDistinct
  | some place =>
    intro handle session found
    unfold Sessions.modify at found
    dsimp only at found
    by_cases here : place = handle
    · subst here
      rw [List.getElem?_modify_eq] at found
      obtain ⟨old, earlier, rfl⟩ := Option.map_eq_some_iff.mp found
      exact keeps old (areDistinct place old earlier)
    · rw [List.getElem?_modify_ne _ _ here] at found
      exact areDistinct handle session found

theorem listen_nodup (listener : Subscriber) (session : Session)
    (isDistinct : session.listeners.Nodup) :
    (session.listen listener).listeners.Nodup := by
  unfold Session.listen
  split
  · exact isDistinct
  · next isNew =>
    refine List.nodup_append.mpr ⟨isDistinct, List.nodup_singleton _, ?_⟩
    rintro other member _ (_ | ⟨_, ⟨⟩⟩) rfl
    exact isNew (List.contains_iff_mem.mpr member)

theorem unlisten_nodup (listener : Subscriber) (session : Session)
    (isDistinct : session.listeners.Nodup) :
    (session.unlisten listener).listeners.Nodup := isDistinct.erase listener

theorem AreDistinct.append (areDistinct : state.AreDistinct) {session : Session}
    (isNew : session.listeners = []) :
    ({ state with sessions := state.sessions ++ [session] } : Sessions).AreDistinct := by
  intro handle other found
  have member : other ∈ state.sessions ++ [session] := List.mem_of_getElem? found
  rcases List.mem_append.mp member with isOld | isLast
  · obtain ⟨place, found⟩ := List.mem_iff_getElem?.mp isOld
    exact areDistinct place other found
  · cases List.mem_singleton.mp isLast
    rw [isNew]
    exact List.nodup_nil

theorem AreDistinct.connect (areDistinct : state.AreDistinct) {arguments : Table Value}
    {effects : List SessionEffect} {handle : Handle}
    (connected : state.connect arguments = .ok (after, effects, handle)) :
    after.AreDistinct := by
  unfold Sessions.connect at connected
  cases options : SessionOptions.ofArguments arguments with
  | error error => simp [options, bind, Except.bind] at connected
  | ok options' =>
    simp only [options, bind, Except.bind, pure, Except.pure, Except.ok.injEq,
      Prod.mk.injEq] at connected
    obtain ⟨rfl, -, -⟩ := connected
    exact areDistinct.append rfl

theorem AreDistinct.modifyCurrent (areDistinct : state.AreDistinct) {name : String}
    {change : Session → Session} {occurrence : Occurrence Sessions SessionCall At Plan}
    (changed : state.modifyCurrent name change = .ok occurrence)
    (keeps : ∀ session, session.listeners.Nodup → (change session).listeners.Nodup) :
    occurrence.state.AreDistinct := by
  unfold Sessions.modifyCurrent at changed
  split at changed
  · cases changed
    exact areDistinct.modify _ keeps
  · cases changed

theorem AreDistinct.occur (areDistinct : state.AreDistinct) {event : SessionEvent}
    {occurrence : Occurrence Sessions SessionCall At Plan}
    (happened : occur event state = .ok occurrence) :
    occurrence.state.AreDistinct := by
  have ofStore : ∀ key result, (state.changed key result).state.AreDistinct := by
    intro key result
    unfold changed
    split <;> exact areDistinct
  cases event with
  | connect arguments =>
    cases connected : state.connect arguments with
    | error error => simp [Sessions.occur, connected, bind, Except.bind] at happened
    | ok result =>
      obtain ⟨after, effects, handle⟩ := result
      simp only [Sessions.occur, connected, bind, Except.bind, pure, Except.pure,
        Except.ok.injEq] at happened
      subst happened
      exact (areDistinct.connect connected).of_eq rfl
  | close =>
    unfold Sessions.occur at happened
    dsimp only at happened
    split at happened
    · cases happened
    · next session found =>
      cases happened
      cases here : state.current with
      | none => exact areDistinct
      | some place =>
        have isThere : state.sessions[place]? = some session := by rwa [here] at found
        refine areDistinct.modify _ fun _ _ => ?_
        rw [session.close_quiet.listeners]
        exact areDistinct place session isThere
  | listen name => exact areDistinct.modifyCurrent happened (listen_nodup _)
  | unlisten name => exact areDistinct.modifyCurrent happened (unlisten_nodup _)
  | plan method plans =>
    cases happened
    exact areDistinct
  | down isDown isDropping =>
    cases happened
    exact areDistinct
  | write key value =>
    cases happened
    exact ofStore _ _
  | delete key =>
    cases happened
    exact ofStore _ _

theorem AreDistinct.resume (areDistinct : state.AreDistinct) (moment : Moment) (point : At)
    (wake : Wake Plan) :
    (state.resume moment point wake).state.AreDistinct := by
  unfold Sessions.resume
  split
  · next place session _ isThere =>
    have found : state.sessions[place]? = some session := by
      next here => rwa [session?, here] at isThere
    have speaks := turn_speaks moment place state.isSlow point.point wake state.store session
    generalize turn moment place state.isSlow point.point wake state.store session =
      result at speaks
    obtain ⟨store, after, effects, verdict⟩ := result
    intro handle other there
    dsimp only at there speaks
    rcases List.mem_or_eq_of_mem_set (List.mem_of_getElem? there) with isOld | rfl
    · obtain ⟨place, found⟩ := List.mem_iff_getElem?.mp isOld
      exact areDistinct place other found
    · rw [speaks.listeners]
      exact areDistinct place session found
  · exact areDistinct

theorem AreDistinct.sways {cache : CacheId} {state after : service.State}
    (areDistinct : AreDistinct state) (sways : service.Sways cache state after) :
    AreDistinct after := by
  cases sways with
  | listen handle => exact areDistinct.modify handle (listen_nodup _)
  | unlisten handle => exact areDistinct.modify handle (unlisten_nodup _)
  | drift drift =>
    cases drift with
    | resume moment point wake => exact areDistinct.resume moment point wake
    | occur happened => exact areDistinct.occur happened
    | connect connected => exact areDistinct.connect connected
    | adopt => exact areDistinct
    | listen handle => exact areDistinct.modify handle (listen_nodup _)
    | unlisten handle => exact areDistinct.modify handle (unlisten_nodup _)

end Distinct

/-! ## Caches on the lists -/

/-- The cache is on the list of a session. -/
def IsListed (cache : CacheId) (state : Sessions) : Prop :=
  ∃ handle link, state.Hears handle cache link

section Lists

variable {cache : CacheId}

/-- Who is on the list once is off it then. -/
theorem not_hears_unlisten {state : Sessions} (areDistinct : state.AreDistinct) (handle : Handle)
    (link : Option Link) :
    ¬ (state.modify (some handle) (·.unlisten (.cache cache))).Hears handle cache link := by
  rintro ⟨session, found, -, member⟩
  unfold Sessions.modify at found
  dsimp only at found
  rw [List.getElem?_modify_eq] at found
  obtain ⟨old, earlier, rfl⟩ := Option.map_eq_some_iff.mp found
  exact (areDistinct handle old earlier).not_mem_erase member

theorem isListed_of_silent {before after : Sessions} {effects : List SessionEffect}
    (silent : IsSilent before after effects) : after.IsListed cache ↔ before.IsListed cache :=
  exists_congr fun handle => exists_congr fun link => silent.hears handle cache link

/-- What a session tells its listeners leaves them on its list. -/
theorem isListed_of_loud {before after : Sessions} {effects : List SessionEffect} {place : Handle}
    {link : Link} (loud : IsLoud place link before after effects) : after.IsListed cache ↔
      before.IsListed cache := by
  constructor
  · rintro ⟨handle, known, hears⟩
    have hears := (loud.hears handle cache known).mp hears
    split at hears
    · next here =>
      obtain ⟨-, old, heard⟩ := hears
      exact ⟨handle, old, heard⟩
    · exact ⟨handle, known, hears⟩
  · rintro ⟨handle, known, hears⟩
    by_cases here : place = handle
    · subst here
      exact ⟨place, some link,
        (loud.hears place cache _).mpr (by rw [if_pos rfl]; exact ⟨rfl, known, hears⟩)⟩
    · exact ⟨handle, known, (loud.hears handle cache known).mpr (by rwa [if_neg here])⟩

theorem isListed_of_sways {before after : service.State}
    (sways : service.Sways cache before after) :
    IsListed cache after ↔ IsListed cache before := by
  cases sways with
  | listen handle isOther =>
    refine exists_congr fun place => exists_congr fun link =>
      (hears_listen handle _ place cache link before).trans ?_
    exact or_iff_left fun both => isOther both.2.1.symm
  | unlisten handle isOther =>
    refine exists_congr fun place => exists_congr fun link =>
      hears_unlisten_of_ne handle (fun same => isOther ?_) place link before
    cases same
    rfl
  | drift drift =>
    cases drift with
    | resume moment point wake =>
      rcases resume_hears moment point wake before with silent | ⟨place, link, loud⟩
      · exact isListed_of_silent silent
      · exact isListed_of_loud loud
    | occur happened => exact isListed_of_silent (occur_hears happened)
    | connect connected => exact isListed_of_silent (connect_hears connected)
    | adopt => exact .rfl
    | listen handle name =>
      exact exists_congr fun place => exists_congr fun link =>
        hears_listen_named handle name place cache link before
    | unlisten handle name =>
      exact exists_congr fun place => exists_congr fun link =>
        hears_unlisten_of_ne handle Subscriber.noConfusion place link before

end Lists

end Sessions

namespace Loop

open Sessions

/-! ## Histories of listening -/

/-- A cache has begun to listen, or has been taken off the list. -/
inductive Mark
  | listens
  | leaves
  deriving DecidableEq

variable {before after last : Loop Sessions.service} {cache : CacheId}

/-- A start of the cache has its directories, and the cache's session is there. -/
def BeginsToListen (cache : CacheId) (before after : Loop Sessions.service) : Prop :=
  ∃ task buildInitial answer rest known handle session,
    before.IsAt task (.ended (.returned answer)) (.start cache buildInitial .ensuring) rest ∧
      after = afterTurn task (.start cache buildInitial .ensuring) rest
        (before.inTurn.frameTurn task (.start cache buildInitial .ensuring)
          (.ended (.returned answer))) ∧
      before.caches[cache]? = some known ∧ known.handle = some handle ∧
      before.service.sessions[handle]? = some session

/-- The cache is closed, maybe not for the first time. -/
def IsLeft (cache : CacheId) (before after : Loop Sessions.service) : Prop :=
  ∃ task wake rest, before.IsAt task wake (.close cache false) rest ∧
    after =
      afterTurn task (.close cache false) rest
        (before.inTurn.frameTurn task (.close cache false) wake)

/-- What is noted of a cache: when it begins to listen, and when it is closed, the latest first. -/
inductive Records (cache : CacheId) (before after : Loop Sessions.service) (record : List Mark) :
    List Mark → Prop
  | listens (begins : BeginsToListen cache before after) :
      Records cache before after record (.listens :: record)
  | leaves (isLeft : IsLeft cache before after) :
      Records cache before after record (.leaves :: record)
  | keeps (isNoStart : ¬ BeginsToListen cache before after)
      (isNoEnd : ¬ IsLeft cache before after) :
      Records cache before after record record

theorem exists_records (cache : CacheId) (before after : Loop Sessions.service)
    (record : List Mark) :
    ∃ longer, Records cache before after record longer := by
  by_cases begins : BeginsToListen cache before after
  · exact ⟨_, .listens begins⟩
  · by_cases isLeft : IsLeft cache before after
    · exact ⟨_, .leaves isLeft⟩
    · exact ⟨record, .keeps begins isLeft⟩

section Steps

variable {record longer : List Mark}

theorem Passes.areDistinct (passes : Passes before after)
    (areDistinct : AreDistinct before.service) :
    AreDistinct after.service := by
  have several {state : Sessions.service.State}
      (sways : ReflTransGen (Sessions.service.Sways 0) before.service state) :
      AreDistinct state := by
    induction sways with
    | refl => exact areDistinct
    | tail _ sways step => exact step.sways sways
  rcases passes.sways with sways | ⟨task, wake, frame, rest, isAt, same, tunes⟩
  · exact several sways
  · generalize after.service = state at tunes
    cases tunes with
    | listens => exact areDistinct.modify _ (listen_nodup _)
    | leaves => exact areDistinct.modify _ (unlisten_nodup _)
    | other _ _ sways => exact several sways

theorem isListed_of_several {state state' : Sessions.service.State}
    (sways : ReflTransGen (Sessions.service.Sways cache) state state') :
    IsListed cache state' ↔ IsListed cache state := by
  induction sways with
  | refl => exact .rfl
  | tail _ sways step => exact (isListed_of_sways sways).trans step

/-- A cache that begins to listen is on the list. -/
theorem BeginsToListen.isListed (begins : BeginsToListen cache before after) :
    IsListed cache after.service := by
  obtain ⟨task, buildInitial, answer, rest, known, handle, session, isAt, rfl, found, has,
    isThere⟩ := begins
  rw [afterTurn_service]
  have tunes :
      Tunes cache before.inTurn (.start cache buildInitial .ensuring)
        (.ended (.returned answer)) _ :=
    frameTurn_tunes task (.start cache buildInitial .ensuring) (.ended (.returned answer))
      before.inTurn
  generalize (before.inTurn.frameTurn task _ _).1.service = state at tunes
  cases tunes with
  | listens found' =>
    cases found.symm.trans found'
    exact ⟨handle, session.link, (hears_listen _ cache handle cache _ _).mpr
      (.inr ⟨has, rfl, session, isThere, rfl⟩)⟩
  | other isNoStart =>
    rcases isNoStart with isGone | isOther
    · cases found.symm.trans isGone
    · exact absurd rfl (isOther _ _ rfl)

/-- A cache that is closed is not on the list. -/
theorem IsLeft.not_isListed (isLeft : IsLeft cache before after) (attuned : before.Attuned)
    (areDistinct : AreDistinct before.service) : ¬ IsListed cache after.service := by
  obtain ⟨task, wake, rest, isAt, rfl⟩ := isLeft
  rw [afterTurn_service]
  have tunes : Tunes cache before.inTurn (.close cache false) wake _ :=
    frameTurn_tunes task (.close cache false) wake before.inTurn
  generalize (before.inTurn.frameTurn task _ _).1.service = state at tunes
  rintro ⟨handle, link, hears⟩
  cases tunes with
  | leaves found =>
    obtain ⟨known, found', has, -⟩ := attuned.own (hears_of_unlisten hears)
    cases found.symm.trans found'
    rw [has] at hears
    exact not_hears_unlisten areDistinct handle link hears
  | other _ isNoClose sways =>
    obtain ⟨handle, link, heard⟩ := (isListed_of_several sways).mp ⟨handle, link, hears⟩
    obtain ⟨known, found, -⟩ := attuned.own heard
    rcases isNoClose with isGone | isOther
    · cases found.symm.trans isGone
    · exact isOther rfl

/-- Nothing else that happens puts a cache on the list, or takes it off. -/
theorem Passes.isListed (passes : Passes before after)
    (isNoStart : ¬ BeginsToListen cache before after) (isNoEnd : ¬ IsLeft cache before after) :
    IsListed cache after.service ↔ IsListed cache before.service := by
  rcases passes.sways with sways | ⟨task, wake, frame, rest, isAt, same, tunes⟩
  · exact isListed_of_several sways
  · generalize result : after.service = state at tunes
    cases tunes with
    | other _ _ sways => exact isListed_of_several sways
    | leaves => exact absurd ⟨task, wake, rest, isAt, same⟩ isNoEnd
    | @listens buildInitial answer known found =>
      refine exists_congr fun handle => exists_congr fun link =>
        (hears_listen _ cache handle cache link _).trans ?_
      refine or_iff_left ?_
      rintro ⟨has, -, session, isThere, -⟩
      exact isNoStart ⟨task, buildInitial, answer, rest, known, handle, session, isAt, same, found,
        has, isThere⟩

end Steps

/-! ## Runs -/

section Runs

variable {allowed : Outside Sessions.service} {store : Store} {isSlow : Bool} {record : List Mark}

theorem Reaches.areDistinct (run : Reaches allowed (unconnected store isSlow) last) :
    AreDistinct last.service :=
  run.keeps (fun handle session found => by simp [unconnected, fresh] at found)
    fun _ _ happens areDistinct => happens.passes.areDistinct areDistinct

/-- **When a cache is on the list of listeners**: exactly if the latest in its history is that it
has begun to listen, and not that it was closed. A closed cache has been closed in its history, so
it is on the list only if a start had its directories after that. -/
theorem isListed_iff
    (recounts : Recounts allowed ({ store, isSlow } : Sessions) (Records cache) [] last record) :
    (IsListed cache last.service ↔ record.head? = some .listens) ∧
      ∀ known, last.caches[cache]? = some known → known.phase = .closed → .leaves ∈ record := by
  induction recounts with
  | start =>
    refine ⟨iff_of_false ?_ (by simp), fun known found => by cases found⟩
    rintro ⟨handle, link, session, found, -⟩
    cases found
  | @next before after record longer earlier happens noted step =>
    have run : Reaches allowed (unconnected store isSlow) before := earlier.run
    refine ⟨?_, fun known found isClosed => ?_⟩
    · cases noted with
      | listens begins => exact iff_of_true begins.isListed rfl
      | leaves isLeft =>
        exact iff_of_false
          (isLeft.not_isListed (Reaches.attuned run).2 (Reaches.areDistinct run)) (by simp)
      | keeps isNoStart isNoEnd => exact (happens.passes.isListed isNoStart isNoEnd).trans step.1
    · have matures := (happens.passes.fares cache).matures (duty?_of_found found)
      rw [show known.duty.phase = .closed from isClosed] at matures
      generalize phase : Phase.closed = now at matures
      cases matures with
      | comes => cases phase
      | begins => cases phase
      | @stays duty was =>
        obtain ⟨known', found', rfl⟩ := Option.map_eq_some_iff.mp was
        have member := step.2 known' found' phase.symm
        cases noted with
        | keeps => exact member
        | listens | leaves => exact List.mem_cons_of_mem _ member
      | closes was ran isAt same =>
        cases noted with
        | leaves => exact List.mem_cons_self
        | keeps _ isNoEnd => exact absurd ⟨_, _, _, isAt, same⟩ isNoEnd
        | listens begins =>
          obtain ⟨task, buildInitial, answer, rest, -, -, -, isAt', -⟩ := begins
          cases isAt.turn.symm.trans isAt'.turn
          cases isAt.frames.symm.trans isAt'.frames

/-- A cache is closed while its start waits for the directories, and then they are there. -/
def closingSoon : List (Command Sessions.service) :=
  [connecting, .occur (SessionEvent.plan "read" [.hold]), .make "c" (.text "/a/b") (.bool false),
    .start "c" (.bool false), .close "c", .release [1] (.reply Plan.serve)]

theorem closingSoon_reaches :
    Reaches anything (unconnected {} false) (enact 60 closingSoon (unconnected {} false)) :=
  enact_reaches 60 closingSoon _ (by simp [anything]) (by decide +kernel)

/-- The latest in the history of that cache is that it has begun to listen. -/
theorem closingSoon_listens :
    ∃ record, Recounts anything ({ store := {}, isSlow := false } : Sessions) (Records 0) []
    (enact 60 closingSoon (unconnected {} false)) record ∧ record.head? = some .listens ∧
      .leaves ∈ record := by
  obtain ⟨record, recounts⟩ :
    ∃ record, Recounts anything ({ store := {}, isSlow := false } : Sessions) (Records 0) []
      (enact 60 closingSoon (unconnected {} false)) record :=
    closingSoon_reaches.recounts fun before after record _ _ => exists_records 0 before after record
  have listed :
      ((enact 60 closingSoon (unconnected {} false)).service.sessions[0]?).map (·.listeners) =
      some [.cache 0] := by decide +kernel
  have isClosed : ((enact 60 closingSoon (unconnected {} false)).caches[0]?).map (·.phase) =
      some .closed := by
    decide +kernel
  obtain ⟨session, found, listeners⟩ := Option.map_eq_some_iff.mp listed
  obtain ⟨known, isThere, phase⟩ := Option.map_eq_some_iff.mp isClosed
  obtain ⟨same, leaves⟩ := isListed_iff recounts
  refine ⟨record, recounts, same.mp ⟨0, session.link, session, found, rfl, ?_⟩,
    leaves known isThere phase⟩
  rw [listeners]
  exact List.mem_singleton_self _

/-- **A cache that has been closed is on the list of listeners**, and neither its start nor closing
it is under way any more. -/
theorem listens_after_closing :
    Reaches anything (unconnected {} false) (enact 60 closingSoon (unconnected {} false)) ∧
      (enact 60 closingSoon (unconnected {} false)).isIdle ∧
      (enact 60 closingSoon (unconnected {} false)).tasks.all (·.frames.isEmpty) ∧
      ((enact 60 closingSoon (unconnected {} false)).caches[0]?).map
        (fun known => (known.phase, known.handle)) =
        some (.closed, some 0) ∧
      ((enact 60 closingSoon (unconnected {} false)).service.sessions[0]?).map (·.listeners) =
        some [.cache 0] := by
  refine ⟨closingSoon_reaches, ?_, ?_, ?_, ?_⟩
  all_goals decide +kernel

end Runs

end Loop

end WatchedNode
