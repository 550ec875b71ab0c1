/-
**Connection states follow the protocol.**

What a listener is told of the state of a connection is written down (`toldTo`). Only a session that
has a new state of its connection tells its listeners; then each of them is told once, whoever is
added or removed meanwhile (`perform_toldTo`, `turn_tells`), and whatever else happens tells nobody
anything (`Hushes`). So a listener that is registered before a session knows anything, and never
removed, is told exactly the changes of the state, in their order, each a state that can follow the
one before it (`states_follow`).
-/
import Mathlib.Data.List.Destutter
import Mathlib.Data.List.ReduceOption
import WatchedNode.Proofs.Listening
import WatchedNode.Proofs.Watching

namespace WatchedNode

open Relation

variable {S : Service}

/-! ## What is told -/

/-- The state that the entry tells the listener. -/
def Entry.toldTo? {Call : Type} (listener : Subscriber) : Entry Call → Option Link
  | .listener name link => if .named name = listener then some link else none
  | .told cache link => if .cache cache = listener then some link else none
  | _ => none

theorem Entry.toldTo?_of_not_isTelling {Call : Type} {entry : Entry Call}
    (isOther : entry.isTelling = false) (listener : Subscriber) :
    entry.toldTo? listener = none := by
  cases entry with
  | listener name link => cases isOther
  | told cache link => cases isOther
  | _ => rfl

/-- The state that the effect tells the listener. -/
def Effect.toldTo? {Call Point Reply : Type} (listener : Subscriber) :
    Effect Call Point Reply → Option Link
  | .tell _ other link => if other = listener then some link else none
  | _ => none

/-- Only what is told to listeners counts. -/
theorem filterMap_tellings (listener : Subscriber) (effects : List SessionEffect) :
    (tellings effects).filterMap (Effect.toldTo? listener) =
      effects.filterMap (Effect.toldTo? listener) := by
  induction effects with
  | nil => rfl
  | cons effect rest step =>
    cases effect with
    | tell handle other link =>
      rw [List.filterMap_cons, ← step]
      rfl
    | _ => exact step

/-- When all listeners are told the same, each is told it once. -/
theorem toldTo_of_listeners (handle : Handle) (link : Link) (listener : Subscriber)
    {listeners : List Subscriber} (isDistinct : listeners.Nodup) :
    (listeners.map fun other => (.tell handle other link : SessionEffect)).filterMap
      (Effect.toldTo? listener) =
      if listener ∈ listeners then [link] else [] := by
  induction listeners with
  | nil => rfl
  | cons first rest step =>
    obtain ⟨isNew, isDistinct⟩ := List.nodup_cons.mp isDistinct
    rw [List.map_cons, List.filterMap_cons, step isDistinct]
    by_cases here : first = listener
    · subst here
      simp [Effect.toldTo?, isNew]
    · simp [Effect.toldTo?, here, Ne.symm here]

/-- What is known of connections when one session has changed. -/
theorem Sessions.link?_set {state : Sessions} {place : Handle} {session : Session}
    (found : state.sessions[place]? = some session) (store : Store) (after : Session)
    (handle : Handle) :
    link? handle { state with store, sessions := state.sessions.set place after } =
      if handle = place then after.link else link? handle state := by
  unfold link?
  dsimp only
  split
  · next here =>
    rw [here, List.getElem?_set_self (List.getElem?_eq_some_iff.mp found).1, Option.bind_some]
  · next elsewhere => rw [List.getElem?_set_ne (Ne.symm elsewhere)]

namespace Loop

/-- What a listener has been told of the connection's state, the earliest first. -/
def toldTo (listener : Subscriber) (loop : Loop S) : List Link :=
  (loop.journal.filterMap (Entry.toldTo? listener)).reverse

section Telling

variable {loop : Loop S} {listener : Subscriber}

theorem toldTo_eq {before after : Loop S} (journal : after.journal = before.journal)
    (listener : Subscriber) :
    after.toldTo listener = before.toldTo listener := by
  rw [toldTo, toldTo, journal]

theorem toldTo_note (entry : Entry S.Call) (loop : Loop S) :
    (loop.note entry).toldTo listener =
      loop.toldTo listener ++ (entry.toldTo? listener).toList := by
  rw [toldTo, toldTo, note_journal, List.filterMap_cons]
  cases entry.toldTo? listener with
  | none => rw [Option.toList_none, List.append_nil]
  | some link => rw [List.reverse_cons, Option.toList_some]

theorem toldTo_note_of_not_isTelling {entry : Entry S.Call} (isOther : entry.isTelling = false)
    (loop : Loop S) :
    (loop.note entry).toldTo listener = loop.toldTo listener := by
  rw [toldTo_note, Entry.toldTo?_of_not_isTelling isOther, Option.toList_none, List.append_nil]

/-- The listener can be told something: it is no cache that is not there. -/
def CanHear (listener : Subscriber) (loop : Loop S) : Prop :=
  ∀ cache, listener = .cache cache → loop.caches[cache]? ≠ none

theorem linkChanged_toldTo (cache : CacheId) (link : Link)
    (canHear : .cache cache = listener → loop.CanHear listener) :
    (loop.linkChanged cache link).toldTo listener =
      loop.toldTo listener ++ if .cache cache = listener then [link] else [] := by
  unfold linkChanged
  split
  · next missing =>
    rw [if_neg fun here => canHear here cache here.symm missing, List.append_nil]
  · next known found =>
    have noted : (loop.note (.told cache link)).toldTo listener =
        loop.toldTo listener ++ if .cache cache = listener then [link] else [] := by
      rw [toldTo_note, Entry.toldTo?]
      split <;> rfl
    dsimp only
    split
    · exact (toldTo_eq (post_keeps _ cache .resync).2.1 listener).trans noted
    · exact noted

theorem tell_toldTo (handle : Handle) (other : Subscriber) (link : Link)
    (canHear : other = listener → loop.CanHear listener) :
    (loop.tell handle other link).toldTo listener =
      loop.toldTo listener ++ if other = listener then [link] else [] := by
  cases other with
  | cache cache => exact linkChanged_toldTo cache link canHear
  | named name =>
    have noted : (loop.note (.listener name link)).toldTo listener =
        loop.toldTo listener ++ if .named name = listener then [link] else [] := by
      rw [toldTo_note, Entry.toldTo?]
      split <;> rfl
    unfold tell
    dsimp only
    split
    · rw [complain_eq, toldTo_note_of_not_isTelling rfl]
      exact noted
    · exact noted

/-- What one effect tells the listener. -/
theorem effect_toldTo (effect : Effect S.Call S.Point S.Reply)
    (canHear : effect.toldTo? listener ≠ none → loop.CanHear listener) :
    (loop.effect effect).toldTo listener =
      loop.toldTo listener ++ (effect.toldTo? listener).toList := by
  have silent : ∀ {after : Loop S}, after.journal = loop.journal →
      after.toldTo listener = loop.toldTo listener ++ [] :=
    fun journal => (toldTo_eq journal listener).trans (List.append_nil _).symm
  have noted : ∀ {entry : Entry S.Call}, entry.isTelling = false →
      (loop.note entry).toldTo listener = loop.toldTo listener ++ [] :=
    fun isOther => (toldTo_note_of_not_isTelling isOther loop).trans (List.append_nil _).symm
  cases effect with
  | note call => exact noted rfl
  | tell handle other link =>
    rw [Loop.effect, tell_toldTo handle other link fun here => canHear ?_, Effect.toldTo?]
    · split <;> rfl
    · rw [Effect.toldTo?, if_pos here]
      exact Option.some_ne_none link
  | fire watcher key news =>
    cases watcher with
    | cache cache =>
      have journal := (refresh_keeps (loop.note (.fired cache)) cache).2.1
      exact (toldTo_eq journal listener).trans (noted rfl)
    | named name =>
      unfold Loop.effect fire
      dsimp only
      split
      · rw [complain_eq, toldTo_note_of_not_isTelling rfl]
        exact noted rfl
      · exact noted rfl
  | spawn point => exact silent rfl
  | cancel task => exact silent (cancelErrand_keeps loop task).2.2.1
  | release wanted reply => exact silent (release_keeps loop wanted reply).2.2.1
  | complain complaint => exact noted rfl

theorem CanHear.effect (canHear : loop.CanHear listener) (effect : Effect S.Call S.Point S.Reply) :
    (loop.effect effect).CanHear listener :=
  fun cache same => (perform_calm [effect] loop).isThere (canHear cache same)

/-- **What effects tell the listener.** -/
theorem perform_toldTo (effects : List (Effect S.Call S.Point S.Reply))
    (canHear : effects.filterMap (Effect.toldTo? listener) ≠ [] → loop.CanHear listener) :
    (loop.perform effects).toldTo listener =
      loop.toldTo listener ++ effects.filterMap (Effect.toldTo? listener) := by
  induction effects generalizing loop with
  | nil => exact (List.append_nil _).symm
  | cons effect rest step =>
    have first : (loop.effect effect).toldTo listener =
        loop.toldTo listener ++ (effect.toldTo? listener).toList :=
      effect_toldTo effect fun told => canHear ?_
    · have later : (loop.perform (effect :: rest)).toldTo listener =
          (loop.effect effect).toldTo listener ++ rest.filterMap (Effect.toldTo? listener) :=
        step fun told => (canHear ?_).effect effect
      · rw [later, first, List.append_assoc, List.filterMap_cons]
        cases effect.toldTo? listener <;> rfl
      · rw [List.filterMap_cons]
        split
        · exact told
        · exact List.cons_ne_nil _ _
    · obtain ⟨link, tells⟩ := Option.ne_none_iff_exists'.mp told
      rw [List.filterMap_cons, tells]
      exact List.cons_ne_nil _ _

end Telling

/-! ## What tells nobody anything -/

/-- No listener is told anything, and no session has a new state of its connection. -/
structure Hushes (before after : Loop Sessions.service) : Prop where
  told (listener : Subscriber) : after.toldTo listener = before.toldTo listener
  link (handle : Handle) :
    Sessions.link? handle after.service = Sessions.link? handle before.service

namespace Hushes

variable {first second third : Loop Sessions.service}

theorem of_eq (service : second.service = first.service)
    (journal : second.journal = first.journal) :
    Hushes first second := ⟨toldTo_eq journal, fun _ => by rw [service]⟩

theorem trans (left : Hushes first second) (right : Hushes second third) : Hushes first third :=
  ⟨fun listener => (right.told listener).trans (left.told listener),
    fun handle => (right.link handle).trans (left.link handle)⟩

theorem note (entry : Entry Sessions.service.Call) (isOther : entry.isTelling = false)
    (loop : Loop Sessions.service) :
    Hushes loop (loop.note entry) :=
  ⟨fun _ => toldTo_note_of_not_isTelling isOther loop, fun _ => rfl⟩

theorem heeds (heeds : Sessions.service.Heeds first.service second.service)
    (journal : second.journal = first.journal) : Hushes first second :=
  ⟨toldTo_eq journal, (Sessions.Minds.of_heeds heeds).link⟩

end Hushes

variable {before after loop : Loop Sessions.service}

/-- What the service does without telling anybody. -/
theorem serve_hushes {state : Sessions} {effects : List SessionEffect}
    (silent : tellings effects = [])
    (link : ∀ handle, Sessions.link? handle state = Sessions.link? handle loop.service) :
    Hushes loop ((loop.setService state).perform effects) := by
  have untold : ∀ listener, effects.filterMap (Effect.toldTo? listener) = [] := fun listener => by
    rw [← filterMap_tellings, silent, List.filterMap_nil]
  refine ⟨fun listener => ?_, fun handle => ?_⟩
  · have told := @perform_toldTo Sessions.service (loop.setService state) listener effects
      fun told => absurd (untold listener) told
    exact told.trans
      ((congrArg (loop.toldTo listener ++ ·) (untold listener)).trans (List.append_nil _))
  · have performs := perform_performs effects (loop.setService state)
    exact ((Sessions.Minds.of_heeds performs.heeds).link handle).trans (link handle)

theorem happen_hushes (event : SessionEvent) (loop : Loop Sessions.service) :
    Hushes loop (loop.happen event).1 := by
  unfold Loop.happen
  split
  · exact .of_eq rfl rfl
  · next occurrence occurs =>
    refine serve_hushes (Sessions.occur_hears occurs).tellings fun handle => ?_
    by_cases isClose : event = .close
    · subst isClose
      obtain ⟨place, session, -, found, state, -, -⟩ := Sessions.occur_close occurs
      rw [state]
      exact Sessions.link?_close found handle
    · exact (Sessions.Minds.occur isClose occurs).1.link handle

theorem connect_hushes (settings : Value) (loop : Loop Sessions.service) :
    Hushes loop (loop.connect settings).1 := by
  unfold Loop.connect
  split
  · exact .of_eq rfl rfl
  · split
    · exact .of_eq rfl rfl
    · next state effects handle connected =>
      exact serve_hushes (Sessions.connect_hears connected).tellings
        (Sessions.Minds.connect connected).1.link

theorem Stir.hushes (stir : Stir before after) : Hushes before after := by
  cases stir with
  | note entry isShown isOther => exact .note entry isOther before
  | reset cache =>
    obtain ⟨service, journal, -⟩ := refresh_keeps (before.note (.reset cache)) cache
    exact .trans (.note _ rfl before) (.of_eq service journal)
  | happen event => exact happen_hushes event before
  | connect settings => exact connect_hushes settings before
  | adopt handle => exact .heeds (.single (.adopt handle)) rfl
  | shut cache known found =>
    have stopped : (before.stopCache cache).journal = before.journal := by
      unfold stopCache
      split
      · exact (post_keeps _ cache .stop).2.1
      · rfl
    have still : Hushes before (before.stopCache cache) :=
      .of_eq (stopCache_service cache before) stopped
    exact still.trans (.heeds (.single (.unlisten known.handle (.cache cache))) rfl)
  | wake task why isPlain =>
    obtain ⟨service, -, journal, -⟩ := wake_keeps before task why
    exact .of_eq service journal
  | count task =>
    obtain ⟨service, -, journal, -⟩ := countDown_keeps before task
    exact .of_eq service journal
  | hook task hook isPlain =>
    obtain ⟨service, -, journal, -⟩ := addHook_keeps before task hook
    exact .of_eq service journal
  | _ => exact .of_eq rfl rfl

theorem Toil.hushes (toil : Toil before after) : Hushes before after := by
  cases toil with
  | stir stir => exact stir.hushes
  | call cache monitor => exact .note _ rfl before
  | asked cache task request => exact .note _ rfl before
  | setData cache data isSilent =>
    have set : Hushes before (before.modifyCache cache fun cache => { cache with data }) :=
      .of_eq rfl rfl
    exact set.trans (.note (.installed cache data isSilent) rfl _)
  | ask cache query =>
    have writes : Writes (fun entry => entry.isTelling = false) before (before.ask cache query) :=
      ask_writes fun _ _ => rfl
    have service : (before.ask cache query).service = before.service := by
      unfold Loop.ask
      split
      · rfl
      · exact (addHook_keeps _ _ _).1
    refine ⟨fun listener => congrArg List.reverse ?_, fun handle => by rw [service]⟩
    exact writes.filterMap _ fun entry isOther => Entry.toldTo?_of_not_isTelling isOther listener
  | post cache item =>
    obtain ⟨service, journal, -⟩ := post_keeps before cache item
    exact .of_eq service journal
  | refresh cache =>
    obtain ⟨service, journal, -⟩ := refresh_keeps before cache
    exact .of_eq service journal
  | begin cache known found isLatent => exact .of_eq rfl rfl

theorem Toils.hushes (toils : Toils before after) : Hushes before after := by
  induction toils with
  | refl => exact .of_eq rfl rfl
  | tail _ toil step => exact step.trans toil.hushes

theorem Trifles.hushes (trifles : Trifles before after) : Hushes before after := by
  induction trifles with
  | refl => exact .of_eq rfl rfl
  | tail _ trifle step =>
    cases trifle with
    | toil toil => exact step.trans toil.hushes
    | aside service _ journal => exact step.trans (.of_eq service journal)

theorem afterTurn_hushes (task : TaskId) (frame : Frame At) (rest : List (Frame At))
    (turn : Turn Sessions.service) :
    Hushes turn.1 (afterTurn task frame rest turn) := by
  have noted : Hushes turn.1 (turn.1.noteEnd task frame turn.2) := by
    unfold noteEnd
    split
    · exact .note _ rfl _
    · exact .of_eq rfl rfl
  obtain ⟨service, -, journal⟩ := move_keeps (turn.1.noteEnd task frame turn.2) task rest turn.2
  exact noted.trans (.of_eq service journal)

/-- **Unless the service has a turn, whatever happens tells nobody anything.** -/
theorem Happens.hushes {allowed : Outside Sessions.service}
    (happens : Happens allowed before after) :
    Hushes before after ∨ ∃ task wake point rest, before.IsAt task wake (.service point) rest ∧
      after = afterTurn task (.service point) rest (before.inTurn.serviceTurn task point wake) := by
  rcases happens.trifles with trifles | ⟨task, wake, frame, rest, isAt, rfl⟩
  · exact .inl trifles.hushes
  · have ended := afterTurn_hushes task frame rest (before.inTurn.frameTurn task frame wake)
    rcases frameTurn_kinds task frame wake before.inTurn with
      ⟨point, tickets, alarms, rfl, same⟩ | ⟨owner, middle, -, prepares, labours⟩
    · exact .inr ⟨task, wake, point, rest, isAt, rfl⟩
    · have begun : Hushes before before.inTurn := .of_eq rfl rfl
      have prepared : Hushes before.inTurn middle := .heeds prepares.heeds prepares.journal
      exact .inl (((begun.trans prepared).trans labours.toils.hushes).trans ended)

/-! ## What a listener is told -/

/-- The listener is registered with that session, and with no other. -/
structure ListensOnly (handle : Handle) (listener : Subscriber)
    (loop : Loop Sessions.service) : Prop where
  isThere : ∃ session, loop.service.sessions[handle]? = some session ∧ listener ∈ session.listeners
  isSole (other : Handle) (session : Session) : loop.service.sessions[other]? = some session →
    listener ∈ session.listeners → other = handle

variable {allowed : Outside Sessions.service} {store : Store} {isSlow : Bool} {handle : Handle}
  {listener : Subscriber}

/-- What a listener is told when something happens: nothing, and then the state of the connection is
what it was, or the state that it has now, which can follow the one that it had. -/
inductive Tells (handle : Handle) (listener : Subscriber)
    (before after : Loop Sessions.service) : Prop
  | nothing (link : Sessions.link? handle after.service = Sessions.link? handle before.service)
      (told : after.toldTo listener = before.toldTo listener)
  | news {link : Link} (follows : link ∈ Link.successors (Sessions.link? handle before.service))
      (known : Sessions.link? handle after.service = some link)
      (told : after.toldTo listener = before.toldTo listener ++ [link])

theorem Tells.trans_hushes {middle : Loop Sessions.service}
    (tells : Tells handle listener before middle) (hushes : Hushes middle after) :
    Tells handle listener before after := by
  cases tells with
  | nothing link told =>
    exact .nothing ((hushes.link handle).trans link) ((hushes.told listener).trans told)
  | news follows known told =>
    exact .news follows ((hushes.link handle).trans known) ((hushes.told listener).trans told)

/-- **A session that has a new state of its connection tells it to each of its listeners once.** -/
theorem ListensOnly.reacts (listens : loop.ListensOnly handle listener) (task : TaskId) (point : At)
    (wake : Wake Plan) (isDistinct : Sessions.AreDistinct loop.service)
    (canHear : loop.CanHear listener) :
    Tells handle listener loop (loop.react task point wake) := by
  have quiet : ∀ {state : Sessions} {effects : List SessionEffect},
      Hushes loop ((loop.setService state).perform effects) →
        Tells handle listener loop ((loop.setService state).perform effects) :=
    fun hushes => .nothing (hushes.link handle) (hushes.told listener)
  unfold react
  dsimp only
  rcases Sessions.resume_eq (loop.moment task) point wake loop.service with
    ⟨place, here, session, found, rfl, resumed⟩ | ⟨-, outcome, resumed⟩
  · have speaks :=
      Sessions.turn_speaks (loop.moment task) place loop.service.isSlow here wake loop.service.store
      session
    rw [show Sessions.service.resume (loop.moment task) ⟨some place, here⟩ wake loop.service =
      _ from resumed]
    generalize Sessions.turn (loop.moment task) place loop.service.isSlow here wake
      loop.service.store
      session = turn at speaks
    obtain ⟨store, after, effects, verdict⟩ := turn
    dsimp only at speaks ⊢
    have links := Sessions.link?_set found store after
    have linked := Sessions.link?_of_found found
    have known' : ∀ other, Sessions.link? other ((loop.setService { loop.service with
        store, sessions := loop.service.sessions.set place after }).perform effects).service =
          if other = place then after.link else Sessions.link? other loop.service := fun other =>
      ((Sessions.Minds.of_heeds (perform_performs effects (loop.setService _)).heeds).link
        other).trans (links other)
    have told' := @perform_toldTo Sessions.service (loop.setService { loop.service with
      store, sessions := loop.service.sessions.set place after }) listener effects fun _ => canHear
    rcases speaks.tellings with ⟨same, silent⟩ | ⟨link, follows, known, told⟩
    · refine quiet (serve_hushes silent fun other => (links other).trans ?_)
      split
      · next here => rw [here, linked, same]
      · rfl
    · have heard :
          effects.filterMap (Effect.toldTo? listener) = if listener ∈ session.listeners then
            [link] else [] := by
        rw [← filterMap_tellings, told]
        exact toldTo_of_listeners place link listener (isDistinct place session found)
      by_cases here : handle = place
      · subst here
        obtain ⟨session', found', member⟩ := listens.isThere
        cases found.symm.trans found'
        rw [if_pos member] at heard
        refine .news (linked ▸ follows) ((known' handle).trans ((if_pos rfl).trans known))
          (told'.trans ?_)
        exact congrArg (loop.toldTo listener ++ ·) heard
      · have isOther : listener ∉ session.listeners := fun member =>
          here (listens.isSole place session found member).symm
        rw [if_neg isOther] at heard
        refine .nothing ((known' handle).trans (if_neg here)) (told'.trans ?_)
        exact (congrArg (loop.toldTo listener ++ ·) heard).trans (List.append_nil _)
  · rw [show Sessions.service.resume (loop.moment task) point wake loop.service = _ from resumed]
    exact quiet (serve_hushes rfl fun _ => rfl)

theorem ListensOnly.canHear (attuned : before.Attuned)
    (listens : before.ListensOnly handle listener) :
    before.CanHear listener := by
  rintro cache rfl
  obtain ⟨session, found, member⟩ := listens.isThere
  obtain ⟨known, isThere, -⟩ := attuned.own ⟨session, found, rfl, member⟩
  rw [isThere]
  exact Option.some_ne_none known

/-- **What a listener is told is what happens to the state of the connection.** -/
theorem Happens.tells (run : Reaches allowed (unconnected store isSlow) before)
    (happens : Happens allowed before after) (listens : before.ListensOnly handle listener) :
    Tells handle listener before after := by
  rcases happens.hushes with hushes | ⟨task, wake, point, rest, isAt, rfl⟩
  · exact .nothing (hushes.link handle) (hushes.told listener)
  · have canHear : before.CanHear listener := listens.canHear (Reaches.attuned run).2
    have listens' : before.inTurn.ListensOnly handle listener := ⟨listens.isThere, listens.isSole⟩
    have isDistinct : Sessions.AreDistinct before.service := Reaches.areDistinct run
    have reacts := listens'.reacts task point wake isDistinct canHear
    have begun : Tells handle listener before (before.inTurn.react task point wake) := by
      cases reacts with
      | nothing link told => exact .nothing link told
      | news follows known told => exact .news follows known told
    obtain ⟨tickets, alarms, same⟩ := serviceTurn_loop before.inTurn task point wake
    have counted :
        Hushes (before.inTurn.react task point wake)
          (before.inTurn.serviceTurn task point wake).1 := by
      rw [same]
      exact .of_eq rfl rfl
    exact (begun.trans_hushes counted).trans_hushes (afterTurn_hushes task (.service point) rest _)

/-! ## Runs -/

/-- The states of a session's connection that come one after the other, with repetitions removed. -/
def linksOf (handle : Handle) (trail : List (Loop Sessions.service)) : List Link :=
  ((trail.map fun loop => Sessions.link? handle loop.service).destutter (· ≠ ·)).reduceOption

/-- A state that can come next, after what is known of a connection. -/
def CanFollow (known next : Option Link) : Prop := ∃ link ∈ Link.successors known, next = some link

theorem CanFollow.ne {known next : Option Link} (canFollow : CanFollow known next) :
    known ≠ next := by
  rintro rfl
  obtain ⟨link, member, rfl⟩ := canFollow
  cases link <;> simp [Link.successors] at member

/-- **Over a stretch in which it stays registered a listener is told the changes of the state.** -/
theorem told_of_chain {first : Loop Sessions.service}
    (run : Reaches allowed (unconnected store isSlow) first) (trail : List (Loop Sessions.service))
    (chain : List.IsChain (Happens allowed) (first :: trail))
    (listens : ∀ loop ∈ first :: trail, loop.ListensOnly handle listener) :
    ∃ links : List Link,
      (((first :: trail).map fun loop => Sessions.link? handle loop.service).destutter (· ≠ ·)) =
        Sessions.link? handle first.service :: links.map some ∧
      ((first :: trail).getLast (List.cons_ne_nil _ _)).toldTo listener =
        first.toldTo listener ++ links ∧
      List.IsChain CanFollow (Sessions.link? handle first.service :: links.map some) := by
  induction trail generalizing first with
  | nil => exact ⟨[], rfl, (List.append_nil _).symm, .singleton _⟩
  | cons second rest step =>
    obtain ⟨happens, chain⟩ := List.isChain_cons_cons.mp chain
    have tells := happens.tells run (listens first List.mem_cons_self)
    obtain ⟨links, same, told, follow⟩ := step (run.tail happens) chain
      fun loop isLater => listens loop (List.mem_cons_of_mem _ isLater)
    rw [List.getLast_cons_cons, List.map_cons, List.map_cons, List.destutter_cons_cons, told]
    rw [List.map_cons] at same
    cases tells with
    | nothing link told' =>
      rw [link] at same follow
      rw [link, if_neg (not_not_intro rfl), told']
      exact ⟨links, same, rfl, follow⟩
    | @news link follows known told' =>
      rw [known] at same follow
      have canFollow : CanFollow (Sessions.link? handle first.service) (some link) :=
        ⟨link, follows, rfl⟩
      rw [known, if_pos canFollow.ne, told', List.append_assoc]
      exact ⟨link :: links, congrArg (_ :: ·) same, rfl, .cons_cons canFollow follow⟩

theorem later_ne_connected {links : List Link}
    (chain : links.IsChain fun link next => next ∈ Link.successors (some link)) :
    ∀ link ∈ links.tail, link ≠ .connected := by
  cases links with
  | nil => exact fun _ member => absurd member List.not_mem_nil
  | cons first rest =>
    induction rest generalizing first with
    | nil => exact fun _ member => absurd member List.not_mem_nil
    | cons second rest step =>
      obtain ⟨member, chain⟩ := List.isChain_cons_cons.mp chain
      intro link later
      rcases List.mem_cons.mp later with rfl | later
      · rintro rfl
        cases first <;> simp [Link.successors] at member
      · exact step second chain link later

/-- **Connection states follow the protocol.** A listener that is registered with a session before
that knows anything of its connection, and stays registered there and nowhere else, is told exactly
the changes of the state, each once and in their order. The first state is `connected`, `suspended`
or `lost`; a state in which the connection is up is only followed by `suspended` or `lost`;
`suspended` is only followed by `lost` or `reconnected`, and `lost` by `suspended` or `reconnected`;
and only the first one is `connected`. -/
theorem states_follow {first : Loop Sessions.service}
    (run : Reaches allowed (unconnected store isSlow) first)
    (unset : Sessions.link? handle first.service = none) (trail : List (Loop Sessions.service))
    (chain : List.IsChain (Happens allowed) (first :: trail))
    (listens : ∀ loop ∈ first :: trail, loop.ListensOnly handle listener)
    (last : Loop Sessions.service)
    (isLast : (first :: trail).getLast (List.cons_ne_nil _ _) = last) :
    last.toldTo listener = first.toldTo listener ++ linksOf handle (first :: trail) ∧
    (∀ link ∈ (linksOf handle (first :: trail)).head?, link = .connected ∨ link = .suspended ∨
      link = .lost) ∧
    (linksOf handle (first :: trail)).IsChain (fun link next =>
      (link.isUp = true → next = .suspended ∨ next = .lost) ∧
      (link = .suspended → next = .lost ∨ next = .reconnected) ∧
      (link = .lost → next = .suspended ∨ next = .reconnected)) ∧
    ∀ link ∈ (linksOf handle (first :: trail)).tail, link ≠ .connected := by
  subst isLast
  obtain ⟨links, same, told, follow⟩ := told_of_chain run trail chain listens
  rw [unset] at same follow
  have isAll : linksOf handle (first :: trail) = links := by
    rw [linksOf, same]
    simp [List.reduceOption]
  rw [isAll]
  have law : links.IsChain fun link next => next ∈ Link.successors (some link) := by
    have later := (List.isChain_map (R := CanFollow) some).mp follow.tail
    exact later.imp fun link next ⟨_, member, same⟩ => Option.some.inj same ▸ member
  refine ⟨told, fun link isFirst => ?_, law.imp fun link next member => ?_, later_ne_connected law⟩
  · cases links with
    | nil => cases isFirst
    | cons other rest =>
      cases isFirst
      obtain ⟨_, member, same⟩ := (List.isChain_cons_cons.mp follow).1
      cases same
      simpa [Link.successors] using member
  · cases link <;> simp_all [Link.successors, Link.isUp]

/-! ## A failure -/

/-- Somebody listens to a session whose first watch is going to fail. -/
def attended : Loop Sessions.service :=
  commanded [connecting, .occur (SessionEvent.listen "l"),
    .occur (SessionEvent.plan "watch" [.fail (.store .connectionFailed "" .null)])]
      (unconnected {} false)

/-- The states of a number of steps. -/
def strides : Nat → Loop S → List (Loop S)
  | 0, _ => []
  | count + 1, loop => loop :: strides count loop.step

theorem strides_chain (count : Nat) {first loop : Loop S} {allowed : Outside S}
    (happens : Happens allowed first loop) :
    List.IsChain (Happens allowed) (first :: strides count loop) := by
  induction count generalizing first loop with
  | zero => exact .singleton first
  | succ count step => exact .cons_cons happens (step .step)

theorem listensOnly_of_single {listeners : List Subscriber} (member : listener ∈ listeners)
    (isSingle : loop.service.sessions.map (·.listeners) = [listeners]) :
    loop.ListensOnly 0 listener := by
  obtain ⟨session, same, rfl⟩ := List.map_eq_singleton_iff.mp isSingle
  refine ⟨⟨session, by rw [same]; rfl, member⟩, fun other session' found _ => ?_⟩
  rw [same] at found
  exact Nat.lt_one_iff.mp (List.getElem?_eq_some_iff.mp found).1

/-- A look succeeds, and its watch fails. -/
theorem states_follow_failing_watch :
    ((attended :: strides 8 (attended.command looking).1).getLast (List.cons_ne_nil _ _)).toldTo
      (.named "l") =
      [.connected, .suspended] := by
  have next : ∀ (loop : Loop Sessions.service) (command : Command Sessions.service),
      loop.isBetween → command.isMomentary → Happens anything loop (loop.command command).1 :=
    fun loop command isBetween isMomentary => .command command isBetween isMomentary trivial
  have run : Reaches anything (unconnected {} false) attended :=
    .head (next _ connecting rfl rfl)
      (.head (next _ (.occur (SessionEvent.listen "l")) (by decide +kernel) rfl)
      (.single (next _ _ (by decide +kernel) rfl)))
  have chain := strides_chain 8 (next attended looking (by decide +kernel) rfl)
  have isSingle : (attended :: strides 8 (attended.command looking).1).all fun loop =>
      decide (loop.service.sessions.map (·.listeners) = [[.named "l"]]) := by decide +kernel
  have listens : ∀ loop ∈ attended :: strides 8 (attended.command looking).1,
      loop.ListensOnly 0 (.named "l") :=
    fun loop member => listensOnly_of_single List.mem_cons_self
      (of_decide_eq_true (List.all_eq_true.mp isSingle loop member))
  have law := (states_follow run (by decide +kernel) _ chain listens _ rfl).1
  exact law.trans (by decide +kernel)

end Loop

end WatchedNode
