/-
**Caches and their sessions agree on the connection, from when they were told.**

A cache listens to its own session only, and only once it has been started. What it was last told is
the state of the session's connection, unless it was told nothing at all (`Attuned`). So a cache
that was told something believes what its session knows (`agrees_iff`); one that started to listen
while the connection was down believes that it is up, until the state changes.
-/
import WatchedNode.Proofs.Belief
import WatchedNode.Proofs.Store.Speech

namespace WatchedNode

open Relation

namespace Sessions

/-- A cache listens to a session that knows this of its connection. -/
def Hears (handle : Handle) (cache : CacheId) (link : Option Link) (state : Sessions) : Prop :=
  ∃ session, state.sessions[handle]? = some session ∧ session.link = link ∧
    .cache cache ∈ session.listeners

theorem Hears.link_eq {handle : Handle} {cache other : CacheId} {first second : Option Link}
    {state : Sessions} (left : state.Hears handle cache first)
    (right : state.Hears handle other second) : first = second := by
  obtain ⟨session, found, rfl, -⟩ := left
  obtain ⟨session', found', rfl, -⟩ := right
  cases found.symm.trans found'
  rfl

/-- A change of one session, as far as caches that listen are concerned. -/
theorem hears_modify (place : Option Handle) {change : Session → Session}
    (link : ∀ session, (change session).link = session.link) {cache : CacheId}
    (same : ∀ session : Session,
      Subscriber.cache cache ∈ (change session).listeners ↔ .cache cache ∈ session.listeners)
    (handle : Handle) (known : Option Link) (state : Sessions) :
    (state.modify place change).Hears handle cache known ↔ state.Hears handle cache known := by
  cases place with
  | none => rfl
  | some place =>
    by_cases here : place = handle
    · subst here
      unfold Hears modify
      dsimp only
      rw [List.getElem?_modify_eq]
      cases state.sessions[place]? <;> simp [link, same]
    · unfold Hears modify
      dsimp only
      rw [List.getElem?_modify_ne _ _ here]

theorem mem_listen {listener other : Subscriber} (session : Session) :
    other ∈ (session.listen listener).listeners ↔ other ∈ session.listeners ∨ other = listener := by
  unfold Session.listen
  split
  · next known =>
    have member : listener ∈ session.listeners := List.contains_iff_mem.mp known
    constructor
    · exact .inl
    · rintro (isOld | rfl)
      · exact isOld
      · exact member
  · simp

theorem listen_link (listener : Subscriber) (session : Session) :
    (session.listen listener).link = session.link := by
  unfold Session.listen
  split <;> rfl

theorem unlisten_link (listener : Subscriber) (session : Session) :
    (session.unlisten listener).link = session.link := rfl

theorem hears_listen_named (place : Option Handle) (name : String) (handle : Handle)
    (cache : CacheId) (link : Option Link) (state : Sessions) :
    (state.modify place (·.listen (.named name))).Hears handle cache link ↔
      state.Hears handle cache link :=
  hears_modify place (listen_link _) (fun session => by simp [mem_listen]) handle link state

theorem hears_unlisten_of_ne (place : Option Handle) {listener : Subscriber} {cache : CacheId}
    (different : Subscriber.cache cache ≠ listener) (handle : Handle) (link : Option Link)
    (state : Sessions) :
    (state.modify place (·.unlisten listener)).Hears handle cache link ↔
      state.Hears handle cache link :=
  hears_modify place (unlisten_link listener)
    (fun session => by simp [Session.unlisten, List.mem_erase_of_ne different]) handle link state

/-- A cache that starts to listen to a session. -/
theorem hears_listen (place : Option Handle) (cache : CacheId) (handle : Handle) (other : CacheId)
    (link : Option Link) (state : Sessions) :
    (state.modify place (·.listen (.cache cache))).Hears handle other link ↔
      state.Hears handle other link ∨ place = some handle ∧ other = cache ∧
        ∃ session, state.sessions[handle]? = some session ∧ session.link = link := by
  cases place with
  | none => simp [modify]
  | some place =>
    unfold Hears modify
    dsimp only
    by_cases here : place = handle
    · subst here
      rw [List.getElem?_modify_eq]
      cases state.sessions[place]? with
      | none => simp
      | some session =>
        simp [listen_link, mem_listen, and_or_left, and_comm]
    · rw [List.getElem?_modify_ne _ _ here]
      simp [here]

/-- A session that is not listened to any more. -/
theorem hears_of_unlisten {place : Option Handle} {listener : Subscriber} {handle : Handle}
    {cache : CacheId} {link : Option Link} {state : Sessions}
    (hears : (state.modify place (·.unlisten listener)).Hears handle cache link) :
    state.Hears handle cache link := by
  cases place with
  | none => exact hears
  | some place =>
    obtain ⟨session, found, rfl, member⟩ := hears
    unfold modify at found
    dsimp only at found
    by_cases here : place = handle
    · subst here
      rw [List.getElem?_modify_eq] at found
      obtain ⟨old, earlier, rfl⟩ := Option.map_eq_some_iff.mp found
      exact ⟨old, earlier, rfl, List.mem_of_mem_erase member⟩
    · rw [List.getElem?_modify_ne _ _ here] at found
      exact ⟨session, found, rfl, member⟩

/-- A new session has no listeners. -/
theorem hears_append {session : Session} (isNew : session.listeners = []) (handle : Handle)
    (cache : CacheId) (link : Option Link) (state : Sessions) :
    Hears handle cache link { state with sessions := state.sessions ++ [session] } ↔
      state.Hears handle cache link := by
  unfold Hears
  dsimp only
  by_cases isOld : handle < state.sessions.length
  · rw [List.getElem?_append_left isOld]
  · have isLate : state.sessions.length ≤ handle := Nat.le_of_not_lt isOld
    rw [List.getElem?_append_right isLate, List.getElem?_eq_none_iff.mpr isLate]
    constructor
    · rintro ⟨other, found, -, member⟩
      rw [List.mem_singleton.mp (List.mem_of_getElem? found), isNew] at member
      cases member
    · rintro ⟨other, found, -⟩
      cases found

/-- What a turn of a session changes for the caches that listen: nothing, or the state of the
connection. -/
theorem hears_set {place : Handle} {session after : Session} {state : Sessions}
    (found : state.sessions[place]? = some session)
    (listeners : after.listeners = session.listeners) (handle : Handle) (cache : CacheId)
    (link : Option Link) :
    Hears handle cache link { state with sessions := state.sessions.set place after } ↔
      if place = handle then after.link = link ∧ .cache cache ∈ session.listeners
      else state.Hears handle cache link := by
  unfold Hears
  dsimp only
  by_cases here : place = handle
  · subst here
    have isThere : place < state.sessions.length := (List.getElem?_eq_some_iff.mp found).1
    rw [if_pos rfl, List.getElem?_set_self isThere]
    constructor
    · rintro ⟨other, same, rfl, member⟩
      cases same
      exact ⟨rfl, listeners ▸ member⟩
    · rintro ⟨rfl, member⟩
      exact ⟨after, rfl, rfl, listeners ▸ member⟩
  · rw [if_neg here, List.getElem?_set_ne here]

/-! ## What is told -/

theorem told?_of_not_isTelling {effect : SessionEffect} (isOther : effect.isTelling = false)
    (cache : CacheId) : effect.told? cache = none := by
  cases effect with
  | tell handle listener link => cases isOther
  | _ => rfl

/-- Only what is told to listeners counts. -/
theorem foldl_tellings (cache : CacheId) (effects : List SessionEffect) (told : Option Link) :
    effects.foldl (fun told effect => (effect.told? cache).or told) told =
      (tellings effects).foldl (fun told effect => (effect.told? cache).or told) told := by
  induction effects generalizing told with
  | nil => rfl
  | cons effect rest step =>
    rw [List.foldl_cons, step]
    by_cases isTelling : effect.isTelling
    · simp [tellings, isTelling]
    · rw [Bool.not_eq_true] at isTelling
      rw [tellings_cons_of_not isTelling, told?_of_not_isTelling isTelling, Option.none_or]

/-- What a cache was last told when all listeners have been told the same. -/
theorem foldl_listeners (handle : Handle) (cache : CacheId) (link : Link)
    (listeners : List Subscriber) (told : Option Link) :
    (listeners.map fun listener => (.tell handle listener link : SessionEffect)).foldl
        (fun told effect => (effect.told? cache).or told) told =
      if .cache cache ∈ listeners then some link else told := by
  induction listeners generalizing told with
  | nil => rfl
  | cons listener rest step =>
    rw [List.map_cons, List.foldl_cons, step]
    by_cases later : .cache cache ∈ rest
    · rw [if_pos later, if_pos (List.mem_cons_of_mem _ later)]
    · rw [if_neg later]
      cases listener with
      | named name => simp [Effect.told?, later]
      | cache owner =>
        by_cases same : owner = cache
        · simp [Effect.told?, same]
        · simp [Effect.told?, same, Ne.symm same, later]

/-! ## What the service does -/

/-- The service tells nobody anything, and the listeners stay as they are. -/
structure IsSilent (before after : Sessions) (effects : List SessionEffect) : Prop where
  hears (handle : Handle) (cache : CacheId) (link : Option Link) :
    after.Hears handle cache link ↔ before.Hears handle cache link
  tellings : tellings effects = []

/-- One session has a new state of its connection, and tells it to its listeners. -/
structure IsLoud (place : Handle) (link : Link) (before after : Sessions)
    (effects : List SessionEffect) : Prop where
  hears (handle : Handle) (cache : CacheId) (known : Option Link) :
    after.Hears handle cache known ↔
      if place = handle then known = some link ∧ ∃ old, before.Hears handle cache old
      else before.Hears handle cache known
  told {cache : CacheId} {old : Option Link} (hears : before.Hears place cache old)
    (told : Option Link) :
    effects.foldl (fun told effect => (effect.told? cache).or told) told = some link
  spared {cache : CacheId} (deaf : ∀ old, ¬ before.Hears place cache old) (told : Option Link) :
    effects.foldl (fun told effect => (effect.told? cache).or told) told = told

theorem IsSilent.told {before after : Sessions} {effects : List SessionEffect}
    (silent : IsSilent before after effects) (cache : CacheId) (told : Option Link) :
    effects.foldl (fun told effect => (effect.told? cache).or told) told = told := by
  rw [foldl_tellings, silent.tellings]
  rfl

theorem resume_hears (moment : Moment) (point : At) (wake : Wake Plan) (state : Sessions) :
    IsSilent state (state.resume moment point wake).state (state.resume moment point wake).effects ∨
      ∃ place link, IsLoud place link state (state.resume moment point wake).state
        (state.resume moment point wake).effects := by
  unfold resume
  split
  · next place session _ isThere =>
    have found : state.sessions[place]? = some session := by
      next here => rwa [session?, here] at isThere
    have speaks := turn_speaks moment place state.isSlow point.point wake state.store session
    generalize turn moment place state.isSlow point.point wake state.store session =
      result at speaks
    obtain ⟨store, after, effects, verdict⟩ := result
    dsimp only at speaks ⊢
    have set := hears_set found speaks.listeners
    have heard : ∀ cache known, state.Hears place cache known ↔
        session.link = known ∧ .cache cache ∈ session.listeners := by
      intro cache known
      constructor
      · rintro ⟨other, same, link, member⟩
        cases found.symm.trans same
        exact ⟨link, member⟩
      · rintro ⟨link, member⟩
        exact ⟨session, found, link, member⟩
    rcases speaks.tellings with ⟨link, silent⟩ | ⟨link, -, new, told⟩
    · refine .inl ⟨fun handle cache known => (set handle cache known).trans ?_, silent⟩
      split
      · next here =>
        subst here
        rw [heard, link]
      · rfl
    · refine .inr ⟨place, link, fun handle cache known => (set handle cache known).trans ?_, ?_, ?_⟩
      · split
        · next here =>
          subst here
          simp [heard, new, eq_comm]
        · rfl
      · intro cache old hears told?
        rw [foldl_tellings, told, foldl_listeners, if_pos ((heard cache old).mp hears).2]
      · intro cache deaf told?
        have isOther : .cache cache ∉ session.listeners := fun member =>
          deaf session.link ((heard cache session.link).mpr ⟨rfl, member⟩)
        rw [foldl_tellings, told, foldl_listeners, if_neg isOther]
  · exact .inl ⟨fun _ _ _ => .rfl, rfl⟩

theorem IsSilent.of_eq {before after : Sessions} {effects : List SessionEffect}
    (same : after.sessions = before.sessions) (silent : WatchedNode.tellings effects = []) :
    IsSilent before after effects :=
  ⟨fun handle cache link => by unfold Hears; rw [same], silent⟩

theorem connect_hears {arguments : Table Value} {state after : Sessions}
    {effects : List SessionEffect} {handle : Handle}
    (connected : state.connect arguments = .ok (after, effects, handle)) :
    IsSilent state after effects := by
  unfold connect at connected
  cases options : SessionOptions.ofArguments arguments with
  | error error => simp [options, bind, Except.bind] at connected
  | ok options' =>
    simp only [options, bind, Except.bind, pure, Except.pure, Except.ok.injEq, Prod.mk.injEq]
      at connected
    obtain ⟨rfl, rfl, -⟩ := connected
    exact ⟨fun place cache link => hears_append rfl place cache link state, rfl⟩

theorem hears_close {session : Session} {state : Sessions}
    (found : state.session? state.current = some session) :
    IsSilent state (state.modify state.current fun _ => session.close.1.1) session.close.1.2 := by
  refine ⟨fun handle cache link => ?_, session.close_quiet.tellings⟩
  cases here : state.current with
  | none => rfl
  | some place =>
    have isThere : state.sessions[place]? = some session := by rwa [here] at found
    by_cases same : place = handle
    · subst same
      unfold Hears modify
      simp only [List.getElem?_modify_eq, isThere, Option.map_eq_map, Option.map_some,
        Option.some.injEq,
        exists_eq_left', session.close_quiet.link, session.close_quiet.listeners]
    · unfold Hears modify
      simp only [List.getElem?_modify_ne _ _ same]

theorem modifyCurrent_hears {name : String} {change : Session → Session} {state : Sessions}
    {occurrence : Occurrence Sessions SessionCall At Plan}
    (changed : state.modifyCurrent name change = .ok occurrence)
    (link : ∀ session, (change session).link = session.link)
    (same : ∀ cache (session : Session),
      Subscriber.cache cache ∈ (change session).listeners ↔ .cache cache ∈ session.listeners) :
    IsSilent state occurrence.state occurrence.effects := by
  unfold modifyCurrent at changed
  split at changed
  · cases changed
    exact ⟨fun handle cache known => hears_modify _ link (same cache) handle known state, rfl⟩
  · cases changed

/-- What happens at the service from outside tells no cache anything. -/
theorem occur_hears {event : SessionEvent} {state : Sessions}
    {occurrence : Occurrence Sessions SessionCall At Plan}
    (happened : occur event state = .ok occurrence) :
    IsSilent state occurrence.state occurrence.effects := by
  have ofStore : ∀ key result, IsSilent state (state.changed key result).state
      (state.changed key result).effects := by
    intro key result
    unfold changed
    split <;> exact .of_eq rfl rfl
  cases event with
  | connect arguments =>
    cases connected : state.connect arguments with
    | error error => simp [occur, connected, bind, Except.bind] at happened
    | ok result =>
      obtain ⟨after, effects, handle⟩ := result
      simp only [occur, connected, bind, Except.bind, pure, Except.pure, Except.ok.injEq]
        at happened
      subst happened
      exact ⟨(connect_hears connected).hears, (connect_hears connected).tellings⟩
  | close =>
    unfold occur at happened
    dsimp only at happened
    split at happened
    · cases happened
    · next session found =>
      cases happened
      exact hears_close found
  | listen name =>
    exact modifyCurrent_hears happened (listen_link _) fun _ _ => by simp [mem_listen]
  | unlisten name =>
    refine modifyCurrent_hears happened (unlisten_link _) fun cache session => ?_
    exact List.mem_erase_of_ne Subscriber.noConfusion
  | plan method plans =>
    cases happened
    exact .of_eq rfl rfl
  | down isDown isDropping =>
    cases happened
    refine .of_eq rfl ?_
    cases isDropping <;> rfl
  | write key value =>
    cases happened
    exact ofStore _ _
  | delete key =>
    cases happened
    exact ofStore _ _

end Sessions

namespace Loop

open Sessions

/-! ## Effects -/

theorem changeListeners_hears (place : Handle) (habit : Habit) (loop : Loop Sessions.service)
    (handle : Handle) (cache : CacheId) (link : Option Link) :
    Hears handle cache link (loop.changeListeners place habit).service ↔
      Hears handle cache link loop.service := by
  have added : ∀ (names : List String) (state : Sessions),
      Hears handle cache link (names.foldl (fun state name =>
        state.modify (some place) (·.listen (.named name))) state) ↔
      Hears handle cache link state := by
    intro names
    induction names with
    | nil => exact fun _ => .rfl
    | cons name rest step =>
      exact fun state =>
        (step _).trans (hears_listen_named (some place) name handle cache link state)
  have removed : ∀ (names : List String) (state : Sessions),
      Hears handle cache link (names.foldl (fun state name =>
        state.modify (some place) (·.unlisten (.named name))) state) ↔
      Hears handle cache link state := by
    intro names
    induction names with
    | nil => exact fun _ => .rfl
    | cons name rest step =>
      exact fun state => (step _).trans
        (hears_unlisten_of_ne (some place) Subscriber.noConfusion handle link state)
  exact (removed habit.removes _).trans (added habit.adds loop.service)

theorem Ripple.hears {before after : Loop Sessions.service} (ripple : Ripple before after)
    (handle : Handle) (cache : CacheId) (link : Option Link) :
    Hears handle cache link after.service ↔ Hears handle cache link before.service := by
  have same : after.service = before.service →
      (Hears handle cache link after.service ↔ Hears handle cache link before.service) :=
    fun same =>
    by rw [same]
  cases ripple with
  | note entry isShown => exact same rfl
  | told owner state => exact same (linkChanged_keeps before owner state).1
  | fired owner => exact same (refresh_keeps (before.note (.fired owner)) owner).1
  | listeners place habit => exact changeListeners_hears place habit before handle cache link
  | reply task reply => exact same (wake_keeps _ _ _).1
  | cancel task => exact same (cancelErrand_keeps _ _).1
  | errand point => exact same rfl

/-- The effects of a service leave to each cache what it listens to. -/
theorem perform_hears (effects : List SessionEffect) (loop : Loop Sessions.service)
    (handle : Handle) (cache : CacheId) (link : Option Link) :
    Hears handle cache link (loop.perform effects).service ↔
      Hears handle cache link loop.service := by
  have ripples := perform_ripples effects loop
  generalize loop.perform effects = after at ripples
  induction ripples with
  | refl => rfl
  | tail _ ripple step => exact (ripple.hears handle cache link).trans step

/-! ## Agreement -/

/-- What caches were told is what their sessions know. -/
structure Attuned (loop : Loop Sessions.service) : Prop where
  /-- A cache listens to its own session, after it has been started. -/
  own {handle : Handle} {cache : CacheId} {link : Option Link} :
    Hears handle cache link loop.service →
      ∃ known, loop.caches[cache]? = some known ∧ known.handle = some handle ∧
        known.phase ≠ .latent
  told {handle : Handle} {cache : CacheId} {link : Option Link} {known : Cache} :
    Hears handle cache link loop.service → loop.caches[cache]? = some known →
      known.phase = .started → loop.lastTold cache = none ∨ loop.lastTold cache = link
  untold {cache : CacheId} {known : Cache} : loop.caches[cache]? = some known →
    known.phase ≠ .closed → (∀ handle link, ¬ Hears handle cache link loop.service) →
      loop.lastTold cache = none

/-- Nothing changes between sessions and caches. -/
structure Undisturbed (before after : Loop Sessions.service) : Prop where
  grows : Grows before after
  hears (handle : Handle) (cache : CacheId) (link : Option Link) :
    Hears handle cache link after.service ↔ Hears handle cache link before.service
  told (cache : CacheId) :
    after.caches[cache]? ≠ none → after.lastTold cache = before.lastTold cache

theorem Undisturbed.of_eq {before after : Loop Sessions.service} (grows : Grows before after)
    (service : after.service = before.service)
    (told : ∀ cache, after.lastTold cache = before.lastTold cache) : Undisturbed before after :=
  ⟨grows, fun _ _ _ => by rw [service], fun cache _ => told cache⟩

variable {before after : Loop Sessions.service}

theorem Undisturbed.attuned (undisturbed : Undisturbed before after) (believes : before.Believes)
    (attuned : before.Attuned) : after.Attuned := by
  refine ⟨fun hears => ?_, fun hears found started => ?_,
    fun {cache known'} found isOpen unheard => ?_⟩
  · obtain ⟨known, found, handle, begun⟩ := attuned.own ((undisturbed.hears _ _ _).mp hears)
    obtain ⟨known', found', ages⟩ := undisturbed.grows _ known found
    exact ⟨known', found', ages.handle.trans handle, ages.isBegun begun⟩
  · have heard := (undisturbed.hears _ _ _).mp hears
    obtain ⟨known, earlier, -, begun⟩ := attuned.own heard
    obtain ⟨known', found', ages⟩ := undisturbed.grows _ known earlier
    cases found.symm.trans found'
    have running := ages.isStarted begun started
    rw [undisturbed.told _ (by simp [found])]
    exact attuned.told heard earlier running
  · rw [undisturbed.told cache (by simp [found])]
    cases earlier : before.caches[cache]? with
    | none => exact believes.isThere cache earlier
    | some known =>
      obtain ⟨known'', found', ages⟩ := undisturbed.grows _ known earlier
      cases found.symm.trans found'
      exact attuned.untold earlier (fun closed => isOpen (ages.isClosed closed)) fun handle
        link heard =>
        unheard handle link ((undisturbed.hears _ _ _).mpr heard)

/-! ## Whatever happens -/

theorem isThere_of_serve {after : Sessions} {effects : List SessionEffect}
    {loop : Loop Sessions.service} {cache : CacheId}
    (isThere : ((loop.setService after).perform effects).caches[cache]? ≠ none) :
    loop.caches[cache]? ≠ none := by
  have length := @perform_length Sessions.service effects (loop.setService after)
  rw [Ne, List.getElem?_eq_none_iff, ← show _ = loop.caches.length from length,
    ← List.getElem?_eq_none_iff]
  exact isThere

/-- What a cache was last told when the service has changed and had its effects. -/
theorem serve_lastTold (after : Sessions) (effects : List SessionEffect)
    {loop : Loop Sessions.service} {cache : CacheId} (isThere : loop.caches[cache]? ≠ none) :
    ((loop.setService after).perform effects).lastTold cache =
      effects.foldl (fun told effect => (effect.told? cache).or told) (loop.lastTold cache) :=
  @perform_lastTold Sessions.service effects (loop.setService after) cache isThere

/-- What the service does without telling anybody leaves caches undisturbed. -/
theorem undisturbed_of_isSilent {loop : Loop Sessions.service} {after : Sessions}
    {effects : List SessionEffect} (silent : IsSilent loop.service after effects) :
    Undisturbed loop ((loop.setService after).perform effects) := by
  refine ⟨((setService_calm loop after).trans (perform_calm _ _)).grows,
    fun handle cache link => ?_,
    fun cache isThere => ?_⟩
  · exact (perform_hears effects _ handle cache link).trans (silent.hears handle cache link)
  · have known := isThere_of_serve isThere
    exact (serve_lastTold after effects known).trans (silent.told cache (loop.lastTold cache))

/-- A session tells its listeners that the connection has a new state. -/
structure Announces (place : Handle) (link : Link) (before after : Loop Sessions.service) :
    Prop where
  grows : Grows before after
  hears (handle : Handle) (cache : CacheId) (known : Option Link) :
    Hears handle cache known after.service ↔
      if place = handle then known = some link ∧ ∃ old, Hears handle cache old before.service
      else Hears handle cache known before.service
  told {cache : CacheId} {old : Option Link} (heard : Hears place cache old before.service) :
    before.caches[cache]? ≠ none → after.lastTold cache = some link
  spared {cache : CacheId} (deaf : ∀ old, ¬ Hears place cache old before.service) :
    after.caches[cache]? ≠ none → after.lastTold cache = before.lastTold cache

theorem announces_of_isLoud {loop : Loop Sessions.service} {after : Sessions} {place : Handle}
    {link : Link} {effects : List SessionEffect}
    (loud : IsLoud place link loop.service after effects) :
    Announces place link loop ((loop.setService after).perform effects) where
  grows := ((setService_calm loop after).trans (perform_calm _ _)).grows
  hears handle cache known :=
    (perform_hears effects _ handle cache known).trans (loud.hears handle cache known)
  told heard isThere := (serve_lastTold after effects isThere).trans (loud.told heard _)
  spared {cache} deaf isThere := by
    have known := isThere_of_serve isThere
    exact (serve_lastTold after effects known).trans (loud.spared deaf (loop.lastTold cache))

namespace Announces

variable {place : Handle} {link : Link}

/-- Who listens goes on listening. -/
theorem heard (announces : Announces place link before after) {handle : Handle} {cache : CacheId}
    {old : Option Link} (hears : Hears handle cache old before.service) :
    Hears handle cache (if place = handle then some link else old) after.service := by
  refine (announces.hears _ _ _).mpr ?_
  split
  · exact ⟨rfl, old, hears⟩
  · exact hears

/-- A cache that listens to another session is not told. -/
theorem spared_of_ne (announces : Announces place link before after) (attuned : before.Attuned)
    {handle : Handle} {cache : CacheId} {old : Option Link}
    (hears : Hears handle cache old before.service) (different : place ≠ handle) :
    after.lastTold cache = before.lastTold cache := by
  obtain ⟨known, found, own, -⟩ := attuned.own hears
  obtain ⟨known', found', -⟩ := announces.grows _ known found
  refine announces.spared (fun old wrong => ?_) (by simp [found'])
  obtain ⟨known'', found'', own', -⟩ := attuned.own wrong
  cases found.symm.trans found''
  exact different (Option.some.inj (own'.symm.trans own))

/-- What a session tells its listeners leaves them attuned. -/
theorem attuned (announces : Announces place link before after) (believes : before.Believes)
    (attuned : before.Attuned) : after.Attuned := by
  refine ⟨fun {handle cache now} heard => ?_,
    fun {handle cache now known'} heard found started => ?_,
    fun {cache known'} found isOpen deaf => ?_⟩
  · have earlier : ∃ old, Hears handle cache old before.service := by
      have heard := (announces.hears _ _ _).mp heard
      split at heard
      · exact heard.2
      · exact ⟨now, heard⟩
    obtain ⟨old, heard⟩ := earlier
    obtain ⟨known, found, own, begun⟩ := attuned.own heard
    obtain ⟨known', found', ages⟩ := announces.grows _ known found
    exact ⟨known', found', ages.handle.trans own, ages.isBegun begun⟩
  · have heard := (announces.hears _ _ _).mp heard
    split at heard
    · next here =>
      subst here
      obtain ⟨rfl, old, heard⟩ := heard
      obtain ⟨known, earlier, -⟩ := attuned.own heard
      exact .inr (announces.told heard (by simp [earlier]))
    · next different =>
      obtain ⟨known, earlier, own, begun⟩ := attuned.own heard
      obtain ⟨known'', found', ages⟩ := announces.grows _ known earlier
      cases found.symm.trans found'
      have running := ages.isStarted begun started
      rw [announces.spared_of_ne attuned heard different]
      exact attuned.told heard earlier running
  · have isDeaf : ∀ handle old, ¬ Hears handle cache old before.service := fun handle old heard =>
      deaf handle _ (announces.heard heard)
    rw [announces.spared (isDeaf place) (by simp [found])]
    cases earlier : before.caches[cache]? with
    | none => exact believes.isThere cache earlier
    | some known =>
      obtain ⟨known'', found', ages⟩ := announces.grows _ known earlier
      cases found.symm.trans found'
      exact attuned.untold earlier (fun closed => isOpen (ages.isClosed closed)) isDeaf

end Announces

theorem listen_attuned {loop : Loop Sessions.service} {cache : CacheId} {known : Cache}
    (found : loop.caches[cache]? = some known) (begun : known.phase ≠ .latent)
    (attuned : loop.Attuned) :
    (loop.setService (loop.service.modify known.handle (·.listen (.cache cache)))).Attuned := by
  have hears := fun handle other link =>
    hears_listen known.handle cache handle other link loop.service
  refine ⟨fun {handle other link} heard => ?_,
    fun {handle other link known'} heard found' started => ?_,
    fun {other known'} found' isOpen deaf => ?_⟩
  · rcases (hears handle other link).mp heard with isOld | ⟨place, rfl, -⟩
    · exact attuned.own isOld
    · exact ⟨known, found, place, begun⟩
  · rcases (hears handle other link).mp heard with isOld | ⟨place, rfl, -⟩
    · exact attuned.told isOld found' started
    · by_cases isOld : ∃ old, Hears handle other old loop.service
      · obtain ⟨old, heard'⟩ := isOld
        have same := Hears.link_eq heard ((hears handle other old).mpr (.inl heard'))
        rw [same]
        exact attuned.told heard' found' started
      · -- A cache that listens to no session has been told nothing yet.
        refine .inl (attuned.untold found' (by simp [started]) fun handle' old heard' => isOld ?_)
        obtain ⟨known'', found'', place', -⟩ := attuned.own heard'
        cases found.symm.trans found''
        cases place.symm.trans place'
        exact ⟨old, heard'⟩
  · exact attuned.untold found' isOpen fun handle link heard =>
      deaf handle link ((hears handle other link).mpr (.inl heard))

theorem unlisten_attuned {loop : Loop Sessions.service} {cache : CacheId} (handle : Option Handle)
    (isOver : ∀ known, loop.caches[cache]? = some known → known.phase ≠ .started)
    (attuned : loop.Attuned) :
    (loop.setService (loop.service.modify handle (·.unlisten (.cache cache)))).Attuned := by
  refine ⟨fun heard => attuned.own (hears_of_unlisten heard),
    fun heard found started => attuned.told (hears_of_unlisten heard) found started,
    fun {other known} found isOpen deaf => ?_⟩
  refine attuned.untold found isOpen fun place link heard => ?_
  by_cases same : other = cache
  · -- It is closed or has not been started, and in that case it does not listen.
    subst same
    obtain ⟨known', found', -, begun⟩ := attuned.own heard
    cases found.symm.trans found'
    cases phase : known.phase with
    | latent => exact begun phase
    | started => exact isOver known found phase
    | closed => exact isOpen phase
  · refine deaf place link ((hears_unlisten_of_ne handle ?_ place link loop.service).mpr heard)
    exact fun equal => same (Subscriber.cache.inj equal)

/-- What a pulse is to sessions and the caches that listen to them. -/
inductive Tuning (before : Loop Sessions.service) : Loop Sessions.service → Prop
  | undisturbed {after : Loop Sessions.service} (undisturbed : Undisturbed before after) :
      Tuning before after
  | announces {after : Loop Sessions.service} {place : Handle} {link : Link}
      (announces : Announces place link before after) : Tuning before after
  | listen (cache : CacheId) (known : Cache) (found : before.caches[cache]? = some known)
      (isBegun : known.phase ≠ .latent) :
      Tuning before
        (before.setService (before.service.modify known.handle (·.listen (.cache cache))))
  | unlisten (cache : CacheId) (handle : Option Handle)
      (isOver : ∀ known, before.caches[cache]? = some known → known.phase ≠ .started) :
      Tuning before (before.setService (before.service.modify handle (·.unlisten (.cache cache))))

theorem Pulse.tuning {before after : Loop Sessions.service} (pulse : Pulse before after) :
    Tuning before after := by
  have grows := pulse.grows
  cases pulse with
  | tasks _ service caches journal =>
    exact .undisturbed (.of_eq grows service (lastTold_eq journal))
  | note entry isOther =>
    exact .undisturbed (.of_eq grows rfl fun cache => lastTold_note (isOther cache) before)
  | modify cache change keeps => exact .undisturbed (.of_eq grows rfl fun _ => rfl)
  | create known isNew => exact .undisturbed (.of_eq grows rfl fun _ => rfl)
  | happen event =>
    unfold Loop.happen
    split
    · exact .undisturbed (.of_eq (.of_eq rfl) rfl fun _ => rfl)
    · next occurrence happened =>
      exact .undisturbed (undisturbed_of_isSilent (occur_hears happened))
  | call self point wake =>
    rcases resume_hears (before.moment self) point wake before.service with
      silent | ⟨place, link, loud⟩
    · exact .undisturbed (undisturbed_of_isSilent silent)
    · exact .announces (announces_of_isLoud loud)
  | connect settings =>
    unfold Loop.connect
    split
    · exact .undisturbed (.of_eq (.of_eq rfl) rfl fun _ => rfl)
    · split
      · exact .undisturbed (.of_eq (.of_eq rfl) rfl fun _ => rfl)
      · next connected => exact .undisturbed (undisturbed_of_isSilent (connect_hears connected))
  | adopt handle =>
    have silent : IsSilent before.service { before.service with current := some handle } [] :=
      .of_eq rfl rfl
    exact .undisturbed (undisturbed_of_isSilent silent)
  | listen cache known found isBegun => exact .listen cache known found isBegun
  | unlisten cache handle isOver => exact .unlisten cache handle isOver

theorem Tuning.attuned {before after : Loop Sessions.service} (tuning : Tuning before after)
    (believes : before.Believes) (attuned : before.Attuned) : after.Attuned := by
  cases tuning with
  | undisturbed undisturbed => exact undisturbed.attuned believes attuned
  | announces announces => exact announces.attuned believes attuned
  | listen cache known found isBegun => exact listen_attuned found isBegun attuned
  | unlisten cache handle isOver => exact unlisten_attuned handle isOver attuned

/-! ## Listening on -/

/-- A cache listens to a session until it is closed; as long as it is told nothing, the state of the
connection is what it was. -/
structure ListensOn (handle : Handle) (cache : CacheId) (link : Option Link)
    (loop : Loop Sessions.service) : Prop where
  hasBegun : loop.HasBegun cache
  hears (known : Cache) : loop.caches[cache]? = some known → known.phase ≠ .closed →
    ∃ now, Hears handle cache now loop.service ∧ (loop.lastTold cache = none → now = link)

theorem Tuning.listensOn {before after : Loop Sessions.service} (tuning : Tuning before after)
    (attuned : before.Attuned) {handle : Handle} {cache : CacheId} {link : Option Link}
    (listensOn : before.ListensOn handle cache link) : after.ListensOn handle cache link := by
  obtain ⟨known, found, begun⟩ := listensOn.hasBegun
  have hears := listensOn.hears known found
  cases tuning with
  | undisturbed undisturbed =>
    obtain ⟨known', found', ages⟩ := undisturbed.grows _ known found
    refine ⟨⟨known', found', ages.isBegun begun⟩, fun other same isOpen => ?_⟩
    cases found'.symm.trans same
    obtain ⟨now, heard, isOld⟩ := hears fun closed => isOpen (ages.isClosed closed)
    refine ⟨now, (undisturbed.hears _ _ _).mpr heard, fun untold => isOld ?_⟩
    rwa [undisturbed.told cache (by simp [found'])] at untold
  | @announces _ place state announces =>
    obtain ⟨known', found', ages⟩ := announces.grows _ known found
    refine ⟨⟨known', found', ages.isBegun begun⟩, fun other same isOpen => ?_⟩
    cases found'.symm.trans same
    obtain ⟨now, heard, isOld⟩ := hears fun closed => isOpen (ages.isClosed closed)
    refine ⟨_, announces.heard heard, fun untold => ?_⟩
    by_cases here : place = handle
    · subst here
      rw [announces.told heard (by simp [found])] at untold
      cases untold
    · rw [announces.spared_of_ne attuned heard here] at untold
      rw [if_neg here]
      exact isOld untold
  | listen other known' _ _ =>
    refine ⟨⟨known, found, begun⟩, fun same found' isOpen => ?_⟩
    cases found.symm.trans found'
    obtain ⟨now, heard, isOld⟩ := hears isOpen
    exact ⟨now, (hears_listen _ other handle cache now _).mpr (.inl heard), isOld⟩
  | unlisten other place isOver =>
    refine ⟨⟨known, found, begun⟩, fun same found' isOpen => ?_⟩
    cases found.symm.trans found'
    obtain ⟨now, heard, isOld⟩ := hears isOpen
    refine ⟨now, (hears_unlisten_of_ne place ?_ handle now _).mpr heard, isOld⟩
    rintro equal
    cases equal
    cases phase : known.phase with
    | latent => exact begun phase
    | started => exact isOver known found phase
    | closed => exact isOpen phase

/-! ## Runs -/

/-- The beginning: a store, and no session yet. -/
def unconnected (store : Store) (isSlow : Bool) : Loop Sessions.service :=
  fresh ({ store, isSlow } : Sessions)

variable {allowed : Outside Sessions.service} {store : Store} {isSlow : Bool}
  {loop : Loop Sessions.service}

theorem unconnected_attuned : (unconnected store isSlow).Attuned := by
  refine ⟨fun hears => ?_, fun hears => ?_, fun found => by simp [unconnected, fresh] at found⟩
  all_goals
    obtain ⟨session, found, -⟩ := hears
    simp [unconnected, fresh] at found

theorem Reaches.attuned (run : Reaches allowed (unconnected store isSlow) loop) :
    loop.Believes ∧ loop.Attuned := by
  have step : ∀ before after : Loop Sessions.service, Pulse before after →
      before.Believes ∧ before.Attuned → after.Believes ∧ after.Attuned := by
    rintro before after pulse ⟨believes, attuned⟩
    exact ⟨pulse.believes believes, pulse.tuning.attuned believes attuned⟩
  exact @Reaches.keeps_pulses _ _ (fun loop => loop.Believes ∧ loop.Attuned) _ _ run
    (fresh_startsAreBegun _) ⟨fresh_believes _, unconnected_attuned⟩ step

theorem Reaches.listensOn {last : Loop Sessions.service}
    (start : Reaches allowed (unconnected store isSlow) loop) (run : Reaches allowed loop last)
    {handle : Handle} {cache : CacheId} {link : Option Link}
    (listensOn : loop.ListensOn handle cache link) : last.ListensOn handle cache link := by
  have step : ∀ before after : Loop Sessions.service, Pulse before after →
      before.Believes ∧ before.Attuned ∧ before.ListensOn handle cache link →
        after.Believes ∧ after.Attuned ∧ after.ListensOn handle cache link := by
    rintro before after pulse ⟨believes, attuned, listensOn⟩
    exact ⟨pulse.believes believes, pulse.tuning.attuned believes attuned,
      pulse.tuning.listensOn attuned listensOn⟩
  have attuned := start.attuned
  exact (@Reaches.keeps_pulses _ _
    (fun loop => loop.Believes ∧ loop.Attuned ∧ loop.ListensOn handle cache link) _ _ run
    (start.startsAreBegun (fresh_startsAreBegun _)) ⟨attuned.1, attuned.2, listensOn⟩ step).2.2

/-- **When a cache and its session agree.** A running cache that listens to a session believes what
the session knows of the connection exactly if the connection is up, or not known yet, or if the
cache has been told of a state; and it goes on listening while it runs, and is told as soon as the
state changes. -/
theorem agrees_iff (run : Reaches allowed (unconnected store isSlow) loop) {handle : Handle}
    {cache : CacheId} {link : Option Link} {known : Cache}
    (hears : Hears handle cache link loop.service) (found : loop.caches[cache]? = some known)
    (isStarted : known.phase = .started) :
    (known.connected = Link.isUpOrUnset link ↔
      Link.isUpOrUnset link = true ∨ loop.lastTold cache ≠ none) ∧
      ∀ last after, Reaches allowed loop last → last.caches[cache]? = some after →
        after.phase = .started →
          ∃ now, Hears handle cache now last.service ∧
            (now ≠ link → last.lastTold cache ≠ none) := by
  obtain ⟨believes, attuned⟩ := run.attuned
  refine ⟨?_, fun last after rest found' running => ?_⟩
  · rw [believes.flag cache known found]
    rcases attuned.told hears found isStarted with untold | told
    · rw [untold]
      exact ⟨fun same => .inl same.symm, fun either => (either.resolve_right (absurd rfl)).symm⟩
    · rw [told]
      cases link with
      | none => simp [Link.isUpOrUnset]
      | some link => simp
  · have listensOn : loop.ListensOn handle cache link :=
      ⟨⟨known, found, by simp [isStarted]⟩, fun _ _ _ => ⟨link, hears, fun _ => rfl⟩⟩
    obtain ⟨now, heard, isOld⟩ :=
      (run.listensOn rest listensOn).hears after found' (by simp [running])
    exact ⟨now, heard, fun different untold => different (isOld untold)⟩

/-! ## An outage -/

/-- A session whose requests are not repeated. -/
def connecting : Command Sessions.service := .occur (SessionEvent.connect [("retries", .int 0)])

/-- The store goes down, and somebody's request fails. -/
def failing : List (Command Sessions.service) :=
  [.occur (SessionEvent.down true false), .operate (Operation.look (.text "/x") none)]

/-- A cache is made and started. -/
def starting : List (Command Sessions.service) :=
  [.make "c" (.text "/a") (.bool false), .start "c" (.bool false)]

/-- What comes of commands that are given at the beginning. -/
def outage (commands : List (Command Sessions.service)) : Loop Sessions.service :=
  (commanded (connecting :: commands) (unconnected {} false)).settle 30

theorem outage_reaches (first second third fourth : Command Sessions.service)
    (areMomentary : [first, second, third, fourth].all Command.isMomentary)
    (areBetween : ([[], [first], [first, second], [first, second, third]].all fun commands =>
      (commanded (connecting :: commands) (unconnected {} false)).isBetween)) :
    Reaches anything (unconnected {} false) (outage [first, second, third, fourth]) := by
  simp only [List.all_cons, List.all_nil, Bool.and_true, Bool.and_eq_true]
    at areMomentary areBetween
  obtain ⟨quick₁, quick₂, quick₃, quick₄⟩ := areMomentary
  obtain ⟨between₁, between₂, between₃, between₄⟩ := areBetween
  refine .trans ?_ (settle_reaches 30 _)
  refine .head (.command connecting rfl rfl trivial) ?_
  refine .head (.command first between₁ quick₁ trivial) ?_
  refine .head (.command second between₂ quick₂ trivial) ?_
  exact .head (.command third between₃ quick₃ trivial)
    (.single (.command fourth between₄ quick₄ trivial))

/-- A cache that listens before the connection is lost is told of that, and believes it. -/
theorem agrees_overtaken :
    (outage (starting ++ failing)).lastTold 0 = some .lost ∧
      ((outage (starting ++ failing)).caches[0]?).map (·.connected) = some false := by
  have run : Reaches anything (unconnected {} false) (outage (starting ++ failing)) :=
    outage_reaches _ _ _ _ (by decide +kernel) (by decide +kernel)
  have told : (outage (starting ++ failing)).lastTold 0 = some .lost := by decide +kernel
  have listens : ((outage (starting ++ failing)).service.sessions[0]?).map
      (fun session => (session.link, session.listeners)) = some (some .lost, [.cache 0]) := by
    decide +kernel
  have runs : ((outage (starting ++ failing)).caches[0]?).map (·.phase) = some .started := by
    decide +kernel
  obtain ⟨session, found, same⟩ := Option.map_eq_some_iff.mp listens
  obtain ⟨link, listeners⟩ := Prod.mk.inj same
  obtain ⟨known, found', isStarted⟩ := Option.map_eq_some_iff.mp runs
  have hears : Hears 0 0 (some .lost) (outage (starting ++ failing)).service :=
    ⟨session, found, link, listeners ▸ List.mem_singleton.mpr rfl⟩
  have agrees := (agrees_iff run hears found' isStarted).1.mpr (.inr (by simp [told]))
  refine ⟨told, ?_⟩
  rw [found', Option.map_some, agrees]
  rfl

/-- **A cache that starts to listen after the connection was lost believes that it is up.** -/
theorem disagrees_belated :
    Reaches anything (unconnected {} false) (outage (failing ++ starting)) ∧
      (outage (failing ++ starting)).isBetween ∧
      ((outage (failing ++ starting)).caches[0]?).map
          (fun known => (known.phase, known.handle, known.connected)) =
        some (.started, some 0, true) ∧
      ((outage (failing ++ starting)).service.sessions[0]?).map
          (fun session => (session.isOpen, session.listeners, session.link)) =
        some (true, [.cache 0], some .lost) ∧
      Link.isUpOrUnset (some .lost) = false := by
  refine ⟨outage_reaches _ _ _ _ ?_ ?_, ?_, ?_, ?_, rfl⟩
  all_goals decide +kernel

end Loop

end WatchedNode
