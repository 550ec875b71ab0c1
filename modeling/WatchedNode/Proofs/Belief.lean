/-
**What caches believe of the connection.**

A cache knows of the connection what it was last told, and takes it to be up before it is told
anything (`Believes`). What it is told by a number of effects is the last thing that one of them
tells it (`perform_lastTold`).
-/
import WatchedNode.Proofs.Loop.Stack

namespace WatchedNode

open Relation

variable {S : Service}

/-- What an effect tells a cache of the connection's state. -/
def Effect.told? {Call Point Reply : Type} (cache : CacheId) :
    Effect Call Point Reply → Option Link
  | .tell _ (.cache owner) link => if owner = cache then some link else none
  | _ => none

namespace Loop

/-- What a cache was last told of the connection's state. -/
def lastTold (cache : CacheId) (loop : Loop S) : Option Link :=
  loop.journal.findSome? (Entry.told? cache)

/-- Each cache believes what it was last told; nobody is told who is not there. -/
structure Believes (loop : Loop S) : Prop where
  flag (cache : CacheId) (known : Cache) : loop.caches[cache]? = some known →
    known.connected = Link.isUpOrUnset (loop.lastTold cache)
  isThere (cache : CacheId) : loop.caches[cache]? = none → loop.lastTold cache = none

/-! ## Telling a cache -/

theorem lastTold_note {entry : Entry S.Call} {cache : CacheId} (isOther : entry.told? cache = none)
    (loop : Loop S) : (loop.note entry).lastTold cache = loop.lastTold cache := by
  rw [lastTold, note_journal, List.findSome?_cons, isOther]
  rfl

theorem lastTold_eq {before after : Loop S} (journal : after.journal = before.journal)
    (cache : CacheId) : after.lastTold cache = before.lastTold cache := by
  rw [lastTold, journal, lastTold]

/-- Where caches are, they stay, and believe what they believed. -/
structure Steadfast (before after : Loop S) : Prop where
  caches (cache : CacheId) :
    (after.caches[cache]?).map (·.connected) = (before.caches[cache]?).map (·.connected)
  told (cache : CacheId) : after.lastTold cache = before.lastTold cache

namespace Steadfast

theorem of_eq {before after : Loop S} (caches : after.caches = before.caches)
    (journal : after.journal = before.journal) : Steadfast before after :=
  ⟨fun cache => by rw [caches], lastTold_eq journal⟩

theorem trans {first second third : Loop S} (left : Steadfast first second)
    (right : Steadfast second third) : Steadfast first third :=
  ⟨fun cache => (right.caches cache).trans (left.caches cache),
    fun cache => (right.told cache).trans (left.told cache)⟩

theorem believes {before after : Loop S} (steadfast : Steadfast before after)
    (believes : before.Believes) : after.Believes := by
  refine ⟨fun cache known found => ?_, fun cache unknown => ?_⟩
  · have same := steadfast.caches cache
    rw [found, Option.map_some] at same
    obtain ⟨old, found', connected⟩ := Option.map_eq_some_iff.mp same.symm
    rw [steadfast.told, ← connected]
    exact believes.flag cache old found'
  · rw [steadfast.told]
    have same := steadfast.caches cache
    rw [unknown, Option.map_none] at same
    exact believes.isThere cache (Option.map_eq_none_iff.mp same.symm)

end Steadfast

theorem Believes.of_eq {before after : Loop S} (believes : before.Believes)
    (caches : after.caches = before.caches) (journal : after.journal = before.journal) :
    after.Believes := (Steadfast.of_eq caches journal).believes believes

theorem modify_steadfast (loop : Loop S) (cache : CacheId) (change : Cache → Cache)
    (same : ∀ known, loop.caches[cache]? = some known →
      (change known).connected = known.connected) :
    Steadfast loop (loop.modifyCache cache change) := by
  refine ⟨fun other => ?_, fun _ => rfl⟩
  by_cases here : cache = other
  · subst here
    rw [modifyCache_caches, List.getElem?_modify_eq]
    cases found : loop.caches[cache]? with
    | none => rfl
    | some known => simp [same known found]
  · rw [modifyCache_of_ne loop here]

theorem post_steadfast (cache : CacheId) (item : Item) (loop : Loop S) :
    Steadfast loop (loop.post cache item) := by
  unfold post
  split
  · exact .of_eq rfl rfl
  · next backlog _ =>
    have put : Steadfast loop (loop.modifyCache cache fun cache =>
        { cache with backlog := some (backlog.put item) }) :=
      modify_steadfast loop cache _ fun _ _ => rfl
    dsimp only
    split
    · exact put.trans (.of_eq (by simp) (by simp))
    · exact put

theorem refresh_steadfast (cache : CacheId) (loop : Loop S) :
    Steadfast loop (loop.refresh cache) := by
  unfold refresh
  split
  · exact post_steadfast cache _ loop
  · exact .of_eq rfl rfl

/-- A cache that is told something believes it. -/
def believe (cache : CacheId) (link : Link) (loop : Loop S) : Loop S :=
  (loop.note (.told cache link)).modifyCache cache fun cache =>
    { cache with connected := link.isUp }

theorem linkChanged_believe {cache : CacheId} {known : Cache} (link : Link) {loop : Loop S}
    (found : loop.caches[cache]? = some known) :
    Steadfast (loop.believe cache link) (loop.linkChanged cache link) := by
  unfold linkChanged
  rw [found]
  dsimp only
  split
  · exact post_steadfast cache .resync _
  · exact .of_eq rfl rfl

theorem lastTold_believe (cache other : CacheId) (link : Link) (loop : Loop S) :
    (loop.believe cache link).lastTold other =
      if cache = other then some link else loop.lastTold other := by
  have journal : (loop.believe cache link).journal = .told cache link :: loop.journal := rfl
  rw [lastTold, journal, List.findSome?_cons]
  by_cases same : cache = other
  · simp [Entry.told?, same]
  · simp [Entry.told?, same, lastTold]

theorem linkChanged_lastTold (cache : CacheId) (link : Link) {loop : Loop S} {other : CacheId}
    (isThere : loop.caches[other]? ≠ none) :
    (loop.linkChanged cache link).lastTold other =
      if cache = other then some link else loop.lastTold other := by
  cases found : loop.caches[cache]? with
  | none =>
    have different : cache ≠ other := by
      rintro rfl
      exact isThere found
    simp [linkChanged, found, different]
  | some known => rw [(linkChanged_believe link found).told, lastTold_believe]

theorem linkChanged_believes (cache : CacheId) (link : Link) {loop : Loop S}
    (believes : loop.Believes) : (loop.linkChanged cache link).Believes := by
  cases found : loop.caches[cache]? with
  | none =>
    unfold linkChanged
    rw [found]
    exact believes
  | some known =>
    have noted : (loop.note (.told cache link)).caches[cache]? = some known := found
    refine (linkChanged_believe link found).believes ⟨fun other after found' => ?_,
      fun other unknown => ?_⟩
    · rw [lastTold_believe]
      by_cases same : cache = other
      · subst same
        rw [believe, modifyCache_self noted] at found'
        cases found'
        simp [Link.isUpOrUnset]
      · rw [believe, modifyCache_of_ne _ same] at found'
        rw [if_neg same]
        exact believes.flag other after found'
    · have different : cache ≠ other := by
        rintro rfl
        rw [believe, modifyCache_self noted] at unknown
        cases unknown
      rw [believe, modifyCache_of_ne _ different] at unknown
      rw [lastTold_believe, if_neg different]
      exact believes.isThere other unknown

/-! ## Effects -/

theorem Ripple.believes {before after : Loop S} (ripple : Ripple before after)
    (believes : before.Believes) : after.Believes := by
  cases ripple with
  | note entry isShown =>
    have noted : Steadfast before (before.note entry) :=
      ⟨fun _ => rfl, fun cache => lastTold_note (Entry.told?_of_isShown isShown cache) before⟩
    exact noted.believes believes
  | told cache link => exact linkChanged_believes cache link believes
  | fired cache =>
    have noted : Steadfast before (before.note (.fired cache)) :=
      ⟨fun _ => rfl, fun _ => lastTold_note rfl before⟩
    exact (noted.trans (refresh_steadfast cache _)).believes believes
  | listeners handle habit =>
    have changed : Steadfast before (before.changeListeners handle habit) := .of_eq rfl rfl
    exact changed.believes believes
  | reply task reply =>
    have woken : Steadfast before (before.wake task (.reply reply)) := .of_eq (by simp) (by simp)
    exact woken.believes believes
  | cancel task =>
    have cancelled : Steadfast before (before.cancelErrand task) := .of_eq (by simp) (by simp)
    exact cancelled.believes believes
  | errand point =>
    have started : Steadfast before (before.spawn .errand (.service point)) := .of_eq rfl rfl
    exact started.believes believes

theorem perform_believes (effects : List (Effect S.Call S.Point S.Reply)) {loop : Loop S}
    (believes : loop.Believes) : (loop.perform effects).Believes := by
  have ripples := perform_ripples effects loop
  generalize loop.perform effects = after at ripples
  induction ripples with
  | refl => exact believes
  | tail _ ripple step => exact ripple.believes step

theorem tell_named_lastTold (handle : Handle) (name : String) (link : Link) (cache : CacheId)
    (loop : Loop S) :
    (loop.tell handle (.named name) link).lastTold cache = loop.lastTold cache := by
  have noted : ((loop.note (.listener name link)).changeListeners handle
      (loop.habit name)).lastTold cache = loop.lastTold cache := lastTold_note rfl loop
  unfold tell
  dsimp only
  split
  · exact (lastTold_note rfl _).trans noted
  · exact noted

theorem fire_lastTold (watcher : Subscriber) (key : String) (news : Option Record)
    (cache : CacheId) (loop : Loop S) :
    (loop.fire watcher key news).lastTold cache = loop.lastTold cache := by
  cases watcher with
  | cache owner =>
    exact ((refresh_steadfast owner (loop.note (.fired owner))).told cache).trans
      (lastTold_note rfl loop)
  | named name =>
    have noted : (loop.note (.watcher name news)).lastTold cache = loop.lastTold cache :=
      lastTold_note rfl loop
    unfold fire
    dsimp only
    split
    · exact (lastTold_note rfl _).trans noted
    · exact noted

/-- What a cache that is there was last told, after an effect. -/
theorem effect_lastTold (effect : Effect S.Call S.Point S.Reply) {loop : Loop S} {cache : CacheId}
    (isThere : loop.caches[cache]? ≠ none) :
    (loop.effect effect).lastTold cache = (effect.told? cache).or (loop.lastTold cache) := by
  cases effect with
  | note call => exact lastTold_note rfl loop
  | tell handle listener link =>
    cases listener with
    | cache owner =>
      refine (linkChanged_lastTold owner link isThere).trans ?_
      by_cases same : owner = cache <;> simp [Effect.told?, same]
    | named name => exact tell_named_lastTold handle name link cache loop
  | fire watcher key news => exact fire_lastTold watcher key news cache loop
  | spawn point => rfl
  | cancel task => exact lastTold_eq (cancelErrand_keeps loop task).2.2.1 cache
  | release wanted reply => exact lastTold_eq (release_keeps loop wanted reply).2.2.1 cache
  | complain complaint => exact lastTold_note rfl loop

theorem Calm.isThere {before after : Loop S} (calm : Calm before after) {cache : CacheId}
    (isThere : before.caches[cache]? ≠ none) : after.caches[cache]? ≠ none := by
  obtain ⟨known, found⟩ := Option.ne_none_iff_exists'.mp isThere
  obtain ⟨known', found', -⟩ := calm.caches cache known found
  simp [found']

/-- **What a cache that is there was last told, after a number of effects.** -/
theorem perform_lastTold (effects : List (Effect S.Call S.Point S.Reply)) {loop : Loop S}
    {cache : CacheId} (isThere : loop.caches[cache]? ≠ none) :
    (loop.perform effects).lastTold cache =
      effects.foldl (fun told effect => (effect.told? cache).or told) (loop.lastTold cache) := by
  induction effects generalizing loop with
  | nil => rfl
  | cons effect rest step =>
    have stays : (loop.effect effect).caches[cache]? ≠ none :=
      (perform_calm [effect] loop).isThere isThere
    rw [List.foldl_cons, ← effect_lastTold effect isThere]
    exact step stays

theorem post_length (cache : CacheId) (item : Item) (loop : Loop S) :
    (loop.post cache item).caches.length = loop.caches.length := by
  unfold post
  split
  · rfl
  · dsimp only
    split
    · rw [(wake_keeps _ _ _).2.1, modifyCache_caches, List.length_modify]
    · rw [modifyCache_caches, List.length_modify]

theorem Ripple.length {before after : Loop S} (ripple : Ripple before after) :
    after.caches.length = before.caches.length := by
  cases ripple with
  | note entry isShown => rfl
  | told cache link =>
    unfold linkChanged
    split
    · rfl
    · dsimp only
      split
      · rw [post_length, modifyCache_caches, List.length_modify, (note_keeps _ _).2.1]
      · rw [modifyCache_caches, List.length_modify, (note_keeps _ _).2.1]
  | fired cache =>
    unfold Loop.refresh
    split
    · exact post_length cache .check (before.note (.fired cache))
    · rfl
  | listeners handle habit => rfl
  | reply task reply => rw [(wake_keeps _ _ _).2.1]
  | cancel task => rw [(cancelErrand_keeps _ _).2.1]
  | errand point => rfl

/-- No cache comes in by the effects of a service. -/
theorem perform_length (effects : List (Effect S.Call S.Point S.Reply)) (loop : Loop S) :
    (loop.perform effects).caches.length = loop.caches.length := by
  have ripples := perform_ripples effects loop
  generalize loop.perform effects = after at ripples
  induction ripples with
  | refl => rfl
  | tail _ ripple step => exact ripple.length.trans step

/-! ## Runs -/

theorem setService_believes (service : S.State) {loop : Loop S} (believes : loop.Believes) :
    (loop.setService service).Believes := by
  have steadfast : Steadfast loop (loop.setService service) := .of_eq rfl rfl
  exact steadfast.believes believes

theorem create_believes {known : Cache} (isNew : known.IsNew) {loop : Loop S}
    (believes : loop.Believes) :
    { loop with caches := loop.caches ++ [known] }.Believes := by
  refine ⟨fun cache other found => ?_, fun cache unknown => ?_⟩
  · by_cases isOld : cache < loop.caches.length
    · rw [List.getElem?_append_left isOld] at found
      exact believes.flag cache other found
    · have isLate : loop.caches.length ≤ cache := Nat.le_of_not_lt isOld
      rw [List.getElem?_append_right isLate] at found
      have untold : loop.lastTold cache = none :=
        believes.isThere cache (List.getElem?_eq_none_iff.mpr isLate)
      rw [List.mem_singleton.mp (List.mem_of_getElem? found), isNew.connected]
      rw [show lastTold cache { loop with caches := loop.caches ++ [known] } = none from untold]
      rfl
  · refine believes.isThere cache (List.getElem?_eq_none_iff.mpr ?_)
    have beyond := List.getElem?_eq_none_iff.mp unknown
    rw [List.length_append] at beyond
    omega

theorem Pulse.believes {before after : Loop S} (pulse : Pulse before after)
    (believes : before.Believes) : after.Believes := by
  cases pulse with
  | tasks _ _ caches journal => exact (Steadfast.of_eq caches journal).believes believes
  | note entry isOther =>
    have noted : Steadfast before (before.note entry) :=
      ⟨fun _ => rfl, fun cache => lastTold_note (isOther cache) before⟩
    exact noted.believes believes
  | modify cache change keeps =>
    refine (modify_steadfast before cache change fun known found => ?_).believes believes
    exact (keeps known found).2
  | create known isNew => exact create_believes isNew believes
  | happen event =>
    unfold Loop.happen
    split
    · exact believes
    · exact perform_believes _ (setService_believes _ believes)
  | call self point wake => exact perform_believes _ (setService_believes _ believes)
  | connect settings =>
    unfold Loop.connect
    split
    · exact believes
    · split
      · exact believes
      · exact perform_believes _ (setService_believes _ believes)
  | adopt handle => exact setService_believes _ believes
  | listen cache known _ _ => exact setService_believes _ believes
  | unlisten cache handle _ => exact setService_believes _ believes

theorem fresh_believes (service : S.State) : (fresh service).Believes :=
  ⟨fun cache known found => by simp [fresh] at found, fun cache _ => rfl⟩

/-- **In every run each cache believes what it was last told.** -/
theorem Reaches.believes {allowed : Outside S} {service : S.State} {last : Loop S}
    (run : Reaches allowed (fresh service) last) : last.Believes :=
  run.keeps_pulses (fresh_startsAreBegun service) (fresh_believes service)
    fun _ _ pulse believes => pulse.believes believes

end Loop

end WatchedNode
