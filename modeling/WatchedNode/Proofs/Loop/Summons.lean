/-
**What a cache is told, and what comes into its queue of it.**

A cache that runs is told of its connection, and its watchers are fired. It has to read its node
when it was told that its connection is there, and was not there before, and to look at it when a
watcher of its own is fired while its connection is there (`summons`). Nothing else that a service
does comes into its queue (`perform_items`).
-/
import WatchedNode.Proofs.Discipline

namespace WatchedNode

variable {S : Service}

namespace Loop

variable {loop : Loop S} {cache : CacheId}

/-- What comes into the queue of a cache that runs with some effects of a service; `isUp` says
whether the cache believes to be connected. -/
def summons (cache : CacheId) : Bool → List (Effect S.Call S.Point S.Reply) → List Item
  | _, [] => []
  | isUp, .tell _ (.cache owner) link :: rest =>
    if owner = cache then
      (if link.isUp && !isUp then [.resync] else []) ++ summons cache link.isUp rest
    else summons cache isUp rest
  | isUp, .fire (.cache owner) _ _ :: rest =>
    (if owner = cache ∧ isUp = true then [.check] else []) ++ summons cache isUp rest
  | isUp, _ :: rest => summons cache isUp rest

/-- A cache runs; what it believes of its connection, and what is in its queue. -/
def IsOn (cache : CacheId) (isUp : Bool) (items : List Item) (loop : Loop S) : Prop :=
  ∃ known backlog, loop.caches[cache]? = some known ∧ known.phase = .started ∧
    known.connected = isUp ∧
    known.backlog = some backlog ∧ backlog.items = items

namespace IsOn

variable {isUp : Bool} {items : List Item}

theorem of_caches {after : Loop S} (isOn : IsOn cache isUp items loop)
    (caches : after.caches = loop.caches) :
    IsOn cache isUp items after := by
  obtain ⟨known, backlog, found, rest⟩ := isOn
  exact ⟨known, backlog, by rw [caches, found], rest⟩

/-- A change of another cache. -/
theorem modifyCache {owner : CacheId} (isOn : IsOn cache isUp items loop)
    (different : owner ≠ cache) (change : Cache → Cache) :
    IsOn cache isUp items (loop.modifyCache owner change) := by
  obtain ⟨known, backlog, found, rest⟩ := isOn
  exact ⟨known, backlog, (modifyCache_of_ne _ different _).trans found, rest⟩

/-- An item is put. -/
theorem post (isOn : IsOn cache isUp items loop) (owner : CacheId) (item : Item) :
    IsOn cache isUp (items ++ if owner = cache then [item] else []) (loop.post owner item) := by
  by_cases here : owner = cache
  · obtain ⟨known, backlog, found, runs, link, has, same⟩ := isOn
    subst here
    have put : IsOn owner isUp (items ++ [item])
        (loop.modifyCache owner fun cache => { cache with backlog := some (backlog.put item) }) :=
      ⟨_, _, modifyCache_self found _, runs, link, rfl, by rw [Backlog.put, same]⟩
    rw [if_pos rfl]
    unfold Loop.post
    rw [found, Option.bind_some, has]
    dsimp only
    split
    · exact put.of_caches (wake_keeps _ _ _).2.1
    · exact put
  · rw [if_neg here, List.append_nil]
    unfold Loop.post
    split
    · exact isOn
    · dsimp only
      split
      · exact (isOn.modifyCache here _).of_caches (wake_keeps _ _ _).2.1
      · exact isOn.modifyCache here _

/-- The cache is told of its connection, or another one is. -/
theorem linkChanged (isOn : IsOn cache isUp items loop) (owner : CacheId) (link : Link) :
    IsOn cache (if owner = cache then link.isUp else isUp)
      (items ++ if owner = cache ∧ (link.isUp && !isUp) = true then [.resync] else
        []) (loop.linkChanged owner link) := by
  by_cases here : owner = cache
  · obtain ⟨known, backlog, found, runs, rfl, has, same⟩ := isOn
    subst here
    have told :
        IsOn owner link.isUp items ((loop.note (.told owner link)).modifyCache owner fun cache =>
        { cache with connected := link.isUp }) :=
      ⟨_, _, modifyCache_self found _, runs, rfl, has, same⟩
    have isRunning : known.isRunning = true := decide_eq_true runs
    unfold Loop.linkChanged
    rw [found]
    dsimp only
    rw [isRunning, Bool.and_true, if_pos rfl]
    by_cases isEdge : (link.isUp && !known.connected) = true
    · rw [if_pos isEdge, if_pos ⟨rfl, isEdge⟩]
      have posted := told.post owner .resync
      rwa [if_pos rfl] at posted
    · rw [if_neg isEdge, if_neg fun both => isEdge both.2, List.append_nil]
      exact told
  · rw [if_neg here, if_neg fun both => here both.1, List.append_nil]
    unfold Loop.linkChanged
    split
    · exact isOn
    · have told := isOn.modifyCache here fun cache => { cache with connected := link.isUp }
      dsimp only
      split
      · have noted :
            IsOn cache isUp items ((loop.note (.told owner link)).modifyCache owner fun cache =>
            { cache with connected := link.isUp }) := told.of_caches rfl
        have posted := noted.post owner .resync
        rw [if_neg here, List.append_nil] at posted
        exact posted
      · exact told.of_caches rfl

/-- The cache is to look at its node, or another one is. -/
theorem refresh (isOn : IsOn cache isUp items loop) (owner : CacheId) :
    IsOn cache isUp (items ++ if owner = cache ∧ isUp = true then [.check] else
      []) (loop.refresh owner) := by
  have posted := isOn.post owner .check
  unfold Loop.refresh
  by_cases here : owner = cache
  · obtain ⟨known, backlog, found, runs, rfl, rest⟩ := id isOn
    subst here
    rw [found, Option.any_some, Cache.isActive, show known.isRunning = true from
      decide_eq_true runs, Bool.true_and]
    by_cases isUp : known.connected = true
    · rw [if_pos isUp, if_pos ⟨rfl, isUp⟩]
      rwa [if_pos rfl] at posted
    · rw [if_neg isUp, if_neg fun both => isUp both.2, List.append_nil]
      exact isOn
  · rw [if_neg here] at posted
    rw [if_neg fun both => here both.1]
    split
    · exact posted
    · rwa [List.append_nil]

/-- **What comes into the queue of a cache is what the service lets it do.** -/
theorem perform (isOn : IsOn cache isUp items loop)
    (effects : List (Effect S.Call S.Point S.Reply)) :
    (loop.perform effects).items cache = items ++ summons cache isUp effects := by
  induction effects generalizing loop isUp items with
  | nil =>
    obtain ⟨known, backlog, found, -, -, has, same⟩ := isOn
    show loop.items cache = items ++ []
    rw [items_eq found, Cache.items, has, Option.elim_some, same, List.append_nil]
  | cons effect rest step =>
    show ((loop.effect effect).perform rest).items cache = _
    cases effect with
    | note call => exact step (isOn.of_caches rfl)
    | tell handle listener link =>
      cases listener with
      | cache owner =>
        refine (step (isOn.linkChanged owner link)).trans ?_
        by_cases here : owner = cache <;> simp [summons, here]
      | named name =>
        refine step (isOn.of_caches ?_)
        show (Loop.tell _ _ _ _).caches = _
        unfold Loop.tell
        dsimp only
        split <;> rfl
    | fire watcher key news =>
      cases watcher with
      | cache owner =>
        have noted : IsOn cache isUp items (loop.note (.fired owner)) := isOn.of_caches rfl
        exact (step (noted.refresh owner)).trans (List.append_assoc _ _ _)
      | named name =>
        refine step (isOn.of_caches ?_)
        show (Loop.fire _ _ _ _).caches = _
        unfold Loop.fire
        dsimp only
        split <;> rfl
    | spawn point => exact step (isOn.of_caches rfl)
    | cancel task => exact step (isOn.of_caches (cancelErrand_keeps loop task).2.1)
    | release wanted reply => exact step (isOn.of_caches (release_keeps loop wanted reply).2.1)
    | complain complaint => exact step (isOn.of_caches rfl)

end IsOn

end Loop

end WatchedNode
