/-
**What a token removes.**

A token carries the cache that has returned it and the number of its registration there. A cache
that is given a token to remove looks at the number only, and each cache has numbers of its own.

* `Loop.HasReturned`: the tokens that a cache has returned at some time in a run, worth something or
  not;
* `Cache.HasGiven.removeId_spares_iff`: what the others of a cache's registrations depend on;
* `Loop.removes_own_iff`: a token removes at most its own registration exactly where no other cache
  has one of that number.
-/
import WatchedNode.Proofs.Registry

namespace WatchedNode

open Relation

/-! ## Registries -/

namespace Token

/-- The registration that a token was returned for. -/
def registration (token : Token) : Registration := ⟨token.id, token.monitor⟩

/-- The registration, in that cache, is the one that the token was returned for. -/
def IsFor (token : Token) (cache : CacheId) (registration : Registration) : Prop :=
  token.cache = cache ∧ registration = token.registration

instance (token : Token) (cache : CacheId) (registration : Registration) :
    Decidable (token.IsFor cache registration) :=
  inferInstanceAs (Decidable (_ ∧ _))

end Token

namespace Cache

variable {known after : Cache} {given : List Registration} {cache : CacheId} {token : Token}

/-- All registrations of a cache but a token's own stand as before, in the same order. -/
def SparesOthers (cache : CacheId) (token : Token) (before after : Cache) : Prop :=
  after.registrations.filter (¬token.IsFor cache ·) =
    before.registrations.filter (¬token.IsFor cache ·)

/-- What is returned for a monitor stands afterwards, for that monitor. -/
theorem addMonitor_stands {monitor : String} {registration : Registration}
    (added : known.addMonitor monitor = .ok (registration, after)) :
    registration ∈ after.registrations ∧ registration.monitor = monitor := by
  unfold addMonitor at added
  split at added
  · cases added
  · split at added
    · next found =>
      cases added
      exact ⟨List.mem_of_find?_eq_some found, by simpa using List.find?_some found⟩
    · cases added
      exact ⟨List.mem_append_right _ (List.mem_singleton_self _), rfl⟩

/-- What has been given out stays given out. -/
theorem gives_prefix {before after : Cache × List Registration}
    (gives : ReflTransGen Gives before after) :
    before.2 <+: after.2 := by
  induction gives with
  | refl => exact List.prefix_refl _
  | tail _ next step => exact step.trans (next.2 ▸ List.prefix_append _ _)

/-- What stands apart from one registration does not change if just that one goes. -/
theorem filter_erase (token : Token) (registrations : List Registration) :
    (registrations.erase token.registration).filter (¬token.IsFor token.cache ·) =
      registrations.filter (¬token.IsFor token.cache ·) := by
  induction registrations with
  | nil => rfl
  | cons first rest step =>
    by_cases isOwn : first = token.registration
    · rw [isOwn, List.erase_cons_head, List.filter_cons_of_neg (by simp [Token.IsFor])]
    · rw [List.erase_cons_tail (by simpa using isOwn), List.filter_cons, List.filter_cons, step]

/-- **The others are spared** if the token is the cache's own, or has a number that none of them
has. -/
theorem HasGiven.removeId_spares_iff (hasGiven : HasGiven given known)
    (isOwn : token.cache = cache → token.registration ∈ given) :
    SparesOthers cache token known (known.removeId token.id) ↔
      token.cache = cache ∨ ∀ registration ∈ known.registrations, registration.id ≠ token.id := by
  by_cases isHere : token.cache = cache
  · subst isHere
    refine iff_of_true ?_ (.inl rfl)
    have removed := hasGiven.removeId_eq (isOwn rfl)
    unfold SparesOthers
    rw [show known.removeId token.id = _ from removed]
    exact filter_erase token known.registrations
  · have isOther (registration : Registration) : ¬token.IsFor cache registration := fun isFor =>
        isHere isFor.1
    simp only [SparesOthers, isOther, not_false_eq_true, decide_true, List.filter_true, isHere,
      false_or]
    rw [removeId, List.filter_eq_self]
    simp only [decide_eq_true_eq, ne_eq, Int.ofNat_inj]

end Cache

/-! ## Runs -/

namespace Loop

variable {S : Service} {allowed : Outside S} {service : S.State} {last : Loop S}

/-- A cache has returned the token, at some time of the run. -/
def HasReturned (allowed : Outside S) (service : S.State) (last : Loop S) (token : Token) : Prop :=
  ∃ given, Recounts allowed service (GivesOut token.cache) [] last given ∧
    token.registration ∈ given

/-- The token of a registration that stands has been returned. -/
theorem Reaches.hasReturned {cache : CacheId} {known : Cache} {registration : Registration}
    (run : Reaches allowed (fresh service) last) (found : last.caches[cache]? = some known)
    (isRegistered : registration ∈ known.registrations) :
    HasReturned allowed service last ⟨cache, registration.id, registration.monitor⟩ := by
  obtain ⟨given, recounts⟩ := run.givesOut cache
  exact ⟨given, recounts, (recounts.hasGiven.2 known found).registered.subset isRegistered⟩

/-- A token that has been returned has been returned for ever. -/
theorem HasReturned.later {next : Loop S} {token : Token}
    (hasReturned : HasReturned allowed service last token) (happens : Happens allowed last next) :
    HasReturned allowed service next token := by
  obtain ⟨given, recounts, isGiven⟩ := hasReturned
  obtain ⟨longer, noted⟩ := happens.givesOut recounts.run token.cache given
  refine ⟨longer, recounts.next happens noted, ?_⟩
  unfold GivesOut at noted
  split at noted
  · exact noted ▸ isGiven
  · obtain ⟨known, -, gives⟩ := noted
    exact (Cache.gives_prefix gives).subset isGiven

/-- **What is returned for a monitor** is a token that its cache has returned. -/
theorem Happens.returns {cache : CacheId} {name monitor token : String} {id : Nat} {isKnown : Bool}
    (run : Reaches allowed (fresh service) last) (isBetween : last.isBetween)
    (isAllowed : allowed last (.addMonitor name monitor token))
    (isNamed : Table.find? name last.names = some cache)
    (returned : (last.command (.addMonitor name monitor token)).2.1 = .ok (.token id isKnown)) :
    HasReturned allowed service (last.command (.addMonitor name monitor token)).1 ⟨cache, id,
      monitor⟩ := by
  have run' : Reaches allowed (fresh service) (last.command (.addMonitor name monitor token)).1 :=
    run.tail (.command _ isBetween rfl isAllowed)
  revert run' returned
  unfold Loop.command withCache
  simp only [isNamed]
  unfold keepMonitor addMonitor
  cases found : last.caches[cache]? with
  | none => simp
  | some known =>
    cases added : known.addMonitor monitor with
    | error error => simp [added]
    | ok both =>
      obtain ⟨stands, isFor⟩ := Cache.addMonitor_stands added
      simp only [added, Except.ok.injEq, Reply.token.injEq]
      rintro ⟨rfl, -⟩ run'
      exact isFor ▸ run'.hasReturned (modifyCache_self found _) stands

/-- What a cache has given out; if the token is one of its own, its registration is among that. -/
theorem HasReturned.given {token : Token} (hasReturned : HasReturned allowed service last token)
    (cache : CacheId) :
    ∃ own, Recounts allowed service (GivesOut cache) [] last own ∧
      (token.cache = cache → token.registration ∈ own) := by
  obtain ⟨given, recounts, isGiven⟩ := hasReturned
  by_cases isHere : token.cache = cache
  · exact ⟨given, isHere ▸ recounts, fun _ => isGiven⟩
  · obtain ⟨own, recounts'⟩ := recounts.run.givesOut cache
    exact ⟨own, recounts', fun isHere' => absurd isHere' isHere⟩

/-- A cache is given a token to remove. -/
def removeToken (cache : CacheId) (token : Token) (loop : Loop S) : Loop S :=
  loop.modifyCache cache (·.removeId token.id)

theorem removeFrom_token {name : String} {token : Token} {loop : Loop S}
    (isKept : Table.find? name loop.tokens = some token) (cache : CacheId) :
    loop.removeFrom cache (.token name) = (loop.removeToken cache token, .ok .nothing) := by
  unfold removeFrom
  simp only [isKept]
  rfl

/-- **What a token removes.** In every run, a cache that is given a token which any of the caches
has returned loses at most registrations, and the other caches nothing; and all its registrations
but the token's own stand as before, in the same order, exactly if the token is its own or it has no
registration of that number. -/
theorem removes_own_iff {token : Token} (hasReturned : HasReturned allowed service last token)
    {cache : CacheId} {known : Cache} (found : last.caches[cache]? = some known) :
    (∀ name, Table.find? name last.tokens = some token →
        last.removeFrom cache (.token name) = (last.removeToken cache token, .ok .nothing)) ∧
      (∀ other, other ≠ cache →
        (last.removeToken cache token).caches[other]? = last.caches[other]?) ∧
      ∃ after, (last.removeToken cache token).caches[cache]? = some after ∧
        after.registrations.Sublist known.registrations ∧
        (Cache.SparesOthers cache token known after ↔
          token.cache = cache ∨ ∀ registration ∈ known.registrations,
            registration.id ≠ token.id) := by
  obtain ⟨own, recounts, isOwn⟩ := hasReturned.given cache
  refine ⟨?_, ?_, known.removeId token.id, modifyCache_self found _, List.filter_sublist, ?_⟩
  · intro name isKept
    exact removeFrom_token isKept cache
  · intro other different
    exact modifyCache_of_ne last different.symm _
  · exact (recounts.hasGiven.2 known found).removeId_spares_iff isOwn

/-! ### Two caches -/

/-- Two caches, with a monitor each. -/
def paired : Loop Remote.service :=
  commanded [.make "c" (.text "/a") .null, .make "d" (.text "/b") .null, .addMonitor "c" "m" "t",
    .addMonitor "d" "n" "u"] (fresh ({} : Remote.State))

theorem paired_reaches : Reaches anything (fresh ({} : Remote.State)) paired := by
  have next (loop : Loop Remote.service) (command : Command Remote.service)
      (isBetween : loop.isBetween) (isMomentary : command.isMomentary) :
      Happens anything loop (loop.command command).1 :=
    .command command isBetween isMomentary trivial
  exact .head (next _ _ rfl rfl)
    (.head (next _ _ rfl rfl) (.head (next _ _ rfl rfl) (.single (next _ _ rfl rfl))))

theorem paired_hasReturned (cache : CacheId) (registration : Registration)
    (isRegistered : (paired.caches[cache]?).map (·.registrations) = some [registration]) :
    HasReturned anything ({} : Remote.State) paired ⟨cache, registration.id,
      registration.monitor⟩ := by
  obtain ⟨known, found, same⟩ := Option.map_eq_some_iff.mp isRegistered
  exact paired_reaches.hasReturned found (same ▸ List.mem_singleton_self registration)

/-- The first cache loses nothing else by its own token. -/
theorem removes_own_of_first : ∃ known after : Cache, paired.caches[0]? = some known ∧
    (paired.removeToken 0 ⟨0, 1, "m"⟩).caches[0]? = some after ∧
      Cache.SparesOthers 0 ⟨0, 1, "m"⟩ known after := by
  have isRegistered : (paired.caches[0]?).map (·.registrations) = some [⟨1, "m"⟩] := by decide
  obtain ⟨known, found, -⟩ := Option.map_eq_some_iff.mp isRegistered
  obtain ⟨-, -, after, found', -, spares⟩ :=
    removes_own_iff (paired_hasReturned 0 ⟨1, "m"⟩ isRegistered) found
  exact ⟨known, after, found, found', spares.mpr (.inl rfl)⟩

/-- The first cache loses its own monitor by the second one's token. -/
theorem removes_other_of_second :
    HasReturned anything ({} : Remote.State) paired ⟨1, 1, "n"⟩ ∧
      Table.find? "u" paired.tokens = some ⟨1, 1, "n"⟩ ∧
      (paired.caches[0]?).map (·.registrations) = some [⟨1, "m"⟩] ∧
      ((paired.removeFrom 0 (.token "u")).1.caches[0]?).map (·.registrations) = some [] :=
  ⟨paired_hasReturned 1 ⟨1, "n"⟩ (by decide), by decide, by decide, by decide⟩

end Loop

end WatchedNode
