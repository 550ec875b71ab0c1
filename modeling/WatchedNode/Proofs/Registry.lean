/-
**The registry of monitors.**

Monitors are added and removed from outside, by each other within a round of calls, and all at once
when their cache is closed. Whatever happens to a cache is a number of operations on its registry
(`Cache.Operates`); with them goes a history of the registrations that they have given out
(`Loop.GivesOut`).

* `Cache.HasGiven`: what holds of a registry and of all that has been given out, after any
  operations;
* `Cache.IsOrderly`: what each operation does to such a registry;
* `Loop.registers_in_order`: both hold in every run, and after any operations in the middle of a
  step.
-/
import WatchedNode.Proofs.Paths
import WatchedNode.Remote

namespace WatchedNode

open Relation

namespace Cache

/-! ## What has been given out -/

/-- An operation, and what has been given out before and after it: a registration that only stands
after it is given out by it. -/
def Gives (before after : Cache × List Registration) : Prop :=
  before.1.Operates after.1 ∧
    after.2 = before.2 ++ after.1.registrations.filter (· ∉ before.1.registrations)

/-- What holds of a registry and of all registrations that have been given out. -/
structure HasGiven (given : List Registration) (known : Cache) : Prop where
  /-- Those that stand have been given out, in the order in which they stand. -/
  registered : known.registrations.Sublist given
  /-- The numbers rise, and so none is given out twice. -/
  rising : (given.map (·.id)).Pairwise (· < ·)
  /-- The next number is above all of them. -/
  below : ∀ registration ∈ given, registration.id < known.nextId
  isTidy : known.IsTidy
  isHushed : known.IsHushed

/-- What each operation does to a registry. -/
structure IsOrderly (given : List Registration) (known : Cache) : Prop where
  /-- A monitor that is registered keeps its registration, and nothing changes. -/
  again : ∀ registration ∈ known.registrations,
    known.addMonitor registration.monitor = .ok (registration, known)
  /-- Another one comes last, with the next number. -/
  anew : ∀ monitor, known.phase ≠ .closed →
    (∀ registration ∈ known.registrations, registration.monitor ≠ monitor) →
      known.addMonitor monitor = .ok (⟨known.nextId, monitor⟩, { known with
        registrations := known.registrations ++ [⟨known.nextId, monitor⟩], nextId :=
          known.nextId + 1 })
  /-- The number of a registration that was given out removes just that one, if it still stands. -/
  byNumber : ∀ registration ∈ given, known.removeId registration.id =
    { known with registrations := known.registrations.erase registration }
  /-- A number that was not given out removes nothing. -/
  byOtherNumber : ∀ number : Int, (∀ registration ∈ given, (registration.id : Int) ≠ number) →
    known.removeId number = known
  /-- A monitor removes just its own registration. -/
  byMonitor : ∀ registration ∈ known.registrations, known.removeMonitor registration.monitor =
    { known with registrations := known.registrations.erase registration }
  /-- A monitor that is not registered removes nothing. -/
  byOtherMonitor :
    ∀ monitor, (∀ registration ∈ known.registrations, registration.monitor ≠ monitor) →
    known.removeMonitor monitor = known

section Registries

variable {known after : Cache} {given : List Registration} {registration other : Registration}
  {monitor : String}

theorem IsNew.hasGiven (isNew : known.IsNew) : HasGiven [] known := by
  refine ⟨?_, .nil, fun _ member => absurd member List.not_mem_nil, isNew.isTidy, isNew.isHushed⟩
  rw [isNew.registrations]

/-- What nobody has registered, nobody finds. -/
theorem registration_none (isUnknown : ∀ other ∈ known.registrations, other.monitor ≠ monitor) :
    known.registration? monitor = none := by
  simpa [registration?, List.find?_eq_none] using isUnknown

/-- In a tidy registry a monitor has one registration. -/
theorem IsTidy.registration_of_mem (isTidy : known.IsTidy)
    (isRegistered : registration ∈ known.registrations) :
    known.registration? registration.monitor = some registration := by
  cases found : known.registration? registration.monitor with
  | none =>
    have isUnknown := List.find?_eq_none.mp found registration isRegistered
    simp at isUnknown
  | some other =>
    have same : other.monitor = registration.monitor := by simpa using List.find?_some found
    rw [List.inj_on_of_nodup_map isTidy (List.mem_of_find?_eq_some found) isRegistered same]

/-- Without an addition, nothing is given out. -/
theorem filter_of_subset (isFewer : after.registrations ⊆ known.registrations) :
    after.registrations.filter (· ∉ known.registrations) = [] :=
  List.filter_eq_nil_iff.mpr fun registration member => by simp [isFewer member]

namespace HasGiven

variable (hasGiven : HasGiven given known)

include hasGiven

/-- A number is one registration's. -/
theorem eq_of_id (member : registration ∈ given) (isOther : other ∈ given)
    (same : registration.id = other.id) :
    registration = other :=
  List.inj_on_of_nodup_map hasGiven.rising.nodup member isOther same

/-- Registrations go. -/
theorem keep (isFewer : after.registrations.Sublist known.registrations)
    (nextId : after.nextId = known.nextId) (isHushed : after.IsHushed) : HasGiven given after where
  registered := isFewer.trans hasGiven.registered
  rising := hasGiven.rising
  below := nextId ▸ hasGiven.below
  isTidy := hasGiven.isTidy.sublist (isFewer.map _)
  isHushed := isHushed

/-- A monitor is registered with the next number. -/
theorem give (isUnknown : ∀ other ∈ known.registrations, other.monitor ≠ monitor)
    (isOpen : known.phase ≠ .closed) :
    HasGiven (given ++ [⟨known.nextId, monitor⟩]) { known with
      registrations := known.registrations ++ [⟨known.nextId, monitor⟩], nextId :=
        known.nextId + 1 } where
  registered := hasGiven.registered.append (.refl _)
  rising := by
    rw [List.map_append, List.pairwise_append]
    refine ⟨hasGiven.rising, List.pairwise_singleton _ _, fun number member next isNext => ?_⟩
    obtain ⟨old, isOld, rfl⟩ := List.mem_map.mp member
    rw [List.map_singleton, List.mem_singleton] at isNext
    exact isNext ▸ hasGiven.below old isOld
  below := fun registration member => by
    rcases List.mem_append.mp member with isOld | isNew
    · exact Nat.lt_succ_of_lt (hasGiven.below registration isOld)
    · rw [List.mem_singleton.mp isNew]
      exact Nat.lt_succ_self _
  isTidy := by
    have added : known.addMonitor monitor = .ok (⟨known.nextId, monitor⟩, { known with
        registrations := known.registrations ++ [⟨known.nextId, monitor⟩], nextId :=
          known.nextId + 1 }) := by
      rw [addMonitor, if_neg isOpen, registration_none isUnknown]
    exact (addMonitor_registers added).2.1 hasGiven.isTidy
  isHushed := fun isClosed => absurd isClosed isOpen

/-- The next number's registration does not stand. -/
theorem next_not_mem : (⟨known.nextId, monitor⟩ : Registration) ∉ known.registrations :=
  fun isRegistered =>
  absurd (hasGiven.below _ (hasGiven.registered.subset isRegistered)) (Nat.lt_irrefl _)

/-- One operation on a registry. -/
theorem operate (operates : known.Operates after) :
    HasGiven (given ++ after.registrations.filter (· ∉ known.registrations)) after := by
  have fewer (isFewer : after.registrations.Sublist known.registrations)
      (nextId : after.nextId = known.nextId) (isHushed : after.IsHushed) :
      HasGiven (given ++ after.registrations.filter (· ∉ known.registrations)) after := by
    rw [filter_of_subset isFewer.subset, List.append_nil]
    exact hasGiven.keep isFewer nextId isHushed
  cases operates with
  | @add _ monitor registration added =>
    have isHushed := (addMonitor_registers added).2.2.1 hasGiven.isHushed
    unfold addMonitor at added
    split at added
    · cases added
    · next isOpen =>
      split at added
      · cases added
        exact fewer (.refl _) rfl isHushed
      · next absent =>
        cases added
        have isUnknown : ∀ other ∈ known.registrations, other.monitor ≠ monitor := by
          simpa [registration?, List.find?_eq_none] using absent
        have isNext :
            ([⟨known.nextId, monitor⟩] : List Registration).filter (· ∉ known.registrations) =
            [⟨known.nextId, monitor⟩] := by
          simp [hasGiven.next_not_mem]
        rw [List.filter_append, filter_of_subset (fun _ => id), List.nil_append, isNext]
        exact hasGiven.give isUnknown isOpen
  | removeId number =>
    have registers := removeId_registers number known
    exact fewer List.filter_sublist rfl (registers.2.2.1 hasGiven.isHushed)
  | removeMonitor monitor =>
    have registers := removeMonitor_registers monitor known
    refine fewer ?_ ?_ (registers.2.2.1 hasGiven.isHushed)
    · unfold removeMonitor
      split
      · exact List.filter_sublist
      · exact .refl _
    · unfold removeMonitor
      split <;> rfl
  | close => exact fewer (List.nil_sublist _) rfl fun _ => rfl
  | other registrations nextId phase =>
    refine fewer (registrations ▸ .refl _) nextId fun isClosed => ?_
    rw [registrations, hasGiven.isHushed (phase.mp isClosed)]

/-- **A registration that was given out is removed by its number**: it and no other, if it still
stands. -/
theorem removeId_eq (member : registration ∈ given) :
    known.removeId registration.id =
      { known with registrations := known.registrations.erase registration } := by
  have isNodup : known.registrations.Nodup := hasGiven.isTidy.of_map
  rw [removeId, isNodup.erase_eq_filter]
  congr 1
  refine List.filter_congr fun other isRegistered => ?_
  have isSame : (other.id : Int) = registration.id ↔ other = registration :=
    Int.ofNat_inj.trans ⟨hasGiven.eq_of_id (hasGiven.registered.subset isRegistered) member,
      congrArg _⟩
  rw [bne, beq_eq_decide, decide_eq_decide.mpr isSame.not, decide_not]

/-- Such a registry is in order. -/
theorem isOrderly : IsOrderly given known where
  again := fun registration isRegistered => by
    have isOpen : known.phase ≠ .closed := fun isClosed => by
      rw [hasGiven.isHushed isClosed] at isRegistered
      cases isRegistered
    rw [addMonitor, if_neg isOpen, hasGiven.isTidy.registration_of_mem isRegistered]
  anew := fun monitor isOpen isUnknown => by
    rw [addMonitor, if_neg isOpen, registration_none isUnknown]
  byNumber := fun _ => hasGiven.removeId_eq
  byOtherNumber := fun number isOther => by
    rw [removeId, List.filter_eq_self.mpr fun registration isRegistered => by
      simpa using isOther registration (hasGiven.registered.subset isRegistered)]
  byMonitor := fun registration isRegistered => by
    rw [removeMonitor, hasGiven.isTidy.registration_of_mem isRegistered]
    exact hasGiven.removeId_eq (hasGiven.registered.subset isRegistered)
  byOtherMonitor := fun monitor isUnknown => by
    rw [removeMonitor, registration_none isUnknown]

omit hasGiven in
/-- Any operations on a registry. -/
theorem operates {before after : Cache × List Registration}
    (gives : ReflTransGen Gives before after) (hasGiven : HasGiven before.2 before.1) :
    HasGiven after.2 after.1 := by
  induction gives with
  | refl => exact hasGiven
  | tail _ next step =>
    rw [next.2]
    exact step.operate next.1

end HasGiven

/-- Operations give out what they give out. -/
theorem operates_give (operates : ReflTransGen Operates known after) (given : List Registration) :
    ∃ longer, ReflTransGen Gives (known, given) (after, longer) := by
  induction operates with
  | refl => exact ⟨given, .refl⟩
  | @tail before after _ next step =>
    obtain ⟨longer, gives⟩ := step
    exact ⟨longer ++ after.registrations.filter (· ∉ before.registrations), gives.tail ⟨next, rfl⟩⟩

end Registries

end Cache

variable {S : Service}

namespace Loop

/-! ## Where a cache comes from -/

/-- Each cache that is there was there before, or is new; and then it has grown older. -/
def Descends (before after : Loop S) : Prop :=
  ∀ (cache : CacheId) (known' : Cache), after.caches[cache]? = some known' → ∃ known : Cache,
    (before.caches[cache]? = some known ∨ before.caches[cache]? = none ∧ known.IsNew) ∧
      known.Ages known'

theorem Grows.descends {before after : Loop S} (grows : Grows before after)
    (length : after.caches.length = before.caches.length) : Descends before after := by
  intro cache known' found
  have isOld : cache < before.caches.length := length ▸ (List.getElem?_eq_some_iff.mp found).1
  obtain ⟨other, found', ages⟩ := grows cache _ (List.getElem?_eq_getElem isOld)
  cases found.symm.trans found'
  exact ⟨_, .inl (List.getElem?_eq_getElem isOld), ages⟩

theorem Descends.trans {first second third : Loop S} (left : Descends first second)
    (right : Descends second third) (grows : Grows first second) : Descends first third := by
  intro cache known'' found
  obtain ⟨known', found' | ⟨isNone, isNew⟩, ages'⟩ := right cache known'' found
  · obtain ⟨known, origin, ages⟩ := left cache known' found'
    exact ⟨known, origin, ages.trans ages'⟩
  · refine ⟨known', .inr ⟨?_, isNew⟩, ages'⟩
    cases there : first.caches[cache]? with
    | none => rfl
    | some known =>
      obtain ⟨other, found', -⟩ := grows cache known there
      cases isNone.symm.trans found'

theorem Pulse.descends {before after : Loop S} (pulse : Pulse before after) :
    Descends before after := by
  rcases pulse.makes with length | ⟨known, isNew, -, caches⟩
  · exact pulse.grows.descends length
  · intro cache known' found
    rw [caches] at found
    by_cases isOld : cache < before.caches.length
    · rw [List.getElem?_append_left isOld] at found
      exact ⟨known', .inl found, .refl known'⟩
    · have isLate : before.caches.length ≤ cache := Nat.le_of_not_lt isOld
      rw [List.getElem?_append_right isLate] at found
      rw [List.mem_singleton.mp (List.mem_of_getElem? found)]
      exact ⟨known, .inr ⟨List.getElem?_eq_none_iff.mpr isLate, isNew⟩, .refl known⟩

theorem Pulses.descends {before after : Loop S} (pulses : Pulses before after) :
    Descends before after := by
  induction pulses with
  | refl => exact Grows.descends (.of_eq rfl) rfl
  | tail earlier pulse step => exact step.trans pulse.descends (Pulses.grows earlier)

/-! ## Runs -/

/-- Whatever happens to a cache, from its making on, and what its registry gives out meanwhile. -/
def GivesOut (cache : CacheId) (before after : Loop S) (given longer : List Registration) : Prop :=
  match after.caches[cache]? with
  | none => longer = given
  | some known' => ∃ known : Cache,
      (before.caches[cache]? = some known ∨ before.caches[cache]? = none ∧ known.IsNew) ∧
        ReflTransGen Cache.Gives (known, given) (known', longer)

section Runs

variable {allowed : Outside S} {service : S.State} {last : Loop S}

/-- What the registry of a cache gives out in one thing that happens can be told. -/
theorem Happens.givesOut {before after : Loop S} (happens : Happens allowed before after)
    (earlier : Reaches allowed (fresh service) before) (cache : CacheId)
    (given : List Registration) :
    ∃ longer, GivesOut cache before after given longer := by
  have descends :=
    (happens.pulses (Reaches.startsAreBegun earlier (fresh_startsAreBegun service))).descends
  unfold GivesOut
  cases found : after.caches[cache]? with
  | none => exact ⟨given, rfl⟩
  | some known' =>
    obtain ⟨known, origin, ages⟩ := descends cache known' found
    obtain ⟨longer, gives⟩ := Cache.operates_give ages.operates given
    exact ⟨longer, known, origin, gives⟩

/-- What the registry of a cache has given out can always be told. -/
theorem Reaches.givesOut (run : Reaches allowed (fresh service) last) (cache : CacheId) :
    ∃ given, Recounts allowed service (GivesOut cache) [] last given :=
  run.recounts fun _ _ given earlier happens => happens.givesOut earlier cache given

/-- While there is no cache, nothing is given out; later its registry keeps to what has been given
out. -/
theorem Recounts.hasGiven {cache : CacheId} {given : List Registration}
    (recounts : Recounts allowed service (GivesOut cache) [] last given) :
    (last.caches[cache]? = none → given = []) ∧
      ∀ known, last.caches[cache]? = some known → known.HasGiven given := by
  induction recounts with
  | start => exact ⟨fun _ => rfl, fun known found => by simp [fresh] at found⟩
  | @next before after given longer earlier happens noted step =>
    have grows :=
      (happens.pulses (Reaches.startsAreBegun earlier.run (fresh_startsAreBegun service))).grows
    unfold GivesOut at noted
    cases found : after.caches[cache]? with
    | none =>
      rw [found] at noted
      refine ⟨fun _ => noted.trans (step.1 ?_), fun known isThere => by cases isThere⟩
      cases there : before.caches[cache]? with
      | none => rfl
      | some known =>
        obtain ⟨other, found', -⟩ := grows cache known there
        cases found.symm.trans found'
    | some known' =>
      rw [found] at noted
      obtain ⟨known, origin, gives⟩ := noted
      refine ⟨fun isNone => (by cases isNone), fun other same => ?_⟩
      cases same
      refine Cache.HasGiven.operates gives ?_
      rcases origin with there | ⟨isNone, isNew⟩
      · exact step.2 known there
      · rw [step.1 isNone]
        exact isNew.hasGiven

/-- **In every run the registry of each cache is in order**, whatever monitors are added and
removed, from outside or by monitors within a round: what happens is a number of operations on the
registry, and after these and any others, all that was given out has rising numbers below the next
one, those that stand are some of these, no two of them of one monitor, and none once the cache is
closed; and each operation does to them just what it is for. -/
theorem registers_in_order (run : Reaches allowed (fresh service) last) (cache : CacheId) :
    (∃ given, Recounts allowed service (GivesOut cache) [] last given) ∧
      ∀ given, Recounts allowed service (GivesOut cache) [] last given →
        ∀ known, last.caches[cache]? = some known →
          ∀ later longer, ReflTransGen Cache.Gives (known, given) (later, longer) →
            later.HasGiven longer ∧ later.IsOrderly longer := by
  refine ⟨run.givesOut cache, fun given recounts known found later longer gives => ?_⟩
  have hasGiven := Cache.HasGiven.operates gives (recounts.hasGiven.2 known found)
  exact ⟨hasGiven, hasGiven.isOrderly⟩

end Runs

/-- A monitor that, when it is called, removes another one, adds it again, and cancels its first
token. -/
def meddling : Loop Remote.service :=
  { fresh ({} : Remote.State) with scripts := [("m", ⟨"c", [.remove "n", .add "n", .cancel "u"]⟩)] }

/-- Both monitors are registered, and a round of calls comes. -/
def meddled : Loop Remote.service :=
  commanded [.make "c" (.text "/x") .null, .addMonitor "c" "m" "t", .addMonitor "c" "n" "u",
    .install "c" none (some ⟨1, 1⟩) (some [7])] meddling

/-- The other monitor has got a new number, and its first token is worth nothing any more. -/
theorem registers_in_order_meddled : ∃ known, meddled.caches[0]? = some known ∧
    known.registrations = [⟨1, "m"⟩, ⟨3, "n"⟩] ∧ known.addMonitor "n" = .ok (⟨3, "n"⟩, known) ∧
      known.removeMonitor "m" = { known with registrations := [⟨3, "n"⟩] } := by
  have next : ∀ (loop : Loop Remote.service) (command : Command Remote.service),
      loop.isBetween → command.isMomentary → Happens anything loop (loop.command command).1 :=
    fun loop command isBetween isMomentary => .command command isBetween isMomentary trivial
  have run : Reaches anything (fresh ({} : Remote.State)) meddled :=
    .head (.decide _ [])
      (.head (next _ _ rfl rfl) (.head (next _ _ rfl rfl) (.head (next _ _ rfl rfl)
      (.single (next _ _ rfl rfl)))))
  have registrations : (meddled.caches[0]?).map (·.registrations) = some [⟨1, "m"⟩, ⟨3, "n"⟩] := by
    decide
  obtain ⟨known, found, same⟩ := Option.map_eq_some_iff.mp registrations
  obtain ⟨⟨given, recounts⟩, law⟩ := registers_in_order run 0
  obtain ⟨-, isOrderly⟩ := law given recounts known found known given .refl
  refine ⟨known, found, same, isOrderly.again ⟨3, "n"⟩ (by simp [same]), ?_⟩
  exact (isOrderly.byMonitor ⟨1, "m"⟩ (by simp [same])).trans (by simp [same])

end Loop

end WatchedNode
