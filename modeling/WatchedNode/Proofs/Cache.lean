/-
**Caches over time.**

A cache changes in many small ways while the loop runs. Some things about it never change, and some
change in one direction only (`Ages`): a cache that is closed stays closed, one that was started was
started for good, a registry in which no monitor stands twice stays like that, and so does the empty
registry of a closed cache. The registry changes by the operations on it only (`Operates`). Where
only the registry changes, the change is one of `Registers`; where only the accounts of work change,
it is one of `Tends`.
-/
import Mathlib.Data.List.Nodup
import Mathlib.Logic.Relation
import WatchedNode.Cache.Basic

namespace WatchedNode.Cache

open Relation

/-- No monitor is registered twice. -/
def IsTidy (cache : Cache) : Prop := (cache.registrations.map (·.monitor)).Nodup

/-- Once it is closed, the cache has no monitors. -/
def IsHushed (cache : Cache) : Prop := cache.phase = .closed → cache.registrations = []

theorem phase_of_isRunning {cache : Cache} (runs : ¬ (!cache.isRunning) = true) :
    cache.phase = .started := by
  simpa [isRunning] using runs

/-- What is true of a cache that has just been made. -/
structure IsNew (cache : Cache) : Prop where
  phase : cache.phase = .latent
  connected : cache.connected = true
  registrations : cache.registrations = []
  data : cache.data = .absent cache.path
  backlog : cache.backlog = none

theorem IsNew.isTidy {cache : Cache} (isNew : cache.IsNew) : cache.IsTidy := by
  simp [IsTidy, isNew.registrations]

theorem IsNew.isHushed {cache : Cache} (isNew : cache.IsNew) : cache.IsHushed := fun _ =>
  isNew.registrations

/-! ## Operations on the registry -/

/-- One operation on the registry of a cache, or something else that happens to the cache. -/
inductive Operates : Cache → Cache → Prop
  | add {known after : Cache} {monitor : String} {registration : Registration}
      (added : known.addMonitor monitor = .ok (registration, after)) : Operates known after
  | removeId (known : Cache) (number : Int) : Operates known (known.removeId number)
  | removeMonitor (known : Cache) (monitor : String) : Operates known (known.removeMonitor monitor)
  | close (known : Cache) : Operates known { known with phase := .closed, registrations := [] }
  | other {known after : Cache} (registrations : after.registrations = known.registrations)
      (nextId : after.nextId = known.nextId)
      (phase : after.phase = .closed ↔ known.phase = .closed) :
      Operates known after

/-! ## Age -/

/-- What stays with a cache, and what comes to stay. -/
structure Ages (before after : Cache) : Prop where
  path : after.path = before.path
  handle : after.handle = before.handle
  compressed : after.compressed = before.compressed
  isClosed : before.phase = .closed → after.phase = .closed
  isBegun : before.phase ≠ .latent → after.phase ≠ .latent
  isTidy : before.IsTidy → after.IsTidy
  isHushed : before.IsHushed → after.IsHushed
  operates : ReflTransGen Operates before after

namespace Ages

theorem refl (cache : Cache) : Ages cache cache := ⟨rfl, rfl, rfl, id, id, id, id, .refl⟩

theorem trans {first second third : Cache} (left : Ages first second) (right : Ages second third) :
    Ages first third :=
  ⟨right.path.trans left.path, right.handle.trans left.handle,
    right.compressed.trans left.compressed, right.isClosed ∘ left.isClosed,
    right.isBegun ∘ left.isBegun, right.isTidy ∘ left.isTidy, right.isHushed ∘ left.isHushed,
    left.operates.trans right.operates⟩

/-- A change that leaves the phase and the registry alone. -/
theorem of_eq {before after : Cache} (path : after.path = before.path)
    (handle : after.handle = before.handle) (compressed : after.compressed = before.compressed)
    (phase : after.phase = before.phase)
    (registrations : after.registrations = before.registrations)
    (nextId : after.nextId = before.nextId) : Ages before after := by
  refine ⟨path, handle, compressed, fun closed => ?_, fun begun => ?_, fun tidy => ?_,
    fun hushed => ?_, .single (.other registrations nextId (by rw [phase]))⟩
  · rwa [phase]
  · rwa [phase]
  · rwa [IsTidy, registrations]
  · rwa [IsHushed, phase, registrations]

/-- A cache that runs and was begun earlier ran then. -/
theorem isStarted {before after : Cache} (ages : Ages before after)
    (isBegun : before.phase ≠ .latent) (isStarted : after.phase = .started) :
    before.phase = .started := by
  cases phase : before.phase with
  | latent => exact absurd phase isBegun
  | started => rfl
  | closed => simp [ages.isClosed phase] at isStarted

/-- A latent cache begins to run. -/
theorem begin {cache : Cache} (isLatent : cache.phase = .latent) (backlog : Option Backlog)
    (worker : Option TaskId) : Ages cache { cache with phase := .started, backlog, worker } :=
  ⟨rfl, rfl, rfl, fun closed => Phase.noConfusion (isLatent.symm.trans closed),
    fun _ => Phase.noConfusion, id, fun _ =>
      Phase.noConfusion, .single (.other rfl rfl (by simp [isLatent]))⟩

/-- A cache is closed. -/
theorem close (cache : Cache) : Ages cache { cache with phase := .closed, registrations := [] } :=
  ⟨rfl, rfl, rfl, fun _ => rfl, fun _ => Phase.noConfusion, fun _ => List.nodup_nil, fun _ _ => rfl,
    .single (.close cache)⟩

end Ages

/-! ## The registry -/

/-- Only the registry changes, and it stays tidy, and hushed. -/
def Registers (before after : Cache) : Prop :=
  (∃ registrations nextId, after = { before with registrations, nextId }) ∧
    (before.IsTidy → after.IsTidy) ∧ (before.IsHushed → after.IsHushed) ∧ Operates before after

theorem Registers.ages {before after : Cache} (registers : Registers before after) :
    Ages before after := by
  obtain ⟨⟨registrations, nextId, rfl⟩, tidy, hushed, operates⟩ := registers
  exact ⟨rfl, rfl, rfl, id, id, tidy, hushed, .single operates⟩

theorem addMonitor_registers {known after : Cache} {monitor : String} {registration : Registration}
    (added : known.addMonitor monitor = .ok (registration, after)) : Registers known after := by
  have operates : Operates known after := .add added
  unfold addMonitor at added
  split at added
  · cases added
  · next isOpen =>
    split at added
    · cases added
      exact ⟨⟨_, _, rfl⟩, id, id, operates⟩
    · next absent =>
      cases added
      refine ⟨⟨_, _, rfl⟩, fun tidy => ?_, fun _ closed => absurd closed isOpen, operates⟩
      have unknown : ∀ other ∈ known.registrations, other.monitor ≠ monitor := by
        simpa [registration?, List.find?_eq_none] using absent
      unfold IsTidy
      rw [List.map_append, List.nodup_append]
      refine ⟨tidy, List.nodup_singleton _, ?_⟩
      intro name member other same
      obtain ⟨old, isOld, rfl⟩ := List.mem_map.mp member
      rw [List.map_singleton, List.mem_singleton] at same
      rw [same]
      exact unknown old isOld

theorem removeId_registers (number : Int) (known : Cache) :
    Registers known (known.removeId number) :=
  ⟨⟨_, _, rfl⟩, fun tidy => tidy.sublist (List.filter_sublist.map _), fun hushed closed => by
    rw [removeId, hushed closed, List.filter_nil], .removeId known number⟩

theorem removeMonitor_registers (monitor : String) (known : Cache) :
    Registers known (known.removeMonitor monitor) := by
  have operates : Operates known (known.removeMonitor monitor) := .removeMonitor known monitor
  unfold removeMonitor at operates ⊢
  split
  · next registration isRegistered =>
    rw [isRegistered] at operates
    obtain ⟨only, tidy, hushed, -⟩ := removeId_registers registration.id known
    exact ⟨only, tidy, hushed, operates⟩
  · next isNone =>
    rw [isNone] at operates
    exact ⟨⟨_, _, rfl⟩, id, id, operates⟩

/-! ## The accounts of work -/

/-- Only what is said about work changes, not the items that are to be dealt with. -/
def Tends (before after : Cache) : Prop :=
  ∃ pending worker backlog, after = { before with pending, worker, backlog } ∧
    backlog.map (·.items) = before.backlog.map (·.items)

theorem Tends.ages {before after : Cache} (tends : Tends before after) : Ages before after := by
  obtain ⟨pending, worker, backlog, rfl, -⟩ := tends
  exact .of_eq rfl rfl rfl rfl rfl rfl

theorem done_items (backlog : Backlog) : backlog.done.2.items = backlog.items := by
  unfold Backlog.done
  dsimp only
  split <;> rfl

/-- A change of the backlog that is not one of its items. -/
theorem tends_backlog (change : Backlog → Backlog)
    (same : ∀ backlog, (change backlog).items = backlog.items) (cache : Cache) :
    Tends cache { cache with backlog := cache.backlog.map change } :=
  ⟨_, _, _, rfl, by cases cache.backlog <;> simp [same]⟩

end WatchedNode.Cache
