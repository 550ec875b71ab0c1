/-
**The paths of caches.**

A cache is made with a path that has no fault, and keeps it (`Reaches.arePaths`). So its node has a
key below each root (`Key.exists_below`).
-/
import WatchedNode.Proofs.Belief
import WatchedNode.Store.Key

namespace WatchedNode

open Relation

variable {S : Service}

/-! ## Keys of paths -/

/-- A path has a key below each root. -/
theorem Key.exists_below {path : String} (isPath : Path.fault? path = none) (root : String) :
    ∃ key, below root path = .ok key := by
  unfold below
  split
  · exact ⟨root, rfl⟩
  · next isInner =>
    have isRelative : isRelative path.toList = true := by
      unfold Path.fault? Path.letterFault? at isPath
      split at isPath
      · next isRoot => exact absurd (.inl (String.toList_inj.mp isRoot)) isInner
      · split at isPath
        · cases isPath
        · split at isPath
          · cases isPath
          · split at isPath
            · cases isPath
            · simp_all [Key.isRelative]
    rw [if_pos isRelative]
    exact ⟨root ++ path, rfl⟩

namespace Loop

variable {allowed : Outside S} {before after loop : Loop S}

/-! ## Caches that are made -/

theorem connect_length (settings : Value) (loop : Loop S) :
    (loop.connect settings).1.caches.length = loop.caches.length := by
  unfold connect
  split
  · rfl
  · split
    · rfl
    · exact perform_length _ _

/-- One cache comes in, which is new and has a path, or none does. -/
theorem Pulse.makes (pulse : Pulse before after) : after.caches.length = before.caches.length ∨
    ∃ known : Cache, known.IsNew ∧ Path.fault? known.path = none ∧
      after.caches = before.caches ++ [known] := by
  cases pulse with
  | tasks _ _ caches _ => exact .inl (by rw [caches])
  | modify cache change _ => exact .inl (by rw [modifyCache_caches, List.length_modify])
  | create known isNew isPath => exact .inr ⟨known, isNew, isPath, rfl⟩
  | happen event =>
    refine .inl ?_
    unfold Loop.happen
    split
    · rfl
    · exact perform_length _ _
  | call self point wake => exact .inl (perform_length _ _)
  | connect settings => exact .inl (connect_length settings before)
  | _ => exact .inl rfl

/-- All caches have paths. -/
def ArePaths (loop : Loop S) : Prop :=
  ∀ (cache : CacheId) (known : Cache), loop.caches[cache]? = some known →
    Path.fault? known.path = none

theorem Pulse.arePaths (pulse : Pulse before after) (arePaths : before.ArePaths) :
    after.ArePaths := by
  intro cache known' found
  by_cases isOld : cache < before.caches.length
  · obtain ⟨other, found', ages⟩ := pulse.grows cache _ (List.getElem?_eq_getElem isOld)
    cases found.symm.trans found'
    rw [ages.path]
    exact arePaths cache _ (List.getElem?_eq_getElem isOld)
  · rcases pulse.makes with length | ⟨known, -, isPath, caches⟩
    · exact absurd (length ▸ (List.getElem?_eq_some_iff.mp found).1) isOld
    · rw [caches, List.getElem?_append_right (Nat.le_of_not_lt isOld)] at found
      rwa [List.mem_singleton.mp (List.mem_of_getElem? found)]

/-- **All caches have paths**, in every run. -/
theorem Reaches.arePaths {service : S.State} (run : Reaches allowed (fresh service) loop) :
    loop.ArePaths :=
  run.keeps_pulses (fresh_startsAreBegun service) (fun cache known found => by
    simp [fresh] at found)
    fun _ _ pulse => pulse.arePaths

end Loop

end WatchedNode
