/-
**Keys below a root.**

* `Path.fault?_eq_none_iff`: what a path is, all its conditions at once;
* `Key.exists_below`, `Key.below_injective`: each path has a key below each root, which no other
  path has;
* `Key.isPath_append_iff`: a key that is put together is a path exactly if both its parts are ones;
* `Key.below_isProper_iff`: the keys below a root are paths again exactly if the root is one itself.
-/
import WatchedNode.Proofs.Paths
import WatchedNode.Config.Settings

namespace WatchedNode

/-! ## Paths -/

namespace Path

/-- Two slashes stand side by side in one of two parts, or where they meet. -/
theorem hasDoubleSlash_append (front back : List Char) :
    hasDoubleSlash (front ++ back) = true ↔
      hasDoubleSlash front = true ∨ hasDoubleSlash back = true ∨
        (front.getLast? = some '/' ∧ back.head? = some '/') := by
  induction front using hasDoubleSlash.induct with
  | case1 rest => simp [hasDoubleSlash]
  | case2 letter rest single more =>
    cases rest with
    | nil =>
      cases back with
      | nil => simp [hasDoubleSlash]
      | cons next after =>
        by_cases isSlash : letter = '/' <;> by_cases isNext : next = '/' <;>
          simp [hasDoubleSlash, isSlash, isNext]
    | cons next after =>
      have apart : ¬(letter = '/' ∧ next = '/') := fun both => single after both.1 (by rw [both.2])
      have drop (letters : List Char) :
          hasDoubleSlash (letter :: next :: letters) = hasDoubleSlash (next :: letters) := by
        rw [hasDoubleSlash]
        exact fun _ isSlash isNext => apart ⟨isSlash, (List.cons.inj isNext).1⟩
      rw [List.cons_append, List.cons_append, drop, drop, ← List.cons_append, more,
        List.getLast?_cons_cons]
  | case3 => simp [hasDoubleSlash]

/-- A text other than `/` is a path if it starts with a slash, does not end with one, and has
neither two of them side by side nor a null character. -/
structure IsInner (letters : List Char) : Prop where
  starts : letters.head? = some '/'
  ends : letters.getLast? ≠ some '/'
  single : hasDoubleSlash letters = false
  plain : '\x00' ∉ letters

theorem letterFault?_eq_none_iff (letters : List Char) :
    letterFault? letters = none ↔ letters = ['/'] ∨ IsInner letters := by
  unfold letterFault?
  constructor
  · intro sound
    split at sound
    · exact .inl ‹_›
    · refine .inr ⟨?_, ?_, ?_, ?_⟩ <;> grind
  · rintro (rfl | ⟨starts, ends, single, plain⟩)
    · rfl
    · simp [starts, ends, single, plain]

/-- **What a path is.** -/
theorem fault?_eq_none_iff (path : String) : fault? path = none ↔
    path = "/" ∨ IsInner path.toList := by
  rw [fault?, letterFault?_eq_none_iff, ← String.toList_inj]
  rfl

end Path

/-! ## Keys -/

namespace Key

variable {root path other key : String}

theorem below_root (root : String) : below root "/" = .ok root := by
  simp [below]

/-- The key of what may stand after a root. -/
theorem below_relative (isRelative : isRelative path.toList = true) (root : String) :
    below root path = .ok (root ++ path) := by
  have notRoot : ¬(path = "/" ∨ path = "") := by
    rintro (rfl | rfl) <;> exact absurd isRelative (by decide)
  rw [below, if_neg notRoot, if_pos isRelative]

theorem below_inner (isInner : Path.IsInner path.toList) (root : String) :
    below root path = .ok (root ++ path) :=
  below_relative (by simp [isRelative, isInner.starts, isInner.ends, isInner.single]) root

theorem append_ne_root (isInner : Path.IsInner path.toList) : root ++ path ≠ root := by
  intro same
  have none : path.toList = [] := by
    simpa using congrArg String.toList same
  exact absurd isInner.starts (by simp [none])

/-- **Different paths have different keys.** -/
theorem below_injective (isPath : Path.fault? path = none) (isOther : Path.fault? other = none)
    (same : below root path = below root other) : path = other := by
  rcases (Path.fault?_eq_none_iff path).mp isPath with rfl | isInner <;>
    rcases (Path.fault?_eq_none_iff other).mp isOther with rfl | isInner'
  · rfl
  · rw [below_root, below_inner isInner'] at same
    exact absurd (Except.ok.inj same).symm (append_ne_root isInner')
  · rw [below_root, below_inner isInner] at same
    exact absurd (Except.ok.inj same) (append_ne_root isInner)
  · rw [below_inner isInner, below_inner isInner'] at same
    exact String.append_right_inj root |>.mp (Except.ok.inj same)

/-- The last letter of a key is the one of the path. -/
theorem getLast?_append_inner {back : List Char} (isInner : Path.IsInner back) (front : List Char) :
    (front ++ back).getLast? = back.getLast? := by
  rw [List.getLast?_append]
  cases last : back.getLast? with
  | none => exact absurd isInner.starts (by simp [List.getLast?_eq_none_iff.mp last])
  | some letter => rfl

/-- **A key that is put together is a path exactly if its front is one**, if its back is one. -/
theorem isInner_append_iff {front back : List Char} (starts : front.head? = some '/')
    (isInner : Path.IsInner back) : Path.IsInner (front ++ back) ↔ Path.IsInner front := by
  have single := Path.hasDoubleSlash_append front back
  simp only [isInner.single, isInner.starts, and_true, Bool.false_eq_true, false_or] at single
  constructor
  · intro isWhole
    have apart : ¬(Path.hasDoubleSlash front = true ∨ front.getLast? = some '/') :=
      mt single.mpr (by rw [isWhole.single]; exact Bool.false_ne_true)
    exact {
      starts
      ends := fun isLast => apart (.inr isLast)
      single := Bool.eq_false_iff.mpr fun double => apart (.inl double)
      plain := fun isThere => isWhole.plain (List.mem_append_left _ isThere) }
  · intro isFront
    exact {
      starts := by rw [List.head?_append, starts, Option.some_or]
      ends := by
        rw [getLast?_append_inner isInner]
        exact isInner.ends
      single := Bool.eq_false_iff.mpr fun double =>
        (single.mp double).elim (by simp [isFront.single]) isFront.ends
      plain := fun isThere => (List.mem_append.mp isThere).elim isFront.plain isInner.plain }

/-- The key of a path is a path; only the root itself may be empty. -/
def IsProper (root path key : String) : Prop :=
  Path.fault? key = none ∨ (root = "" ∧ path = "/" ∧ key = "")

instance (root path key : String) : Decidable (IsProper root path key) :=
  inferInstanceAs (Decidable (_ ∨ _))

/-- Paths may stand below the root: it is empty, or a path, and if it is `/` then there is only
itself. -/
def IsTidy (root path : String) : Prop :=
  root = "" ∨ (Path.fault? root = none ∧ (root = "/" → path = "/"))

/-- **The key of a path is a path exactly if the root is one**, or empty. -/
theorem below_isProper_iff (isRoot : root = "" ∨ root.toList.head? = some '/')
    (isPath : Path.fault? path = none) (isKey : below root path = .ok key) :
    IsProper root path key ↔ IsTidy root path := by
  unfold IsProper IsTidy
  rcases isRoot with rfl | starts
  · refine iff_of_true ?_ (.inl rfl)
    rcases (Path.fault?_eq_none_iff path).mp isPath with rfl | isInner
    · exact .inr ⟨rfl, rfl, (Except.ok.inj ((below_root "").symm.trans isKey)).symm⟩
    · rw [below_inner isInner, String.empty_append] at isKey
      exact .inl (Except.ok.inj isKey ▸ isPath)
  · have isThere : root ≠ "" := by
      rintro rfl
      exact absurd starts (by decide)
    simp only [isThere, false_and, or_false, false_or]
    rcases (Path.fault?_eq_none_iff path).mp isPath with rfl | isInner
    · cases (below_root root).symm.trans isKey
      simp
    · cases (below_inner isInner root).symm.trans isKey
      have notSlash : path ≠ "/" := by
        rintro rfl
        exact isInner.ends rfl
      have notRoot : root ++ path ≠ "/" := by
        intro same
        have last := getLast?_append_inner isInner root.toList
        rw [← String.toList_append, same] at last
        exact isInner.ends last.symm
      rw [Path.fault?_eq_none_iff, Path.fault?_eq_none_iff, String.toList_append,
        isInner_append_iff starts isInner]
      simp only [notRoot, notSlash, false_or, imp_false]
      constructor
      · intro isFront
        refine ⟨.inr isFront, ?_⟩
        rintro rfl
        exact isFront.ends rfl
      · rintro ⟨rfl | isFront, isOther⟩
        · exact absurd rfl isOther
        · exact isFront

/-! ## Keys of a session -/

/-- A session's root is empty or starts with a slash. -/
theorem root_of_accepted {arguments : Table Value} {options : SessionOptions}
    (accepted : SessionOptions.ofArguments arguments = .ok options) :
    options.root = "" ∨ options.root.toList.head? = some '/' := by
  unfold SessionOptions.ofArguments SessionOptions.checkRoot at accepted
  split at accepted
  · split at accepted
    · next isRoot =>
      cases accepted
      exact isRoot
    · cases accepted
  all_goals cases accepted

/-- **The keys of a session.** Each path has a key below the root of each session, different paths
have different keys, and the key of a path is a path again exactly if the root is empty or a path
itself, where below `/` there is only `/`. -/
theorem keys_areProper_iff {arguments : Table Value} {options : SessionOptions}
    (accepted : SessionOptions.ofArguments arguments = .ok options) :
    (∀ path, Path.fault? path = none → ∃ key, below options.root path = .ok key) ∧
      (∀ path other, Path.fault? path = none → Path.fault? other = none →
        below options.root path = below options.root other → path = other) ∧
      ∀ path key, Path.fault? path = none → below options.root path = .ok key →
        (IsProper options.root path key ↔ IsTidy options.root path) := by
  refine ⟨?_, ?_, ?_⟩
  · intro path isPath
    exact exists_below isPath options.root
  · intro path other isPath isOther same
    exact below_injective isPath isOther same
  · intro path key isPath isKey
    exact below_isProper_iff (root_of_accepted accepted) isPath isKey

/-- The key of `/a` below `/test` is a path. -/
theorem keys_areProper_below_test : IsProper "/test" "/a" "/test/a" := by
  have accepted :
      SessionOptions.ofArguments [("root", .text "/test")] = .ok ⟨"/test", .int 5, .int 1, []⟩ :=
    rfl
  exact ((keys_areProper_iff accepted).2.2 "/a" "/test/a" (by decide) rfl).mpr
    (.inr ⟨by decide, by decide⟩)

/-- A root may end with a slash, and then the key of a path has an empty segment. -/
theorem key_has_emptySegment :
    SessionOptions.checkRoot (.text "/a/") = .ok "/a/" ∧ '\x00' ∉ "/a/".toList ∧
      Path.fault? "/b" = none ∧
      below "/a/" "/b" = .ok "/a//b" ∧ ¬IsProper "/a/" "/b" "/a//b" :=
  ⟨rfl, by decide, by decide, rfl, by decide⟩

end Key

end WatchedNode
