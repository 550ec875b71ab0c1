/-
**The grammar of paths, and what lies above one.**

A path is `/`, or names with a slash before each (`Path.IsPath`). The tests of a text as a path look
at its ends and for pairs of slashes, and the segments are the pieces between slashes without the
empty ones; on paths both agree with the grammar.

* `Path.pieces_slashed`, `Path.slashed_pieces`: putting slashes before pieces, and taking a text
  apart at its slashes;
* `Path.fault?_eq_none_iff_isPath`: the tests find no fault in paths, and in nothing else;
* `Path.segments_join`, `Path.IsPath.join_segments`: the segments of a path are its names, and make
  up the path again;
* `Path.mem_wayTo_iff`: the directories on the way to a path are those above it.
-/
import WatchedNode.Proofs.Ensuring

namespace WatchedNode

namespace Path

/-! ## Paths -/

/-- What may stand after a slash of a path. -/
structure IsName (name : String) : Prop where
  isSegment : IsSegment name
  isPlain : '\x00' ∉ name.toList

instance (name : String) : Decidable (IsSegment name) := inferInstanceAs (Decidable (_ ∧ _))

instance (name : String) : Decidable (IsName name) :=
  decidable_of_iff (IsSegment name ∧ '\x00' ∉ name.toList)
    ⟨fun both => ⟨both.1, both.2⟩, fun isName => ⟨isName.isSegment, isName.isPlain⟩⟩

/-- **What a path is**: `/`, or names with a slash before each of them. -/
inductive IsPath : String → Prop
  | root : IsPath "/"
  | inner {names : List String} (isSome : names ≠ []) (areNames : ∀ name ∈ names, IsName name) :
      IsPath (join names)

/-! ## Pieces -/

theorem pieces_eq_splitOn (letters : List Char) : pieces letters = letters.splitOn '/' := by
  induction letters with
  | nil => rfl
  | cons letter rest step =>
    rw [List.splitOn, List.splitOnP_cons_eq_if_modifyHead, ← List.splitOn, ← step, pieces]
    by_cases isSlash : letter = '/'
    · simp [isSlash]
    · cases found : pieces rest with
      | nil => exact absurd (step.symm.trans found) (List.splitOn_ne_nil '/' rest)
      | cons piece more => simp [isSlash]

theorem pieces_ne_nil (letters : List Char) : pieces letters ≠ [] :=
  pieces_eq_splitOn letters ▸ List.splitOn_ne_nil '/' letters

/-- A slash parts the pieces before it from those after it. -/
theorem pieces_append_slash (front back : List Char) :
    pieces (front ++ '/' :: back) = pieces front ++ pieces back := by
  simp only [pieces_eq_splitOn]
  exact List.splitOnP_append_cons front back rfl

/-- Pieces with a slash before each. -/
def slashed (parts : List (List Char)) : List Char := parts.flatMap ('/' :: ·)

theorem toList_join (names : List String) :
    (join names).toList = slashed (names.map String.toList) := by
  simp [join, slashed, String.toList_join, List.flatMap_map]

theorem slashed_eq_intercalate {parts : List (List Char)} (isSome : parts ≠ []) :
    slashed parts = '/' :: ['/'].intercalate parts := by
  induction parts with
  | nil => exact absurd rfl isSome
  | cons part more step =>
    cases more with
    | nil => simp [slashed]
    | cons next more =>
      rw [List.intercalate_cons_cons, slashed, List.flatMap_cons, ← slashed,
        step (List.cons_ne_nil next more)]
      simp

/-- **Pieces with slashes before them are taken apart again**; before the first slash there is
nothing. -/
theorem pieces_slashed {parts : List (List Char)} (arePlain : ∀ part ∈ parts, '/' ∉ part) :
    pieces (slashed parts) = [] :: parts := by
  by_cases isSome : parts = []
  · rw [isSome]
    rfl
  · rw [slashed_eq_intercalate isSome, pieces, if_pos rfl, pieces_eq_splitOn,
      List.splitOn_intercalate '/' arePlain isSome]

/-- **The pieces of a text make up the text again**, with a slash more. -/
theorem slashed_pieces (letters : List Char) : slashed (pieces letters) = '/' :: letters := by
  rw [slashed_eq_intercalate (pieces_ne_nil letters), pieces_eq_splitOn, List.intercalate_splitOn]

theorem mem_slashed {parts : List (List Char)} {letter : Char} (isOther : letter ≠ '/') :
    letter ∈ slashed parts ↔ ∃ part ∈ parts, letter ∈ part := by
  simp [slashed, isOther]

/-- There is an empty piece after a slash exactly if two slashes stand side by side, or one at the
end. -/
theorem nil_mem_tail_pieces (letters : List Char) :
    [] ∈ (pieces letters).tail ↔ hasDoubleSlash letters = true ∨ letters.getLast? = some '/' := by
  induction letters using hasDoubleSlash.induct with
  | case1 rest => simp [pieces, hasDoubleSlash]
  | case2 letter rest single step =>
    cases rest with
    | nil => by_cases isSlash : letter = '/' <;> simp [pieces, hasDoubleSlash, isSlash]
    | cons next more =>
      rw [List.getLast?_cons_cons, hasDoubleSlash.eq_2 _ _ single, ← step, pieces]
      split
      · next isSlash =>
        -- The first piece after this slash begins with the next letter, which is no slash.
        have isOther : next ≠ '/' := fun isNext => single more isSlash (by rw [isNext])
        obtain ⟨piece, others, found⟩ := List.exists_cons_of_ne_nil (pieces_ne_nil more)
        simp [pieces, isOther, found]
      · cases pieces (next :: more) <;> simp
  | case3 => simp [pieces, hasDoubleSlash]

/-! ## The tests -/

/-- **What the tests let pass** besides `/`: pieces that are not empty and hold no slash and no null
character, with a slash before each. -/
theorem isInner_iff (letters : List Char) :
    IsInner letters ↔
      ∃ parts, parts ≠ [] ∧ (∀ part ∈ parts, part ≠ [] ∧ '/' ∉ part ∧ '\x00' ∉ part) ∧
        letters = slashed parts := by
  have notNull : '\x00' ≠ '/' := by decide
  constructor
  · rintro ⟨starts, ends, single, plain⟩
    obtain ⟨rest, rfl⟩ := List.head?_eq_some_iff.mp starts
    refine ⟨pieces rest, pieces_ne_nil rest,
      fun part isThere => ⟨?_, not_mem_pieces rest part isThere, ?_⟩,
      (slashed_pieces rest).symm⟩
    · rintro rfl
      have isEmpty : [] ∈ (pieces ('/' :: rest)).tail := isThere
      rcases (nil_mem_tail_pieces _).mp isEmpty with double | isLast
      · exact absurd double (by simp [single])
      · exact ends isLast
    · intro isNull
      rw [← slashed_pieces rest, mem_slashed notNull] at plain
      exact plain ⟨part, isThere, isNull⟩
  · rintro ⟨parts, isSome, areFine, rfl⟩
    have noneEmpty := nil_mem_tail_pieces (slashed parts)
    rw [pieces_slashed fun part isThere => (areFine part isThere).2.1] at noneEmpty
    obtain ⟨single, ends⟩ := not_or.mp (mt noneEmpty.mpr fun isThere => (areFine [] isThere).1 rfl)
    refine ⟨by rw [slashed_eq_intercalate isSome]; rfl, ends, Bool.eq_false_iff.mpr single, ?_⟩
    rw [mem_slashed notNull]
    rintro ⟨part, isThere, isNull⟩
    exact (areFine part isThere).2.2 isNull

/-- **The tests find no fault in paths, and in nothing else.** -/
theorem fault?_eq_none_iff_isPath (path : String) : fault? path = none ↔ IsPath path := by
  rw [fault?_eq_none_iff, isInner_iff]
  constructor
  · rintro (rfl | ⟨parts, isSome, areFine, letters⟩)
    · exact .root
    · have same : path = join (parts.map String.ofList) := by
        rw [← String.toList_inj, toList_join, letters, List.map_map]
        simp
      rw [same]
      refine .inner (by simpa using isSome) fun name isThere => ?_
      obtain ⟨part, isPart, rfl⟩ := List.mem_map.mp isThere
      obtain ⟨isSome, noSlash, noNull⟩ := areFine part isPart
      exact ⟨⟨fun isEmpty => isSome (by simpa using congrArg String.toList isEmpty), by
        simpa using noSlash⟩,
        by simpa using noNull⟩
  · rintro (_ | ⟨isSome, areNames⟩)
    · exact .inl rfl
    · refine .inr ⟨_, by simpa using isSome, fun part isThere => ?_, toList_join _⟩
      obtain ⟨name, isName, rfl⟩ := List.mem_map.mp isThere
      obtain ⟨⟨isSome, noSlash⟩, noNull⟩ := areNames name isName
      exact ⟨fun isEmpty => isSome (String.toList_inj.mp isEmpty), noSlash, noNull⟩

end Path

/-- A text is taken for a path if no fault is found in it. -/
theorem Value.asPath_text (text : String) :
    (Value.text text).asPath = match Path.fault? text with
      | none => .ok text
      | some fault => .error (.path fault) := by
  simp only [asPath, Path.check]
  cases Path.fault? text <;> rfl

/-- **A value is taken for a path exactly if it is a text that is one**, which stays as it is. -/
theorem Value.asPath_eq_ok_iff {value : Value} {path : String} :
    value.asPath = .ok path ↔ value = .text path ∧ Path.IsPath path := by
  rw [← Path.fault?_eq_none_iff_isPath]
  cases value with
  | text text =>
    rw [asPath_text]
    split
    · next sound =>
      constructor
      · rintro ⟨⟩
        exact ⟨rfl, sound⟩
      · rintro ⟨⟨⟩, -⟩
        rfl
    · next fault found =>
      refine iff_of_false (fun accepted => by cases accepted) ?_
      rintro ⟨⟨⟩, sound⟩
      cases found.symm.trans sound
  | _ => simp [asPath]

/-- What is refused is refused for its value. -/
theorem Value.kind_of_asPath {value : Value} {error : Error}
    (refused : value.asPath = .error error) :
    error.kind = "ValueError" := by
  cases value with
  | text text =>
    rw [asPath_text] at refused
    split at refused
    · cases refused
    · cases refused
      rfl
  | _ =>
    cases refused
    rfl

namespace Path

/-! ## Segments -/

variable {path other : String} {names : List String}

theorem pieces_join (areNames : ∀ name ∈ names, IsName name) :
    pieces (join names).toList = [] :: names.map String.toList := by
  rw [toList_join, pieces_slashed]
  intro part isThere
  obtain ⟨name, isName, rfl⟩ := List.mem_map.mp isThere
  exact (areNames name isName).isSegment.2

/-- **Names that are joined are found again.** -/
theorem segments_join (areNames : ∀ name ∈ names, IsName name) : segments (join names) = names := by
  have areSome : ∀ part ∈ names.map String.toList, decide (part ≠ []) = true := by
    intro part isThere
    obtain ⟨name, isName, rfl⟩ := List.mem_map.mp isThere
    exact decide_eq_true fun isEmpty =>
      (areNames name isName).isSegment.1 (String.toList_inj.mp isEmpty)
  rw [segments, letterSegments, pieces_join areNames, List.filter_cons_of_neg (by simp),
    List.filter_eq_self.mpr areSome, List.map_map]
  simp

/-- A slash parts the segments before it from those after it. -/
theorem segments_append (front back : String) :
    segments (front ++ "/" ++ back) = segments front ++ segments back := by
  have slash : "/".toList = ['/'] := rfl
  simp only [segments, letterSegments, String.toList_append, slash, List.append_assoc,
    List.singleton_append,
    pieces_append_slash, List.filter_append, List.map_append]

namespace IsPath

/-- The segments of a path are names. -/
theorem areNames (isPath : IsPath path) : ∀ name ∈ segments path, IsName name := by
  cases isPath with
  | root => exact List.forall_mem_nil _
  | inner isSome areNames => rwa [segments_join areNames]

theorem segments_ne_nil (isPath : IsPath path) (isOther : path ≠ "/") : segments path ≠ [] := by
  cases isPath with
  | root => exact absurd rfl isOther
  | inner isSome areNames => rwa [segments_join areNames]

/-- **A path is made up of its segments.** -/
theorem join_segments (isPath : IsPath path) (isOther : path ≠ "/") :
    join (segments path) = path := by
  cases isPath with
  | root => exact absurd rfl isOther
  | inner isSome areNames => rw [segments_join areNames]

end IsPath

/-! ## What lies above a path -/

/-- One path lies above the other, which goes on after it with a slash. -/
def IsAbove (above path : String) : Prop := IsPath above ∧ ∃ rest, path = above ++ "/" ++ rest

/-- The directories that have to be there for a path: those above it, and itself unless it is left
out; the top one always is. -/
def IsDue (path : String) (parentsOnly : Bool) (other : String) : Prop :=
  IsAbove other path ∨ (parentsOnly = false ∧ other = path ∧ path ≠ "/")

theorem join_append (front back : List String) :
    join (front ++ back) = join front ++ join back := by
  simp [join, String.join_append]

theorem join_cons (name : String) (more : List String) :
    join (name :: more) = "/" ++ name ++ join more := by
  simp [join, String.join_cons]

/-- Not `/`, in this sense: no path goes on after its first slash with another one. -/
theorem IsAbove.ne_root (isAbove : IsAbove other path) (isPath : IsPath path) : other ≠ "/" := by
  rintro rfl
  obtain ⟨-, rest, rfl⟩ := isAbove
  have letters : ("/" ++ "/" ++ rest).toList = '/' :: '/' :: rest.toList := by simp
  rcases (fault?_eq_none_iff _).mp ((fault?_eq_none_iff_isPath _).mpr isPath) with isRoot | isInner
  · exact absurd (letters.symm.trans (congrArg String.toList isRoot)) (by simp)
  · have single := isInner.single
    rw [letters] at single
    cases single

/-- No path lies above itself. -/
theorem IsAbove.ne (isAbove : IsAbove other path) : path ≠ other := by
  obtain ⟨-, rest, longer⟩ := isAbove
  intro same
  have lengths := congrArg String.length (same.symm.trans longer)
  have slash : "/".length = 1 := rfl
  rw [String.length_append, String.length_append, slash] at lengths
  omega

theorem ne_root_of_segments {front back : List String} (isSome : front ≠ [])
    (parts : segments path = front ++ back) :
    path ≠ "/" := by
  rintro rfl
  exact isSome (List.append_eq_nil_iff.mp parts.symm).1

/-- **What lies above a path has the first ones of its segments**, but not all. -/
theorem isAbove_iff (isPath : IsPath path) :
    IsAbove other path ↔ ∃ front back, front ≠ [] ∧ back ≠ [] ∧ segments path = front ++ back ∧
      other = join front := by
  constructor
  · intro isAbove
    have different := isAbove.ne
    have notRoot := isAbove.ne_root isPath
    obtain ⟨isOther, rest, same⟩ := isAbove
    have parts : segments path = segments other ++ segments rest :=
      same ▸ segments_append other rest
    have isSome := isOther.segments_ne_nil notRoot
    refine ⟨segments other, segments rest, isSome, fun isNone => different ?_, parts,
      (isOther.join_segments notRoot).symm⟩
    -- With the same segments they would be the same path.
    rw [← isPath.join_segments (ne_root_of_segments isSome parts), parts, isNone, List.append_nil,
      isOther.join_segments notRoot]
  · rintro ⟨front, back, isSome, isMore, parts, rfl⟩
    obtain ⟨name, more, rfl⟩ := List.exists_cons_of_ne_nil isMore
    refine ⟨.inner isSome fun other isThere =>
      isPath.areNames other (parts ▸ List.mem_append_left _ isThere),
      name ++ join more, ?_⟩
    rw [← isPath.join_segments (ne_root_of_segments isSome parts), parts, join_append, join_cons,
      String.append_assoc, String.append_assoc]

/-- The directories below one are made up of the first segments. -/
theorem mem_descend {above : String} {below : List String} :
    other ∈ descend above below ↔ ∃ front back, front ≠ [] ∧ below = front ++ back ∧
      other = above ++ join front := by
  induction below generalizing above with
  | nil => simp [descend]
  | cons segment below step =>
    have longer (front : List String) :
        above ++ "/" ++ segment ++ join front = above ++ join (segment :: front) := by
      rw [join_cons, String.append_assoc, String.append_assoc, String.append_assoc]
    rw [descend, List.mem_cons, step]
    constructor
    · rintro (rfl | ⟨front, back, -, rfl, rfl⟩)
      · exact ⟨[segment], below, List.cons_ne_nil _ _,
          rfl, by rw [← longer, join, List.map_nil]; simp⟩
      · exact ⟨segment :: front, back, List.cons_ne_nil _ _, rfl, longer front⟩
    · rintro ⟨front, back, isSome, parts, rfl⟩
      obtain ⟨first, front, rfl⟩ := List.exists_cons_of_ne_nil isSome
      obtain ⟨rfl, rfl⟩ := List.cons.inj parts
      by_cases isNone : front = []
      · subst isNone
        exact .inl (by rw [← longer, join, List.map_nil]; simp)
      · exact .inr ⟨front, back, isNone, rfl, (longer front).symm⟩

/-- **The directories on the way to a path are those that are due to it.** -/
theorem mem_wayTo_iff (isPath : IsPath path) (parentsOnly : Bool) :
    other ∈ wayTo path parentsOnly ↔ IsDue path parentsOnly other := by
  rw [wayTo_eq, mem_descend, IsDue, isAbove_iff isPath]
  simp only [String.empty_append]
  cases parentsOnly with
  | true =>
    rw [stepsTo, if_pos rfl]
    simp only [Bool.true_eq_false, false_and, or_false]
    constructor
    · rintro ⟨front, back, isSome, parts, same⟩
      have isMore : segments path ≠ [] := by
        intro isNone
        rw [isNone] at parts
        exact isSome (List.append_eq_nil_iff.mp parts.symm).1
      refine ⟨front, back ++ [(segments path).getLast isMore], isSome, by simp, ?_, same⟩
      rw [← List.append_assoc, ← parts, List.dropLast_append_getLast]
    · rintro ⟨front, back, isSome, isMore, parts, same⟩
      exact ⟨front, back.dropLast,
        isSome, by rw [parts, List.dropLast_append_of_ne_nil isMore], same⟩
  | false =>
    rw [stepsTo, if_neg Bool.false_ne_true]
    simp only [true_and]
    constructor
    · rintro ⟨front, back, isSome, parts, same⟩
      by_cases isNone : back = []
      · have isInner := ne_root_of_segments isSome parts
        rw [isNone, List.append_nil] at parts
        exact .inr ⟨by rw [same, ← parts, isPath.join_segments isInner], isInner⟩
      · exact .inl ⟨front, back, isSome, isNone, parts, same⟩
    · rintro (⟨front, back, isSome, -, parts, same⟩ | ⟨rfl, isInner⟩)
      · exact ⟨front, back, isSome, parts, same⟩
      · exact ⟨segments other, [], isPath.segments_ne_nil isInner, (List.append_nil _).symm,
          (isPath.join_segments isInner).symm⟩

end Path

/-! ## Directories that are ensured -/

/-- **A call ensures the directories that are due to its path**: they are those that it has dealt
with and those before it, and nothing is sent for others. -/
structure EnsuresDue (handle : Handle) (path : String) (parentsOnly : Bool)
    (done rest : List String) (visits : List Visit) (session : Session)
    (verdict : Verdict Point) : Prop
    extends Ensures handle path parentsOnly done rest visits session verdict where
  areDue : ∀ other, other ∈ done ++ rest ↔ Path.IsDue path parentsOnly other
  sent : ∀ call ∈ sentIn visits, ∃ other, Path.IsDue path parentsOnly other ∧
    IsFor session.options.root other call

theorem Passage.ensuresDue {handle : Handle} {path : String} {parentsOnly : Bool}
    {visits : List Visit} {session : Session} {verdict : Verdict Point} (isPath : Path.IsPath path)
    (passage :
      Passage handle Session.Learns (.ensure (.text path) parentsOnly) visits session verdict) :
    ∃ done rest, EnsuresDue handle path parentsOnly done rest visits session verdict := by
  obtain ⟨done, rest, ensures⟩ := passage.ensures
  have areDue (other : String) : other ∈ done ++ rest ↔ Path.IsDue path parentsOnly other := by
    rw [← ensures.way, Path.mem_wayTo_iff isPath]
  refine ⟨done, rest, ensures, areDue, fun call isSent => ?_⟩
  obtain ⟨other, isFor, isThere⟩ := ensures.stage.sent isSent
  refine ⟨other, (areDue other).mp ?_, isFor⟩
  rcases isThere with isDone | isNext
  · exact List.mem_append_left _ isDone
  · exact List.mem_append_right _ (List.mem_of_head? isNext)

/-! ## Paths as they are accepted -/

/-- **Paths are accepted by their grammar, and split by it.** A value is accepted as a path exactly
if it is a text that is `/`, or names with a slash before each, and stays as it is; all others are
refused for their value. What is accepted is made up of its segments, names that are joined are
found again, and `/` has no segments. So a call that ensures the directories for an accepted path
does so for what lies above it, and itself unless it is left out, and for nothing else. -/
theorem Path.splits_into_names :
    (∀ (value : Value) (path : String), value.asPath = .ok path ↔
      value = .text path ∧ IsPath path) ∧
      (∀ (value : Value) (error : Error), value.asPath = .error error → error.kind = "ValueError") ∧
      (∀ path, (Value.text path).asPath = .ok path → path ≠ "/" → join (segments path) = path) ∧
      (∀ names, (∀ name ∈ names, IsName name) → segments (join names) = names) ∧ segments "/" = [] ∧
      ∀ (path : String) (parentsOnly : Bool), (Value.text path).asPath = .ok path →
        ∀ (handle : Handle) (visits : List Visit) (session : Session) (verdict : Verdict Point),
          Passage handle Session.Learns (.ensure (.text path) parentsOnly) visits session verdict →
            ∃ done rest, EnsuresDue handle path parentsOnly done rest visits session verdict := by
  refine ⟨fun value path => Value.asPath_eq_ok_iff, fun value error => Value.kind_of_asPath,
    ?_, ?_, rfl, ?_⟩
  · intro path accepted isOther
    exact (Value.asPath_eq_ok_iff.mp accepted).2.join_segments isOther
  · intro names areNames
    exact segments_join areNames
  · intro path parentsOnly accepted handle visits session verdict passage
    exact passage.ensuresDue (Value.asPath_eq_ok_iff.mp accepted).2

namespace Loop

/-- The path `/a/b` has one directory above it, which a call ensures that leaves the path itself
out. -/
theorem splits_into_names_of_climbing :
    (Value.text "/a/b").asPath = .ok "/a/b" ∧ Path.join (Path.segments "/a/b") = "/a/b" ∧
      Path.segments (Path.join ["a", "b"]) = ["a", "b"] ∧
        ∃ (turned : Turned) (session : Session) (done rest : List String),
          (climbing.settle 20).service.sessions[0]? = some session ∧
            EnsuresDue 0 "/a/b" true done rest turned.1 session turned.2 ∧
              done ++ rest = ["/a"] := by
  have accepted : (Value.text "/a/b").asPath = .ok "/a/b" := rfl
  obtain ⟨-, -, isWhole, areFound, -, ensuresDue⟩ := Path.splits_into_names
  obtain ⟨session, found⟩ : ∃ session, climbing.service.sessions[0]? = some session := ⟨_, rfl⟩
  have lingers : climbing.Lingers 0 0 (.begin (.ensure (.text "/a/b") true)) := ⟨rfl, by
    rintro ⟨known, ⟨⟩, ⟨⟩⟩⟩
  have later : Reaches anything climbing (climbing.settle 20) := settle_reaches 20 climbing
  obtain ⟨turned, attended⟩ :=
    Reaches.attended areOthers_learns climbing_reaches found lingers later
  obtain ⟨⟨session', found', passage⟩, -⟩ :=
    Attended.passage areOthers_learns climbing_reaches found lingers attended
  obtain ⟨done, rest, due⟩ := ensuresDue "/a/b" true accepted 0 turned.1 session' turned.2 passage
  refine ⟨accepted, isWhole "/a/b" accepted (by decide), areFound ["a", "b"] (by decide), turned,
    session', done, rest,
    found', due, ?_⟩
  exact due.way.symm.trans (by decide)

end Loop

end WatchedNode
