/-
**Directories that are known to exist.**

A session remembers the directories of which it has heard that they exist. A task that ensures
directories goes from one to the next, each a child of the one before; where it stands, the
directory above is known (`Point.IsOnWay`).

* `Path.wayTo_isChain`, `Path.IsChild.unique`: where a way leads, and that a directory has one
  parent;
* `Session.ensures_comes`: a task passes the directories that are known, and stops at the first that
  is not;
* `Visit.turn_heads`: what a turn of any task is, as far as directories go; from it follow what the
  session comes to know in it (`Visit.turn_knows`), and that the task stays on its way
  (`Visit.turn_isOnWay`).
-/
import WatchedNode.Proofs.Keys
import WatchedNode.Proofs.Store.Passage

namespace WatchedNode

/-! ## Paths of directories -/

namespace Path

/-- What stands between two slashes. -/
def IsSegment (segment : String) : Prop := segment ≠ "" ∧ '/' ∉ segment.toList

theorem not_mem_pieces (letters : List Char) : ∀ piece ∈ pieces letters, '/' ∉ piece := by
  induction letters with
  | nil => simp [pieces]
  | cons letter rest step =>
    unfold pieces
    split
    · simpa using step
    · next isOther =>
      cases found : pieces rest with
      | nil => simpa using Ne.symm isOther
      | cons piece more =>
        rw [found] at step
        simp only [List.forall_mem_cons] at step ⊢
        exact ⟨by simpa using ⟨Ne.symm isOther, step.1⟩, step.2⟩

theorem segments_areSegments (path : String) : ∀ segment ∈ segments path, IsSegment segment := by
  intro segment isThere
  obtain ⟨piece, isPiece, rfl⟩ := List.mem_map.mp isThere
  obtain ⟨isPiece, isSome⟩ := List.mem_filter.mp isPiece
  refine ⟨?_, ?_⟩
  · intro isEmpty
    have none : piece = [] := by simpa using congrArg String.toList isEmpty
    simp [none] at isSome
  · rw [String.toList_ofList]
    exact not_mem_pieces _ piece isPiece

/-- One directory is in the other; the top one has no name. -/
def IsChild (above path : String) : Prop :=
  ∃ segment, IsSegment segment ∧ path = above ++ "/" ++ segment

/-- What stands after the last slash, and what before it. -/
theorem append_slash_inj {front front' back back' : List Char} (plain : '/' ∉ back)
    (plain' : '/' ∉ back') (same : front ++ '/' :: back = front' ++ '/' :: back') :
    front = front' ∧ back = back' := by
  induction front generalizing front' with
  | nil =>
    cases front' with
    | nil => exact ⟨rfl, (List.cons.inj same).2⟩
    | cons letter rest =>
      rw [(List.cons.inj same).2] at plain
      exact absurd (List.mem_append_right _ List.mem_cons_self) plain
  | cons letter rest step =>
    cases front' with
    | nil =>
      rw [← (List.cons.inj same).2] at plain'
      exact absurd (List.mem_append_right _ List.mem_cons_self) plain'
    | cons letter' rest' =>
      obtain ⟨rfl, later⟩ := List.cons.inj same
      obtain ⟨rfl, rfl⟩ := step later
      exact ⟨rfl, rfl⟩

/-- **A directory has one parent.** -/
theorem IsChild.unique {above other path : String} (isChild : IsChild above path)
    (isOther : IsChild other path) :
    above = other := by
  obtain ⟨segment, isSegment, rfl⟩ := isChild
  obtain ⟨segment', isSegment', same⟩ := isOther
  have letters := congrArg String.toList same
  have slash : "/".toList = ['/'] := rfl
  simp only [String.toList_append, List.append_assoc, slash, List.singleton_append] at letters
  exact String.toList_inj.mp (append_slash_inj isSegment.2 isSegment'.2 letters).1

/-- Each directory on the way is in the one before it. -/
theorem descend_areChildren (above : String) (below : List String)
    (areSegments : ∀ segment ∈ below, IsSegment segment) :
    (above :: descend above below).IsChain IsChild := by
  induction below generalizing above with
  | nil => exact .singleton above
  | cons segment below step =>
    refine .cons_cons ⟨segment, areSegments segment List.mem_cons_self,
      rfl⟩ (step _ fun other isThere => ?_)
    exact areSegments other (List.mem_cons_of_mem _ isThere)

/-- The directories on the way to a path: its ancestors and itself, without the path itself if it is
left out. -/
def wayTo (path : String) (parentsOnly : Bool) : List String :=
  if parentsOnly then (ancestors path).dropLast else ancestors path

/-- The segments on that way. -/
def stepsTo (path : String) (parentsOnly : Bool) : List String :=
  if parentsOnly then (segments path).dropLast else segments path

theorem stepsTo_areSegments (path : String) (parentsOnly : Bool) :
    ∀ segment ∈ stepsTo path parentsOnly, IsSegment segment := by
  intro segment isThere
  unfold stepsTo at isThere
  split at isThere
  · exact segments_areSegments path segment (List.dropLast_subset _ isThere)
  · exact segments_areSegments path segment isThere

theorem descend_dropLast (above : String) (below : List String) :
    descend above below.dropLast = (descend above below).dropLast := by
  induction below generalizing above with
  | nil => rfl
  | cons segment below step =>
    cases below with
    | nil => rfl
    | cons next below =>
      rw [List.dropLast_cons_cons, descend, step]
      rfl

theorem wayTo_eq (path : String) (parentsOnly : Bool) :
    wayTo path parentsOnly = descend "" (stepsTo path parentsOnly) := by
  unfold wayTo stepsTo ancestors
  split
  · exact (descend_dropLast "" (segments path)).symm
  · rfl

/-- **A way leads down**: each directory on it is in the one before it. -/
theorem wayTo_isChain (path : String) (parentsOnly : Bool) :
    ("" :: wayTo path parentsOnly).IsChain IsChild := by
  rw [wayTo_eq]
  exact descend_areChildren "" _ (stepsTo_areSegments path parentsOnly)

end Path

/-! ## Keys of directories -/

namespace Key

/-- Letters without a slash have no two of them side by side. -/
theorem hasDoubleSlash_of_plain {letters : List Char} (plain : '/' ∉ letters) :
    Path.hasDoubleSlash letters = false := by
  induction letters using Path.hasDoubleSlash.induct with
  | case1 rest => exact absurd List.mem_cons_self plain
  | case2 letter rest _ step =>
    rw [Path.hasDoubleSlash]
    · exact step fun isThere => plain (List.mem_cons_of_mem _ isThere)
    · rintro _ rfl
      exact absurd List.mem_cons_self plain
  | case3 => rfl

/-- A name after a slash may stand after a root. -/
theorem isRelative_segment {segment : String} (isSegment : Path.IsSegment segment) :
    isRelative ('/' :: segment.toList) = true := by
  obtain ⟨isSome, plain⟩ := isSegment
  obtain ⟨letter, rest, name⟩ : ∃ letter rest, segment.toList = letter :: rest :=
    List.exists_cons_of_ne_nil fun isEmpty => isSome (String.toList_inj.mp isEmpty)
  have isOther : letter ≠ '/' := by
    rintro rfl
    exact plain (name ▸ List.mem_cons_self)
  have isSingle : Path.hasDoubleSlash ('/' :: segment.toList) = false := by
    rw [name, Path.hasDoubleSlash, ← name]
    · exact hasDoubleSlash_of_plain plain
    · intro _ _ same
      exact isOther (List.cons.inj same).1
  have isLast : ('/' :: segment.toList).getLast? ≠ some '/' := by
    rw [name, List.getLast?_cons_cons, ← name]
    intro isLast
    exact plain (List.mem_of_getLast? isLast)
  simp [isRelative, isSingle, isLast]

/-- What may stand after a root may stand there with more of the kind. -/
theorem isRelative_append {front back : List Char} (isFront : isRelative front = true)
    (isBack : isRelative back = true) : isRelative (front ++ back) = true := by
  simp only [isRelative, Bool.and_eq_true, decide_eq_true_eq, Bool.not_eq_true', ne_eq, decide_not,
    decide_eq_false_iff_not] at isFront isBack ⊢
  obtain ⟨⟨starts, ends⟩, single⟩ := isFront
  obtain ⟨⟨starts', ends'⟩, single'⟩ := isBack
  refine ⟨⟨?_, ?_⟩, ?_⟩
  · rw [List.head?_append, starts, Option.some_or]
  · rw [List.getLast?_append]
    cases last : back.getLast? with
    | none => simp [List.getLast?_eq_none_iff.mp last] at starts'
    | some letter => simpa [last] using ends'
  · rw [Bool.eq_false_iff]
    intro double
    rcases (Path.hasDoubleSlash_append front back).mp double with isIn | isIn | ⟨isLast, -⟩
    · simp [single] at isIn
    · simp [single'] at isIn
    · exact ends isLast

end Key

namespace Path

/-- The top one, or a directory that may stand below a root. -/
def IsPlace (path : String) : Prop := path = "" ∨ Key.isRelative path.toList = true

/-- A child of such a directory may stand below a root as well. -/
theorem IsChild.isRelative {above path : String} (isChild : IsChild above path)
    (isPlace : IsPlace above) :
    Key.isRelative path.toList = true := by
  obtain ⟨segment, isSegment, rfl⟩ := isChild
  have isLast := Key.isRelative_segment isSegment
  have letters : (above ++ "/" ++ segment).toList = above.toList ++ '/' :: segment.toList := by
    simp [String.toList_append]
  rw [letters]
  rcases isPlace with rfl | isRelative
  · exact isLast
  · exact Key.isRelative_append isRelative isLast

end Path

/-! ## Calls for directories -/

namespace Directory

/-- The call that asks for a directory. -/
def asking (root path : String) : StoreCall := .read (root ++ path)

/-- The call that makes a directory, if it is not there. -/
def making (root path : String) : StoreCall :=
  .write (root ++ path) none true { isThere := some false }

/-- What the store says to a call shows that the directory is there. -/
inductive Shows (root path : String) : StoreCall → Except Error Record → Prop
  | found (record : Record) : Shows root path (asking root path) (.ok record)
  | made (record : Record) : Shows root path (making root path) (.ok record)
  | wasThere (message : String) (payload : Value) :
      Shows root path (making root path) (.error (.store .alreadyExist message payload))

end Directory

open Directory (asking making Shows)

/-! ## Sessions -/

namespace Session

@[simp] theorem mem_remember {path other : String} {session : Session} :
    other ∈ (session.remember path).ensured ↔ other ∈ session.ensured ∨ other = path := by
  unfold remember
  split
  · next isKnown =>
    rw [List.contains_iff_mem] at isKnown
    constructor
    · exact .inl
    · rintro (isThere | rfl)
      · exact isThere
      · exact isKnown
  · simp

/-- The top directory is always there. -/
def Knows (path : String) (session : Session) : Prop := path = "" ∨ path ∈ session.ensured

/-- **What is remembered is closed under parents.** -/
def IsRooted (session : Session) : Prop :=
  ∀ path ∈ session.ensured,
    (∃ above, Path.IsChild above path) ∧ ∀ above, Path.IsChild above path → session.Knows above

/-- A directory, with others below it, is in one that is known. -/
structure Leads (path : String) (below : List String) (session : Session) : Prop where
  parent : ∃ above, Path.IsChild above path ∧ session.Knows above
  isRelative : Key.isRelative path.toList = true
  areSegments : ∀ segment ∈ below, Path.IsSegment segment

/-- A session may come to know more directories. -/
structure Learns (before after : Session) : Prop where
  options : after.options = before.options
  ensured : ∀ path ∈ before.ensured, path ∈ after.ensured

theorem Learns.refl (session : Session) : Learns session session := ⟨rfl, fun _ isThere => isThere⟩

theorem Learns.trans {first second third : Session} (left : Learns first second)
    (right : Learns second third) :
    Learns first third :=
  ⟨right.options.trans left.options,
    fun path isThere => right.ensured path (left.ensured path isThere)⟩

theorem Learns.knows {before after : Session} (learns : Learns before after) {path : String}
    (knows : before.Knows path) : after.Knows path := knows.imp_right (learns.ensured path)

theorem Learns.leads {before after : Session} (learns : Learns before after) {path : String}
    {below : List String} (leads : before.Leads path below) : after.Leads path below := by
  obtain ⟨above, isChild, knows⟩ := leads.parent
  exact ⟨⟨above, isChild, learns.knows knows⟩, leads.isRelative, leads.areSegments⟩

/-- What a task does that has come to the directories below one. -/
inductive Comes (above : String) (below : List String) (session : Session)
    (turn : SessionTurn) : Prop
  /-- All of them are known. -/
  | arrives (areKnown : ∀ path ∈ Path.descend above below, path ∈ session.ensured)
      (same : turn = session.ends (.returned .nothing))
  /-- The first that is not known is asked for. -/
  | asks {passed : List String} {here : String} {rest : List String}
      (way : Path.descend above below = passed ++ here :: Path.descend here rest)
      (areKnown : ∀ path ∈ passed, path ∈ session.ensured) (isUnknown : here ∉ session.ensured)
      (leads : session.Leads here rest)
      (same : turn = session.request (.ensuring here rest) (asking session.options.root here))

theorem Comes.ensured {above : String} {below : List String} {session : Session}
    {turn : SessionTurn} (comes : Comes above below session turn) :
    turn.1.ensured = session.ensured := by
  cases comes with
  | arrives _ same => rw [same, ends]
  | asks _ _ _ _ same =>
    rw [same, request]
    split <;> rfl

/-- **A task passes the directories that are known**, and stops at the first that is not. -/
theorem ensures_comes {above : String} {below : List String} {session : Session}
    (knows : session.Knows above) (isPlace : Path.IsPlace above)
    (areSegments : ∀ segment ∈ below, Path.IsSegment segment) :
    Comes above below session (session.ensures above below) := by
  induction below generalizing above with
  | nil => exact .arrives (List.forall_mem_nil _) rfl
  | cons segment below step =>
    have isChild : Path.IsChild above (above ++ "/" ++ segment) :=
      ⟨segment, areSegments segment List.mem_cons_self, rfl⟩
    have areSegments' : ∀ other ∈ below, Path.IsSegment other := fun other isThere =>
      areSegments other (List.mem_cons_of_mem _ isThere)
    have isRelative := isChild.isRelative isPlace
    unfold ensures
    dsimp only
    split
    · next isKnown =>
      rw [List.contains_iff_mem] at isKnown
      cases step (.inr isKnown) (.inr isRelative) areSegments' with
      | arrives areKnown same =>
        refine .arrives (fun path isThere => ?_) same
        rcases List.mem_cons.mp isThere with rfl | isThere
        · exact isKnown
        · exact areKnown path isThere
      | @asks passed here rest way areKnown isUnknown leads same =>
        have way : Path.descend above (segment :: below) =
            (above ++ "/" ++ segment) :: passed ++ here :: Path.descend here rest :=
          congrArg ((above ++ "/" ++ segment) :: ·) way
        refine .asks way (fun path isThere => ?_) isUnknown leads same
        rcases List.mem_cons.mp isThere with rfl | isThere
        · exact isKnown
        · exact areKnown path isThere
    · next isUnknown =>
      rw [List.contains_iff_mem] at isUnknown
      refine @Comes.asks above _ session _ [] _ below rfl (List.forall_mem_nil _) isUnknown
        ⟨⟨above, isChild, knows⟩, isRelative, areSegments'⟩ ?_
      rw [Key.below_relative isRelative]
      rfl

end Session

/-! ## Points on the way -/

/-- The directory that a request is for, and those below it. -/
def Errand.directory? : Errand → Option (String × List String)
  | .ensuring path below | .making path below => some (path, below)
  | _ => none

/-- The request is for a directory that is in one that is known. -/
def Errand.IsOnWay (session : Session) (call : StoreCall) : Errand → Prop
  | .ensuring path below =>
    call = Directory.asking session.options.root path ∧ session.Leads path below
  | .making path below =>
    call = Directory.making session.options.root path ∧ session.Leads path below
  | _ => True

/-- Where a task is that ensures directories: each is in one that is known. -/
def Point.IsOnWay (session : Session) : Point → Prop
  | .ensure above below =>
    session.Knows above ∧ Path.IsPlace above ∧ ∀ segment ∈ below, Path.IsSegment segment
  | .ask errand call _ | .asked errand call _ => errand.IsOnWay session call
  | _ => True

theorem Session.Learns.isOnWay {before after : Session} (learns : Session.Learns before after)
    {point : Point} (isOnWay : point.IsOnWay before) : point.IsOnWay after := by
  have ofErrand {errand : Errand} {call : StoreCall} (isOnWay : errand.IsOnWay before call) :
      errand.IsOnWay after call := by
    cases errand with
    | ensuring path below => exact ⟨learns.options ▸ isOnWay.1, learns.leads isOnWay.2⟩
    | making path below => exact ⟨learns.options ▸ isOnWay.1, learns.leads isOnWay.2⟩
    | _ => trivial
  cases point with
  | ensure above below => exact ⟨learns.knows isOnWay.1, isOnWay.2⟩
  | ask errand call failures => exact ofErrand isOnWay
  | asked errand call failures => exact ofErrand isOnWay
  | _ => trivial

/-! ## Turns beside the way -/

/-- A task that stands there does not ensure directories. -/
def Point.IsBeside : Point → Prop
  | .ensure .. | .begin (.ensure ..) => False
  | .ask errand _ _ | .asked errand _ _ => errand.directory? = none
  | _ => True

theorem Point.IsBeside.isOnWay {point : Point} (isBeside : point.IsBeside) (session : Session) :
    point.IsOnWay session := by
  have ofErrand {errand : Errand} (isOther : errand.directory? = none) (call : StoreCall) :
      errand.IsOnWay session call := by
    cases errand with
    | ensuring path below => cases isOther
    | making path below => cases isOther
    | _ => trivial
  cases point with
  | ensure above below => exact isBeside.elim
  | ask errand call failures => exact ofErrand isBeside call
  | asked errand call failures => exact ofErrand isBeside call
  | _ => trivial

theorem Point.IsBeside.directory {point : Point} (isBeside : point.IsBeside) {errand : Errand}
    {call : StoreCall} (isMade : point.made? = some (errand, call)) : errand.directory? = none := by
  cases point with
  | ask errand' call' failures =>
    cases isMade
    exact isBeside
  | asked errand' call' failures =>
    cases isMade
    exact isBeside
  | _ => cases isMade

namespace Session

/-- A turn that has nothing to do with directories. -/
structure Spares (session : Session) (turn : SessionTurn) : Prop where
  ensured : turn.1.ensured = session.ensured
  next : ∀ point, turn.2.2.next? = some point → point.IsBeside

variable {handle : Handle} {next self : TaskId} {session : Session}

theorem Spares.of_over {turn : SessionTurn} (ensured : turn.1.ensured = session.ensured)
    (isOver : turn.2.2.next? = none) : Spares session turn :=
  ⟨ensured, fun _ isNext => by cases isOver.symm.trans isNext⟩

theorem Spares.of_next {turn : SessionTurn} {point : Point}
    (ensured : turn.1.ensured = session.ensured) (isNext : turn.2.2.next? = some point)
    (isBeside : point.IsBeside) : Spares session turn := by
  refine ⟨ensured, fun other isOther => ?_⟩
  cases isNext.symm.trans isOther
  exact isBeside

theorem Spares.after {turn : SessionTurn} {middle : Session}
    (ensured : middle.ensured = session.ensured) (spares : Spares middle turn)
    (effects : List SessionEffect) : Spares session (after effects turn) :=
  ⟨spares.ensured.trans ensured, spares.next⟩

theorem request_spares {errand : Errand} (isOther : errand.directory? = none) (call : StoreCall) :
    Spares session (session.request errand call) := by
  unfold request
  split
  · exact .of_next rfl rfl isOther
  · exact .of_over rfl rfl

theorem requestOf_spares {errand : Errand} (isOther : errand.directory? = none)
    (call : Except Error StoreCall) :
    Spares session (session.requestOf errand call) := by
  unfold requestOf
  split
  · exact request_spares isOther _
  · exact .of_over rfl rfl

theorem begins_spares (isSlow : Bool) {operation : Operation}
    (isBeside : (Point.begin operation).IsBeside) :
    Spares session (session.begins isSlow operation) := by
  cases operation with
  | ensure path parentsOnly => exact isBeside.elim
  | start =>
    unfold begins
    dsimp only
    split
    · exact .of_over rfl rfl
    · exact request_spares rfl _
  | stop =>
    refine ⟨rfl, fun point isNext => ?_⟩
    unfold begins at isNext
    dsimp only at isNext
    split at isNext
    · cases isNext
      trivial
    · cases isNext
  | look path watcher => exact requestOf_spares rfl _
  | fetch path watcher decompress => exact requestOf_spares rfl _
  | set path content previous index create compress => exact requestOf_spares rfl _
  | delete path previous index => exact requestOf_spares rfl _

@[simp] theorem arm_ensured (key : String) (watcher : Option Subscriber) (index : Option Int) :
    (session.arm handle next key watcher index).1.ensured = session.ensured := by
  unfold arm
  split
  · rfl
  · split <;> rfl

theorem receives_spares {errand : Errand} (isOther : errand.directory? = none) (key : String)
    (outcome : Except Error Record) :
    Spares session (session.receives handle next errand key outcome) := by
  cases outcome with
  | ok record =>
    show Spares session (session.answered handle next errand key record)
    cases errand with
    | ensuring path below => cases isOther
    | making path below => cases isOther
    | looking watcher => exact .of_over (arm_ensured ..) rfl
    | fetching path watcher decompress => exact .of_over (arm_ensured ..) rfl
    | _ => exact .of_over rfl rfl
  | error error =>
    have refused : Spares session (session.refused errand error) := by
      unfold Session.refused
      split
      · cases isOther
      · exact .of_over rfl rfl
    have missed (payload : Value) :
        Spares session (session.notFound handle next errand key error payload) := by
      cases errand with
      | ensuring path below => cases isOther
      | making path below => cases isOther
      | opening => exact request_spares rfl _
      | looking watcher =>
        unfold notFound
        dsimp only
        split
        · exact .of_over rfl rfl
        · exact .of_over (arm_ensured ..) rfl
      | fetching path watcher decompress =>
        cases path <;> exact .of_over rfl rfl
      | _ => exact .of_over rfl rfl
    unfold receives
    dsimp only
    split
    · exact missed _
    · exact refused

theorem probed_spares (result : Except Error Record) :
    Spares session (session.probed handle next result) := by
  unfold probed
  split
  · exact .of_next (alive_ensured ..) rfl trivial
  · exact .of_next (alive_ensured ..) rfl trivial
  · split
    · exact .of_next rfl rfl trivial
    · exact .of_next rfl rfl trivial
  · exact .of_over rfl rfl

theorem watched_spares (key : String) (watcher : Subscriber) (index : Option Int)
    (result : Except Error Record) :
    Spares session (session.watched handle next self key watcher index result) := by
  unfold watched
  dsimp only
  split
  · exact .of_over rfl rfl
  · split
    · exact .of_next rfl rfl trivial
    · exact .of_over rfl rfl
    · exact .of_over (setLink_ensured handle next session .suspended) rfl
    · exact .of_over rfl rfl
  · exact .of_over rfl rfl

theorem probes_spares : Spares session session.probes := by
  unfold probes
  split
  · split
    · exact .of_next rfl rfl trivial
    · exact .of_over rfl rfl
  · exact .of_over rfl rfl

theorem probeReads_spares : Spares session session.probeReads := by
  unfold probeReads
  split
  · exact .of_next rfl rfl rfl
  · exact .of_over rfl rfl

theorem polls_spares (key : String) (watcher : Subscriber) (index : Option Int) :
    Spares session (session.polls self key watcher index) := by
  unfold polls
  split
  · exact .of_next rfl rfl rfl
  · exact .of_over rfl rfl

theorem cancelled_spares (point : Point) : Spares session (session.cancelled self point) := by
  unfold cancelled
  split <;> exact .of_over rfl rfl

end Session

namespace Sessions

variable {handle : Handle} {next : TaskId} {errand : Errand} {call : StoreCall} {wake : Wake Plan}
  {session : Session} {heard : Option (Except Error Record)} {turn : SessionTurn}

theorem Repeats.spares (repeats : Repeats handle next errand call wake session heard turn)
    (isOther : errand.directory? = none) : session.Spares turn := by
  cases repeats with
  | waits _ ensured found => exact .of_next ensured found isOther
  | again _ _ ensured goesOn => exact .of_next ensured (congrArg Verdict.next? goesOn) isOther
  | fails _ _ ensured fails => exact .of_over ensured (congrArg Verdict.next? fails)
  | returns _ _ same =>
    rw [same]
    exact (Session.receives_spares isOther call.key _).after
      (Session.learns_ensured handle next session _) _
  | cancelled _ same =>
    rw [same]
    exact .of_over rfl rfl

/-- **A task that does not ensure directories** leaves alone what is known of them. -/
theorem turn_spares {point : Point} (isBeside : point.IsBeside) (moment : Moment) (handle : Handle)
    (isSlow : Bool) (wake : Wake Plan) (store : Store) (session : Session) :
    session.Spares (Sessions.turn moment handle isSlow point wake store session).2 := by
  by_cases isLeft : wake = .cancelled
  · subst isLeft
    rw [turn_cancelled]
    exact Session.cancelled_spares point
  cases isMade : point.made? with
  | none =>
    unfold Sessions.turn
    split
    · exact Session.cancelled_spares _
    · exact Session.begins_spares isSlow isBeside
    · exact isBeside.elim
    · cases isMade
    · cases isMade
    · cases isMade
    · exact Session.probes_spares
    · exact Session.probeReads_spares
    · exact Session.polls_spares _ _ _
    · exact .of_over rfl rfl
  | some made =>
    obtain ⟨errand, call⟩ := made
    have isOther : errand.directory? = none := isBeside.directory isMade
    cases isRepeated : errand.isRepeated with
    | true => exact (turn_repeats isRepeated moment isSlow wake store isMade).spares isOther
    | false =>
      obtain ⟨failures, written, made, same, -, -⟩ :=
        turn_await moment handle isSlow store session isMade isLeft
      rw [same]
      rcases await_eq moment handle errand call failures written made session with ⟨-, same⟩
        | ⟨result, -, same⟩
      · rw [same]
        exact .of_next rfl rfl isOther
      · rw [same]
        refine Session.Spares.after rfl ?_ _
        cases errand with
        | probing => exact Session.probed_spares result
        | watching watcher index => exact Session.watched_spares _ _ _ result
        | _ => cases isRepeated

end Sessions

/-! ## Turns on the way -/

namespace Sessions

/-- What becomes of a request for a directory in a turn of its task. -/
inductive Seeks (path : String) (below : List String) (errand : Errand) (call : StoreCall)
    (session : Session) (heard : Option (Except Error Record)) (turn : SessionTurn) : Prop
  /-- It waits for an answer, or is made again. -/
  | again {point : Point} (ensured : turn.1.ensured = session.ensured)
      (isNext : turn.2.2.next? = some point) (isMade : point.made? = some (errand, call))
  /-- The directory is there, and the task goes on to the next one. -/
  | learns {result : Except Error Record} (hears : heard = some result)
      (shows : Shows session.options.root path call result)
      (ensured : ∀ other, other ∈ turn.1.ensured ↔ other ∈ session.ensured ∨ other = path)
      (goesOn : turn.2.2 = .goOn (.ensure path below))
  /-- The directory is not there, and is to be made. -/
  | makes {message : String} {payload : Value} (isAsking : errand = .ensuring path below)
      (hears : heard = some (.error (.store .keyNotFound message payload)))
      (ensured : turn.1.ensured = session.ensured)
      (goesOn : turn.2.2 = .goOn (.ask (.making path below) (making session.options.root path) 0))
  | fails {outcome : Outcome Answer} (ensured : turn.1.ensured = session.ensured)
      (isOver : turn.2.2 = .finish outcome) (isFailure : ∀ answer, outcome ≠ .returned answer)

variable {handle : Handle} {next : TaskId} {errand : Errand} {call : StoreCall} {wake : Wake Plan}
  {session : Session} {heard : Option (Except Error Record)} {turn : SessionTurn} {path : String}
  {below : List String}

/-- The outcome of a request for a directory. -/
theorem receives_seeks (isFor : errand.directory? = some (path, below))
    (isOnWay : errand.IsOnWay session call) {middle : Session}
    (ensured : middle.ensured = session.ensured) (effects : List SessionEffect)
    (outcome : Except Error Record) :
    Seeks path below errand call session (some outcome)
      (Session.after effects (middle.receives handle next errand call.key outcome)) := by
  have learns (other : String) :
      other ∈ (middle.remember path).ensured ↔ other ∈ session.ensured ∨ other = path := by
    rw [Session.mem_remember, ensured]
  cases errand with
  | ensuring path' below' =>
    cases isFor
    obtain ⟨rfl, leads⟩ := isOnWay
    cases outcome with
    | ok record => exact .learns rfl (.found record) learns rfl
    | error error =>
      unfold Session.receives
      dsimp only
      split
      · unfold Session.notFound
        dsimp only
        unfold Session.request
        split
        · exact .makes rfl rfl ensured rfl
        · exact .fails ensured rfl nofun
      · exact .fails ensured rfl nofun
  | making path' below' =>
    cases isFor
    obtain ⟨rfl, leads⟩ := isOnWay
    cases outcome with
    | ok record => exact .learns rfl (.made record) learns rfl
    | error error =>
      unfold Session.receives
      dsimp only
      split
      · exact .fails ensured rfl nofun
      · unfold Session.refused
        split
        · next isFor isThere =>
          cases isFor
          exact .learns rfl (.wasThere _ _) learns rfl
        · exact .fails ensured rfl nofun
  | _ => cases isFor

theorem Repeats.seeks (repeats : Repeats handle next errand call wake session heard turn)
    (isFor : errand.directory? = some (path, below)) (isOnWay : errand.IsOnWay session call) :
    Seeks path below errand call session heard turn := by
  cases repeats with
  | waits _ ensured found => exact .again ensured found rfl
  | again _ _ ensured goesOn => exact .again ensured (congrArg Verdict.next? goesOn) rfl
  | fails _ _ ensured fails => exact .fails ensured fails nofun
  | returns hears _ same =>
    rw [same, hears]
    exact receives_seeks isFor isOnWay (Session.learns_ensured handle next session _) _ _
  | cancelled _ same =>
    rw [same]
    exact .fails rfl rfl nofun

end Sessions

theorem Errand.isRepeated_of_directory {errand : Errand} {place : String × List String}
    (isFor : errand.directory? = some place) : errand.isRepeated = true := by
  cases errand <;> first | rfl | cases isFor

/-- Where a task stands that ensures directories, or another one. -/
theorem Point.directory_cases (point : Point) :
    point.IsBeside ∨ (∃ path parentsOnly, point = .begin (.ensure path parentsOnly)) ∨
      (∃ above below, point = .ensure above below) ∨
      ∃ errand call path below, point.made? = some (errand, call) ∧
        errand.directory? = some (path, below) := by
  cases point with
  | begin operation =>
    cases operation with
    | ensure path parentsOnly => exact .inr (.inl ⟨path, parentsOnly, rfl⟩)
    | _ => exact .inl trivial
  | ensure above below => exact .inr (.inr (.inl ⟨above, below, rfl⟩))
  | ask errand call failures =>
    cases isFor : errand.directory? with
    | none => exact .inl isFor
    | some place => exact .inr (.inr (.inr ⟨errand, call, place.1, place.2, rfl, isFor⟩))
  | asked errand call failures =>
    cases isFor : errand.directory? with
    | none => exact .inl isFor
    | some place => exact .inr (.inr (.inr ⟨errand, call, place.1, place.2, rfl, isFor⟩))
  | _ => exact .inl trivial

namespace Visit

variable {handle : Handle} {visit : Visit}

/-- The turn in which a task begins that ensures directories. -/
theorem turn_begins {path : Value} {parentsOnly : Bool}
    (isFirst : visit.point = .begin (.ensure path parentsOnly)) (isLeft : visit.wake ≠ .cancelled) :
    visit.turn handle = visit.session.begins visit.isSlow (.ensure path parentsOnly) := by
  unfold turn
  rw [isFirst]
  cases why : visit.wake <;> first | rfl | exact absurd why isLeft

/-- The turn in which a task sees which directories are known. -/
theorem turn_comes {above : String} {below : List String}
    (isHere : visit.point = .ensure above below) (isLeft : visit.wake ≠ .cancelled)
    (isOnWay : visit.point.IsOnWay visit.session) :
    visit.session.Comes above below (visit.turn handle) := by
  have same : visit.turn handle = visit.session.ensures above below := by
    unfold turn
    rw [isHere]
    cases why : visit.wake <;> first | rfl | exact absurd why isLeft
  rw [isHere] at isOnWay
  rw [same]
  exact Session.ensures_comes isOnWay.1 isOnWay.2.1 isOnWay.2.2

theorem errand_isOnWay {errand : Errand} {call : StoreCall}
    (isMade : visit.point.made? = some (errand, call))
    (isOnWay : visit.point.IsOnWay visit.session) : errand.IsOnWay visit.session call := by
  cases stands : visit.point with
  | ask errand' call' failures =>
    rw [stands] at isMade isOnWay
    cases isMade
    exact isOnWay
  | asked errand' call' failures =>
    rw [stands] at isMade isOnWay
    cases isMade
    exact isOnWay
  | _ =>
    rw [stands] at isMade
    cases isMade

/-- A turn of a task with a request for a directory. -/
theorem turn_seeks {errand : Errand} {call : StoreCall} {path : String} {below : List String}
    (isMade : visit.point.made? = some (errand, call))
    (isFor : errand.directory? = some (path, below)) (isOnWay : visit.point.IsOnWay visit.session) :
    Sessions.Seeks path below errand call visit.session visit.heard (visit.turn handle) :=
  (visit.turn_repeats handle (Errand.isRepeated_of_directory isFor) isMade).seeks isFor
    (errand_isOnWay isMade isOnWay)

/-- A turn of any task, as far as directories go. -/
inductive Heads (handle : Handle) (visit : Visit) : Prop
  /-- It has nothing to do with them, or is the last one. -/
  | spares (spares : visit.session.Spares (visit.turn handle))
  | begins {path : String} {parentsOnly : Bool}
      (isFirst : visit.point = .begin (.ensure (.text path) parentsOnly))
      (same : visit.turn handle = visit.session.goesOn
        (.ensure "" (Path.stepsTo path parentsOnly)))
  | comes {above : String} {below : List String} (isHere : visit.point = .ensure above below)
      (comes : visit.session.Comes above below (visit.turn handle))
  | seeks {errand : Errand} {call : StoreCall} {path : String} {below : List String}
      (isMade : visit.point.made? = some (errand, call)) (leads : visit.session.Leads path below)
      (isFor : errand.directory? = some (path, below))
      (seeks : Sessions.Seeks path below errand call visit.session visit.heard (visit.turn handle))

theorem turn_heads (handle : Handle) (isOnWay : visit.point.IsOnWay visit.session) :
    visit.Heads handle := by
  by_cases isLeft : visit.wake = .cancelled
  · refine .spares ?_
    rw [turn_cancelled isLeft]
    exact Session.cancelled_spares _
  rcases visit.point.directory_cases with
    isBeside | ⟨path, parentsOnly, isFirst⟩ | ⟨above, below, isHere⟩
      | ⟨errand, call, path, below, isMade, isFor⟩
  · exact .spares (Sessions.turn_spares isBeside _ _ _ _ _ _)
  · have same : visit.turn handle = _ := turn_begins isFirst isLeft
    cases path with
    | text path => exact .begins isFirst same
    | _ =>
      refine .spares ?_
      rw [same]
      exact .of_over rfl rfl
  · exact .comes isHere (turn_comes isHere isLeft isOnWay)
  · have isOnWay' := errand_isOnWay isMade isOnWay
    refine .seeks isMade ?_ isFor (turn_seeks isMade isFor isOnWay)
    cases errand with
    | ensuring =>
      cases isFor
      exact isOnWay'.2
    | making =>
      cases isFor
      exact isOnWay'.2
    | _ => cases isFor

/-- **A session comes to know a directory** when it hears that it is there. -/
theorem turn_knows (isOnWay : visit.point.IsOnWay visit.session) {path : String}
    (isThere : path ∈ (visit.turn handle).1.ensured) : path ∈ visit.session.ensured ∨
      ∃ errand call result below, visit.point.made? = some (errand, call) ∧
        visit.heard = some result ∧
        Shows visit.session.options.root path call result ∧ visit.session.Leads path below := by
  cases visit.turn_heads handle isOnWay with
  | spares spares => exact .inl (spares.ensured ▸ isThere)
  | begins _ same =>
    rw [same] at isThere
    exact .inl isThere
  | comes _ comes => exact .inl (comes.ensured ▸ isThere)
  | seeks isMade leads _ seeks =>
    cases seeks with
    | again ensured => exact .inl (ensured ▸ isThere)
    | makes _ _ ensured => exact .inl (ensured ▸ isThere)
    | fails ensured => exact .inl (ensured ▸ isThere)
    | learns hears shows ensured =>
      rcases (ensured path).mp isThere with isOld | rfl
      · exact .inl isOld
      · exact .inr ⟨_, _, _, _, isMade, hears, shows, leads⟩

/-- A session forgets no directory. -/
theorem turn_learns (handle : Handle) (isSound : visit.point.IsSound)
    (isOnWay : visit.point.IsOnWay visit.session) :
    visit.session.Learns (visit.turn handle).1 := by
  refine ⟨turn_options handle visit isSound, fun path isThere => ?_⟩
  cases visit.turn_heads handle isOnWay with
  | spares spares => exact spares.ensured ▸ isThere
  | begins _ same =>
    rw [same]
    exact isThere
  | comes _ comes => exact comes.ensured ▸ isThere
  | seeks _ _ _ seeks =>
    cases seeks with
    | again ensured => exact ensured ▸ isThere
    | makes _ _ ensured => exact ensured ▸ isThere
    | fails ensured => exact ensured ▸ isThere
    | learns _ _ ensured => exact (ensured path).mpr (.inl isThere)

/-- **A task that ensures directories stays on its way.** -/
theorem turn_isOnWay (isSound : visit.point.IsSound) (isOnWay : visit.point.IsOnWay visit.session)
    {point : Point} (isNext : (visit.turn handle).2.2.next? = some point) :
    point.IsOnWay (visit.turn handle).1 := by
  have learns := visit.turn_learns handle isSound isOnWay
  cases visit.turn_heads handle isOnWay with
  | spares spares => exact (spares.next point isNext).isOnWay _
  | @begins path parentsOnly _ same =>
    rw [same] at isNext
    cases isNext
    exact ⟨.inl rfl, .inl rfl, Path.stepsTo_areSegments path parentsOnly⟩
  | comes _ comes =>
    cases comes with
    | arrives _ same =>
      rw [same] at isNext
      cases isNext
    | asks _ _ _ leads same =>
      refine learns.isOnWay ?_
      rw [same] at isNext
      unfold Session.request at isNext
      split at isNext
      · cases isNext
        exact ⟨rfl, leads⟩
      · cases isNext
  | @seeks errand call path below isMade leads isFor seeks =>
    have isOnWay := errand_isOnWay isMade isOnWay
    cases seeks with
    | @again other _ isNext' isMade' =>
      cases isNext.symm.trans isNext'
      refine learns.isOnWay ?_
      cases point with
      | ask errand' call' failures =>
        cases isMade'
        exact isOnWay
      | asked errand' call' failures =>
        cases isMade'
        exact isOnWay
      | _ => cases isMade'
    | makes _ _ _ goesOn =>
      rw [goesOn] at isNext
      cases isNext
      exact learns.isOnWay ⟨rfl, leads⟩
    | fails _ isOver =>
      rw [isOver] at isNext
      cases isNext
    | learns _ _ ensured goesOn =>
      rw [goesOn] at isNext
      cases isNext
      exact ⟨.inr ((ensured path).mpr (.inr rfl)), .inr leads.isRelative, leads.areSegments⟩

end Visit

end WatchedNode
