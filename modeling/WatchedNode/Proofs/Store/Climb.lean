/-
**The way of a call that ensures directories.**

Such a call goes through the directories on the way to its path, from the top down. The turns that
it has behind it are a climb (`Climbs`): in one of them it passes the directories that the session
knows, and comes to one that it does not know, which is asked for in the next turns, and made only
after the call has heard that it is not there (`Inquires`); then it goes on from there.

* `Climb.Stage`: where a call is that has dealt with some of the directories, of all those on its
  way;
* `Passage.climbs`: every call is at one of these stages, with all that it has dealt with known;
* `Climb.sent`, `Climb.keys`: what it has sent by then, and that nothing of that is for a directory
  further down.
-/
import WatchedNode.Proofs.Store.Directories

namespace WatchedNode

open Directory (asking making Shows)

/-! ## Ways -/

namespace Path

/-- The directories on a way get longer. -/
theorem length_lt_of_mem_descend {above path : String} {below : List String}
    (isThere : path ∈ descend above below) :
    above.length < path.length := by
  induction below generalizing above with
  | nil => cases isThere
  | cons segment below step =>
    have longer : above.length < (above ++ "/" ++ segment).length := by
      have slash : "/".length = 1 := rfl
      rw [String.length_append, String.length_append, slash]
      omega
    rcases List.mem_cons.mp isThere with rfl | isThere
    · exact longer
    · exact longer.trans (step isThere)

theorem descend_nodup (above : String) (below : List String) : (descend above below).Nodup := by
  induction below generalizing above with
  | nil => exact .nil
  | cons segment below step =>
    refine List.nodup_cons.mpr ⟨fun isThere => ?_, step _⟩
    exact absurd (length_lt_of_mem_descend isThere) (Nat.lt_irrefl _)

end Path

/-! ## Climbs -/

namespace Visit

/-- In the turn a call is made, or its answer is waited for. -/
def IsWith (call : StoreCall) (visit : Visit) : Prop :=
  ∃ errand, visit.point.made? = some (errand, call)

/-- In the turn a task passes directories that are known, and has others before it. -/
structure Passes (passed rest : List String) (visit : Visit) : Prop where
  stands : ∃ above below, visit.point = .ensure above below ∧
    Path.descend above below = passed ++ rest
  areKnown : ∀ path ∈ passed, path ∈ visit.session.ensured

/-- In the turn a task hears that a key is not there. -/
def IsMissing (visit : Visit) : Prop :=
  ∃ message payload, visit.heard = some (.error (.store .keyNotFound message payload))

end Visit

/-- The turns with the requests for a directory: it is asked for, and made only if it is not
there. -/
structure Inquires (root path : String) (asked made : List Visit) : Prop where
  ofAsked : ∀ visit ∈ asked, visit.IsWith (asking root path)
  ofMade : ∀ visit ∈ made, visit.IsWith (making root path)
  isMissing : made ≠ [] → ∃ visit ∈ asked, visit.IsMissing

/-- It has been asked for a directory. -/
def IsAsked (root path : String) (asked : List Visit) : Prop :=
  ∃ visit ∈ asked, visit.sends? = some (asking root path)

/-- **The turns of a task that has dealt with directories**, in this order: those that were known
were passed, and those that were not were asked for. -/
inductive Climbs (root : String) : List String → List Visit → Prop
  | begins {visit : Visit} {path : String} {parentsOnly : Bool}
      (isFirst : visit.point = .begin (.ensure (.text path) parentsOnly)) : Climbs root [] [visit]
  | learns {done passed : List String} {here : String} {rest : List String}
      {visits asked made : List Visit} {visit : Visit} (earlier : Climbs root done visits)
      (passes : visit.Passes passed (here :: rest)) (isUnknown : here ∉ visit.session.ensured)
      (inquires : Inquires root here asked made) (isAsked : IsAsked root here asked) :
      Climbs root (done ++ passed ++ [here]) (visits ++ visit :: (asked ++ made))

/-- The task has come to a directory that is not known, and has had turns with requests for it. -/
inductive Seeking (root here : String) (later : List String) (asked made : List Visit) :
    List String → List Visit → Prop
  | intro {done passed : List String} {visits : List Visit} {visit : Visit}
      (climbs : Climbs root done visits) (passes : visit.Passes passed (here :: later))
      (isUnknown : here ∉ visit.session.ensured) (inquires : Inquires root here asked made) :
      Seeking root here later asked made (done ++ passed) (visits ++ visit :: (asked ++ made))

/-- What is asked next for a directory. -/
inductive Pending (root here : String) (below : List String) (asked made : List Visit)
    (point : Point) : Prop
  | first (noneAsked : asked = []) (noneMade : made = [])
      (stands : point = .ask (.ensuring here below) (asking root here) 0)
  | asks (isAsked : IsAsked root here asked) (noneMade : made = [])
      (isMade : point.made? = some (.ensuring here below, asking root here))
  | makes (isAsked : IsAsked root here asked) (isMissing : ∃ visit ∈ asked, visit.IsMissing)
      (isMade : point.made? = some (.making here below, making root here))

/-- **Where a call is**, with some directories dealt with, and others before it. -/
inductive Climb.Stage (root path : String) (parentsOnly : Bool) (done rest : List String)
    (visits : List Visit) (verdict : Verdict Point) : Prop
  /-- It has not begun. -/
  | begins (isNone : done = []) (way : rest = Path.wayTo path parentsOnly) (noTurn : visits = [])
      (isFirst : verdict = .goOn (.begin (.ensure (.text path) parentsOnly)))
  /-- It is to see which of the others are known. -/
  | walks (climbs : Climbs root done visits) {above : String} {below : List String}
      (isNext : verdict = .goOn (.ensure above below)) (way : Path.descend above below = rest)
  /-- It asks for the next one. -/
  | asks {here : String} {below : List String} {asked made : List Visit}
      (seeking : Seeking root here (Path.descend here below) asked made done visits)
      (way : rest = here :: Path.descend here below) {point : Point}
      (isNext : verdict.next? = some point) (pending : Pending root here below asked made point)
  /-- All were dealt with, the last of them in the last turn. -/
  | arrives {passed before : List String} {earlier : List Visit} {visit : Visit}
      (climbs : Climbs root before earlier) (passes : visit.Passes passed [])
      (same : visits = earlier ++ [visit]) (isAll : done = before ++ passed) (isNone : rest = [])
      (isOver : verdict = .finish (.returned .nothing))
  /-- It failed at the next one; if that was not asked for, no call could be made, or the task was
  cancelled. -/
  | fails {here : String} {later : List String} {asked made : List Visit}
      (seeking : Seeking root here later asked made done visits) (way : rest = here :: later)
      (isAsked : IsAsked root here asked ∨
        ∃ visit, visits.getLast? = some visit ∧
          (visit.session.isOpen = false ∨ visit.wake = .cancelled))
      {outcome : Outcome Answer} (isOver : verdict = .finish outcome)
      (isFailure : ∀ answer, outcome ≠ .returned answer)
  /-- The task was cancelled before it came to the next one. -/
  | leaves {earlier : List Visit} {visit : Visit} (same : visits = earlier ++ [visit])
      (isCancelled : visit.wake = .cancelled)
      (climbs : earlier = [] ∧ done = [] ∨ Climbs root done earlier)
      (isOver : verdict = .finish .cancelled)

/-- **What a call has done** on its way through directories. -/
structure Climb (handle : Handle) (root path : String) (parentsOnly : Bool)
    (done rest : List String) (visits : List Visit) (session : Session)
    (verdict : Verdict Point) : Prop where
  /-- What it has dealt with is known. -/
  areKnown : ∀ other ∈ done, other ∈ session.ensured
  /-- Its own turns have led to that alone. -/
  learnt : ∀ visit ∈ visits, ∀ other ∈ (visit.turn handle).1.ensured,
    other ∈ visit.session.ensured ∨ other ∈ done
  stage : Climb.Stage root path parentsOnly done rest visits verdict

/-! ## Calls that are sent -/

section Sent

variable {root path : String} {asked made visits : List Visit} {call : StoreCall}

theorem Visit.IsWith.sends {visit : Visit} (isWith : visit.IsWith call) {other : StoreCall}
    (sends : visit.sends? = some other) : other = call := by
  obtain ⟨errand, isMade⟩ := isWith
  obtain ⟨errand', isMade'⟩ := Visit.made_of_sends sends
  cases isMade.symm.trans isMade'
  rfl

/-- A call for a directory. -/
def IsFor (root path : String) (call : StoreCall) : Prop :=
  call = asking root path ∨ call = making root path

theorem IsFor.key (isFor : IsFor root path call) : call.key = root ++ path := by
  rcases isFor with rfl | rfl <;> rfl

theorem Inquires.sent (inquires : Inquires root path asked made) {visit : Visit}
    (isThere : visit ∈ asked ++ made) (sends : visit.sends? = some call) :
    IsFor root path call := by
  rcases List.mem_append.mp isThere with isAsked | isMade
  · exact .inl ((inquires.ofAsked visit isAsked).sends sends)
  · exact .inr ((inquires.ofMade visit isMade).sends sends)

/-- In the turn in which it passes directories a task sends nothing. -/
theorem Visit.Passes.silent {passed rest : List String} {visit : Visit}
    (passes : visit.Passes passed rest) :
    visit.sends? = none := by
  obtain ⟨above, below, stands, -⟩ := passes.stands
  unfold Visit.sends?
  rw [stands]
  cases visit.wake <;> rfl

theorem Climbs.sent {done : List String} (climbs : Climbs root done visits) {visit : Visit}
    (isThere : visit ∈ visits) (sends : visit.sends? = some call) :
    ∃ path ∈ done, IsFor root path call := by
  induction climbs with
  | @begins first path parentsOnly isFirst =>
    rw [List.mem_singleton.mp isThere, Visit.sends?, isFirst] at sends
    cases why : first.wake <;> rw [why] at sends <;> cases sends
  | learns _ passes _ inquires _ step =>
    rcases List.mem_append.mp isThere with isOld | isNew
    · obtain ⟨path, isDone, isFor⟩ := step isOld
      exact ⟨path, List.mem_append_left _ (List.mem_append_left _ isDone), isFor⟩
    · rcases List.mem_cons.mp isNew with rfl | isNew
      · cases passes.silent.symm.trans sends
      · exact ⟨_, List.mem_append_right _ (List.mem_singleton_self _), inquires.sent isNew sends⟩

theorem Seeking.sent {done later : List String}
    (seeking : Seeking root path later asked made done visits) {visit : Visit}
    (isThere : visit ∈ visits) (sends : visit.sends? = some call) :
    ∃ other ∈ done ++ [path], IsFor root other call := by
  obtain ⟨climbs, passes, -, inquires⟩ := seeking
  rcases List.mem_append.mp isThere with isOld | isNew
  · obtain ⟨other, isDone, isFor⟩ := climbs.sent isOld sends
    exact ⟨other, List.mem_append_left _ (List.mem_append_left _ isDone), isFor⟩
  · rcases List.mem_cons.mp isNew with rfl | isNew
    · cases passes.silent.symm.trans sends
    · exact ⟨path, List.mem_append_right _ (List.mem_singleton_self _), inquires.sent isNew sends⟩

end Sent

/-! ## One turn more -/

section Turns

variable {root here : String} {later done : List String} {asked made visits : List Visit}
  {visit : Visit}

theorem Seeking.asks (seeking : Seeking root here later asked [] done visits)
    (isWith : visit.IsWith (asking root here)) :
    Seeking root here later (asked ++ [visit]) [] done (visits ++ [visit]) := by
  obtain ⟨climbs, passes, isUnknown, inquires⟩ := seeking
  have longer : Inquires root here (asked ++ [visit]) [] := by
    refine ⟨fun other isThere => ?_, List.forall_mem_nil _, fun isMade => absurd rfl isMade⟩
    rcases List.mem_append.mp isThere with isOld | isNew
    · exact inquires.ofAsked other isOld
    · rw [List.mem_singleton.mp isNew]
      exact isWith
  have same := Seeking.intro climbs passes isUnknown longer
  simp only [List.append_nil, List.append_assoc, List.cons_append] at same ⊢
  exact same

theorem Seeking.makes (seeking : Seeking root here later asked made done visits)
    (isMissing : ∃ visit ∈ asked, visit.IsMissing) (isWith : visit.IsWith (making root here)) :
    Seeking root here later asked (made ++ [visit]) done (visits ++ [visit]) := by
  obtain ⟨climbs, passes, isUnknown, inquires⟩ := seeking
  have longer : Inquires root here asked (made ++ [visit]) := by
    refine ⟨inquires.ofAsked, fun other isThere => ?_, fun _ => isMissing⟩
    rcases List.mem_append.mp isThere with isOld | isNew
    · exact inquires.ofMade other isOld
    · rw [List.mem_singleton.mp isNew]
      exact isWith
  have same := Seeking.intro climbs passes isUnknown longer
  simp only [List.append_assoc, List.cons_append] at same ⊢
  exact same

/-- A directory that was asked for, and is known now, has been dealt with. -/
theorem Seeking.learns (seeking : Seeking root here later asked made done visits)
    (isAsked : IsAsked root here asked) :
    Climbs root (done ++ [here]) visits := by
  obtain ⟨climbs, passes, isUnknown, inquires⟩ := seeking
  exact climbs.learns passes isUnknown inquires isAsked

theorem IsAsked.append (isAsked : IsAsked root here asked) (more : List Visit) :
    IsAsked root here (asked ++ more) := by
  obtain ⟨visit, isThere, sends⟩ := isAsked
  exact ⟨visit, List.mem_append_left _ isThere, sends⟩

end Turns

namespace Climb

section Steps

variable {handle : Handle} {root path : String} {parentsOnly : Bool} {done rest : List String}
  {visits : List Visit} {visit : Visit} {verdict : Verdict Point}

/-- After one turn more the task has dealt with directories that were before it, or with none. -/
def GetsOn (handle : Handle) (root path : String) (parentsOnly : Bool) (done rest : List String)
    (visits : List Visit) (visit : Visit) : Prop :=
  ∃ known more, rest = known ++ more ∧
    Climb handle root path parentsOnly (done ++ known) more (visits ++ [visit])
    (visit.turn handle).1 (visit.turn handle).2.2

theorem getsOn
    (climb : Climb handle root path parentsOnly done rest (visits ++ [visit]) (visit.turn handle).1
    (visit.turn handle).2.2) : GetsOn handle root path parentsOnly done rest visits visit :=
  ⟨[], rest, rfl, (List.append_nil done).symm ▸ climb⟩

/-- After one turn more, which may have dealt with more directories. -/
theorem turned (climb : Climb handle root path parentsOnly done rest visits visit.session verdict)
    (learns : visit.session.Learns (visit.turn handle).1) {known more : List String}
    (areKnown : ∀ other ∈ known, other ∈ (visit.turn handle).1.ensured)
    (learnt : ∀ other ∈ (visit.turn handle).1.ensured, other ∈ visit.session.ensured ∨
      other ∈ known)
    (stage :
      Stage root path parentsOnly (done ++ known) more (visits ++ [visit])
        (visit.turn handle).2.2) :
    Climb handle root path parentsOnly (done ++ known) more (visits ++ [visit])
      (visit.turn handle).1
      (visit.turn handle).2.2 := by
  refine ⟨fun other isDone => ?_, fun earlier isThere other isKnown => ?_, stage⟩
  · rcases List.mem_append.mp isDone with isOld | isNew
    · exact learns.ensured other (climb.areKnown other isOld)
    · exact areKnown other isNew
  · rcases List.mem_append.mp isThere with isOld | isNew
    · exact (climb.learnt earlier isOld other isKnown).imp_right (List.mem_append_left _)
    · rw [List.mem_singleton.mp isNew] at isKnown ⊢
      exact (learnt other isKnown).imp_right (List.mem_append_right _)

/-- After one turn more that has not dealt with any directory. -/
theorem stayed (climb : Climb handle root path parentsOnly done rest visits visit.session verdict)
    (ensured : (visit.turn handle).1.ensured = visit.session.ensured) {more : List String}
    (stage : Stage root path parentsOnly done more (visits ++ [visit]) (visit.turn handle).2.2) :
    Climb handle root path parentsOnly done more (visits ++ [visit]) (visit.turn handle).1
      (visit.turn handle).2.2 := by
  refine ⟨fun other isDone => ?_, fun earlier isThere other isKnown => ?_, stage⟩
  · rw [ensured]
    exact climb.areKnown other isDone
  · rcases List.mem_append.mp isThere with isOld | isNew
    · exact climb.learnt earlier isOld other isKnown
    · rw [List.mem_singleton.mp isNew] at isKnown ⊢
      exact .inl (ensured ▸ isKnown)

/-- The task is cancelled where it has no request. -/
theorem left (climb : Climb handle root path parentsOnly done rest visits visit.session verdict)
    (isCancelled : visit.wake = .cancelled)
    (climbs : visits = [] ∧ done = [] ∨ Climbs root done visits)
    (isSimple :
      visit.session.cancelled visit.moment.self visit.point = visit.session.ends .cancelled) :
    Climb handle root path parentsOnly done rest (visits ++ [visit]) (visit.turn handle).1
      (visit.turn handle).2.2 := by
  have same : visit.turn handle = visit.session.ends .cancelled :=
    (Visit.turn_cancelled isCancelled).trans isSimple
  exact climb.stayed (by rw [same, Session.ends])
    (.leaves rfl isCancelled climbs (by rw [same, Session.ends]))

/-- It comes to the directories that are before it. -/
theorem comes (climb : Climb handle root path parentsOnly done rest visits visit.session verdict)
    (learns : visit.session.Learns (visit.turn handle).1)
    (isRoot : visit.session.options.root = root) (climbs : Climbs root done visits) {above : String}
    {below : List String} (way : Path.descend above below = rest)
    (isHere : visit.point = .ensure above below)
    (comes : visit.session.Comes above below (visit.turn handle)) :
    GetsOn handle root path parentsOnly done rest visits visit := by
  have ensured := comes.ensured
  have learnt {known : List String} : ∀ other ∈ (visit.turn handle).1.ensured,
      other ∈ visit.session.ensured ∨ other ∈ known := fun other isThere => .inl (ensured ▸ isThere)
  cases comes with
  | arrives areKnown same =>
    refine ⟨rest, [], (List.append_nil rest).symm, climb.turned learns ?_ learnt ?_⟩
    · intro other isThere
      exact learns.ensured other (areKnown other (way ▸ isThere))
    · have passes : visit.Passes rest [] :=
        ⟨⟨above, below, isHere, way.trans (List.append_nil rest).symm⟩, way ▸ areKnown⟩
      exact .arrives climbs passes rfl rfl rfl (by rw [same, Session.ends])
  | @asks passed here further way' areKnown isUnknown leads same =>
    have passes : visit.Passes passed (here :: Path.descend here further) :=
      ⟨⟨above, below, isHere, way'⟩, areKnown⟩
    have seeking :
        Seeking root here (Path.descend here further) [] [] (done ++ passed) (visits ++ [visit]) :=
      .intro climbs passes isUnknown
        ⟨List.forall_mem_nil _, List.forall_mem_nil _, fun isMade => absurd rfl isMade⟩
    refine ⟨passed, here :: Path.descend here further, way.symm.trans way',
      climb.turned learns ?_ learnt ?_⟩
    · intro other isThere
      exact learns.ensured other (areKnown other isThere)
    · rw [isRoot] at same
      rw [same]
      unfold Session.request
      split
      · exact .asks seeking rfl rfl (.first rfl rfl rfl)
      · next closed =>
        rw [Bool.not_eq_true] at closed
        exact .fails seeking rfl (.inr ⟨visit, List.getLast?_concat .., .inl closed⟩) rfl
            fun _ same => by cases same

/-- A request for a directory has had its turn. -/
theorem seeks (climb : Climb handle root path parentsOnly done rest visits visit.session verdict)
    (learns : visit.session.Learns (visit.turn handle).1)
    (isRoot : visit.session.options.root = root) {here : String} {below : List String}
    (way : rest = here :: Path.descend here below) {errand : Errand} {call : StoreCall}
    (seeks : Sessions.Seeks here below errand call visit.session visit.heard (visit.turn handle))
    {asked made : List Visit}
    (seeking : Seeking root here (Path.descend here below) asked made done (visits ++ [visit]))
    (isAsked : visit.wake ≠ .cancelled → IsAsked root here asked)
    (again : ∀ point : Point, point.made? = some (errand, call) → IsAsked root here asked →
      Pending root here below asked made point)
    (makes : errand = .ensuring here below → visit ∈ asked ∧ made = []) :
    GetsOn handle root path parentsOnly done rest visits visit := by
  have goesOn {point : Point} (isNext : (visit.turn handle).2.2.next? = some point) :
      IsAsked root here asked :=
    isAsked (Visit.not_cancelled isNext)
  cases seeks with
  | again ensured isNext isMade =>
    exact (climb.stayed ensured (.asks seeking way isNext (again _ isMade (goesOn isNext)))).getsOn
  | makes isAsking hears ensured goes =>
    obtain ⟨isThere, noneMade⟩ := makes isAsking
    have isNext := congrArg Verdict.next? goes
    rw [isRoot] at isNext
    exact (climb.stayed ensured
      (.asks seeking way isNext (.makes (goesOn isNext) ⟨visit, isThere, _, _, hears⟩ rfl))).getsOn
  | fails ensured isOver isFailure =>
    refine (climb.stayed ensured (.fails seeking way ?_ isOver isFailure)).getsOn
    by_cases isCancelled : visit.wake = .cancelled
    · exact .inr ⟨visit, List.getLast?_concat .., .inr isCancelled⟩
    · exact .inl (isAsked isCancelled)
  | learns _ _ ensured goes =>
    refine ⟨[here], Path.descend here below, way, climb.turned learns ?_ ?_ ?_⟩
    · intro other isThere
      rw [List.mem_singleton.mp isThere]
      exact (ensured here).mpr (.inr rfl)
    · intro other isThere
      exact ((ensured other).mp isThere).imp_right fun same => List.mem_singleton.mpr same
    · exact .walks (seeking.learns (goesOn (congrArg Verdict.next? goes))) goes rfl

/-- A task has its turn that is to ask for a directory, or has asked for it. -/
theorem asks (climb : Climb handle root path parentsOnly done rest visits visit.session verdict)
    (learns : visit.session.Learns (visit.turn handle).1)
    (isRoot : visit.session.options.root = root) (isOnWay : visit.point.IsOnWay visit.session)
    {here : String} {below : List String} {asked : List Visit}
    (way : rest = here :: Path.descend here below)
    (seeking : Seeking root here (Path.descend here below) asked [] done visits)
    (isMade : visit.point.made? = some (.ensuring here below, asking root here))
    (isAsked : visit.wake ≠ .cancelled → IsAsked root here (asked ++ [visit])) :
    GetsOn handle root path parentsOnly done rest visits visit := by
  refine climb.seeks learns isRoot way (Visit.turn_seeks isMade rfl isOnWay)
    (seeking.asks ⟨_, isMade⟩) isAsked ?_ ?_
  · exact fun point isMade isAsked => .asks isAsked rfl isMade
  · exact fun _ => ⟨List.mem_append_right _ (List.mem_singleton_self _), rfl⟩

/-- A task begins that ensures directories. -/
theorem begins (climb : Climb handle root path parentsOnly done rest visits visit.session verdict)
    (isNone : done = []) (way : rest = Path.wayTo path parentsOnly) (noTurn : visits = [])
    (isHere : visit.point = .begin (.ensure (.text path) parentsOnly)) :
    GetsOn handle root path parentsOnly done rest visits visit := by
  by_cases isCancelled : visit.wake = .cancelled
  · exact (climb.left isCancelled (.inl ⟨noTurn, isNone⟩) (by rw [isHere]; rfl)).getsOn
  · have same :
        visit.turn handle = visit.session.goesOn (.ensure "" (Path.stepsTo path parentsOnly)) :=
      Visit.turn_begins isHere isCancelled
    refine (climb.stayed (by rw [same, Session.goesOn]) ?_).getsOn
    rw [isNone, noTurn, same]
    exact .walks (.begins isHere) rfl (way.trans (Path.wayTo_eq path parentsOnly)).symm

/-- **A call that ensures directories goes on its way.** -/
theorem turns (climb : Climb handle root path parentsOnly done rest visits visit.session verdict)
    (isSound : visit.point.IsSound) (isOnWay : visit.point.IsOnWay visit.session)
    (isRoot : visit.session.options.root = root) (isNext : verdict.next? = some visit.point) :
    GetsOn handle root path parentsOnly done rest visits visit := by
  have learns := visit.turn_learns handle isSound isOnWay
  cases climb.stage with
  | begins isNone way noTurn isFirst =>
    rw [isFirst] at isNext
    exact climb.begins isNone way noTurn (Option.some.inj isNext).symm
  | @walks climbs above below goesOn way =>
    rw [goesOn] at isNext
    have isHere : visit.point = .ensure above below := (Option.some.inj isNext).symm
    by_cases isCancelled : visit.wake = .cancelled
    · exact (climb.left isCancelled (.inr climbs) (by rw [isHere]; rfl)).getsOn
    · exact climb.comes learns isRoot climbs way isHere
        (Visit.turn_comes isHere isCancelled isOnWay)
  | @asks here below asked made seeking way point isNext' pending =>
    obtain rfl : visit.point = point := Option.some.inj (isNext.symm.trans isNext')
    cases pending with
    | first noneAsked noneMade stands =>
      subst noneMade
      have isMade : visit.point.made? = some (.ensuring here below, asking root here) := by
        rw [stands]; rfl
      refine climb.asks learns isRoot isOnWay way seeking isMade fun isLeft => ?_
      exact ⟨visit, List.mem_append_right _ (List.mem_singleton_self _),
        Visit.sends_of_ask stands isLeft⟩
    | asks isAsked noneMade isMade =>
      subst noneMade
      exact climb.asks learns isRoot isOnWay way seeking isMade fun _ => isAsked.append [visit]
    | makes isAsked isMissing isMade =>
      refine climb.seeks learns isRoot way (Visit.turn_seeks isMade rfl isOnWay)
        (seeking.makes isMissing ⟨_, isMade⟩)
        ?_ ?_ ?_
      · exact fun _ => isAsked
      · exact fun point isMade isAsked => .makes isAsked isMissing isMade
      · exact fun isFirst => Errand.noConfusion isFirst
  | arrives _ _ _ _ _ isOver =>
    rw [isOver] at isNext
    cases isNext
  | fails _ _ _ isOver =>
    rw [isOver] at isNext
    cases isNext
  | leaves _ _ _ isOver =>
    rw [isOver] at isNext
    cases isNext

end Steps

end Climb

/-! ## Passages -/

section Passages

variable {handle : Handle} {operation : Operation} {path : String} {parentsOnly : Bool}
  {visits : List Visit} {session : Session} {verdict : Verdict Point}

/-- A task that begins an operation stays on its way, while others only come to know more
directories. -/
theorem Passage.isOnWay (passage : Passage handle Session.Learns operation visits session verdict)
    {point : Point} (isNext : verdict.next? = some point) : point.IsOnWay session := by
  induction passage generalizing point with
  | begins session =>
    cases isNext
    trivial
  | waits _ learns step => exact learns.isOnWay (step isNext)
  | turns earlier isNext' step =>
    exact Visit.turn_isOnWay (earlier.isSound isNext') (step isNext') isNext

/-- **How a call that ensures directories goes**, whatever others do meanwhile. -/
theorem Passage.climbs
    (passage :
      Passage handle Session.Learns (.ensure (.text path) parentsOnly) visits session verdict) :
    ∃ done rest, Path.wayTo path parentsOnly = done ++ rest ∧
      Climb handle session.options.root path parentsOnly done rest visits session verdict := by
  induction passage with
  | begins session =>
    exact ⟨[], Path.wayTo path parentsOnly, rfl, List.forall_mem_nil _, List.forall_mem_nil _,
      .begins rfl rfl rfl rfl⟩
  | waits _ learns step =>
    obtain ⟨done, rest, way, climb⟩ := step
    rw [learns.options]
    exact ⟨done, rest, way, fun other isDone => learns.ensured other (climb.areKnown other isDone),
      climb.learnt,
      climb.stage⟩
  | @turns visits visit verdict earlier isNext step =>
    obtain ⟨done, rest, way, climb⟩ := step
    obtain ⟨known, more, rfl, climb'⟩ :=
      climb.turns (earlier.isSound isNext) (earlier.isOnWay isNext) rfl isNext
    rw [Visit.turn_options handle visit (earlier.isSound isNext)]
    exact ⟨done ++ known, more, way.trans (List.append_assoc ..).symm, climb'⟩

end Passages

/-! ## What has been sent -/

/-- In the turn a task gets to a directory, with those before it known. -/
def Visit.GetsTo (path : String) (visit : Visit) : Prop :=
  ∃ passed rest, visit.Passes passed (path :: rest)

theorem Visit.Passes.getsTo {passed rest : List String} {visit : Visit}
    (passes : visit.Passes passed rest) {path : String} (isThere : path ∈ passed) :
    visit.GetsTo path := by
  obtain ⟨front, back, rfl⟩ := List.append_of_mem isThere
  obtain ⟨above, below, stands, way⟩ := passes.stands
  refine ⟨front, back ++ rest, ⟨above, below, stands, by simpa using way⟩, fun other isThere => ?_⟩
  exact passes.areKnown other (List.mem_append_left _ isThere)

/-- A call is for one directory only. -/
theorem IsFor.unique {root path other : String} {call : StoreCall} (isFor : IsFor root path call)
    (isFor' : IsFor root other call) : path = other :=
  String.append_right_inj root |>.mp (isFor.key.symm.trans isFor'.key)

theorem isAsked_append {root path : String} {first second : List Visit} :
    IsAsked root path (first ++ second) ↔ IsAsked root path first ∨ IsAsked root path second := by
  unfold IsAsked
  simp only [List.mem_append, or_and_right, exists_or]

section Asked

variable {root path here : String} {done rest : List String} {visits asked made : List Visit}
  {visit : Visit}

/-- What is sent in the requests for a directory is for no other one. -/
theorem Inquires.others (inquires : Inquires root here asked made) (different : path ≠ here) :
    ¬ IsAsked root path (asked ++ made) := by
  rintro ⟨visit, isThere, sends⟩
  exact different (IsFor.unique (.inl rfl) (inquires.sent isThere sends))

theorem Climbs.others (climbs : Climbs root done visits) (isOther : path ∉ done) :
    ¬ IsAsked root path visits := by
  rintro ⟨visit, isThere, sends⟩
  obtain ⟨other, isDone, isFor⟩ := climbs.sent isThere sends
  cases IsFor.unique (.inl rfl) isFor
  exact isOther isDone

theorem Visit.Passes.others {passed : List String} (passes : visit.Passes passed rest)
    (more : List Visit) :
    IsAsked root path (visit :: more) ↔ IsAsked root path more := by
  unfold IsAsked
  simp [passes.silent]

/-- The turn in which a task got to a directory: it has asked for it exactly if it was not known
then. -/
def GotTo (root : String) (visits : List Visit) (path : String) : Prop :=
  ∃ visit ∈ visits, visit.GetsTo path ∧ (IsAsked root path visits ↔ path ∉ visit.session.ensured)

theorem GotTo.append (gotTo : GotTo root visits path) {more : List Visit}
    (others : ¬ IsAsked root path more) :
    GotTo root (visits ++ more) path := by
  obtain ⟨visit, isThere, getsTo, iff⟩ := gotTo
  refine ⟨visit, List.mem_append_left _ isThere, getsTo, ?_⟩
  rw [isAsked_append, or_iff_left others]
  exact iff

/-- After a turn in which it passed directories, and turns with requests for others. -/
theorem Climbs.passes (climbs : Climbs root done visits)
    (gotTo : ∀ path ∈ done, GotTo root visits path) {passed : List String}
    (passes : visit.Passes passed rest) (apart : ∀ path ∈ passed, path ∉ done) {more : List Visit}
    (others : ∀ path ∈ done ++ passed, ¬ IsAsked root path more) :
    ∀ path ∈ done ++ passed, GotTo root (visits ++ visit :: more) path := by
  intro path isThere
  have others' : ¬ IsAsked root path (visit :: more) := fun isAsked =>
    others path isThere ((passes.others more).mp isAsked)
  rcases List.mem_append.mp isThere with isOld | isPassed
  · exact (gotTo path isOld).append others'
  · refine ⟨visit, List.mem_append_right _ List.mem_cons_self, passes.getsTo isPassed,
      iff_of_false ?_ ?_⟩
    · rw [isAsked_append]
      exact not_or.mpr ⟨climbs.others (apart path isPassed), others'⟩
    · exact not_not_intro (passes.areKnown path isPassed)

/-- **A task has asked for exactly those directories that were not known** when it got to them. -/
theorem Climbs.gotTo (climbs : Climbs root done visits) (distinct : done.Nodup) :
    ∀ path ∈ done, GotTo root visits path := by
  induction climbs with
  | begins => exact List.forall_mem_nil _
  | @learns done passed here rest visits asked made visit earlier passes isUnknown inquires
      isAsked step =>
    obtain ⟨distinct', -, notHere⟩ := List.nodup_append.mp distinct
    obtain ⟨distinct'', -, apart⟩ := List.nodup_append.mp distinct'
    intro path isThere
    rcases List.mem_append.mp isThere with isThere | isThere
    · refine earlier.passes (step distinct'') passes ?_ ?_ path isThere
      · exact fun other isPassed isOld => apart other isOld other isPassed rfl
      · exact fun other isThere =>
          inquires.others (notHere other isThere here (List.mem_singleton_self here))
    · obtain rfl : path = here := List.mem_singleton.mp isThere
      refine ⟨visit, List.mem_append_right _ List.mem_cons_self, ⟨passed, rest, passes⟩,
        iff_of_true ?_ isUnknown⟩
      rw [isAsked_append, passes.others, isAsked_append]
      exact .inr (.inl isAsked)

theorem Seeking.gotTo {later : List String}
    (seeking : Seeking root here later asked made done visits) (distinct : (done ++ [here]).Nodup) :
    ∀ path ∈ done, GotTo root visits path := by
  obtain ⟨climbs, passes, -, inquires⟩ := seeking
  obtain ⟨distinct', -, notHere⟩ := List.nodup_append.mp distinct
  obtain ⟨distinct'', -, apart⟩ := List.nodup_append.mp distinct'
  refine climbs.passes (climbs.gotTo distinct'') passes ?_ ?_
  · exact fun other isPassed isOld => apart other isOld other isPassed rfl
  · exact fun other isThere =>
      inquires.others (notHere other isThere here (List.mem_singleton_self here))

/-- A task that is cancelled sends nothing. -/
theorem isAsked_cancelled (isCancelled : visit.wake = .cancelled) :
    ¬ IsAsked root path [visit] := by
  rintro ⟨other, isThere, sends⟩
  rw [List.mem_singleton.mp isThere, Visit.sends?, isCancelled] at sends
  cases stands : visit.point <;> rw [stands] at sends <;> cases sends

end Asked

/-! ## Calls -/

/-- **What is true at any time of a call that ensures directories**, those that it has dealt with
and the others that are before it. -/
structure Ensures (handle : Handle) (path : String) (parentsOnly : Bool) (done rest : List String)
    (visits : List Visit) (session : Session) (verdict : Verdict Point) : Prop where
  /-- They are the directories on the way to the path, from the top down. -/
  way : Path.wayTo path parentsOnly = done ++ rest
  isChain : ("" :: (done ++ rest)).IsChain Path.IsChild
  stage : Climb.Stage session.options.root path parentsOnly done rest visits verdict
  /-- It has asked for exactly those that were not known when it got to them. -/
  gotTo : ∀ other ∈ done, GotTo session.options.root visits other
  areKnown : ∀ other ∈ done, other ∈ session.ensured
  /-- It has added none of the others to what is known. -/
  spares : ∀ visit ∈ visits, ∀ other ∈ rest,
    other ∈ (visit.turn handle).1.ensured → other ∈ visit.session.ensured
  /-- Nothing has been sent for those after the next one. -/
  unsent : ∀ call ∈ sentIn visits, ∀ other ∈ rest.tail, call.key ≠ session.options.root ++ other
  /-- If it has returned, there is none before it. -/
  returns : ∀ answer, verdict = .finish (.returned answer) → rest = []

namespace Climb

variable {handle : Handle} {root path : String} {parentsOnly : Bool} {done rest : List String}
  {visits : List Visit} {session : Session} {verdict : Verdict Point}

/-- What has been sent is for what was dealt with, or for the next one. -/
theorem Stage.sent (stage : Stage root path parentsOnly done rest visits verdict) {call : StoreCall}
    (isSent : call ∈ sentIn visits) :
    ∃ other, IsFor root other call ∧ (other ∈ done ∨ rest.head? = some other) := by
  obtain ⟨visit, isThere, sends⟩ := List.mem_filterMap.mp isSent
  have ofSeeking {here : String} {later : List String} {asked made : List Visit}
      (seeking : Seeking root here later asked made done visits) (way : rest.head? = some here) :
      ∃ other, IsFor root other call ∧ (other ∈ done ∨ rest.head? = some other) := by
    obtain ⟨other, isOther, isFor⟩ := seeking.sent isThere sends
    rcases List.mem_append.mp isOther with isDone | isHere
    · exact ⟨other, isFor, .inl isDone⟩
    · rw [List.mem_singleton.mp isHere] at isFor
      exact ⟨here, isFor, .inr way⟩
  cases stage with
  | begins _ _ noTurn =>
    rw [noTurn] at isThere
    cases isThere
  | walks climbs =>
    obtain ⟨other, isDone, isFor⟩ := climbs.sent isThere sends
    exact ⟨other, isFor, .inl isDone⟩
  | asks seeking way => exact ofSeeking seeking (congrArg List.head? way)
  | fails seeking way => exact ofSeeking seeking (congrArg List.head? way)
  | arrives climbs passes same isAll =>
    rw [same] at isThere
    rcases List.mem_append.mp isThere with isOld | isNew
    · obtain ⟨other, isDone, isFor⟩ := climbs.sent isOld sends
      exact ⟨other, isFor, .inl (isAll ▸ List.mem_append_left _ isDone)⟩
    · rw [List.mem_singleton.mp isNew, passes.silent] at sends
      cases sends
  | @leaves earlier last same isCancelled climbs =>
    rw [same] at isThere
    rcases List.mem_append.mp isThere with isOld | isNew
    · rcases climbs with ⟨noTurn, -⟩ | climbs
      · rw [noTurn] at isOld
        cases isOld
      · obtain ⟨other, isDone, isFor⟩ := climbs.sent isOld sends
        exact ⟨other, isFor, .inl isDone⟩
    · rw [List.mem_singleton.mp isNew, Visit.sends?, isCancelled] at sends
      cases stands : last.point <;> rw [stands] at sends <;> cases sends

theorem Stage.gotTo (stage : Stage root path parentsOnly done rest visits verdict)
    (distinct : (done ++ rest).Nodup) :
    ∀ other ∈ done, GotTo root visits other := by
  have distinct' : done.Nodup := (List.nodup_append.mp distinct).1
  have ofSeeking {here : String} {later : List String} {asked made : List Visit}
      (seeking : Seeking root here later asked made done visits) (way : rest = here :: later) :
      ∀ other ∈ done, GotTo root visits other := by
    refine seeking.gotTo (distinct.sublist ?_)
    rw [way]
    exact (List.Sublist.refl done).append (List.singleton_sublist.mpr List.mem_cons_self)
  cases stage with
  | begins isNone =>
    rw [isNone]
    exact List.forall_mem_nil _
  | walks climbs => exact climbs.gotTo distinct'
  | asks seeking way => exact ofSeeking seeking way
  | fails seeking way => exact ofSeeking seeking way
  | arrives climbs passes same isAll =>
    subst same isAll
    obtain ⟨distinct'', -, apart⟩ := List.nodup_append.mp distinct'
    refine climbs.passes (climbs.gotTo distinct'') passes ?_ fun other _ => ?_
    · exact fun other isPassed isOld => apart other isOld other isPassed rfl
    · exact fun ⟨visit, isThere, _⟩ => by cases isThere
  | leaves same isCancelled climbs =>
    subst same
    rcases climbs with ⟨-, isNone⟩ | climbs
    · rw [isNone]
      exact List.forall_mem_nil _
    · exact fun other isDone =>
        (climbs.gotTo distinct' other isDone).append (isAsked_cancelled isCancelled)

theorem ensures
    (climb : Climb handle session.options.root path parentsOnly done rest visits session verdict)
    (way : Path.wayTo path parentsOnly = done ++ rest) :
    Ensures handle path parentsOnly done rest visits session verdict := by
  have distinct : (done ++ rest).Nodup := by
    rw [← way, Path.wayTo_eq]
    exact Path.descend_nodup ..
  obtain ⟨-, distinct', apart⟩ := List.nodup_append.mp distinct
  refine ⟨way, way ▸ Path.wayTo_isChain path parentsOnly, climb.stage, climb.stage.gotTo distinct,
    climb.areKnown,
    ?_, ?_, ?_⟩
  · intro visit isThere other isBefore isKnown
    refine (climb.learnt visit isThere other isKnown).resolve_right fun isDone => ?_
    exact apart other isDone other isBefore rfl
  · intro call isSent other isDeeper same
    obtain ⟨here, isFor, isHere⟩ := climb.stage.sent isSent
    obtain rfl : here = other := String.append_right_inj _ |>.mp (isFor.key.symm.trans same)
    rcases isHere with isDone | isNext
    · exact apart here isDone here (List.mem_of_mem_tail isDeeper) rfl
    · cases rest with
      | nil => cases isNext
      | cons first later =>
        cases isNext
        exact (List.nodup_cons.mp distinct').1 isDeeper
  · rintro answer returned
    cases climb.stage with
    | begins _ _ _ isFirst => cases isFirst.symm.trans returned
    | walks _ isNext => cases isNext.symm.trans returned
    | asks _ _ isNext =>
      rw [returned] at isNext
      cases isNext
    | arrives _ _ _ _ isNone => exact isNone
    | fails _ _ _ isOver isFailure =>
      cases isOver.symm.trans returned
      exact absurd rfl (isFailure answer)
    | leaves _ _ _ isOver => cases isOver.symm.trans returned

end Climb

/-- **What is true of a call that ensures directories**, whatever others do meanwhile. -/
theorem Passage.ensures {handle : Handle} {path : String} {parentsOnly : Bool} {visits : List Visit}
    {session : Session} {verdict : Verdict Point}
    (passage :
      Passage handle Session.Learns (.ensure (.text path) parentsOnly) visits session verdict) :
    ∃ done rest, Ensures handle path parentsOnly done rest visits session verdict := by
  obtain ⟨done, rest, way, climb⟩ := passage.climbs
  exact ⟨done, rest, climb.ensures way⟩

end WatchedNode
