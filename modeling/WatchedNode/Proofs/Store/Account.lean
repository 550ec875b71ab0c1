/-
**What a session keeps account of.**

A session keeps account of its probe and of its watches. In a turn of a task a session takes in whom
it sends out, and strikes out the task if that was its probe or a watch and ends; closing the
session strikes out all of them (`Sessions.turn_accounts`).
-/
import WatchedNode.Proofs.Store.Sending

namespace WatchedNode

open Relation

/-! ## Turns -/

/-- The point is one of the probe. -/
def Point.isProbe : Point → Bool
  | .probe | .probeWakes | .ask .probing _ _ | .asked .probing _ _ => true
  | _ => false

theorem Point.isProbe_iff {point : Point} (root : String) :
    point.isProbe = true ↔ point.aim root = .probing := by
  cases point with
  | ask errand call failures =>
    cases errand with
    | looking watcher => cases watcher <;> simp [isProbe, aim]
    | _ => simp [isProbe, aim]
  | asked errand call failures =>
    cases errand with
    | looking watcher => cases watcher <;> simp [isProbe, aim]
    | _ => simp [isProbe, aim]
  | begin operation =>
    cases operation with
    | look path watcher => cases watcher <;> simp [isProbe, aim]
    | _ => simp [isProbe, aim]
  | _ => simp [isProbe, aim]

theorem Point.vigil?_iff {point : Point} (isSound : point.IsSound) {vigil : Vigil} (root : String) :
    point.vigil? = some vigil ↔ point.aim root = .watching vigil :=
  ⟨fun isWatch => aim_of_vigil isWatch root, fun aim => vigil_of_aim aim isSound⟩

/-- Points with the same aim stand for the same watch, or for none. -/
theorem Point.vigil?_eq {first second : Point} (sound : first.IsSound) (sound' : second.IsSound)
    {root : String} (same : first.aim root = second.aim root) :
    first.vigil? = second.vigil? ∧ first.isProbe = second.isProbe := by
  refine ⟨Option.ext fun vigil => ?_, Bool.eq_iff_iff.mpr ?_⟩
  · rw [vigil?_iff sound root, vigil?_iff sound' root, same]
  · rw [isProbe_iff root, isProbe_iff root, same]

theorem Point.isSound_of_vigil {point : Point} {vigil : Vigil}
    (isWatch : point.vigil? = some vigil) :
    point.IsSound ∧ point.isProbe = false := by
  rcases Point.cases_of_vigil isWatch with rfl | ⟨failures, rfl | rfl⟩
  · exact ⟨trivial, rfl⟩
  · exact ⟨⟨_, rfl⟩, rfl⟩
  · exact ⟨⟨_, rfl⟩, rfl⟩

theorem Point.vigil?_of_isProbe {point : Point} (isProbe : point.isProbe = true) :
    point.vigil? = none := by
  refine Option.eq_none_iff_forall_ne_some.mpr fun vigil isWatch => ?_
  cases isProbe.symm.trans (isSound_of_vigil isWatch).2

/-- What a session does with its account in a turn of a task. -/
inductive Accounts (handle : Handle) (next self : TaskId) (arms : Vigil → Prop) (point : Point)
    (before : Session) (turn : SessionTurn) : Prop
  /-- The task goes on and is there for the same. -/
  | goesOn {stands : Point} (sends : Sends handle next arms before turn.1 turn.2.1)
      (found : turn.2.2.next? = some stands) (isSound : stands.IsSound)
      (vigil : stands.vigil? = point.vigil?) (isProbe : stands.isProbe = point.isProbe)
  /-- A task ends that is no watch and no probe. -/
  | ends (sends : Sends handle next arms before turn.1 turn.2.1) (isOver : turn.2.2.next? = none)
      (noWatch : point.vigil? = none) (noProbe : point.isProbe = false)
  /-- A watch ends. -/
  | disarms {vigil : Vigil} {middle : Session} {effects later : List SessionEffect}
      (isWatch : point.vigil? = some vigil)
      (sends : Sends handle next (fun _ => False) before middle effects)
      (same : turn.1 = middle.disarm vigil.key vigil.watcher self)
      (effects' : turn.2.1 = effects ++ later) (silent : errands later = [])
      (noCancel : ∀ task, .cancel task ∉ later) (isOver : turn.2.2.next? = none)
  /-- The probe ends. -/
  | unprobes (isProbe : point.isProbe = true) (same : turn.1 = { before with probe := none })
      (harmless : Harmless turn.2.1) (silent : errands turn.2.1 = [])
      (isOver : turn.2.2.next? = none)
  | closes (isStop : point = .begin .stop) (same : turn.1 = before.close.1.1)
      (effects' : turn.2.1 = before.close.1.2)
      (stands : ∀ stands, turn.2.2.next? = some stands → stands = .closing)

namespace Session

variable (handle : Handle) (next self : TaskId) (session : Session)

theorem Watches.accounts {arms : Vigil → Prop} {point : Point} {vigil : Vigil}
    {wake : Wake Plan} {heard : Option (Except Error Record)} {turn : SessionTurn}
    (isWatch : point.vigil? = some vigil)
    (watches : session.Watches handle next self vigil wake heard turn) :
    Accounts handle next self arms point session turn := by
  have noCancel : ∀ task, (.cancel task : SessionEffect) ∉ [] := fun _ => List.not_mem_nil
  cases watches with
  | @goesOn stands patient found same session' harmless silent =>
    obtain ⟨isSound, noProbe⟩ := Point.isSound_of_vigil same
    refine .goesOn (.nobody ?_) found isSound (same.trans isWatch.symm)
      (noProbe.trans (Point.isSound_of_vigil isWatch).2.symm)
    rw [session']
    exact .idle session harmless silent
  | @tells news earlier isNews harmless silent same =>
    rw [same]
    refine .disarms isWatch (.nobody (.idle session harmless silent)) rfl rfl rfl
      (fun task member => ?_) rfl
    cases List.mem_singleton.mp member
  | suspends isFailure sends link session' isOver =>
    exact .disarms isWatch sends session' (List.append_nil _).symm rfl noCancel
      (by rw [isOver, Verdict.next?])
  | fails isOther session' harmless silent isOver =>
    exact .disarms isWatch (.nobody (.idle session harmless silent)) session'
      (List.append_nil _).symm rfl
      noCancel (by rw [isOver, Verdict.next?])
  | cancelled isCancelled same =>
    rw [same]
    exact .disarms isWatch (.nobody (.refl session)) rfl rfl rfl noCancel rfl

variable {arms : Vigil → Prop} {point : Point} (isProbe : point.isProbe = true)

include isProbe

theorem probeEnds_accounts (outcome : Outcome Answer) :
    Accounts handle next self arms point session (session.probeEnds outcome) :=
  .unprobes isProbe rfl .nil rfl rfl

theorem probed_accounts (result : Except Error Record) {effects : List SessionEffect}
    (stays : Stays session session effects) :
    Accounts handle next self arms point session
      (after effects (session.probed handle next result)) := by
  have noWatch := Point.vigil?_of_isProbe isProbe
  have goesOn : ∀ {middle : Session} {later : List SessionEffect}, Stays session middle later →
      Accounts handle next self arms point session (middle, effects ++ later, .goOn .probe) :=
    fun later => .goesOn (.nobody (stays.trans later)) rfl trivial noWatch.symm isProbe.symm
  have alive := alive_stays handle next session
  unfold probed
  split
  · exact goesOn alive
  · exact goesOn alive
  · split
    · exact goesOn (.refl session)
    · refine goesOn (.idle session (fun effect member => ?_) rfl)
      rw [List.mem_singleton.mp member]
      trivial
  · refine .unprobes isProbe rfl (stays.harmless.append .nil) ?_ rfl
    rw [after, probeEnds, ends, errands_append, stays.silent]
    rfl

end Session

namespace Sessions

variable (moment : Moment) (handle : Handle) (isSlow : Bool)

theorem cancelled_accounts {arms : Vigil → Prop} {point : Point} (session : Session)
    (noWatch : point.vigil? = none) (isSound : point.IsSound) :
    Accounts handle moment.next moment.self arms point session
      (session.cancelled moment.self point) := by
  by_cases isProbe : point.isProbe
  · have ended : session.cancelled moment.self point = session.probeEnds .cancelled := by
      unfold Point.isProbe at isProbe
      split at isProbe
      · rfl
      · rfl
      · rfl
      · rfl
      · cases isProbe
    rw [ended]
    exact session.probeEnds_accounts handle moment.next moment.self isProbe .cancelled
  · rw [Bool.not_eq_true] at isProbe
    have ended : session.cancelled moment.self point = session.ends .cancelled := by
      unfold Session.cancelled
      split
      · cases isProbe
      · cases isProbe
      · cases isProbe
      · cases isProbe
      · cases noWatch
      · obtain ⟨key, rfl⟩ := isSound
        simp [Point.vigil?, StoreCall.key] at noWatch
      · obtain ⟨key, rfl⟩ := isSound
        simp [Point.vigil?, StoreCall.key] at noWatch
      · rfl
    rw [ended]
    exact .ends (.nobody (.refl session)) rfl noWatch isProbe

/-- The turn of the probe. -/
theorem probe_accounts {point : Point} {wake : Wake Plan} (store : Store) (session : Session)
    (isProbe : point.isProbe = true) (isSound : point.IsSound) (isLeft : wake ≠ .cancelled) :
    Accounts handle moment.next moment.self (ArmedBy point wake store) point session
      (turn moment handle isSlow point wake store session).2 := by
  have goesOn : ∀ {effects : List SessionEffect} {verdict : Verdict Point} {stands : Point},
      Stays session session effects → verdict.next? = some stands → stands.isProbe = true →
      stands.IsSound →
        Accounts handle moment.next moment.self (ArmedBy point wake store) point session
        (session, effects, verdict) := by
    intro effects verdict stands stays found isProbe' isSound
    refine .goesOn (.nobody stays) found isSound ?_ (isProbe'.trans isProbe.symm)
    rw [Point.vigil?_of_isProbe isProbe, Point.vigil?_of_isProbe isProbe']
  have ends :
      ∀ outcome, Accounts handle moment.next moment.self (ArmedBy point wake store) point session
      (session.probeEnds outcome) :=
    session.probeEnds_accounts handle moment.next moment.self isProbe
  cases isMade : point.made? with
  | some made =>
    obtain ⟨errand, call⟩ := made
    obtain ⟨failures, written, made, same, -, stays⟩ :=
      turn_await moment handle isSlow store session isMade isLeft
    have before := stays.trans (tells_stays session made.2.2)
    obtain rfl : errand = .probing := by
      unfold Point.isProbe at isProbe
      split at isProbe
      · cases isMade
      · cases isMade
      · cases isMade
        rfl
      · cases isMade
        rfl
      · cases isProbe
    rw [same]
    rcases await_eq moment handle .probing call failures written made session with
      ⟨-, same⟩ | ⟨result, -, same⟩
    · rw [same]
      have aims : point.aim "" = _ ∧ _ := Point.of_made isMade
      exact goesOn before rfl rfl (aims.2 isSound)
    · rw [same]
      exact session.probed_accounts handle moment.next moment.self isProbe result before
  | none =>
    have either : (turn moment handle isSlow point wake store session).2 = session.probes ∨
        (turn moment handle isSlow point wake store session).2 = session.probeReads := by
      unfold turn
      split
      · exact absurd rfl isLeft
      · cases isProbe
      · cases isProbe
      · cases isMade
      · cases isMade
      · cases isMade
      · exact .inl rfl
      · exact .inr rfl
      · cases isProbe
      · cases isProbe
    rcases either with same | same
    · rw [same]
      unfold Session.probes
      split
      · split
        · exact goesOn (.refl session) rfl rfl trivial
        · exact ends _
      · exact ends _
    · rw [same]
      unfold Session.probeReads
      split
      · exact goesOn (.refl session) rfl rfl ⟨_, rfl⟩
      · exact ends _

/-- **What a session does with its account in a turn.** -/
theorem turn_accounts {point : Point} (wake : Wake Plan) (store : Store) (session : Session)
    (isSound : point.IsSound) :
    Accounts handle moment.next moment.self (ArmedBy point wake store) point session
      (turn moment handle isSlow point wake store session).2 := by
  cases isWatch : point.vigil? with
  | some vigil =>
    exact Session.Watches.accounts handle moment.next moment.self session isWatch
      (turn_watches moment handle isSlow wake store session isWatch)
  | none =>
    by_cases isLeft : wake = .cancelled
    · subst isLeft
      have ended : (turn moment handle isSlow point .cancelled store session).2 =
          session.cancelled moment.self point := rfl
      rw [ended]
      exact cancelled_accounts moment handle session isWatch isSound
    · by_cases isProbe : point.isProbe
      · exact probe_accounts moment handle isSlow store session isProbe isSound isLeft
      · by_cases isStop : point = .begin .stop
        · subst isStop
          have stopped : (turn moment handle isSlow (.begin .stop) wake store session).2 =
              session.begins isSlow .stop := by
            cases wake with
            | cancelled => exact absurd rfl isLeft
            | _ => rfl
          rw [stopped]
          refine .closes rfl rfl rfl fun stands found => ?_
          unfold Session.begins at found
          dsimp only at found
          split at found
          · cases found
            rfl
          · cases found
        · rw [Bool.not_eq_true] at isProbe
          have noAim : point.aim session.options.root ≠ .probing := by
            rw [Ne, ← Point.isProbe_iff, isProbe]
            exact Bool.false_ne_true
          have noWatch : ∀ vigil, point.aim session.options.root ≠ .watching vigil := by
            intro vigil aim
            cases isWatch.symm.trans (Point.vigil_of_aim aim isSound)
          have sends : Sends handle moment.next (ArmedBy point wake store) session _ _ :=
            turn_sends moment handle isSlow session.options.root noAim noWatch isStop isLeft
          have goesOn := turn_goesOn moment handle isSlow store session isSound isLeft
          cases goesOn with
          | goOn found same isSound' =>
            obtain ⟨vigil, isProbe⟩ := Point.vigil?_eq isSound' isSound same
            exact .goesOn sends found isSound' vigil isProbe
          | finish found _ => exact .ends sends (by rw [found, Verdict.next?]) isWatch isProbe

end Sessions

/-! ## Options -/

theorem Sends.options {handle : Handle} {next : TaskId} {arms : Vigil → Prop}
    {before after : Session} {effects : List SessionEffect}
    (sends : Sends handle next arms before after effects) :
    after.options = before.options := by
  cases sends with
  | nobody stays => exact stays.options
  | probe options => exact options
  | watch _ _ _ options => exact options

/-- The options of a session stay as they are. -/
theorem Accounts.options {handle : Handle} {next self : TaskId} {arms : Vigil → Prop}
    {point : Point} {before : Session} {turn : SessionTurn}
    (accounts : Accounts handle next self arms point before turn) :
    turn.1.options = before.options := by
  cases accounts with
  | goesOn sends => exact sends.options
  | ends sends => exact sends.options
  | disarms _ sends same =>
    rw [same]
    exact sends.options
  | unprobes _ same =>
    rw [same]
  | closes _ same =>
    rw [same]
    rfl

end WatchedNode
