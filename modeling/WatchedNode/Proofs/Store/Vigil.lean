/-
**What a session keeps going.**

A task of a session has an `Aim`: it looks whether there is a node, it watches a key for somebody,
it probes the connection, or something else. It has the same aim from one turn to the next
(`Sessions.turn_goesOn`). A watch also keeps the index from which on it watches (`Vigil`).
-/
import WatchedNode.Proofs.Loop.Scene
import WatchedNode.Store.Sessions

namespace WatchedNode

/-! ## Aims -/

/-- What a watch waits for: a change of a key, from an index on, on behalf of a watcher. -/
structure Vigil where
  key : String
  watcher : Subscriber
  index : Option Int
  deriving Repr, DecidableEq

/-- What a task of a session is there for. -/
inductive Aim
  | probing
  | watching (vigil : Vigil)
  | looking (key : Except Error String) (watcher : Subscriber)
  | other

/-- What a task is there for that stands at that point. -/
def Point.aim (root : String) : Point → Aim
  | .probe | .probeWakes => .probing
  | .poll key watcher index => .watching ⟨key, watcher, index⟩
  | .begin (.look path (some watcher)) => .looking (Key.ofValue root path) watcher
  | .ask .probing _ _ | .asked .probing _ _ => .probing
  | .ask (.watching watcher index) call _ | .asked (.watching watcher index) call _ =>
    .watching ⟨call.key, watcher, index⟩
  | .ask (.looking (some watcher)) call _ | .asked (.looking (some watcher)) call _ =>
    .looking (.ok call.key) watcher
  | _ => .other

theorem Point.aim_ask (root : String) (errand : Errand) (call : StoreCall)
    (failures others : Nat) :
    (Point.ask errand call failures).aim root = (Point.ask errand call others).aim root ∧
      (Point.asked errand call failures).aim root = (Point.ask errand call others).aim root := by
  cases errand with
  | looking watcher => cases watcher <;> exact ⟨rfl, rfl⟩
  | _ => exact ⟨rfl, rfl⟩

/-- The call is one that is made for that. -/
def Errand.Suits (errand : Errand) (call : StoreCall) : Prop :=
  match errand with
  | .looking _ | .probing => ∃ key, call = .read key
  | .watching _ index => ∃ key, call = .watch key index
  | _ => True

/-- The watch of a task that stands at that point; its calls are for what it waits for. -/
def Point.vigil? : Point → Option Vigil
  | .poll key watcher index => some ⟨key, watcher, index⟩
  | .ask (.watching watcher index) call _ | .asked (.watching watcher index) call _ =>
    if call = .watch call.key index then some ⟨call.key, watcher, index⟩ else none
  | _ => none

/-- Calls are made for what they are there for. -/
def Point.IsSound : Point → Prop
  | .ask errand call _ | .asked errand call _ => errand.Suits call
  | _ => True

/-- A task watches from three points: it begins, it makes its call, or it waits for the answer. -/
theorem Point.cases_of_vigil {point : Point} {vigil : Vigil} (isWatch : point.vigil? = some vigil) :
    point = .poll vigil.key vigil.watcher vigil.index ∨ ∃ failures,
      point = .ask (.watching vigil.watcher vigil.index) (.watch vigil.key vigil.index) failures ∨
        point = .asked (.watching vigil.watcher vigil.index) (.watch vigil.key vigil.index)
          failures := by
  unfold vigil? at isWatch
  split at isWatch
  · cases isWatch
    exact .inl rfl
  · next failures =>
    split at isWatch
    · next isCall =>
      cases isWatch
      exact .inr ⟨failures, .inl (by rw [← isCall])⟩
    · cases isWatch
  · next failures =>
    split at isWatch
    · next isCall =>
      cases isWatch
      exact .inr ⟨failures, .inr (by rw [← isCall])⟩
    · cases isWatch
  · cases isWatch

theorem Point.aim_of_vigil {point : Point} {vigil : Vigil} (isWatch : point.vigil? = some vigil)
    (root : String) : point.aim root = .watching vigil := by
  rcases Point.cases_of_vigil isWatch with rfl | ⟨failures, rfl | rfl⟩ <;> rfl

theorem Point.vigil_of_aim {point : Point} {vigil : Vigil} {root : String}
    (aim : point.aim root = .watching vigil) (isSound : point.IsSound) :
    point.vigil? = some vigil := by
  cases point with
  | poll key watcher index =>
    cases aim
    rfl
  | ask errand call failures =>
    cases errand with
    | watching watcher index =>
      obtain ⟨key, rfl⟩ := isSound
      cases aim
      simp [vigil?, StoreCall.key]
    | looking watcher => cases watcher <;> cases aim
    | _ => cases aim
  | asked errand call failures =>
    cases errand with
    | watching watcher index =>
      obtain ⟨key, rfl⟩ := isSound
      cases aim
      simp [vigil?, StoreCall.key]
    | looking watcher => cases watcher <;> cases aim
    | _ => cases aim
  | begin operation =>
    cases operation with
    | look path watcher => cases watcher <;> cases aim
    | _ => cases aim
  | _ => cases aim

namespace Session

variable (handle : Handle) (next self : TaskId) (session : Session)

/-- If a task goes on, it has that aim; and if it does not, it has not been cancelled. -/
inductive GoesOn (root : String) (aim : Aim) (turn : SessionTurn) : Prop
  | goOn {point : Point} (found : turn.2.2.next? = some point) (same : point.aim root = aim)
      (isSound : point.IsSound)
  | finish {outcome : Outcome Answer} (found : turn.2.2 = .finish outcome)
      (isLeft : outcome ≠ .cancelled)

variable {root : String} {aim : Aim}

theorem ends_goesOn {outcome : Outcome Answer} (isLeft : outcome ≠ .cancelled) :
    GoesOn root aim (session.ends outcome) := .finish rfl isLeft

theorem request_goesOn {errand : Errand} {call : StoreCall}
    (same : (Point.ask errand call 0).aim root = aim) (suits : errand.Suits call) :
    GoesOn root aim (session.request errand call) := by
  unfold request
  split
  · exact .goOn rfl same suits
  · exact ends_goesOn session nofun

theorem requestOf_goesOn {errand : Errand} {call : Except Error StoreCall}
    (same : ∀ made, call = .ok made →
      (Point.ask errand made 0).aim root = aim ∧ errand.Suits made) :
    GoesOn root aim (session.requestOf errand call) := by
  unfold requestOf
  split
  · exact request_goesOn session (same _ rfl).1 (same _ rfl).2
  · exact ends_goesOn session nofun

theorem begins_goesOn (isSlow : Bool) (operation : Operation) :
    GoesOn session.options.root ((Point.begin operation).aim session.options.root)
      (session.begins isSlow operation) := by
  cases operation with
  | start =>
    unfold begins
    dsimp only
    split
    · exact ends_goesOn session nofun
    · exact request_goesOn session rfl trivial
  | stop =>
    unfold begins
    dsimp only
    split
    · exact .goOn rfl rfl trivial
    · exact .finish rfl nofun
  | ensure path parentsOnly =>
    cases path with
    | text path => exact .goOn rfl rfl trivial
    | _ => exact ends_goesOn session nofun
  | look path watcher =>
    refine requestOf_goesOn session fun made isMade => ?_
    cases isKey : Key.ofValue session.options.root path with
    | error error =>
      rw [isKey] at isMade
      cases isMade
    | ok key =>
      rw [isKey] at isMade
      cases isMade
      refine ⟨?_, key, rfl⟩
      cases watcher with
      | none => rfl
      | some watcher => simp [Point.aim, isKey, StoreCall.key]
  | fetch path watcher decompress =>
    exact requestOf_goesOn session fun made isMade => ⟨rfl, trivial⟩
  | set path content previous index create compress =>
    exact requestOf_goesOn session fun made isMade => ⟨rfl, trivial⟩
  | delete path previous index =>
    exact requestOf_goesOn session fun made isMade => ⟨rfl, trivial⟩

theorem ensures_goesOn (above : String) (below : List String) :
    GoesOn root .other (session.ensures above below) := by
  induction below generalizing above with
  | nil => exact ends_goesOn session nofun
  | cons segment below step =>
    unfold ensures
    dsimp only
    split
    · exact step _
    · split
      · exact request_goesOn session rfl trivial
      · exact ends_goesOn session nofun

/-! ### Answers -/

theorem answered_goesOn (errand : Errand) (key : String) (record : Record) (call : StoreCall)
    (failures : Nat) :
    GoesOn root ((Point.ask errand call failures).aim root)
      (session.answered handle next errand key record) := by
  cases errand with
  | ensuring path below => exact .goOn rfl rfl trivial
  | making path below => exact .goOn rfl rfl trivial
  | fetching path watcher decompress =>
    refine .finish rfl ?_
    split <;> exact nofun
  | _ => exact .finish rfl nofun

theorem notFound_goesOn (errand : Errand) (key : String) (error : Error) (payload : Value)
    (call : StoreCall) (failures : Nat) :
    GoesOn root ((Point.ask errand call failures).aim root)
      (session.notFound handle next errand key error payload) := by
  cases errand with
  | opening => exact request_goesOn session rfl trivial
  | ensuring path below => exact request_goesOn session rfl trivial
  | looking watcher =>
    unfold notFound
    dsimp only
    split
    · exact ends_goesOn session nofun
    · exact .finish rfl nofun
  | fetching path watcher decompress =>
    cases path <;> exact ends_goesOn session nofun
  | _ => exact ends_goesOn session nofun

theorem refused_goesOn (errand : Errand) (error : Error) (call : StoreCall) (failures : Nat) :
    GoesOn root ((Point.ask errand call failures).aim root) (session.refused errand error) := by
  unfold refused
  split
  · exact .goOn rfl rfl trivial
  · exact ends_goesOn session nofun

/-- What is done before does not matter. -/
theorem after_goesOn {effects : List SessionEffect} {turn : SessionTurn}
    (goesOn : GoesOn root aim turn) : GoesOn root aim (after effects turn) := by
  cases goesOn with
  | goOn found same isSound => exact .goOn found same isSound
  | finish found isLeft => exact .finish found isLeft

theorem retry_goesOn {errand : Errand} {call : StoreCall} (failures : Nat)
    (result : Except Error Record) (suits : errand.Suits call) :
    GoesOn root ((Point.ask errand call failures).aim root)
      (session.retry handle next errand call failures result) := by
  unfold retry
  split
  · exact after_goesOn (answered_goesOn handle next _ errand _ _ call failures)
  · split
    · exact after_goesOn (notFound_goesOn handle next _ errand _ _ _ call failures)
    · split
      · split
        · exact ends_goesOn session nofun
        · exact .finish rfl nofun
        · exact .goOn rfl (Point.aim_ask root errand call _ _).1 suits
      · exact refused_goesOn session errand _ call failures
    · exact refused_goesOn session errand _ call failures

theorem probed_goesOn (result : Except Error Record) :
    GoesOn root .probing (session.probed handle next result) := by
  unfold probed
  split
  · exact .goOn rfl rfl trivial
  · exact .goOn rfl rfl trivial
  · split
    · exact .goOn rfl rfl trivial
    · exact .goOn rfl rfl trivial
  · exact ends_goesOn _ nofun

theorem watched_goesOn (key : String) (watcher : Subscriber) (index : Option Int)
    (result : Except Error Record) :
    GoesOn root (.watching ⟨key, watcher, index⟩)
      (session.watched handle next self key watcher index result) := by
  unfold watched
  dsimp only
  split
  · exact .finish rfl nofun
  · split
    · exact .goOn rfl rfl trivial
    · exact .finish rfl nofun
    · exact .finish rfl nofun
    · exact .finish rfl nofun
  · exact ends_goesOn _ nofun

theorem concludes_goesOn {errand : Errand} {call : StoreCall} (failures : Nat)
    (result : Except Error Record) (suits : errand.Suits call) :
    GoesOn root ((Point.ask errand call failures).aim root)
      (session.concludes handle next self errand call failures result) := by
  unfold concludes
  split
  · exact probed_goesOn handle next session result
  · exact watched_goesOn handle next self session _ _ _ result
  · exact retry_goesOn handle next session failures result suits

end Session

namespace Sessions

variable {root : String}

theorem await_goesOn (moment : Moment) (handle : Handle) {errand : Errand} {call : StoreCall}
    (failures : Nat) (written : List SessionEffect)
    (result : Store × Store.Response × Option Change) (session : Session)
    (suits : errand.Suits call) :
    Session.GoesOn root ((Point.ask errand call failures).aim root)
      (await moment handle errand call failures written result session).2 := by
  obtain ⟨store, response, change⟩ := result
  unfold await
  dsimp only
  split
  · exact .goOn rfl (Point.aim_ask root errand call _ _).2 suits
  · exact Session.after_goesOn (Session.concludes_goesOn handle _ _ session failures _ suits)

/-- **A task of a session that goes on is there for the same.** -/
theorem turn_goesOn (moment : Moment) (handle : Handle) (isSlow : Bool) {point : Point}
    {wake : Wake Plan} (store : Store) (session : Session) (isSound : point.IsSound)
    (isLeft : wake ≠ .cancelled) :
    Session.GoesOn session.options.root (point.aim session.options.root)
      (turn moment handle isSlow point wake store session).2 := by
  unfold turn
  split
  · exact absurd rfl isLeft
  · exact Session.begins_goesOn session isSlow _
  · exact Session.ensures_goesOn session _ _
  · exact await_goesOn moment handle _ _ _ session isSound
  · next errand call failures plan =>
    rw [(Point.aim_ask session.options.root errand call failures failures).2]
    exact await_goesOn moment handle failures _ _ session isSound
  · next errand call failures _ _ =>
    rw [(Point.aim_ask session.options.root errand call failures failures).2]
    exact await_goesOn moment handle failures _ _ session isSound
  · unfold Session.probes
    split
    · split
      · exact .goOn rfl rfl trivial
      · exact Session.ends_goesOn _ nofun
    · exact Session.ends_goesOn _ nofun
  · unfold Session.probeReads
    split
    · exact .goOn rfl rfl ⟨_, rfl⟩
    · exact Session.ends_goesOn _ nofun
  · unfold Session.polls
    split
    · exact .goOn rfl rfl ⟨_, rfl⟩
    · exact Session.ends_goesOn _ nofun
  · exact .finish rfl nofun

end Sessions

end WatchedNode
