/-
**What a watch tells, and how it ends.**

An answer to a read tells an index of the store (`indexOf`), and the watch that it arms asks from
the next one (`Arms.index`). In a turn of its own a watch goes on, quietly, or it ends: its watcher
is told once, or the connection has failed, or what was said is no failure of the store, or it was
cancelled (`WatchEnds`).
-/
import WatchedNode.Proofs.Store.Sending

namespace WatchedNode

/-! ## What is heard and told -/

/-- The index of the store that an answer tells. -/
def indexOf : Except Error Record → Option Int
  | .ok record => some record.index
  | .error (.store .keyNotFound _ (.map fields)) =>
    (Table.find? "index" fields).bind fun index => (Key.integer index).toOption
  | .error _ => none

theorem nextIndex_of_indexOf {fields : Table Value} {message : String} {number : Int}
    (found : indexOf (.error (.store .keyNotFound message (.map fields))) = some number) :
    Key.nextIndex (.map fields) = .ok (some (number + 1)) := by
  obtain ⟨value, isThere, isNumber⟩ := Option.bind_eq_some_iff.mp found
  have isFull : (Value.map fields).truth = true := by
    cases fields with
    | nil => cases isThere
    | cons field rest => rfl
  cases whole : Key.integer value with
  | error error =>
    rw [whole] at isNumber
    cases isNumber
  | ok index =>
    rw [whole] at isNumber
    cases isNumber
    unfold Key.nextIndex
    rw [if_pos isFull]
    dsimp only
    rw [isThere]
    cases value with
    | null => cases whole
    | _ =>
      dsimp only
      rw [whole]
      rfl

/-- A watch is armed from the index after the one that the answer tells. -/
theorem Arms.index {key : String} {errand : Errand} {result : Except Error Record} {vigil : Vigil}
    {number : Int} (arms : Arms key errand result vigil) (found : indexOf result = some number) :
    vigil.index = some (number + 1) := by
  cases arms with
  | look watcher record =>
    cases found
    rfl
  | fetch path decompress watcher record =>
    cases found
    rfl
  | @absent watcher message payload index isIndex =>
    cases payload with
    | map fields =>
      rw [nextIndex_of_indexOf found] at isIndex
      cases isIndex
      rfl
    | _ => cases found

/-- What a watcher is told: the key, and the node as it is now, or that it should look for
itself. -/
structure News where
  watcher : Subscriber
  key : String
  node : Option Record

/-- What an effect tells a watcher. -/
def Effect.news? {Call Point Reply : Type} : Effect Call Point Reply → Option News
  | .fire watcher key node => some ⟨watcher, key, node⟩
  | _ => none

/-- What watchers are told. -/
def newsIn (effects : List SessionEffect) : List News := effects.filterMap Effect.news?

theorem newsIn_append (first second : List SessionEffect) :
    newsIn (first ++ second) = newsIn first ++ newsIn second := List.filterMap_append ..

theorem Harmless.newsIn {effects : List SessionEffect} (harmless : Harmless effects) :
    newsIn effects = [] := by
  refine List.filterMap_eq_nil_iff.mpr fun effect member => ?_
  have isHarmless := harmless effect member
  cases effect with
  | fire watcher key node => exact isHarmless.elim
  | _ => rfl

/-- A watch only asks for what it waits for. -/
theorem Point.call_of_vigil {point : Point} {vigil : Vigil} {errand : Errand} {call : StoreCall}
    (isWatch : point.vigil? = some vigil) (isMade : point.made? = some (errand, call)) :
    call = .watch vigil.key vigil.index := by
  rcases Point.cases_of_vigil isWatch with rfl | ⟨failures, rfl | rfl⟩ <;> cases isMade
  · rfl
  · rfl

/-! ## How a watch ends -/

/-- How a watch ends in its turn, in which the store says that, if it says anything: what watchers
are told, what is known of the connection, and the outcome. -/
inductive WatchEnds (vigil : Vigil) (wake : Wake Plan) (heard : Option (Except Error Record))
    (link : Option Link) : List News → Option Link → Outcome Answer → Prop
  /-- The watcher is told of a change, or that it should look for itself. -/
  | tells {node : Option Record} (isNews : heard.bind newsOf = some node) :
      WatchEnds vigil wake heard link [⟨vigil.watcher, vigil.key, node⟩] link (.returned .nothing)
  /-- The connection has failed. -/
  | suspends {message : String} {payload : Value}
      (isFailure : heard = some (.error (.store .connectionFailed message payload))) :
      WatchEnds vigil wake heard link [] (some .suspended) (.returned .nothing)
  /-- What was said is no failure of the store. -/
  | fails {error : Error} (isHeard : heard = some (.error error))
      (isOther : ∀ fault message payload, error ≠ .store fault message payload) :
      WatchEnds vigil wake heard link [] link (.failed error)
  | cancelled (isCancelled : wake = .cancelled) : WatchEnds vigil wake heard link [] link .cancelled

/-- What becomes of a watch in a turn of its own. -/
theorem Session.Watches.course {handle : Handle} {next self : TaskId} {session : Session}
    {vigil : Vigil} {wake : Wake Plan} {heard : Option (Except Error Record)} {turn : SessionTurn}
    (watches : session.Watches handle next self vigil wake heard turn)
    (isOpen : session.isOpen = true) :
    (∃ point, turn.2.2.next? = some point ∧ point.vigil? = some vigil ∧ turn.1 = session ∧
      newsIn turn.2.1 = [] ∧ ∀ result, heard = some result →
        ∃ message payload, result = .error (.store .watchTimedOut message payload)) ∨
    ∃ outcome, turn.2.2 = .finish outcome ∧
      WatchEnds vigil wake heard session.link (newsIn turn.2.1) turn.1.link outcome := by
  cases watches with
  | goesOn patient found same session' harmless silent =>
    exact .inl ⟨_, found, same, session', harmless.newsIn, patient⟩
  | tells isNews harmless silent same =>
    rw [same]
    dsimp only
    rw [newsIn_append, harmless.newsIn]
    exact .inr ⟨_, rfl, .tells isNews⟩
  | suspends isFailure sends link session' isOver =>
    refine .inr ⟨_, isOver, ?_⟩
    rw [sends.harmless.newsIn, session', show (Session.disarm _ _ _ _).link = _ from link]
    exact .suspends isFailure
  | fails isOther session' harmless silent isOver =>
    refine .inr ⟨_, isOver, ?_⟩
    rw [harmless.newsIn, session']
    rcases isOther with ⟨closed, -⟩ | ⟨isHeard, isOther⟩
    · cases isOpen.symm.trans closed
    · exact .fails isHeard isOther
  | cancelled isCancelled same =>
    rw [same]
    exact .inr ⟨_, rfl, .cancelled isCancelled⟩

end WatchedNode
