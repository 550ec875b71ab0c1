/-
**What a session says to its listeners.**

A session that learns something new of its connection tells all its listeners at once, in their
order, and in one turn it learns at most one thing (`turn_speaks`), which is a state that can come
next (`Link.successors`). Otherwise it is `Quiet`: the state of the connection stays what it is, and
no listener is told anything. In neither case do the listeners change.
-/
import WatchedNode.Store.Sessions

namespace WatchedNode

/-- A listener is told something. -/
def Effect.isTelling {Call Point Reply : Type} : Effect Call Point Reply → Bool
  | .tell .. => true
  | _ => false

/-- What is told to listeners. -/
def tellings (effects : List SessionEffect) : List SessionEffect := effects.filter Effect.isTelling

@[simp] theorem tellings_nil : tellings [] = [] := rfl

@[simp] theorem tellings_append (first second : List SessionEffect) :
    tellings (first ++ second) = tellings first ++ tellings second := List.filter_append ..

theorem tellings_cons_of_not {effect : SessionEffect} (isOther : effect.isTelling = false)
    (rest : List SessionEffect) : tellings (effect :: rest) = tellings rest := by
  simp [tellings, isOther]

/-- A session tells nobody anything, and has nothing to tell. -/
structure Quiet (before after : Session) (effects : List SessionEffect) : Prop where
  listeners : after.listeners = before.listeners
  link : after.link = before.link
  tellings : tellings effects = []

/-- The states that can come next, after what is known of a connection. -/
def Link.successors : Option Link → List Link
  | none => [.connected, .suspended, .lost]
  | some .connected | some .reconnected => [.suspended, .lost]
  | some .suspended => [.lost, .reconnected]
  | some .lost => [.suspended, .reconnected]
  | some .readOnly => [.suspended, .lost, .reconnected]

/-- A session tells all its listeners of a new state, or is quiet. -/
structure Speaks (handle : Handle) (before after : Session) (effects : List SessionEffect) :
    Prop where
  listeners : after.listeners = before.listeners
  tellings : after.link = before.link ∧ tellings effects = [] ∨
    ∃ link ∈ Link.successors before.link, after.link = some link ∧
      tellings effects = before.listeners.map fun listener => .tell handle listener link

theorem Quiet.speaks {before after : Session} {effects : List SessionEffect}
    (quiet : Quiet before after effects) (handle : Handle) : Speaks handle before after effects :=
  ⟨quiet.listeners, .inl ⟨quiet.link, quiet.tellings⟩⟩

theorem Quiet.refl (session : Session) : Quiet session session [] := ⟨rfl, rfl, rfl⟩

/-- What comes after is quiet. -/
theorem Speaks.trans_quiet {handle : Handle} {first second third : Session}
    {effects later : List SessionEffect} (speaks : Speaks handle first second effects)
    (quiet : Quiet second third later) : Speaks handle first third (effects ++ later) := by
  refine ⟨quiet.listeners.trans speaks.listeners, ?_⟩
  rw [tellings_append, quiet.tellings, List.append_nil, quiet.link]
  exact speaks.tellings

/-- Something quiet comes before. -/
theorem Speaks.prepend {handle : Handle} {before after : Session}
    {effects earlier : List SessionEffect} (speaks : Speaks handle before after effects)
    (silent : WatchedNode.tellings earlier = []) :
    Speaks handle before after (earlier ++ effects) := by
  refine ⟨speaks.listeners, ?_⟩
  rw [tellings_append, silent, List.nil_append]
  exact speaks.tellings

namespace Session

variable (handle : Handle) (next : TaskId) (session : Session)

/-! ## The connection -/

theorem tellings_tell (listeners : List Subscriber) (link : Link) :
    tellings (listeners.map fun listener => .tell handle listener link) =
      listeners.map fun listener => .tell handle listener link := by
  refine List.filter_eq_self.mpr fun effect member => ?_
  obtain ⟨listener, -, rfl⟩ := List.mem_map.mp member
  rfl

theorem setLink_speaks {link : Link}
    (canFollow : session.link ≠ some link → link ∈ Link.successors session.link) :
    Speaks handle session (session.setLink handle next link).1
      (session.setLink handle next link).2 := by
  unfold setLink
  split
  · exact (Quiet.refl session).speaks handle
  · next isNew =>
    dsimp only
    split
    · refine ⟨rfl, .inr ⟨link, canFollow isNew, rfl, ?_⟩⟩
      rw [tellings_append, tellings_tell, tellings_cons_of_not rfl, tellings_nil, List.append_nil]
    · exact ⟨rfl, .inr ⟨link, canFollow isNew, rfl, tellings_tell handle _ link⟩⟩

/-- A connection can be suspended or lost in every other state. -/
theorem drop_speaks {link : Link} (isDrop : link = .suspended ∨ link = .lost) :
    Speaks handle session (session.setLink handle next link).1
      (session.setLink handle next link).2 := by
  refine setLink_speaks handle next session fun isNew => ?_
  generalize session.link = known at isNew
  rcases isDrop with rfl | rfl
  · cases known with
    | none => decide
    | some link => cases link <;> first | decide | exact absurd rfl isNew
  · cases known with
    | none => decide
    | some link => cases link <;> first | decide | exact absurd rfl isNew

theorem alive_speaks :
    Speaks handle session (session.alive handle next).1 (session.alive handle next).2 := by
  unfold alive
  split
  · next unknown => exact setLink_speaks handle next session fun _ => by rw [unknown]; decide
  · next link known =>
    split
    · exact (Quiet.refl session).speaks handle
    · next isDown =>
      refine setLink_speaks handle next session fun _ => ?_
      rw [known]
      cases link <;> first | decide | exact absurd rfl isDown

theorem failed_speaks :
    Speaks handle session (session.failed handle next).1 (session.failed handle next).2 := by
  unfold failed
  split
  · exact drop_speaks handle next session (.inl rfl)
  · exact (Quiet.refl session).speaks handle

/-! ## Turns -/

/-- A turn of a session is quiet. -/
abbrev IsQuiet (turn : SessionTurn) : Prop := Quiet session turn.1 turn.2.1

theorem request_quiet (errand : Errand) (call : StoreCall) :
    session.IsQuiet (session.request errand call) := by
  unfold request
  split <;> exact .refl session

theorem requestOf_quiet (errand : Errand) (call : Except Error StoreCall) :
    session.IsQuiet (session.requestOf errand call) := by
  unfold requestOf
  split
  · exact request_quiet session errand _
  · exact .refl session

theorem close_quiet : Quiet session session.close.1.1 session.close.1.2 := by
  refine ⟨rfl, rfl, ?_⟩
  have cancels : ∀ tasks : List TaskId, tellings (tasks.map .cancel) = [] := by
    intro tasks
    induction tasks with
    | nil => rfl
    | cons task rest step => exact step
  unfold close
  dsimp only
  rw [tellings_append, cancels]
  split <;> rfl

theorem begins_quiet (isSlow : Bool) (operation : Operation) :
    session.IsQuiet (session.begins isSlow operation) := by
  unfold begins
  dsimp only
  split
  · split
    · exact .refl session
    · exact request_quiet session _ _
  · exact close_quiet session
  · exact .refl session
  · exact .refl session
  · exact requestOf_quiet session _ _
  · exact requestOf_quiet session _ _
  · exact requestOf_quiet session _ _
  · exact requestOf_quiet session _ _

theorem ensures_quiet (above : String) (below : List String) :
    session.IsQuiet (session.ensures above below) := by
  induction below generalizing above with
  | nil => exact .refl session
  | cons segment below step =>
    unfold ensures
    dsimp only
    split
    · exact step _
    · split
      · exact request_quiet session _ _
      · exact .refl session

theorem arm_quiet (key : String) (watcher : Option Subscriber) (index : Option Int) :
    Quiet session (session.arm handle next key watcher index).1
      (session.arm handle next key watcher index).2 := by
  unfold arm
  split
  · exact .refl session
  · split
    · exact .refl session
    · exact ⟨rfl, rfl, rfl⟩

theorem remember_quiet (path : String) : Quiet session (session.remember path) [] := by
  unfold remember
  split
  · exact .refl session
  · exact ⟨rfl, rfl, rfl⟩

theorem answered_quiet (errand : Errand) (key : String) (record : Record) :
    session.IsQuiet (session.answered handle next errand key record) := by
  unfold answered
  split
  · exact ⟨rfl, rfl, rfl⟩
  · exact ⟨rfl, rfl, rfl⟩
  · exact remember_quiet session _
  · exact remember_quiet session _
  · exact arm_quiet handle next session key _ _
  · exact arm_quiet handle next session key _ _
  · exact ⟨rfl, rfl, rfl⟩
  · exact .refl session
  · exact .refl session

theorem notFound_quiet (errand : Errand) (key : String) (error : Error) (payload : Value) :
    session.IsQuiet (session.notFound handle next errand key error payload) := by
  unfold notFound
  split
  · exact request_quiet session _ _
  · exact request_quiet session _ _
  · split
    · exact .refl session
    · exact arm_quiet handle next session key _ _
  · exact .refl session
  · exact .refl session

theorem refused_quiet (errand : Errand) (error : Error) :
    session.IsQuiet (session.refused errand error) := by
  unfold refused
  split
  · exact remember_quiet session _
  · exact .refl session

theorem disarm_quiet (key : String) (watcher : Subscriber) (task : TaskId) :
    Quiet session (session.disarm key watcher task) [] := ⟨rfl, rfl, rfl⟩

theorem retry_speaks (errand : Errand) (call : StoreCall) (failures : Nat)
    (result : Except Error Record) :
    Speaks handle session (session.retry handle next errand call failures result).1
      (session.retry handle next errand call failures result).2.1 := by
  have alive := alive_speaks handle next session
  unfold retry
  split
  · exact alive.trans_quiet (answered_quiet handle next _ errand _ _)
  · split
    · exact alive.trans_quiet (notFound_quiet handle next _ errand _ _ _)
    · split
      · split
        · exact (Quiet.refl session).speaks handle
        · exact drop_speaks handle next session (.inr rfl)
        · exact failed_speaks handle next session
      · exact (refused_quiet session errand _).speaks handle
    · exact (refused_quiet session errand _).speaks handle

theorem probeEnds_quiet (outcome : Outcome Answer) : session.IsQuiet (session.probeEnds outcome) :=
  ⟨rfl, rfl, rfl⟩

theorem probes_quiet : session.IsQuiet session.probes := by
  unfold probes
  split
  · split
    · exact .refl session
    · exact probeEnds_quiet session _
  · exact probeEnds_quiet session _

theorem probeReads_quiet : session.IsQuiet session.probeReads := by
  unfold probeReads
  split
  · exact .refl session
  · exact probeEnds_quiet session _

theorem probed_speaks (result : Except Error Record) :
    Speaks handle session (session.probed handle next result).1
      (session.probed handle next result).2.1 := by
  unfold probed
  split
  · exact alive_speaks handle next session
  · exact alive_speaks handle next session
  · split
    · exact (Quiet.refl session).speaks handle
    · exact ⟨rfl, .inl ⟨rfl, rfl⟩⟩
  · exact (probeEnds_quiet session _).speaks handle

theorem polls_quiet (self : TaskId) (key : String) (watcher : Subscriber) (index : Option Int) :
    session.IsQuiet (session.polls self key watcher index) := by
  unfold polls
  split
  · exact .refl session
  · exact disarm_quiet session key watcher self

theorem watched_speaks (self : TaskId) (key : String) (watcher : Subscriber) (index : Option Int)
    (result : Except Error Record) :
    Speaks handle session (session.watched handle next self key watcher index result).1
      (session.watched handle next self key watcher index result).2.1 := by
  have disarmed : ∀ effects : List SessionEffect, tellings effects = [] →
      Quiet session (session.disarm key watcher self) effects := fun _ silent => ⟨rfl, rfl, silent⟩
  unfold watched
  dsimp only
  split
  · exact (disarmed _ rfl).speaks handle
  · split
    · exact (Quiet.refl session).speaks handle
    · exact (disarmed _ rfl).speaks handle
    · have told := (drop_speaks handle next session (.inl rfl)).trans_quiet
        (disarm_quiet _ key watcher self)
      rw [List.append_nil] at told
      exact told
    · exact (disarmed _ rfl).speaks handle
  · exact (disarmed _ rfl).speaks handle

theorem concludes_speaks (self : TaskId) (errand : Errand) (call : StoreCall) (failures : Nat)
    (result : Except Error Record) :
    Speaks handle session (session.concludes handle next self errand call failures result).1
      (session.concludes handle next self errand call failures result).2.1 := by
  unfold concludes
  split
  · exact probed_speaks handle next session _
  · exact watched_speaks handle next session self _ _ _ _
  · exact retry_speaks handle next session _ _ _ _

theorem cancelled_quiet (self : TaskId) (point : Point) :
    session.IsQuiet (session.cancelled self point) := by
  unfold cancelled
  split
  · exact probeEnds_quiet session _
  · exact probeEnds_quiet session _
  · exact probeEnds_quiet session _
  · exact probeEnds_quiet session _
  · exact disarm_quiet session _ _ self
  · exact disarm_quiet session _ _ self
  · exact disarm_quiet session _ _ self
  · exact .refl session

end Session

namespace Sessions

theorem await_speaks (moment : Moment) (handle : Handle) (errand : Errand) (call : StoreCall)
    (failures : Nat) {written : List SessionEffect} (silent : tellings written = [])
    (result : Store × Store.Response × Option Change) (session : Session) :
    Speaks handle session (await moment handle errand call failures written result session).2.1
      (await moment handle errand call failures written result session).2.2.1 := by
  obtain ⟨store, response, change⟩ := result
  have quiet : tellings (written ++ change.elim [] tells) = [] := by
    rw [tellings_append, silent, List.nil_append]
    cases change <;> rfl
  unfold await
  dsimp only
  split
  · exact ⟨rfl, .inl ⟨rfl, quiet⟩⟩
  · exact (Session.concludes_speaks handle _ session _ errand call failures _).prepend quiet

/-- **In one turn a session tells all its listeners of a new state, or is quiet.** -/
theorem turn_speaks (moment : Moment) (handle : Handle) (isSlow : Bool) (point : Point)
    (wake : Wake Plan) (store : Store) (session : Session) :
    Speaks handle session (turn moment handle isSlow point wake store session).2.1
      (turn moment handle isSlow point wake store session).2.2.1 := by
  unfold turn
  split
  · exact (Session.cancelled_quiet session _ _).speaks handle
  · exact (Session.begins_quiet session isSlow _).speaks handle
  · exact (Session.ensures_quiet session _ _).speaks handle
  · exact await_speaks moment handle _ _ _ rfl _ session
  · exact await_speaks moment handle _ _ _ rfl _ session
  · exact await_speaks moment handle _ _ _ rfl _ session
  · exact (Session.probes_quiet session).speaks handle
  · exact (Session.probeReads_quiet session).speaks handle
  · exact (Session.polls_quiet session _ _ _ _).speaks handle
  · exact ⟨rfl, .inl ⟨rfl, rfl⟩⟩

end Sessions

end WatchedNode
