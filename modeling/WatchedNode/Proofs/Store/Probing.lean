/-
**The probe of a session.**

A session that is open and knows that its connection is down has a probe, and one that has a probe
knows the state of its connection (`Session.IsProbed`). Both stay so in every turn of a task, as
long as no read of the probe fails in some way that is not the store's own
(`Sessions.turn_isProbed`):

* the probe is sent out as soon as the connection is down, and goes on until it is not;
* a probe that ends finds the connection up (`Session.Probes.isUp`);
* a read of the probe that finds its key, or finds that it is not there, leaves the connection up
  (`Sessions.turn_probed`).
-/
import WatchedNode.Proofs.Store.Account

namespace WatchedNode

namespace Session

/-- The connection is known to be up. -/
def isUp (session : Session) : Bool := session.link.any Link.isUp

/-- What is known of the connection is that it is up, or that it is down. -/
theorem isUp_or_isDown {session : Session} (isSet : session.link ≠ none) :
    session.isUp = true ∨ session.isDown = true := by
  obtain ⟨link, known⟩ := Option.ne_none_iff_exists'.mp isSet
  rw [isUp, isDown, known]
  cases link <;> decide

/-- A session with a probe knows the state of its connection, and has one while that is down, if it
is open and knows how long the probe is to sleep. -/
structure IsProbed (session : Session) : Prop where
  isSet : session.probe ≠ none → session.link ≠ none
  probes : session.isOpen = true → session.options.delay.number? ≠ none → session.isDown = true →
    session.probe ≠ none

namespace IsProbed

variable {session : Session}

/-- A session that is new knows nothing of its connection. -/
theorem new (options : SessionOptions) (listeners : List Subscriber) :
    IsProbed { options, listeners } := ⟨nofun, nofun⟩

/-- Who listens does not matter. -/
theorem listeners (isProbed : session.IsProbed) (listeners : List Subscriber) :
    IsProbed { session with listeners } := ⟨isProbed.isSet, isProbed.probes⟩

/-- A session that has been closed has no probe. -/
theorem closed (session : Session) : session.close.1.1.IsProbed := ⟨nofun, nofun⟩

/-- **The probe is sent out when the connection goes down.** -/
theorem sends {handle : Handle} {next : TaskId} {arms : Vigil → Prop} {after : Session}
    {effects : List SessionEffect} (isProbed : session.IsProbed)
    (sends : Sends handle next arms session after effects)
    (isKnown : session.link ≠ none → after.link ≠ none) : after.IsProbed := by
  cases sends with
  | nobody stays =>
    refine ⟨fun probing => isKnown (isProbed.isSet (stays.probe ▸ probing)),
      fun isOpen isTimed isDown => ?_⟩
    rcases stays.guarded isDown with wasDown | probing
    · rw [stays.probe]
      exact isProbed.probes (stays.isOpen ▸ isOpen) (stays.options ▸ isTimed) wasDown
    · exact probing
  | probe _ _ _ _ probe _ _ isDown =>
    refine ⟨fun _ unset => ?_, fun _ _ _ => probe ▸ Option.some_ne_none _⟩
    rw [Session.isDown, unset] at isDown
    cases isDown
  | watch vigil _ _ options isOpen _ probe guarded _ _ =>
    refine ⟨fun probing => isKnown (isProbed.isSet (probe ▸ probing)),
      fun isOpen' isTimed isDown => ?_⟩
    rcases guarded isDown with wasDown | probing
    · rw [probe]
      exact isProbed.probes (isOpen ▸ isOpen') (options ▸ isTimed) wasDown
    · exact probing

end IsProbed

variable (handle : Handle) (next : TaskId) (session : Session)

/-- After an answer of the store the connection is up. -/
theorem alive_isUp : (session.alive handle next).1.isUp = true := by
  unfold alive
  split
  · rw [isUp, setLink_link]
    rfl
  · next link known =>
    split
    · next isUp' =>
      rw [isUp, known]
      exact isUp'
    · rw [isUp, setLink_link]
      rfl

/-- **A probe that ends has found the connection up.** -/
theorem Probes.isUp {session : Session} {turn : SessionTurn} (probes : session.Probes turn)
    (isSet : session.link ≠ none) (isOver : turn.2.2.next? = none) : turn.1.isUp = true := by
  cases probes with
  | goesOn stays isThere => exact absurd isOver isThere
  | ends isUp session' =>
    rw [session']
    exact (isUp_or_isDown isSet).resolve_right (Bool.eq_false_iff.mp isUp)

end Session

namespace Sessions

variable (moment : Moment) (handle : Handle) (isSlow : Bool)

/-- What is known of a connection is not forgotten. -/
theorem turn_isKnown (point : Point) (wake : Wake Plan) (store : Store) {session : Session}
    (isSet : session.link ≠ none) :
    (turn moment handle isSlow point wake store session).2.1.link ≠ none := by
  rcases (turn_speaks moment handle isSlow point wake store session).tellings with
    ⟨same, -⟩ | ⟨link, -, known, -⟩
  · rwa [same]
  · rw [known]
    exact Option.some_ne_none link

/-- **While its connection is down a session has a probe**, if the probe's own turns leave it
there. -/
theorem turn_isProbed {point : Point} {wake : Wake Plan} {store : Store} {session : Session}
    {arms : Vigil → Prop} (isProbed : session.IsProbed)
    (accounts : Accounts handle moment.next moment.self arms point session
      (turn moment handle isSlow point wake store session).2)
    (probes : point.isProbe = true → session.isOpen = true → session.options.delay.number? ≠ none →
      session.Probes (turn moment handle isSlow point wake store session).2) :
    (turn moment handle isSlow point wake store session).2.1.IsProbed := by
  have isKnown : session.link ≠ none →
      (turn moment handle isSlow point wake store session).2.1.link ≠ none :=
    turn_isKnown moment handle isSlow point wake store
  cases accounts with
  | goesOn sends => exact isProbed.sends sends isKnown
  | ends sends => exact isProbed.sends sends isKnown
  | @disarms vigil middle _ _ _ sends same =>
    rw [same] at isKnown ⊢
    obtain ⟨isSet, probes⟩ := isProbed.sends sends (isKnown : _ → middle.link ≠ none)
    exact ⟨isSet, probes⟩
  | unprobes isProbe same _ _ isOver =>
    rw [same]
    refine ⟨nofun, fun isOpen isTimed isDown => ?_⟩
    cases probes isProbe isOpen isTimed with
    | goesOn stays isThere => exact absurd isOver isThere
    | ends isUp => cases isUp.symm.trans isDown
  | closes isStop same =>
    rw [same]
    exact .closed session

/-- What the probe has read is an answer of the store. -/
def isAnswer : Except Error Record → Bool
  | .ok _ | .error (.store .keyNotFound _ _) => true
  | _ => false

/-- **A read of the probe that is answered leaves the connection up.** -/
theorem turn_probed {point : Point} {wake : Wake Plan} {store : Store} (session : Session)
    {call : StoreCall} {result : Except Error Record} (isMade : point.made? = some (.probing, call))
    (hears : heard point wake store = some result) (answers : isAnswer result = true) :
    (turn moment handle isSlow point wake store session).2.1.isUp = true := by
  have isLeft : wake ≠ .cancelled := by
    rintro rfl
    cases point <;> cases hears
  obtain ⟨failures, written, made, same, hears', -⟩ :=
    turn_await moment handle isSlow store session isMade isLeft
  rw [same]
  rcases await_eq moment handle _ _ failures written made session with
    ⟨held, -⟩ | ⟨answer, answered, same⟩
  · rw [hears, held] at hears'
    cases hears'
  · rw [hears, answered] at hears'
    cases hears'
    rw [same]
    have alive := session.alive_isUp handle moment.next
    unfold isAnswer at answers
    split at answers
    · exact alive
    · exact alive
    · cases answers

end Sessions

end WatchedNode
