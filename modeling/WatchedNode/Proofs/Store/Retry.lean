/-
**Requests that are repeated.**

While the store cannot be reached, a request is made again until its limit is reached. A turn of its
task comes to one of four things (`Sessions.turn_retries`):

* the store says nothing yet, and the task waits;
* the store could not be reached, and the request is made again;
* it could not be reached for the last time: the connection is lost, and the request fails;
* the store has said something else, which is handed on as it is (`Session.receives`), after the
  session has learned from it whether the connection works (`Session.learns`).

`failuresOf` counts the failures at the beginning of a sequence of outcomes.
-/
import Mathlib.Data.ENat.Lattice
import WatchedNode.Proofs.Store.Probing
import WatchedNode.Proofs.Store.Speech

namespace WatchedNode

/-! ## Outcomes -/

namespace Sessions

/-- The store could not be reached. -/
def isFailure : Except Error Record → Bool
  | .error (.store fault _ _) => fault.isConnection
  | _ => false

/-- How many failures come before the first other outcome; there may be no end to them. -/
noncomputable def failuresOf (outcomes : ℕ → Except Error Record) : ℕ∞ :=
  ⨅ (place : ℕ) (_ : isFailure (outcomes place) = false), (place : ℕ∞)

section Counting

variable {outcomes : ℕ → Except Error Record} {count : ℕ}

theorem le_failuresOf (failing : ∀ place < count, isFailure (outcomes place) = true) :
    (count : ℕ∞) ≤ failuresOf outcomes := by
  refine le_iInf₂ fun place isOther => ?_
  refine Nat.cast_le.mpr (Nat.le_of_not_lt fun isEarly => ?_)
  cases (failing place isEarly).symm.trans isOther

theorem failuresOf_eq (failing : ∀ place < count, isFailure (outcomes place) = true)
    (isOther : isFailure (outcomes count) = false) : failuresOf outcomes = count :=
  le_antisymm (iInf₂_le count isOther) (le_failuresOf failing)

end Counting

end Sessions

/-- The change of a connection's state from one moment to another. -/
def Link.between (before after : Option Link) : List Link := if after = before then
    [] else after.toList

theorem Link.between_self (link : Option Link) : between link link = [] := if_pos rfl

theorem Link.between_some (before : Option Link) (link : Link) :
    between before (some link) = if before = some link then [] else [link] := by
  simp only [between, eq_comm, Option.toList_some]

/-- The state of the connection that an answer of the store leads to, if it is a new one. -/
def Link.ofAnswer : Option Link → List Link
  | none => [.connected]
  | some link => if link.isUp then [] else [.reconnected]

namespace Session

open Sessions

variable (handle : Handle) (next : TaskId) (errand : Errand) (call : StoreCall) (session : Session)

/-- What is made of the outcome of a request, which is no failure of the connection. -/
def receives (key : String) (outcome : Except Error Record) : SessionTurn :=
  match outcome with
  | .ok record => session.answered handle next errand key record
  | .error error =>
    match error with
    | .store .keyNotFound _ payload => session.notFound handle next errand key error payload
    | _ => session.refused errand error

/-- What a session learns of its connection from an outcome. -/
def learns (outcome : Except Error Record) : SessionEffects :=
  if isAnswer outcome then session.alive handle next else (session, [])

/-! ## The outcome of one attempt -/

theorem isLast_int {limit : Int} (limited : session.options.retries = .int limit) (failures : Nat) :
    session.isLast failures = .ok (decide (limit.toNat ≤ failures)) := by
  have same : ((limit : Rat) ≤ (failures : Rat)) ↔ limit.toNat ≤ failures := by
    rw [Int.toNat_le]
    exact_mod_cast Iff.rfl
  rw [isLast, limited]
  simp only [Value.number?, same]

/-- **What is no failure of the connection is handed on as it is.** -/
theorem retry_returns {outcome : Except Error Record} (isOther : isFailure outcome = false)
    (failures : Nat) :
    session.retry handle next errand call failures outcome =
      after (session.learns handle next outcome).2
      ((session.learns handle next outcome).1.receives handle next errand call.key outcome) := by
  unfold retry receives learns
  cases outcome with
  | ok record => rfl
  | error error =>
    cases error with
    | store fault message payload =>
      have isOther : fault.isConnection = false := isOther
      cases fault with
      | connectionFailed => cases isOther
      | watchTimedOut => cases isOther
      | _ => rfl
    | _ => rfl

theorem failure_cases {result : Except Error Record} (isFailing : isFailure result = true) :
    ∃ fault message payload, result = .error (.store fault message payload) ∧
      fault.isConnection = true ∧
      fault ≠ .keyNotFound := by
  cases result with
  | ok record => cases isFailing
  | error error =>
    cases error with
    | store fault message payload =>
      refine ⟨fault, message, payload, rfl, isFailing, ?_⟩
      rintro rfl
      cases isFailing
    | _ => cases isFailing

/-- A failure before the last one. -/
theorem retry_repeats {limit : Int} (limited : session.options.retries = .int limit)
    {result : Except Error Record} (isFailing : isFailure result = true) {failures : Nat}
    (few : failures < limit.toNat) :
    session.retry handle next errand call failures result =
      ((session.failed handle next).1, (session.failed handle next).2,
        .goOn (.ask errand call (failures + 1))) := by
  obtain ⟨fault, message, payload, rfl, isConnection, isOther⟩ := failure_cases isFailing
  have isLast := isLast_int session limited failures
  rw [decide_eq_false (Nat.not_le_of_lt few)] at isLast
  simp only [retry, isConnection, if_true, isLast]

theorem setLink_options (link : Link) :
    (session.setLink handle next link).1.options = session.options := by
  unfold setLink
  split
  · rfl
  · dsimp only
    split <;> rfl

/-- The last failure. -/
theorem retry_givesUp {limit : Int} (limited : session.options.retries = .int limit)
    {result : Except Error Record} (isFailing : isFailure result = true) {failures : Nat}
    (many : limit.toNat ≤ failures) :
    session.retry handle next errand call failures result =
      ((session.setLink handle next .lost).1, (session.setLink handle next .lost).2,
        .finish (.failed (.unavailable session.options.host))) := by
  obtain ⟨fault, message, payload, rfl, isConnection, isOther⟩ := failure_cases isFailing
  have isLast := isLast_int session limited failures
  rw [decide_eq_true many] at isLast
  simp only [retry, isConnection, if_true, isLast, setLink_options]

/-! ## The connection -/

theorem failed_link : (session.failed handle next).1.link =
    if Link.isUpOrUnset session.link then some .suspended else session.link := by
  unfold failed
  split
  · exact setLink_link handle next session .suspended
  · rfl

/-- What a session learns from an answer is that the connection works. -/
theorem learns_link (outcome : Except Error Record) : (session.learns handle next outcome).1.link =
    if isAnswer outcome then
      match session.link with
      | none => some .connected
      | some link => if link.isUp then some link else some .reconnected
    else session.link := by
  unfold learns
  split
  · cases known : session.link with
    | none =>
      have alive : session.alive handle next = session.setLink handle next .connected := by
        rw [alive, known]
      rw [alive]
      exact setLink_link handle next session .connected
    | some link =>
      have alive : session.alive handle next =
          if link.isUp then (session, []) else session.setLink handle next .reconnected := by
        rw [alive, known]
      rw [alive]
      dsimp only
      split
      · exact known
      · exact setLink_link handle next session .reconnected
  · rfl

theorem learns_between (outcome : Except Error Record) :
    Link.between session.link (session.learns handle next outcome).1.link =
      if isAnswer outcome then Link.ofAnswer session.link else [] := by
  rw [learns_link]
  split
  · cases known : session.link with
    | none => rfl
    | some link =>
      rw [Link.ofAnswer]
      dsimp only
      split
      · exact Link.between_self _
      · next isDown =>
        rw [Link.between_some, if_neg]
        rintro ⟨⟩
        exact isDown rfl
  · exact Link.between_self _

theorem receives_link (key : String) (outcome : Except Error Record) :
    (session.receives handle next errand key outcome).1.link = session.link := by
  unfold receives
  split
  · exact (answered_quiet handle next session errand key _).link
  · split
    · exact (notFound_quiet handle next session errand key _ _).link
    · exact (refused_quiet session errand _).link

theorem request_made (other : Errand) (different : other ≠ errand) (write : StoreCall) :
    (session.request other write).2.2.next?.bind Point.made? ≠ some (errand, call) := by
  unfold request
  split
  · intro same
    exact different (congrArg Prod.fst (Option.some.inj same))
  · exact nofun

/-- **Whoever is handed an outcome does not make the same request again.** -/
theorem receives_made (key : String) (outcome : Except Error Record) :
    (session.receives handle next errand key outcome).2.2.next?.bind Point.made? ≠
      some (errand, call) := by
  unfold receives
  split
  · unfold answered
    split <;> exact nofun
  · split
    · unfold notFound
      split
      · exact request_made .opening call session .founding nofun _
      · next path below =>
          exact request_made (.ensuring path below) call session (.making path below) nofun _
      · split <;> exact nofun
      · exact nofun
      · exact nofun
    · unfold refused
      split <;> exact nofun

end Session

/-! ## Turns -/

/-- The errand is a request's; a probe that reads and a watch that polls do not repeat their calls
in this way. -/
def Errand.isRepeated : Errand → Bool
  | .probing | .watching .. => false
  | _ => true

namespace Sessions

/-- What a turn of a task with a request comes to, when that has failed so often before. -/
inductive Retries (handle : Handle) (next : TaskId) (errand : Errand) (call : StoreCall)
    (limit failures : Nat) (session : Session) (heard : Option (Except Error Record))
    (turn : SessionTurn) : Prop
  /-- The store says nothing yet. -/
  | waits (silent : heard = none) (session' : turn.1 = session)
      (found : turn.2.2.next? = some (.asked errand call failures))
  /-- The request is made again. -/
  | repeats {result : Except Error Record} (hears : heard = some result)
      (isFailing : isFailure result = true) (few : failures < limit) (link : turn.1.link =
        if Link.isUpOrUnset session.link then some .suspended else session.link)
      (goesOn : turn.2.2 = .goOn (.ask errand call (failures + 1)))
  /-- It fails for good. -/
  | givesUp {result : Except Error Record} (hears : heard = some result)
      (isFailing : isFailure result = true) (many : limit ≤ failures)
      (link : turn.1.link = some .lost)
      (fails : turn.2.2 = .finish (.failed (.unavailable session.options.host)))
  /-- The outcome is handed on. -/
  | returns {outcome : Except Error Record} {earlier : List SessionEffect}
      (hears : heard = some outcome) (isOther : isFailure outcome = false)
      (same : turn = Session.after (earlier ++ (session.learns handle next outcome).2)
        ((session.learns handle next outcome).1.receives handle next errand call.key outcome))

section Turns

variable {handle : Handle} {next : TaskId} {errand : Errand} {call : StoreCall} {session : Session}
  {limit : Int}

/-- The answer to a request. -/
theorem concludes_retries (isRepeated : errand.isRepeated = true)
    (limited : session.options.retries = .int limit) (self : TaskId) (failures : Nat)
    (result : Except Error Record) (effects : List SessionEffect) :
    Retries handle next errand call limit.toNat failures session (some result)
      (Session.after effects (session.concludes handle next self errand call failures result)) := by
  have same : session.concludes handle next self errand call failures result =
      session.retry handle next errand call failures result := by
    unfold Session.concludes
    split
    · cases isRepeated
    · cases isRepeated
    · rfl
  rw [same]
  cases failing : isFailure result with
  | false =>
    have same : Session.after effects (session.retry handle next errand call failures result) =
        Session.after (effects ++ (session.learns handle next result).2)
          ((session.learns handle next result).1.receives handle next errand call.key result) := by
      rw [session.retry_returns handle next errand call failing]
      simp only [Session.after, List.append_assoc]
    exact .returns rfl failing same
  | true =>
    rcases Nat.lt_or_ge failures limit.toNat with few | many
    · rw [session.retry_repeats handle next errand call limited failing few]
      exact .repeats rfl failing few (session.failed_link handle next) rfl
    · rw [session.retry_givesUp handle next errand call limited failing many]
      exact .givesUp rfl failing many (session.setLink_link handle next .lost) rfl

/-- **What becomes of a request in a turn of its task**, if that is not cancelled. -/
theorem turn_retries (isRepeated : errand.isRepeated = true)
    (limited : session.options.retries = .int limit) (moment : Moment) (isSlow : Bool)
    {failures : Nat} {point : Point} {wake : Wake Plan} (store : Store)
    (isFor : point = .ask errand call failures ∨ point = .asked errand call failures)
    (isLeft : wake ≠ .cancelled) :
    Retries handle moment.next errand call limit.toNat failures session (heard point wake store)
      (turn moment handle isSlow point wake store session).2 := by
  have awaited (written : List SessionEffect) (made : Store × Store.Response × Option Change) :
      Retries handle moment.next errand call limit.toNat failures session made.2.1.answer?
        (await moment handle errand call failures written made session).2 := by
    rcases await_eq moment handle errand call failures written made session with
      ⟨held, same⟩ | ⟨result, answered, same⟩
    · rw [same, held]
      exact .waits rfl rfl rfl
    · rw [same, answered]
      exact concludes_retries isRepeated limited moment.self failures result _
  rcases isFor with rfl | rfl
  · cases wake with
    | cancelled => exact absurd rfl isLeft
    | _ => exact awaited _ _
  · cases wake with
    | cancelled => exact absurd rfl isLeft
    | _ => exact awaited _ _

end Turns

end Sessions

end WatchedNode
