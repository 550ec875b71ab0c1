/-
**What becomes of requests.**

A request in the background is pending until its answer is dealt with, and that answer comes into
the queue of its cache, if that runs. The ledger of a cache has the requests that are pending no
longer, the earliest first, with the chronicle of its queue (`Accounts`). In every run each request
has left those that are pending once, or is pending once and has not left them, and of those that
have left each has its answer in the chronicle, once and in this order (`Recounts.isAccounted`).
-/
import WatchedNode.Proofs.Loop.Refresh
import WatchedNode.Proofs.Quiescence

namespace WatchedNode

open Relation

variable {S : Service}

/-- The task is for a request of the cache. -/
def Role.isRequest (cache : CacheId) : Role → Bool
  | .request owner _ => owner = cache
  | _ => false

theorem Query.answer_isCompletion (query : Query) (outcome : Outcome Answer) :
    (query.answer outcome).isCompletion = true := by
  cases query <;> rfl

namespace Loop

variable {allowed : Outside S} {before after loop last : Loop S} {cache : CacheId}
  {service : S.State}

/-! ## What comes into the queue of a cache that runs -/

section Comes

variable {more out : List Item}

/-- When its worker takes an item only prompts come into the queue. -/
theorem Takes.areAsking (takes : Takes cache before after) {item : Item} {rest : List Item}
    (was : before.items cache = item :: rest) (is : after.items cache = rest ++ more) :
    ∀ item ∈ more, item.isAsking := by
  obtain ⟨self, wake, below, isAt, isPlain, same⟩ := takes
  have tends := (frameTurn_plays before.inTurn self (.worker cache .taking) wake).tends cache
  have ended := afterTurn_duty? self (.worker cache .taking) below
    (before.inTurn.frameTurn self (.worker cache .taking) wake) cache
  rw [← same] at ended
  generalize before.inTurn.frameTurn self (.worker cache .taking) wake = turn at tends ended
  cases tends with
  | feeds isOther => exact absurd rfl (isOther .taking)
  | quits isGone =>
    rcases isGone with isGone | ⟨-, isCancelled⟩
    · rw [items_of_bare fun duty there => by cases isGone.symm.trans there] at was
      cases was
    · exact absurd isCancelled isPlain
  | @idles _ _ duty there _ isEmpty =>
    have there : before.duty? cache = some duty := there
    rw [items_of_duty, there, Option.elim_some] at was
    cases has : duty.backlog with
    | none =>
      rw [has] at was
      cases was
    | some backlog =>
      rw [has, Option.bind_some] at isEmpty
      rw [has, Option.elim_some, Backlog.items_of_take?_none isEmpty] at was
      cases was
  | @reads _ _ duty _ queue _ there _ has taken now =>
    have there : before.duty? cache = some duty := there
    rw [items_of_some there has, (Backlog.take?_eq_some taken).1] at was
    cases was
    rw [items_of_some (ended.trans now) rfl] at is
    rw [List.self_eq_append_right.mp is]
    exact List.forall_mem_nil _
  | @works _ _ duty _ queue _ items there _ has taken areAsking _ now =>
    have there : before.duty? cache = some duty := there
    rw [items_of_some there has, (Backlog.take?_eq_some taken).1] at was
    cases was
    rw [items_of_some (ended.trans now) rfl, (done_eq _).1, Backlog.puts_eq] at is
    exact List.append_cancel_left is ▸ areAsking

/-- What comes into a queue has nothing in it that a request has ended in, or the worker takes an
item. -/
def Spoils (cache : CacheId) (before after : Loop S) : Prop :=
  (∃ items, (∀ item ∈ items, item.isCompletion = false) ∧
    after.items cache = before.items cache ++ items) ∨
    Takes cache before after ∧ before.items cache ≠ []

/-- Nothing that a request has ended in comes into the queue then. -/
theorem Draws.areNone (draws : Draws cache before after more out)
    (spoils : Spoils cache before after) :
    ∀ item ∈ more, item.isCompletion = false := by
  cases draws with
  | posts isOther is =>
    rcases spoils with ⟨items, areNone, fed⟩ | ⟨takes, isBusy⟩
    · rw [is] at fed
      exact List.append_cancel_left fed ▸ areNone
    · rcases isOther with isOther | isEmpty
      · exact absurd takes isOther
      · exact absurd isEmpty isBusy
  | takes takes was is =>
    exact fun item member => Item.isCompletion_of_asking (takes.areAsking was is item member)

/-- Prompts are nothing that requests have ended in. -/
theorem Spoils.of_asking {items : List Item} (areAsking : ∀ item ∈ items, item.isAsking)
    (fed : after.items cache = before.items cache ++ items) : Spoils cache before after :=
  .inl ⟨items, fun item member => Item.isCompletion_of_asking (areAsking item member), fed⟩

theorem Spoils.still (same : after.items cache = before.items cache) : Spoils cache before after :=
  .of_asking (List.forall_mem_nil _) (same.trans (List.append_nil _).symm)

/-- No answer comes in a turn. -/
theorem Tends.spoils {self : TaskId} {wake : Wake S.Reply} {frame : Frame S.Point}
    {rest : List (Frame S.Point)} {turn : Turn S}
    (tends : Tends cache self before.inTurn frame wake turn)
    (run : Reaches published (fresh service) before) (happens : Happens published before after)
    (runs : before.phase? cache = some .started) (isAt : before.IsAt self wake frame rest)
    (made : turn = before.inTurn.frameTurn self frame wake)
    (same : after = afterTurn self frame rest turn) :
    Spoils cache before after := by
  have ended := afterTurn_duty? self frame rest turn cache
  rw [← same] at ended
  obtain ⟨duty, backlog, is, phase, has⟩ := run.queue runs
  have was := items_of_some is has
  have takes {item : Item} {queue rest' : Backlog} {duty' : Duty}
      (isTaking : frame = .worker cache .taking) (isPlain : wake ≠ .cancelled)
      (there : before.duty? cache = some duty') (has' : duty'.backlog = some queue)
      (taken : queue.take? = some (item, rest')) : Spoils cache before after := by
    subst isTaking made
    refine .inr ⟨⟨self, wake, rest, isAt, isPlain, same⟩, ?_⟩
    rw [items_of_some there has', (Backlog.take?_eq_some taken).1]
    exact List.cons_ne_nil _ _
  cases tends with
  | feeds _ areAsking feeds =>
    have inTurn : Feeds cache [] before before.inTurn := .of_eq rfl
    exact .of_asking areAsking ((inTurn.trans (feeds.still ended)).fed run happens runs).1
  | begins there isLatent =>
    cases there.symm.trans is
    cases isLatent.symm.trans phase
  | closes now =>
    have now := ended.trans (now.trans (congrArg (Option.map Duty.closed) is))
    refine .inl ⟨[.stop], by simp [Item.isCompletion], ?_⟩
    rw [items_of_some now (show duty.closed.backlog = some (backlog.put .stop) by
      simp [Duty.closed, phase, has]), was]
    rfl
  | joins there has' _ now =>
    cases there.symm.trans is
    cases has'.symm.trans has
    exact .still (by rw [items_of_some (ended.trans now) rfl, was]; rfl)
  | quits => exact .still (by rw [items_of_duty, ended, items_of_duty]; rfl)
  | idles there _ _ now =>
    cases there.symm.trans is
    have has' : duty.backlog.map (Backlog.await self) = some (backlog.await self) := by
      rw [has, Option.map_some]
    exact .still (by rw [items_of_some (ended.trans now) has', was]; rfl)
  | reads there isPlain has' taken => exact takes rfl isPlain there has' taken
  | works there isPlain has' taken => exact takes rfl isPlain there has' taken
  | @returns _ _ _ items there areAsking _ now =>
    cases there.symm.trans is
    have has' : (itemDoneDuty (duty.feed items)).backlog = some (backlog.puts items).done.2 := by
      simp [itemDoneDuty, Duty.feed, has]
    refine .of_asking areAsking ?_
    rw [items_of_some (ended.trans now) has', (done_eq _).1, Backlog.puts_eq, was]

end Comes

/-! ## What happens to requests -/

section Steps

variable {query : Query} {task : TaskId} {outcome : Outcome Answer}

/-- What happens to the requests of a cache: the answer to one is dealt with, or each is pending as
often as it was, and nothing that a request has ended in comes into the queue. -/
inductive Tidies (cache : CacheId) (before after : Loop S) : Prop
  | clears {query : Query} {task : TaskId} {outcome : Outcome Answer}
      (clears : Clears cache query task outcome before after) (isBetween : before.turn = none) :
      Tidies cache before after
  | keeps (pending :
      ∀ (query : Query) (task : TaskId), before.roles[task]? = some (.request cache query) →
        (after.pending cache).count task = (before.pending cache).count task)
      (spoils : before.phase? cache = some .started → Spoils cache before after) :
      Tidies cache before after

theorem Happens.tidies (happens : Happens published before after)
    (run : Reaches published (fresh service) before) : Tidies cache before after := by
  cases happens.passes.betides run.hooksFit with
  | turn isAt plays =>
    refine .keeps (fun query task role => ?_) fun runs => ?_
    · refine ((plays.custody isAt).pending_count run.hooksFit ⟨cache, query,
        role⟩ cache).resolve_right ?_
      rintro ⟨isBetween, -⟩
      cases isBetween.symm.trans isAt.turn
    · exact (plays.tends cache).spoils run happens runs isAt rfl rfl
  | @answer owner query task outcome ready isBetween isFirst ended =>
    have clears := answered_clears run.hooksFit isFirst ended rfl
    by_cases here : cache = owner
    · subst here
      exact .clears clears isBetween
    · refine .keeps (fun query' task' role => ?_) fun runs => ?_
      · rw [clears.pending, if_neg here]
      · have is := answered_duty? owner query task outcome ({ before with ready } : Loop S) cache
        rw [if_neg fun both => here both.1] at is
        exact .still (by rw [items_of_duty, is, items_of_duty]; rfl)
  | plain feeds bides =>
    refine .keeps (fun query task role => bides.pending cache task ⟨cache, query, role⟩) fun runs =>
      ?_
    obtain ⟨items, areAsking, feeds⟩ := feeds cache
    exact .of_asking areAsking (feeds.fed run happens runs).1

/-- The requests of a cache that are pending no longer. -/
def departed (cache : CacheId) (before after : Loop S) : List TaskId :=
  (before.pending cache).filter fun task =>
    (before.roles[task]?).any (Role.isRequest cache) && decide (task ∉ after.pending cache)

/-- A request whose answer is dealt with is the only one that is pending no longer. -/
theorem Clears.departed (clears : Clears cache query task outcome before after)
    (arePending : before.RequestsArePending) : departed cache before after = [task] := by
  obtain ⟨same, atMost⟩ := arePending cache query task clears.role
  have isOwed : before.owed cache query task = 1 := by
    refine Nat.le_antisymm atMost ?_
    rw [owed_of_ended clears.ended, clears.dues, List.count_cons_self]
    exact Nat.le_add_left 1 _
  have only : Loop.departed cache before after = (before.pending cache).filter (· == task) := by
    refine List.filter_congr fun other member => ?_
    by_cases here : other = task
    · subst here
      simp [clears.role, Role.isRequest, clears.pending]
    · simp [here, clears.pending, member]
  rw [only, List.filter_beq, same, isOwed]
  rfl

/-- No request leaves those that are pending where each is pending as often as it was. -/
theorem departed_of_keeps (pending : ∀ (query : Query) (task : TaskId),
      before.roles[task]? = some (.request cache query) →
        (after.pending cache).count task = (before.pending cache).count task) :
        departed cache before after = [] := by
  refine List.filter_eq_nil_iff.mpr fun task member leaves => ?_
  obtain ⟨isRequest, isGone⟩ := Bool.and_eq_true_iff.mp leaves
  obtain ⟨role, is, isRequest⟩ := (Option.any_eq_true _ _).mp isRequest
  cases role with
  | request owner query =>
    obtain rfl : owner = cache := of_decide_eq_true isRequest
    have count := pending query task is
    rw [List.count_eq_zero_of_not_mem (of_decide_eq_true isGone)] at count
    exact absurd member (List.count_eq_zero.mp count.symm)
  | _ => cases isRequest

end Steps

/-! ## Ledgers -/

/-- What has become of the requests of a cache: those that are pending no longer, the earliest
first, and the chronicle of its queue. -/
structure Ledger where
  left : List TaskId := []
  chronicle : Chronicle := {}

/-- How the ledger of a cache goes on. -/
inductive Accounts (cache : CacheId) (before after : Loop S) (ledger : Ledger) : Ledger → Prop
  | notes {chronicle : Chronicle}
      (chronicles : Chronicles cache before after ledger.chronicle chronicle) :
      Accounts cache before after ledger ⟨ledger.left ++ departed cache before after, chronicle⟩

/-- The item that a request of the cache comes to when its task has ended. -/
def completion? (cache : CacheId) (loop : Loop S) (task : TaskId) : Option Item :=
  match loop.roles[task]? with
  | some (.request owner query) =>
    if owner = cache then (loop.outcome? task).map query.answer else none
  | _ => none

/-- The ledger of a cache tells the truth: each of its requests has left those that are pending
once, or is pending once and has not left them; and as long as the cache runs, what those have ended
in that have left came into its queue, each once and in this order, and nothing else that requests
have ended in. -/
structure IsAccounted (cache : CacheId) (ledger : Ledger) (loop : Loop S) : Prop where
  isChronicled : IsChronicled cache ledger.chronicle loop
  once (task : TaskId) (query : Query) : loop.roles[task]? = some (.request cache query) →
    ledger.left.count task + (loop.pending cache).count task = 1
  known (task : TaskId) : task ∈ ledger.left → ∃ query outcome,
    loop.roles[task]? = some (.request cache query) ∧ loop.outcome? task = some outcome
  completions : loop.phase? cache = some .started → ledger.left.map (completion? cache loop) =
    (ledger.chronicle.posted.filter Item.isCompletion).map some

/-- Only caches that have begun have asked anything. -/
theorem Reaches.requestsHaveBegun (run : Reaches allowed (fresh service) last) {task : TaskId}
    {query : Query} (role : last.roles[task]? = some (.request cache query)) :
    last.HasBegun cache := by
  induction run generalizing task query with
  | refl => cases role
  | tail earlier happens step =>
    have earlier : Reaches allowed (fresh service) _ := earlier
    have grows := happens.remains.grows
    cases happens.passes.custody earlier.hooksFit with
    | bides bides => exact grows.hasBegun (step (bides.requests task cache query role))
    | asks isAt isPlain found runs has taken isNext asks record =>
      rw [asks.roles] at role
      rcases List.mem_append.mp (List.mem_of_getElem? role) with member | member
      · obtain ⟨place, there⟩ := List.getElem?_of_mem member
        exact grows.hasBegun (step there)
      · cases List.mem_singleton.mp member
        exact grows.hasBegun ⟨_, found, fun isLatent => by cases isLatent.symm.trans runs⟩
    | answers isBetween isFirst ended same roles => exact grows.hasBegun (step (roles ▸ role))

section Ledgers

variable {ledger : Ledger}

/-- What a request has ended in stays the same. -/
theorem completion?_eq (run : Reaches allowed (fresh service) before)
    (happens : Happens allowed before after) {task : TaskId} {query : Query}
    {outcome : Outcome Answer} (role : before.roles[task]? = some (.request cache query))
    (ended : before.outcome? task = some outcome) :
    completion? cache before task = some (query.answer outcome) ∧
      completion? cache after task = some (query.answer outcome) := by
  have role' := roles_kept (happens.passes.custody run.hooksFit).grows role
  have ended' := happens.outcome run.endedAreBare ended
  unfold completion?
  rw [role, role', ended, ended']
  simp

section Goes

variable (isAccounted : IsAccounted cache ledger before)
  (run : Reaches published (fresh service) before) (happens : Happens published before after)

include isAccounted run happens

/-- Those that have left those that are pending are requests, and have ended. -/
theorem IsAccounted.known_after (task : TaskId)
    (member : task ∈ ledger.left ++ departed cache before after) :
    ∃ query outcome, after.roles[task]? = some (.request cache query) ∧
      after.outcome? task = some outcome := by
  have later {query : Query} {outcome : Outcome Answer}
      (role : before.roles[task]? = some (.request cache query))
      (ended : before.outcome? task = some outcome) :
      ∃ query outcome, after.roles[task]? = some (.request cache query) ∧
        after.outcome? task = some outcome :=
    ⟨query, outcome, roles_kept (happens.passes.custody run.hooksFit).grows role,
      happens.outcome run.endedAreBare ended⟩
  rcases List.mem_append.mp member with member | member
  · obtain ⟨query, outcome, role, ended⟩ := isAccounted.known task member
    exact later role ended
  · cases happens.tidies run with
    | clears clears =>
      rw [clears.departed run.requestsArePending, List.mem_singleton] at member
      subst member
      exact later clears.role clears.ended
    | keeps pending =>
      rw [departed_of_keeps pending] at member
      cases member

/-- Each request has left those that are pending once, or is pending once. -/
theorem IsAccounted.once_after (task : TaskId) (query : Query)
    (role : after.roles[task]? = some (.request cache query)) :
    (ledger.left ++ departed cache before after).count task + (after.pending cache).count
      task = 1 := by
  have custody := happens.passes.custody run.hooksFit
  rw [List.count_append]
  cases was : before.roles[task]? with
  | none =>
    have notLeft : task ∉ ledger.left := fun member => by
      obtain ⟨query, outcome, role, -⟩ := isAccounted.known task member
      cases was.symm.trans role
    have notDeparted : task ∉ departed cache before after := fun member => by
      have isRequest := (Bool.and_eq_true_iff.mp (List.mem_filter.mp member).2).1
      rw [was] at isRequest
      cases isRequest
    rw [List.count_eq_zero.mpr notLeft, List.count_eq_zero.mpr notDeparted,
      custody.new was role run.pendingAreKnown]
  | some other =>
    cases (roles_kept custody.grows was).symm.trans role
    have once := isAccounted.once task query was
    cases happens.tidies run with
    | keeps pending =>
      rw [departed_of_keeps pending, List.count_nil, pending query task was]
      exact once
    | @clears query' other outcome clears =>
      rw [clears.departed run.requestsArePending, clears.pending, if_pos rfl]
      by_cases here : task = other
      · subst here
        have isPending : task ∈ before.pending cache := by
          have member : task ∈ departed cache before after := by
            rw [clears.departed run.requestsArePending]
            exact List.mem_singleton_self task
          exact (List.mem_filter.mp member).1
        have notAfter : ((before.pending cache).filter (· ≠ task)).count task = 0 :=
          List.count_eq_zero.mpr (by simp)
        have atLeast := List.count_pos_iff.mpr isPending
        rw [notAfter, List.count_singleton_self]
        omega
      · have isOther : task ∉ [other] := fun member => here (List.mem_singleton.mp member)
        rw [List.count_filter (by simpa using here), List.count_eq_zero.mpr isOther]
        exact once

/-- Nothing has become of requests of a cache that has not begun. -/
theorem IsAccounted.blank (isLatent : before.phase? cache = some .latent) :
    ledger.left ++ departed cache before after = [] ∧ ledger.chronicle.posted = [] := by
  have nobody {task : TaskId} {query : Query}
      (role : before.roles[task]? = some (.request cache query)) : False := by
    obtain ⟨known, found, hasBegun⟩ := run.requestsHaveBegun role
    rw [phase?, duty?_of_found found] at isLatent
    exact hasBegun (Option.some.inj isLatent)
  have stamped := isAccounted.isChronicled.stamped
  rw [isLatent] at stamped
  cases stamped with
  | latent isNone =>
    refine ⟨List.append_eq_nil_iff.mpr ⟨List.eq_nil_iff_forall_not_mem.mpr fun task member =>
      ?_, ?_⟩, isNone⟩
    · obtain ⟨query, outcome, role, -⟩ := isAccounted.known task member
      exact nobody role
    · cases happens.tidies run with
      | clears clears => exact (nobody clears.role).elim
      | keeps pending => exact departed_of_keeps pending

/-- What requests have ended in comes into the queue when they leave those that are pending. -/
theorem IsAccounted.completions_after {more out : List Item}
    (draws : Draws cache before after more out)
    (unfolds : Unfolds more (before.phase? cache) (after.phase? cache))
    (runs : after.phase? cache = some .started) :
    (ledger.left ++ departed cache before after).map (completion? cache after) =
      ((ledger.chronicle.posted ++ more).filter Item.isCompletion).map some := by
  rw [runs] at unfolds
  generalize was : before.phase? cache = phase at unfolds
  cases unfolds with
  | begins isNone =>
    obtain ⟨left, posted⟩ := isAccounted.blank run happens was
    rw [left, posted, isNone]
    rfl
  | stays =>
    have old :
        ledger.left.map (completion? cache after) = ledger.left.map (completion? cache before) :=
      List.map_congr_left fun task member => by
        obtain ⟨query, outcome, role, ended⟩ := isAccounted.known task member
        obtain ⟨is, is'⟩ := completion?_eq run happens role ended
        rw [is, is']
    rw [List.map_append, old, isAccounted.completions was, List.filter_append, List.map_append]
    congr 1
    cases happens.tidies run with
    | keeps pending spoils =>
      rw [departed_of_keeps pending, List.filter_eq_nil_iff.mpr fun item member is => ?_]
      · rfl
      · cases (draws.areNone (spoils was) item member).symm.trans is
    | @clears query task outcome clears isBetween =>
      have fed := ((clears.feeds was).fed run happens was).1
      have comes : more = [query.answer outcome] := by
        cases draws with
        | posts _ is => exact List.append_cancel_left (is.symm.trans fed)
        | takes takes =>
          obtain ⟨self, wake, rest, isAt, -⟩ := takes
          cases isBetween.symm.trans isAt.turn
      rw [clears.departed run.requestsArePending, comes, List.map_singleton,
        (completion?_eq run happens clears.role clears.ended).2,
        List.filter_singleton, Query.answer_isCompletion]
      rfl

/-- **The ledger of a cache goes on to tell the truth**, whatever happens. -/
theorem IsAccounted.goesOn :
    ∃ longer, Accounts cache before after ledger longer ∧ IsAccounted cache longer after := by
  obtain ⟨more, out, unfolds, draws⟩ := happens.passes.draws (run.isManned cache)
  refine ⟨_, .notes (.draws draws), {
    isChronicled := {
      phases := ?_
      order := draws.order isAccounted.isChronicled.order
      stamped := isAccounted.isChronicled.stamped.unfolds unfolds }
    once := isAccounted.once_after run happens
    known := isAccounted.known_after run happens
    completions := isAccounted.completions_after run happens draws unfolds }⟩
  show _ ++ entered cache before after = _
  rw [isAccounted.isChronicled.phases, unfolds.course]

end Goes

theorem Accounts.unique {longer longer' : Ledger}
    (noted : Accounts cache before after ledger longer)
    (other : Accounts cache before after ledger longer') : longer' = longer := by
  obtain ⟨chronicles⟩ := noted
  obtain ⟨chronicles'⟩ := other
  obtain rfl := chronicles.unique chronicles'
  rfl

/-- Every run has a ledger. -/
theorem Reaches.hasLedger (run : Reaches published (fresh service) last) (cache : CacheId) :
    ∃ ledger, Recounts published service (Accounts cache) {} last ledger := by
  refine Reaches.recounts run fun before after ledger earlier happens => ?_
  obtain ⟨more, out, -, draws⟩ := happens.passes.draws (Reaches.isManned earlier cache)
  exact ⟨_, .notes (.draws draws)⟩

/-- Whichever way a state has been reached, the ledger of that way tells the truth. -/
theorem Recounts.isAccounted
    (recounts : Recounts published service (Accounts cache) {} last ledger) :
    IsAccounted cache ledger last := by
  induction recounts with
  | start =>
    refine ⟨⟨rfl, rfl, .absent rfl⟩, fun task query role => ?_, fun task member => ?_, fun _ => rfl⟩
    · cases role
    · cases member
  | next earlier happens noted step =>
    obtain ⟨longer, noted', isAccounted⟩ := step.goesOn earlier.run happens
    rwa [noted.unique noted'] at isAccounted

end Ledgers

end Loop

end WatchedNode
