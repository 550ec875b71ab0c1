/-
**Accounts of the tasks that are sent out.**

What a session has in its account is there, and nobody is missing there while it is open
(`Session.IsKept`): its probe and its watches are tasks that stand at points of that, nobody watches
for the same watcher and key twice, and no watch and no probe is left out. `Roll` says where all
tasks stand. In a turn of a task one account changes, together with the roll, and accounts stay kept
(`Sessions.IsKept.turned`).
-/
import WatchedNode.Proofs.Store.Account

namespace WatchedNode

open Relation

/-! ## Accounts -/

/-- Where tasks stand, and which of them were cancelled before their first turn. -/
structure Roll where
  stands : TaskId → Option At
  isDoomed : TaskId → Prop

namespace Roll

/-- A task watches for a session. -/
def Watches (roll : Roll) (handle : Handle) (vigil : Vigil) (task : TaskId) : Prop :=
  ∃ point, roll.stands task = some ⟨some handle, point⟩ ∧ point.vigil? = some vigil

/-- A task probes for a session. -/
def Probes (roll : Roll) (handle : Handle) (task : TaskId) : Prop :=
  ∃ point, roll.stands task = some ⟨some handle, point⟩ ∧ point.isProbe = true

theorem Watches.eq {roll : Roll} {handle other : Handle} {vigil vigil' : Vigil} {task : TaskId}
    (left : roll.Watches handle vigil task) (right : roll.Watches other vigil' task) :
    handle = other ∧ vigil = vigil' := by
  obtain ⟨point, stands, isWatch⟩ := left
  obtain ⟨point', stands', isWatch'⟩ := right
  cases stands.symm.trans stands'
  exact ⟨rfl, Option.some.inj (isWatch.symm.trans isWatch')⟩

end Roll

/-- What the session has in its account is there, and nobody is missing in it while it is open. -/
structure Session.IsKept (roll : Roll) (handle : Handle) (session : Session) : Prop where
  watch {key : String} {watcher : Subscriber} {task : TaskId} :
    ⟨key, watcher, task⟩ ∈ session.watches →
    (∃ index, roll.Watches handle ⟨key, watcher, index⟩ task) ∧ ¬ roll.isDoomed task
  listed {vigil : Vigil} {task : TaskId} : session.isOpen = true → roll.Watches handle vigil task →
    ⟨vigil.key, vigil.watcher, task⟩ ∈ session.watches
  single {key : String} {watcher : Subscriber} {task other : TaskId} :
    ⟨key, watcher, task⟩ ∈ session.watches → ⟨key, watcher, other⟩ ∈ session.watches → task = other
  probe {task : TaskId} : session.probe = some task → roll.Probes handle task ∧ ¬ roll.isDoomed task
  sole {task : TaskId} : session.isOpen = true → roll.Probes handle task → session.probe = some task

/-- Tasks stand at sound points, those that watch or probe have a session, and the sessions'
accounts are kept. -/
structure Sessions.IsKept (roll : Roll) (state : Sessions) : Prop where
  isSound {task : TaskId} {point : At} : roll.stands task = some point → point.point.IsSound
  isThere {handle : Handle} {vigil : Vigil} {task : TaskId} : roll.Watches handle vigil task →
    ∃ session, state.sessions[handle]? = some session
  isHere {handle : Handle} {task : TaskId} : roll.Probes handle task →
    ∃ session, state.sessions[handle]? = some session
  sessions {handle : Handle} {session : Session} : state.sessions[handle]? = some session →
    session.IsKept roll handle

namespace Roll

/-- A task comes in where it is sent, if one is; the others are there as before. -/
structure Takes (next : TaskId) (sent : List At) (roll others : Roll) : Prop where
  kept {task : TaskId} {point : At} : roll.stands task = some point →
    others.stands task = some point
  isLive {task : TaskId} : ¬ roll.isDoomed task → ¬ others.isDoomed task
  old {task : TaskId} {point : At} : others.stands task = some point →
    roll.stands task = some point ∨ task = next ∧ sent = [point]
  new {point : At} : sent = [point] → others.stands next = some point ∧ ¬ others.isDoomed next

/-- A task goes elsewhere; the others are there as before. -/
structure Parts (task : TaskId) (roll others : Roll) : Prop where
  kept {other : TaskId} {point : At} : other ≠ task → roll.stands other = some point →
    others.stands other = some point
  isLive {other : TaskId} : ¬ roll.isDoomed other → ¬ others.isDoomed other
  old {other : TaskId} {point : At} : other ≠ task → others.stands other = some point →
    roll.stands other = some point

variable {roll others : Roll} {handle : Handle} {vigil : Vigil} {self next task : TaskId}
  {sent : List At}

theorem Takes.watches (takes : roll.Takes next sent others)
    (isWatch : roll.Watches handle vigil task) :
    others.Watches handle vigil task := by
  obtain ⟨point, stands, isWatch⟩ := isWatch
  exact ⟨point, takes.kept stands, isWatch⟩

theorem Takes.probes (takes : roll.Takes next sent others) (isProbe : roll.Probes handle task) :
    others.Probes handle task := by
  obtain ⟨point, stands, isProbe⟩ := isProbe
  exact ⟨point, takes.kept stands, isProbe⟩

theorem Takes.old_watches (takes : roll.Takes next sent others)
    (isWatch : others.Watches handle vigil task) : roll.Watches handle vigil task ∨
      task = next ∧ ∃ point, sent = [⟨some handle, point⟩] ∧ point.vigil? = some vigil := by
  obtain ⟨point, stands, isWatch⟩ := isWatch
  rcases takes.old stands with stands | ⟨same, isSent⟩
  · exact .inl ⟨point, stands, isWatch⟩
  · exact .inr ⟨same, point, isSent, isWatch⟩

theorem Takes.old_probes (takes : roll.Takes next sent others)
    (isProbe : others.Probes handle task) :
    roll.Probes handle task ∨
      task = next ∧ ∃ point, sent = [⟨some handle, point⟩] ∧ point.isProbe = true := by
  obtain ⟨point, stands, isProbe⟩ := isProbe
  rcases takes.old stands with stands | ⟨same, isSent⟩
  · exact .inl ⟨point, stands, isProbe⟩
  · exact .inr ⟨same, point, isSent, isProbe⟩

theorem Parts.watches (parts : roll.Parts self others) (different : task ≠ self)
    (isWatch : roll.Watches handle vigil task) : others.Watches handle vigil task := by
  obtain ⟨point, stands, isWatch⟩ := isWatch
  exact ⟨point, parts.kept different stands, isWatch⟩

theorem Parts.probes (parts : roll.Parts self others) (different : task ≠ self)
    (isProbe : roll.Probes handle task) : others.Probes handle task := by
  obtain ⟨point, stands, isProbe⟩ := isProbe
  exact ⟨point, parts.kept different stands, isProbe⟩

theorem Parts.old_watches (parts : roll.Parts self others) (different : task ≠ self)
    (isWatch : others.Watches handle vigil task) : roll.Watches handle vigil task := by
  obtain ⟨point, stands, isWatch⟩ := isWatch
  exact ⟨point, parts.old different stands, isWatch⟩

theorem Parts.old_probes (parts : roll.Parts self others) (different : task ≠ self)
    (isProbe : others.Probes handle task) : roll.Probes handle task := by
  obtain ⟨point, stands, isProbe⟩ := isProbe
  exact ⟨point, parts.old different stands, isProbe⟩

/-- No probe watches. -/
theorem Watches.not_probes {other : Handle} (isWatch : roll.Watches handle vigil task) :
    ¬ roll.Probes other task := by
  rintro ⟨point, stands, isProbe⟩
  obtain ⟨point', stands', isWatch⟩ := isWatch
  cases stands.symm.trans stands'
  cases isProbe.symm.trans (Point.isSound_of_vigil isWatch).2

end Roll

namespace Session.IsKept

variable {roll others : Roll} {handle : Handle} {session after : Session}

/-- Where the account stays, and so do those who are in it. -/
theorem steady (isKept : session.IsKept roll handle) (isOpen : after.isOpen = session.isOpen)
    (watches : after.watches = session.watches) (probe : after.probe = session.probe)
    (kept : ∀ task vigil, roll.Watches handle vigil task → ¬ roll.isDoomed task →
      others.Watches handle vigil task ∧ ¬ others.isDoomed task)
    (kept' : ∀ task, roll.Probes handle task → ¬ roll.isDoomed task →
      others.Probes handle task ∧ ¬ others.isDoomed task)
    (old : ∀ task vigil, others.Watches handle vigil task → roll.Watches handle vigil task)
    (old' : ∀ task, others.Probes handle task → roll.Probes handle task) :
    after.IsKept others handle := by
  refine ⟨fun {key watcher task} member => ?_, fun {vigil task} isOpen' isWatch => ?_,
    fun {key watcher task other} first second => ?_, fun {task} isProbe => ?_,
    fun {task} isOpen' isProbe => ?_⟩
  · obtain ⟨⟨index, isWatch⟩, isLive⟩ := isKept.watch (watches ▸ member)
    obtain ⟨isWatch, isLive⟩ := kept task _ isWatch isLive
    exact ⟨⟨index, isWatch⟩, isLive⟩
  · rw [watches]
    exact isKept.listed (isOpen ▸ isOpen') (old task vigil isWatch)
  · exact isKept.single (watches ▸ first) (watches ▸ second)
  · obtain ⟨isProbe, isLive⟩ := isKept.probe (probe ▸ isProbe)
    exact kept' task isProbe isLive
  · exact probe.trans (isKept.sole (isOpen ▸ isOpen') (old' task isProbe))

variable {next self : TaskId} {vigil : Vigil}

section Sent

variable {sent : List At} (isKept : session.IsKept roll handle)
  (takes : roll.Takes next sent others)

include isKept takes

/-- Whom it has sent out before stays in its account, where nobody new is sent for it. -/
theorem stays (isOpen : after.isOpen = session.isOpen) (watches : after.watches = session.watches)
    (probe : after.probe = session.probe) (silent : sent = []) : after.IsKept others handle := by
  refine isKept.steady isOpen watches probe
    (fun task vigil isWatch isLive => ⟨takes.watches isWatch, takes.isLive isLive⟩)
    (fun task isProbe isLive => ⟨takes.probes isProbe, takes.isLive isLive⟩)
      (fun task vigil isWatch => ?_)
    fun task isProbe => ?_
  · rcases takes.old_watches isWatch with isOld | ⟨-, point, isSent, -⟩
    · exact isOld
    · cases silent.symm.trans isSent
  · rcases takes.old_probes isProbe with isOld | ⟨-, point, isSent, -⟩
    · exact isOld
    · cases silent.symm.trans isSent

/-- It sends out its probe, where it has none. -/
theorem sendsProbe (isOpen : after.isOpen = session.isOpen)
    (watches : after.watches = session.watches) (isFirst : session.probe = none)
    (probe : after.probe = some next) (isSent : sent = [⟨some handle, .probe⟩]) :
    after.IsKept others handle := by
  have old : ∀ task vigil, others.Watches handle vigil task → roll.Watches handle vigil task := by
    intro task vigil isWatch
    rcases takes.old_watches isWatch with isOld | ⟨-, point, isSent', isWatch⟩
    · exact isOld
    · cases isSent.symm.trans isSent'
      cases isWatch
  refine ⟨fun {key watcher task} member => ?_, fun {vigil task} isOpen' isWatch => ?_,
    fun {key watcher task other} first second => ?_, fun {task} isProbe => ?_,
    fun {task} isOpen' isProbe => ?_⟩
  · obtain ⟨⟨index, isWatch⟩, isLive⟩ := isKept.watch (watches ▸ member)
    exact ⟨⟨index, takes.watches isWatch⟩, takes.isLive isLive⟩
  · rw [watches]
    exact isKept.listed (isOpen ▸ isOpen') (old task vigil isWatch)
  · exact isKept.single (watches ▸ first) (watches ▸ second)
  · cases probe.symm.trans isProbe
    obtain ⟨stands, isLive⟩ := takes.new isSent
    exact ⟨⟨.probe, stands, rfl⟩, isLive⟩
  · rcases takes.old_probes isProbe with isOld | ⟨rfl, -⟩
    · cases isFirst.symm.trans (isKept.sole (isOpen ▸ isOpen') isOld)
    · exact probe

/-- It sends out a watch for somebody who does not wait for that key yet. -/
theorem sendsWatch (isNew : ¬ session.IsArmed vigil.key vigil.watcher)
    (isOpen : after.isOpen = session.isOpen)
    (watches : after.watches = session.watches ++ [⟨vigil.key, vigil.watcher, next⟩])
    (probe : after.probe = session.probe)
    (isSent : sent = [⟨some handle, .poll vigil.key vigil.watcher vigil.index⟩]) :
    after.IsKept others handle := by
  have isThere := takes.new isSent
  have isNewWatch : others.Watches handle vigil next := ⟨_, isThere.1, rfl⟩
  have isEntry : ∀ entry, entry ∈ after.watches ↔
      entry ∈ session.watches ∨ entry = ⟨vigil.key, vigil.watcher, next⟩ := by
    intro entry
    rw [watches, List.mem_append, List.mem_singleton]
  refine ⟨fun {key watcher task} member => ?_, fun {vigil' task} isOpen' isWatch => ?_,
    fun {key watcher task other} first second => ?_, fun {task} isProbe => ?_,
    fun {task} isOpen' isProbe => ?_⟩
  · rcases (isEntry _).mp member with isOld | same
    · obtain ⟨⟨index, isWatch⟩, isLive⟩ := isKept.watch isOld
      exact ⟨⟨index, takes.watches isWatch⟩, takes.isLive isLive⟩
    · cases same
      exact ⟨⟨vigil.index, isNewWatch⟩, isThere.2⟩
  · refine (isEntry _).mpr ?_
    rcases takes.old_watches isWatch with isOld | ⟨rfl, point, isSent', isWatch⟩
    · exact .inl (isKept.listed (isOpen ▸ isOpen') isOld)
    · cases isSent.symm.trans isSent'
      cases isWatch
      exact .inr rfl
  · rcases (isEntry _).mp first with isOld | same <;> rcases (isEntry _).mp second with
      isOld' | same'
    · exact isKept.single isOld isOld'
    · cases same'
      exact absurd ⟨task, isOld⟩ isNew
    · cases same
      exact absurd ⟨other, isOld'⟩ isNew
    · cases same
      cases same'
      rfl
  · obtain ⟨isProbe, isLive⟩ := isKept.probe (probe ▸ isProbe)
    exact ⟨takes.probes isProbe, takes.isLive isLive⟩
  · rcases takes.old_probes isProbe with isOld | ⟨-, point, isSent', isProbe⟩
    · exact probe.trans (isKept.sole (isOpen ▸ isOpen') isOld)
    · cases isSent.symm.trans isSent'
      cases isProbe

end Sent

/-- **Whom a session sends out it takes in.** -/
theorem sends {arms : Vigil → Prop} {effects : List SessionEffect}
    (isKept : session.IsKept roll handle) (sends : Sends handle next arms session after effects)
    (takes : roll.Takes next (errands effects) others) : after.IsKept others handle := by
  cases sends with
  | nobody stays => exact isKept.stays takes stays.isOpen stays.watches stays.probe stays.silent
  | probe options isOpen watches isFirst probe harmless sent isDown =>
    exact isKept.sendsProbe takes isOpen watches isFirst probe sent
  | watch vigil isRight isNew options isOpen watches probe guarded harmless sent =>
    exact isKept.sendsWatch takes isNew isOpen watches probe sent

/-- **A watch that ends is struck out.** -/
theorem disarm (isKept : session.IsKept roll handle) (isWatch : roll.Watches handle vigil self)
    (parts : roll.Parts self others) (isOver : others.stands self = none) :
    (session.disarm vigil.key vigil.watcher self).IsKept others handle := by
  have isEntry : ∀ entry, entry ∈ (session.disarm vigil.key vigil.watcher self).watches ↔
      entry ∈ session.watches ∧ entry ≠ ⟨vigil.key, vigil.watcher, self⟩ := by
    intro entry
    rw [Session.disarm, List.mem_filter, decide_eq_true_eq]
  have isOther : ∀ {task : TaskId}, (∃ point, others.stands task = some point) → task ≠ self := by
    rintro task ⟨point, stands⟩ rfl
    cases isOver.symm.trans stands
  refine ⟨fun {key watcher task} member => ?_, fun {vigil' task} isOpen isWatch' => ?_,
    fun {key watcher task other} first second => ?_, fun {task} isProbe => ?_,
    fun {task} isOpen isProbe => ?_⟩
  · obtain ⟨isOld, isOther⟩ := (isEntry _).mp member
    obtain ⟨⟨index, isWatch'⟩, isLive⟩ := isKept.watch isOld
    have different : task ≠ self := by
      rintro rfl
      obtain ⟨-, rfl⟩ := isWatch'.eq isWatch
      exact isOther rfl
    exact ⟨⟨index, parts.watches different isWatch'⟩, parts.isLive isLive⟩
  · have different : task ≠ self := isOther ⟨_, isWatch'.choose_spec.1⟩
    refine (isEntry _).mpr ⟨isKept.listed isOpen (parts.old_watches different isWatch'),
      fun same => ?_⟩
    exact different (Watch.mk.inj same).2.2
  · exact isKept.single ((isEntry _).mp first).1 ((isEntry _).mp second).1
  · obtain ⟨probes, isLive⟩ := isKept.probe (isProbe : session.probe = some task)
    have different : task ≠ self := by
      rintro rfl
      exact isWatch.not_probes probes
    exact ⟨parts.probes different probes, parts.isLive isLive⟩
  · exact isKept.sole isOpen (parts.old_probes (isOther ⟨_, isProbe.choose_spec.1⟩) isProbe)

/-- **A probe that ends is struck out.** -/
theorem unprobe (isKept : session.IsKept roll handle) (isProbe : roll.Probes handle self)
    (parts : roll.Parts self others) (isOver : others.stands self = none) :
    ({ session with probe := none } : Session).IsKept others handle := by
  have isOther : ∀ {task : TaskId}, (∃ point, others.stands task = some point) → task ≠ self := by
    rintro task ⟨point, stands⟩ rfl
    cases isOver.symm.trans stands
  refine ⟨fun {key watcher task} member => ?_, fun {vigil task} isOpen isWatch => ?_,
    isKept.single, nofun,
    fun {task} isOpen isProbe' => ?_⟩
  · obtain ⟨⟨index, isWatch⟩, isLive⟩ := isKept.watch (member : _ ∈ session.watches)
    have different : task ≠ self := by
      rintro rfl
      exact isWatch.not_probes isProbe
    exact ⟨⟨index, parts.watches different isWatch⟩, parts.isLive isLive⟩
  · exact isKept.listed isOpen (parts.old_watches (isOther ⟨_, isWatch.choose_spec.1⟩) isWatch)
  · have different : task ≠ self := isOther ⟨_, isProbe'.choose_spec.1⟩
    have probe := isKept.sole isOpen (parts.old_probes different isProbe')
    cases probe.symm.trans (isKept.sole isOpen isProbe)
    exact absurd rfl different

/-- A task that goes on for the same, or that is in no account. -/
theorem parts (isKept : session.IsKept roll handle) (parts : roll.Parts self others)
    (same : ∀ vigil, roll.Watches handle vigil self ↔ others.Watches handle vigil self)
    (same' : roll.Probes handle self ↔ others.Probes handle self) :
    session.IsKept others handle := by
  refine isKept.steady rfl rfl rfl (fun task vigil isWatch isLive => ⟨?_, parts.isLive isLive⟩)
    (fun task isProbe isLive => ⟨?_, parts.isLive isLive⟩) (fun task vigil isWatch => ?_)
    fun task isProbe => ?_
  · by_cases here : task = self
    · subst here
      exact (same vigil).mp isWatch
    · exact parts.watches here isWatch
  · by_cases here : task = self
    · subst here
      exact same'.mp isProbe
    · exact parts.probes here isProbe
  · by_cases here : task = self
    · subst here
      exact (same vigil).mpr isWatch
    · exact parts.old_watches here isWatch
  · by_cases here : task = self
    · subst here
      exact same'.mpr isProbe
    · exact parts.old_probes here isProbe

end Session.IsKept

/-! ## What an account says of a turn -/

/-- Those who are in a session's account. -/
def Session.Counts (session : Session) (task : TaskId) : Prop :=
  session.probe = some task ∨ ∃ key watcher, ⟨key, watcher, task⟩ ∈ session.watches

theorem Session.close_cancels {session : Session} {task : TaskId}
    (cancelled : .cancel task ∈ session.close.1.2) : session.Counts task := by
  have named : task ∈ session.probe.toList ++ session.watches.map (·.task) := by
    unfold Session.close at cancelled
    dsimp only at cancelled
    rcases List.mem_append.mp cancelled with member | member
    · obtain ⟨task', isThere, same⟩ := List.mem_map.mp member
      cases same
      exact isThere
    · split at member
      · cases List.mem_singleton.mp member
      · cases member
  rcases List.mem_append.mp named with isProbe | isWatch
  · exact .inl (Option.mem_toList.mp isProbe)
  · obtain ⟨⟨key, watcher, task'⟩, isThere, same⟩ := List.mem_map.mp isWatch
    cases same
    exact .inr ⟨key, watcher, isThere⟩

theorem Session.close_silent (session : Session) : errands session.close.1.2 = [] := by
  have silent : ∀ tasks :
      List TaskId, errands (tasks.map (.cancel · : TaskId → SessionEffect)) = [] := by
    intro tasks
    induction tasks with
    | nil => rfl
    | cons task rest step => exact step
  unfold Session.close
  dsimp only
  rw [errands_append, silent]
  split <;> rfl

namespace Accounts

variable {handle : Handle} {next self : TaskId} {arms : Vigil → Prop} {point : Point}
  {session : Session} {turn : SessionTurn}
  (accounts : Accounts handle next self arms point session turn)

include accounts

theorem sent : errands turn.2.1 = [] ∨
    ∃ point : Point, errands turn.2.1 = [⟨some handle, point⟩] ∧ point.IsSound := by
  cases accounts with
  | goesOn sends => exact sends.sent
  | ends sends => exact sends.sent
  | disarms isWatch sends same effects silent =>
    rw [effects, errands_append, silent, List.append_nil]
    exact sends.sent
  | unprobes isProbe same harmless silent => exact .inl silent
  | closes isStop same effects => exact .inl (effects ▸ session.close_silent)

theorem isSound {stands : Point} (found : turn.2.2.next? = some stands) : stands.IsSound := by
  cases accounts with
  | goesOn sends found' isSound =>
    cases found'.symm.trans found
    exact isSound
  | ends sends isOver => cases isOver.symm.trans found
  | disarms isWatch sends same effects silent noCancel isOver => cases isOver.symm.trans found
  | unprobes isProbe same harmless silent isOver => cases isOver.symm.trans found
  | closes isStop same effects stands =>
    cases stands _ found
    trivial

/-- A task that watches has watched for the same before. -/
theorem vigil? {stands : Point} {vigil : Vigil} (found : turn.2.2.next? = some stands)
    (isWatch : stands.vigil? = some vigil) : point.vigil? = some vigil := by
  cases accounts with
  | goesOn sends found' isSound same =>
    cases found'.symm.trans found
    exact same.symm.trans isWatch
  | ends sends isOver => cases isOver.symm.trans found
  | disarms isWatch sends same effects silent noCancel isOver => cases isOver.symm.trans found
  | unprobes isProbe same harmless silent isOver => cases isOver.symm.trans found
  | closes isStop same effects goes =>
    cases goes _ found
    cases isWatch

/-- A session that is closed stays so. -/
theorem closed (closed : session.isOpen = false) : turn.1.isOpen = false := by
  cases accounts with
  | goesOn sends => exact sends.isOpen.trans closed
  | ends sends => exact sends.isOpen.trans closed
  | disarms isWatch sends same => rw [same, Session.disarm, sends.isOpen, closed]
  | unprobes isProbe same => rw [same, closed]
  | closes isStop same =>
    rw [same]
    rfl

/-- A watch that is sent out is one that may be. -/
theorem armed {place : Handle} {sent : Point} {vigil : Vigil}
    (isSent : errands turn.2.1 = [⟨some place, sent⟩]) (isWatch : sent.vigil? = some vigil) :
    place = handle ∧ arms vigil := by
  have ofSends : ∀ {others : Vigil → Prop} {middle : Session} {effects : List SessionEffect},
      Sends handle next others session middle effects → errands effects = [⟨some place, sent⟩] →
      place = handle ∧ others vigil := by
    intro others middle effects sends isSent
    cases sends with
    | nobody stays => cases stays.silent.symm.trans isSent
    | probe _ _ _ _ _ _ isProbe =>
      cases isProbe.symm.trans isSent
      cases isWatch
    | watch vigil' isRight _ _ _ _ _ _ _ isPoll =>
      cases isPoll.symm.trans isSent
      cases isWatch
      exact ⟨rfl, isRight⟩
  cases accounts with
  | goesOn sends => exact ofSends sends isSent
  | ends sends => exact ofSends sends isSent
  | disarms _ sends same effects silent =>
    rw [effects, errands_append, silent, List.append_nil] at isSent
    exact (ofSends sends isSent).2.elim
  | unprobes _ _ _ silent => cases silent.symm.trans isSent
  | closes _ _ effects =>
    rw [effects, session.close_silent] at isSent
    cases isSent

/-- Only those who are in the account are cancelled, when the session is closed. -/
theorem cancels {task : TaskId} (cancelled : .cancel task ∈ turn.2.1) : session.Counts task := by
  cases accounts with
  | goesOn sends => exact absurd cancelled (sends.harmless.not_cancels task)
  | ends sends => exact absurd cancelled (sends.harmless.not_cancels task)
  | disarms isWatch sends same effects silent noCancel =>
    rw [effects] at cancelled
    rcases List.mem_append.mp cancelled with early | late
    · exact absurd early (sends.harmless.not_cancels task)
    · exact absurd late (noCancel task)
  | unprobes isProbe same harmless => exact absurd cancelled (harmless.not_cancels task)
  | closes isStop same effects =>
    rw [effects] at cancelled
    exact Session.close_cancels cancelled

end Accounts

/-- Those in the account stand there for the session. -/
theorem Session.IsKept.stands {roll : Roll} {handle : Handle} {session : Session} {task : TaskId}
    (isKept : session.IsKept roll handle) (counts : session.Counts task) :
    ∃ point, roll.stands task = some ⟨some handle, point⟩ ∧
      (point.vigil? ≠ none ∨ point.isProbe = true) := by
  rcases counts with isProbe | ⟨key, watcher, isThere⟩
  · obtain ⟨⟨point, stands, isProbe⟩, -⟩ := isKept.probe isProbe
    exact ⟨point, stands, .inr isProbe⟩
  · obtain ⟨⟨index, point, stands, isWatch⟩, -⟩ := isKept.watch isThere
    exact ⟨point, stands, .inl (isWatch ▸ Option.some_ne_none _)⟩

theorem Session.IsKept.closed (roll : Roll) (handle : Handle) (session : Session) :
    session.close.1.1.IsKept roll handle := by
  refine ⟨fun {key watcher task} member => ?_, fun {vigil task} isOpen => ?_,
    fun {key watcher task other} member => ?_, nofun, fun {task} isOpen => ?_⟩
  · cases member
  · cases isOpen
  · cases member
  · cases isOpen

/-! ## Turns -/

/-- In a turn of a task with those effects it goes on there, and `next` comes in if it is sent
out. -/
structure Roll.Turns (task next : TaskId) (effects : List SessionEffect) (goal : Option At)
    (roll others : Roll) : Prop where
  self : others.stands task = goal
  kept {other : TaskId} {point : At} : other ≠ task → roll.stands other = some point →
    others.stands other = some point
  old {other : TaskId} {point : At} : others.stands other = some point →
    other = task ∨ roll.stands other = some point ∨ other = next ∧ errands effects = [point]
  new {point : At} : errands effects = [point] → others.stands next = some point
  isLive {other : TaskId} : ¬ roll.isDoomed other → .cancel other ∉ effects →
    ¬ others.isDoomed other
  isOther : next ≠ task
  unmade : ¬ roll.isDoomed next

/-- Where tasks stand when somebody has been sent out, before the task itself goes on. -/
def Roll.midway (task : TaskId) (roll others : Roll) : Roll :=
  ⟨fun other => if other = task then roll.stands other else others.stands other, others.isDoomed⟩

section

variable {roll others : Roll} {task next : TaskId} {handle : Handle} {point : Point}
  {arms : Vigil → Prop} {session : Session} {turn : SessionTurn}

theorem Roll.midway_self : (roll.midway task others).stands task = roll.stands task := if_pos rfl

theorem Roll.midway_other {other : TaskId} (different : other ≠ task) :
    (roll.midway task others).stands other = others.stands other := if_neg different

theorem Roll.midway_parts : (roll.midway task others).Parts task others :=
  ⟨fun {_ _} different here => (midway_other different).symm.trans here, fun {_} => id,
    fun {_ _} different here => (midway_other different).trans here⟩

theorem Roll.Turns.takes {effects : List SessionEffect} {goal : Option At}
    (turns : roll.Turns task next effects goal others)
    (noCancel : ∀ other, .cancel other ∉ effects) :
    roll.Takes next (errands effects) (roll.midway task others) := by
  refine ⟨fun {other point} here => ?_, fun {other} isLive => turns.isLive isLive (noCancel other),
    fun {other point} here => ?_, fun {point} isSent =>
      ⟨?_, turns.isLive turns.unmade (noCancel _)⟩⟩
  · by_cases same : other = task
    · rw [same] at here ⊢
      rwa [midway_self]
    · rw [midway_other same]
      exact turns.kept same here
  · by_cases same : other = task
    · rw [same, midway_self] at here
      exact .inl (same ▸ here)
    · rw [midway_other same] at here
      exact (turns.old here).resolve_left same
  · rw [midway_other turns.isOther]
    exact turns.new isSent

variable (turns : roll.Turns task next turn.2.1 (turn.2.2.next?.map (At.mk (some handle))) others)
  (stands : roll.stands task = some ⟨some handle, point⟩)
  (accounts : Accounts handle next task arms point session turn)

include turns stands accounts

/-- **What a turn makes of the account of its session.** -/
theorem Session.IsKept.turned (isKept : session.IsKept roll handle) :
    turn.1.IsKept others handle := by
  have parts : (roll.midway task others).Parts task others := Roll.midway_parts
  have here : (roll.midway task others).stands task = some ⟨some handle, point⟩ :=
    Roll.midway_self.trans stands
  have isOver : turn.2.2.next? = none → others.stands task = none := by
    intro isOver
    rw [turns.self, isOver, Option.map_none]
  cases accounts with
  | @goesOn point' sends found isSound vigil isProbe =>
    have goes : others.stands task = some ⟨some handle, point'⟩ := by
      rw [turns.self, found, Option.map_some]
    have taken := isKept.sends sends (turns.takes sends.harmless.not_cancels)
    refine taken.parts parts (fun vigil' => ⟨?_, ?_⟩) ⟨?_, ?_⟩
    · rintro ⟨point'', stands', isWatch⟩
      cases here.symm.trans stands'
      exact ⟨point', goes, vigil.trans isWatch⟩
    · rintro ⟨point'', stands', isWatch⟩
      cases goes.symm.trans stands'
      exact ⟨point, here, vigil.symm.trans isWatch⟩
    · rintro ⟨point'', stands', probes⟩
      cases here.symm.trans stands'
      exact ⟨point', goes, isProbe.trans probes⟩
    · rintro ⟨point'', stands', probes⟩
      cases goes.symm.trans stands'
      exact ⟨point, here, isProbe.symm.trans probes⟩
  | ends sends isOver' noWatch noProbe =>
    have gone := isOver isOver'
    have taken := isKept.sends sends (turns.takes sends.harmless.not_cancels)
    refine taken.parts parts (fun vigil' => ⟨?_, ?_⟩) ⟨?_, ?_⟩
    · rintro ⟨point'', stands', isWatch⟩
      cases here.symm.trans stands'
      cases noWatch.symm.trans isWatch
    · rintro ⟨point'', stands', isWatch⟩
      cases gone.symm.trans stands'
    · rintro ⟨point'', stands', probes⟩
      cases here.symm.trans stands'
      cases noProbe.symm.trans probes
    · rintro ⟨point'', stands', probes⟩
      cases gone.symm.trans stands'
  | disarms isWatch sends same effects silent noCancel isOver' =>
    have noCancel' : ∀ other, .cancel other ∉ turn.2.1 := by
      intro other member
      rw [effects] at member
      rcases List.mem_append.mp member with early | late
      · exact sends.harmless.not_cancels other early
      · exact noCancel other late
    have takes := turns.takes noCancel'
    rw [effects, errands_append, silent, List.append_nil] at takes
    rw [same]
    exact (isKept.sends sends takes).disarm ⟨point, here, isWatch⟩ parts (isOver isOver')
  | unprobes isProbe same harmless silent isOver' =>
    have nobody : Sends handle next arms session session turn.2.1 :=
      .nobody (.idle session harmless silent)
    have taken := isKept.sends nobody (turns.takes harmless.not_cancels)
    rw [same]
    exact taken.unprobe ⟨point, here, isProbe⟩ parts (isOver isOver')
  | closes isStop same effects goes =>
    rw [same]
    exact .closed others handle session

/-- What a turn makes of the account of another session. -/
theorem Session.IsKept.turned_other (isKept : session.IsKept roll handle) {other : Handle}
    (different : other ≠ handle) {session' : Session} (isKept' : session'.IsKept roll other) :
    session'.IsKept others other := by
  have kept : ∀ {task' : TaskId} {point' : Point}, roll.stands task' = some ⟨some other, point'⟩ →
      ¬ roll.isDoomed task' → others.stands task' = some ⟨some other, point'⟩ ∧
        ¬ others.isDoomed task' := by
    intro task' point' stands' isLive
    refine ⟨turns.kept ?_ stands', turns.isLive isLive fun cancelled => ?_⟩
    · rintro rfl
      cases stands.symm.trans stands'
      exact different rfl
    · obtain ⟨point'', stands'', -⟩ := isKept.stands (accounts.cancels cancelled)
      cases stands'.symm.trans stands''
      exact different rfl
  have old : ∀ {task' : TaskId} {point' : Point}, others.stands task' = some ⟨some other, point'⟩ →
      roll.stands task' = some ⟨some other, point'⟩ := by
    intro task' point' stands'
    rcases turns.old stands' with rfl | isOld | ⟨-, isSent⟩
    · rw [turns.self] at stands'
      obtain ⟨next', -, same⟩ := Option.map_eq_some_iff.mp stands'
      cases same
      exact absurd rfl different
    · exact isOld
    · rcases accounts.sent with silent | ⟨sent, isOnly, -⟩
      · cases silent.symm.trans isSent
      · cases isOnly.symm.trans isSent
        exact absurd rfl different
  refine isKept'.steady rfl rfl rfl ?_ ?_ ?_ ?_
  · rintro task' vigil ⟨point', stands', isWatch⟩ isLive
    obtain ⟨stands', isLive⟩ := kept stands' isLive
    exact ⟨⟨point', stands', isWatch⟩, isLive⟩
  · rintro task' ⟨point', stands', isProbe⟩ isLive
    obtain ⟨stands', isLive⟩ := kept stands' isLive
    exact ⟨⟨point', stands', isProbe⟩, isLive⟩
  · rintro task' vigil ⟨point', stands', isWatch⟩
    exact ⟨point', old stands', isWatch⟩
  · rintro task' ⟨point', stands', isProbe⟩
    exact ⟨point', old stands', isProbe⟩

/-- **Accounts are kept in a turn.** -/
theorem Sessions.IsKept.turned {state : Sessions} (isKept : state.IsKept roll)
    (found : state.sessions[handle]? = some session) (store : Store) :
    Sessions.IsKept others { state with store, sessions := state.sessions.set handle turn.1 } := by
  have isThere : handle < state.sessions.length := (List.getElem?_eq_some_iff.mp found).1
  have isKept' := isKept.sessions found
  have there : ∀ {handle' : Handle}, (∀ {task' : TaskId} {point' : Point}, handle' ≠ handle →
      others.stands task' = some ⟨some handle', point'⟩ →
        roll.stands task' = some ⟨some handle', point'⟩) := by
    intro handle' task' point' different stands'
    rcases turns.old stands' with rfl | isOld | ⟨-, isSent⟩
    · rw [turns.self] at stands'
      obtain ⟨next', -, same⟩ := Option.map_eq_some_iff.mp stands'
      cases same
      exact absurd rfl different
    · exact isOld
    · rcases accounts.sent with silent | ⟨sent, isOnly, -⟩
      · cases silent.symm.trans isSent
      · cases isOnly.symm.trans isSent
        exact absurd rfl different
  refine ⟨fun {task' point'} stands' => ?_, fun {handle' vigil task'} isWatch => ?_,
    fun {handle' task'} isProbe => ?_, fun {handle' session'} found' => ?_⟩
  · rcases turns.old stands' with rfl | isOld | ⟨-, isSent⟩
    · rw [turns.self] at stands'
      obtain ⟨next', found', rfl⟩ := Option.map_eq_some_iff.mp stands'
      exact accounts.isSound found'
    · exact isKept.isSound isOld
    · rcases accounts.sent with silent | ⟨sent, isOnly, isSound⟩
      · cases silent.symm.trans isSent
      · cases isOnly.symm.trans isSent
        exact isSound
  · dsimp only
    by_cases here : handle' = handle
    · exact ⟨_, by rw [here, List.getElem?_set_self isThere]⟩
    · rw [List.getElem?_set_ne (Ne.symm here)]
      obtain ⟨point', stands', isWatch⟩ := isWatch
      exact isKept.isThere ⟨point', there here stands', isWatch⟩
  · dsimp only
    by_cases here : handle' = handle
    · exact ⟨_, by rw [here, List.getElem?_set_self isThere]⟩
    · rw [List.getElem?_set_ne (Ne.symm here)]
      obtain ⟨point', stands', isProbe⟩ := isProbe
      exact isKept.isHere ⟨point', there here stands', isProbe⟩
  · dsimp only at found'
    by_cases here : handle' = handle
    · subst here
      rw [List.getElem?_set_self isThere] at found'
      cases found'
      exact isKept'.turned turns stands accounts
    · rw [List.getElem?_set_ne (Ne.symm here)] at found'
      exact isKept'.turned_other turns stands accounts here (isKept.sessions found')

end

end WatchedNode
