/-
**Runs.**

A run is what can happen to a loop from its beginning on, in any order:

* the loop makes a step (`Happens.step`);
* somebody outside does something between two jobs (`Happens.command`); `allowed` says what is done
  outside, so that a statement can be about runs in which some things are not done;
* time passes (`Happens.elapse`), and those whose time has come are woken (`Happens.ring`);
* those who decide what monitors and listeners do change their minds (`Happens.decide`).

`Reaches` is any number of these, and `Recounts` keeps a history of them. When a scenario lets time
pass, it settles, sets the clock and wakes in turn (`Loop.elapse`): these are things that happen one
by one, so a command to do all of them at once is left out (`Command.isMomentary`).
-/
import Mathlib.Logic.Relation
import WatchedNode.Proofs.Loop.Scene

namespace WatchedNode

variable {S : Service}

/-- The command has its effect at one moment. -/
def Command.isMomentary : Command S → Bool
  | .advance _ => false
  | _ => true

namespace Loop

/-- What is done from outside: the commands that are given in a state. -/
abbrev Outside (S : Service) := Loop S → Command S → Prop

/-- Everything is done from outside. -/
def anything : Outside S := fun _ _ => True

/-- A loop at the beginning. -/
def fresh (service : S.State) : Loop S := { service }

/-- A loop after commands from outside. -/
def commanded (commands : List (Command S)) (loop : Loop S) : Loop S :=
  commands.foldl (fun loop command => (loop.command command).1) loop

/-- One thing that happens. -/
inductive Happens (allowed : Outside S) (loop : Loop S) : Loop S → Prop
  | step : Happens allowed loop loop.step
  | command (command : Command S) (isBetween : loop.isBetween) (isMomentary : command.isMomentary)
      (isAllowed : allowed loop command) : Happens allowed loop (loop.command command).1
  | elapse (time : Rat) : Happens allowed loop { loop with clock := time }
  | ring : Happens allowed loop loop.ring
  | decide (scripts : Table Script) (habits : Table Habit) :
      Happens allowed loop { loop with scripts, habits }

/-- What can come of a state. -/
abbrev Reaches (allowed : Outside S) : Loop S → Loop S → Prop :=
  Relation.ReflTransGen (Happens allowed)

variable {allowed : Outside S}

/-- What the beginning has and each thing that happens keeps, every state has. -/
theorem Reaches.keeps {holds : Loop S → Prop} {first last : Loop S}
    (run : Reaches allowed first last) (start : holds first)
    (kept : ∀ before after, Happens allowed before after → holds before → holds after) :
    holds last := by
  induction run with
  | refl => exact start
  | tail _ next step => exact kept _ _ next step

/-! ## Histories -/

/-- A run from the beginning with a history of it, which is blank at first; `notes` says what is
noted of each thing that happens. -/
inductive Recounts (allowed : Outside S) (service : S.State) {kind : Type}
    (notes : Loop S → Loop S → kind → kind → Prop) (blank : kind) : Loop S → kind → Prop
  | start : Recounts allowed service notes blank (fresh service) blank
  | next {before after : Loop S} {history longer : kind}
      (earlier : Recounts allowed service notes blank before history)
      (happens : Happens allowed before after) (noted : notes before after history longer) :
      Recounts allowed service notes blank after longer

section Histories

variable {service : S.State} {kind : Type} {notes : Loop S → Loop S → kind → kind → Prop}
  {blank : kind}

theorem Recounts.run {last : Loop S} {history : kind}
    (recounts : Recounts allowed service notes blank last history) :
    Reaches allowed (fresh service) last := by
  induction recounts with
  | start => exact .refl
  | next _ happens _ run => exact run.tail happens

/-- Every run has a history, where something can be noted of all that happens. -/
theorem Reaches.recounts {last : Loop S} (run : Reaches allowed (fresh service) last)
    (canNote : ∀ before after history, Reaches allowed (fresh service) before →
      Happens allowed before after →
      ∃ longer, notes before after history longer) :
    ∃ history, Recounts allowed service notes blank last history := by
  induction run with
  | refl => exact ⟨blank, .start⟩
  | @tail before after earlier happens step =>
    obtain ⟨history, recounts⟩ := step
    obtain ⟨longer, noted⟩ := canNote before after history earlier happens
    exact ⟨longer, recounts.next happens noted⟩

end Histories

/-! ## Steps in a row -/

theorem settle_reaches (fuel : Nat) (loop : Loop S) : Reaches allowed loop (loop.settle fuel) := by
  induction fuel generalizing loop with
  | zero => exact .refl
  | succ fuel ih =>
    unfold settle
    split
    · exact .refl
    · exact .head .step (ih _)

/-- Commands one after the other, each with the steps that come of it. -/
def enact (fuel : Nat) : List (Command S) → Loop S → Loop S
  | [], loop => loop
  | command :: rest, loop => enact fuel rest ((loop.command command).1.settle fuel)

theorem enact_append (fuel : Nat) (first second : List (Command S)) (loop : Loop S) :
    enact fuel (first ++ second) loop = enact fuel second (enact fuel first loop) := by
  induction first generalizing loop with
  | nil => rfl
  | cons command rest step => exact step _

/-- Each of the commands has its effect at one moment, and comes between two jobs. -/
def canEnact (fuel : Nat) : List (Command S) → Loop S → Bool
  | [], _ => true
  | command :: rest, loop =>
    loop.isBetween && command.isMomentary &&
      canEnact fuel rest ((loop.command command).1.settle fuel)

theorem enact_reaches (fuel : Nat) (commands : List (Command S)) (loop : Loop S)
    (isAllowed : ∀ loop, ∀ command ∈ commands, allowed loop command)
    (can : canEnact fuel commands loop = true) :
    Reaches allowed loop (enact fuel commands loop) := by
  induction commands generalizing loop with
  | nil => exact .refl
  | cons command rest step =>
    rw [canEnact, Bool.and_eq_true, Bool.and_eq_true] at can
    have first : Reaches allowed loop ((loop.command command).1.settle fuel) :=
      .head (.command command can.1.1 can.1.2 (isAllowed loop command List.mem_cons_self))
        (settle_reaches fuel _)
    exact first.trans (step _ (fun loop other member =>
      isAllowed loop other (List.mem_cons_of_mem command member)) can.2)

end Loop

end WatchedNode
