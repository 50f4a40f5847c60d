import Placement.Proofs.Moves

/-!
# What a failure leaves

A command can fail on the way, when the roster of a policy has been asked for already, or
when a copy of a roster has been changed.  All the same a failure shows in one way only: an
empty roster may have been entered where there was none.  Whole attempts are different; they
can fail after the pod was put on record.

## Main definitions

* `Registry.Spares` — no entry has changed, and the new ones hold no pod.

The main statement is `Session.step_of_failure`.
-/

namespace Placement

open Placement.Membership

/-! ## Registries -/

namespace Registry

/-- Every entry from before is as it was, and an entry that is new holds no pod. -/
structure Spares (before after : Registry) : Prop where
  kept : ∀ ns name roster, before.get? ns name = some roster → after.get? ns name = some roster
  fresh : ∀ ns name roster, before.get? ns name = none → after.get? ns name = some roster →
    roster.qualified = ∅ ∧ roster.managed = ∅

theorem Spares.refl (registry : Registry) : registry.Spares registry where
  kept _ _ _ there := there
  fresh ns name roster missing there := by
    rw [missing] at there
    cases there

/-- Asking for a roster enters an empty one at most. -/
theorem Spares.rosterOf (registry : Registry) (policy : Policy) :
    registry.Spares (rosterOf registry policy).2 where
  kept ns name roster there := by
    rw [rosterOf_eq, Namespaced.get?_insert]
    split
    next same =>
      obtain ⟨rfl, rfl⟩ := same
      rw [stored, onRecord, there, Option.getD_some]
    next => exact there
  fresh ns name roster missing there := by
    rw [rosterOf_eq, Namespaced.get?_insert] at there
    split at there
    next same =>
      obtain ⟨rfl, rfl⟩ := same
      rw [stored, onRecord, missing, Option.getD_none] at there
      obtain rfl := Option.some.inj there
      exact ⟨rfl, rfl⟩
    next =>
      rw [missing] at there
      cases there

end Registry

/-! ## Phases -/

namespace Steering

variable {view : View} {pod : Pod} {cycle next : CycleState} {registry after : Registry}
  {status : Status}

/-- An attempt whose pod could not be looked at remembers what it did before. -/
theorem PreFiltered.cycle_eq (h : PreFiltered view pod cycle registry status next after)
    (fails : status.isSuccess = false) : next = cycle := by
  cases h with
  | unread => rfl
  | ungoverned => cases fails
  | keyless => rfl
  | malformed => rfl
  | chosen => cases fails
  | committed => cases fails

/-- An attempt whose possible nodes could not be looked at remembers what it did before. -/
theorem PreScored.cycle_eq (h : PreScored view pod cycle registry status next after)
    (fails : status.isSuccess = false) : next = cycle := by
  cases h with
  | missing => rfl
  | ungoverned => cases fails
  | settled => cases fails
  | unread => rfl
  | lapsed => cases fails
  | malformed => rfl
  | keyless => rfl
  | committed => cases fails

end Steering

/-! ## Sessions -/

namespace Session

variable {s : Session}

/-- An attempt that is kept as it was is no other. -/
theorem cycle_setCycle_self (s : Session) (name other : String) :
    (s.setCycle name (s.cycle name)).cycle other = s.cycle other := by
  simp only [cycle, setCycle, Std.ExtTreeMap.getElem?_insert, Std.LawfulEqCmp.compare_eq_iff_eq]
  split
  next same => rw [same, Option.getD_some]
  next => rfl

/-- A command that fails has asked for a roster at most, unless it is a whole attempt. -/
theorem Moved.spares {command : Command} {answer : Answer} {before after : Registry}
    (moved : Moved command answer before after) (fails : answer.isFailure = true)
    (single : ∀ pod nodes, command ≠ .schedule pod nodes) : before.Spares after := by
  cases moved with
  | untouched => exact .refl before
  | asked policy => exact .rosterOf before policy
  | joined succeeds => exact absurd (fails.symm.trans succeeds) (by decide)
  | admitted whole =>
    obtain ⟨pod, nodes, attempt⟩ := whole fails
    exact absurd attempt (single pod nodes)
  | left succeeds => exact absurd (fails.symm.trans succeeds) (by decide)

/-- A command that fails leaves the catalog alone. -/
theorem view_of_failure (command : Command) (fails : (s.step command).1.isFailure = true) :
    (s.step command).2.1.view = s.view := by
  cases command with
  | catalog command => cases fails
  | outage message => cases fails
  | shuffle order => cases fails
  | rosterOf policy save =>
    simp only [step]
    split <;> rfl
  | join pod saved roster keys =>
    simp only [step]
    split <;> rfl
  | _ => rfl

/-- A command that fails leaves what attempts remember alone. -/
theorem cycle_of_failure (command : Command) (fails : (s.step command).1.isFailure = true)
    (name : String) : (s.step command).2.1.cycle name = s.cycle name := by
  cases command with
  | newCycle cycle => cases fails
  | poisonCycle cycle => cases fails
  | preFilter cycle pod =>
    have same := (Steering.preFilter_spec s.view pod (s.cycle cycle) s.desk).cycle_eq <| by
      simpa [step, Answer.isFailure] using fails
    simp only [step, same]
    exact cycle_setCycle_self s cycle name
  | preScore cycle pod =>
    have same := (Steering.preScore_spec s.view pod (s.cycle cycle) s.desk).cycle_eq <| by
      simpa [step, Answer.isFailure] using fails
    simp only [step, same]
    exact cycle_setCycle_self s cycle name
  | rosterOf policy save =>
    simp only [step]
    split <;> rfl
  | join pod saved roster keys =>
    simp only [step]
    split <;> rfl
  | _ => rfl

/-- **A command that fails changes no membership.**  Unless it is a whole attempt, it leaves
every entry of the registry as it was, and one that it has entered is empty; the catalog and
what attempts remember are as they were. -/
theorem step_of_failure (h : s.Reachable) (command : Command)
    (single : ∀ pod nodes, command ≠ .schedule pod nodes)
    (fails : (s.step command).1.isFailure = true) :
    s.registry.Spares (s.step command).2.1.registry ∧
      (s.step command).2.1.view = s.view ∧
      ∀ name, (s.step command).2.1.cycle name = s.cycle name :=
  ⟨(step_moved h.sound command).spares fails single, view_of_failure command fails,
    cycle_of_failure command fails⟩

end Session

namespace Shop

/-- The policy whose target is no percentage is the only one. -/
def doubtful : Session :=
  Session.run {} [.catalog (.addPolicy vague)]

/-- A web pod is looked at under it, which fails after its roster was entered. -/
def look : Session.Command :=
  .preFilter "first" (pod "u" "web")

/-- The roster that was entered holds no pod, and nothing else has changed. -/
theorem step_doubtful :
    (doubtful.step look).1.isFailure = true ∧
      ((doubtful.step look).2.1.registry.get? "shop" "vague").isSome = true ∧
      doubtful.registry.Spares (doubtful.step look).2.1.registry ∧
      (doubtful.step look).2.1.view = doubtful.view ∧
      ∀ name, (doubtful.step look).2.1.cycle name = doubtful.cycle name := by
  have fails : (doubtful.step look).1.isFailure = true := by decide +kernel
  have reached : doubtful.Reachable := Session.Reachable.start.run _
  exact ⟨fails, by decide +kernel,
    Session.step_of_failure reached look (fun pod nodes => Session.Command.noConfusion) fails⟩

end Shop

end Placement
