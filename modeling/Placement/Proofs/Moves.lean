import Placement.Proofs.Session

/-!
# How commands move the registry

A command does one of a few things to the registry: it leaves it alone, asks for the roster
of a policy, puts one pod on one roster, or takes one pod off.  A command that fails has
asked for a roster at most, unless it is a whole attempt.  What rosters look like after a
command can be told from these cases, whatever the command is.

## Main definitions

* `Session.Answer.isFailure` — the answer reports a failure.
* `Session.Moved` — what a command may do to the registry.

The main statement is `Session.step_moved`.
-/

namespace Placement

open Placement.Membership

namespace Session

/-- Whether an answer reports a failure: an error, or a phase that did not go through. -/
def Answer.isFailure : Answer → Bool
  | .failed _ => true
  | .status report => !report.isSuccess
  | .scored _ report => !report.isSuccess
  | .normalized _ report => !report.isSuccess
  | .scheduled (.error _) => true
  | _ => false

/-- What a command that answers so may do to the registry. -/
inductive Moved (command : Command) (answer : Answer) (before : Registry) : Registry → Prop
  | untouched : Moved command answer before before
  | asked (policy : Policy) : Moved command answer before (rosterOf before policy).2
  | joined {pod : Pod} {roster joined : Roster} {after : Registry} :
      answer.isFailure = false → join before pod roster = .ok (joined, after) →
      Moved command answer before after
  /-- A pod comes under a policy.  An attempt may fail after that. -/
  | admitted {policy : Policy} {key : String} {joined : Roster} :
      (answer.isFailure = true → ∃ pod nodes, command = .schedule pod nodes) →
      admission before policy key = .ok joined →
      Moved command answer before (Namespaced.insert before policy.ns policy.name joined)
  | left {pod : Pod} {order : Registry.Order} {left : Option (String × Roster)}
      {after : Registry} :
      answer.isFailure = false → leave order before pod = .ok (left, after) →
      Moved command answer before after

theorem Moved.of_eq {command : Command} {answer : Answer} {before after : Registry}
    (same : after = before) : Moved command answer before after :=
  same ▸ .untouched

end Session

namespace Steering

open Session

variable {view : View} {pod : Pod} {cycle next : CycleState} {registry after : Registry}
  {status : Status} {command : Command}

theorem PreFiltered.moved (sound : registry.Sound)
    (h : PreFiltered view pod cycle registry status next after) :
    Moved command (.status status) registry after := by
  cases h with
  | unread => exact .untouched
  | ungoverned => exact .untouched
  | keyless => exact .untouched
  | malformed => exact .asked _
  | chosen => exact .asked _
  | committed _ hu _ given joins =>
    obtain ⟨admitted, rfl⟩ := admission_of_join sound hu given joins
    exact .admitted (fun fails => by cases fails) admitted

theorem PreScored.moved (sound : registry.Sound)
    (h : PreScored view pod cycle registry status next after) :
    Moved command (.status status) registry after := by
  cases h with
  | missing => exact .untouched
  | ungoverned => exact .untouched
  | settled => exact .untouched
  | unread => exact .untouched
  | lapsed => exact .untouched
  | malformed => exact .asked _
  | keyless => exact .asked _
  | committed _ _ hu given joins =>
    obtain ⟨admitted, rfl⟩ := admission_of_join sound hu given joins
    exact .admitted (fun fails => by cases fails) admitted

theorem Attempted.moved {nodes : List Node} {result : Except Status Assignment}
    (h : Attempted view pod nodes registry result after) :
    Moved (.schedule pod nodes) (.scheduled result) registry after := by
  cases h with
  | unread => exact .untouched
  | ungoverned => exact .untouched
  | keyless => exact .untouched
  | malformed => exact .asked _
  | enforced _ _ _ admitted => exact .admitted (fun _ => ⟨pod, nodes, rfl⟩) admitted
  | deserted => exact .asked _
  | ranked _ _ _ _ admitted => exact .admitted (fun _ => ⟨pod, nodes, rfl⟩) admitted

end Steering

namespace Session

variable {s : Session}

/-- **A command does one of these things to the registry, and nothing else.** -/
theorem step_moved (sound : s.registry.Sound) (command : Command) :
    Moved command (s.step command).1 s.registry (s.step command).2.1.registry := by
  cases command with
  | catalog command => exact .untouched
  | outage message => exact .untouched
  | shuffle order => exact .untouched
  | policyFor pod => exact .untouched
  | policy ns name => exact .untouched
  | rosterOf policy save =>
    obtain ⟨next, result, entered⟩ := s.desk.rosterOf_eq policy
    have asked (answer : Answer) :
        Moved (.rosterOf policy save) answer s.registry next.registry :=
      entered ▸ .asked policy
    simp only [step, result]
    split <;> exact asked _
  | join pod saved roster keys =>
    simp only [step]
    split
    next => exact .untouched
    next info _ =>
      obtain ⟨e, _, result⟩ | ⟨joined, next, result, joins⟩ := s.desk.join_cases pod info
      · rw [result]
        exact .untouched
      · simp only [result, answer]
        exact .joined rfl joins
  | leave pod =>
    obtain ⟨e, _, result⟩ | ⟨left, next, result, leaves⟩ := s.desk.leave_cases s.order pod
    · simp only [step, result]
      exact .untouched
    · simp only [step, result, answer]
      exact .left rfl leaves
  | podsMatching selector => exact .untouched
  | pluginName => exact .untouched
  | newCycle cycle => exact .untouched
  | poisonCycle cycle => exact .untouched
  | preFilter cycle pod =>
    exact (Steering.preFilter_spec s.view pod (s.cycle cycle) s.desk).moved sound
  | filter cycle pod node =>
    exact .of_eq (Steering.registry_filter pod node (s.cycle cycle) s.desk)
  | preScore cycle pod =>
    exact (Steering.preScore_spec s.view pod (s.cycle cycle) s.desk).moved sound
  | score cycle pod node =>
    exact .of_eq (Steering.registry_score pod node (s.cycle cycle) s.desk)
  | normalize pod scores =>
    exact .of_eq (Steering.registry_normalize pod scores s.desk)
  | schedule pod nodes =>
    exact (Steering.schedule_spec s.view pod nodes s.desk sound).moved

end Session

end Placement
