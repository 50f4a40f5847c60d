import Mathlib.Data.List.Induction
import Placement.Proofs.Session

/-!
# Rosters without pods

A roster is entered when it is first asked for, and dropped when its last pod leaves.  An
attempt asks for the roster of a policy before the pod can be put on it.  If the policy had
none, and the attempt comes to an end in between, a roster stays behind that holds no pod.
This is the only way in which it can happen: as long as no attempt ends so, every roster that
is kept holds a pod.

## Main definitions

* `Registry.Busy` — every roster that is kept holds a pod.
* `Steering.Abandons` — an attempt leaves a roster behind that holds none.
* `Session.Command.Complete` — commands that leave nothing half done.

What one attempt does is said by `Steering.Attempted.busy_iff`, what a command does by
`Session.step_busy_iff`.  The main statement is `Session.always_busy_iff` on runs.
-/

namespace Placement

open Placement.Membership

/-! ## Registries -/

namespace Registry

variable {registry after : Registry} {ns name key : String} {roster : Roster} {policy : Policy}

/-- Every roster that is kept holds a pod. -/
def Busy (registry : Registry) : Prop :=
  ∀ ns name roster, registry.get? ns name = some roster → ∃ key, key ∈ roster.qualified

theorem Busy.empty : Busy (∅ : Registry) := by
  intro ns name roster there
  simp at there

theorem Busy.insert (busy : registry.Busy) (holds : key ∈ roster.qualified) :
    Busy (Namespaced.insert registry ns name roster) := by
  intro ns' name' found there
  rw [Namespaced.get?_insert] at there
  split at there
  next =>
    obtain rfl := Option.some.inj there
    exact ⟨key, holds⟩
  next => exact busy ns' name' found there

theorem Busy.erase (busy : registry.Busy) (ns name : String) :
    Busy (Namespaced.erase registry ns name) := by
  intro ns' name' found there
  rw [Namespaced.get?_erase] at there
  split at there
  next => cases there
  next => exact busy ns' name' found there

/-- Asking for a roster leaves every roster with a pod exactly if it was entered before. -/
theorem Busy.rosterOf_iff (busy : registry.Busy) :
    Busy (rosterOf registry policy).2 ↔ registry.get? policy.ns policy.name ≠ none := by
  constructor
  · intro still missing
    obtain ⟨key, holds⟩ := still _ _ _ (get?_stored registry policy)
    rw [stored, onRecord, missing] at holds
    exact Std.ExtTreeSet.not_mem_empty holds
  · intro entered
    obtain ⟨roster, there⟩ := Option.ne_none_iff_exists'.mp entered
    rw [rosterOf_eq, stored, onRecord, there, Option.getD_some, Namespaced.insert_of_get? there]
    exact busy

/-- A pod that comes under a policy is on its roster. -/
theorem Busy.admission {joined : Roster} (busy : registry.Busy)
    (h : admission registry policy key = .ok joined) :
    Busy (Namespaced.insert registry policy.ns policy.name joined) := by
  obtain ⟨_, _, members⟩ := admission_frame h
  exact busy.insert ((members key).mpr (.inl rfl))

/-- The roster that a pod leaves is only kept while others are on it. -/
theorem Busy.leave {pod : Pod} {order : Registry.Order} {left : Option (String × Roster)}
    (busy : registry.Busy) (h : leave order registry pod = .ok (left, after)) : after.Busy := by
  obtain ⟨_, ⟨_, _, rfl⟩ | ⟨name, roster, rest, _, _, _, _, rfl⟩⟩ := leave_eq_ok h
  · exact busy
  split
  next => exact busy.erase pod.ns name
  next others =>
    obtain ⟨key, holds⟩ : ∃ key, key ∈ rest.qualified := by
      by_contra nobody
      refine others (Roster.isEmpty_iff.mpr (Std.ExtTreeSet.ext_mem fun key => ?_))
      simpa using fun holds => nobody ⟨key, holds⟩
    exact busy.insert holds

end Registry

/-! ## Attempts -/

namespace Steering

/-- An attempt asks for the roster of a policy that has none, and ends before the pod is on
it: because the target of the policy is malformed, or because the policy only ranks nodes and
there are none. -/
def Abandons (view : View) (registry : Registry) (pod : Pod) (nodes : List Node) : Prop :=
  match view.policyFor pod with
  | .ok (some policy) =>
    pod.uid ≠ "" ∧ registry.get? policy.ns policy.name = none ∧
      (¬policy.target.WellFormed ∨ policy.mode = .bestEffort ∧ nodes = [])
  | _ => False

instance (view : View) (registry : Registry) (pod : Pod) (nodes : List Node) :
    Decidable (Abandons view registry pod nodes) :=
  match h : view.policyFor pod with
  | .ok (some policy) =>
    decidable_of_iff (pod.uid ≠ "" ∧ registry.get? policy.ns policy.name = none ∧
      (¬policy.target.WellFormed ∨ policy.mode = .bestEffort ∧ nodes = [])) (by simp [Abandons, h])
  | .ok none => .isFalse (by simp [Abandons, h])
  | .error e => .isFalse (by simp [Abandons, h])

/-- **An attempt leaves every roster with a pod exactly if it abandons none.** -/
theorem Attempted.busy_iff {view : View} {pod : Pod} {nodes : List Node}
    {registry after : Registry} {result : Except Status Assignment} (busy : registry.Busy)
    (h : Attempted view pod nodes registry result after) :
    after.Busy ↔ ¬Abandons view registry pod nodes := by
  cases h with
  | unread found => simp [Abandons, found, busy]
  | ungoverned found => simp [Abandons, found, busy]
  | keyless found hu => simp [Abandons, found, hu, busy]
  | malformed found hu fails =>
    have malformed := not_wellFormed_of_rosterOf fails
    simp [Abandons, found, hu, malformed, busy.rosterOf_iff]
  | enforced found hu mode admitted =>
    have wf := wellFormed_of_admission admitted
    simp [Abandons, found, wf, mode, busy.admission admitted]
  | deserted found hu mode given empty =>
    simp [Abandons, found, hu, mode, empty, busy.rosterOf_iff]
  | ranked found hu mode some_node admitted =>
    have wf := wellFormed_of_admission admitted
    simp [Abandons, found, wf, some_node, busy.admission admitted]

end Steering

/-! ## Sessions -/

namespace Session

variable {s : Session} {commands : List Command}

/-- The commands that leave nothing half done: whole attempts, taking pods off, and what
happens to the catalog and to the order of the rosters. -/
inductive Command.Complete : Command → Prop
  | catalog (command : Catalog.Command) : Complete (.catalog command)
  | outage (message : Option String) : Complete (.outage message)
  | shuffle (order : Registry.Order) : Complete (.shuffle order)
  | leave (pod : Pod) : Complete (.leave pod)
  | schedule (pod : Pod) (nodes : List Node) : Complete (.schedule pod nodes)

/-- **A command that leaves nothing half done leaves every roster with a pod, unless it is an
attempt that abandons one.** -/
theorem step_busy_iff (sound : s.registry.Sound) (busy : s.registry.Busy) {command : Command}
    (complete : command.Complete) :
    (s.step command).2.1.registry.Busy ↔
      ∀ pod nodes, command = .schedule pod nodes →
        ¬Steering.Abandons s.view s.registry pod nodes := by
  cases complete with
  | catalog command => exact iff_of_true busy (by simp)
  | outage message => exact iff_of_true busy (by simp)
  | shuffle order => exact iff_of_true busy (by simp)
  | leave pod =>
    refine iff_of_true ?_ (by simp)
    obtain ⟨e, _, result⟩ | ⟨left, next, result, leaves⟩ := s.desk.leave_cases s.order pod
    · simp only [step, result]
      exact busy
    · simp only [step, result]
      exact Registry.Busy.leave busy leaves
  | schedule pod nodes =>
    have attempted := Steering.schedule_spec s.view pod nodes s.desk sound
    refine (attempted.busy_iff busy).trans ⟨?_, fun kept => kept pod nodes rfl⟩
    rintro kept _ _ ⟨rfl, rfl⟩
    exact kept

/-- **Every roster that is kept holds a pod throughout a run exactly when no attempt of the
run abandons one**, as long as attempts are made as a whole. -/
theorem always_busy_iff (commands : List Command)
    (complete : ∀ command ∈ commands, command.Complete) :
    (∀ earlier, earlier <+: commands → (run {} earlier).registry.Busy) ↔
      ∀ earlier pod nodes later, commands = earlier ++ .schedule pod nodes :: later →
        ¬Steering.Abandons (run {} earlier).view (run {} earlier).registry pod nodes := by
  constructor
  · intro busy earlier pod nodes later split
    have before := busy earlier ⟨_, split.symm⟩
    have after := busy (earlier ++ [.schedule pod nodes]) ⟨later, by simp [split]⟩
    rw [run_snoc] at after
    exact (step_busy_iff (Reachable.start.run earlier).sound before (.schedule pod nodes)).mp
      after pod nodes rfl
  · intro kept
    induction commands using List.reverseRecOn with
    | nil =>
      intro earlier nothing
      rw [List.prefix_nil.mp nothing]
      exact .empty
    | append_singleton commands command ih =>
      obtain ⟨others, last⟩ := List.forall_mem_append.mp complete
      have before := ih others fun earlier pod nodes later split =>
        kept earlier pod nodes (later ++ [command]) (by simp [split])
      intro earlier first
      rcases List.prefix_concat_iff.mp first with rfl | first
      · rw [run_snoc]
        refine (step_busy_iff (Reachable.start.run commands).sound
          (before commands (List.prefix_refl commands)) (last command (by simp))).mpr ?_
        rintro pod nodes rfl
        exact kept commands pod nodes [] rfl
      · exact before earlier first

end Session

namespace Shop

/-- A batch pod comes, and another one does while there is no node. -/
def lull : List Session.Command :=
  opening ++ [.schedule (pod "u" "batch") [edge], .schedule (pod "v" "batch") []]

/-- The second batch pod finds the roster that the first one is on. -/
theorem busy_lull :
    ((Session.run {} lull).registry.get? "shop" "batch").isSome = true ∧
      (Session.run {} lull).registry.Busy := by
  have complete : ∀ command ∈ lull, command.Complete := by
    simp only [lull, opening, List.cons_append, List.nil_append, List.forall_mem_cons]
    exact ⟨.catalog _, .catalog _, .schedule _ _, .schedule _ _, by simp⟩
  refine ⟨by decide +kernel, (Session.always_busy_iff lull complete).mpr ?_ lull
    (List.prefix_refl lull)⟩
  intro earlier pod nodes later split
  -- Only the third and the fourth command are attempts.
  rcases earlier with _ | ⟨_, _ | ⟨_, _ | ⟨_, _ | ⟨_, more⟩⟩⟩⟩ <;>
    simp [lull, opening] at split
  · obtain ⟨rfl, rfl, ⟨rfl, rfl⟩, _⟩ := split
    decide +kernel
  · obtain ⟨rfl, rfl, rfl, ⟨rfl, rfl⟩, _⟩ := split
    decide +kernel

/-- An attempt under a policy whose target is no percentage leaves a roster behind that holds
no pod. -/
theorem not_busy_vague :
    ¬∀ commands : List Session.Command, (∀ command ∈ commands, command.Complete) →
      (Session.run {} commands).registry.Busy := by
  intro busy
  have idle := busy [.catalog (.addPolicy vague), .schedule (pod "u" "web") [edge]] <|
    List.forall_mem_cons.mpr ⟨.catalog _, List.forall_mem_singleton.mpr (.schedule _ _)⟩
  obtain ⟨key, holds⟩ := idle "shop" "vague" (Roster.new "shop" "vague" .must (.text "half"))
    (by decide +kernel)
  exact Std.ExtTreeSet.not_mem_empty holds

end Shop

end Placement
