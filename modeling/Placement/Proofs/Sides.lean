import Placement.Proofs.Account
import Placement.Proofs.Moves

/-!
# A pod keeps its side

Whether a policy claims a pod for its nodes is settled when the pod joins.  Nothing that
happens to the roster afterwards changes it: other pods come and go, the pod is tried again,
the policy gets another action or target, or goes and comes back.  Only when the pod has left
can it be claimed anew.

## Main definitions

* `Roster.KeepsSides`, `Registry.KeepsSides` — pods that are on record before and after are
  claimed after exactly if they were before.

What one command keeps is said by `Session.step_keepsSides`, what a run keeps by the main
statement, `Session.claims_run`.
-/

namespace Placement

open Placement.Membership

/-! ## Rosters -/

namespace Roster

variable {r s : Roster} {key : String}

/-- The pods that are on both rosters are claimed on both or on neither. -/
def KeepsSides (r s : Roster) : Prop :=
  ∀ k ∈ r.qualified, k ∈ s.qualified → s.manages k = r.manages k

theorem KeepsSides.refl (r : Roster) : r.KeepsSides r :=
  fun _ _ _ => rfl

/-- Another action and target change nobody's side. -/
theorem KeepsSides.of_respecified {action : Action} {target : TargetSize} {wanted : Int}
    (h : (r.respecified action target wanted).KeepsSides s) : r.KeepsSides s :=
  h

/-- A pod that joins changes nobody else's side, and none at all if it was there before. -/
theorem KeepsSides.enlist (h : r.enlist key = .ok s) : r.KeepsSides s := by
  obtain ⟨_, rfl⟩ | ⟨absent, wanted, _, rfl⟩ := enlist_eq_ok h
  · exact .refl _
  intro k there _
  have other : key ≠ k := by
    rintro rfl
    exact absent there
  simp only [accept, manages]
  split
  next => rfl
  next => simp [Std.ExtTreeSet.mem_insert, other]

/-- A pod that leaves changes nobody else's side. -/
theorem KeepsSides.discharge (h : r.discharge key = .ok s) : r.KeepsSides s := by
  obtain ⟨_, rfl⟩ | ⟨_, wanted, _, rfl⟩ := discharge_eq_ok h
  · exact .refl _
  intro k _ stays
  have other : key ≠ k := by simpa using (Std.ExtTreeSet.mem_erase.mp stays).1
  simp [release, manages, Std.ExtTreeSet.mem_erase, other]

end Roster

/-! ## Registries -/

namespace Registry

variable {before after : Registry} {pod : Pod}

/-- The pods that are on record before and after are claimed by the policy before and after,
or neither. -/
def KeepsSides (before after : Registry) : Prop :=
  ∀ ns name key, (ns, name, key) ∈ before.memberships → (ns, name, key) ∈ after.memberships →
    after.claims ns name key = before.claims ns name key

/-- A roster that keeps the sides of the one on record can take its place. -/
theorem KeepsSides.insert {ns name : String} {action : Action} {target : TargetSize}
    {roster : Roster} (h : (onRecord before ns name action target).KeepsSides roster) :
    before.KeepsSides (Namespaced.insert before ns name roster) := by
  intro ns' name' key there stays
  rw [mem_memberships_insert] at stays
  rw [claims_insert]
  split at stays
  next same =>
    obtain ⟨rfl, rfl⟩ := same
    rw [if_pos ⟨rfl, rfl⟩, h key (mem_onRecord.mpr there) stays, manages_onRecord]
  next other => rw [if_neg other]

theorem KeepsSides.erase (before : Registry) (ns name : String) :
    before.KeepsSides (Namespaced.erase before ns name) := by
  intro ns' name' key _ stays
  exact claims_erase_of_ne (mem_memberships_erase.mp stays).1

theorem KeepsSides.rosterOf (before : Registry) (policy : Policy) :
    before.KeepsSides (rosterOf before policy).2 := by
  have sides : (stored before policy).KeepsSides (stored before policy) := .refl _
  rw [rosterOf_eq]
  exact .insert sides

theorem KeepsSides.join {roster joined : Roster}
    (h : join before pod roster = .ok (joined, after)) : before.KeepsSides after := by
  obtain ⟨_, base, respecifies, joins, rfl⟩ := join_eq_ok h
  obtain ⟨wanted, _, rfl⟩ := Roster.respecify_eq_ok respecifies
  have sides : (toJoin before roster).KeepsSides joined := .of_respecified (.enlist joins)
  exact .insert sides

theorem KeepsSides.admission {policy : Policy} {key : String} {joined : Roster}
    (h : admission before policy key = .ok joined) :
    before.KeepsSides (Namespaced.insert before policy.ns policy.name joined) := by
  obtain ⟨wanted, _, joins⟩ := admission_eq_ok h
  have sides : (stored before policy).KeepsSides joined := .of_respecified (.enlist joins)
  exact .insert sides

theorem KeepsSides.leave {order : Registry.Order} {left : Option (String × Roster)}
    (h : leave order before pod = .ok (left, after)) : before.KeepsSides after := by
  obtain ⟨_, ⟨_, _, rfl⟩ | ⟨name, roster, rest, there, _, leaves, _, rfl⟩⟩ := leave_eq_ok h
  · exact fun _ _ _ _ _ => rfl
  split
  next => exact .erase before pod.ns name
  next =>
    have found : onRecord before pod.ns name roster.action roster.target = roster := by
      rw [onRecord, there, Option.getD_some]
    exact .insert (found ▸ Roster.KeepsSides.discharge leaves)

end Registry

/-! ## Sessions -/

namespace Session

variable {s : Session} {ns name key : String}

/-- **No command changes the side of a pod that is on record before and after it.** -/
theorem step_keepsSides (sound : s.registry.Sound) (command : Command) :
    s.registry.KeepsSides (s.step command).2.1.registry := by
  have moved := step_moved sound command
  generalize (s.step command).2.1.registry = after at moved ⊢
  cases moved with
  | untouched => exact fun _ _ _ _ _ => rfl
  | asked policy => exact .rosterOf s.registry policy
  | joined _ joins => exact .join joins
  | admitted _ admits => exact .admission admits
  | left _ leaves => exact .leave leaves

/-- A pod stays on record over a command, unless the command takes it off. -/
theorem mem_memberships_of_kept (sound : s.registry.Sound) {command : Command}
    (there : (ns, name, key) ∈ s.registry.memberships)
    (kept : ∀ pod, command = .leave pod →
      (ns, name, key) ∈ (s.step command).2.1.registry.memberships) :
    (ns, name, key) ∈ (s.step command).2.1.registry.memberships := by
  by_cases leaves : command.TakesOff ns key
  · obtain ⟨pod, rfl, _⟩ := leaves
    exact kept pod rfl
  · exact mem_memberships_step sound there leaves

/-- **A pod keeps its side.**  From any moment at which a pod is on record under a policy, it
stays so, and is claimed exactly if it was claimed at that moment, for as long as no command
that takes pods off takes off this one. -/
theorem claims_run (h : Reachable s) (there : (ns, name, key) ∈ s.registry.memberships)
    (commands : List Command)
    (kept : ∀ earlier pod later, commands = earlier ++ .leave pod :: later →
      (ns, name, key) ∈ (s.run (earlier ++ [.leave pod])).registry.memberships) :
    (ns, name, key) ∈ (s.run commands).registry.memberships ∧
      (s.run commands).registry.claims ns name key = s.registry.claims ns name key := by
  induction commands generalizing s with
  | nil => exact ⟨there, rfl⟩
  | cons command rest ih =>
    have stays : (ns, name, key) ∈ (s.step command).2.1.registry.memberships := by
      refine mem_memberships_of_kept h.sound there fun pod leaves => ?_
      subst leaves
      exact kept [] pod rest rfl
    obtain ⟨final, same⟩ := ih (h.step command) stays fun earlier pod later split =>
      kept (command :: earlier) pod later (by rw [split]; rfl)
    exact ⟨final, same.trans (step_keepsSides h.sound command ns name key there stays)⟩

end Session

/-! ## A pod that is not claimed -/

namespace Shop

/-- Two web pods come to the shop, of which one is wanted. -/
def crowd : List Session.Command :=
  opening ++ [.schedule (pod "u" "web") [edge, core], .schedule (pod "v" "web") [edge, core]]

/-- Then five are wanted, the first pod leaves, and the second one is tried again. -/
def sequel : List Session.Command :=
  [.catalog (.upsertPolicy { web with target := .count 5 }), .leave (pod "u" "web"),
    .schedule (pod "v" "web") [edge, core]]

/-- The second web pod is not claimed, and remains so when more are wanted than there are. -/
theorem claims_sequel :
    ((Session.run {} crowd).run sequel).registry.claims "shop" "web" "v" = false := by
  have there : ("shop", "web", "v") ∈ (Session.run {} crowd).registry.memberships := by
    decide +kernel
  have unclaimed : (Session.run {} crowd).registry.claims "shop" "web" "v" = false := by
    decide +kernel
  -- The one pod that is taken off in between is the other.
  have kept (earlier : List Session.Command) (gone : Pod) (later : List Session.Command)
      (split : sequel = earlier ++ .leave gone :: later) : ("shop", "web", "v") ∈
        ((Session.run {} crowd).run (earlier ++ [.leave gone])).registry.memberships := by
    rw [sequel] at split
    rcases earlier with _ | ⟨first, _ | ⟨second, _ | ⟨third, more⟩⟩⟩
    · simp at split
    · simp only [List.cons_append, List.nil_append, List.cons.injEq, Session.Command.leave.injEq]
        at split
      obtain ⟨rfl, rfl, _⟩ := split
      decide +kernel
    · simp at split
    · simp at split
  have sides := Session.claims_run (Session.Reachable.start.run crowd) there sequel kept
  exact sides.2.trans unclaimed

end Shop

end Placement
