import Placement.Proofs.Conclusion

/-!
# Namespaces are kept apart

What is decided about a pod depends on the policies and the rosters of its namespace only,
and nothing is changed in any other namespace.  Policies are looked for in the namespace of
the pod, while rosters are written under the namespace that a policy or a roster carries; that
these are the same is what keeps namespaces apart.

## Main definitions

* `Session.AgreesOn` — two sessions hold the same policies and rosters in a namespace.
* `Session.Confines` — nothing changes outside a namespace.
* `Session.FindsAlike` — a pod is looked for with the same result in two sessions.
* `Session.Command.Decides` — the commands that find, place or take off a pod.

The main statement is `Session.namespace_isolated`.
-/

namespace Placement

open Placement.Membership

/-! ## Registries -/

namespace Membership

variable {r q : Registry} {order other : Registry.Order} {ns : String} {policy : Policy}
  {pod : Pod}

theorem get?_of_group {α : Type} {c d : Namespaced α} (same : c.group ns = d.group ns)
    (name : String) : c.get? ns name = d.get? ns name := by
  rw [Namespaced.get?, Namespaced.get?, same]

/-- The roster of a policy depends on what is on record in the policy's namespace only. -/
theorem stored_of_group (same : r.group policy.ns = q.group policy.ns) :
    stored r policy = stored q policy := by
  rw [stored, stored, onRecord, onRecord, get?_of_group same]

theorem admission_of_group (same : r.group policy.ns = q.group policy.ns) (key : String) :
    admission r policy key = admission q policy key := by
  rw [admission, admission, stored_of_group same]

theorem mem_memberships_of_group (same : r.group ns = q.group ns) {name key : String} :
    (ns, name, key) ∈ r.memberships ↔ (ns, name, key) ∈ q.memberships := by
  rw [Registry.mem_memberships, Registry.mem_memberships, get?_of_group same]

/-- The same roster of a namespace is found to hold a pod, where the rosters are gone through in
the same order. -/
theorem rosterWith?_of_entries (same : order.entries r ns = other.entries q ns) (key : String) :
    rosterWith? order r ns key = rosterWith? other q ns key := by
  rw [rosterWith?, rosterWith?, same]

/-- The same roster of a namespace is found to hold a pod, whatever the orders, where the pod is on
one at most. -/
theorem rosterWith?_of_group (same : r.group ns = q.group ns) {key : String}
    (only : ∀ name name', (ns, name, key) ∈ r.memberships → (ns, name', key) ∈ r.memberships →
      name = name') :
    rosterWith? order r ns key = rosterWith? other q ns key := by
  cases holds : rosterWith? other q ns key with
  | none =>
    refine rosterWith?_eq_none.mpr fun name there => ?_
    exact rosterWith?_eq_none.mp holds name ((mem_memberships_of_group same).mp there)
  | some name =>
    have there := (mem_memberships_of_group same).mpr (rosterWith?_eq_some holds)
    exact rosterWith?_eq_of_only there fun name' there' => only name' name there' there

/-- Whether a pod can leave, and what it leaves, depends on what is on record in its namespace and
on the roster that is found, and so does what is on record there afterwards. -/
theorem leave_of_group (same : r.group pod.ns = q.group pod.ns)
    (found : rosterWith? order r pod.ns pod.uid = rosterWith? other q pod.ns pod.uid) :
    (leave order r pod).map (fun left => (left.1, left.2.group pod.ns)) =
      (leave other q pod).map (fun left => (left.1, left.2.group pod.ns)) := by
  by_cases hu : pod.uid = ""
  · rw [leave_of_no_uid hu, leave_of_no_uid hu]
  cases holds : rosterWith? other q pod.ns pod.uid with
  | none =>
    simp only [leave_of_none hu holds, leave_of_none hu (found.trans holds), Except.map, same]
  | some name =>
    obtain ⟨roster, there, _⟩ := rosterWith?_eq_some holds
    have there' : r.get? pod.ns name = some roster := (get?_of_group same name).trans there
    rw [leave_of_some hu (found.trans holds) there', leave_of_some hu holds there]
    cases roster.discharge pod.uid with
    | error e => rfl
    | ok rest =>
      simp only [Except.map]
      split <;> simp only [Namespaced.group_erase, Namespaced.group_insert, if_pos, same]

/-- Nothing that is put under a namespace is seen in another one. -/
theorem group_rosterOf_of_ne (other : policy.ns ≠ ns) :
    Namespaced.group (rosterOf r policy).2 ns = r.group ns := by
  rw [rosterOf_eq, Namespaced.group_insert, if_neg other]

/-- A pod that leaves is not missed in any other namespace than its own. -/
theorem group_leave_of_ne {left : Option (String × Roster)} {after : Registry}
    (h : leave order r pod = .ok (left, after)) (other : pod.ns ≠ ns) :
    after.group ns = r.group ns := by
  obtain ⟨_, ⟨_, _, rfl⟩ | ⟨name, roster, rest, _, _, _, _, rfl⟩⟩ := leave_eq_ok h
  · rfl
  · split
    · rw [Namespaced.group_erase, if_neg other]
    · rw [Namespaced.group_insert, if_neg other]

end Membership

/-! ## Attempts -/

namespace Steering

variable {r q : Registry} {ns : String} {pod : Pod}
  {governs : Except PlacementError (Option Policy)}

/-- **What an attempt concludes depends on the namespace of the policy only**, and so does
what is on record there afterwards. -/
theorem conclusion_of_group (here : ∀ policy, governs = .ok (some policy) → policy.ns = ns)
    (same : r.group ns = q.group ns) (pod : Pod) (nodes : List Node) :
    (conclusion governs pod nodes r).1 = (conclusion governs pod nodes q).1 ∧
      (conclusion governs pod nodes r).2.group ns =
        (conclusion governs pod nodes q).2.group ns := by
  cases governs with
  | error e => exact ⟨rfl, same⟩
  | ok policy? =>
    cases policy? with
    | none => exact ⟨rfl, same⟩
    | some policy =>
      obtain rfl := here policy rfl
      simp only [conclusion]
      by_cases hu : pod.uid = ""
      · simp only [if_pos hu]
        exact ⟨trivial, same⟩
      · have asked : Namespaced.group (rosterOf r policy).2 policy.ns =
            Namespaced.group (rosterOf q policy).2 policy.ns := by
          simp only [rosterOf_eq, Namespaced.group_insert, if_pos, stored_of_group same, same]
        simp only [if_neg hu, admission_of_group same]
        cases admission q policy pod.uid with
        | error e => exact ⟨rfl, asked⟩
        | ok joined =>
          have admitted : Namespaced.group (Namespaced.insert r policy.ns policy.name joined)
              policy.ns = Namespaced.group (Namespaced.insert q policy.ns policy.name joined)
                policy.ns := by
            simp only [Namespaced.group_insert, if_pos, same]
          cases policy.mode with
          | strict => exact ⟨rfl, admitted⟩
          | bestEffort =>
            refine ⟨rfl, ?_⟩
            dsimp only
            split
            · exact asked
            · exact admitted

/-- An attempt changes nothing in any other namespace than that of the policy. -/
theorem group_conclusion_of_ne (here : ∀ policy, governs = .ok (some policy) → policy.ns ≠ ns)
    (nodes : List Node) : (conclusion governs pod nodes r).2.group ns = r.group ns := by
  cases governs with
  | error e => rfl
  | ok policy? =>
    cases policy? with
    | none => rfl
    | some policy =>
      have other := here policy rfl
      have admitted (joined : Roster) :
          Namespaced.group (Namespaced.insert r policy.ns policy.name joined) ns = r.group ns := by
        rw [Namespaced.group_insert, if_neg other]
      simp only [conclusion]
      split
      · rfl
      · split
        · exact group_rosterOf_of_ne other
        · split
          · exact admitted _
          · dsimp only
            split
            · exact group_rosterOf_of_ne other
            · exact admitted _

end Steering

/-! ## Sessions -/

namespace Session

variable {s t : Session} {ns : String} {pod : Pod} {command : Command}

/-- Two sessions hold the same policies and the same rosters in a namespace. -/
structure AgreesOn (s t : Session) (ns : String) : Prop where
  policies : s.view.catalog.policies.group ns = t.view.catalog.policies.group ns
  rosters : s.registry.group ns = t.registry.group ns

/-- Nothing has changed but the rosters of a namespace, and the attempts under way. -/
structure Confines (before after : Session) (ns : String) : Prop where
  catalog : after.view.catalog = before.view.catalog
  rosters : ∀ other name, other ≠ ns →
    after.registry.get? other name = before.registry.get? other name

/-- A pod is looked for with the same result in two sessions that agree on its namespace: it is on
one roster of it at most, or the rosters are gone through in the same order. -/
def FindsAlike (s t : Session) (pod : Pod) : Prop :=
  (∀ name name', (pod.ns, name, pod.uid) ∈ s.registry.memberships →
      (pod.ns, name', pod.uid) ∈ s.registry.memberships → name = name') ∨
    s.order.entries s.registry pod.ns = t.order.entries t.registry pod.ns

/-- A command that finds the policy of a pod, tries to place the pod, or takes it off. -/
def Command.Decides (pod : Pod) : Command → Prop
  | .policyFor other => other = pod
  | .schedule other _ => other = pod
  | .leave other => other = pod
  | _ => False

/-- Sessions that agree on a namespace and can read their catalogs find the same policies for
its pods. -/
theorem AgreesOn.policyFor_eq (agree : s.AgreesOn t pod.ns) (readable : s.view.outage = none)
    (readable' : t.view.outage = none) : s.view.policyFor pod = t.view.policyFor pod := by
  rw [View.policyFor_of_readable readable, View.policyFor_of_readable readable',
    Catalog.policiesIn, Catalog.policiesIn, Namespaced.values, Namespaced.values, agree.policies]

/-- **Every decision about a pod is confined to the pod's namespace.** -/
theorem confines_step (h : s.Reachable) (decides : command.Decides pod) :
    s.Confines (s.step command).2.1 pod.ns := by
  cases command with
  | policyFor other => exact ⟨rfl, fun _ _ _ => rfl⟩
  | schedule other nodes =>
    obtain rfl : other = pod := decides
    refine ⟨rfl, fun ns name differs => get?_of_group ?_ name⟩
    rw [(step_schedule h other nodes).2]
    refine Steering.group_conclusion_of_ne (fun policy found => ?_) nodes
    rw [(View.policyFor_eq_some found).2.1]
    exact differs.symm
  | leave other =>
    obtain rfl : other = pod := decides
    refine ⟨rfl, fun ns name differs => get?_of_group ?_ name⟩
    rw [(step_leave s other).2]
    cases leaves : leave s.order s.registry other with
    | error e => rfl
    | ok result => exact group_leave_of_ne leaves differs.symm
  | _ => exact decides.elim

/-- Sessions that agree on a namespace place its pods alike. -/
theorem AgreesOn.schedule (agree : s.AgreesOn t pod.ns) (hs : s.Reachable) (ht : t.Reachable)
    (found : s.view.policyFor pod = t.view.policyFor pod) (nodes : List Node) :
    (s.step (.schedule pod nodes)).1 = (t.step (.schedule pod nodes)).1 ∧
      Namespaced.group (s.step (.schedule pod nodes)).2.1.registry pod.ns =
        Namespaced.group (t.step (.schedule pod nodes)).2.1.registry pod.ns := by
  obtain ⟨result, registry⟩ := step_schedule hs pod nodes
  obtain ⟨result', registry'⟩ := step_schedule ht pod nodes
  have here : ∀ policy, t.view.policyFor pod = .ok (some policy) → policy.ns = pod.ns :=
    fun policy chosen => (View.policyFor_eq_some chosen).2.1
  have concluded := Steering.conclusion_of_group here agree.rosters pod nodes
  rw [result, registry, result', registry', found]
  exact ⟨congrArg Answer.scheduled concluded.1, concluded.2⟩

/-- Sessions that agree on a namespace take its pods off alike, if they find them alike. -/
theorem AgreesOn.leave (agree : s.AgreesOn t pod.ns) (alike : s.FindsAlike t pod) :
    (s.step (.leave pod)).1 = (t.step (.leave pod)).1 ∧
      Namespaced.group (s.step (.leave pod)).2.1.registry pod.ns =
        Namespaced.group (t.step (.leave pod)).2.1.registry pod.ns := by
  obtain ⟨result, registry⟩ := step_leave s pod
  obtain ⟨result', registry'⟩ := step_leave t pod
  have found : rosterWith? s.order s.registry pod.ns pod.uid =
      rosterWith? t.order t.registry pod.ns pod.uid := by
    rcases alike with only | same
    · exact rosterWith?_of_group agree.rosters only
    · exact rosterWith?_of_entries same pod.uid
  have leaves := leave_of_group agree.rosters found
  rw [result, registry, result', registry']
  cases left : Membership.leave s.order s.registry pod with
  | error e =>
    cases left' : Membership.leave t.order t.registry pod with
    | error e' =>
      rw [left, left'] at leaves
      obtain rfl := Except.error.inj leaves
      exact ⟨rfl, agree.rosters⟩
    | ok after' =>
      rw [left, left'] at leaves
      cases leaves
  | ok after =>
    cases left' : Membership.leave t.order t.registry pod with
    | error e' =>
      rw [left, left'] at leaves
      cases leaves
    | ok after' =>
      rw [left, left'] at leaves
      exact ⟨rfl, (Prod.mk.inj (Except.ok.inj leaves)).2⟩

/-- **Namespaces are kept apart.**  Two sessions that commands lead to, that can read their
catalogs, and that hold the same policies and rosters in a namespace, decide alike about every
pod of it: they find the same policy, place the pod alike, and take it off alike if they find it
alike, and afterwards they still agree on the namespace.  In neither of them does anything change
in another namespace or in the catalog. -/
theorem namespace_isolated (hs : s.Reachable) (ht : t.Reachable)
    (readable : s.view.outage = none) (readable' : t.view.outage = none)
    (agree : s.AgreesOn t pod.ns) (decides : command.Decides pod)
    (alike : command = .leave pod → s.FindsAlike t pod) :
    (s.step command).1 = (t.step command).1 ∧
      (s.step command).2.1.AgreesOn (t.step command).2.1 pod.ns ∧
      s.Confines (s.step command).2.1 pod.ns ∧ t.Confines (t.step command).2.1 pod.ns := by
  have found := agree.policyFor_eq readable readable'
  suffices same : (s.step command).1 = (t.step command).1 ∧
      Namespaced.group (s.step command).2.1.registry pod.ns =
        Namespaced.group (t.step command).2.1.registry pod.ns by
    have confined := confines_step hs decides
    have confined' := confines_step ht decides
    refine ⟨same.1, ⟨?_, same.2⟩, confined, confined'⟩
    rw [confined.catalog, confined'.catalog]
    exact agree.policies
  cases command with
  | policyFor other =>
    obtain rfl : other = pod := decides
    obtain ⟨_, looked, _⟩ := s.desk.policyFor_eq s.view other
    obtain ⟨_, looked', _⟩ := t.desk.policyFor_eq t.view other
    simp only [step, looked, looked', found]
    exact ⟨trivial, agree.rosters⟩
  | schedule other nodes =>
    obtain rfl : other = pod := decides
    exact agree.schedule hs ht found nodes
  | leave other =>
    obtain rfl : other = pod := decides
    exact agree.leave (alike rfl)
  | _ => exact decides.elim

end Session

/-! ## A shop and its neighbour -/

namespace Shop

/-- The shop has a web pod. -/
def alone : List Session.Command :=
  opening ++ [.schedule (pod "u" "web") [edge]]

/-- Next to it is a mall with a policy of the same name, and a pod of the same identifier. -/
def neighboured : List Session.Command :=
  [.catalog (.addPolicy { web with ns := "mall", action := .mustNot }),
    .schedule { pod "u" "web" with ns := "mall" } [edge, core]] ++ alone

/-- The order of the names from the last to the first. -/
def backwards : Registry.Order where
  entries registry ns := (registry.group ns).toList.reverse
  entries_perm _ _ := List.reverse_perm _

/-- The mall makes no difference to the next web pod, and is not changed by it.  It makes none to
the first web pod either when that leaves, though the rosters are gone through backwards. -/
theorem isolated_neighboured :
    (Session.run {} neighboured).registry.namespaces = ["mall", "shop"] ∧
      ((Session.run {} alone).step (.schedule (pod "v" "web") [edge, core])).1 =
        ((Session.run {} neighboured).step (.schedule (pod "v" "web") [edge, core])).1 ∧
      (Session.run {} neighboured).Confines
        ((Session.run {} neighboured).step
          (.schedule (pod "v" "web") [edge, core])).2.1 "shop" ∧
      ((Session.run {} alone).step (.leave (pod "u" "web"))).1 =
        ((Session.run {} (neighboured ++ [.shuffle backwards])).step
          (.leave (pod "u" "web"))).1 := by
  have agree : (Session.run {} alone).AgreesOn (Session.run {} neighboured) "shop" :=
    ⟨by decide +kernel, by decide +kernel⟩
  have decides : (Session.Command.schedule (pod "v" "web") [edge, core]).Decides
    (pod "v" "web") := rfl
  have isolated := Session.namespace_isolated (Session.Reachable.start.run alone)
    (Session.Reachable.start.run neighboured) (by decide +kernel) (by decide +kernel) agree decides
    nofun
  have agree' : (Session.run {} alone).AgreesOn
      (Session.run {} (neighboured ++ [.shuffle backwards])) "shop" :=
    ⟨by decide +kernel, by decide +kernel⟩
  have entries : ∀ entry ∈ (Session.run {} alone).order.entries (Session.run {} alone).registry
      "shop", entry.1 = "web" := by
    decide +kernel
  have only (name : String) (there : ("shop", name, "u") ∈
      (Session.run {} alone).registry.memberships) : name = "web" := by
    obtain ⟨roster, found, _⟩ := there
    exact entries (name, roster) ((Session.run {} alone).order.mem_entries.mpr found)
  have leaves : (Session.Command.leave (pod "u" "web")).Decides (pod "u" "web") := rfl
  have left := Session.namespace_isolated (Session.Reachable.start.run alone)
    (Session.Reachable.start.run (neighboured ++ [.shuffle backwards])) (by decide +kernel)
    (by decide +kernel) agree' leaves fun _ => .inl fun name name' there there' =>
      (only name there).trans (only name' there').symm
  exact ⟨by decide +kernel, isolated.1, isolated.2.2.2, left.1⟩

end Shop

end Placement
