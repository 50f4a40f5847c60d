import Placement.Proofs.Account

/-!
# One policy for each pod

Which policy governs a pod changes when the pod is labelled anew, and when policies come,
go or change.  A pod that is put on record under another policy is not taken off the roster
of the first one.  So a pod is on one roster of its namespace at most exactly as long as it
is taken off whenever its policy changes.

## Main definitions

* `Registry.Exclusive` — a pod is on one roster of a namespace at most.
* `Session.Steady` — in a run, no pod comes under another policy before it is taken off.

The main statement is `Session.exclusive_iff_steady`.
-/

namespace Placement

open Placement.Membership

/-- A pod is on one roster of a namespace at most. -/
def Registry.Exclusive (registry : Registry) : Prop :=
  ∀ ns name other key, (ns, name, key) ∈ registry.memberships →
    (ns, other, key) ∈ registry.memberships → name = other

theorem Registry.Exclusive.mono {registry after : Registry} (exclusive : registry.Exclusive)
    (fewer : after.memberships ⊆ registry.memberships) : after.Exclusive :=
  fun ns name other key there there' => exclusive ns name other key (fewer there) (fewer there')

/-- A pod that was on one roster at most is on none when it has left. -/
theorem Registry.Exclusive.not_mem_of_leave {registry after : Registry} {pod : Pod}
    {order : Registry.Order} {left : Option (String × Roster)} (exclusive : registry.Exclusive)
    (leaves : leave order registry pod = .ok (left, after)) (name : String) :
    (pod.ns, name, pod.uid) ∉ after.memberships :=
  Membership.not_mem_of_leave (fun name other => exclusive pod.ns name other pod.uid) leaves name

/-- Only pods with an identifier are on record. -/
def Registry.Keyed (registry : Registry) : Prop :=
  ∀ ns name key, (ns, name, key) ∈ registry.memberships → key ≠ ""

theorem Registry.kept_keyed : Registry.Kept Registry.Keyed where
  rosterOf policy h := by
    intro ns name key there
    rw [memberships_rosterOf] at there
    exact h ns name key there
  join h joins := by
    intro ns name key there
    rw [memberships_join joins] at there
    rcases there with same | there
    · obtain ⟨_, _, rfl⟩ := Prod.mk.inj same
      exact (join_eq_ok joins).1
    · exact h ns name key there
  leave h leaves := by
    intro ns name key there
    obtain ⟨struck, after, _⟩ := memberships_leave leaves
    rw [after] at there
    exact h ns name key there.1

namespace Session

variable {s : Session} {commands : List Command}

theorem Reachable.keyed (h : Reachable s) : s.registry.Keyed :=
  h.registry Registry.kept_keyed fun ns name key there => by simp at there

/-- **As long as a pod is on one roster at most, taking it off leaves it on none.** -/
theorem not_mem_of_leave (h : Reachable s) (exclusive : s.registry.Exclusive) (pod : Pod)
    (name : String) : (pod.ns, name, pod.uid) ∉ (s.step (.leave pod)).2.1.registry.memberships := by
  intro there
  have hu : pod.uid ≠ "" := (h.step (.leave pod)).keyed _ _ _ there
  obtain ⟨left, after, leaves⟩ := exists_leave h.sound hu
  rw [(step_leave_of_ok leaves).2] at there
  exact exclusive.not_mem_of_leave leaves name there

/-- In a run, no pod that was put on record under one policy is put on record under another
of the same namespace, unless it has been taken off in between. -/
def Steady (commands : List Command) : Prop :=
  ∀ earlier first between second later,
    commands = earlier ++ first :: between ++ second :: later →
    ∀ ns name other key, Enters earlier first (ns, name, key) →
      Enters (earlier ++ first :: between) second (ns, other, key) →
      (∀ command ∈ between, ¬command.TakesOff ns key) → name = other

/-- In a run, a membership was put on record, and its pod has not been taken off since. -/
def Stands (commands : List Command) (ns name key : String) : Prop :=
  ∃ earlier entering later, commands = earlier ++ entering :: later ∧
    Enters earlier entering (ns, name, key) ∧
    ∀ command ∈ later, ¬command.TakesOff ns key

theorem Steady.of_append {later : List Command} (h : Steady (commands ++ later)) :
    Steady commands := by
  intro earlier first between second rest split
  exact h earlier first between second (rest ++ later) (by simp [split])

theorem Enters.not_takesOff {earlier : List Command} {command : Command} {ns key : String}
    {t : String × String × String} (h : Enters earlier command t) : ¬command.TakesOff ns key := by
  rintro ⟨pod, rfl, _⟩
  simp [Enters, entryOf] at h

theorem Enters.stands {command : Command} {ns name key : String}
    (h : Enters commands command (ns, name, key)) : Stands (commands ++ [command]) ns name key :=
  ⟨commands, command, [], rfl, h, by simp⟩

theorem Stands.snoc {command : Command} {ns name key : String} (h : Stands commands ns name key)
    (stays : ¬command.TakesOff ns key) : Stands (commands ++ [command]) ns name key := by
  obtain ⟨earlier, entering, later, rfl, enters, kept⟩ := h
  refine ⟨earlier, entering, later ++ [command], by simp, enters, ?_⟩
  intro c hc
  rcases List.mem_append.mp hc with hc | hc
  · exact kept c hc
  · exact List.mem_singleton.mp hc ▸ stays

/-- In a steady run, a pod that stands under one policy is not put under another. -/
theorem Steady.eq_of_stands {command : Command} {ns name other key : String}
    (h : Steady (commands ++ [command])) (stands : Stands commands ns name key)
    (enters : Enters commands command (ns, other, key)) : name = other := by
  obtain ⟨earlier, entering, later, rfl, entered, kept⟩ := stands
  exact h earlier entering later command [] (by simp) ns name other key entered enters kept

/-- In a steady run a pod is on one roster at most, and stands there. -/
theorem Steady.exclusive (h : Steady commands) :
    (run {} commands).registry.Exclusive ∧
      ∀ ns name key, (ns, name, key) ∈ (run {} commands).registry.memberships →
        Stands commands ns name key := by
  induction commands using List.reverseRecOn with
  | nil =>
    exact ⟨fun ns name other key there => by simp [run] at there,
      fun ns name key there => by simp [run] at there⟩
  | append_singleton commands command ih =>
    obtain ⟨exclusive, stands⟩ := ih h.of_append
    have reached : Reachable (run {} commands) := Reachable.start.run commands
    rw [run_snoc]
    refine ⟨?_, ?_⟩
    · intro ns name other key there there'
      rcases entry_or_mem_memberships reached.sound there with entry | before
      · rcases entry_or_mem_memberships reached.sound there' with entry' | before'
        · have same := Option.some.inj (entry.symm.trans entry')
          exact congrArg (·.2.1) same
        · exact (h.eq_of_stands (stands ns other key before') entry).symm
      · rcases entry_or_mem_memberships reached.sound there' with entry' | before'
        · exact h.eq_of_stands (stands ns name key before) entry'
        · exact exclusive ns name other key before before'
    · intro ns name key there
      rcases entry_or_mem_memberships reached.sound there with entry | before
      · exact Enters.stands entry
      · refine (stands ns name key before).snoc ?_
        -- Taking the pod off would have struck this very membership, its only one.
        rintro ⟨pod, rfl, rfl, rfl⟩
        exact not_mem_of_leave reached exclusive pod name there

/-- A pod that comes under two policies without being taken off is on both rosters. -/
theorem steady_of_exclusive
    (h : ∀ earlier, earlier <+: commands → (run {} earlier).registry.Exclusive) :
    Steady commands := by
  intro earlier first between second later split ns name other key enters enters' kept
  have reached : Reachable (run {} earlier) := Reachable.start.run earlier
  have before : (ns, name, key) ∈
      (run {} (earlier ++ first :: between)).registry.memberships := by
    rw [run_append]
    exact mem_memberships_run (reached.step first)
      (mem_memberships_of_entry reached.sound enters) between kept
  have reached' : Reachable (run {} (earlier ++ first :: between)) := Reachable.start.run _
  have exclusive := h (earlier ++ first :: between ++ [second]) ⟨later, by simp [split]⟩
  rw [run_snoc] at exclusive
  exact exclusive ns name other key
    (mem_memberships_step reached'.sound before enters'.not_takesOff)
    (mem_memberships_of_entry reached'.sound enters')

/-- **A pod is on one roster of its namespace at most throughout a run exactly when the run
is steady**: when no pod is put on record under a policy while it stands under another. -/
theorem exclusive_iff_steady (commands : List Command) :
    (∀ earlier, earlier <+: commands → (run {} earlier).registry.Exclusive) ↔
      Steady commands := by
  constructor
  · exact steady_of_exclusive
  · rintro steady earlier ⟨later, rfl⟩
    exact steady.of_append.exclusive.1

/-- A pod that is scheduled, labelled anew and scheduled again is on two rosters. -/
theorem not_exclusive_of_relabelled :
    ¬(run {} (Shop.opening ++ [.schedule (Shop.pod "u" "web") [Shop.edge],
      .schedule (Shop.pod "u" "batch") [Shop.edge]])).registry.Exclusive := by
  intro exclusive
  have same := exclusive "shop" "web" "batch" "u" (by decide +kernel) (by decide +kernel)
  exact absurd same (by decide)

end Session

end Placement
