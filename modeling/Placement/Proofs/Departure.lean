import Placement.Proofs.Session

/-!
# Pods that leave

A pod that leaves is taken off the roster of its namespace that it is on.  The roster tells anew
whether its target is met, and goes when nobody is left on it, and its namespace goes with it when
no other roster is left there.  Everything else stays.  A pod that joins and leaves again therefore
leaves no trace, if the roster was for the same action and target before, or was not there.

## Main definitions

* `Roster.Loses` — a roster has one pod less.
* `Registry.Loses` — a pod has left the roster that it was on, and nothing else has changed.

What leaving does is said by `Roster.loses_of_discharge` of rosters, by `Registry.loses_of_leave`
of registries and by `Session.leave_loses` of sessions.  That joining is undone by it is said by
`Roster.discharge_enlist`, `Membership.leave_join` and `Session.join_undone`.
-/

namespace Placement

open Placement.Membership

/-! ## Rosters -/

namespace Roster

variable {r rest joined : Roster} {key : String}

/-- A roster has one pod less, for the same policy, action and target, and tells anew whether its
target is met. -/
structure Loses (r : Roster) (key : String) (rest : Roster) : Prop where
  ns : rest.ns = r.ns
  name : rest.name = r.name
  action : rest.action = r.action
  target : rest.target = r.target
  qualified : ∀ k, k ∈ rest.qualified ↔ k ≠ key ∧ k ∈ r.qualified
  managed : ∀ k, k ∈ rest.managed ↔ k ≠ key ∧ k ∈ r.managed
  met : ∃ wanted, rest.required rest.qualified.size = .ok wanted ∧
    rest.targetMet = decide (wanted ≤ rest.managed.size)

/-- **A pod that is taken off a roster is all that the roster loses.** -/
theorem loses_of_discharge (c : r.Consistent) (present : key ∈ r.qualified)
    (h : r.discharge key = .ok rest) : r.Loses key rest := by
  obtain ⟨ns, name, action, target, qualified⟩ := discharge_frame h
  obtain ⟨absent, _⟩ | ⟨_, wanted, hw, rfl⟩ := discharge_eq_ok h
  · exact absurd present absent
  refine ⟨ns, name, action, target, qualified, fun k => ?_, ?_⟩
  · simp only [release, Std.ExtTreeSet.mem_erase, ne_eq, Std.LawfulEqCmp.compare_eq_iff_eq]
    rw [eq_comm]
  · exact (c.release present hw).met (c.wellFormed_of_mem present)

/-- Nobody is left exactly when nobody else was there. -/
theorem Loses.isEmpty_iff (h : r.Loses key rest) :
    rest.isEmpty = true ↔ ∀ k ∈ r.qualified, k = key := by
  rw [Roster.isEmpty_iff]
  constructor
  · intro empty k there
    by_contra other
    have left : k ∈ rest.qualified := (h.qualified k).mpr ⟨other, there⟩
    rw [empty] at left
    exact Std.ExtTreeSet.not_mem_empty left
  · intro only
    refine Std.ExtTreeSet.ext_mem fun k => iff_of_false ?_ Std.ExtTreeSet.not_mem_empty
    intro left
    obtain ⟨other, there⟩ := (h.qualified k).mp left
    exact other (only k there)

theorem isEmpty_new (ns name : String) (action : Action) (target : TargetSize) :
    (new ns name action target).isEmpty = true :=
  Roster.isEmpty_iff.mpr rfl

/-- A consistent roster that is given the action and target it has stays as it is. -/
theorem respecify_self (c : r.Consistent) (wf : r.target.WellFormed) :
    r.respecify r.action r.target = .ok r := by
  obtain ⟨wanted, hw, met⟩ := c.met wf
  have required : r.target.required r.qualified.size r.action = .ok wanted := hw
  have same : r.respecified r.action r.target wanted = r := by
    rw [respecified, meets, ← met]
  rw [respecify_eq, required, Except.map, same]

theorem erase_insert_of_not_mem {keys : Std.ExtTreeSet String} (absent : key ∉ keys) :
    (keys.insert key).erase key = keys := by
  refine Std.ExtTreeSet.ext_mem fun k => ?_
  simp only [Std.ExtTreeSet.mem_erase, Std.ExtTreeSet.mem_insert,
    Std.LawfulEqCmp.compare_eq_iff_eq]
  grind

theorem erase_of_not_mem {keys : Std.ExtTreeSet String} (absent : key ∉ keys) :
    keys.erase key = keys := by
  refine Std.ExtTreeSet.ext_mem fun k => ?_
  simp only [Std.ExtTreeSet.mem_erase]
  grind

/-- A newcomer that is released takes with it what it brought, whether or not it was claimed. -/
theorem release_accept (c : r.Consistent) (absent : key ∉ r.qualified) (counted wanted : Int) :
    (r.accept key counted).release key wanted =
      { r with targetMet := decide (wanted ≤ r.managed.size) } := by
  have unclaimed : key ∉ r.managed := c.unclaimed_of_absent absent
  have managed : (r.accept key counted).managed.erase key = r.managed := by
    simp only [accept]
    split
    · exact erase_of_not_mem unclaimed
    · exact erase_insert_of_not_mem unclaimed
  have qualified : (r.accept key counted).qualified.erase key = r.qualified :=
    erase_insert_of_not_mem absent
  rw [release, managed, qualified, accept]

/-- **A pod that joins a consistent roster and leaves it again leaves it as it was.** -/
theorem discharge_enlist (c : r.Consistent) (absent : key ∉ r.qualified)
    (h : r.enlist key = .ok joined) : joined.discharge key = .ok r := by
  obtain ⟨present, _⟩ | ⟨_, counted, hcounted, rfl⟩ := enlist_eq_ok h
  · exact absurd present absent
  obtain ⟨wanted, hw, met⟩ := c.met (TargetSize.wellFormed_of_required hcounted)
  have present : key ∈ (r.accept key counted).qualified := mem_qualified_accept.mpr (.inl rfl)
  have again : (r.accept key counted).required ((r.accept key counted).qualified.size - 1) =
      .ok wanted := by
    rw [size_qualified_accept absent]
    exact hw
  rw [discharge_eq present, again, Except.map, release_accept c absent, ← met]

end Roster

/-! ## Registries -/

namespace Registry

variable {before after : Registry} {order : Registry.Order} {ns name key : String}
  {roster rest : Roster} {pod : Pod}

/-- A pod has left the roster of a policy that it was on, and nothing else has changed.  The roster
is gone if nobody else was on it, and the namespace with it if there was no other roster. -/
structure Loses (before : Registry) (ns name key : String) (roster : Roster) (after : Registry) :
    Prop where
  released : ∀ other, (ns, other, key) ∉ after.memberships
  rest : ∀ rest, after.get? ns name = some rest → roster.Loses key rest
  gone : after.get? ns name = none ↔ ∀ k ∈ roster.qualified, k = key
  deserted : ns ∉ after.namespaces ↔
    (∀ k ∈ roster.qualified, k = key) ∧
      ∀ other, (before.get? ns other).isSome = true → other = name
  others : ∀ ns' name', ¬(ns = ns' ∧ name = name') → after.get? ns' name' = before.get? ns' name'

/-- A roster with one pod less that takes the place of the one before, or none if it is empty, is
all that changes. -/
theorem loses_of_rest (lost : roster.Loses key rest)
    (struck : ∀ other, (ns, other, key) ∉ after.memberships)
    (left : after = if rest.isEmpty then Namespaced.erase before ns name
      else Namespaced.insert before ns name rest) :
    before.Loses ns name key roster after := by
  have entry (ns' name' : String) : after.get? ns' name' =
      if ns = ns' ∧ name = name' then (if rest.isEmpty then none else some rest)
      else before.get? ns' name' := by
    rw [left]
    split
    next => exact Namespaced.get?_erase ..
    next => exact Namespaced.get?_insert ..
  have here : after.get? ns name = if rest.isEmpty then none else some rest := by
    rw [entry, if_pos ⟨rfl, rfl⟩]
  have gone : after.get? ns name = none ↔ ∀ k ∈ roster.qualified, k = key := by
    rw [here, ← lost.isEmpty_iff]
    split <;> simp [*]
  have others (ns' name' : String) (other : ¬(ns = ns' ∧ name = name')) :
      after.get? ns' name' = before.get? ns' name' := by
    rw [entry, if_neg other]
  refine ⟨struck, ?_, gone, ?_, others⟩
  · intro found there
    rw [here] at there
    split at there
    next => cases there
    next => exact Option.some.inj there ▸ lost
  · rw [← gone, Namespaced.mem_namespaces, not_exists]
    constructor
    · intro none_left
      refine ⟨by simpa using none_left name, fun other there => ?_⟩
      by_contra differ
      have stays := others ns other fun same => differ same.2.symm
      exact none_left other (stays ▸ there)
    · rintro ⟨none_here, only⟩ other there
      by_cases same : other = name
      · rw [same, none_here] at there
        cases there
      · rw [others ns other fun equal => same equal.2.symm] at there
        exact same (only other there)

/-- **A pod with an identifier leaves the only roster of its namespace that it is on.** -/
theorem loses_of_leave (sound : before.Sound) (hu : pod.uid ≠ "")
    (there : before.get? pod.ns name = some roster) (holds : pod.uid ∈ roster.qualified)
    (only : ∀ other, (pod.ns, other, pod.uid) ∈ before.memberships → other = name) :
    ∃ left after, leave order before pod = .ok (left, after) ∧
      before.Loses pod.ns name pod.uid roster after := by
  have consistent := (sound.obtainable _ _ _ there).consistent
  obtain ⟨rest, hd⟩ := Roster.exists_discharge (consistent.wellFormed_of_mem holds) pod.uid
  have found : rosterWith? order before pod.ns pod.uid = some name :=
    rosterWith?_eq_of_only ⟨roster, there, holds⟩ only
  have leaves := leave_of_some hu found there
  rw [hd, Except.map] at leaves
  have struck := not_mem_of_leave
    (fun one other there there' => (only one there).trans (only other there').symm) leaves
  exact ⟨_, _, leaves, loses_of_rest (Roster.loses_of_discharge consistent holds hd) struck rfl⟩

end Registry

namespace Membership

variable {registry : Registry} {order : Registry.Order} {info : Roster} {pod : Pod}

/-- The roster on which a pod would be put has the body of the given one, if what is on record
has. -/
theorem toJoin_body
    (kept : ∀ entry, registry.get? info.ns info.name = some entry →
      entry.action = info.action ∧ entry.target = info.target) :
    (toJoin registry info).action = info.action ∧ (toJoin registry info).target = info.target := by
  rw [toJoin, onRecord]
  cases there : registry.get? info.ns info.name with
  | none => exact ⟨rfl, rfl⟩
  | some entry => exact kept entry there

/-- **A pod that joins and leaves again leaves the registry as it was**, if the roster was for the
same action and target before and held a pod, or was not there. -/
theorem leave_join (sound : registry.Sound) (hu : pod.uid ≠ "") (here : info.ns = pod.ns)
    (absent : ∀ name, (pod.ns, name, pod.uid) ∉ registry.memberships)
    (wf : info.target.WellFormed)
    (kept : ∀ entry, registry.get? info.ns info.name = some entry →
      (∃ key, key ∈ entry.qualified) ∧ entry.action = info.action ∧ entry.target = info.target) :
    ∃ joined after, join registry pod info = .ok (joined, after) ∧
      leave order after pod = .ok (some (info.name, toJoin registry info), registry) := by
  have consistent : (toJoin registry info).Consistent :=
    (obtainable_onRecord sound _ _ _ _).consistent
  obtain ⟨action, target⟩ := toJoin_body fun entry there => (kept entry there).2
  have absent' : pod.uid ∉ (toJoin registry info).qualified := fun there =>
    absent info.name (here ▸ mem_onRecord.mp there)
  -- Under its own body the roster stays as it is until the pod joins.
  have wf' : (toJoin registry info).target.WellFormed := target ▸ wf
  have unchanged := Roster.respecify_self consistent wf'
  rw [action, target] at unchanged
  obtain ⟨joined, hj⟩ := Roster.exists_enlist wf' pod.uid
  have joins : join registry pod info =
      .ok (joined, Namespaced.insert registry info.ns info.name joined) := by
    rw [join_eq hu, unchanged, Except.bind, hj, Except.map]
  -- It is then on that roster only, and is taken off it.
  have memberships := memberships_join joins
  have found : rosterWith? order (Namespaced.insert registry info.ns info.name joined) pod.ns
      pod.uid = some info.name := by
    apply rosterWith?_eq_of_only
    · rw [memberships, here]
      exact Set.mem_insert ..
    · intro other there
      rw [memberships] at there
      rcases there with same | before
      · exact (Prod.mk.inj (Prod.mk.inj same).2).1
      · exact absurd before (absent other)
  have there : Namespaced.get? (Namespaced.insert registry info.ns info.name joined) pod.ns
      info.name = some joined := by
    rw [← here, Namespaced.get?_insert, if_pos ⟨rfl, rfl⟩]
  have leaves := leave_of_some hu found there
  rw [Roster.discharge_enlist consistent absent' hj, Except.map, ← here] at leaves
  refine ⟨joined, _, joins, leaves.trans ?_⟩
  congr 2
  rw [toJoin, onRecord]
  cases entered : registry.get? info.ns info.name with
  | none =>
    rw [Option.getD_none, if_pos (Roster.isEmpty_new ..)]
    exact Namespaced.erase_insert_of_get? entered
  | some entry =>
    obtain ⟨⟨key, holds⟩, _⟩ := kept entry entered
    rw [Option.getD_some, if_neg (by simp [Roster.isEmpty_of_mem holds]),
      Namespaced.insert_insert, Namespaced.insert_of_get? entered]

end Membership

/-! ## Sessions -/

namespace Session

variable {s : Session} {pod : Pod} {info : Roster}

/-- **What taking a pod off does.**  In every session that commands lead to, it fails exactly when
the pod has no identifier, and then nothing happens.  If no roster of the pod's namespace holds the
pod, the registry stays as it is.  If one does and no other, the pod is taken off it, and that is
all that changes. -/
theorem leave_loses (h : s.Reachable) (pod : Pod) :
    (pod.uid = "" → s.step (.leave pod) = (.failed (.emptyUid pod.ns pod.name), s, [])) ∧
      (pod.uid ≠ "" →
        (s.step (.leave pod)).1 = .done ∧
          ((∀ name, (pod.ns, name, pod.uid) ∉ s.registry.memberships) →
            (s.step (.leave pod)).2.1.registry = s.registry) ∧
          ∀ name roster, s.registry.get? pod.ns name = some roster →
            pod.uid ∈ roster.qualified →
            (∀ other, (pod.ns, other, pod.uid) ∈ s.registry.memberships → other = name) →
              s.registry.Loses pod.ns name pod.uid roster
                (s.step (.leave pod)).2.1.registry) := by
  refine ⟨fun hu => ?_, fun hu => ⟨?_, fun nowhere => ?_, ?_⟩⟩
  · have fails : leave s.order s.desk.registry pod = .error (.emptyUid pod.ns pod.name) :=
      leave_of_no_uid hu s.order s.registry
    simp only [step, Desk.leave, fails]
    rfl
  · obtain ⟨left, after, leaves⟩ := exists_leave h.sound hu
    exact (step_leave_of_ok leaves).1
  · have found : rosterWith? s.order s.registry pod.ns pod.uid = none :=
      rosterWith?_eq_none.mpr nowhere
    have leaves := leave_of_none hu found
    rw [(step_leave_of_ok leaves).2]
  · intro name roster there holds only
    obtain ⟨left, after, leaves, loses⟩ := Registry.loses_of_leave h.sound hu there holds only
    rw [(step_leave_of_ok leaves).2]
    exact loses

/-- **Joining is undone by leaving.**  In every session that commands lead to, a pod that is on no
roster of its namespace can join a roster of that namespace whose target can be computed, and leave
again.  If the roster was not there, or held a pod under the same action and target, the registry
and the whole session are then as they were. -/
theorem join_undone (h : s.Reachable) (hu : pod.uid ≠ "")
    (absent : ∀ name, (pod.ns, name, pod.uid) ∉ s.registry.memberships)
    (here : info.ns = pod.ns) (wf : info.target.WellFormed)
    (kept : ∀ entry, s.registry.get? info.ns info.name = some entry →
      (∃ key, key ∈ entry.qualified) ∧ entry.action = info.action ∧ entry.target = info.target) :
    (∃ joined after left, join s.registry pod info = .ok (joined, after) ∧
        leave s.order after pod = .ok (left, s.registry)) ∧
      ∀ saved given keys, s.rosterToJoin saved given keys = .ok info →
        (∃ joined, s.answers [.join pod saved given keys, .leave pod] = [.roster joined, .done]) ∧
          s.run [.join pod saved given keys, .leave pod] = s := by
  obtain ⟨joined, after, joins, leaves⟩ := leave_join h.sound hu here absent wf kept
  refine ⟨⟨joined, after, _, joins, leaves⟩, fun saved given keys asks => ?_⟩
  obtain ⟨answer, left⟩ := step_join_of_ok asks joins
  obtain ⟨answer', left'⟩ := step_leave_of_ok (s := { s with registry := after }) leaves
  refine ⟨⟨joined, ?_⟩, ?_⟩
  · simp only [answers, answer, left, answer']
  · simp only [run, left, left']

end Session

/-! ## A shop with some pods -/

namespace Shop

/-- Two batch pods and a web pod have come. -/
def gathering : Session :=
  Session.run {} (opening ++ [.schedule (pod "u" "batch") [edge, core],
    .schedule (pod "v" "batch") [edge, core], .schedule (pod "w" "web") [edge, core]])

/-- A batch pod leaves a roster that holds another one.  The web pod is the last on its roster,
which goes, while the namespace stays. -/
theorem leave_loses_gathering :
    ∃ batch web : Roster,
      gathering.registry.Loses "shop" "batch" "u" batch
          (gathering.step (.leave (pod "u" "batch"))).2.1.registry ∧
        "v" ∈ batch.qualified ∧
        gathering.registry.Loses "shop" "web" "w" web
          (gathering.step (.leave (pod "w" "web"))).2.1.registry ∧
        (gathering.step (.leave (pod "w" "web"))).2.1.registry.namespaces = ["shop"] := by
  have reached : gathering.Reachable := Session.Reachable.start.run _
  have holders : ∀ entry ∈ gathering.order.entries gathering.registry "shop",
      (entry.2.qualifies "u" = true → entry.1 = "batch") ∧
        (entry.2.qualifies "w" = true → entry.1 = "web") := by
    decide +kernel
  obtain ⟨batch, there, holds⟩ : ("shop", "batch", "u") ∈ gathering.registry.memberships := by
    decide +kernel
  obtain ⟨web, there', holds'⟩ : ("shop", "web", "w") ∈ gathering.registry.memberships := by
    decide +kernel
  obtain ⟨batch', same, other⟩ : ("shop", "batch", "v") ∈ gathering.registry.memberships := by
    decide +kernel
  obtain rfl := Option.some.inj (there.symm.trans same)
  obtain ⟨-, -, loses⟩ := (Session.leave_loses reached (pod "u" "batch")).2 (by decide)
  obtain ⟨-, -, loses'⟩ := (Session.leave_loses reached (pod "w" "web")).2 (by decide)
  refine ⟨batch, web, loses "batch" batch there holds ?_, other,
    loses' "web" web there' holds' ?_, by decide +kernel⟩
  · rintro name ⟨roster, found, held⟩
    exact (holders (name, roster) (gathering.order.mem_entries.mpr found)).1 (Roster.qualifies_iff.mpr held)
  · rintro name ⟨roster, found, held⟩
    exact (holders (name, roster) (gathering.order.mem_entries.mpr found)).2 (Roster.qualifies_iff.mpr held)

/-- A roster for the batch pods, as it was before any came. -/
def batchRoster : Roster :=
  Roster.new "shop" "batch" .mustNot (.text "50%")

/-- A roster for pods that nobody has asked for yet. -/
def nightRoster : Roster :=
  Roster.new "shop" "night" .must (.text "30%")

/-- A batch pod that has not come yet. -/
def guest : Pod :=
  pod "x" "batch"

/-- It joins a roster and leaves it again. -/
def visit (roster : Roster) : List Session.Command :=
  [.join guest "" roster [], .leave guest]

/-- It may join the batch pods, or a roster that is not there yet. -/
theorem join_undone_gathering : gathering.run (visit batchRoster) = gathering ∧
    gathering.run (visit nightRoster) = gathering := by
  have reached : gathering.Reachable := Session.Reachable.start.run _
  have identified : guest.uid ≠ "" := by decide
  have nowhere : rosterWith? .byName gathering.registry guest.ns guest.uid = none := by
    decide +kernel
  have absent : ∀ name, (guest.ns, name, guest.uid) ∉ gathering.registry.memberships :=
    rosterWith?_eq_none.mp nowhere
  have held : (gathering.registry.get? batchRoster.ns batchRoster.name).all (fun entry =>
      entry.qualifies "u" && decide (entry.action = batchRoster.action ∧
        entry.target = batchRoster.target)) = true := by
    decide +kernel
  have entered : ∀ entry, gathering.registry.get? batchRoster.ns batchRoster.name = some entry →
      (∃ key, key ∈ entry.qualified) ∧ entry.action = batchRoster.action ∧
        entry.target = batchRoster.target := by
    intro entry there
    rw [there, Option.all_some, Bool.and_eq_true, decide_eq_true_iff] at held
    exact ⟨⟨"u", Roster.qualifies_iff.mp held.1⟩, held.2⟩
  have missing : gathering.registry.get? nightRoster.ns nightRoster.name = none := by decide +kernel
  have among : gathering.rosterToJoin "" batchRoster [] = .ok batchRoster := by decide +kernel
  have alone : gathering.rosterToJoin "" nightRoster [] = .ok nightRoster := by decide +kernel
  obtain ⟨-, undone⟩ :=
    Session.join_undone reached identified absent rfl (by decide +kernel) entered
  obtain ⟨-, undone_new⟩ :=
    Session.join_undone reached identified absent rfl (by decide +kernel)
      fun entry there => absurd (missing.symm.trans there) (Option.some_ne_none entry).symm
  exact ⟨(undone "" batchRoster [] among).2, (undone_new "" nightRoster [] alone).2⟩

end Shop

end Placement
