import Placement.Proofs.Attempt
import Placement.Session

/-!
# What holds in every session

A session is reached from an empty one by commands in any order.  Whatever asking for a
roster, joining and leaving keep of the registry therefore holds in every session that
can be reached, since no command changes the registry in another way.

## Main definitions

* `Session.Reachable` — the sessions that commands lead to.
* `Registry.Kept` — a fact that the three operations on the registry keep.
* `Shop` — the pods, nodes and policies of a small shop, on which statements are tried.

The main statements are `Session.step_keeps`, `Session.Reachable.registry` and
`Session.bookkeeping`.
-/

namespace Placement

open Placement.Membership

/-- A fact about registries that every operation on them keeps. -/
structure Registry.Kept (I : Registry → Prop) : Prop where
  rosterOf : ∀ {registry : Registry} (policy : Policy),
    I registry → I (rosterOf registry policy).2
  join : ∀ {registry after : Registry} {pod : Pod} {roster joined : Roster},
    I registry → join registry pod roster = .ok (joined, after) → I after
  leave : ∀ {registry after : Registry} {pod : Pod} {order : Registry.Order}
    {left : Option (String × Roster)},
    I registry → leave order registry pod = .ok (left, after) → I after

theorem Registry.kept_sound : Registry.Kept Registry.Sound where
  rosterOf policy sound := sound_rosterOf sound policy
  join := sound_join
  leave := sound_leave

variable {I : Registry → Prop} {s : Session}

namespace Steering

theorem PreFiltered.keeps {view : View} {pod : Pod} {cycle next : CycleState}
    {registry after : Registry} {status : Status} (kept : Registry.Kept I) (h : I registry)
    (spec : PreFiltered view pod cycle registry status next after) : I after := by
  cases spec with
  | unread => exact h
  | ungoverned => exact h
  | keyless => exact h
  | malformed => exact kept.rosterOf _ h
  | chosen => exact kept.rosterOf _ h
  | committed _ _ _ _ joins => exact kept.join (kept.rosterOf _ h) joins

theorem PreScored.keeps {view : View} {pod : Pod} {cycle next : CycleState}
    {registry after : Registry} {status : Status} (kept : Registry.Kept I) (h : I registry)
    (spec : PreScored view pod cycle registry status next after) : I after := by
  cases spec with
  | missing => exact h
  | ungoverned => exact h
  | settled => exact h
  | unread => exact h
  | lapsed => exact h
  | malformed => exact kept.rosterOf _ h
  | keyless => exact kept.rosterOf _ h
  | committed _ _ _ _ joins => exact kept.join (kept.rosterOf _ h) joins

/-- Every phase of the plugin keeps what the operations on the registry keep. -/
theorem plugin_keeps (kept : Registry.Kept I) (view : View) :
    (plugin view).Keeps fun desk => I desk.registry where
  preFilter pod _ cycle desk h := (preFilter_spec view pod cycle desk).keeps kept h
  filter pod node cycle desk h := by
    show I (Steering.filter pod node cycle desk).2.registry
    rw [registry_filter]
    exact h
  preScore pod _ cycle desk h := (preScore_spec view pod cycle desk).keeps kept h
  score pod node cycle desk h := by
    show I (Steering.score pod node cycle desk).2.registry
    rw [registry_score]
    exact h
  normalize f hf pod scores cycle desk h := by
    obtain rfl := Option.some.inj hf
    rw [registry_normalize]
    exact h
  log _ _ h := h

end Steering

namespace Session

/-- **Every command keeps what the operations on the registry keep.** -/
theorem step_keeps (kept : Registry.Kept I) (h : I s.registry) (command : Command) :
    I (s.step command).2.1.registry := by
  cases command with
  | catalog command => exact h
  | outage message => exact h
  | shuffle order => exact h
  | policyFor pod => exact h
  | policy ns name => exact h
  | rosterOf policy save =>
    obtain ⟨next, result, entered⟩ := s.desk.rosterOf_eq policy
    have after : I next.registry := entered ▸ kept.rosterOf policy h
    simp only [step, result]
    split <;> exact after
  | join pod saved roster keys =>
    simp only [step]
    split
    next => exact h
    next info _ =>
      obtain ⟨e, _, result⟩ | ⟨joined, next, result, joins⟩ := s.desk.join_cases pod info
      · rw [result]
        exact h
      · rw [result]
        exact kept.join h joins
  | leave pod =>
    obtain ⟨e, _, result⟩ | ⟨left, next, result, leaves⟩ := s.desk.leave_cases s.order pod
    · simp only [step, result]
      exact h
    · simp only [step, result]
      exact kept.leave h leaves
  | podsMatching selector => exact h
  | pluginName => exact h
  | newCycle cycle => exact h
  | poisonCycle cycle => exact h
  | preFilter cycle pod =>
    exact (Steering.preFilter_spec s.view pod (s.cycle cycle) s.desk).keeps kept h
  | filter cycle pod node =>
    show I (Steering.filter pod node (s.cycle cycle) s.desk).2.registry
    rw [Steering.registry_filter]
    exact h
  | preScore cycle pod =>
    exact (Steering.preScore_spec s.view pod (s.cycle cycle) s.desk).keeps kept h
  | score cycle pod node =>
    show I (Steering.score pod node (s.cycle cycle) s.desk).2.registry
    rw [Steering.registry_score]
    exact h
  | normalize pod scores =>
    show I (Steering.normalize pod scores s.desk).2.registry
    rw [Steering.registry_normalize]
    exact h
  | schedule pod nodes =>
    exact Host.schedule_keeps (Steering.plugin_keeps kept s.view) pod nodes h

/-- A pod that is taken off answers whether it could be, and leaves the registry without it. -/
theorem step_leave (s : Session) (pod : Pod) :
    (s.step (.leave pod)).1 = answer ((leave s.order s.registry pod).map fun _ => ()) (fun _ => .done) ∧
      (s.step (.leave pod)).2.1.registry =
        ((leave s.order s.registry pod).map (·.2)).toOption.getD s.registry := by
  obtain ⟨e, fails, result⟩ | ⟨left, next, result, leaves⟩ := s.desk.leave_cases s.order pod
  · have fails' : leave s.order s.registry pod = .error e := fails
    simp only [step, result, fails']
    exact ⟨rfl, rfl⟩
  · have leaves' : leave s.order s.registry pod = .ok (left, next.registry) := leaves
    simp only [step, result, leaves']
    exact ⟨rfl, rfl⟩

theorem step_leave_of_ok {pod : Pod} {left : Option (String × Roster)} {after : Registry}
    (leaves : leave s.order s.registry pod = .ok (left, after)) :
    (s.step (.leave pod)).1 = .done ∧ (s.step (.leave pod)).2.1 = { s with registry := after } := by
  obtain ⟨answered, left⟩ := step_leave s pod
  rw [leaves] at answered left
  exact ⟨answered, congrArg (fun registry => { s with registry := registry }) left⟩

theorem step_join_of_ok {pod : Pod} {saved : String} {given info joined : Roster}
    {keys : List String} {after : Registry} (asks : s.rosterToJoin saved given keys = .ok info)
    (joins : join s.registry pod info = .ok (joined, after)) :
    (s.step (.join pod saved given keys)).1 = .roster joined ∧
      (s.step (.join pod saved given keys)).2.1 = { s with registry := after } := by
  have joins' : join s.desk.registry pod info = .ok (joined, after) := joins
  obtain ⟨e, fails, _⟩ | ⟨joined', next, result, done⟩ := s.desk.join_cases pod info
  · rw [joins'] at fails
    cases fails
  · obtain ⟨rfl, rfl⟩ := Prod.mk.inj (Except.ok.inj (joins'.symm.trans done))
    simp only [step, asks, result]
    exact ⟨rfl, rfl⟩

/-- The sessions that commands lead to, from an empty one.  Since a command can change the order of
the rosters at any time, the first one is no restriction. -/
inductive Reachable : Session → Prop
  | start : Reachable {}
  | step {s : Session} (command : Command) : Reachable s → Reachable (s.step command).2.1

theorem run_append (s : Session) (first second : List Command) :
    s.run (first ++ second) = (s.run first).run second := by
  induction first generalizing s with
  | nil => rfl
  | cons command first ih => exact ih (s.step command).2.1

theorem run_snoc (s : Session) (commands : List Command) (command : Command) :
    s.run (commands ++ [command]) = ((s.run commands).step command).2.1 :=
  run_append s commands [command]

theorem Reachable.run (h : Reachable s) (commands : List Command) :
    Reachable (s.run commands) := by
  induction commands generalizing s with
  | nil => exact h
  | cons command rest ih => exact ih (h.step command)

/-- **What holds of an empty registry and is kept holds in every reachable session.** -/
theorem Reachable.registry (kept : Registry.Kept I) (start : I ∅) (h : Reachable s) :
    I s.registry := by
  induction h with
  | start => exact start
  | step command _ ih => exact step_keeps kept ih command

theorem Reachable.sound (h : Reachable s) : s.registry.Sound :=
  h.registry Registry.kept_sound .empty

end Session

/-! ## A small shop -/

namespace Shop

/-- A node that the policies of the shop select. -/
def edge : Node where
  name := "edge"
  labels := (∅ : Labels).insert "tier" "edge"

/-- A node that they do not select. -/
def core : Node where
  name := "core"

/-- One of the pods of an application belongs on the edge. -/
def web : Policy where
  name := "web"
  ns := "shop"
  mode := .strict
  podSelector := (∅ : Labels).insert "app" "web"
  nodeSelector := (∅ : Labels).insert "tier" "edge"
  action := .must
  target := .count 1

/-- Half of the pods of another application are better off the edge. -/
def batch : Policy where
  name := "batch"
  ns := "shop"
  mode := .bestEffort
  podSelector := (∅ : Labels).insert "app" "batch"
  nodeSelector := (∅ : Labels).insert "tier" "edge"
  action := .mustNot
  target := .text "50%"

/-- The same as the first, but its target is no percentage. -/
def vague : Policy :=
  { web with name := "vague", target := .text "half" }

/-- A pod of an application. -/
def pod (uid app : String) : Pod where
  name := "pod-" ++ uid
  ns := "shop"
  uid := uid
  labels := (∅ : Labels).insert "app" app

/-- The shop opens with both policies. -/
def opening : List Session.Command :=
  [.catalog (.addPolicy web), .catalog (.addPolicy batch)]

end Shop

/-! ## The bookkeeping -/

namespace Session

/-- **The bookkeeping is right.**  Every roster that operations can make is consistent.  In
every session that commands lead to, each entry of the registry is such a roster and stands
under the namespace and name it carries, and no namespace is kept without entries. -/
theorem bookkeeping :
    (∀ roster : Roster, roster.Obtainable → roster.Consistent) ∧
      ∀ s : Session, s.Reachable →
        (∀ ns name roster, s.registry.get? ns name = some roster →
          roster.Obtainable ∧ roster.Consistent ∧ roster.ns = ns ∧ roster.name = name) ∧
        ∀ ns ∈ s.registry.namespaces, ∃ name roster, s.registry.get? ns name = some roster := by
  refine ⟨fun roster h => h.consistent, fun s h => ⟨?_, ?_⟩⟩
  · intro ns name roster there
    have obtainable := h.sound.obtainable ns name roster there
    exact ⟨obtainable, obtainable.consistent, h.sound.named ns name roster there⟩
  · intro ns listed
    obtain ⟨name, there⟩ := (Namespaced.mem_namespaces ..).mp listed
    obtain ⟨roster, found⟩ := Option.isSome_iff_exists.mp there
    exact ⟨name, roster, found⟩

/-- After the first pod of the shop its roster stands where it should and is consistent. -/
theorem bookkeeping_shop :
    ∃ roster, (run {} (Shop.opening ++ [.schedule (Shop.pod "u" "web") [Shop.edge]])).registry.get?
        "shop" "web" = some roster ∧
      roster.Consistent ∧ roster.ns = "shop" ∧ roster.name = "web" := by
  have there : ((run {} (Shop.opening ++
      [.schedule (Shop.pod "u" "web") [Shop.edge]])).registry.get? "shop" "web").isSome = true := by
    decide +kernel
  obtain ⟨roster, found⟩ := Option.isSome_iff_exists.mp there
  have entry := (bookkeeping.2 _ (Reachable.start.run _)).1 _ _ _ found
  exact ⟨roster, found, entry.2⟩

end Session

end Placement
