import Placement.Proofs.Account
import Placement.Proofs.Failure

/-!
# Verdicts stand

Once the pod of an attempt has joined a roster, the attempt judges and scores nodes by what
it remembers, and by nothing else.  Policies may be edited or dropped, other attempts may put
pods on rosters, and the pod itself may be taken off again: the verdict on a node stays what
it was when the pod joined, until the attempt is begun anew.

## Main definitions

* `Session.stage?`, `Session.decision?` — what an attempt remembers of its pod.
* `Session.Attempting` — an attempt was begun for a pod, and goes on.
* `Session.Command.Looks`, `Session.Command.Restarts` — the commands that look at a pod, and
  those that begin an attempt anew.
* `Session.Judges` — what an attempt says about a node.

What one command leaves of a decision is said by `Session.decision?_step`, what a run leaves
of it by `Session.stage?_run_of_ready`.  The main statement is `Session.verdicts_stand`.
-/

namespace Placement

open Placement.Membership

/-- What was decided for a pod, if it is governed. -/
def Stage.decision? : Stage → Option Decision
  | .ungoverned => none
  | .chosen decision => some decision
  | .committed decision => some decision

namespace Steering

variable {view : View} {pod : Pod} {cycle next : CycleState} {registry after : Registry}
  {status : Status} {decision : Decision}

/-- A decision for a pod that was just looked at is about this pod, which has an identifier. -/
theorem PreFiltered.keyed (h : PreFiltered view pod cycle registry status next after)
    (success : status.isSuccess = true)
    (decided : (stage? next).bind Stage.decision? = some decision) :
    decision.key = pod.uid ∧ pod.uid ≠ "" := by
  cases h with
  | unread => cases success
  | ungoverned => simp [Stage.decision?] at decided
  | keyless => cases success
  | malformed => cases success
  | chosen _ hu =>
    obtain rfl : _ = decision := by simpa [Stage.decision?] using decided
    exact ⟨rfl, hu⟩
  | committed _ hu =>
    obtain rfl : _ = decision := by simpa [Stage.decision?] using decided
    exact ⟨rfl, hu⟩

/-- Looking at the possible nodes makes no decision for another pod. -/
theorem PreScored.key_eq (h : PreScored view pod cycle registry status next after)
    (decided : (stage? next).bind Stage.decision? = some decision) :
    ∃ earlier, (stage? cycle).bind Stage.decision? = some earlier ∧
      decision.key = earlier.key := by
  cases h with
  | missing => exact ⟨decision, decided, rfl⟩
  | ungoverned => exact ⟨decision, decided, rfl⟩
  | settled => exact ⟨decision, decided, rfl⟩
  | unread => exact ⟨decision, decided, rfl⟩
  | lapsed => simp [Stage.decision?] at decided
  | malformed => exact ⟨decision, decided, rfl⟩
  | keyless => exact ⟨decision, decided, rfl⟩
  | @committed earlier _ _ _ _ stage =>
    obtain rfl : _ = decision := by simpa [Stage.decision?] using decided
    exact ⟨earlier, by rw [stage]; rfl, rfl⟩

/-- A policy that is present still is in the catalog. -/
theorem policy?_of_present? {policy : Policy}
    (h : present? view pod decision = .ok (some policy)) :
    view.catalog.policy? policy.ns policy.name = some policy := by
  obtain ⟨sameNs, sameName⟩ := present?_named h
  obtain ⟨_, there⟩ := present?_eq_ok_iff.mp h
  rw [sameNs, sameName]
  exact (Option.filter_eq_some_iff.mp there).1

/-- A pod that has joined when it was looked at is on record as the decision has it, under a
policy of the catalog. -/
theorem PreFiltered.recorded (sound : registry.Sound)
    (h : PreFiltered view pod cycle registry status next after)
    (success : status.isSuccess = true) (joined : stage? next = some (.committed decision)) :
    view.catalog.policy? decision.policy.ns decision.policy.name = some decision.policy ∧
      after.get? decision.policy.ns decision.policy.name = some decision.roster := by
  cases h with
  | unread => cases success
  | ungoverned => simp at joined
  | keyless => cases success
  | malformed => cases success
  | chosen => simp at joined
  | committed found hu _ given joins =>
    obtain rfl : _ = decision := by simpa using joined
    obtain ⟨_, rfl⟩ := admission_of_join sound hu given joins
    obtain ⟨_, _, there, _⟩ := View.policyFor_eq_some found
    exact ⟨there, by simp [Namespaced.get?_insert]⟩

/-- A pod that has joined when the possible nodes were looked at is on record as the decision
has it, under a policy of the catalog. -/
theorem PreScored.recorded (sound : registry.Sound)
    (h : PreScored view pod cycle registry status next after)
    (joined : stage? next = some (.committed decision))
    (fresh : ∀ earlier, stage? cycle ≠ some (.committed earlier)) :
    view.catalog.policy? decision.policy.ns decision.policy.name = some decision.policy ∧
      after.get? decision.policy.ns decision.policy.name = some decision.roster := by
  cases h with
  | missing => exact absurd joined (fresh decision)
  | ungoverned => exact absurd joined (fresh decision)
  | settled => exact absurd joined (fresh decision)
  | unread => exact absurd joined (fresh decision)
  | lapsed => simp at joined
  | malformed => exact absurd joined (fresh decision)
  | keyless => exact absurd joined (fresh decision)
  | committed _ found hu given joins =>
    obtain rfl : _ = decision := by simpa using joined
    obtain ⟨_, rfl⟩ := admission_of_join sound hu given joins
    exact ⟨policy?_of_present? found, by simp [Namespaced.get?_insert]⟩

end Steering

/-! ## What an attempt remembers -/

namespace Session

variable {s : Session} {cycle : String} {command : Command} {decision : Decision} {stage : Stage}

/-- How far the pod of an attempt got, if the attempt remembers it. -/
def stage? (s : Session) (cycle : String) : Option Stage :=
  Steering.stage? (s.cycle cycle)

/-- What an attempt remembers to be decided for its pod. -/
def decision? (s : Session) (cycle : String) : Option Decision :=
  (s.stage? cycle).bind Stage.decision?

/-- The command lets the plugin look at a pod, before any node or with the possible ones. -/
def Command.Looks (cycle : String) : Command → Prop
  | .preFilter name _ => name = cycle
  | .preScore name _ => name = cycle
  | _ => False

/-- The command begins an attempt anew, or spoils what it remembers. -/
def Command.Restarts (cycle : String) : Command → Prop
  | .newCycle name => name = cycle
  | .poisonCycle name => name = cycle
  | .preFilter name _ => name = cycle
  | _ => False

theorem cycle_setCycle (s : Session) (name other : String) (state : CycleState) :
    (s.setCycle name state).cycle other = if name = other then state else s.cycle other := by
  simp only [cycle, setCycle, Std.ExtTreeMap.getElem?_insert, Std.LawfulEqCmp.compare_eq_iff_eq]
  split <;> rfl

/-- A command that does not restart an attempt leaves what it remembers alone, unless it looks
at the possible nodes for it. -/
theorem cycle_step (command : Command) (goesOn : ¬command.Restarts cycle)
    (other : ∀ pod, command ≠ .preScore cycle pod) :
    (s.step command).2.1.cycle cycle = s.cycle cycle := by
  cases command with
  | newCycle name => exact (cycle_setCycle ..).trans (if_neg goesOn)
  | poisonCycle name => exact (cycle_setCycle ..).trans (if_neg goesOn)
  | preFilter name pod => exact (cycle_setCycle ..).trans (if_neg goesOn)
  | preScore name pod =>
    have differs : name ≠ cycle := by
      rintro rfl
      exact other pod rfl
    exact (cycle_setCycle ..).trans (if_neg differs)
  | rosterOf policy save =>
    simp only [step]
    split <;> rfl
  | join pod saved roster keys =>
    simp only [step]
    split <;> rfl
  | _ => rfl

/-- The stage after the possible nodes were looked at is that of the phase. -/
theorem stage?_preScore (s : Session) (cycle : String) (pod : Pod) :
    (s.step (.preScore cycle pod)).2.1.stage? cycle =
      Steering.stage? (Steering.preScore s.view pod (s.cycle cycle) s.desk).2.1 :=
  congrArg Steering.stage? ((cycle_setCycle ..).trans (if_pos rfl))

/-- The stage after a pod was looked at is that of the phase. -/
theorem stage?_preFilter (s : Session) (cycle : String) (pod : Pod) :
    (s.step (.preFilter cycle pod)).2.1.stage? cycle =
      Steering.stage? (Steering.preFilter s.view pod (s.cycle cycle) s.desk).2.1 :=
  congrArg Steering.stage? ((cycle_setCycle ..).trans (if_pos rfl))

/-- An attempt that is begun anew remembers nothing. -/
theorem stage?_newCycle (s : Session) (cycle : String) :
    (s.step (.newCycle cycle)).2.1.stage? cycle = none :=
  congrArg Steering.stage? ((cycle_setCycle ..).trans (if_pos rfl))

/-- An attempt that is spoiled has no stage to remember. -/
theorem stage?_poisonCycle (s : Session) (cycle : String) :
    (s.step (.poisonCycle cycle)).2.1.stage? cycle = none := by
  have spoiled := congrArg Steering.stage?
    ((cycle_setCycle s cycle cycle ((s.cycle cycle).write Steering.stageKey .int
      (0 : Int))).trans (if_pos rfl))
  exact spoiled.trans ((CycleState.read_write ..).trans
    ((if_pos rfl).trans (dif_neg (by decide))))

/-- **A command that does not restart an attempt makes no decision for another pod.** -/
theorem decision?_step (goesOn : ¬command.Restarts cycle)
    (decided : (s.step command).2.1.decision? cycle = some decision) :
    ∃ earlier, s.decision? cycle = some earlier ∧ decision.key = earlier.key := by
  by_cases looks : ∃ pod, command = .preScore cycle pod
  · obtain ⟨pod, rfl⟩ := looks
    rw [decision?, stage?_preScore] at decided
    exact (Steering.preScore_spec s.view pod (s.cycle cycle) s.desk).key_eq decided
  · have same := cycle_step (s := s) command goesOn fun pod is => looks ⟨pod, is⟩
    rw [decision?, stage?, same] at decided
    exact ⟨decision, decided, rfl⟩

/-- A command that does not restart an attempt leaves it as it is once there is no policy to come
back to. -/
theorem stage?_step (goesOn : ¬command.Restarts cycle) (reached : s.stage? cycle = some stage)
    (ready : ∀ decision, stage ≠ .chosen decision) :
    (s.step command).2.1.stage? cycle = some stage := by
  by_cases looks : ∃ pod, command = .preScore cycle pod
  · obtain ⟨pod, rfl⟩ := looks
    have idle : Steering.preScore s.view pod (s.cycle cycle) s.desk =
        (.success, s.cycle cycle, s.desk) :=
      Steering.preScore_of_ready reached ready s.desk
    rw [stage?_preScore, idle]
    exact reached
  · have same := cycle_step (s := s) command goesOn fun pod is => looks ⟨pod, is⟩
    rw [stage?, same]
    exact reached

/-- **Once there is no policy to come back to, an attempt remembers what it does until it is
restarted.** -/
theorem stage?_run_of_ready (reached : s.stage? cycle = some stage)
    (ready : ∀ decision, stage ≠ .chosen decision) (commands : List Command)
    (goesOn : ∀ command ∈ commands, ¬command.Restarts cycle) :
    (s.run commands).stage? cycle = some stage := by
  induction commands generalizing s with
  | nil => exact reached
  | cons command rest ih =>
    obtain ⟨first, others⟩ := List.forall_mem_cons.mp goesOn
    exact ih (stage?_step first reached ready) others

/-- Once the pod has joined, an attempt remembers this. -/
theorem stage?_run (joined : s.stage? cycle = some (.committed decision))
    (commands : List Command) (goesOn : ∀ command ∈ commands, ¬command.Restarts cycle) :
    (s.run commands).stage? cycle = some (.committed decision) :=
  stage?_run_of_ready joined (by simp) commands goesOn

/-! ## The pod of an attempt -/

/-- An attempt was begun for a pod, and goes on: since the pod was looked at, the attempt was
not restarted.  Looking at another pod does not count where it fails. -/
inductive Attempting (cycle : String) (pod : Pod) : Session → Prop
  | begin {s : Session} :
      s.Reachable → (s.step (.preFilter cycle pod)).1.isFailure = false →
      Attempting cycle pod (s.step (.preFilter cycle pod)).2.1
  | goOn {s : Session} (command : Command) :
      Attempting cycle pod s → ¬command.Restarts cycle →
      Attempting cycle pod (s.step command).2.1
  /-- Another pod cannot be looked at. -/
  | fail {s : Session} (other : Pod) :
      Attempting cycle pod s → (s.step (.preFilter cycle other)).1.isFailure = true →
      Attempting cycle pod (s.step (.preFilter cycle other)).2.1

/-- What an attempt remembers to be decided is about the pod that it was begun for, and that pod
has an identifier. -/
theorem Attempting.keyed {pod : Pod} (h : Attempting cycle pod s)
    (decided : s.decision? cycle = some decision) :
    decision.key = pod.uid ∧ pod.uid ≠ "" := by
  induction h generalizing decision with
  | @begin s reached goes =>
    rw [decision?, stage?_preFilter] at decided
    refine (Steering.preFilter_spec s.view pod (s.cycle cycle) s.desk).keyed ?_ decided
    simpa [step, Answer.isFailure] using goes
  | goOn command _ goesOn ih =>
    obtain ⟨earlier, found, same⟩ := decision?_step goesOn decided
    exact (ih found).imp_left same.trans
  | fail other _ fails ih =>
    rw [decision?, stage?, cycle_of_failure _ fails] at decided
    exact ih decided

theorem Attempting.key_eq {pod : Pod} (h : Attempting cycle pod s)
    (decided : s.decision? cycle = some decision) : decision.key = pod.uid :=
  (h.keyed decided).1

theorem Attempting.reachable {pod : Pod} (h : Attempting cycle pod s) : s.Reachable := by
  induction h with
  | begin reached _ => exact reached.step _
  | goOn command _ _ ih => exact ih.step command
  | fail other _ _ ih => exact ih.step _

/-- **What an attempt remembers to be decided was decided for some pod that it was begun
for.** -/
theorem Reachable.exists_attempting (h : s.Reachable)
    (decided : s.decision? cycle = some decision) : ∃ pod, Attempting cycle pod s := by
  induction h generalizing decision with
  | start =>
    have nothing : ({} : Session).stage? cycle = none := by
      simp only [stage?, Session.cycle, Std.ExtTreeMap.getElem?_empty, Option.getD_none]
      exact CycleState.read_empty ..
    rw [decision?, nothing] at decided
    cases decided
  | @step s command reached ih =>
    by_cases goesOn : command.Restarts cycle
    · cases command with
      | newCycle name =>
        obtain rfl : name = cycle := goesOn
        rw [decision?, stage?_newCycle] at decided
        cases decided
      | poisonCycle name =>
        obtain rfl : name = cycle := goesOn
        rw [decision?, stage?_poisonCycle] at decided
        cases decided
      | preFilter name pod =>
        obtain rfl : name = cycle := goesOn
        cases goes : (s.step (.preFilter name pod)).1.isFailure with
        | false => exact ⟨pod, .begin reached goes⟩
        | true =>
          rw [decision?, stage?, cycle_of_failure _ goes] at decided
          obtain ⟨earlier, attempting⟩ := ih decided
          exact ⟨earlier, .fail pod attempting goes⟩
      | _ => exact goesOn.elim
    · obtain ⟨earlier, found, _⟩ := decision?_step goesOn decided
      obtain ⟨pod, attempting⟩ := ih found
      exact ⟨pod, .goOn command attempting goesOn⟩

/-! ## The verdict on a node -/

/-- An attempt lets a node through and scores it 100, or rules it out and scores it 0. -/
def Judges (s : Session) (cycle : String) (pod : Pod) (node : Node) (right : Bool) : Prop :=
  (∃ report, (s.step (.filter cycle pod node)).1 = .status report ∧ report.isSuccess = right) ∧
    (s.step (.score cycle pod node)).1 = .scored (if right then 100 else 0) .success

theorem answer_filter (s : Session) (cycle : String) (pod : Pod) (node : Node) :
    (s.step (.filter cycle pod node)).1 = .status (Steering.verdict (s.stage? cycle) node) :=
  congrArg Answer.status (Steering.filter_fst pod node (s.cycle cycle) s.desk)

theorem answer_score (s : Session) (cycle : String) (pod : Pod) (node : Node) :
    (s.step (.score cycle pod node)).1 =
      .scored (Steering.rating pod (s.stage? cycle) node).1
        (Steering.rating pod (s.stage? cycle) node).2 := by
  rw [stage?, ← Steering.score_fst pod node (s.cycle cycle) s.desk]
  rfl

/-- An attempt whose pod has joined judges by the decision. -/
theorem judges_of_committed (joined : s.stage? cycle = some (.committed decision)) (pod : Pod)
    (node : Node) : s.Judges cycle pod node (decision.agrees node) := by
  refine ⟨⟨_, answer_filter s cycle pod node, ?_⟩, ?_⟩
  · rw [joined, Steering.verdict]
    cases decision.agrees node <;> rfl
  · rw [answer_score, joined]
    rfl

/-- When an attempt's pod joins, it is on record as the decision has it, under a policy of the
catalog. -/
theorem recorded_of_looks (h : s.Reachable) (looks : command.Looks cycle)
    (goes : (s.step command).1.isFailure = false)
    (joined : (s.step command).2.1.stage? cycle = some (.committed decision))
    (fresh : command.Restarts cycle ∨ ∀ earlier, s.stage? cycle ≠ some (.committed earlier)) :
    s.view.catalog.policy? decision.policy.ns decision.policy.name = some decision.policy ∧
      (s.step command).2.1.registry.get? decision.policy.ns decision.policy.name =
        some decision.roster := by
  cases command with
  | preFilter name pod =>
    obtain rfl : name = cycle := looks
    rw [stage?_preFilter] at joined
    refine (Steering.preFilter_spec s.view pod (s.cycle name) s.desk).recorded h.sound ?_ joined
    simpa [step, Answer.isFailure] using goes
  | preScore name pod =>
    obtain rfl : name = cycle := looks
    rw [stage?_preScore] at joined
    refine (Steering.preScore_spec s.view pod (s.cycle name) s.desk).recorded h.sound joined ?_
    exact fresh.resolve_left id
  | _ => exact looks.elim

/-- **Verdicts stand.**  When a look at a pod has gone through and left an attempt with a pod
that has joined, then after any further commands that do not restart the attempt, nodes are
judged as right after that look: those are let through, and scored 100, on which the node
selector of the policy agrees with the claim to the pod, and the others are ruled out and
scored 0.  If it was this look with which the pod joined, the policy is the one that the
catalog held, and the claim the one that the registry held then. -/
theorem verdicts_stand (h : s.Reachable) (looks : command.Looks cycle)
    (goes : (s.step command).1.isFailure = false)
    (joined : (s.step command).2.1.stage? cycle = some (.committed decision))
    (later : List Command) (goesOn : ∀ command ∈ later, ¬command.Restarts cycle) :
    let now := (s.step command).2.1
    (∀ (pod : Pod) (node : Node),
      ((now.run later).step (.filter cycle pod node)).1 = (now.step (.filter cycle pod node)).1 ∧
      ((now.run later).step (.score cycle pod node)).1 = (now.step (.score cycle pod node)).1 ∧
      (now.run later).Judges cycle pod node
        (node.labels.satisfies decision.policy.nodeSelector ==
          decision.roster.manages decision.key)) ∧
    ∃ pod, Attempting cycle pod now ∧ decision.key = pod.uid ∧
      (command.Restarts cycle ∨ (∀ earlier, s.stage? cycle ≠ some (.committed earlier)) →
        s.view.catalog.policy? decision.policy.ns decision.policy.name = some decision.policy ∧
        now.registry.claims decision.policy.ns decision.policy.name pod.uid =
          decision.roster.manages decision.key) := by
  intro now
  have stays : (now.run later).stage? cycle = some (.committed decision) :=
    stage?_run joined later goesOn
  refine ⟨fun pod node => ⟨?_, ?_, judges_of_committed stays pod node⟩, ?_⟩
  · rw [answer_filter, answer_filter, stays, joined]
  · rw [answer_score, answer_score, stays, joined]
  · have decided : now.decision? cycle = some decision := by
      rw [decision?, joined]
      rfl
    obtain ⟨pod, attempting⟩ := (h.step command).exists_attempting decided
    have key := attempting.key_eq decided
    refine ⟨pod, attempting, key, fun fresh => ?_⟩
    obtain ⟨there, recorded⟩ := recorded_of_looks h looks goes joined fresh
    exact ⟨there, by rw [Registry.claims, recorded, key]; rfl⟩

end Session

/-! ## A pod whose policy goes -/

namespace Shop

/-- A web pod is looked at, and has joined. -/
def admitted : Session.Command :=
  .preFilter "first" (pod "u" "web")

/-- Then its policy goes, the pod is taken off, and the attempt goes on. -/
def upheaval : List Session.Command :=
  [.catalog (.deletePolicy "shop" "web"), .leave (pod "u" "web"),
    .preScore "first" (pod "u" "web"), .schedule (pod "v" "web") [edge, core]]

/-- What is decided for the pod. -/
def decisionU : Decision where
  policy := web
  roster :=
    { ns := "shop", name := "web", action := .must, target := .count 1
      qualified := (∅ : Std.ExtTreeSet String).insert "u"
      managed := (∅ : Std.ExtTreeSet String).insert "u"
      targetMet := true }
  key := "u"

/-- The pod is judged to belong on the edge, and not elsewhere, as when it joined. -/
theorem verdicts_upheaval :
    let now := ((Session.run {} opening).step admitted).2.1
    (now.run upheaval).registry.claims "shop" "web" "u" = false ∧
      (now.run upheaval).Judges "first" (pod "u" "web") edge true ∧
      (now.run upheaval).Judges "first" (pod "u" "web") core false := by
  intro now
  have joined : now.stage? "first" = some (.committed decisionU) := by decide +kernel
  have goesOn : ∀ command ∈ upheaval, ¬command.Restarts "first" := by
    simp [upheaval, Session.Command.Restarts]
  have looks : admitted.Looks "first" := rfl
  have stands := (Session.verdicts_stand (Session.Reachable.start.run opening) looks
    (by decide +kernel) joined upheaval goesOn).1 (pod "u" "web")
  have right : (edge.labels.satisfies web.nodeSelector == decisionU.roster.manages "u") = true := by
    decide +kernel
  have wrong :
      (core.labels.satisfies web.nodeSelector == decisionU.roster.manages "u") = false := by
    decide +kernel
  exact ⟨by decide +kernel, right ▸ (stands edge).2.2, wrong ▸ (stands core).2.2⟩

end Shop

end Placement
