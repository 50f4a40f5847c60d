import Mathlib.Data.List.Induction
import Placement.Proofs.Session

/-!
# An account of the memberships

Attempts may be under way side by side, each with a roster that it was given at some time
before.  All the same no command undoes what another has put on record: a command puts on
record what it says it does, taking a pod off strikes one membership of that pod, and
nothing else changes who is on which roster.

## Main definitions

* `Session.entryOf` — the membership that a command puts on record.
* `Session.Accounts` — what a command may do to the memberships.
* `Session.Enters` — in a run, a command puts a membership on record.

The main statements are `Session.step_accounts` for one command, and
`Session.memberships_accounted` and `Session.mem_memberships_run` for the commands of a run.
-/

namespace Placement

open Placement.Membership

variable {s : Session}

namespace Steering

/-- The membership that looking at a pod puts on record: that of a strict policy which
governs it. -/
def preFilterEntry (view : View) (pod : Pod) : Option (String × String × String) :=
  match view.policyFor pod with
  | .ok (some policy) =>
    if policy.mode = .strict then some (policy.ns, policy.name, pod.uid) else none
  | _ => none

/-- The membership that looking at the possible nodes puts on record: that of a policy
which was only chosen so far, is there still, and selects the pod still. -/
def preScoreEntry (view : View) (pod : Pod) (cycle : CycleState) :
    Option (String × String × String) :=
  match stage? cycle with
  | some (.chosen decision) =>
    match present? view pod decision with
    | .ok (some _) => some (decision.policy.ns, decision.policy.name, pod.uid)
    | _ => none
  | _ => none

/-- A policy that is present still is the chosen one, as far as its name goes. -/
theorem present?_named {view : View} {pod : Pod} {decision : Decision} {policy : Policy}
    (h : present? view pod decision = .ok (some policy)) :
    policy.ns = decision.policy.ns ∧ policy.name = decision.policy.name := by
  obtain ⟨_, there⟩ := present?_eq_ok_iff.mp h
  exact view.catalog.policies_named _ _ _ (Option.filter_eq_some_iff.mp there).1

variable {view : View} {pod : Pod} {cycle next : CycleState} {registry after : Registry}
  {status : Status}

/-- Looking at a pod puts its entry on record when it succeeds, and nothing when it fails. -/
theorem PreFiltered.gains (sound : registry.Sound)
    (h : PreFiltered view pod cycle registry status next after) :
    registry.Gains after (if status.isSuccess then preFilterEntry view pod else none) := by
  cases h with
  | unread found => simp [Registry.Gains]
  | ungoverned found => simp [Registry.Gains, preFilterEntry, found]
  | keyless found hu => simp [Registry.Gains]
  | malformed found hu fails => simp [Registry.Gains]
  | chosen found hu mode given => simp [Registry.Gains, preFilterEntry, found, mode]
  | committed found hu mode given joins =>
    obtain ⟨admitted, rfl⟩ := admission_of_join sound hu given joins
    simp [Registry.Gains, preFilterEntry, found, mode, memberships_admission admitted]

/-- Looking at the possible nodes puts its entry on record when it succeeds, and nothing
when it fails. -/
theorem PreScored.gains (sound : registry.Sound)
    (h : PreScored view pod cycle registry status next after) :
    registry.Gains after (if status.isSuccess then preScoreEntry view pod cycle else none) := by
  cases h with
  | missing stage => simp [Registry.Gains, stageMissing]
  | ungoverned stage => simp [Registry.Gains, preScoreEntry, stage]
  | settled stage => simp [Registry.Gains, preScoreEntry, stage]
  | unread stage found => simp [Registry.Gains]
  | lapsed stage found => simp [Registry.Gains, preScoreEntry, stage, found]
  | malformed stage found fails => simp [Registry.Gains]
  | keyless stage found given hu => simp [Registry.Gains]
  | committed stage found hu given joins =>
    obtain ⟨admitted, rfl⟩ := admission_of_join sound hu given joins
    obtain ⟨sameNs, sameName⟩ := present?_named found
    have gained := memberships_admission admitted
    rw [sameNs, sameName] at gained
    simp [Registry.Gains, preScoreEntry, stage, found, sameNs, sameName, gained]

end Steering

namespace Session

/-- The membership that a command puts on record if it answers so. -/
def entryOf (s : Session) : Command → Answer → Option (String × String × String)
  | .join pod saved roster keys, .roster _ =>
    (s.rosterToJoin saved roster keys).toOption.map fun info => (info.ns, info.name, pod.uid)
  | .preFilter _ pod, .status status =>
    if status.isSuccess then Steering.preFilterEntry s.view pod else none
  | .preScore cycle pod, .status status =>
    if status.isSuccess then Steering.preScoreEntry s.view pod (s.cycle cycle) else none
  | .schedule pod nodes, .scheduled _ => Steering.commitment s.view pod nodes
  | _, _ => none

/-- What a command that answers so may do to the memberships.  Taking a pod off strikes one
membership of that pod at most; every other command puts its entry on record if it has one,
and changes nothing else. -/
def Accounts (s : Session) (after : Registry) : Command → Answer → Prop
  | .leave pod, .done =>
    ∃ name, after.memberships = s.registry.memberships \ {(pod.ns, name, pod.uid)}
  | command, answer => s.registry.Gains after (s.entryOf command answer)

/-- **Every command is accounted for**, whatever attempts are under way. -/
theorem step_accounts (sound : s.registry.Sound) (command : Command) :
    s.Accounts (s.step command).2.1.registry command (s.step command).1 := by
  cases command with
  | catalog command => rfl
  | outage message => rfl
  | shuffle order => rfl
  | policyFor pod => rfl
  | policy ns name => rfl
  | rosterOf policy save =>
    obtain ⟨next, result, entered⟩ := s.desk.rosterOf_eq policy
    have same : next.registry.memberships = s.registry.memberships := by
      rw [entered]
      exact memberships_rosterOf s.registry policy
    simp only [step, result]
    split <;> exact same
  | join pod saved roster keys =>
    cases given : s.rosterToJoin saved roster keys with
    | error e =>
      simp only [step, given]
      rfl
    | ok info =>
      obtain ⟨e, _, result⟩ | ⟨joined, next, result, joins⟩ := s.desk.join_cases pod info
      · simp only [step, given, result]
        rfl
      · have gained : s.registry.Gains next.registry (some (info.ns, info.name, pod.uid)) :=
          memberships_join joins
        simp only [step, given, result, answer, Accounts, entryOf]
        exact gained
  | leave pod =>
    obtain ⟨e, _, result⟩ | ⟨left, next, result, leaves⟩ := s.desk.leave_cases s.order pod
    · simp only [step, result]
      rfl
    · obtain ⟨name, struck, _⟩ := memberships_leave leaves
      simp only [step, result]
      exact ⟨name, struck⟩
  | podsMatching selector => rfl
  | pluginName => rfl
  | newCycle cycle => rfl
  | poisonCycle cycle => rfl
  | preFilter cycle pod =>
    exact (Steering.preFilter_spec s.view pod (s.cycle cycle) s.desk).gains sound
  | filter cycle pod node =>
    have same := Steering.registry_filter pod node (s.cycle cycle) s.desk
    exact congrArg Registry.memberships same
  | preScore cycle pod =>
    exact (Steering.preScore_spec s.view pod (s.cycle cycle) s.desk).gains sound
  | score cycle pod node =>
    have same := Steering.registry_score pod node (s.cycle cycle) s.desk
    exact congrArg Registry.memberships same
  | normalize pod scores =>
    have same := Steering.registry_normalize pod scores s.desk
    exact congrArg Registry.memberships same
  | schedule pod nodes =>
    exact (Steering.schedule_spec s.view pod nodes s.desk sound).gains

/-- **No membership is lost or invented.**  At first there is none, and after every run,
with attempts interleaved in any way and rosters held from any time before, the next
command is accounted for. -/
theorem memberships_accounted :
    ({} : Session).registry.memberships = ∅ ∧
      ∀ (earlier : List Command) (command : Command), (run {} earlier).Accounts
        ((run {} earlier).step command).2.1.registry command ((run {} earlier).step command).1 :=
  ⟨Registry.memberships_empty, fun earlier command =>
    step_accounts (Reachable.start.run earlier).sound command⟩

/-! ## Memberships in a run -/

/-- A command takes a pod off. -/
def Command.TakesOff (command : Command) (ns key : String) : Prop :=
  ∃ pod, command = .leave pod ∧ pod.ns = ns ∧ pod.uid = key

/-- After some commands, the next one puts a membership on record. -/
def Enters (earlier : List Command) (command : Command) (t : String × String × String) : Prop :=
  (run {} earlier).entryOf command ((run {} earlier).step command).1 = some t

/-- A command takes a pod off, or it puts its entry on record. -/
theorem Accounts.cases {after : Registry} {command : Command} {answer : Answer}
    (h : s.Accounts after command answer) :
    (∃ pod name, command = .leave pod ∧
      after.memberships = s.registry.memberships \ {(pod.ns, name, pod.uid)}) ∨
      s.registry.Gains after (s.entryOf command answer) := by
  unfold Accounts at h
  split at h
  next pod =>
    obtain ⟨name, struck⟩ := h
    exact .inl ⟨pod, name, rfl, struck⟩
  next => exact .inr h

/-- What a command puts on record is on record afterwards. -/
theorem mem_memberships_of_entry (sound : s.registry.Sound) {command : Command}
    {t : String × String × String} (h : s.entryOf command (s.step command).1 = some t) :
    t ∈ (s.step command).2.1.registry.memberships := by
  obtain ⟨pod, name, rfl, _⟩ | gains := (step_accounts sound command).cases
  · simp [entryOf] at h
  · rw [h] at gains
    exact gains ▸ Set.mem_insert t s.registry.memberships

/-- What is on record after a command was so before, or the command has put it there. -/
theorem entry_or_mem_memberships (sound : s.registry.Sound) {command : Command}
    {t : String × String × String} (h : t ∈ (s.step command).2.1.registry.memberships) :
    s.entryOf command (s.step command).1 = some t ∨ t ∈ s.registry.memberships := by
  obtain ⟨pod, name, _, struck⟩ | gains := (step_accounts sound command).cases
  · rw [struck] at h
    exact .inr h.1
  · cases entry : s.entryOf command (s.step command).1 with
    | none =>
      rw [entry] at gains
      exact .inr (gains ▸ h)
    | some t' =>
      rw [entry] at gains
      have there : t ∈ insert t' s.registry.memberships := gains ▸ h
      rcases there with rfl | there
      · exact .inl rfl
      · exact .inr there

/-- A command that does not take the pod off keeps its memberships. -/
theorem mem_memberships_step (sound : s.registry.Sound) {command : Command}
    {ns name key : String} (there : (ns, name, key) ∈ s.registry.memberships)
    (stays : ¬command.TakesOff ns key) :
    (ns, name, key) ∈ (s.step command).2.1.registry.memberships := by
  obtain ⟨pod, struck, rfl, account⟩ | gains := (step_accounts sound command).cases
  · rw [account]
    refine ⟨there, fun same => stays ⟨pod, rfl, ?_⟩⟩
    obtain ⟨rfl, _, rfl⟩ := Prod.mk.inj same
    exact ⟨rfl, rfl⟩
  · exact gains.subset there

/-- **What is on record stays so until the pod is taken off.** -/
theorem mem_memberships_run (h : Reachable s) {ns name key : String}
    (there : (ns, name, key) ∈ s.registry.memberships) (commands : List Command)
    (stays : ∀ command ∈ commands, ¬command.TakesOff ns key) :
    (ns, name, key) ∈ (s.run commands).registry.memberships := by
  induction commands generalizing s with
  | nil => exact there
  | cons command rest ih =>
    obtain ⟨first, others⟩ := List.forall_mem_cons.mp stays
    exact ih (h.step command) (mem_memberships_step h.sound there first) others

end Session

end Placement
