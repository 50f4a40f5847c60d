import Placement.Steering

/-!
# Sessions

A session is everything that lasts between decisions: the catalog, the rosters and
the order in which they are gone through, rosters kept for later, and attempts that
are taken through their phases one call at a time.

## Main definitions

* `Session` — the state.
* `Session.Command`, `Session.Answer` — what can be done, and what it answers.
* `Session.step` — doing it.
* `Session.run`, `Session.answers` — doing it for a list of commands.
-/

namespace Placement

/-- Everything that lasts between decisions. -/
structure Session where
  view : View := {}
  registry : Registry := ∅
  /-- The order in which the rosters of a namespace are gone through. -/
  order : Registry.Order := .byName
  /-- Rosters kept for later, by the name they were kept under. -/
  saved : Std.ExtTreeMap String Roster := ∅
  cycles : Std.ExtTreeMap String CycleState := ∅

namespace Session

/-- What can be done in a session: what happens to the catalog, questions, pods that join and
leave, the phases of the plugin for the attempt of that name, and whole attempts. -/
inductive Command where
  | catalog (command : Catalog.Command)
  /-- The catalog cannot be read from now on, or can be again. -/
  | outage (message : Option String)
  /-- The rosters of a namespace are gone through in another order from now on. -/
  | shuffle (order : Registry.Order)
  | policyFor (pod : Pod)
  | policy (ns name : String)
  /-- Ask for the roster of a policy, and keep it under a name. -/
  | rosterOf (policy : Policy) (save : String)
  /-- Put a pod on the roster kept under the name or, if there is none, on the given
  one after the pods with the keys. -/
  | join (pod : Pod) (saved : String) (roster : Roster) (keys : List String)
  /-- Take a pod off the roster that holds it. -/
  | leave (pod : Pod)
  | podsMatching (selector : Labels)
  | pluginName
  /-- Begin an attempt anew. -/
  | newCycle (cycle : String)
  /-- Put a value of another kind where an attempt remembers how far the pod got. -/
  | poisonCycle (cycle : String)
  | preFilter (cycle : String) (pod : Pod)
  | filter (cycle : String) (pod : Pod) (node : Node)
  | preScore (cycle : String) (pod : Pod)
  | score (cycle : String) (pod : Pod) (node : Node)
  | normalize (pod : Pod) (scores : List NodeScore)
  /-- Make one whole attempt. -/
  | schedule (pod : Pod) (nodes : List Node)

/-- What a command answers. -/
inductive Answer where
  | done
  | catalog (answer : Catalog.Answer)
  | failed (error : PlacementError)
  | policy (found : Option Policy)
  | pods (found : List Pod)
  | roster (roster : Roster)
  | text (text : String)
  | status (status : Status)
  | scored (score : Int) (status : Status)
  | normalized (scores : List NodeScore) (status : Status)
  | scheduled (outcome : Except Status Assignment)

/-- The answer of a command that may fail. -/
def answer {α : Type} (result : Except PlacementError α) (wrap : α → Answer) : Answer :=
  match result with
  | .ok a => wrap a
  | .error e => .failed e

/-- The attempt under a name; one that was not begun remembers nothing. -/
def cycle (s : Session) (name : String) : CycleState :=
  s.cycles[name]?.getD ∅

/-- Keeps an attempt under a name. -/
def setCycle (s : Session) (name : String) (state : CycleState) : Session :=
  { s with cycles := s.cycles.insert name state }

/-- The desk of a session, with an empty log. -/
def desk (s : Session) : Desk := { registry := s.registry }

/-- Takes over the rosters of a desk. -/
def take (s : Session) (desk : Desk) : Session :=
  { s with registry := desk.registry }

/-- The roster that a pod is to join: the one kept under the name, or else the given
one after the pods with the keys. -/
def rosterToJoin (s : Session) (saved : String) (roster : Roster) (keys : List String) :
    Except PlacementError Roster :=
  match s.saved[saved]? with
  | some kept => .ok kept
  | none => roster.enlistAll keys

/-- Carries out a command.  Gives the answer, the session afterwards, and the lines
that were logged. -/
def step (s : Session) : Command → Answer × Session × List LogLine
  | .catalog command =>
    let (a, catalog) := s.view.catalog.run command
    (.catalog a, { s with view := { s.view with catalog := catalog } }, [])
  | .outage message => (.done, { s with view := { s.view with outage := message } }, [])
  | .shuffle order => (.done, { s with order := order }, [])
  | .policyFor pod =>
    let (found, desk) := s.desk.policyFor s.view pod
    (answer found .policy, s, desk.log)
  | .policy ns name => (answer (s.view.policy? ns name) .policy, s, [])
  | .rosterOf policy save =>
    let (result, desk) := s.desk.rosterOf policy
    let s := s.take desk
    match result with
    | .ok roster => (.roster roster, { s with saved := s.saved.insert save roster }, desk.log)
    | .error e => (.failed e, s, desk.log)
  | .join pod saved roster keys =>
    match s.rosterToJoin saved roster keys with
    | .error e => (.failed e, s, [])
    | .ok roster =>
      let (result, desk) := s.desk.join pod roster
      (answer result .roster, s.take desk, desk.log)
  | .leave pod =>
    let (result, desk) := s.desk.leave s.order pod
    (answer result fun () => .done, s.take desk, desk.log)
  | .podsMatching selector => (answer (s.view.podsMatching selector) .pods, s, [])
  | .pluginName => (.text Steering.name, s, [])
  | .newCycle cycle => (.done, s.setCycle cycle ∅, [])
  | .poisonCycle cycle =>
    (.done, s.setCycle cycle ((s.cycle cycle).write Steering.stageKey .int (0 : Int)), [])
  | .preFilter cycle pod =>
    let (status, state, desk) := Steering.preFilter s.view pod (s.cycle cycle) s.desk
    (.status status, (s.take desk).setCycle cycle state, desk.log)
  | .filter cycle pod node =>
    let (status, desk) := Steering.filter pod node (s.cycle cycle) s.desk
    (.status status, s.take desk, desk.log)
  | .preScore cycle pod =>
    let (status, state, desk) := Steering.preScore s.view pod (s.cycle cycle) s.desk
    (.status status, (s.take desk).setCycle cycle state, desk.log)
  | .score cycle pod node =>
    let ((score, status), desk) := Steering.score pod node (s.cycle cycle) s.desk
    (.scored score status, s.take desk, desk.log)
  | .normalize pod scores =>
    let ((scaled, status), desk) := Steering.normalize pod scores s.desk
    (.normalized scaled status, s.take desk, desk.log)
  | .schedule pod nodes =>
    let (outcome, desk) := Host.schedule (Steering.plugin s.view) pod nodes s.desk
    (.scheduled outcome, s.take desk, desk.log)

/-- Carries out commands one after the other, and gives the session afterwards. -/
def run (s : Session) : List Command → Session
  | [] => s
  | command :: rest => run (s.step command).2.1 rest

/-- What commands answer, carried out one after the other. -/
def answers (s : Session) : List Command → List Answer
  | [] => []
  | command :: rest => (s.step command).1 :: answers (s.step command).2.1 rest

end Session

end Placement
