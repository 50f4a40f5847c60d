import Placement.Proofs.Session
import Placement.Watch.Watcher

/-!
# The two streams do not disturb each other

Of an event a follower uses only the change that it tells, if it tells one.  A change of a
policy touches the policies of the catalog and reads nothing else; a change of a pod touches
the pods of the catalog and the rosters, and reads nothing else.  So it does not matter how
the messages of one stream fall between those of the other.

## Main definitions

* `Event.policyChange?`, `Event.podChange?` — the change that an event tells.
* `Follower.takePolicy`, `Follower.takePod` — following a change.
* `Watcher.receiveAll` — following messages one after the other.
* `policyEvents`, `podEvents` — the events of a stream, over all its messages.

The main statements are `follower_receiveAll`, which takes the streams apart, and
`receiveAll_confluent`.
-/

namespace Placement.Watch

/-! ## What an event tells -/

/-- A change of a policy. -/
inductive PolicyChange where
  /-- A policy is written, over another version or none that can be read. -/
  | put (policy : Policy) (before : Option Policy)
  | gone (ns name : String)
  deriving DecidableEq

/-- A change of a pod. -/
inductive PodChange where
  | put (pod : Pod)
  | gone (pod : Pod)
  deriving DecidableEq

/-- The change of a policy that an event tells.  It tells none when it writes a value that
does not decode, or deletes a key that is not one of a policy. -/
def Event.policyChange? (start : String) (event : Event) : Option PolicyChange :=
  match event.change with
  | .put =>
    (event.now.bind KeyValue.policy?).map fun policy =>
      .put policy (event.before.bind KeyValue.policy?)
  | .delete =>
    (event.now.bind fun pair => parsePolicyKey (Text.Utf8.toText pair.key) start).map
      fun (ns, name) => .gone ns name

/-- The change of a pod that an event tells.  It tells none when it writes a value that does
not decode, or deletes a key whose value before is missing or does not decode. -/
def Event.podChange? (event : Event) : Option PodChange :=
  match event.change with
  | .put => (event.now.bind KeyValue.pod?).map .put
  | .delete => (event.before.bind KeyValue.pod?).map .gone

namespace Follower

variable (f : Follower) (start : String)

/-- Follows a change of a policy. -/
def takePolicy (f : Follower) : PolicyChange → Follower
  | .put policy before => f.policyPut policy before
  | .gone ns name => { f with catalog := (f.catalog.deletePolicy ns name).2 }

/-- Follows a change of a pod. -/
def takePod (f : Follower) : PodChange → Follower
  | .put pod => { f with catalog := (f.catalog.putPod pod).2 }
  | .gone pod => f.podGone pod

/-- An event is followed by following the change that it tells. -/
theorem policyEvent_eq (event : Event) :
    f.policyEvent start event = (event.policyChange? start).elim f f.takePolicy := by
  obtain ⟨change, now, before⟩ := event
  cases now with
  | none => cases change <;> rfl
  | some pair =>
    cases change with
    | put =>
      simp only [policyEvent, Event.policyChange?, Option.bind_some]
      cases pair.policy? <;> rfl
    | delete =>
      simp only [policyEvent, policyGone, Event.policyChange?, Option.bind_some]
      cases parsePolicyKey (Text.Utf8.toText pair.key) start <;> rfl

theorem podEvent_eq (event : Event) :
    f.podEvent event = event.podChange?.elim f f.takePod := by
  obtain ⟨change, now, before⟩ := event
  cases change with
  | put =>
    simp only [podEvent, Event.podChange?]
    cases now.bind KeyValue.pod? <;> rfl
  | delete =>
    simp only [podEvent, Event.podChange?]
    cases before.bind KeyValue.pod? <;> rfl

/-! ## What a change leaves alone -/

@[simp] theorem registry_takePolicy (change : PolicyChange) :
    (f.takePolicy change).registry = f.registry := by
  cases change <;> rfl

@[simp] theorem pods_takePolicy (change : PolicyChange) :
    (f.takePolicy change).catalog.pods = f.catalog.pods := by
  cases change with
  | put policy before =>
    cases before with
    | none => rfl
    | some old =>
      simp only [takePolicy, policyPut, Catalog.updatePolicy]
      split <;> rfl
  | gone ns name => rfl

@[simp] theorem policies_takePod (change : PodChange) :
    (f.takePod change).catalog.policies = f.catalog.policies := by
  cases change <;> rfl

/-- **A change of a policy and a change of a pod can be followed in either order.** -/
theorem takePod_takePolicy (policy : PolicyChange) (pod : PodChange) :
    (f.takePolicy policy).takePod pod = (f.takePod pod).takePolicy policy := by
  cases policy with
  | put policy before =>
    cases before with
    | none => cases pod <;> rfl
    | some old =>
      -- Whether the policy was renamed is asked of the change, not of the catalog.
      by_cases same : old.ns = policy.ns ∧ old.name = policy.name
      · simp only [takePolicy, policyPut, Catalog.updatePolicy, if_pos same]
        cases pod <;> rfl
      · simp only [takePolicy, policyPut, Catalog.updatePolicy, if_neg same]
        cases pod <;> rfl
  | gone ns name => cases pod <;> rfl

/-! ## Following many changes -/

/-- Follows changes of policies one after the other. -/
def takePolicies (changes : List PolicyChange) : Follower :=
  changes.foldl takePolicy f

/-- Follows changes of pods one after the other. -/
def takePods (changes : List PodChange) : Follower :=
  changes.foldl takePod f

theorem takePolicies_append (changes later : List PolicyChange) :
    f.takePolicies (changes ++ later) = (f.takePolicies changes).takePolicies later :=
  List.foldl_append

theorem takePods_append (changes later : List PodChange) :
    f.takePods (changes ++ later) = (f.takePods changes).takePods later :=
  List.foldl_append

theorem takePod_takePolicies (policies : List PolicyChange) (pod : PodChange) :
    (f.takePolicies policies).takePod pod = (f.takePod pod).takePolicies policies := by
  induction policies generalizing f with
  | nil => rfl
  | cons policy policies ih =>
    calc ((f.takePolicy policy).takePolicies policies).takePod pod
        = ((f.takePolicy policy).takePod pod).takePolicies policies := ih _
      _ = ((f.takePod pod).takePolicy policy).takePolicies policies := by
        rw [takePod_takePolicy]

theorem takePods_takePolicies (policies : List PolicyChange) (pods : List PodChange) :
    (f.takePolicies policies).takePods pods = (f.takePods pods).takePolicies policies := by
  induction pods generalizing f with
  | nil => rfl
  | cons pod pods ih =>
    calc ((f.takePolicies policies).takePod pod).takePods pods
        = ((f.takePod pod).takePolicies policies).takePods pods := by rw [takePod_takePolicies]
      _ = ((f.takePod pod).takePods pods).takePolicies policies := ih _

@[simp] theorem registry_takePolicies (changes : List PolicyChange) :
    (f.takePolicies changes).registry = f.registry := by
  induction changes generalizing f with
  | nil => rfl
  | cons change changes ih => exact (ih _).trans (registry_takePolicy f change)

@[simp] theorem pods_takePolicies (changes : List PolicyChange) :
    (f.takePolicies changes).catalog.pods = f.catalog.pods := by
  induction changes generalizing f with
  | nil => rfl
  | cons change changes ih => exact (ih _).trans (pods_takePolicy f change)

@[simp] theorem policies_takePods (changes : List PodChange) :
    (f.takePods changes).catalog.policies = f.catalog.policies := by
  induction changes generalizing f with
  | nil => rfl
  | cons change changes ih => exact (ih _).trans (policies_takePod f change)

@[simp] theorem policy?_takePods (changes : List PodChange) (ns name : String) :
    (f.takePods changes).catalog.policy? ns name = f.catalog.policy? ns name :=
  congrArg (·.get? ns name) (policies_takePods f changes)

/-- Events are followed by following the changes that they tell; the others are passed over. -/
theorem foldl_policyEvent (events : List Event) :
    events.foldl (·.policyEvent start) f =
      f.takePolicies (events.filterMap (·.policyChange? start)) := by
  induction events generalizing f with
  | nil => rfl
  | cons event events ih =>
    rw [List.foldl_cons, ih, policyEvent_eq, List.filterMap_cons]
    cases event.policyChange? start <;> rfl

theorem foldl_podEvent (events : List Event) :
    events.foldl podEvent f = f.takePods (events.filterMap Event.podChange?) := by
  induction events generalizing f with
  | nil => rfl
  | cons event events ih =>
    rw [List.foldl_cons, ih, podEvent_eq, List.filterMap_cons]
    cases event.podChange? <;> rfl

end Follower

/-! ## Messages -/

/-- The events of the stream of policies, over all messages. -/
def policyEvents (messages : List Message) : List Event :=
  messages.flatMap fun
    | .policies events => events
    | _ => []

/-- The events of the stream of pods, over all messages. -/
def podEvents (messages : List Message) : List Event :=
  messages.flatMap fun
    | .pods events => events
    | _ => []

/-- The changes that the messages of the stream of policies tell. -/
def policyChanges (start : String) (messages : List Message) : List PolicyChange :=
  (policyEvents messages).filterMap (·.policyChange? start)

/-- The changes that the messages of the stream of pods tell. -/
def podChanges (messages : List Message) : List PodChange :=
  (podEvents messages).filterMap Event.podChange?

section

variable (start : String) (events : List Event) (messages : List Message)

theorem policyChanges_policies : policyChanges start (.policies events :: messages) =
    events.filterMap (·.policyChange? start) ++ policyChanges start messages :=
  List.filterMap_append

theorem policyChanges_pods :
    policyChanges start (.pods events :: messages) = policyChanges start messages :=
  rfl

theorem podChanges_policies : podChanges (.policies events :: messages) = podChanges messages :=
  rfl

theorem podChanges_pods : podChanges (.pods events :: messages) =
    events.filterMap Event.podChange? ++ podChanges messages :=
  List.filterMap_append

end

namespace Watcher

variable (w : Watcher)

/-- Follows messages one after the other. -/
def receiveAll (w : Watcher) (messages : List Message) : Watcher :=
  messages.foldl receive w

theorem receiveAll_cons (message : Message) (messages : List Message) :
    w.receiveAll (message :: messages) = (w.receive message).receiveAll messages :=
  rfl

theorem receiveAll_append (messages later : List Message) :
    w.receiveAll (messages ++ later) = (w.receiveAll messages).receiveAll later :=
  List.foldl_append

/-- A watcher that has stopped follows nothing. -/
theorem receiveAll_of_stopped (stopped : w.running = false) (messages : List Message) :
    w.receiveAll messages = w := by
  induction messages with
  | nil => rfl
  | cons message messages ih =>
    have same : w.receive message = w := by simp [receive, stopped]
    exact (congrArg (receiveAll · messages) same).trans ih

/-- The end of a stream stops a watcher for good. -/
theorem running_receiveAll (messages : List Message) (ended : .ended ∈ messages) :
    (w.receiveAll messages).running = false := by
  obtain ⟨before, after, rfl⟩ := List.append_of_mem ended
  rw [receiveAll_append]
  generalize w.receiveAll before = w
  have stopped : (w.receive .ended).running = false := by
    unfold receive
    split
    next h => simpa using h
    next => rfl
  show ((w.receive .ended).receiveAll after).running = false
  rw [receiveAll_of_stopped _ stopped, stopped]

theorem receive_policies (running : w.running = true) (events : List Event) :
    w.receive (.policies events) = { w with
      follower := w.follower.takePolicies (events.filterMap (·.policyChange? w.policyPrefix)) } := by
  simp [receive, running, Follower.foldl_policyEvent]

theorem receive_pods (running : w.running = true) (events : List Event) :
    w.receive (.pods events) = { w with
      follower := w.follower.takePods (events.filterMap Event.podChange?) } := by
  simp [receive, running, Follower.foldl_podEvent]

/-- **While both streams are open, each is followed as if it were alone.** -/
theorem follower_receiveAll (running : w.running = true) (messages : List Message)
    (going : .ended ∉ messages) :
    (w.receiveAll messages).follower =
      (w.follower.takePolicies (policyChanges w.policyPrefix messages)).takePods
        (podChanges messages) := by
  induction messages generalizing w with
  | nil => rfl
  | cons message messages ih =>
    obtain ⟨first, rest⟩ := List.ne_and_not_mem_of_not_mem_cons going
    cases message with
    | policies events =>
      have step := ih (w.receive (.policies events)) (by rw [receive_policies w running, running]) rest
      rw [receiveAll_cons, step, receive_policies w running, policyChanges_policies,
        podChanges_policies, Follower.takePolicies_append]
    | pods events =>
      have step := ih (w.receive (.pods events)) (by rw [receive_pods w running, running]) rest
      -- These changes of pods come before later changes of policies, and can come after them.
      rw [receiveAll_cons, step, receive_pods w running, policyChanges_pods, podChanges_pods,
        Follower.takePods_append, Follower.takePods_takePolicies w.follower]
    | ended => exact absurd rfl first

/-- **The order between the streams does not matter.**  As long as no stream has ended, what
is known in the end is what following all events of policies and then all events of pods
gives.  So it depends only on the changes that each stream tells, in the order in which it
tells them: not on how they fall between those of the other stream, nor on how they are cut
into messages, nor on events that tell nothing.  Once a stream has ended, no later message
changes what is known. -/
theorem receiveAll_confluent (w : Watcher) :
    (∀ messages : List Message, w.running = true → .ended ∉ messages →
      (w.receiveAll messages).follower = (podEvents messages).foldl Follower.podEvent
        ((policyEvents messages).foldl (·.policyEvent w.policyPrefix) w.follower)) ∧
    (∀ messages messages' : List Message, .ended ∉ messages → .ended ∉ messages' →
      policyChanges w.policyPrefix messages = policyChanges w.policyPrefix messages' →
      podChanges messages = podChanges messages' →
      (w.receiveAll messages).follower = (w.receiveAll messages').follower) ∧
    ∀ messages later : List Message, .ended ∈ messages →
      (w.receiveAll (messages ++ later)).follower = (w.receiveAll messages).follower := by
  refine ⟨?_, ?_, ?_⟩
  · intro messages running going
    rw [follower_receiveAll w running messages going, Follower.foldl_podEvent,
      Follower.foldl_policyEvent]
    rfl
  · intro messages messages' going going' policies pods
    cases running : w.running with
    | true =>
      rw [follower_receiveAll w running messages going,
        follower_receiveAll w running messages' going', policies, pods]
    | false => rw [receiveAll_of_stopped w running, receiveAll_of_stopped w running]
  · intro messages later ended
    have stopped := running_receiveAll w messages ended
    rw [receiveAll_append, receiveAll_of_stopped _ stopped]

end Watcher

end Placement.Watch

/-! ## The store of the shop -/

namespace Placement.Shop

open Watch

/-- What the keys of the shop's policies begin with. -/
def start : String :=
  ({} : Settings).policyPrefix

/-- A policy of the shop, of which its document says no more than it has to. -/
def plain : Policy where
  name := "web"
  ns := "shop"
  target := .count 1

/-- The pair that holds it. -/
def plainPair : KeyValue where
  key := (policyKey start "shop" "web").toUTF8
  value :=
    "metadata:\n  name: web\n  namespace: shop\nspec:\n  policy:\n    targetSize: 1\n".toUTF8

/-- A pod of the shop. -/
def visitor : Pod where
  name := "visitor"
  ns := "shop"
  uid := "u"

/-- The pair that holds it. -/
def visitorPair : KeyValue where
  key := "/registry/pods/visitor".toUTF8
  value := "metadata:\n  name: visitor\n  namespace: shop\n  uid: u\n".toUTF8

/-- The same key with a value that does not decode. -/
def spoiled (pair : KeyValue) : KeyValue :=
  { pair with value := "[".toUTF8 }

@[simp] theorem policy?_plainPair : plainPair.policy? = some plain := by decide +kernel

@[simp] theorem pod?_visitorPair : visitorPair.pod? = some visitor := by decide +kernel

theorem document?_spoiled (pair : KeyValue) : Manifest.document? (spoiled pair).value = none := by
  have unread : (Manifest.document? "[".toUTF8).isNone := by decide +kernel
  exact Option.isNone_iff_eq_none.mp unread

@[simp] theorem policy?_spoiled (pair : KeyValue) : (spoiled pair).policy? = none := by
  rw [KeyValue.policy?, Manifest.readPolicy, document?_spoiled, Option.bind_none]

@[simp] theorem pod?_spoiled (pair : KeyValue) : (spoiled pair).pod? = none := by
  rw [KeyValue.pod?, Manifest.readPod, document?_spoiled, Option.bind_none]

/-- The event of writing a pair. -/
def written (now : KeyValue) (before : Option KeyValue := none) : Event :=
  ⟨.put, some now, before⟩

/-- The event of deleting the key of a pair, which is held until then. -/
def deleted (last : KeyValue) : Event :=
  ⟨.delete, some { last with value := ByteArray.empty }, some last⟩

/-- The policy is written, and then a pod comes and goes. -/
def policyFirst : List Message :=
  [.policies [written plainPair], .pods [written visitorPair, deleted visitorPair]]

/-- The same in another order, and with events that tell nothing. -/
def podsFirst : List Message :=
  [.pods [written (spoiled visitorPair), written visitorPair],
    .policies [written (spoiled plainPair)],
    .pods [deleted visitorPair, deleted (spoiled visitorPair)],
    .policies [written plainPair]]

/-- Whether the pod comes and goes before the policy is written or after, the same is known
in the end, which is what the events of policies and then those of pods give; and after the
end of a stream nothing more is. -/
theorem confluent_shop :
    (Watcher.receiveAll ⟨start, {}, true⟩ podsFirst).follower =
        (podEvents podsFirst).foldl Follower.podEvent
          ((policyEvents podsFirst).foldl (·.policyEvent start) {}) ∧
      (Watcher.receiveAll ⟨start, {}, true⟩ policyFirst).follower =
        (Watcher.receiveAll ⟨start, {}, true⟩ podsFirst).follower ∧
      (Watcher.receiveAll ⟨start, {}, true⟩ ([.ended] ++ policyFirst)).follower =
        (Watcher.receiveAll ⟨start, {}, true⟩ [.ended]).follower := by
  obtain ⟨sorted, same, stopped⟩ := Watcher.receiveAll_confluent ⟨start, {}, true⟩
  refine ⟨sorted _ rfl ?_, same _ _ ?_ ?_ ?_ ?_, stopped _ _ (by simp)⟩
  · simp [podsFirst]
  · simp [policyFirst]
  · simp [podsFirst]
  · simp [policyFirst, podsFirst, policyChanges, policyEvents, Event.policyChange?, written]
  · simp [policyFirst, podsFirst, podChanges, podEvents, Event.podChange?, written, deleted]

end Placement.Shop
