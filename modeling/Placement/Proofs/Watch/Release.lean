import Placement.Proofs.Exclusive
import Placement.Proofs.Watch.History
import Placement.Proofs.Watch.Key
import Placement.Proofs.Watch.Loading

/-!
# When a deleted pod is let go

That a pod is gone is told by its key only, and which pod it was is read from the value that
the key had.  A pod whose value decoded is dropped from the catalog and taken off its roster.
Where a value that does not decode has been written over it, the loss of the key tells
nothing, and the pod stays in the catalog and on its roster.

## Main definitions

* `Follower.Released` — a pod is neither in the catalog nor on a roster.
* `PodFeed` — what is asked of the store and its stream of pods.
* `Keeps` — what is known of the pods, by what became of their keys.

The main statements are `Keeps.step` for an event and `Watcher.released_iff_seenOff` for a run.
-/

namespace Placement.Watch

open Manifest (readPod)

/-- The pod that a change is about. -/
def PodChange.pod : PodChange → Pod
  | .put pod => pod
  | .gone pod => pod

variable {h : History} {event : Event} {pair : KeyValue} {key : ByteArray}
  {outcome : Option ByteArray} {pod : Pod}

/-! ## Following a change of a pod -/

namespace Follower

variable {f : Follower}

/-- A pod is neither in the catalog nor on a roster of its namespace. -/
structure Released (f : Follower) (pod : Pod) : Prop where
  unknown : f.catalog.pod? pod.ns pod.name = none
  unlisted : ∀ name, (pod.ns, name, pod.uid) ∉ f.registry.memberships

/-- The rosters are sound, and a pod is on one roster of a namespace at most. -/
structure Orderly (f : Follower) : Prop where
  sound : f.registry.Sound
  exclusive : f.registry.Exclusive

/-- The loss of a pod leaves the rosters alone, or the pod leaves them. -/
theorem registry_podGone (f : Follower) (pod : Pod) :
    (f.podGone pod).registry = f.registry ∨
      ∃ left, Membership.leave f.order f.registry pod = .ok (left, (f.podGone pod).registry) := by
  unfold podGone
  cases leaves : Membership.leave f.order f.registry pod with
  | error _ => exact .inl rfl
  | ok result => exact .inr ⟨result.1, rfl⟩

/-- No change of a pod puts one on a roster. -/
theorem memberships_takePod (f : Follower) (change : PodChange) :
    (f.takePod change).registry.memberships ⊆ f.registry.memberships := by
  cases change with
  | put pod => exact Set.Subset.rfl
  | gone pod =>
    rw [takePod]
    rcases registry_podGone f pod with same | ⟨left, leaves⟩
    · rw [same]
    · obtain ⟨struck, strikes, _⟩ := Membership.memberships_leave leaves
      rw [strikes]
      exact Set.sdiff_subset

theorem Orderly.takePod (orderly : f.Orderly) (change : PodChange) :
    (f.takePod change).Orderly := by
  refine ⟨?_, orderly.exclusive.mono (f.memberships_takePod change)⟩
  cases change with
  | put pod => exact orderly.sound
  | gone pod =>
    rw [Follower.takePod]
    rcases registry_podGone f pod with same | ⟨left, leaves⟩
    · rw [same]
      exact orderly.sound
    · exact Membership.sound_leave orderly.sound leaves

/-- A change of a pod concerns no pod that is filed under another text. -/
theorem pod?_takePod_of_ne (f : Follower) {change : PodChange} {ns name : String}
    (differ : Pod.fileKey change.pod.ns change.pod.name ≠ Pod.fileKey ns name) :
    (f.takePod change).catalog.pod? ns name = f.catalog.pod? ns name := by
  cases change with
  | put pod => exact (Catalog.pod?_putPod ..).trans (if_neg differ)
  | gone pod => exact (Catalog.pod?_dropPod ..).trans (if_neg differ)

theorem Released.takePod (released : f.Released pod) {change : PodChange}
    (differ : Pod.fileKey change.pod.ns change.pod.name ≠ Pod.fileKey pod.ns pod.name) :
    (f.takePod change).Released pod where
  unknown := (f.pod?_takePod_of_ne differ).trans released.unknown
  unlisted name there := released.unlisted name (f.memberships_takePod change there)

/-- **A pod whose loss is told is let go.** -/
theorem Orderly.released_podGone (orderly : f.Orderly) (identified : pod.uid ≠ "") :
    (f.podGone pod).Released pod := by
  constructor
  · exact (Catalog.pod?_dropPod ..).trans (if_pos rfl)
  · obtain ⟨left, after, leaves⟩ : ∃ left after,
        Membership.leave f.order f.registry pod = .ok (left, after) :=
      Membership.exists_leave orderly.sound identified
    have registry : (f.podGone pod).registry = after := by simp [podGone, leaves]
    rw [registry]
    exact orderly.exclusive.not_mem_of_leave leaves

end Follower

/-! ## What is asked of the store -/

/-- An event tells of a key and, when the key is gone, of the pair that the store held. -/
def Exact (h : History) (event : Event) : Prop :=
  ∃ pair, event.now = some pair ∧ (event.change = .delete → event.before = h.pair? pair.key)

/-- The change that an exact event tells, by what became of the key. -/
theorem podChange?_of_now (now : event.now = some pair)
    (before : event.change = .delete → event.before = h.pair? pair.key) :
    event.podChange? =
      match event.outcome pair with
      | some value => (readPod value).map .put
      | none => ((h.stored pair.key).bind readPod).map .gone := by
  obtain ⟨change, _, old⟩ := event
  obtain rfl := now
  cases change with
  | put => rfl
  | delete =>
    obtain rfl := before rfl
    simp only [Event.podChange?, Event.outcome, History.pair?]
    cases h.stored pair.key <;> rfl

/-- The pods that the values of keys describe are told apart by their namespaces and names,
and have identifiers. -/
structure Apart (h : History) : Prop where
  differ : ∀ {key other : ByteArray} {pod pod' : Pod}, h.Said readPod key pod →
    h.Said readPod other pod' → pod.ns = pod'.ns → pod.name = pod'.name → key = other
  no_slash : ∀ {key : ByteArray} {pod : Pod}, h.Said readPod key pod → '/' ∉ pod.ns.toList
  identified : ∀ {key : ByteArray} {pod : Pod}, h.Said readPod key pod → pod.uid ≠ ""

theorem Apart.mono {later : History} (apart : Apart later)
    (said : ∀ {key : ByteArray} {pod : Pod}, h.Said readPod key pod → later.Said readPod key pod) :
    Apart h where
  differ one two := apart.differ (said one) (said two)
  no_slash one := apart.no_slash (said one)
  identified one := apart.identified (said one)

/-- The pods of different keys are filed under different texts. -/
theorem Apart.fileKey_ne (apart : Apart h) {other : ByteArray} {pod' : Pod}
    (said : h.Said readPod key pod) (said' : h.Said readPod other pod')
    (differ : key ≠ other) : Pod.fileKey pod.ns pod.name ≠ Pod.fileKey pod'.ns pod'.name := by
  intro same
  obtain ⟨hns, hname⟩ := fileKey_inj (apart.no_slash said) (apart.no_slash said') same
  exact differ (apart.differ said said' hns hname)

/-- What is asked of a listing of the pods and of the events after it: every event is exact about
the history before it, and the pods of all values can be told apart. -/
structure PodFeed (pairs : List KeyValue) (events : List Event) : Prop where
  told : History.Throughout Exact (History.listed pairs) events
  apart : Apart ((History.listed pairs).recordAll events)

/-! ## Following a stream -/

/-- What is known of the pod that was last decoded from each key: it is in the catalog until its
loss is told, and is then let go. -/
structure Keeps (h : History) (f : Follower) : Prop where
  orderly : f.Orderly
  kept : ∀ key pod, h.latest? readPod key = some pod → ¬History.SeenOff readPod (h key) →
    f.catalog.pod? pod.ns pod.name = some pod
  released : ∀ key pod, h.latest? readPod key = some pod → History.SeenOff readPod (h key) →
    f.Released pod

/-- An event that tells nothing changes nothing. -/
theorem Keeps.pass {f : Follower} (keeps : Keeps h f) (untold : outcome.bind readPod = none)
    (unseen : outcome = none → (h.stored key).bind readPod = none) : Keeps (h.add key outcome) f := by
  have same := h.add_of_untold readPod untold unseen
  constructor
  · exact keeps.orderly
  · intro other pod latest missed
    rw [(same other).1] at latest
    rw [(same other).2] at missed
    exact keeps.kept other pod latest missed
  · intro other pod latest seen
    rw [(same other).1] at latest
    rw [(same other).2] at seen
    exact keeps.released other pod latest seen

/-- A change of a pod concerns its own key only. -/
theorem Keeps.take {f : Follower} (keeps : Keeps h f) (apart : Apart (h.add key outcome))
    {change : PodChange} (latest : (h.add key outcome).latest? readPod key = some change.pod)
    (kept : ¬History.SeenOff readPod (h.add key outcome key) →
      (f.takePod change).catalog.pod? change.pod.ns change.pod.name = some change.pod)
    (released : History.SeenOff readPod (h.add key outcome key) →
      (f.takePod change).Released change.pod) :
    Keeps (h.add key outcome) (f.takePod change) := by
  have others {other : ByteArray} {pod : Pod} (differ : other ≠ key)
      (latest' : (h.add key outcome).latest? readPod other = some pod) :
      h.latest? readPod other = some pod ∧
        Pod.fileKey change.pod.ns change.pod.name ≠ Pod.fileKey pod.ns pod.name := by
    refine ⟨?_, apart.fileKey_ne (History.said_of_latest? _ _ latest)
      (History.said_of_latest? _ _ latest') differ.symm⟩
    rwa [History.latest?_add, if_neg differ] at latest'
  constructor
  · exact keeps.orderly.takePod change
  · intro other pod latest' missed
    by_cases same : other = key
    · subst same
      obtain rfl := Option.some.inj (latest.symm.trans latest')
      exact kept missed
    · obtain ⟨before, differ⟩ := others same latest'
      rw [h.add_of_ne same] at missed
      rw [f.pod?_takePod_of_ne differ]
      exact keeps.kept other pod before missed
  · intro other pod latest' seen
    by_cases same : other = key
    · subst same
      obtain rfl := Option.some.inj (latest.symm.trans latest')
      exact released seen
    · obtain ⟨before, differ⟩ := others same latest'
      rw [h.add_of_ne same] at seen
      exact (keeps.released other pod before seen).takePod differ

/-- A value that decodes is the pod that is kept. -/
theorem Keeps.put {f : Follower} {value : ByteArray} (keeps : Keeps h f)
    (apart : Apart (h.add key (some value))) (decodes : readPod value = some pod) :
    Keeps (h.add key (some value)) (f.takePod (.put pod)) := by
  refine keeps.take apart ?_ ?_ ?_
  · simp [History.latest?_add, decodes, PodChange.pod]
  · intro _
    exact (Catalog.pod?_putPod ..).trans (if_pos rfl)
  · simp [History.SeenOff, decodes]

/-- A deletion lets go of the pod that the value described. -/
theorem Keeps.gone {f : Follower} (keeps : Keeps h f) (apart : Apart (h.add key none))
    (decodes : (h.stored key).bind readPod = some pod) :
    Keeps (h.add key none) (f.takePod (.gone pod)) := by
  obtain ⟨value, stored, decodes'⟩ := Option.bind_eq_some_iff.mp decodes
  have latest : (h.add key none).latest? readPod key = some pod := by
    rw [History.latest?_add, if_pos rfl, Option.bind_none, Option.none_or,
      h.latest?_of_stored readPod stored decodes']
  have seen : History.SeenOff readPod (h.add key none key) := by
    rw [History.add_self]
    exact .inl (Option.isSome_iff_exists.mpr ⟨pod, decodes⟩)
  refine keeps.take apart latest ?_ ?_
  · intro missed
    exact absurd seen missed
  · intro _
    exact keeps.orderly.released_podGone
      (apart.identified (History.said_of_latest? _ _ latest))

/-- Following an event keeps up with the history. -/
theorem Keeps.step {f : Follower} (keeps : Keeps h f) (told : Exact h event)
    (apart : Apart (h.record event)) : Keeps (h.record event) (f.podEvent event) := by
  obtain ⟨pair, now, before⟩ := told
  rw [h.record_of_now now] at apart ⊢
  rw [Follower.podEvent_eq, podChange?_of_now now before]
  cases outcome : event.outcome pair with
  | some value =>
    rw [outcome] at apart
    cases decodes : readPod value with
    | none =>
      have untold : (some value).bind readPod = none := decodes
      simpa [decodes] using keeps.pass untold (by simp)
    | some pod => simpa [decodes] using keeps.put apart decodes
  | none =>
    rw [outcome] at apart
    cases decodes : (h.stored pair.key).bind readPod with
    | none => simpa [decodes] using keeps.pass rfl fun _ => decodes
    | some pod => simpa [decodes] using keeps.gone apart decodes

theorem Keeps.run {f : Follower} {events : List Event} (keeps : Keeps h f)
    (told : History.Throughout Exact h events) (apart : Apart (h.recordAll events)) :
    Keeps (h.recordAll events) (events.foldl Follower.podEvent f) := by
  have run : Apart (h.recordAll events) →
      Keeps (h.recordAll events) (events.foldl Follower.podEvent f) :=
    told.run (I := fun h f => Apart h → Keeps h f) (fun _ => keeps) <| by
      intro h f event told before apart
      exact (before (apart.mono fun said => said.record event)).step told apart
  exact run apart

/-- A listing tells what as many events would that write what it finds. -/
theorem listed_eq_recordAll (pairs : List KeyValue) :
    History.listed pairs = History.recordAll (fun _ => [])
      (pairs.map fun pair => ⟨.put, some pair, none⟩) := by
  rw [History.recordAll, List.foldl_map]
  rfl

theorem takePods_listing (f : Follower) (pairs : List KeyValue) :
    f.takePods ((pairs.filterMap KeyValue.pod?).map .put) =
      (pairs.map fun pair => (⟨.put, some pair, none⟩ : Event)).foldl Follower.podEvent f := by
  rw [Follower.foldl_podEvent, List.filterMap_map, List.map_filterMap]
  rfl

/-- Loading over what is in order keeps up with the listing. -/
theorem Keeps.load {f : Follower} {policies pairs : List KeyValue} (orderly : f.Orderly)
    (apart : Apart (History.listed pairs)) :
    Keeps (History.listed pairs) (f.load policies pairs) := by
  have start : Keeps (fun _ => []) (f.loadPolicies policies) :=
    ⟨⟨orderly.sound, orderly.exclusive⟩, by simp [History.latest?], by simp [History.latest?]⟩
  rw [Follower.load_eq, takePods_listing]
  rw [listed_eq_recordAll] at apart ⊢
  refine start.run ?_ apart
  intro earlier event later split
  have there : event ∈ pairs.map fun pair => ⟨.put, some pair, none⟩ := by simp [split]
  obtain ⟨pair, _, rfl⟩ := List.mem_map.mp there
  exact ⟨pair, rfl, by simp⟩

/-- The stream of policies does not matter to the pods. -/
theorem Keeps.takePolicies {f : Follower} (keeps : Keeps h f) (changes : List PolicyChange) :
    Keeps h (f.takePolicies changes) := by
  have pods (ns name : String) :
      (f.takePolicies changes).catalog.pod? ns name = f.catalog.pod? ns name := by
    rw [Catalog.pod?, Follower.pods_takePolicies, Catalog.pod?]
  have registry := f.registry_takePolicies changes
  refine ⟨⟨registry ▸ keeps.orderly.sound, registry ▸ keeps.orderly.exclusive⟩, ?_, ?_⟩
  · intro key pod latest missed
    rw [pods]
    exact keeps.kept key pod latest missed
  · intro key pod latest seen
    have gone := keeps.released key pod latest seen
    exact ⟨(pods _ _).trans gone.unknown, registry ▸ gone.unlisted⟩

section

variable {settings : Settings} {store : Store} {known : Follower} {w : Watcher}
  {pairs : List KeyValue} {messages : List Message}

/-- A watcher keeps up with the pods of the store, whatever the stream of policies tells
meanwhile. -/
theorem Watcher.keeps (starts : Watcher.start settings store known = .ok w)
    (listed : store.pods = some pairs) (going : .ended ∉ messages)
    (feed : PodFeed pairs (podEvents messages)) (orderly : known.Orderly) :
    Keeps ((History.listed pairs).recordAll (podEvents messages))
      (w.receiveAll messages).follower := by
  obtain ⟨policies, pods, _, hpods, rfl⟩ := start_eq_ok starts
  obtain rfl := Option.some.inj (listed.symm.trans hpods)
  rw [follower_receiveAll _ rfl messages going, Follower.takePods_takePolicies, podChanges,
    ← Follower.foldl_podEvent]
  have listing : Apart (History.listed pairs) :=
    feed.apart.mono fun said => said.recordAll (podEvents messages)
  exact ((Keeps.load orderly listing).run feed.told feed.apart).takePolicies _

/-- **The pod that was last decoded from a key is let go exactly when the value that it was
decoded from was still there as the key was deleted.**  When another value, which does not
decode, has been written over it, the pod stays after the key is gone. -/
theorem Watcher.released_iff_seenOff (starts : Watcher.start settings store known = .ok w)
    (listed : store.pods = some pairs) (going : .ended ∉ messages)
    (feed : PodFeed pairs (podEvents messages)) (orderly : known.Orderly)
    (latest : ((History.listed pairs).recordAll (podEvents messages)).latest? readPod key =
      some pod) :
    (w.receiveAll messages).follower.Released pod ↔
      History.SeenOff readPod ((History.listed pairs).recordAll (podEvents messages) key) := by
  have keeps := Watcher.keeps starts listed going feed orderly
  constructor
  · intro released
    by_contra missed
    have kept := keeps.kept key pod latest missed
    rw [released.unknown] at kept
    cases kept
  · exact keeps.released key pod latest

end

end Placement.Watch

namespace Placement.Shop

open Watch

/-- A registry in which the pod of the shop is on the roster of the policy. -/
def tracked : Registry :=
  Namespaced.insert ∅ "shop" "web"
    (Roster.InPlace.enlist (Roster.new "shop" "web" .must (.count 1)) "u").2

/-- What is known when the pod has been placed. -/
def placed : Follower where
  registry := tracked

theorem orderly_placed : placed.Orderly := by
  constructor
  · exact Registry.Sound.empty.insert (.enlist _ (.new ..)) (by decide)
  · intro ns name other key there there'
    have web {name : String} (there : (ns, name, key) ∈ tracked.memberships) : name = "web" := by
      rw [tracked, Registry.mem_memberships_insert] at there
      split at there
      next same => exact same.2.symm
      next => simp at there
    rw [web there, web there']

/-- The pod is written, and then deleted. -/
def leaving : List Message :=
  [.pods [written visitorPair, deleted visitorPair]]

/-- The pod is written and overwritten with what does not decode, and then deleted. -/
def obscured : List Message :=
  [.pods [written visitorPair, written (spoiled visitorPair) (some visitorPair),
    deleted (spoiled visitorPair)]]

theorem apart_visitor {h : History}
    (only : ∀ {key : ByteArray} {pod : Pod}, h.Said Manifest.readPod key pod →
      key = visitorPair.key ∧ pod = visitor) : Apart h where
  differ said said' _ _ := (only said).1.trans (only said').1.symm
  no_slash said := by
    rw [(only said).2]
    decide
  identified said := by
    rw [(only said).2]
    decide

theorem history_leaving : (History.listed []).recordAll (podEvents leaving) =
    ((History.listed []).add visitorPair.key (some visitorPair.value)).add visitorPair.key none :=
  rfl

theorem history_obscured : (History.listed []).recordAll (podEvents obscured) =
    (((History.listed []).add visitorPair.key (some visitorPair.value)).add visitorPair.key
      (some (spoiled visitorPair).value)).add visitorPair.key none :=
  rfl

theorem readPod_visitorPair : Manifest.readPod visitorPair.value = some visitor :=
  pod?_visitorPair

theorem readPod_spoiled : Manifest.readPod (spoiled visitorPair).value = none :=
  pod?_spoiled visitorPair

theorem feed_leaving : PodFeed [] (podEvents leaving) := by
  constructor
  · refine (History.throughout_cons _).mpr ⟨⟨_, rfl, by simp [written]⟩,
      (History.throughout_cons _).mpr ⟨⟨_, rfl, fun _ => ?_⟩, History.throughout_nil _⟩⟩
    simp [deleted, written, History.record, Event.outcome, History.pair?, History.stored]
  · apply apart_visitor
    intro key pod said
    simpa [history_leaving, History.said_add, readPod_visitorPair, eq_comm] using said

theorem feed_obscured : PodFeed [] (podEvents obscured) := by
  constructor
  · refine (History.throughout_cons _).mpr ⟨⟨_, rfl, by simp [written]⟩,
      (History.throughout_cons _).mpr ⟨⟨_, rfl, by simp [written]⟩,
        (History.throughout_cons _).mpr ⟨⟨_, rfl, fun _ => ?_⟩, History.throughout_nil _⟩⟩⟩
    simp [deleted, written, spoiled, History.record, Event.outcome, History.pair?, History.stored]
  · apply apart_visitor
    intro key pod said
    simpa [history_obscured, History.said_add, readPod_visitorPair, readPod_spoiled, eq_comm]
      using said

/-- A pod that is deleted while its value is there is let go. -/
theorem released_leaving :
    Watcher.start {} {} placed = .ok ⟨start, placed.load [] [], true⟩ ∧
      (Watcher.receiveAll ⟨start, placed.load [] [], true⟩ leaving).follower.Released visitor := by
  have starts : Watcher.start {} {} placed = .ok ⟨start, placed.load [] [], true⟩ := rfl
  have latest : ((History.listed []).recordAll (podEvents leaving)).latest? Manifest.readPod
      visitorPair.key = some visitor := by
    simp [history_leaving, History.latest?_add, readPod_visitorPair]
  have seen : History.SeenOff Manifest.readPod
      ((History.listed []).recordAll (podEvents leaving) visitorPair.key) := by
    simp [history_leaving, History.SeenOff, readPod_visitorPair]
  exact ⟨starts, (Watcher.released_iff_seenOff starts rfl (by simp [leaving]) feed_leaving
    orderly_placed latest).mpr seen⟩

/-- What the watcher knows in the end when the value of the pod is overwritten. -/
def afterObscured : Follower :=
  (Watcher.receiveAll ⟨start, placed.load [] [], true⟩ obscured).follower

theorem registry_afterObscured : afterObscured.registry = tracked := by
  have changes : podChanges obscured = [.put visitor] := by
    simp [obscured, podChanges, podEvents, Event.podChange?, written, deleted]
  rw [afterObscured, Watcher.follower_receiveAll _ rfl _ (by simp [obscured]), changes]
  exact Follower.registry_takePolicies _ _

/-- A pod that is deleted after its value was overwritten with what does not decode stays in
the catalog and on its roster. -/
theorem not_released_obscured :
    Watcher.start {} {} placed = .ok ⟨start, placed.load [] [], true⟩ ∧
      placed.Orderly ∧ PodFeed [] (podEvents obscured) ∧
      ((History.listed []).recordAll (podEvents obscured)).stored visitorPair.key = none ∧
      ((History.listed []).recordAll (podEvents obscured)).latest? Manifest.readPod
        visitorPair.key = some visitor ∧
      afterObscured.catalog.pod? "shop" "visitor" = some visitor ∧
      ("shop", "web", "u") ∈ afterObscured.registry.memberships ∧
      ¬afterObscured.Released visitor := by
  have starts : Watcher.start {} {} placed = .ok ⟨start, placed.load [] [], true⟩ := rfl
  have latest : ((History.listed []).recordAll (podEvents obscured)).latest? Manifest.readPod
      visitorPair.key = some visitor := by
    simp [history_obscured, History.latest?_add, readPod_visitorPair, readPod_spoiled]
  have missed : ¬History.SeenOff Manifest.readPod
      ((History.listed []).recordAll (podEvents obscured) visitorPair.key) := by
    simp [history_obscured, History.SeenOff, readPod_visitorPair, readPod_spoiled]
  have gone : ((History.listed []).recordAll (podEvents obscured)).stored visitorPair.key =
      none := by
    simp [history_obscured, History.stored]
  have keeps := Watcher.keeps starts rfl (by simp [obscured]) feed_obscured orderly_placed
  have kept : afterObscured.catalog.pod? "shop" "visitor" = some visitor :=
    keeps.kept visitorPair.key visitor latest missed
  have listed : ("shop", "web", "u") ∈ afterObscured.registry.memberships := by
    rw [registry_afterObscured, tracked, Registry.mem_memberships_insert, if_pos ⟨rfl, rfl⟩]
    decide +kernel
  exact ⟨starts, orderly_placed, feed_obscured, gone, latest, kept, listed,
    fun released => released.unlisted "web" listed⟩

end Placement.Shop
