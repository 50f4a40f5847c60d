import Placement.Proofs.Watch.History
import Placement.Proofs.Watch.Key
import Placement.Proofs.Watch.Loading

/-!
# The policies that are known mirror the store

Where every policy is stored under the key of its own namespace and name, an event rewrites
the policy of its key and no other: a value that decodes is the policy from then on, one that
does not leaves it as it was, and a deleted key leaves none.  So a watcher that starts with
no policies knows of each key what its last value says that decoded since the key was last
absent.

## Main definitions

* `storeKey`, `Filed` — where a policy belongs, and that an outcome of a key fits it.
* `PolicyFeed` — what is asked of the store and its stream of policies.
* `Mirrors` — that the policies known are those of the store.

The main statements are `policy?_policyEvent` for an event and `Watcher.mirrors_store` for a run.
-/

namespace Placement.Watch

variable {start ns name : String} {h : History} {event : Event} {pair : KeyValue}

/-! ## Where policies are stored -/

/-- The key of a policy, in the bytes of the store. -/
def storeKey (start ns name : String) : ByteArray :=
  (policyKey start ns name).toUTF8

theorem storeKey_inj {ns' name' : String} (hns : Segment ns) (hns' : Segment ns') :
    storeKey start ns name = storeKey start ns' name' ↔ ns = ns' ∧ name = name' := by
  constructor
  · intro same
    exact policyKey_inj hns hns' (String.toByteArray_inj.mp same)
  · rintro ⟨rfl, rfl⟩
    rfl

/-- What becomes of a key fits the policy that the key belongs to: a value that decodes is
of its namespace and name. -/
structure Fits (start ns name : String) (key : ByteArray) (outcome : Option ByteArray) : Prop where
  ns_segment : Segment ns
  name_segment : Segment name
  key_eq : key = storeKey start ns name
  named : ∀ policy, outcome.bind Manifest.readPolicy = some policy →
    policy.ns = ns ∧ policy.name = name

/-- What becomes of a key fits some policy. -/
def Filed (start : String) (key : ByteArray) (outcome : Option ByteArray) : Prop :=
  ∃ ns name, Fits start ns name key outcome

/-- All outcomes of a key fit the same policy. -/
theorem Fits.of_filed {key : ByteArray} {outcome other : Option ByteArray}
    (fits : Fits start ns name key outcome) (filed : Filed start key other) :
    Fits start ns name key other := by
  obtain ⟨ns', name', fits'⟩ := filed
  obtain ⟨rfl, rfl⟩ :=
    (storeKey_inj fits.ns_segment fits'.ns_segment).mp (fits.key_eq.symm.trans fits'.key_eq)
  exact fits'

/-- An event tells of a key of a policy, and tells the truth about the value before it or
nothing. -/
structure Truthful (start : String) (h : History) (event : Event) : Prop where
  filed : ∃ pair, event.now = some pair ∧ Filed start pair.key (event.outcome pair)
  before : ∀ pair, event.now = some pair →
    event.before = none ∨ event.before = h.pair? pair.key

/-- What is asked of a listing of the policies and of the events after it: no key is listed twice,
what is listed fits its key, and every event is truthful about the history before it. -/
structure PolicyFeed (start : String) (pairs : List KeyValue) (events : List Event) : Prop where
  distinct : (pairs.map (·.key)).Nodup
  filed : ∀ pair ∈ pairs, Filed start pair.key (some pair.value)
  told : History.Throughout (Truthful start) (History.listed pairs) events

/-! ## Following an event -/

namespace Follower

variable {f : Follower}

/-- A new version replaces the one before, whatever it is known to be, as long as it has the
same name. -/
theorem policyPut_of_named {policy : Policy} {before : Option Policy}
    (same : ∀ old, before = some old → old.ns = policy.ns ∧ old.name = policy.name) :
    f.policyPut policy before = { f with catalog := (f.catalog.upsertPolicy policy).2 } := by
  cases before with
  | none => rfl
  | some old => rw [policyPut, Catalog.updatePolicy, if_pos (same old rfl)]

/-- **An event rewrites the policy of its key and no other.** -/
theorem policy?_policyEvent (now : event.now = some pair)
    (fits : Fits start ns name pair.key (event.outcome pair))
    (before : ∀ old, event.before.bind KeyValue.policy? = some old →
      old.ns = ns ∧ old.name = name) (ns' name' : String) :
    (f.policyEvent start event).catalog.policy? ns' name' =
      if ns = ns' ∧ name = name' then
        (event.outcome pair).bind fun value =>
          (Manifest.readPolicy value).or (f.catalog.policy? ns name)
      else f.catalog.policy? ns' name' := by
  obtain ⟨change, _, old⟩ := event
  obtain rfl := now
  cases change with
  | put =>
    simp only [policyEvent, Event.outcome, Option.bind_some]
    cases decodes : pair.policy? with
    | none =>
      rw [KeyValue.policy?] at decodes
      simp only [decodes, Option.none_or]
      split
      next same => rw [same.1, same.2]
      next => rfl
    | some policy =>
      obtain ⟨rfl, rfl⟩ := fits.named policy decodes
      rw [KeyValue.policy?] at decodes
      simp only [policyPut_of_named before, Catalog.policy?_upsertPolicy, decodes, Option.some_or]
  | delete =>
    simp only [policyEvent, Event.outcome, Option.bind_none]
    rw [policyGone, fits.key_eq, storeKey, Text.Utf8.toText_toUTF8,
      parsePolicyKey_policyKey start fits.ns_segment fits.name_segment]
    exact Catalog.policy?_deletePolicy ..

end Follower

/-! ## Following a stream -/

/-- What is known agrees with what the history tells: of each policy what is present under its key,
and nothing else. -/
structure Reflects (start : String) (h : History) (f : Follower) : Prop where
  shown : ∀ ns name, Segment ns → Segment name →
    f.catalog.policy? ns name = h.present? Manifest.readPolicy (storeKey start ns name)
  keyed : ∀ ns name, (f.catalog.policy? ns name).isSome → Segment ns ∧ Segment name
  filed : ∀ key outcome, outcome ∈ h key → Filed start key outcome

/-- The value before an event is a version of the policy that the event is about. -/
theorem Reflects.before {f : Follower} (reflects : Reflects start h f)
    (truthful : Truthful start h event) (now : event.now = some pair)
    (fits : Fits start ns name pair.key (event.outcome pair)) :
    ∀ old, event.before.bind KeyValue.policy? = some old → old.ns = ns ∧ old.name = name := by
  intro old decodes
  rcases truthful.before pair now with missing | told
  · simp [missing] at decodes
  · rw [told, History.pair?] at decodes
    cases stored : h.stored pair.key with
    | none => simp [stored] at decodes
    | some value =>
      obtain ⟨earlier, outcomes⟩ := h.stored_eq_some stored
      have filed := reflects.filed pair.key (some value) (by simp [outcomes])
      exact (fits.of_filed filed).named old (by simpa [stored, KeyValue.policy?] using decodes)

/-- Following an event keeps up with the history. -/
theorem Reflects.step {f : Follower} (reflects : Reflects start h f)
    (truthful : Truthful start h event) :
    Reflects start (h.record event) (f.policyEvent start event) := by
  obtain ⟨pair, now, ns, name, fits⟩ := truthful.filed
  have effect := Follower.policy?_policyEvent (f := f) now fits
    (reflects.before truthful now fits)
  rw [h.record_of_now now]
  constructor
  · intro ns' name' hns' hname'
    have same : storeKey start ns' name' = pair.key ↔ ns = ns' ∧ name = name' := by
      rw [fits.key_eq, eq_comm, storeKey_inj fits.ns_segment hns']
    have old := reflects.shown ns name fits.ns_segment fits.name_segment
    rw [← fits.key_eq] at old
    rw [effect, History.present?_add, old, reflects.shown ns' name' hns' hname']
    simp only [same]
  · intro ns' name' known
    rw [effect] at known
    split at known
    next same => exact same.1 ▸ same.2 ▸ ⟨fits.ns_segment, fits.name_segment⟩
    next => exact reflects.keyed ns' name' known
  · intro key outcome told
    by_cases same : key = pair.key
    · subst same
      rw [History.add_self] at told
      rcases List.mem_cons.mp told with rfl | earlier
      · exact ⟨ns, name, fits⟩
      · exact reflects.filed _ _ earlier
    · rw [h.add_of_ne same] at told
      exact reflects.filed _ _ told

/-- Loading over no policies shows the listing. -/
theorem Reflects.load {pairs : List KeyValue} {events : List Event} {f : Follower}
    (feed : PolicyFeed start pairs events) (fresh : f.catalog.policies = ∅)
    (pods : List KeyValue) : Reflects start (History.listed pairs) (f.load pairs pods) := by
  have lookup (ns name : String) : (f.load pairs pods).catalog.policy? ns name =
      named? (pairs.filterMap KeyValue.policy?) ns name := by
    rw [Follower.policy?_load, Catalog.policy?, fresh, Namespaced.get?_empty, Option.none_or]
  have known {ns name : String} {policy : Policy}
      (found : named? (pairs.filterMap KeyValue.policy?) ns name = some policy) :
      ∃ pair ∈ pairs, pair.policy? = some policy ∧ Fits start ns name pair.key (some pair.value) := by
    obtain ⟨there, rfl, rfl⟩ := named?_mem found
    obtain ⟨pair, listed, decodes⟩ := List.mem_filterMap.mp there
    obtain ⟨ns, name, fits⟩ := feed.filed pair listed
    obtain ⟨hns, hname⟩ := fits.named policy decodes
    exact ⟨pair, listed, decodes, hns ▸ hname ▸ fits⟩
  constructor
  · intro ns name hns hname
    rw [lookup]
    apply Option.ext
    intro policy
    rw [History.present?_listed _ feed.distinct]
    constructor
    · intro found
      obtain ⟨pair, listed, decodes, fits⟩ := known found
      exact ⟨pair, listed, fits.key_eq, decodes⟩
    · rintro ⟨pair, listed, key_eq, decodes⟩
      obtain ⟨ns', name', fits⟩ := feed.filed pair listed
      obtain ⟨rfl, rfl⟩ :=
        (storeKey_inj hns fits.ns_segment).mp (key_eq.symm.trans fits.key_eq)
      obtain ⟨rfl, rfl⟩ := fits.named policy decodes
      have found : (named? (pairs.filterMap KeyValue.policy?) policy.ns policy.name).isSome :=
        List.find?_isSome.mpr ⟨policy, List.mem_filterMap.mpr ⟨pair, listed, decodes⟩, by simp⟩
      obtain ⟨first, hfirst⟩ := Option.isSome_iff_exists.mp found
      -- The first of that name has the same key, and so is the same pair.
      obtain ⟨other, listed', decodes', fits'⟩ := known hfirst
      obtain rfl := List.inj_on_of_nodup_map feed.distinct listed' listed
        (fits'.key_eq.trans key_eq.symm)
      rw [hfirst, ← decodes']
      exact decodes
  · intro ns name isSome
    rw [lookup] at isSome
    obtain ⟨policy, found⟩ := Option.isSome_iff_exists.mp isSome
    obtain ⟨pair, _, _, fits⟩ := known found
    exact ⟨fits.ns_segment, fits.name_segment⟩
  · intro key outcome told
    obtain ⟨pair, listed, rfl, rfl⟩ := History.mem_listed.mp told
    exact feed.filed pair listed

/-- The policies of a catalog are those of the store, whose history is given.  A policy whose stored
value decodes is known as that value says.  One whose stored value does not is known as the last
value said that did, of those since its key was last absent. -/
structure Mirrors (start : String) (h : History) (catalog : Catalog) : Prop where
  current : ∀ ns name value policy, Segment ns → Segment name →
    h.stored (storeKey start ns name) = some value → Manifest.readPolicy value = some policy →
    catalog.policy? ns name = some policy
  lasting : ∀ ns name value, Segment ns → Segment name →
    h.stored (storeKey start ns name) = some value → Manifest.readPolicy value = none →
    catalog.policy? ns name = h.present? Manifest.readPolicy (storeKey start ns name)
  absent : ∀ ns name, Segment ns → Segment name →
    h.stored (storeKey start ns name) = none → catalog.policy? ns name = none
  only : ∀ ns name policy, catalog.policy? ns name = some policy →
    Segment ns ∧ Segment name ∧ (h.stored (storeKey start ns name)).isSome

theorem Reflects.mirrors {f : Follower} (reflects : Reflects start h f) :
    Mirrors start h f.catalog where
  current ns name value policy hns hname stored decodes := by
    rw [reflects.shown ns name hns hname, h.present?_of_stored _ stored decodes]
  lasting ns name value hns hname _ _ := reflects.shown ns name hns hname
  absent ns name hns hname gone := by
    rw [reflects.shown ns name hns hname, h.present?_of_absent _ gone]
  only ns name policy known := by
    obtain ⟨hns, hname⟩ := reflects.keyed ns name (by simp [known])
    refine ⟨hns, hname, ?_⟩
    cases stored : h.stored (storeKey start ns name) with
    | some value => rfl
    | none =>
      rw [reflects.shown ns name hns hname, h.present?_of_absent _ stored] at known
      cases known

/-- **A watcher that starts with no policies mirrors the store**, whatever the stream of pods
tells meanwhile. -/
theorem Watcher.mirrors_store {settings : Settings} {store : Store} {known : Follower} {w : Watcher}
    {pairs : List KeyValue} {messages : List Message}
    (starts : Watcher.start settings store known = .ok w) (listed : store.policies = some pairs)
    (fresh : known.catalog.policies = ∅) (going : .ended ∉ messages)
    (feed : PolicyFeed settings.policyPrefix pairs (policyEvents messages)) :
    Mirrors settings.policyPrefix ((History.listed pairs).recordAll (policyEvents messages))
      (w.receiveAll messages).follower.catalog := by
  obtain ⟨policies, pods, hpolicies, _, rfl⟩ := start_eq_ok starts
  obtain rfl := Option.some.inj (listed.symm.trans hpolicies)
  have run := feed.told.run (Reflects.load feed fresh pods) fun _ _ _ truthful reflects =>
    reflects.step truthful
  rw [Follower.foldl_policyEvent] at run
  rw [follower_receiveAll _ rfl messages going]
  apply Reflects.mirrors
  constructor
  · intro ns name hns hname
    rw [Follower.policy?_takePods]
    exact run.shown ns name hns hname
  · intro ns name isSome
    rw [Follower.policy?_takePods] at isSome
    exact run.keyed ns name isSome
  · exact run.filed

end Placement.Watch

namespace Placement.Shop

open Watch

/-- The policy is overwritten with what does not decode, and a pod comes. -/
def overwritten : List Message :=
  [.policies [written (spoiled plainPair) (some plainPair)], .pods [written visitorPair]]

theorem filed_plain {pair : KeyValue} (key : pair.key = storeKey start "shop" "web")
    (only : ∀ policy, pair.policy? = some policy → policy = plain) :
    Filed start pair.key (some pair.value) := by
  refine ⟨"shop", "web", by decide, by decide, key, ?_⟩
  intro policy decodes
  rw [Option.bind_some, ← KeyValue.policy?] at decodes
  rw [only policy decodes]
  exact ⟨rfl, rfl⟩

theorem feed_overwritten : PolicyFeed start [plainPair] (policyEvents overwritten) := by
  constructor
  · simp
  · intro pair listed
    obtain rfl := List.mem_singleton.mp listed
    exact filed_plain rfl (by simp)
  · refine (History.throughout_cons _).mpr ⟨⟨?_, ?_⟩, History.throughout_nil _⟩
    · exact ⟨spoiled plainPair, rfl, filed_plain rfl (by simp)⟩
    · rintro _ ⟨⟩
      right
      simp [written, spoiled, History.pair?, History.stored, History.listed]

/-- A policy that is overwritten with what does not decode is known as it was. -/
theorem mirrors_overwritten :
    Watcher.start {} { policies := some [plainPair] } {} =
        .ok ⟨start, Follower.load {} [plainPair] [], true⟩ ∧
      (Watcher.receiveAll ⟨start, Follower.load {} [plainPair] [], true⟩
        overwritten).follower.catalog.Knows plain := by
  have starts : Watcher.start {} { policies := some [plainPair] } {} =
      .ok ⟨start, Follower.load {} [plainPair] [], true⟩ := rfl
  have mirrors := Watcher.mirrors_store starts rfl rfl (by simp [overwritten]) feed_overwritten
  let history := (History.listed [plainPair]).add plainPair.key (some (spoiled plainPair).value)
  have undecodable : Manifest.readPolicy (spoiled plainPair).value = none := policy?_spoiled _
  have stored : history.stored plainPair.key = some (spoiled plainPair).value := by
    simp [history, History.stored]
  have listed : (History.listed [plainPair]).present? Manifest.readPolicy plainPair.key =
      some plain :=
    (History.present?_listed _ (by simp)).mpr
      ⟨plainPair, List.mem_singleton_self _, rfl, policy?_plainPair⟩
  have present : history.present? Manifest.readPolicy plainPair.key = some plain := by
    rw [History.present?_add, if_pos rfl, Option.bind_some, undecodable, Option.none_or, listed]
  have shown := mirrors.lasting "shop" "web" _ (by decide) (by decide) stored undecodable
  exact ⟨starts, shown.trans present⟩

end Placement.Shop
