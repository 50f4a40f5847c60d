import Mathlib.Data.List.Nodup
import Placement.Proofs.Watch.Streams

/-!
# Loading over what is known already

A watcher that starts takes in what the store lists.  The pods are taken in as if they were
just being written.  The policies are not: one that is known already stays as it is, and
one that is not listed any more stays as well.  So a watcher that is started again over what
an earlier one knew agrees with the store exactly when nothing that was known has changed.

## Main definitions

* `Catalog.Knows` — a policy is in the catalog.
* `Follower.loadPolicies` — taking in the policies of a listing.

The main statements are `load_eq`, `policy?_loadPolicies` and `knows_load_iff` on a load, and
`knows_listed_iff` and `knows_listed_iff_of_unwatched` on a start.
-/

namespace Placement

/-- A policy is in the catalog, under its namespace and name. -/
def Catalog.Knows (catalog : Catalog) (policy : Policy) : Prop :=
  catalog.policy? policy.ns policy.name = some policy

instance (catalog : Catalog) (policy : Policy) : Decidable (catalog.Knows policy) :=
  inferInstanceAs (Decidable (_ = _))

namespace Watch

variable {settings : Settings} {store : Store} {known : Follower} {w : Watcher}
  {pairs : List KeyValue}

/-- The policy of that namespace and name, of several the first. -/
def named? (policies : List Policy) (ns name : String) : Option Policy :=
  policies.find? fun policy => policy.ns = ns ∧ policy.name = name

theorem named?_mem {policies : List Policy} {ns name : String} {policy : Policy}
    (h : named? policies ns name = some policy) :
    policy ∈ policies ∧ policy.ns = ns ∧ policy.name = name :=
  ⟨List.mem_of_find?_eq_some h, by simpa using List.find?_some h⟩

/-- Among policies of different names each is the one of its name. -/
theorem named?_self {policies : List Policy} {policy : Policy}
    (distinct : (policies.map fun policy => (policy.ns, policy.name)).Nodup)
    (there : policy ∈ policies) : named? policies policy.ns policy.name = some policy := by
  have found : (named? policies policy.ns policy.name).isSome :=
    List.find?_isSome.mpr ⟨policy, there, by simp⟩
  obtain ⟨first, hfirst⟩ := Option.isSome_iff_exists.mp found
  obtain ⟨there', hns, hname⟩ := named?_mem hfirst
  have same : first = policy :=
    List.inj_on_of_nodup_map distinct there' there (Prod.ext hns hname)
  rw [hfirst, same]

namespace Follower

variable (f : Follower)

/-- Takes in the policies of a listing. -/
def loadPolicies (f : Follower) (policies : List KeyValue) : Follower :=
  let found := policies.filterMap KeyValue.policy?
  { f with catalog := found.foldl (fun catalog policy => (catalog.addPolicy policy).2) f.catalog }

/-- The pods of a listing are taken in as if they were written. -/
theorem load_eq (policies pods : List KeyValue) :
    f.load policies pods =
      (f.loadPolicies policies).takePods ((pods.filterMap KeyValue.pod?).map .put) := by
  have written (found : List Pod) (catalog : Catalog) :
      takePods { f with catalog := catalog } (found.map .put) =
        { f with catalog := found.foldl (fun catalog pod => (catalog.putPod pod).2) catalog } := by
    induction found generalizing catalog with
    | nil => rfl
    | cons pod found ih => exact ih (catalog.putPod pod).2
  exact (written _ _).symm

/-- **Of a policy that is known already the known version stays**; of the others the first
that is listed counts. -/
theorem policy?_loadPolicies (policies : List KeyValue) (ns name : String) :
    (f.loadPolicies policies).catalog.policy? ns name =
      (f.catalog.policy? ns name).or (named? (policies.filterMap KeyValue.policy?) ns name) := by
  simp only [loadPolicies]
  generalize policies.filterMap KeyValue.policy? = found
  generalize f.catalog = catalog
  induction found generalizing catalog with
  | nil => simp [named?]
  | cons policy found ih =>
    rw [List.foldl_cons, ih, Catalog.policy?_addPolicy, named?, named?, List.find?_cons]
    by_cases same : policy.ns = ns ∧ policy.name = name
    · simp [same]
    · simp [same]

theorem policy?_load (policies pods : List KeyValue) (ns name : String) :
    (f.load policies pods).catalog.policy? ns name =
      (f.catalog.policy? ns name).or (named? (policies.filterMap KeyValue.policy?) ns name) := by
  rw [load_eq, policy?_takePods, policy?_loadPolicies]

/-- **What is known after a load are the listed policies and no others exactly when all that was
known is listed as it was known.** -/
theorem knows_load_iff (pods : List KeyValue)
    (distinct : ((pairs.filterMap KeyValue.policy?).map fun p => (p.ns, p.name)).Nodup) :
    (∀ policy, (f.load pairs pods).catalog.Knows policy ↔
        policy ∈ pairs.filterMap KeyValue.policy?) ↔
      ∀ policy, f.catalog.Knows policy → policy ∈ pairs.filterMap KeyValue.policy? := by
  have lookup := f.policy?_load pairs pods
  constructor
  · intro agrees policy before
    apply (agrees policy).mp
    rw [Catalog.Knows] at before ⊢
    rw [lookup, before, Option.some_or]
  · intro unchanged policy
    rw [Catalog.Knows, lookup]
    cases before : f.catalog.policy? policy.ns policy.name with
    | none =>
      rw [Option.none_or]
      exact ⟨fun found => (named?_mem found).1, named?_self distinct⟩
    | some old =>
      -- What was known under this name is listed, so it is what is listed under this name.
      have named := f.catalog.policies_named _ _ old before
      have there : old ∈ pairs.filterMap KeyValue.policy? :=
        unchanged old (by rw [Catalog.Knows, named.1, named.2, before])
      have only := named?_self distinct there
      rw [named.1, named.2] at only
      rw [Option.some_or]
      constructor
      · intro same
        exact Option.some.inj same ▸ there
      · intro listed
        rw [← only, named?_self distinct listed]

end Follower

namespace Watcher

/-- A start takes in what both listings found, whether or not the streams open then, or fails
before it takes in anything. -/
theorem start_cases (settings : Settings) (store : Store) (known : Follower) :
    (∃ policies pods, store.policies = some policies ∧ store.pods = some pods ∧
      (start settings store known = .ok ⟨settings.policyPrefix, known.load policies pods, true⟩ ∨
        start settings store known = .error (.unwatched (known.load policies pods)))) ∨
      ∃ e, start settings store known = .error e ∧ ∀ loaded, e ≠ .unwatched loaded := by
  unfold start
  split
  next => exact .inr ⟨_, rfl, nofun⟩
  next =>
    split
    next => exact .inr ⟨_, rfl, nofun⟩
    next => exact .inr ⟨_, rfl, nofun⟩
    next policies pods hpolicies hpods =>
      refine .inl ⟨policies, pods, hpolicies, hpods, ?_⟩
      dsimp only
      split
      next => exact .inr rfl
      next => exact .inl rfl

/-- A watcher that starts has loaded what both listings found. -/
theorem start_eq_ok (h : start settings store known = .ok w) :
    ∃ policies pods, store.policies = some policies ∧ store.pods = some pods ∧
      w = ⟨settings.policyPrefix, known.load policies pods, true⟩ := by
  obtain ⟨policies, pods, hpolicies, hpods, starts | fails⟩ | ⟨e, fails, _⟩ :=
    start_cases settings store known
  · exact ⟨policies, pods, hpolicies, hpods, Except.ok.inj (h.symm.trans starts)⟩
  · cases h.symm.trans fails
  · cases h.symm.trans fails

/-- A watcher whose streams do not open has loaded what both listings found all the same. -/
theorem start_eq_unwatched {loaded : Follower}
    (h : start settings store known = .error (.unwatched loaded)) :
    ∃ policies pods, store.policies = some policies ∧ store.pods = some pods ∧
      loaded = known.load policies pods := by
  obtain ⟨policies, pods, hpolicies, hpods, starts | fails⟩ | ⟨e, fails, other⟩ :=
    start_cases settings store known
  · cases h.symm.trans starts
  · have same := Except.error.inj (h.symm.trans fails)
    exact ⟨policies, pods, hpolicies, hpods, StartError.unwatched.inj same⟩
  · exact absurd (Except.error.inj (h.symm.trans fails)).symm (other loaded)

/-- **A watcher that is started over what is known already knows the listed policies and no
others exactly when all that was known is listed as it was known**: when no policy has been
edited or deleted since. -/
theorem knows_listed_iff (starts : start settings store known = .ok w)
    (listed : store.policies = some pairs)
    (distinct : ((pairs.filterMap KeyValue.policy?).map fun p => (p.ns, p.name)).Nodup) :
    (∀ policy, w.follower.catalog.Knows policy ↔ policy ∈ pairs.filterMap KeyValue.policy?) ↔
      ∀ policy, known.catalog.Knows policy → policy ∈ pairs.filterMap KeyValue.policy? := by
  obtain ⟨policies, pods, hpolicies, _, rfl⟩ := start_eq_ok starts
  obtain rfl := Option.some.inj (listed.symm.trans hpolicies)
  exact known.knows_load_iff pods distinct

/-- **The same holds of what is known when the streams do not open**: the failure does not take
back what was loaded. -/
theorem knows_listed_iff_of_unwatched {loaded : Follower}
    (fails : start settings store known = .error (.unwatched loaded))
    (listed : store.policies = some pairs)
    (distinct : ((pairs.filterMap KeyValue.policy?).map fun p => (p.ns, p.name)).Nodup) :
    (∀ policy, loaded.catalog.Knows policy ↔ policy ∈ pairs.filterMap KeyValue.policy?) ↔
      ∀ policy, known.catalog.Knows policy → policy ∈ pairs.filterMap KeyValue.policy? := by
  obtain ⟨policies, pods, hpolicies, _, rfl⟩ := start_eq_unwatched fails
  obtain rfl := Option.some.inj (listed.symm.trans hpolicies)
  exact known.knows_load_iff pods distinct

end Watcher

end Watch

namespace Shop

open Watch

/-- What an earlier watcher knew, of a policy that has not changed since. -/
def current : Follower where
  catalog := (Catalog.upsertPolicy ∅ plain).2

/-- Where nothing has changed, exactly what is listed is known. -/
theorem knows_current :
    Watcher.start {} { policies := some [plainPair] } current =
        .ok ⟨start, current.load [plainPair] [], true⟩ ∧
      ∀ policy, (current.load [plainPair] []).catalog.Knows policy ↔ policy = plain := by
  have starts : Watcher.start {} { policies := some [plainPair] } current =
      .ok ⟨start, current.load [plainPair] [], true⟩ := rfl
  have agrees := (Watcher.knows_listed_iff starts rfl (by simp)).mpr <| by
      intro policy before
      rw [Catalog.Knows, current, Catalog.policy?_upsertPolicy] at before
      split at before
      next => simpa using (Option.some.inj before).symm
      next => cases before
  exact ⟨starts, by simpa using agrees⟩

/-- What an earlier watcher knew: the policy under an older weight, and one that has been
deleted since. -/
def outdated : Follower where
  catalog := ((Catalog.upsertPolicy ∅ { plain with weight := 7 }).2.upsertPolicy
    { plain with name := "gone" }).2

/-- What the watcher knows that is started over it. -/
def resumed : Watcher :=
  ⟨start, outdated.load [plainPair] [], true⟩

/-- A policy that was edited while nobody watched keeps its old content, and one that was
deleted is still there. -/
theorem resumed_outdated :
    Watcher.start {} { policies := some [plainPair] } outdated = .ok resumed ∧
      resumed.follower.catalog.Knows { plain with weight := 7 } ∧
      resumed.follower.catalog.Knows { plain with name := "gone" } ∧
      ¬∀ policy, resumed.follower.catalog.Knows policy ↔
        policy ∈ [plainPair].filterMap KeyValue.policy? := by
  have edited : resumed.follower.catalog.Knows { plain with weight := 7 } := by
    rw [Catalog.Knows, resumed, Follower.policy?_load]
    decide
  have deleted : resumed.follower.catalog.Knows { plain with name := "gone" } := by
    rw [Catalog.Knows, resumed, Follower.policy?_load]
    decide
  refine ⟨rfl, edited, deleted, fun agrees => ?_⟩
  have listed := (agrees { plain with weight := 7 }).mp edited
  simp [plain] at listed

end Shop

end Placement
