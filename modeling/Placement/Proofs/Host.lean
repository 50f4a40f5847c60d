import Mathlib.Data.String.Basic
import Placement.Host

/-!
# What the host makes of a plugin

Statements about one attempt that hold for every plugin: what the plugin's reports on
single nodes come to for all of them, where they do not depend on the state, which of the
scores is the best, and which facts about the state an attempt keeps.

## Main definitions

* `Plugin.Keeps` — every call of the plugin keeps a fact about its state.

The main statements are `feasible_fst`, `collect_eq_ok`, `best?_unbeaten` and
`schedule_keeps`.
-/

namespace Placement

variable {σ α β : Type} {plugin : Plugin σ} {pod : Pod} {cycle : CycleState}

/-- Every call of a plugin keeps a fact about its state. -/
structure Plugin.Keeps (plugin : Plugin σ) (I : σ → Prop) : Prop where
  preFilter : ∀ pod nodes cycle s, I s → I (plugin.preFilter pod nodes cycle s).2.2
  filter : ∀ pod node cycle s, I s → I (plugin.filter pod node cycle s).2
  preScore : ∀ pod nodes cycle s, I s → I (plugin.preScore pod nodes cycle s).2.2
  score : ∀ pod node cycle s, I s → I (plugin.score pod node cycle s).2
  normalize : ∀ f ∈ plugin.normalize, ∀ pod scores cycle s, I s → I (f pod scores cycle s).2
  log : ∀ line s, I s → I (plugin.log line s)

namespace Host

/-! ## One step after another -/

theorem through_fst {step : α → σ → β × σ} {f : α → β} (h : ∀ a s, (step a s).1 = f a)
    (as : List α) (s : σ) : (through step as s).1 = as.map f := by
  induction as generalizing s with
  | nil => rfl
  | cons a as ih =>
    simp only [through, List.map_cons]
    rw [ih, h]

theorem through_keeps {step : α → σ → β × σ} {I : σ → Prop} (h : ∀ a s, I s → I (step a s).2)
    (as : List α) {s : σ} (hs : I s) : I (through step as s).2 := by
  induction as generalizing s with
  | nil => exact hs
  | cons a as ih => exact ih (h a s hs)

/-! ## Ruling nodes out -/

private theorem kept_eq_filter (f : Node → Status) (nodes : List Node) :
    ((nodes.zip (nodes.map f)).filter fun (_, status) => status.isSuccess).map (·.1) =
      nodes.filter fun node => (f node).isSuccess := by
  induction nodes with
  | nil => rfl
  | cons node nodes ih =>
    simp only [List.map_cons, List.zip_cons_cons, List.filter_cons]
    cases (f node).isSuccess <;> simp_all

/-- Where the reports on nodes do not depend on the state, exactly the nodes that are let
through are possible. -/
theorem feasible_fst (plugin : Plugin σ) (pod : Pod) (cycle : CycleState) {f : Node → Status}
    (h : ∀ node s, (plugin.filter pod node cycle s).1 = f node) (nodes : List Node) (s : σ) :
    (feasible plugin pod nodes cycle s).1 = nodes.filter fun node => (f node).isSuccess := by
  have statuses := through_fst h nodes s
  simp only [feasible, statuses]
  exact kept_eq_filter f nodes

theorem feasible_keeps (plugin : Plugin σ) (pod : Pod) (cycle : CycleState) {I : σ → Prop}
    (filters : ∀ node s, I s → I (plugin.filter pod node cycle s).2)
    (logs : ∀ line s, I s → I (plugin.log line s)) (nodes : List Node) {s : σ} (hs : I s) :
    I (feasible plugin pod nodes cycle s).2 := by
  have judged := through_keeps filters nodes hs
  have logged (ruledOut : List (Node × Status)) :
      ∀ s, I s → I (ruledOut.foldl
        (fun s (node, status) => plugin.log (.ruledOut pod node status) s) s) := by
    induction ruledOut with
    | nil => exact fun s hs => hs
    | cons entry rest ih => exact fun s hs => ih _ (logs _ s hs)
  exact logged _ _ judged

/-! ## Scoring -/

/-- Where every node can be scored, each has its score. -/
theorem collect_eq_ok {f : Node → Int × Status} {nodes : List Node}
    (h : ∀ node ∈ nodes, (f node).2.isSuccess) :
    collect (nodes.zip (nodes.map f)) = .ok (nodes.map fun node => ⟨node.name, (f node).1⟩) := by
  induction nodes with
  | nil => rfl
  | cons node nodes ih =>
    have rest := ih fun other hm => h other (List.mem_cons_of_mem node hm)
    simp only [List.map_cons, List.zip_cons_cons, collect, rest]
    rw [if_pos (h node List.mem_cons_self)]
    rfl

/-- Where a node cannot be scored, the first such node tells why. -/
theorem collect_eq_error {f : Node → Int × Status} {before after : List Node} {node : Node}
    (scored : ∀ other ∈ before, (f other).2.isSuccess) (fails : (f node).2.isSuccess = false) :
    collect ((before ++ node :: after).zip ((before ++ node :: after).map f)) =
      .error (f node).2 := by
  induction before with
  | nil =>
    simp only [List.nil_append, List.map_cons, List.zip_cons_cons, collect]
    rw [if_neg (by simp [fails])]
  | cons first before ih =>
    have rest := ih fun other hm => scored other (List.mem_cons_of_mem first hm)
    simp only [List.cons_append, List.map_cons, List.zip_cons_cons, collect, rest]
    rw [if_pos (scored first List.mem_cons_self)]
    rfl

theorem scores_keeps (plugin : Plugin σ) (pod : Pod) (cycle : CycleState) {I : σ → Prop}
    (rates : ∀ node s, I s → I (plugin.score pod node cycle s).2)
    (scales : ∀ f ∈ plugin.normalize, ∀ raw s, I s → I (f pod raw cycle s).2)
    (nodes : List Node) {s : σ} (hs : I s) : I (scores plugin pod nodes cycle s).2 := by
  have rated := through_keeps rates nodes hs
  simp only [scores]
  split
  next => exact rated
  next raw _ =>
    split
    next => exact rated
    next normalize present => exact scales normalize present raw _ rated

/-! ## The best of scores -/

section Best

variable {scores : List NodeScore} {s t : NodeScore}

theorem best?_mem (h : best? scores = some s) : s ∈ scores := by
  induction scores generalizing s with
  | nil => cases h
  | cons first rest ih =>
    simp only [best?] at h
    split at h
    next =>
      obtain rfl := Option.some.inj h
      exact List.mem_cons_self
    next other found =>
      split at h
      · obtain rfl := Option.some.inj h
        exact List.mem_cons_of_mem first (ih found)
      · obtain rfl := Option.some.inj h
        exact List.mem_cons_self

theorem exists_best? (h : scores ≠ []) : ∃ s, best? scores = some s := by
  cases scores with
  | nil => exact absurd rfl h
  | cons first rest =>
    simp only [best?]
    split
    · exact ⟨_, rfl⟩
    · split <;> exact ⟨_, rfl⟩

/-- A score is not beaten by lower ones, nor by equal ones of no lesser name. -/
theorem not_beats_iff :
    beats t s = false ↔ t.score < s.score ∨ t.score = s.score ∧ s.name ≤ t.name := by
  simp only [beats, Bool.or_eq_false_iff, Bool.and_eq_false_iff, decide_eq_false_iff_not,
    beq_eq_false_iff_ne, not_lt]
  constructor
  · rintro ⟨le, differ | least⟩
    · exact .inl (lt_of_le_of_ne le differ)
    · exact (lt_or_eq_of_le le).imp_right fun same => ⟨same, least⟩
  · rintro (lt | ⟨same, least⟩)
    · exact ⟨le_of_lt lt, .inl (ne_of_lt lt)⟩
    · exact ⟨le_of_eq same, .inr least⟩

theorem not_beats_self (s : NodeScore) : beats s s = false :=
  not_beats_iff.mpr (.inr ⟨rfl, le_refl _⟩)

theorem not_beats_trans {u : NodeScore} (h : beats u t = false) (h' : beats t s = false) :
    beats u s = false := by
  rw [not_beats_iff] at *
  obtain lt | ⟨same, least⟩ := h
  · exact .inl (by omega)
  · obtain lt' | ⟨same', least'⟩ := h'
    · exact .inl (by omega)
    · exact .inr ⟨by omega, le_trans least' least⟩

theorem not_beats_of_beats (h : beats t s = true) : beats s t = false := by
  simp only [beats, Bool.or_eq_true, decide_eq_true_eq, Bool.and_eq_true, beq_iff_eq] at h
  rw [not_beats_iff]
  exact h.imp_right fun ⟨same, least⟩ => ⟨same.symm, le_of_lt least⟩

/-- No score beats the best. -/
theorem best?_unbeaten (h : best? scores = some s) (ht : t ∈ scores) : beats t s = false := by
  induction scores generalizing s with
  | nil => cases ht
  | cons first rest ih =>
    simp only [best?] at h
    split at h
    next none_left =>
      obtain rfl := Option.some.inj h
      rcases List.mem_cons.mp ht with rfl | ht
      · exact not_beats_self t
      · obtain ⟨other, found⟩ := exists_best? (List.ne_nil_of_mem ht)
        rw [none_left] at found
        cases found
    next other found =>
      split at h
      next beaten =>
        obtain rfl := Option.some.inj h
        rcases List.mem_cons.mp ht with rfl | ht
        · exact not_beats_of_beats beaten
        · exact ih found ht
      next unbeaten =>
        obtain rfl := Option.some.inj h
        rcases List.mem_cons.mp ht with rfl | ht
        · exact not_beats_self t
        · exact not_beats_trans (ih found ht) (Bool.eq_false_iff.mpr unbeaten)

/-- Of two scores that do not beat each other there is one only. -/
theorem eq_of_not_beats (h : beats t s = false) (h' : beats s t = false) : s = t := by
  obtain lt | ⟨score, le⟩ := not_beats_iff.mp h
  · obtain lt' | ⟨score', _⟩ := not_beats_iff.mp h' <;> omega
  · obtain lt' | ⟨_, ge⟩ := not_beats_iff.mp h'
    · omega
    · have name : s.name = t.name := le_antisymm le ge
      cases s
      cases t
      simp_all

/-- **The best is the one score that none beats.** -/
theorem best?_eq_some_iff :
    best? scores = some s ↔ s ∈ scores ∧ ∀ t ∈ scores, beats t s = false := by
  constructor
  · exact fun h => ⟨best?_mem h, fun t ht => best?_unbeaten h ht⟩
  · rintro ⟨there, unbeaten⟩
    obtain ⟨t, found⟩ := exists_best? (List.ne_nil_of_mem there)
    rw [found, eq_of_not_beats (best?_unbeaten found there) (unbeaten t (best?_mem found))]

/-- No score is higher than the best. -/
theorem score_le_best? (h : best? scores = some s) (ht : t ∈ scores) : t.score ≤ s.score := by
  rcases not_beats_iff.mp (best?_unbeaten h ht) with lt | ⟨same, _⟩
  · exact le_of_lt lt
  · exact le_of_eq same

end Best

/-! ## The whole attempt -/

/-- **An attempt keeps what every call of the plugin keeps.** -/
theorem schedule_keeps {I : σ → Prop} (h : plugin.Keeps I) (pod : Pod) (nodes : List Node)
    {s : σ} (hs : I s) : I (schedule plugin pod nodes s).2 := by
  have looked := h.preFilter pod nodes ∅ s hs
  generalize hp : plugin.preFilter pod nodes ∅ s = first at looked
  obtain ⟨status, cycle, s₁⟩ := first
  have judged := feasible_keeps plugin pod cycle (fun node s => h.filter pod node cycle s) h.log
    nodes looked
  generalize hf : feasible plugin pod nodes cycle s₁ = second at judged
  obtain ⟨possible, s₂⟩ := second
  have ranked := h.preScore pod possible cycle s₂ judged
  generalize hr : plugin.preScore pod possible cycle s₂ = third at ranked
  obtain ⟨status', cycle', s₃⟩ := third
  simp only [schedule, hp, hf, hr]
  split
  · exact looked
  split
  · exact judged
  split
  · exact ranked
  · exact scores_keeps plugin pod cycle' (fun node s => h.score pod node cycle' s)
      (fun f hf raw s => h.normalize f hf pod raw cycle' s) possible ranked

end Host

end Placement
