import Placement.Proofs.Attempt

/-!
# Which node is chosen

Bringing scores onto one scale rounds, so that different scores may become equal.  The
highest ones stay apart from the rest all the same, and so the node that is chosen in the
end had the highest score in the beginning.

The main statements are `exists_rescale_eq` on the scale, and `best?_rescale` and
`outcome_agrees`: a pod that has joined goes to a node on its right side, if one of the
possible nodes is.
-/

namespace Placement

variable {scores : List NodeScore} {s t : NodeScore} {floor ceiling low high score : Int}

namespace Steering

/-! ## The ends of a list of scores -/

theorem floor_le_highest (floor : Int) (scores : List NodeScore) :
    floor ≤ highest floor scores := by
  induction scores generalizing floor with
  | nil => exact Int.le_refl floor
  | cons first rest ih => exact Int.le_trans (Int.le_max_left ..) (ih (max floor first.score))

theorem le_highest (hs : s ∈ scores) : s.score ≤ highest floor scores := by
  induction scores generalizing floor with
  | nil => cases hs
  | cons first rest ih =>
    rcases List.mem_cons.mp hs with rfl | hs
    · exact Int.le_trans (Int.le_max_right floor _) (floor_le_highest _ rest)
    · exact ih hs

/-- The highest score is the floor or is there. -/
theorem highest_eq (floor : Int) (scores : List NodeScore) :
    highest floor scores = floor ∨ ∃ s ∈ scores, s.score = highest floor scores := by
  induction scores generalizing floor with
  | nil => exact .inl rfl
  | cons first rest ih =>
    have same : highest floor (first :: rest) = highest (max floor first.score) rest := rfl
    rw [same]
    rcases ih (max floor first.score) with top | ⟨s, hs, top⟩
    · rw [top]
      rcases Int.le_total floor first.score with le | le
      · exact .inr ⟨first, List.mem_cons_self, by omega⟩
      · exact .inl (by omega)
    · exact .inr ⟨s, List.mem_cons_of_mem first hs, top⟩

theorem lowest_le_ceiling (ceiling : Int) (scores : List NodeScore) :
    lowest ceiling scores ≤ ceiling := by
  induction scores generalizing ceiling with
  | nil => exact Int.le_refl ceiling
  | cons first rest ih => exact Int.le_trans (ih (min ceiling first.score)) (Int.min_le_left ..)

theorem lowest_le (hs : s ∈ scores) : lowest ceiling scores ≤ s.score := by
  induction scores generalizing ceiling with
  | nil => cases hs
  | cons first rest ih =>
    rcases List.mem_cons.mp hs with rfl | hs
    · exact Int.le_trans (lowest_le_ceiling _ rest) (Int.min_le_right ceiling _)
    · exact ih hs

/-- The lowest score is the ceiling or is there. -/
theorem lowest_eq (ceiling : Int) (scores : List NodeScore) :
    lowest ceiling scores = ceiling ∨ ∃ s ∈ scores, s.score = lowest ceiling scores := by
  induction scores generalizing ceiling with
  | nil => exact .inl rfl
  | cons first rest ih =>
    have same : lowest ceiling (first :: rest) = lowest (min ceiling first.score) rest := rfl
    rw [same]
    rcases ih (min ceiling first.score) with bottom | ⟨s, hs, bottom⟩
    · rw [bottom]
      rcases Int.le_total ceiling first.score with le | le
      · exact .inl (by omega)
      · exact .inr ⟨first, List.mem_cons_self, by omega⟩
    · exact .inr ⟨s, List.mem_cons_of_mem first hs, bottom⟩

/-! ## Rescaling -/

/-- A score on the common scale, where the lowest is `low` and the highest `high`. -/
def scale (low high score : Int) : Int :=
  if high - low = 0 then minScore
  else (score - low) * (maxScore - minScore) / (high - low) + minScore

/-- The lowest score comes to the lower end. -/
theorem scale_lowest (low high : Int) : scale low high low = minScore := by
  rw [scale, Int.sub_self, Int.zero_mul, Int.zero_ediv, Int.zero_add, ite_self]

/-- The highest score comes to the upper end. -/
theorem scale_highest (h : low < high) : scale low high high = maxScore := by
  have cancel : (high - low) * (maxScore - minScore) / (high - low) = maxScore - minScore :=
    Int.mul_ediv_cancel_left _ (by omega)
  rw [scale, if_neg (by omega), cancel]
  omega

/-- Every other score stays below it. -/
theorem scale_lt (h : low < high) (below : score < high) : scale low high score < maxScore := by
  have scaled : (score - low) * (maxScore - minScore) / (high - low) < maxScore - minScore := by
    apply Int.ediv_lt_of_lt_mul (by omega)
    rw [Int.mul_comm (maxScore - minScore) (high - low)]
    exact Int.mul_lt_mul_of_pos_right (by omega) (by decide)
  rw [scale, if_neg (by omega)]
  omega

/-- The scale keeps the order. -/
theorem scale_mono {a b : Int} (h : low ≤ high) (le : a ≤ b) :
    scale low high a ≤ scale low high b := by
  by_cases flat : high - low = 0
  · rw [scale, scale, if_pos flat, if_pos flat]
  · have wider : (a - low) * (maxScore - minScore) ≤ (b - low) * (maxScore - minScore) :=
      Int.mul_le_mul_of_nonneg_right (by omega) (by decide)
    have scaled := Int.ediv_le_ediv (c := high - low) (by omega) wider
    rw [scale, scale, if_neg flat, if_neg flat]
    omega

/-- Only the highest score comes to where the highest score comes to. -/
theorem eq_of_scale_le (above : low ≤ score) (below : score ≤ high)
    (le : scale low high high ≤ scale low high score) : score = high := by
  by_contra other
  have lt : score < high := lt_of_le_of_ne below other
  have upper : scale low high high = maxScore := scale_highest (lt_of_le_of_lt above lt)
  have lower : scale low high score < maxScore := scale_lt (lt_of_le_of_lt above lt) lt
  omega

/-- **Rescaling measures every score on the scale from the lowest to the highest one.** -/
theorem exists_rescale_eq (h : scores ≠ []) :
    ∃ low high, (∃ s ∈ scores, s.score = low) ∧ (∃ s ∈ scores, s.score = high) ∧
      (∀ s ∈ scores, low ≤ s.score ∧ s.score ≤ high) ∧
      rescale scores = scores.map fun s => { s with score := scale low high s.score } := by
  cases scores with
  | nil => exact absurd rfl h
  | cons first rest =>
    refine ⟨lowest first.score rest, highest first.score rest, ?_, ?_, ?_, rfl⟩
    · rcases lowest_eq first.score rest with eq | ⟨s, hs, eq⟩
      · exact ⟨first, List.mem_cons_self, eq.symm⟩
      · exact ⟨s, List.mem_cons_of_mem first hs, eq⟩
    · rcases highest_eq first.score rest with eq | ⟨s, hs, eq⟩
      · exact ⟨first, List.mem_cons_self, eq.symm⟩
      · exact ⟨s, List.mem_cons_of_mem first hs, eq⟩
    · intro s hs
      rcases List.mem_cons.mp hs with rfl | hs
      · exact ⟨lowest_le_ceiling _ rest, floor_le_highest _ rest⟩
      · exact ⟨lowest_le hs, le_highest hs⟩

/-- **The best score before rescaling is the best one afterwards**, at its new place. -/
theorem best?_rescale (h : Host.best? scores = some s) :
    ∃ place, Host.best? (rescale scores) = some { s with score := place } := by
  have there : s ∈ scores := Host.best?_mem h
  obtain ⟨low, high, _, ⟨top, htop, rfl⟩, ends, scaled⟩ :=
    exists_rescale_eq (List.ne_nil_of_mem there)
  have highest : s.score = top.score := le_antisymm (ends s there).2 (Host.score_le_best? h htop)
  refine ⟨scale low top.score s.score, Host.best?_eq_some_iff.mpr ⟨?_, ?_⟩⟩
  · rw [scaled]
    exact List.mem_map_of_mem there
  · intro u hu
    rw [scaled] at hu
    obtain ⟨t, ht, rfl⟩ := List.mem_map.mp hu
    have le : scale low top.score t.score ≤ scale low top.score s.score :=
      scale_mono (ends top htop).1 (highest ▸ (ends t ht).2)
    rw [Host.not_beats_iff]
    refine (lt_or_eq_of_le le).imp_right fun same => ⟨same, ?_⟩
    -- Only the highest scores are as high afterwards, and of these the best had the least name.
    have equal : t.score = s.score := by
      rw [highest] at same ⊢
      exact eq_of_scale_le (ends t ht).1 (ends t ht).2 (le_of_eq same.symm)
    rcases Host.not_beats_iff.mp (Host.best?_unbeaten h ht) with lt | ⟨_, least⟩
    · omega
    · exact least

/-- **A pod that has joined goes to a node on its right side**, if some possible node is. -/
theorem outcome_agrees (pod : Pod) {nodes : List Node} {judged : Stage} {decision : Decision}
    {right : Node} (there : right ∈ possible (some judged) nodes)
    (agrees : decision.agrees right = true) :
    ∃ a, outcome pod nodes judged (.committed decision) = .ok a ∧
      ∃ node ∈ nodes, node.name = a.node ∧ decision.agrees node = true := by
  have some_left : (possible (some judged) nodes).isEmpty = false := by
    rw [List.isEmpty_eq_false_iff]
    exact List.ne_nil_of_mem there
  refine ⟨_, by rw [outcome, if_neg (by simp [some_left])], ?_⟩
  generalize hraw : rated pod (some (.committed decision)) (possible (some judged) nodes) = raw
  have right_rated : ⟨right.name, maxScore⟩ ∈ raw := by
    rw [← hraw]
    exact List.mem_map.mpr ⟨right, there, by simp [rating, agrees]⟩
  obtain ⟨best, found⟩ := Host.exists_best? (List.ne_nil_of_mem right_rated)
  obtain ⟨place, hbest⟩ := best?_rescale found
  have rated_best := Host.best?_mem found
  rw [← hraw] at rated_best
  obtain ⟨node, left, rfl⟩ := List.mem_map.mp rated_best
  refine ⟨node, (List.mem_filter.mp left).1, ?_, ?_⟩
  · simp [Host.assign, hbest]
  · have above := Host.score_le_best? found right_rated
    simp only [rating] at above
    split at above
    next agrees => exact agrees
    next => exact absurd above (by decide)

end Steering

end Placement
