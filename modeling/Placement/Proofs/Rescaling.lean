import Placement.Proofs.Scoring

/-!
# What rescaling does to scores

Rescaling rounds down, so that scores that differed may become equal.  It keeps the names and
their order, and never turns two scores round; and since only the highest scores reach the upper
end of the scale, the same nodes are best before and after.  Scores that are on the scale already
stay where they are.

## Main definitions

* `Steering.leaders` — the names of the nodes with the highest score.

The main statements are `Steering.rescale_rescale`, `Steering.leaders_rescale`, and
`Steering.normalize_places` on the phase as a whole.
-/

namespace Placement

variable {scores : List NodeScore} {s t : NodeScore} {low high score : Int}

namespace Steering

/-! ## The scale -/

/-- Nothing on the scale is below its lower end. -/
theorem minScore_le_scale (above : low ≤ score) (below : score ≤ high) :
    minScore ≤ scale low high score := by
  have lowest := scale_mono (Int.le_trans above below) above
  rwa [scale_lowest] at lowest

/-- The upper end is reached by the highest score, unless all are equal. -/
theorem scale_eq_maxScore_iff (above : low ≤ score) (below : score ≤ high) :
    scale low high score = maxScore ↔ low < high ∧ score = high := by
  constructor
  · intro top
    have apart : low ≠ high := by
      rintro rfl
      rw [scale, Int.sub_self, if_pos rfl] at top
      cases top
    have lt : low < high := by omega
    refine ⟨lt, ?_⟩
    by_contra lower
    have := scale_lt lt (lt_of_le_of_ne below lower)
    omega
  · rintro ⟨lt, rfl⟩
    exact scale_highest lt

/-- Nothing on the scale is above its upper end. -/
theorem scale_le_maxScore (above : low ≤ score) (below : score ≤ high) :
    scale low high score ≤ maxScore := by
  have highest := scale_mono (Int.le_trans above below) below
  by_cases flat : low = high
  · subst flat
    rw [scale_lowest] at highest
    exact Int.le_trans highest (by decide)
  · rwa [scale_highest (by omega)] at highest

/-- On the scale from one end to the other everything stays where it is. -/
theorem scale_scale (score : Int) : scale minScore maxScore score = score := by
  rw [scale, if_neg (by decide), Int.mul_ediv_cancel _ (by decide)]
  omega

/-! ## Whole lists -/

/-- **Rescaling twice is rescaling once.** -/
theorem rescale_rescale (scores : List NodeScore) : rescale (rescale scores) = rescale scores := by
  by_cases empty : scores = []
  · rw [empty]
    rfl
  obtain ⟨low, high, ⟨bottom, hbottom, rfl⟩, ⟨top, htop, rfl⟩, ends, scaled⟩ :=
    exists_rescale_eq empty
  have some_scaled : rescale scores ≠ [] := by simp [scaled, empty]
  obtain ⟨low', high', ⟨s', hs', rfl⟩, ⟨t', ht', rfl⟩, ends', scaled'⟩ :=
    exists_rescale_eq some_scaled
  rw [scaled] at hs' ht' ends'
  obtain ⟨s, hs, rfl⟩ := List.mem_map.mp hs'
  obtain ⟨t, ht, rfl⟩ := List.mem_map.mp ht'
  -- The ends of the scaled scores are where the lowest and the highest one came to.
  have lowest : scale bottom.score top.score s.score = minScore := by
    have below := (ends' _ (List.mem_map_of_mem hbottom)).1
    rw [scale_lowest] at below
    exact le_antisymm below (minScore_le_scale (ends s hs).1 (ends s hs).2)
  have highest : scale bottom.score top.score t.score =
      scale bottom.score top.score top.score :=
    le_antisymm (scale_mono (ends top htop).1 (ends t ht).2)
      (ends' _ (List.mem_map_of_mem htop)).2
  rw [scaled', scaled, List.map_map]
  refine List.map_congr_left fun u hu => congrArg (NodeScore.mk u.name) ?_
  show scale (scale bottom.score top.score s.score) (scale bottom.score top.score t.score)
    (scale bottom.score top.score u.score) = _
  rw [lowest, highest]
  by_cases flat : bottom.score = top.score
  · have same : u.score = bottom.score := by
      have := ends u hu
      omega
    rw [same, scale_lowest, scale_lowest]
  · rw [scale_highest (lt_of_le_of_ne (ends top htop).1 flat), scale_scale]

/-- The names of the nodes that no other one exceeds in score. -/
def leaders (scores : List NodeScore) : List String :=
  (scores.filter fun s => scores.all fun t => t.score ≤ s.score).map (·.name)

/-- **The same nodes are best before and after.** -/
theorem leaders_rescale (scores : List NodeScore) : leaders (rescale scores) = leaders scores := by
  by_cases empty : scores = []
  · rw [empty]
    rfl
  obtain ⟨low, high, _, ⟨top, htop, rfl⟩, ends, scaled⟩ := exists_rescale_eq empty
  rw [scaled, leaders, leaders, List.filter_map, List.map_map]
  refine congrArg (List.map _) (List.filter_congr fun s hs => ?_)
  rw [Bool.eq_iff_iff]
  simp only [Function.comp_apply, List.all_map, List.all_eq_true, decide_eq_true_eq]
  constructor
  · intro leads t ht
    rw [eq_of_scale_le (ends s hs).1 (ends s hs).2 (leads top htop)]
    exact (ends t ht).2
  · intro leads t ht
    exact scale_mono (ends top htop).1 (leads t ht)

/-- Rescaling gives every score a place on the scale, in the same order.  Lowest scores come to the
lower end and highest ones to the upper end; if all are equal, they come to the lower end. -/
structure Places (scores : List NodeScore) (place : Int → Int) : Prop where
  on_scale : ∀ s ∈ scores, 0 ≤ place s.score ∧ place s.score ≤ 100
  lowest : ∀ s ∈ scores, (∀ t ∈ scores, s.score ≤ t.score) → place s.score = 0
  mono : ∀ s ∈ scores, ∀ t ∈ scores, s.score ≤ t.score → place s.score ≤ place t.score
  highest : ∀ s ∈ scores, place s.score = 100 ↔
    (∀ t ∈ scores, t.score ≤ s.score) ∧ ∃ t ∈ scores, t.score ≠ s.score
  flat : (∀ s ∈ scores, ∀ t ∈ scores, s.score = t.score) → ∀ s ∈ scores, place s.score = 0

theorem exists_places (scores : List NodeScore) :
    ∃ place, Places scores place ∧
      rescale scores = scores.map fun s => { s with score := place s.score } := by
  by_cases empty : scores = []
  · subst empty
    exact ⟨id, by constructor <;> simp, rfl⟩
  obtain ⟨low, high, ⟨bottom, hbottom, rfl⟩, ⟨top, htop, rfl⟩, ends, scaled⟩ :=
    exists_rescale_eq empty
  have lowest : ∀ s ∈ scores, (∀ t ∈ scores, s.score ≤ t.score) →
      scale bottom.score top.score s.score = 0 := by
    intro s hs least
    rw [le_antisymm (least bottom hbottom) (ends s hs).1]
    exact scale_lowest _ _
  refine ⟨scale bottom.score top.score, ?_, scaled⟩
  constructor
  case on_scale =>
    intro s hs
    exact ⟨minScore_le_scale (ends s hs).1 (ends s hs).2,
      scale_le_maxScore (ends s hs).1 (ends s hs).2⟩
  case lowest => exact lowest
  case mono =>
    intro s _ t _ le
    exact scale_mono (ends top htop).1 le
  case highest =>
    intro s hs
    refine (scale_eq_maxScore_iff (ends s hs).1 (ends s hs).2).trans ⟨?_, ?_⟩
    · rintro ⟨lt, is_top⟩
      exact ⟨fun t ht => is_top ▸ (ends t ht).2, bottom, hbottom, by omega⟩
    · rintro ⟨most, t, ht, other⟩
      have is_top : s.score = top.score := le_antisymm (ends s hs).2 (most top htop)
      have := ends t ht
      exact ⟨by omega, is_top⟩
  case flat =>
    intro equal s hs
    exact lowest s hs fun t ht => le_of_eq (equal s hs t ht)

/-- **Rescaling brings scores onto one scale and keeps who is best.**  It succeeds, keeps the names
and their order, and gives each score a place from 0 to 100; the same nodes have the highest score
afterwards, the same one of them is picked, and doing it again changes nothing. -/
theorem normalize_places (pod : Pod) (scores : List NodeScore) (desk : Desk) :
    (∃ place, Places scores place ∧ (normalize pod scores desk).1 =
      (scores.map fun s => { s with score := place s.score }, .success)) ∧
    leaders (normalize pod scores desk).1.1 = leaders scores ∧
    (Host.best? (normalize pod scores desk).1.1).map (·.name) =
      (Host.best? scores).map (·.name) ∧
    ∀ pod' desk', (normalize pod' (normalize pod scores desk).1.1 desk').1 =
      (normalize pod scores desk).1 := by
  have scaled (pod : Pod) (scores : List NodeScore) (desk : Desk) :
      (normalize pod scores desk).1 = (rescale scores, .success) := rfl
  simp only [scaled]
  refine ⟨?_, leaders_rescale scores, ?_, fun _ _ => by rw [rescale_rescale]⟩
  · obtain ⟨place, places, rescaled⟩ := exists_places scores
    exact ⟨place, places, by rw [rescaled]⟩
  · by_cases empty : scores = []
    · rw [empty]
      rfl
    obtain ⟨best, found⟩ := Host.exists_best? empty
    obtain ⟨place, found'⟩ := best?_rescale found
    rw [found, found']
    rfl

/-- Scores below the upper end may become equal, those below zero too. -/
example : rescale [⟨"a", -7⟩, ⟨"b", 0⟩, ⟨"c", 1⟩, ⟨"d", 900⟩] =
    [⟨"a", 0⟩, ⟨"b", 0⟩, ⟨"c", 0⟩, ⟨"d", 100⟩] := by
  decide

end Steering

end Placement
