import TextureGraph.Proofs.Binary32.Integral
import TextureGraph.Proofs.Lookup
import TextureGraph.Proofs.Table.Edits

/-!
# Segments of a band

Between its first and its last offset a band interpolates on the one segment that encloses the
amount. Offsets may repeat; a segment has different ends all the same, for it takes its lower
end in and leaves its upper end out.
-/

namespace TextureGraph

namespace Band

open Binary32

variable {band : Band} {amount : Binary32}

/-! ## Halving search -/

/-- The search finds the end of a run of positions that starts where it starts. Whatever half
it keeps, the end of the run is not lost. -/
theorem runEnd_eq {test : ℕ → Bool} {base size last : ℕ} (size_pos : 0 < size)
    (base_le : base ≤ last) (le_end : last ≤ base + size)
    (run : ∀ i, base ≤ i → i < base + size → (test i ↔ i < last)) :
    runEnd test base size = last := by
  fun_induction runEnd test base size with
  | case1 base size small passes =>
    have := (run base le_rfl (by omega)).mp passes
    omega
  | case2 base size small fails =>
    have := mt (run base le_rfl (by omega)).mpr fails
    omega
  | case3 base size large half inductionHypothesis =>
    have middle := run (base + half) (by omega) (by omega)
    by_cases passes : test (base + half)
    · rw [dif_pos passes] at inductionHypothesis
      rw [if_pos passes]
      have := middle.mp passes
      exact inductionHypothesis (by omega) (by omega) (by omega)
        fun i above below => run i (by omega) (by omega)
    · rw [dif_neg passes] at inductionHypothesis
      rw [if_neg passes]
      have := mt middle.mpr passes
      exact inductionHypothesis (by omega) base_le (by omega)
        fun i above below => run i above (by omega)

/-! ## Segments -/

/-- The segment behind a control point encloses an amount. -/
structure Encloses (band : Band) (k : ℕ) (low high amount : Binary32) : Prop where
  low_found : band.offsets[k]? = some low
  high_found : band.offsets[k + 1]? = some high
  low_le : low ≤ amount
  lt_high : amount < high

/-- The test of the search, for a position that has an offset. -/
theorem passes_iff {i : ℕ} {offset : Binary32} (found : band.offsets[i]? = some offset) :
    (band.offsets[i]?).any (fun offset => decide (offset ≤ amount)) ↔ offset ≤ amount := by
  rw [found]
  simp

theorem WellFormed.le_of_position_le (wellFormed : band.WellFormed) {i j : ℕ} (le : i ≤ j)
    {first second : Binary32} (firstFound : band.offsets[i]? = some first)
    (secondFound : band.offsets[j]? = some second) : first ≤ second := by
  obtain ⟨i_lt, rfl⟩ := List.getElem?_eq_some_iff.mp firstFound
  obtain ⟨j_lt, rfl⟩ := List.getElem?_eq_some_iff.mp secondFound
  rcases le.lt_or_eq with lt | rfl
  · exact List.pairwise_iff_getElem.mp wellFormed.pairwise_le i j i_lt j_lt lt
  · have number := isNaN_eq_false_of_isFinite
      (wellFormed.finite _ (List.getElem_mem i_lt))
    exact le_iff.mpr ⟨number, number, le_rfl⟩

theorem WellFormed.pairedCount_eq (wellFormed : band.WellFormed) :
    band.pairedCount = band.offsets.length := by
  rw [pairedCount, ← wellFormed.paired, min_self]

namespace Encloses

variable {k : ℕ} {low high : Binary32}

/-- The search ends at the upper end of the segment. -/
theorem upperIndex_eq (encloses : band.Encloses k low high amount)
    (wellFormed : band.WellFormed) : band.upperIndex amount = k + 1 := by
  obtain ⟨lowFound, highFound, low_le, lt_high⟩ := encloses
  have upper_lt := (List.getElem?_eq_some_iff.mp highFound).1
  have count_eq := wellFormed.pairedCount_eq
  refine runEnd_eq (by omega) (Nat.zero_le _) (by omega) fun i _ below => ?_
  have i_lt : i < band.offsets.length := by omega
  have found := List.getElem?_eq_getElem i_lt
  rw [passes_iff found]
  constructor
  · intro passes
    by_contra above
    have high_le := wellFormed.le_of_position_le (not_lt.mp above) highFound found
    exact not_lt_of_le (Binary32.le_trans high_le passes) lt_high
  · intro before
    exact Binary32.le_trans
      (wellFormed.le_of_position_le (Nat.le_of_lt_succ before) found lowFound) low_le

/-- There is but one segment around an amount. -/
theorem position_eq (encloses : band.Encloses k low high amount) (wellFormed : band.WellFormed)
    {j : ℕ} {low' high' : Binary32} (other : band.Encloses j low' high' amount) : j = k :=
  Nat.succ.inj ((other.upperIndex_eq wellFormed).symm.trans (encloses.upperIndex_eq wellFormed))

theorem exists_colors (encloses : band.Encloses k low high amount)
    (wellFormed : band.WellFormed) :
    ∃ lowColor highColor,
      band.values[k]? = some lowColor ∧ band.values[k + 1]? = some highColor := by
  have upper_lt := (List.getElem?_eq_some_iff.mp encloses.high_found).1
  rw [wellFormed.paired] at upper_lt
  exact ⟨_, _, List.getElem?_eq_getElem (Nat.lt_of_succ_lt upper_lt),
    List.getElem?_eq_getElem upper_lt⟩

theorem zero_lt_span (encloses : band.Encloses k low high amount)
    (wellFormed : band.WellFormed) : 0 < high - low :=
  zero_lt_sub (wellFormed.finite _ (List.mem_of_getElem? encloses.low_found))
    (wellFormed.finite _ (List.mem_of_getElem? encloses.high_found))
    (Binary32.lt_of_le_of_lt encloses.low_le encloses.lt_high)

end Encloses

/-- An amount from the first offset on and below the last one stands between two neighbours,
the first offset above it and the one before. -/
theorem WellFormed.exists_encloses (wellFormed : band.WellFormed) {first last : Binary32}
    (firstFound : band.offsets[0]? = some first)
    (lastFound : band.offsets[band.offsets.length - 1]? = some last) (first_le : first ≤ amount)
    (lt_last : amount < last) : ∃ k low high, band.Encloses k low high amount := by
  classical
  have above : ∃ i offset, band.offsets[i]? = some offset ∧ amount < offset :=
    ⟨_, last, lastFound, lt_last⟩
  obtain ⟨high, highFound, lt_high⟩ := Nat.find_spec above
  cases found : Nat.find above with
  | zero =>
    rw [found, firstFound] at highFound
    cases highFound
    exact absurd lt_high (not_lt_of_le first_le)
  | succ k =>
    rw [found] at highFound
    have k_lt : k < band.offsets.length := by
      have := (List.getElem?_eq_some_iff.mp highFound).1
      omega
    have lowFound := List.getElem?_eq_getElem k_lt
    have not_above : ¬ amount < band.offsets[k] := by
      intro lt_low
      have earliest := Nat.find_min' above ⟨_, lowFound, lt_low⟩
      omega
    have low_number := isNaN_eq_false_of_isFinite (wellFormed.finite _ (List.getElem_mem k_lt))
    have low_le := (lt_or_le (le_iff.mp first_le).2.1 low_number).resolve_left not_above
    exact ⟨k, _, high, lowFound, highFound, low_le, lt_high⟩

/-! ## Lookups -/

section

variable {first last : Binary32}

theorem pairedCount_pos (wellFormed : band.WellFormed)
    (firstFound : band.offsets[0]? = some first) : 0 < band.pairedCount :=
  wellFormed.pairedCount_eq ▸ (List.getElem?_eq_some_iff.mp firstFound).1

theorem lookup?_before (wellFormed : band.WellFormed)
    (firstFound : band.offsets[0]? = some first) (before : amount.isNaN ∨ amount < first) :
    band.lookup? amount = band.values[0]? := by
  have paired := pairedCount_pos wellFormed firstFound
  have early : (amount.isNaN || decide (amount < first)) := by simpa using before
  simp only [lookup?, Option.pure_def, Option.bind_eq_bind, if_neg paired.ne', firstFound,
    Option.bind_some, if_pos early]

/-- From the first offset on the first colour is not read any more. -/
theorem not_early (first_le : first ≤ amount) : ¬ (amount.isNaN || decide (amount < first)) := by
  simp [(le_iff.mp first_le).2.1, not_lt_of_le first_le]

theorem lookup?_after (wellFormed : band.WellFormed)
    (firstFound : band.offsets[0]? = some first)
    (lastFound : band.offsets[band.offsets.length - 1]? = some last) (last_le : last ≤ amount) :
    band.lookup? amount = band.values[band.offsets.length - 1]? := by
  have paired := pairedCount_pos wellFormed firstFound
  have first_le : first ≤ amount := Binary32.le_trans
    (wellFormed.le_of_position_le (Nat.zero_le _) firstFound lastFound) last_le
  rw [wellFormed.pairedCount_eq] at paired
  simp only [lookup?, Option.pure_def, Option.bind_eq_bind, wellFormed.pairedCount_eq,
    if_neg paired.ne', firstFound, lastFound, Option.bind_some, if_neg (not_early first_le),
    if_pos last_le]

/-- On a segment the answer is interpolated; neither the guard of the search nor the fallback
for an empty span is taken. -/
theorem Encloses.lookup?_eq {k : ℕ} {low high : Binary32}
    (encloses : band.Encloses k low high amount) (wellFormed : band.WellFormed)
    {lowColor highColor : Vec3} (lowColorFound : band.values[k]? = some lowColor)
    (highColorFound : band.values[k + 1]? = some highColor) :
    band.lookup? amount = some (lowColor.lerp highColor ((amount - low) / (high - low))) := by
  have upper_eq := encloses.upperIndex_eq wellFormed
  have span_pos := encloses.zero_lt_span wellFormed
  obtain ⟨lowFound, highFound, low_le, lt_high⟩ := encloses
  have upper_lt := (List.getElem?_eq_some_iff.mp highFound).1
  have zero_lt : 0 < band.offsets.length := by omega
  have last_lt : band.offsets.length - 1 < band.offsets.length := by omega
  have firstFound := List.getElem?_eq_getElem zero_lt
  have lastFound := List.getElem?_eq_getElem last_lt
  have first_le : band.offsets[0] ≤ amount := Binary32.le_trans
    (wellFormed.le_of_position_le (Nat.zero_le k) firstFound lowFound) low_le
  have lt_last : amount < band.offsets[band.offsets.length - 1] := Binary32.lt_of_lt_of_le
    lt_high (wellFormed.le_of_position_le (by omega) highFound lastFound)
  have guard : ¬ (k + 1 = 0 ∨ band.offsets.length ≤ k + 1) := by omega
  simp only [lookup?, Option.pure_def, Option.bind_eq_bind, wellFormed.pairedCount_eq,
    if_neg zero_lt.ne', firstFound, lastFound, Option.bind_some, if_neg (not_early first_le),
    if_neg (fun last_le => not_lt_of_le last_le lt_last), upper_eq, if_neg guard,
    Nat.add_sub_cancel, lowFound, highFound, lowColorFound, highColorFound, if_pos span_pos]

end

/-- What a lookup answers for an amount, given the first and the last offset. -/
structure Selects (band : Band) (first last amount : Binary32) : Prop where
  answers : ∃ color, band.lookup? amount = some color
  before : amount.isNaN ∨ amount < first → band.lookup? amount = band.values[0]?
  after : last ≤ amount → band.lookup? amount = band.values[band.offsets.length - 1]?
  between : ¬ amount.isNaN → ¬ amount < first → ¬ last ≤ amount →
    ∃ k low high lowColor highColor,
      band.Encloses k low high amount ∧
      (∀ {j low' high'}, band.Encloses j low' high' amount → j = k) ∧
      band.values[k]? = some lowColor ∧ band.values[k + 1]? = some highColor ∧
      band.upperIndex amount = k + 1 ∧ k + 1 < band.offsets.length ∧ 0 < high - low ∧
      band.lookup? amount = some (lowColor.lerp highColor ((amount - low) / (high - low)))

theorem WellFormed.selects (wellFormed : band.WellFormed) {first last : Binary32}
    (firstFound : band.offsets[0]? = some first)
    (lastFound : band.offsets[band.offsets.length - 1]? = some last) (amount : Binary32) :
    band.Selects first last amount where
  answers := exists_lookup?_eq_some band amount
  before := lookup?_before wellFormed firstFound
  after := lookup?_after wellFormed firstFound lastFound
  between := by
    intro isNumber not_below not_after
    have number : amount.isNaN = false := by simpa using isNumber
    have first_number := isNaN_eq_false_of_isFinite
      (wellFormed.finite _ (List.mem_of_getElem? firstFound))
    have last_number := isNaN_eq_false_of_isFinite
      (wellFormed.finite _ (List.mem_of_getElem? lastFound))
    have first_le := (lt_or_le number first_number).resolve_left not_below
    have lt_last := (lt_or_le number last_number).resolve_right not_after
    obtain ⟨k, low, high, encloses⟩ :=
      wellFormed.exists_encloses firstFound lastFound first_le lt_last
    obtain ⟨lowColor, highColor, lowColorFound, highColorFound⟩ :=
      encloses.exists_colors wellFormed
    exact ⟨k, low, high, lowColor, highColor, encloses,
      fun other => encloses.position_eq wellFormed other, lowColorFound, highColorFound,
      encloses.upperIndex_eq wellFormed,
      (List.getElem?_eq_some_iff.mp encloses.high_found).1, encloses.zero_lt_span wellFormed,
      encloses.lookup?_eq wellFormed lowColorFound highColorFound⟩

/-- What a table accepts as a band is enough for every lookup in it. -/
theorem selects_of_accepted {images : List Image} {id : NodeId}
    (accepted : (TextureKind.band band).check images id = .ok ()) {first last : Binary32}
    (firstFound : band.offsets[0]? = some first)
    (lastFound : band.offsets[band.offsets.length - 1]? = some last) (amount : Binary32) :
    band.Selects first last amount :=
  (TextureKind.check_eq_ok_iff.mp accepted : band.WellFormed).selects firstFound lastFound amount

/-- Black up to one half and white from there on, with a hard step between them. -/
def stepped : Band where
  offsets := [0, 0.5, 0.5, 1]
  values := [Vec3.zero, Vec3.zero, Vec3.one, Vec3.one]

/-- At the step the segment behind it is read. -/
theorem stepped_selects :
    (TextureKind.band stepped).check [] 0 = .ok () ∧ stepped.Selects 0 1 0.5 := by
  have accepted : (TextureKind.band stepped).check [] 0 = .ok () := by decide +kernel
  exact ⟨accepted, selects_of_accepted accepted rfl rfl 0.5⟩

end Band

end TextureGraph
