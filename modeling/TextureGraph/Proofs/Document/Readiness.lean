import TextureGraph.Proofs.Document.Arrangement

/-!
# Textures in the order in which they become ready

A texture becomes ready when the last of its inputs is placed. What is ready is placed first
come first served, so an order that is found lists textures by the place of their last input
and, where that is the same, as the document does. It follows that they stand level by level.
-/

namespace TextureGraph

/-- One more than the highest of some numbers, and zero if there are none. -/
def oneAbove (numbers : List Nat) : Nat :=
  match numbers.max? with
  | none => 0
  | some highest => highest + 1

theorem oneAbove_eq_zero_iff {numbers : List Nat} : oneAbove numbers = 0 ↔ numbers = [] := by
  rw [oneAbove, ← List.max?_eq_none_iff]
  cases numbers.max? with
  | none => simp
  | some highest => simp

theorem oneAbove_eq_succ_iff {numbers : List Nat} {highest : Nat} :
    oneAbove numbers = highest + 1 ↔
      highest ∈ numbers ∧ ∀ number ∈ numbers, number ≤ highest := by
  rw [oneAbove, ← List.max?_eq_some_iff]
  cases numbers.max? with
  | none => simp
  | some other => simp

theorem lt_oneAbove_of_mem {numbers : List Nat} {number : Nat} (member : number ∈ numbers) :
    number < oneAbove numbers := by
  cases above : oneAbove numbers with
  | zero =>
      rw [oneAbove_eq_zero_iff.mp above] at member
      cases member
  | succ highest => exact Nat.lt_succ_of_le ((oneAbove_eq_succ_iff.mp above).2 number member)

namespace Document

/-- Number of places that are taken when a position becomes ready: none without inputs, and else
those up to the last of its inputs. -/
def readyAfter (sources : List (List Nat)) (placed : List Nat) (i : Nat) : Nat :=
  oneAbove ((sources[i]?.getD []).map placed.idxOf)

/-- One position becomes ready before another one, or both do so together and it stands before
the other one in the document. -/
def Earlier (sources : List (List Nat)) (placed : List Nat) (i j : Nat) : Prop :=
  readyAfter sources placed i < readyAfter sources placed j ∨
    readyAfter sources placed i = readyAfter sources placed j ∧ i < j

section

variable {sources : List (List Nat)} {ready placed : List Nat} {next i j : Nat}

theorem Earlier.readyAfter_le (earlier : Earlier sources placed i j) :
    readyAfter sources placed i ≤ readyAfter sources placed j := by
  rcases earlier with before | ⟨together, _⟩
  · exact Nat.le_of_lt before
  · exact Nat.le_of_eq together

theorem Earlier.asymm (earlier : Earlier sources placed i j) : ¬ Earlier sources placed j i := by
  unfold Earlier at earlier ⊢
  omega

/-! ## Places do not change once they are taken -/

theorem readyAfter_append (supplied : Supplied sources placed i) (more : List Nat) :
    readyAfter sources (placed ++ more) i = readyAfter sources placed i := by
  rcases supplied with ⟨inputs, found, inside⟩
  have same : inputs.map (placed ++ more).idxOf = inputs.map placed.idxOf := by
    apply List.map_congr_left
    intro input member
    exact List.idxOf_append_of_mem (inside input member)
  rw [readyAfter, readyAfter, found, Option.getD_some, same]

theorem readyAfter_le_length (supplied : Supplied sources placed i) :
    readyAfter sources placed i ≤ placed.length := by
  rcases supplied with ⟨inputs, found, inside⟩
  rw [readyAfter, found, Option.getD_some]
  cases above : oneAbove (inputs.map placed.idxOf) with
  | zero => exact Nat.zero_le _
  | succ highest =>
      rcases List.mem_map.mp (oneAbove_eq_succ_iff.mp above).1 with ⟨input, member, rfl⟩
      exact List.idxOf_lt_length_of_mem (inside input member)

/-- What is released waited for the position that was placed last. -/
theorem readyAfter_of_mem_released (fresh : next ∉ placed)
    (member : i ∈ released sources (placed ++ [next]) next) :
    readyAfter sources (placed ++ [next]) i = placed.length + 1 := by
  rcases mem_released_iff.mp member with ⟨inputs, found, waits, supplied⟩
  rw [readyAfter, found, Option.getD_some, oneAbove_eq_succ_iff]
  constructor
  · apply List.mem_map.mpr
    refine ⟨next, waits, ?_⟩
    rw [List.idxOf_append_of_notMem fresh, List.idxOf_cons_self, Nat.add_zero]
  · intro place given
    rcases List.mem_map.mp given with ⟨input, feeds, rfl⟩
    have inside := List.idxOf_lt_length_of_mem (supplied input feeds)
    rw [List.length_append, List.length_singleton] at inside
    exact Nat.le_of_lt_succ inside

/-! ## The queue -/

/-- At the start everything that is ready has been so from the beginning. -/
theorem pairwise_earlier_start (sources : List (List Nat)) :
    ((List.range sources.length).filter fun i => sources[i]?.any List.isEmpty).Pairwise
      (Earlier sources []) := by
  have unfed {i : Nat} (member : i ∈ (List.range sources.length).filter
      fun i => sources[i]?.any List.isEmpty) : readyAfter sources [] i = 0 := by
    rcases ((Placing.start sources).mem_iff i).mp member with ⟨inputs, found, none_placed⟩
    have empty : inputs = [] :=
      List.eq_nil_iff_forall_not_mem.mpr fun input feeds => by cases none_placed input feeds
    rw [readyAfter, found, empty]
    rfl
  apply (List.pairwise_lt_range.filter _).imp_of_mem
  intro i j first second ahead
  right
  exact ⟨(unfed first).trans (unfed second).symm, ahead⟩

/-- What is released queues up behind everything that is placed or ready. -/
theorem pairwise_earlier_step (placing : Placing sources (next :: ready) placed)
    (queued : (placed ++ next :: ready).Pairwise (Earlier sources placed)) :
    (placed ++ [next] ++ (ready ++ released sources (placed ++ [next]) next)).Pairwise
      (Earlier sources (placed ++ [next])) := by
  have rearranged : placed ++ [next] ++ (ready ++ released sources (placed ++ [next]) next) =
      (placed ++ next :: ready) ++ released sources (placed ++ [next]) next := by
    simp
  have fresh := placing.next_not_mem
  have unchanged {i : Nat} (member : i ∈ placed ++ next :: ready) :
      readyAfter sources (placed ++ [next]) i = readyAfter sources placed i :=
    readyAfter_append ((placing.mem_iff i).mp member) _
  rw [rearranged, List.pairwise_append]
  refine ⟨?_, ?_, ?_⟩
  · apply queued.imp_of_mem
    intro i j first second earlier
    rwa [Earlier, unchanged first, unchanged second]
  · apply (List.pairwise_lt_range.filter _).imp_of_mem
    intro i j first second ahead
    right
    constructor
    · rw [readyAfter_of_mem_released fresh first, readyAfter_of_mem_released fresh second]
    · exact ahead
  · intro i before j after
    left
    rw [unchanged before, readyAfter_of_mem_released fresh after]
    exact Nat.lt_succ_of_le (readyAfter_le_length ((placing.mem_iff i).mp before))

/-- In the end everything is placed in the order in which it became ready. -/
theorem pairwise_earlier_place (remaining : Nat) (placing : Placing sources ready placed)
    (queued : (placed ++ ready).Pairwise (Earlier sources placed)) :
    (place sources remaining ready placed).Pairwise
      (Earlier sources (place sources remaining ready placed)) := by
  induction remaining generalizing ready placed with
  | zero => exact (List.pairwise_append.mp queued).1
  | succ remaining ih =>
      cases ready with
      | nil => exact (List.pairwise_append.mp queued).1
      | cons next ready => exact ih placing.step (pairwise_earlier_step placing queued)

end

/-! ## Orders that are found -/

variable {document : Document} {positions : List Nat} {i j : Nat}

theorem pairwise_earlier_of_order (found : document.order = .ok positions) :
    positions.Pairwise (Earlier document.sourceIndices positions) := by
  obtain ⟨_, _, rfl, _⟩ := order_eq_ok_iff.mp found
  have ordered := pairwise_earlier_place document.sourceIndices.length
    (Placing.start document.sourceIndices) (pairwise_earlier_start document.sourceIndices)
  rwa [length_sourceIndices] at ordered

/-- Textures are placed by the time at which they become ready. -/
theorem idxOf_lt_iff_earlier (found : document.order = .ok positions) (first : i ∈ positions)
    (second : j ∈ positions) :
    positions.idxOf i < positions.idxOf j ↔ Earlier document.sourceIndices positions i j := by
  have placed_before {i j : Nat} (first : i ∈ positions) (second : j ∈ positions)
      (before : positions.idxOf i < positions.idxOf j) :
      Earlier document.sourceIndices positions i j := by
    have earlier := List.pairwise_iff_getElem.mp (pairwise_earlier_of_order found) _ _
      (List.idxOf_lt_length_of_mem first) (List.idxOf_lt_length_of_mem second) before
    rwa [List.getElem_idxOf, List.getElem_idxOf] at earlier
  constructor
  · exact placed_before first second
  · intro earlier
    by_contra notBefore
    rcases Nat.eq_or_lt_of_le (Nat.not_lt.mp notBefore) with same | after
    · obtain rfl := (List.idxOf_inj second).mp same
      exact earlier.asymm earlier
    · exact earlier.asymm (placed_before second first after)

/-! ## Last inputs -/

/-- The one of the inputs of a position that is placed last. -/
structure LastInput (document : Document) (positions : List Nat) (i input : Nat) : Prop where
  feeds : input ∈ document.inputsAt i
  last : ∀ other ∈ document.inputsAt i, positions.idxOf other ≤ positions.idxOf input

/-- The same input is the last one of two positions, or they both have none. -/
def SameLastInput (document : Document) (positions : List Nat) (i j : Nat) : Prop :=
  (document.inputsAt i = [] ∧ document.inputsAt j = []) ∨
    ∃ input, document.LastInput positions i input ∧ document.LastInput positions j input

theorem readyAfter_of_unfed (unfed : document.inputsAt i = []) :
    readyAfter document.sourceIndices positions i = 0 := by
  rw [readyAfter, ← inputsAt, unfed]
  rfl

theorem LastInput.readyAfter_eq {input : Nat} (isLast : document.LastInput positions i input) :
    readyAfter document.sourceIndices positions i = positions.idxOf input + 1 := by
  rw [readyAfter, ← inputsAt, oneAbove_eq_succ_iff]
  constructor
  · exact List.mem_map_of_mem isLast.feeds
  · intro place given
    rcases List.mem_map.mp given with ⟨other, feeds, rfl⟩
    exact isLast.last other feeds

theorem unfed_or_exists_lastInput (document : Document) (positions : List Nat) (i : Nat) :
    document.inputsAt i = [] ∨ ∃ input, document.LastInput positions i input := by
  cases above : oneAbove ((document.inputsAt i).map positions.idxOf) with
  | zero => exact .inl (List.map_eq_nil_iff.mp (oneAbove_eq_zero_iff.mp above))
  | succ highest =>
      obtain ⟨highest_mem, highest_max⟩ := oneAbove_eq_succ_iff.mp above
      rcases List.mem_map.mp highest_mem with ⟨input, feeds, rfl⟩
      exact .inr ⟨input, feeds, fun other member => highest_max _ (List.mem_map_of_mem member)⟩

theorem mem_of_mem_inputsAt (found : document.order = .ok positions)
    (feeds : j ∈ document.inputsAt i) : j ∈ positions := by
  have before := idxOf_lt_of_mem_inputsAt found feeds
  exact List.idxOf_lt_length_iff.mp (Nat.lt_of_lt_of_le before List.idxOf_le_length)

/-- Positions become ready together just if they have the same last input. -/
theorem readyAfter_eq_iff (found : document.order = .ok positions) :
    readyAfter document.sourceIndices positions i = readyAfter document.sourceIndices positions j ↔
      document.SameLastInput positions i j := by
  constructor
  · intro together
    rcases document.unfed_or_exists_lastInput positions i with unfed | ⟨input, isLast⟩
    · rw [readyAfter_of_unfed unfed] at together
      rcases document.unfed_or_exists_lastInput positions j with otherUnfed | ⟨other, otherLast⟩
      · exact .inl ⟨unfed, otherUnfed⟩
      · rw [otherLast.readyAfter_eq] at together
        cases together
    · rw [isLast.readyAfter_eq] at together
      rcases document.unfed_or_exists_lastInput positions j with otherUnfed | ⟨other, otherLast⟩
      · rw [readyAfter_of_unfed otherUnfed] at together
        cases together
      · rw [otherLast.readyAfter_eq, Nat.add_right_cancel_iff] at together
        obtain rfl := (List.idxOf_inj (mem_of_mem_inputsAt found isLast.feeds)).mp together
        exact .inr ⟨input, isLast, otherLast⟩
  · rintro (⟨unfed, otherUnfed⟩ | ⟨input, isLast, otherLast⟩)
    · rw [readyAfter_of_unfed unfed, readyAfter_of_unfed otherUnfed]
    · rw [isLast.readyAfter_eq, otherLast.readyAfter_eq]

/-! ## Levels -/

/-- Level of a position as far as chains of so many inputs show it. -/
def levelWithin (document : Document) : Nat → Nat → Nat
  | 0, _ => 0
  | steps + 1, i => oneAbove ((document.inputsAt i).map (document.levelWithin steps))

/-- Level of a position: zero without inputs, and else one more than the highest level of an
input. No chain of inputs has more steps than there are textures. -/
def level (document : Document) (i : Nat) : Nat :=
  document.levelWithin document.textures.length i

/-- Chains of inputs that end at a place have no more steps than places stand before it. -/
theorem levelWithin_succ (found : document.order = .ok positions) {steps : Nat}
    (enough : positions.idxOf i < steps) :
    document.levelWithin (steps + 1) i = document.levelWithin steps i := by
  induction steps generalizing i with
  | zero => exact absurd enough (Nat.not_lt_zero _)
  | succ steps ih =>
      have same : (document.inputsAt i).map (document.levelWithin (steps + 1)) =
          (document.inputsAt i).map (document.levelWithin steps) := by
        apply List.map_congr_left
        intro input feeds
        have before := idxOf_lt_of_mem_inputsAt found feeds
        exact ih (Nat.lt_of_lt_of_le before (Nat.le_of_lt_succ enough))
      rw [levelWithin, same, levelWithin]

theorem level_eq (found : document.order = .ok positions) (placed : i ∈ positions) :
    document.level i = oneAbove ((document.inputsAt i).map document.level) := by
  have enough : positions.idxOf i < document.textures.length := by
    have inside := List.idxOf_lt_length_of_mem placed
    rwa [(perm_range_of_order found).length_eq, List.length_range] at inside
  rw [level, ← levelWithin_succ found enough, levelWithin]
  rfl

theorem level_lt_of_mem_inputsAt (found : document.order = .ok positions) (placed : i ∈ positions)
    (feeds : j ∈ document.inputsAt i) : document.level j < document.level i := by
  rw [level_eq found placed]
  exact lt_oneAbove_of_mem (List.mem_map_of_mem feeds)

/-- What is placed no later is on no higher level. -/
theorem level_le_of_idxOf_le (found : document.order = .ok positions) (first : i ∈ positions)
    (second : j ∈ positions) (noLater : positions.idxOf i ≤ positions.idxOf j) :
    document.level i ≤ document.level j := by
  -- The highest input of the first one is placed no later than the last one of the second one.
  induction place_eq : positions.idxOf j using Nat.strongRecOn generalizing i j with
  | ind place ih =>
      subst place_eq
      rcases Nat.eq_or_lt_of_le noLater with same | before
      · rw [(List.idxOf_inj first).mp same]
      · rw [level_eq found first]
        cases above : oneAbove ((document.inputsAt i).map document.level) with
        | zero => exact Nat.zero_le _
        | succ highest =>
            rcases List.mem_map.mp (oneAbove_eq_succ_iff.mp above).1 with ⟨input, feeds, rfl⟩
            have placed : positions.idxOf input <
                readyAfter document.sourceIndices positions i :=
              lt_oneAbove_of_mem (List.mem_map_of_mem feeds)
            have earlier := (idxOf_lt_iff_earlier found first second).mp before
            have waits := Nat.lt_of_lt_of_le placed earlier.readyAfter_le
            rcases document.unfed_or_exists_lastInput positions j with unfed | ⟨last, isLast⟩
            · rw [readyAfter_of_unfed unfed] at waits
              cases waits
            · rw [isLast.readyAfter_eq] at waits
              have noHigher := ih _ (idxOf_lt_of_mem_inputsAt found isLast.feeds)
                (mem_of_mem_inputsAt found feeds) (mem_of_mem_inputsAt found isLast.feeds)
                (Nat.le_of_lt_succ waits) rfl
              exact Nat.lt_of_le_of_lt noHigher (level_lt_of_mem_inputsAt found second isLast.feeds)

theorem pairwise_level_le (found : document.order = .ok positions) :
    positions.Pairwise fun i j => document.level i ≤ document.level j := by
  rw [List.pairwise_iff_getElem]
  intro first second firstInside secondInside before
  apply level_le_of_idxOf_le found (List.getElem_mem _) (List.getElem_mem _)
  have distinct := nodup_of_order found
  rw [distinct.idxOf_getElem, distinct.idxOf_getElem]
  exact Nat.le_of_lt before

/-- Textures of one level are placed by the places of their last inputs, and where they have
the same last input or both have none, as the document lists them. -/
theorem idxOf_lt_iff_of_level_eq (found : document.order = .ok positions) (first : i ∈ positions)
    (second : j ∈ positions) (sameLevel : document.level i = document.level j) :
    positions.idxOf i < positions.idxOf j ↔
      (∃ input other, document.LastInput positions i input ∧
        document.LastInput positions j other ∧ positions.idxOf input < positions.idxOf other) ∨
      document.SameLastInput positions i j ∧ i < j := by
  rw [idxOf_lt_iff_earlier found first second, Earlier, readyAfter_eq_iff found]
  apply or_congr_left
  constructor
  · intro before
    rcases document.unfed_or_exists_lastInput positions j with otherUnfed | ⟨other, otherLast⟩
    · rw [readyAfter_of_unfed otherUnfed] at before
      cases before
    · rcases document.unfed_or_exists_lastInput positions i with unfed | ⟨input, isLast⟩
      · have ground : document.level i = 0 := by
          rw [level_eq found first, unfed]
          rfl
        have above := level_lt_of_mem_inputsAt found second otherLast.feeds
        rw [← sameLevel, ground] at above
        cases above
      · rw [isLast.readyAfter_eq, otherLast.readyAfter_eq] at before
        exact ⟨input, other, isLast, otherLast, Nat.lt_of_succ_lt_succ before⟩
  · rintro ⟨input, other, isLast, otherLast, before⟩
    rw [isLast.readyAfter_eq, otherLast.readyAfter_eq]
    exact Nat.succ_lt_succ before

/-- Textures with the same inputs become ready together, so they keep their order. -/
theorem idxOf_lt_of_same_inputs (found : document.order = .ok positions)
    {first second : TextureEntry} (standsFirst : document.textures[i]? = some first)
    (standsSecond : document.textures[j]? = some second)
    (same : ∀ source, source ∈ first.inputs.values ↔ source ∈ second.inputs.values)
    (ahead : i < j) : positions.idxOf i < positions.idxOf j := by
  have distinct := (orderable_of_order found).names_nodup
  have placed {k : Nat} {entry : TextureEntry} (stands : document.textures[k]? = some entry) :
      k ∈ positions :=
    (mem_of_order found).mpr (List.getElem?_eq_some_iff.mp stands).1
  have sameInputs (input : Nat) : input ∈ document.inputsAt i ↔ input ∈ document.inputsAt j := by
    rw [mem_inputsAt_iff distinct standsFirst, mem_inputsAt_iff distinct standsSecond]
    simp only [same]
  apply (idxOf_lt_iff_earlier found (placed standsFirst) (placed standsSecond)).mpr
  right
  apply And.intro _ ahead
  apply (readyAfter_eq_iff found).mpr
  rcases document.unfed_or_exists_lastInput positions i with unfed | ⟨input, isLast⟩
  · left
    apply And.intro unfed
    apply List.eq_nil_iff_forall_not_mem.mpr
    intro input feeds
    rw [← sameInputs, unfed] at feeds
    cases feeds
  · right
    refine ⟨input, isLast, (sameInputs input).mp isLast.feeds, ?_⟩
    intro other feeds
    exact isLast.last other ((sameInputs other).mpr feeds)

/-- In an order that is found textures stand level by level, where a texture without inputs is on
level zero and any other one level above the highest of its inputs. On one level a texture stands
before another one just if its last input does or, where they have the same last input or both
have none, it is listed first. Textures with the same inputs keep the order of the document. -/
theorem order_by_level_and_readiness (found : document.order = .ok positions) :
    (∀ i ∈ positions, document.level i = oneAbove ((document.inputsAt i).map document.level)) ∧
    (positions.Pairwise fun i j => document.level i ≤ document.level j) ∧
    (∀ i ∈ positions, ∀ j ∈ positions, document.level i = document.level j →
      (positions.idxOf i < positions.idxOf j ↔
        (∃ input other, document.LastInput positions i input ∧
          document.LastInput positions j other ∧ positions.idxOf input < positions.idxOf other) ∨
        document.SameLastInput positions i j ∧ i < j)) ∧
    ∀ (i j : Nat) (first second : TextureEntry), document.textures[i]? = some first →
      document.textures[j]? = some second →
      (∀ source, source ∈ first.inputs.values ↔ source ∈ second.inputs.values) →
      i < j → positions.idxOf i < positions.idxOf j := by
  refine ⟨?_, pairwise_level_le found, ?_, ?_⟩
  · intro i placed
    exact level_eq found placed
  · intro i first j second sameLevel
    exact idxOf_lt_iff_of_level_eq found first second sameLevel
  · intro i j first second standsFirst standsSecond same ahead
    exact idxOf_lt_of_same_inputs found standsFirst standsSecond same ahead

/-- Two textures are listed before their inputs, crosswise, and one more has the same inputs as
the first of them. -/
def crossed : Document where
  version := "1"
  settings := .standard
  images := []
  textures := [
    ⟨"upper", "add", .empty, .ofList [("texture1", "dots"), ("texture2", "dots")]⟩,
    ⟨"lower", "abs", .empty, .ofList [("texture", "grain")]⟩,
    ⟨"grain", "wrinkled", .empty, .empty⟩,
    ⟨"dots", "uv", .empty, .empty⟩,
    ⟨"copy", "abs", .empty, .ofList [("texture", "dots")]⟩]

/-- The lower one is released first, as what it waits for is. -/
theorem order_by_level_and_readiness_crossed :
    crossed.order = .ok [2, 3, 1, 0, 4] ∧
      crossed.level 0 = oneAbove [crossed.level 3, crossed.level 3] ∧
      [2, 3, 1, 0, 4].Pairwise (fun i j => crossed.level i ≤ crossed.level j) ∧
      (∃ input other, crossed.LastInput [2, 3, 1, 0, 4] 1 input ∧
        crossed.LastInput [2, 3, 1, 0, 4] 0 other ∧
        [2, 3, 1, 0, 4].idxOf input < [2, 3, 1, 0, 4].idxOf other) ∧
      [2, 3, 1, 0, 4].idxOf 0 < [2, 3, 1, 0, 4].idxOf 4 := by
  have found : crossed.order = .ok [2, 3, 1, 0, 4] :=
    order_eq_ok_iff.mpr ⟨by decide, by decide, by decide, by decide⟩
  obtain ⟨levels, ordered, places, twins⟩ := order_by_level_and_readiness found
  have sameInputs : ∀ source, source ∈ crossed.textures[0].inputs.values ↔
      source ∈ crossed.textures[4].inputs.values := by
    simp [crossed, Dictionary.values, Dictionary.ofList, Dictionary.insert, Dictionary.empty]
  refine ⟨found, levels 0 (by decide), ordered, ?_, twins 0 4 _ _ rfl rfl sameInputs (by decide)⟩
  rcases (places 1 (by decide) 0 (by decide) (by decide)).mp (by decide) with last | ⟨_, ahead⟩
  · exact last
  · exact absurd ahead (by decide)

end Document

end TextureGraph
