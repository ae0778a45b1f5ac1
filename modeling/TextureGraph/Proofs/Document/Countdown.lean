import Mathlib.Data.List.Dedup
import TextureGraph.Proofs.Document.Placement

/-!
# Placing textures by counting down

Each position counts the different inputs that it still waits for. Setting up the links position
by position gives these counts, and placing keeps one invariant: the counts are those of the
inputs not placed yet, so what is counted down to zero is what is released. What is placed by
counting is what can be placed, and what still waits in the end is exactly what is not placed.
-/

namespace TextureGraph

theorem getElem?_map_range {α : Type} (f : Nat → α) (count i : Nat) :
    ((List.range count).map f)[i]? = if i < count then some (f i) else none := by
  rw [List.getElem?_map]
  split
  next inside => rw [List.getElem?_range inside, Option.map_some]
  next outside => rw [List.getElem?_eq_none (by simpa using outside), Option.map_none]

namespace Document

/-- Number of the different inputs that are not placed. -/
def unplacedCount (placed inputs : List Nat) : Nat :=
  (inputs.dedup.filter fun input => !placed.contains input).length

/-- Positions that a position feeds, each of them once. -/
def fedBy (sources : List (List Nat)) (i : Nat) : List Nat :=
  (List.range sources.length).filter fun fed => sources[fed]?.any (·.contains i)

section

variable {sources first : List (List Nat)} {ready placed inputs positions : List Nat}
  {next i : Nat}

/-! ## Counting -/

@[simp]
theorem unplacedCount_nil : unplacedCount placed [] = 0 :=
  rfl

theorem unplacedCount_eq_zero_iff :
    unplacedCount placed inputs = 0 ↔ ∀ input ∈ inputs, input ∈ placed := by
  simp [unplacedCount]

/-- When an input is placed, one less is not, however often it is listed. -/
theorem unplacedCount_of_mem (fresh : next ∉ placed) (waits : next ∈ inputs) :
    unplacedCount placed inputs = unplacedCount (placed ++ [next]) inputs + 1 := by
  have unplaced : next ∈ inputs.dedup.filter fun input => !placed.contains input := by
    simp [fresh, waits]
  have left : (inputs.dedup.filter fun input => !(placed ++ [next]).contains input) =
      (inputs.dedup.filter fun input => !placed.contains input).erase next := by
    rw [(inputs.nodup_dedup.filter _).erase_eq_filter, List.filter_filter]
    apply List.filter_congr
    intro input _
    by_cases same : input = next <;> simp [same]
  rw [unplacedCount, unplacedCount, left, List.length_erase_of_mem unplaced]
  have positive := List.length_pos_of_mem unplaced
  omega

theorem unplacedCount_of_notMem (idle : next ∉ inputs) :
    unplacedCount (placed ++ [next]) inputs = unplacedCount placed inputs := by
  rw [unplacedCount, unplacedCount]
  congr 1
  apply List.filter_congr
  intro input member
  have other : input ≠ next := fun same => idle (same ▸ List.mem_dedup.mp member)
  simp [other]

/-- What is placed already may be listed once more. -/
theorem unplacedCount_cons_of_mem (member : next ∈ placed) :
    unplacedCount placed (next :: inputs) = unplacedCount placed inputs := by
  by_cases again : next ∈ inputs
  · rw [unplacedCount, List.dedup_cons_of_mem again, ← unplacedCount]
  · rw [unplacedCount, List.dedup_cons_of_notMem again, List.filter_cons_of_neg (by simp [member]),
      ← unplacedCount]

theorem unplacedCounts_getElem? (found : sources[i]? = some inputs) :
    (sources.map (unplacedCount placed))[i]? = some (unplacedCount placed inputs) := by
  rw [List.getElem?_map, found, Option.map_some]

theorem nodup_fedBy : (fedBy sources i).Nodup :=
  List.nodup_range.filter _

theorem mem_fedBy_iff :
    i ∈ fedBy sources next ↔ ∃ inputs, sources[i]? = some inputs ∧ next ∈ inputs := by
  rw [fedBy, List.mem_filter, List.mem_range]
  constructor
  · rintro ⟨inside, feeds⟩
    rw [List.getElem?_eq_getElem inside] at feeds ⊢
    exact ⟨_, rfl, by simpa using feeds⟩
  · rintro ⟨inputs, found, feeds⟩
    refine ⟨(List.getElem?_eq_some_iff.mp found).1, ?_⟩
    simpa [found] using feeds

/-- One more position is fed by its own inputs. -/
theorem fedBy_concat :
    fedBy (first ++ [inputs]) i =
      if i ∈ inputs then fedBy first i ++ [first.length] else fedBy first i := by
  have unchanged : ((List.range first.length).filter fun fed =>
      (first ++ [inputs])[fed]?.any (·.contains i)) = fedBy first i := by
    apply List.filter_congr
    intro fed inside
    rw [List.getElem?_append_left (List.mem_range.mp inside)]
  rw [fedBy, List.length_append, List.length_singleton, List.range_succ, List.filter_append,
    unchanged]
  by_cases feeds : i ∈ inputs <;> simp [feeds]

/-- One more position waits for its own inputs. -/
theorem unplacedCount_concat :
    unplacedCount [] ((first ++ [inputs])[i]?.getD []) =
      if first.length = i then unplacedCount [] (first[i]?.getD []) + unplacedCount [] inputs
      else unplacedCount [] (first[i]?.getD []) := by
  rcases Nat.lt_trichotomy i first.length with before | rfl | behind
  · simp [before, Nat.ne_of_gt before, List.getElem?_append_left]
  · simp
  · have outside : (first ++ [inputs])[i]? = none := by
      simpa using Nat.succ_le_of_lt behind
    simp [outside, Nat.ne_of_lt behind, Nat.le_of_lt behind]

/-! ## Links -/

namespace Links

/-- Inputs are counted once, and not at all if they have been seen before. -/
theorem waiting_addInputs (links : Links) (i : Nat) (seen inputs : List Nat) :
    (links.addInputs i seen inputs).waiting =
      links.waiting.modify i (· + unplacedCount seen inputs) := by
  induction inputs generalizing links seen with
  | nil => exact (List.modify_id i links.waiting).symm
  | cons input rest ih =>
      rw [addInputs]
      split
      next repeated => rw [ih, unplacedCount_cons_of_mem repeated]
      next fresh =>
        have listed : input ∈ seen ++ [input] := by simp
        have count_eq : unplacedCount seen (input :: rest) =
            unplacedCount (seen ++ [input]) rest + 1 := by
          rw [unplacedCount_of_mem fresh List.mem_cons_self, unplacedCount_cons_of_mem listed]
        rw [ih, add, List.modify_modify_eq, count_eq]
        congr 1
        funext count
        rw [Function.comp_apply]
        omega

/-- A position waits behind each input that has not been seen before. -/
theorem waiters_addInputs (links : Links) (i : Nat) (seen inputs : List Nat) (input : Nat) :
    (links.addInputs i seen inputs).waiters[input]? =
      links.waiters[input]?.map fun waiters =>
        if input ∈ inputs ∧ input ∉ seen then waiters ++ [i] else waiters := by
  induction inputs generalizing links seen with
  | nil => simp [addInputs]
  | cons other rest ih =>
      rw [addInputs]
      split
      next repeated =>
        rw [ih]
        by_cases same : input = other <;> simp [same, repeated]
      next fresh =>
        rw [ih, add, List.getElem?_modify]
        by_cases same : input = other
        · subst same
          simp [fresh, Function.comp_def]
        · simp [same, Ne.symm same]

/-- Links of the first ones among a number of positions. -/
def ofFirst (count : Nat) (first : List (List Nat)) : Links where
  waiting := (List.range count).map fun i => unplacedCount [] (first[i]?.getD [])
  waiters := (List.range count).map (fedBy first)

theorem ofFirst_nil (count : Nat) :
    ofFirst count [] = ⟨List.replicate count 0, List.replicate count []⟩ := by
  have none_fed : fedBy [] = fun _ => [] := rfl
  simp [ofFirst, none_fed, List.map_const']

/-- The next position adds its inputs. -/
theorem addInputs_ofFirst (count : Nat) (first : List (List Nat)) (inputs : List Nat) :
    (ofFirst count first).addInputs first.length [] inputs = ofFirst count (first ++ [inputs]) := by
  apply Links.ext
  · apply List.ext_getElem?
    intro i
    rw [waiting_addInputs, List.getElem?_modify, ofFirst, ofFirst, getElem?_map_range,
      getElem?_map_range, unplacedCount_concat]
    by_cases inside : i < count <;> simp [inside]
  · apply List.ext_getElem?
    intro i
    rw [waiters_addInputs, ofFirst, ofFirst, getElem?_map_range, getElem?_map_range, fedBy_concat]
    by_cases inside : i < count <;> simp [inside]

/-- All positions add their inputs in turn. -/
theorem foldl_addInputs_ofFirst (count : Nat) (first rest : List (List Nat)) :
    (rest.zipIdx first.length).foldl
        (fun links (inputs, i) => links.addInputs i [] inputs) (ofFirst count first) =
      ofFirst count (first ++ rest) := by
  induction rest generalizing first with
  | nil => simp
  | cons inputs rest ih =>
      have again := ih (first ++ [inputs])
      rw [List.length_append, List.length_singleton, List.append_assoc] at again
      rw [List.zipIdx_cons, List.foldl_cons]
      dsimp only
      rw [addInputs_ofFirst]
      exact again

theorem ofSources_eq (sources : List (List Nat)) :
    ofSources sources = ofFirst sources.length sources := by
  rw [ofSources, ← ofFirst_nil]
  exact foldl_addInputs_ofFirst sources.length [] sources

/-- At first a position waits for all its inputs. -/
theorem waiting_ofSources (sources : List (List Nat)) :
    (ofSources sources).waiting = sources.map (unplacedCount []) := by
  rw [ofSources_eq]
  apply List.ext_getElem?
  intro i
  rw [ofFirst, getElem?_map_range, List.getElem?_map]
  split
  next inside => simp [inside]
  next outside => simp [Nat.not_lt.mp outside]

theorem waiters_ofSources (inside : i < sources.length) :
    (ofSources sources).waiters[i]? = some (fedBy sources i) := by
  rw [ofSources_eq, ofFirst, getElem?_map_range, if_pos inside]

end Links

/-! ## One round -/

theorem Countdown.settle_eq {state : Countdown} {count : Nat}
    (waits : state.waiting[i]? = some (count + 1)) :
    state.settle i =
      ⟨state.waiting.set i count, if count = 0 then state.ready ++ [i] else state.ready⟩ := by
  simp only [settle, waits]

/-- Each position of a list without duplicates is counted down once, and those become ready that
have waited for one input only. -/
theorem foldl_settle (state : Countdown) (nodup : positions.Nodup)
    (counted : ∀ i ∈ positions, ∃ count, state.waiting[i]? = some (count + 1)) :
    (∀ i, (positions.foldl Countdown.settle state).waiting[i]? =
      if i ∈ positions then state.waiting[i]?.map (· - 1) else state.waiting[i]?) ∧
    (positions.foldl Countdown.settle state).ready =
      state.ready ++ positions.filter fun i => state.waiting[i]? == some 1 := by
  induction positions generalizing state with
  | nil => simp
  | cons first rest ih =>
      obtain ⟨first_not_mem, nodup⟩ := List.nodup_cons.mp nodup
      rcases counted first List.mem_cons_self with ⟨count, first_eq⟩
      have differs {i : Nat} (member : i ∈ rest) : first ≠ i := by
        rintro rfl
        exact first_not_mem member
      have others {i : Nat} (differs : first ≠ i) :
          (state.waiting.set first count)[i]? = state.waiting[i]? :=
        List.getElem?_set_ne differs
      have settled := Countdown.settle_eq first_eq
      have restCounted : ∀ i ∈ rest,
          ∃ count, (state.settle first).waiting[i]? = some (count + 1) := by
        intro i member
        rw [settled, others (differs member)]
        exact counted i (List.mem_cons_of_mem _ member)
      rcases ih (state.settle first) nodup restCounted with ⟨counts, readied⟩
      rw [List.foldl_cons]
      constructor
      · intro i
        rw [counts, settled]
        by_cases same : i = first
        · subst same
          have inside := (List.getElem?_eq_some_iff.mp first_eq).1
          simp [first_not_mem, first_eq, List.getElem?_set_self inside]
        · rw [others (Ne.symm same)]
          simp [same]
      · have unchanged : (rest.filter fun i => (state.waiting.set first count)[i]? == some 1) =
            rest.filter fun i => state.waiting[i]? == some 1 := by
          apply List.filter_congr
          intro i member
          rw [others (differs member)]
        rw [readied, settled, unchanged, List.filter_cons, first_eq]
        cases count <;> simp

/-- What is fed by one that is placed next waits for it, so nothing is counted below zero. -/
theorem exists_count_of_mem_fedBy (fresh : next ∉ placed) (fed : i ∈ fedBy sources next) :
    ∃ count, (sources.map (unplacedCount placed))[i]? = some (count + 1) := by
  rcases mem_fedBy_iff.mp fed with ⟨inputs, found, waits⟩
  rw [unplacedCounts_getElem? found, unplacedCount_of_mem fresh waits]
  exact ⟨_, rfl⟩

theorem unplacedCounts_concat_getElem? (fresh : next ∉ placed) :
    (sources.map (unplacedCount (placed ++ [next])))[i]? =
      if i ∈ fedBy sources next then (sources.map (unplacedCount placed))[i]?.map (· - 1)
      else (sources.map (unplacedCount placed))[i]? := by
  cases found : sources[i]? with
  | none => simp [found]
  | some inputs =>
      rw [unplacedCounts_getElem? found, unplacedCounts_getElem? found]
      split
      next feeds =>
        rcases mem_fedBy_iff.mp feeds with ⟨_, again, waits⟩
        cases found.symm.trans again
        rw [unplacedCount_of_mem fresh waits]
        rfl
      next idle =>
        have unfed : next ∉ inputs := fun waits => idle (mem_fedBy_iff.mpr ⟨_, found, waits⟩)
        rw [unplacedCount_of_notMem unfed]

/-- What waits for one input only is released by it. -/
theorem released_eq_filter (fresh : next ∉ placed) :
    released sources (placed ++ [next]) next =
      (fedBy sources next).filter fun i => (sources.map (unplacedCount placed))[i]? == some 1 := by
  rw [fedBy, released, List.filter_filter]
  apply List.filter_congr
  intro i inside
  rw [List.mem_range] at inside
  have found := List.getElem?_eq_getElem inside
  rw [unplacedCounts_getElem? found, found]
  generalize sources[i] = inputs
  by_cases waits : next ∈ inputs
  · rw [Bool.eq_iff_iff]
    simp [waits, unplacedCount_of_mem fresh waits, unplacedCount_eq_zero_iff]
  · simp [waits]

/-- Counting down what a placed one feeds gives the counts of what is placed then, and makes ready
what it releases. -/
theorem foldl_settle_fedBy (fresh : next ∉ placed) :
    (fedBy sources next).foldl Countdown.settle ⟨sources.map (unplacedCount placed), ready⟩ =
      ⟨sources.map (unplacedCount (placed ++ [next])),
        ready ++ released sources (placed ++ [next]) next⟩ := by
  have counted : ∀ i ∈ fedBy sources next,
      ∃ count, (sources.map (unplacedCount placed))[i]? = some (count + 1) :=
    fun _ => exists_count_of_mem_fedBy fresh
  rcases foldl_settle ⟨sources.map (unplacedCount placed), ready⟩ nodup_fedBy counted with
    ⟨counts, readied⟩
  apply Countdown.ext
  · apply List.ext_getElem?
    intro i
    rw [counts, unplacedCounts_concat_getElem? fresh]
  · rw [readied, released_eq_filter fresh]

/-! ## All rounds -/

/-- What is ready at the start has no inputs. -/
theorem Countdown.start_eq (sources : List (List Nat)) :
    start (Links.ofSources sources).waiting =
      ⟨sources.map (unplacedCount []),
        (List.range sources.length).filter fun i => sources[i]?.any List.isEmpty⟩ := by
  rw [Links.waiting_ofSources, start, List.length_map]
  congr 1
  apply List.filter_congr
  intro i inside
  rw [List.mem_range] at inside
  have found := List.getElem?_eq_getElem inside
  rw [unplacedCounts_getElem? found, found, Bool.eq_iff_iff]
  simp [unplacedCount_eq_zero_iff, List.eq_nil_iff_forall_not_mem]

/-- Counting places what can be placed, and leaves the counts of what is placed. It ends when
nothing is ready any more. -/
theorem Countdown.run_eq {remaining : Nat} (placing : Placing sources ready placed)
    (count : placed.length + remaining = sources.length) :
    run (Links.ofSources sources).waiters remaining
        ⟨sources.map (unplacedCount placed), ready⟩ placed =
      (⟨sources.map (unplacedCount (place sources remaining ready placed)), []⟩,
        place sources remaining ready placed) := by
  induction remaining generalizing ready placed with
  | zero =>
      rw [placing.ready_eq_nil count]
      rfl
  | succ remaining ih =>
      cases ready with
      | nil => rfl
      | cons next ready =>
          have inside : next < sources.length := ((placing.mem_iff next).mp (by simp)).lt_length
          rw [run, Links.waiters_ofSources inside, Option.getD_some,
            foldl_settle_fedBy placing.next_not_mem, place]
          refine ih placing.step ?_
          rw [List.length_append, List.length_singleton]
          omega

/-- At the end there still waits what is not placed. -/
theorem waits_eq_not_placed (placing : Placing sources [] placed) (inside : i < sources.length) :
    (sources.map (unplacedCount placed))[i]?.any (0 < ·) = !placed.contains i := by
  have found := List.getElem?_eq_getElem inside
  have supplied : i ∈ placed ↔ unplacedCount placed sources[i] = 0 := by
    have placed_iff := placing.mem_iff i
    rw [List.append_nil] at placed_iff
    rw [placed_iff, unplacedCount_eq_zero_iff, Supplied, found]
    simp
  rw [unplacedCounts_getElem? found, Option.any_some]
  by_cases member : i ∈ placed
  · simp [member, supplied.mp member]
  · simp [member, Nat.pos_iff_ne_zero, mt supplied.mpr member]

end

end Document

end TextureGraph
