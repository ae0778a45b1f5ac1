import Mathlib.Data.List.Nodup
import Mathlib.Data.List.Perm.Subperm
import TextureGraph.Document.Order

/-!
# What is placed in dependency order

Textures can be placed without any count, by a look at what is placed: one becomes ready when
the last of its inputs is. Placing them so keeps one invariant: what is placed or ready is
exactly what is supplied by what is placed. When nothing is ready any more, nothing that could
still be placed is left.
-/

namespace TextureGraph

/-- A list in which each element is ready when its turn comes, behind what stands `before`. -/
def InTurn {α : Type} (ready : List α → α → Prop) (before : List α) : List α → Prop
  | [] => True
  | next :: rest => ready before next ∧ InTurn ready (before ++ [next]) rest

theorem inTurn_append_iff {α : Type} {ready : List α → α → Prop} {before first second : List α} :
    InTurn ready before (first ++ second) ↔
      InTurn ready before first ∧ InTurn ready (before ++ first) second := by
  induction first generalizing before with
  | nil => simp [InTurn]
  | cons next rest ih => simp [InTurn, ih, and_assoc]

namespace Document

/-- Positions that wait for the one placed last, and for no other. -/
def released (sources : List (List Nat)) (placed : List Nat) (last : Nat) : List Nat :=
  (List.range sources.length).filter fun i =>
    match sources[i]? with
    | some inputs => inputs.contains last && inputs.all placed.contains
    | none => false

/-- Place what is ready, first come first served, and then what that releases.
`remaining` is the number of positions not yet placed. -/
def place (sources : List (List Nat)) :
    (remaining : Nat) → (ready placed : List Nat) → List Nat
  | remaining + 1, next :: ready, placed =>
      let placed := placed ++ [next]
      place sources remaining (ready ++ released sources placed next) placed
  | _, _, placed => placed

/-- All that feeds a position is placed. -/
def Supplied (sources : List (List Nat)) (placed : List Nat) (i : Nat) : Prop :=
  ∃ inputs, sources[i]? = some inputs ∧ ∀ input ∈ inputs, input ∈ placed

variable {sources : List (List Nat)} {ready placed : List Nat}

theorem Supplied.lt_length {i : Nat} (supplied : Supplied sources placed i) :
    i < sources.length := by
  rcases supplied with ⟨_, found, _⟩
  exact (List.getElem?_eq_some_iff.mp found).1

theorem mem_released_iff {last i : Nat} :
    i ∈ released sources placed last ↔
      ∃ inputs, sources[i]? = some inputs ∧ last ∈ inputs ∧ ∀ input ∈ inputs, input ∈ placed := by
  rw [released, List.mem_filter, List.mem_range]
  constructor
  · rintro ⟨inside, waits⟩
    rw [List.getElem?_eq_getElem inside] at waits ⊢
    simp only [Bool.and_eq_true, List.contains_iff_mem, List.all_eq_true] at waits
    exact ⟨_, rfl, waits⟩
  · rintro ⟨inputs, found, waits⟩
    refine ⟨(List.getElem?_eq_some_iff.mp found).1, ?_⟩
    rw [found]
    simpa only [Bool.and_eq_true, List.contains_iff_mem, List.all_eq_true] using waits

/-- The invariant of placing. -/
structure Placing (sources : List (List Nat)) (ready placed : List Nat) : Prop where
  nodup : (placed ++ ready).Nodup
  mem_iff : ∀ i, i ∈ placed ++ ready ↔ Supplied sources placed i
  inTurn : InTurn (Supplied sources) [] placed

namespace Placing

/-- At the start what waits for nothing is ready. -/
theorem start (sources : List (List Nat)) :
    Placing sources ((List.range sources.length).filter fun i => sources[i]?.any List.isEmpty)
      [] where
  nodup := List.nodup_range.filter _
  mem_iff i := by
    rw [List.nil_append, List.mem_filter, List.mem_range]
    constructor
    · rintro ⟨inside, waits⟩
      rw [List.getElem?_eq_getElem inside, Option.any_some, List.isEmpty_iff] at waits
      exact ⟨[], by rw [List.getElem?_eq_getElem inside, waits], by simp⟩
    · rintro ⟨inputs, found, placed⟩
      refine ⟨(List.getElem?_eq_some_iff.mp found).1, ?_⟩
      rw [found, Option.any_some, List.isEmpty_iff]
      exact List.eq_nil_iff_forall_not_mem.mpr fun input member => by cases placed input member
  inTurn := trivial

/-- What is placed next has not been placed before. -/
theorem next_not_mem {next : Nat} (placing : Placing sources (next :: ready) placed) :
    next ∉ placed := fun member =>
  List.disjoint_of_nodup_append placing.nodup member List.mem_cons_self

/-- What is placed next releases exactly what waited for it last. -/
theorem step {next : Nat} (placing : Placing sources (next :: ready) placed) :
    Placing sources (ready ++ released sources (placed ++ [next]) next) (placed ++ [next]) := by
  have rearranged : placed ++ [next] ++ (ready ++ released sources (placed ++ [next]) next) =
      (placed ++ next :: ready) ++ released sources (placed ++ [next]) next := by
    simp
  constructor
  · rw [rearranged]
    refine List.Nodup.append placing.nodup (List.nodup_range.filter _) ?_
    intro i before released
    rcases (placing.mem_iff i).mp before with ⟨inputs, found, supplied⟩
    rcases mem_released_iff.mp released with ⟨_, again, waits, _⟩
    cases found.symm.trans again
    exact placing.next_not_mem (supplied next waits)
  · intro i
    rw [rearranged, List.mem_append, placing.mem_iff, mem_released_iff]
    constructor
    · rintro (⟨inputs, found, supplied⟩ | ⟨inputs, found, _, supplied⟩)
      · exact ⟨inputs, found, fun input member => List.mem_append_left _ (supplied input member)⟩
      · exact ⟨inputs, found, supplied⟩
    · rintro ⟨inputs, found, supplied⟩
      by_cases waits : next ∈ inputs
      · exact .inr ⟨inputs, found, waits, supplied⟩
      · refine .inl ⟨inputs, found, fun input member => ?_⟩
        have other : input ≠ next := fun same => waits (same ▸ member)
        simpa [other] using supplied input member
  · refine inTurn_append_iff.mpr ⟨placing.inTurn, ?_, trivial⟩
    rw [List.nil_append]
    exact (placing.mem_iff next).mp (by simp)

/-- No more is ever placed than there is. -/
theorem length_le (placing : Placing sources ready placed) :
    (placed ++ ready).length ≤ sources.length := by
  have inside : placed ++ ready ⊆ List.range sources.length := by
    intro i member
    exact List.mem_range.mpr ((placing.mem_iff i).mp member).lt_length
  have fits := (placing.nodup.subperm inside).length_le
  rwa [List.length_range] at fits

/-- When all is placed, nothing is ready any more. -/
theorem ready_eq_nil (placing : Placing sources ready placed)
    (full : placed.length = sources.length) : ready = [] := by
  have fits := placing.length_le
  rw [List.length_append] at fits
  exact List.eq_nil_of_length_eq_zero (by omega)

/-- At the end nothing is ready that is not placed. -/
theorem place {remaining : Nat} (placing : Placing sources ready placed)
    (count : placed.length + remaining = sources.length) :
    Placing sources [] (place sources remaining ready placed) := by
  induction remaining generalizing ready placed with
  | zero =>
      rw [placing.ready_eq_nil count] at placing ⊢
      exact placing
  | succ remaining ih =>
      cases ready with
      | nil => exact placing
      | cons next ready =>
          refine ih placing.step ?_
          rw [List.length_append, List.length_singleton]
          omega

end Placing

end Document

end TextureGraph
