import TextureGraph.Proofs.Machine.Correctness

/-!
# Room that a run needs

How far a run rises above the stack that it starts on depends on nothing that it reads: the
same room is enough for every hit point and on top of every values, one slot less is too
little for all of them, and then all fail at the same instruction.
-/

namespace TextureGraph

namespace Machine

variable {pushes : List Push} {stack : ValueStack} {peak : Nat}

/-! ## The highest push -/

/-- The most slots that are in use after one of the pushes, above the untouched part. -/
def need (pushes : List Push) : Nat :=
  (pushes.map Push.height).foldr max 0

theorem need_le_iff : need pushes ≤ peak ↔ Low pushes peak := by
  induction pushes with
  | nil => simp [need]
  | cons push rest ih => rw [low_cons_iff, ← ih, need, List.map_cons, List.foldr_cons, Nat.max_le,
      need]

/-- Position of the first push that a stack of a size and a capacity has no room for. -/
def overflowPosition (pushes : List Push) (size capacity : Nat) : Nat :=
  ((pushes.find? fun push => decide (capacity < size + push.height)).map Push.position).getD 0

theorem overflowPosition_eq {push : Push} (misfits : misfit? pushes stack = some push) :
    overflowPosition pushes stack.size stack.capacity = push.position := by
  change ((misfit? pushes stack).map Push.position).getD 0 = _
  rw [misfits]
  rfl

/-- Pushes fit on a stack if the highest one does. -/
theorem misfit?_eq_none_iff_need (pushed : pushes ≠ []) :
    misfit? pushes stack = none ↔ stack.size + need pushes ≤ stack.capacity := by
  rw [misfit?_eq_none_iff]
  constructor
  · intro fits
    rcases List.exists_mem_of_ne_nil pushes pushed with ⟨first, member⟩
    have size_le : stack.size ≤ stack.capacity := Nat.le_of_add_right_le (fits first member)
    have need_le : need pushes ≤ stack.capacity - stack.size :=
      need_le_iff.mpr fun push member => Nat.le_sub_of_add_le' (fits push member)
    exact Nat.add_le_of_le_sub' size_le need_le
  · intro room push member
    have low : push.height ≤ need pushes := need_le_iff.mp (Nat.le_refl _) push member
    exact Nat.le_trans (Nat.add_le_add_left low _) room

/-- On an empty stack the high-water mark rises to the highest push. -/
theorem raise_highWater_of_isEmpty (empty : stack.size = 0) :
    (raise pushes stack).highWater = max stack.highWater (need pushes) := by
  induction pushes generalizing stack with
  | nil => simp [need]
  | cons push rest ih =>
      have first : (raise [push] stack).highWater = max stack.highWater push.height := by
        simp [raise, empty]
      have unmoved : (raise [push] stack).size = 0 := empty
      change (raise rest (raise [push] stack)).highWater = _
      rw [ih unmoved, first, Nat.max_assoc]
      rfl

/-! ## Runs with and without room -/

namespace Transfer

variable {action : Action Unit} {hit : HitPoint} {finish : Window}

/-- A transfer that leaves a result has pushed it. -/
theorem ne_nil (transfer : Transfer action pushes ⟨hit, []⟩ () finish)
    (left : 0 < finish.values.length) : pushes ≠ [] := by
  rintro rfl
  exact Nat.not_le.mpr left (transfer.finish_length_le (Nat.le_refl 0) low_nil)

/-- An action that runs out of room leaves alone what the stack held before. -/
theorem keeps_values (transfer : Transfer action pushes ⟨hit, []⟩ () finish) (stack : ValueStack) :
    stack.values <+: (perform action ⟨hit, stack⟩).2.stack.values := by
  have stays := transfer.stays stack (need pushes) (Nat.zero_le _)
    (need_le_iff.mp (Nat.le_refl _))
  rw [on_nil] at stays
  rcases List.mem_cons.mp (perform_mem_passed action ⟨hit, stack⟩) with unmoved | written
  · exact (congrArg (fun state => state.stack.values) unmoved).symm ▸ List.prefix_rfl
  · exact (stays _ written).keeps

theorem perform_of_room (transfer : Transfer action pushes ⟨hit, []⟩ () finish)
    (pushed : pushes ≠ []) (room : stack.size + need pushes ≤ stack.capacity) :
    perform action ⟨hit, stack⟩ = (.ok (), finish.on (raise pushes stack)) := by
  rw [← on_nil]
  exact transfer.completes stack ((misfit?_eq_none_iff_need pushed).mpr room)

theorem overflows_of_full (transfer : Transfer action pushes ⟨hit, []⟩ () finish)
    (pushed : pushes ≠ []) (full : stack.capacity < stack.size + need pushes) :
    (perform action ⟨hit, stack⟩).1 = .error
      (.stackOverflow (overflowPosition pushes stack.size stack.capacity) stack.capacity) := by
  cases fits : misfit? pushes stack with
  | none => exact absurd ((misfit?_eq_none_iff_need pushed).mp fits) (Nat.not_le.mpr full)
  | some push =>
      rw [overflowPosition_eq fits, ← on_nil]
      exact transfer.overflows stack push fits

theorem perform_eq_ok_iff (transfer : Transfer action pushes ⟨hit, []⟩ () finish)
    (pushed : pushes ≠ []) :
    (perform action ⟨hit, stack⟩).1 = .ok () ↔ stack.size + need pushes ≤ stack.capacity := by
  constructor
  · intro succeeds
    refine Nat.not_lt.mp fun full => ?_
    rw [transfer.overflows_of_full pushed full] at succeeds
    cases succeeds
  · intro room
    rw [transfer.perform_of_room pushed room]

/-- On a cleared stack a run marks just the slots that it needs. -/
theorem highWater_of_clear (transfer : Transfer action pushes ⟨hit, []⟩ () finish)
    (pushed : pushes ≠ []) (room : need pushes ≤ stack.capacity) :
    (perform action ⟨hit, stack.clear⟩).2.stack.highWater = need pushes := by
  have cleared : stack.clear.size + need pushes ≤ stack.clear.capacity := by
    change 0 + need pushes ≤ stack.capacity
    rwa [Nat.zero_add]
  have marked : (raise pushes stack.clear).highWater = max 0 (need pushes) :=
    raise_highWater_of_isEmpty rfl
  rw [transfer.perform_of_room pushed cleared]
  change (raise pushes stack.clear).highWater = need pushes
  rw [marked, Nat.zero_max]

end Transfer

variable {config : Config} {program : Program} {table : Table} {id : NodeId}

/-- Whether a run succeeds depends on the size and the capacity of the stack alone, and so does
the instruction at which it overflows. The room that it needs is known beforehand and is within
the depth of the span, and a run on a cleared stack records just so much. What it pushes depends
on the hit point alone. -/
theorem execute_eq_ok_iff_room (built : table.Built) (compiled : table.compile config = .ok program)
    (inside : id < table.size) (kind : EvalKind) :
    ∃ (span : Span) (need : Nat) (overflow : (size capacity : Nat) → Nat)
      (result : HitPoint → List Binary32),
      program.span? id kind = some span ∧ need ≤ span.stackDepth ∧
      ∀ (hit : HitPoint) (stack : ValueStack),
        ((perform (execute program table id kind) ⟨hit, stack⟩).1 = .ok () ↔
          stack.size + need ≤ stack.capacity) ∧
        (stack.size + need ≤ stack.capacity →
          (perform (execute program table id kind) ⟨hit, stack⟩).2.stack.values =
            stack.values ++ result hit) ∧
        (stack.capacity < stack.size + need →
          (perform (execute program table id kind) ⟨hit, stack⟩).1 =
            .error (.stackOverflow (overflow stack.size stack.capacity) stack.capacity) ∧
          stack.values <+: (perform (execute program table id kind) ⟨hit, stack⟩).2.stack.values) ∧
        (need ≤ stack.capacity →
          (perform (execute program table id kind) ⟨hit, stack.clear⟩).2.stack.highWater =
            need) := by
  obtain ⟨span, pushes, spanned, _, low, runs⟩ :=
    exists_transfer_of_compile built.wellFormed compiled inside kind
  choose value _ isOf _ transfer using runs
  have left : 0 < (value .standard).toList.length := by
    rw [(isOf .standard).toList_length]
    cases kind <;> decide
  have pushed : pushes ≠ [] := (transfer .standard).ne_nil left
  refine ⟨span, need pushes, overflowPosition pushes, fun hit => (value hit).toList, spanned,
    need_le_iff.mpr low, fun hit stack => ⟨(transfer hit).perform_eq_ok_iff pushed, ?_, ?_,
      (transfer hit).highWater_of_clear pushed⟩⟩
  · intro room
    rw [(transfer hit).perform_of_room pushed room]
    rfl
  · intro full
    exact ⟨(transfer hit).overflows_of_full pushed full, (transfer hit).keeps_values stack⟩

/-- On an empty stack the bumped normal of the sum needs the same number of slots on every hit
point: with so many it is found, and all of them have then been in use. -/
theorem execute_eq_ok_iff_room_nested :
    ∃ program need, Table.nested.compile .standard = .ok program ∧ ∀ hit : HitPoint,
      (∀ capacity, (perform (execute program .nested 3 .bump) ⟨hit, .withCapacity capacity⟩).1 =
        .ok () ↔ need ≤ capacity) ∧
      (perform (execute program .nested 3 .bump) ⟨hit, .withCapacity need⟩).2.stack.highWater =
        need := by
  obtain ⟨program, compiled⟩ : ∃ program, Table.nested.compile .standard = .ok program := ⟨_, rfl⟩
  have inside : 3 < Table.nested.size := by decide
  obtain ⟨_, need, _, _, _, _, runs⟩ :=
    execute_eq_ok_iff_room Table.built_nested compiled inside .bump
  refine ⟨program, need, compiled, fun hit => ⟨fun capacity => ?_, ?_⟩⟩
  · have threshold := (runs hit (.withCapacity capacity)).1
    change _ ↔ 0 + need ≤ capacity at threshold
    rwa [Nat.zero_add] at threshold
  · exact (runs hit (.withCapacity need)).2.2.2 (Nat.le_refl need)

end Machine

end TextureGraph
