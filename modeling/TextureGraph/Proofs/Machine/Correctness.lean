import TextureGraph.Proofs.Machine.Simulation

/-!
# Correctness of compiled programs

A program that is compiled from a table computes on the stack machine what the recursive
evaluator says. How much room a run needs is known beforehand, and a run that ends leaves
nothing behind but its result.
-/

namespace TextureGraph

/-! ## Transfer of a whole span -/

namespace Machine

variable {program : Program} {table : Table} {id : NodeId} {kind : EvalKind} {span : Span}
  {pushes : List Push} {hit : HitPoint} {values : List Binary32}

/-- The width of the result is checked, and found right. -/
theorem transfer_runSpan (width : values.length = kind.width)
    (runs : Transfer (runCode program table span.start (program.slice span)) pushes ⟨hit, []⟩ ()
      ⟨hit, values⟩) :
    Transfer (runSpan program table id kind span) pushes ⟨hit, []⟩ () ⟨hit, values⟩ := by
  have base_eq : ∀ below, (Window.on ⟨hit, []⟩ below).stack.size = below.size := by
    intro below
    simp [Window.on, ValueStack.size]
  have size_eq : ∀ below, (Window.on ⟨hit, values⟩ (raise pushes below)).stack.size =
      below.size + kind.width := by
    intro below
    simp [Window.on, ValueStack.size, raise, width]
  have right : ∀ below : ValueStack, ¬ (below.size + kind.width < below.size ∨
      below.size + kind.width - below.size ≠ kind.width) := by
    intro below
    omega
  constructor
  · intro below fits
    rw [runSpan, perform_get_bind, perform_bind, runs.completes below fits]
    simp only [perform_get_bind, base_eq, size_eq, if_neg (right below)]
    rfl
  · intro below push misfits
    rw [runSpan, perform_get_bind]
    exact perform_bind_of_error (runs.overflows below push misfits) _
  · intro below peak start_low low state member
    rw [runSpan, passed_get_bind] at member
    cases fits : misfit? pushes below with
    | some push =>
        rw [passed_bind_of_error (runs.overflows below push fits)] at member
        exact runs.stays below peak start_low low state member
    | none =>
        rw [passed_bind, runs.completes below fits] at member
        simp only [passed_get_bind, base_eq, size_eq, if_neg (right below)] at member
        rw [passed_pure, List.append_nil] at member
        exact runs.stays below peak start_low low state member

/-- A span that is found and lies inside the program is run. -/
theorem execute_eq_runSpan (sameCount : program.nodeCount = table.size) (inside : id < table.size)
    (spanned : program.span? id kind = some span)
    (stop_le : span.stop ≤ program.instructions.length) :
    execute program table id kind = runSpan program table id kind span := by
  have inRange : ¬ (program.nodeCount ≤ id ∨ program.nodeCount ≠ table.size) := by
    rw [not_or, sameCount]
    exact ⟨Nat.not_le.mpr inside, not_not_intro rfl⟩
  simp only [execute, if_neg inRange, spanned, if_neg (Nat.not_lt.mpr stop_le)]

/-- What the span of a node does is known before it is run: its pushes do not depend on the
hit point, and on each hit point it transfers the value of the node. -/
theorem exists_transfer_of_compile {config : Config} (wellFormed : table.WellFormed)
    (compiled : table.compile config = .ok program) (inside : id < table.size) (kind : EvalKind) :
    ∃ span pushes, program.span? id kind = some span ∧
      span.stackDepth ≤ program.maxStackDepth ∧ Low pushes span.stackDepth ∧
      ∀ hit, ∃ value, table.evaluate config.bumpSampleDistance id kind hit = .ok value ∧
        value.IsOf kind ∧
        Transfer (runCode program table span.start (program.slice span)) pushes ⟨hit, []⟩ ()
          ⟨hit, value.toList⟩ ∧
        Transfer (execute program table id kind) pushes ⟨hit, []⟩ () ⟨hit, value.toList⟩ := by
  have found : table.node? id = some table.nodes[id] := List.getElem?_eq_getElem inside
  rcases Table.exists_places_of_compile compiled found kind with ⟨code, span, made, places⟩
  have delivered : DeliversNode program table id kind code :=
    deliversNode_of_nodeCode wellFormed made
  rcases delivered.delivers span.start with ⟨pushes, low, runs⟩
  have distance_eq := Table.bumpSampleDistance_of_compile compiled
  rw [← places.stackDepth_eq] at low
  refine ⟨span, pushes, places.span?_eq, places.stackDepth_le, low, ?_⟩
  intro hit
  rcases runs hit with ⟨_, ⟨value, evaluated, isOf, rfl⟩, transfer⟩
  rw [← places.slice_eq] at transfer
  rw [distance_eq] at evaluated
  refine ⟨value, evaluated, isOf, transfer, ?_⟩
  have sameCount := Table.nodeCount_of_compile compiled
  rw [execute_eq_runSpan sameCount inside places.span?_eq places.stop_le]
  exact transfer_runSpan isOf.toList_length transfer

/-! ## Runs on a given stack -/

theorem on_nil (hit : HitPoint) (stack : ValueStack) :
    Window.on ⟨hit, []⟩ stack = ⟨hit, stack⟩ := by
  rw [Window.on, List.append_nil]

/-- Pushes that stay within a depth fit on every stack with so much room. -/
theorem misfit?_eq_none_of_low {depth : Nat} {stack : ValueStack} (low : Low pushes depth)
    (room : stack.size + depth ≤ stack.capacity) : misfit? pushes stack = none := by
  rw [misfit?_eq_none_iff]
  intro push member
  exact Nat.le_trans (Nat.add_le_add_left (low push member) _) room

/-- What is on top of the stack is taken off as a value. -/
theorem transfer_takeValue (position : Nat) (hit : HitPoint) {value : Value}
    (isOf : value.IsOf kind) :
    Transfer (do
        let values ← pop position kind.width
        match kind with
        | .float => Value.float <$> read values Operands.float
        | _ => Value.vector <$> read values Operands.vector)
      [] ⟨hit, value.toList⟩ value ⟨hit, []⟩ := by
  have popped := transfer_pop position hit [] value.toList
  rw [isOf.toList_length, List.nil_append] at popped
  refine popped.before ?_
  cases kind with
  | float =>
      rcases isOf with ⟨number, rfl⟩
      have opened : Operands.float.run [number] = .ok (number, []) := rfl
      exact (transfer_read opened).before (.pure _ _)
  | spectrum | bump =>
      rcases isOf with ⟨components, rfl⟩
      have opened : Operands.vector.run components.toList = .ok (components, []) := rfl
      exact (transfer_read opened).before (.pure _ _)

/-- A run that completes has passed every boundary between its instructions. -/
theorem exists_perform_before {position depth : Nat} {before after : List Instruction}
    {finish : Window}
    (runs : Transfer (runCode program table position (before ++ after)) pushes ⟨hit, []⟩ () finish)
    (low : Low pushes depth) {stack : ValueStack} (fits : misfit? pushes stack = none) :
    ∃ state, perform (runCode program table position before) ⟨hit, stack⟩ = (.ok (), state) ∧
      Within stack depth state.stack := by
  have completes := runs.completes stack fits
  have stays := runs.stays stack depth (Nat.zero_le _) low
  have starts : Within stack depth (Window.on ⟨hit, []⟩ stack).stack :=
    Window.within_on (Nat.zero_le _)
  rw [on_nil] at completes stays starts
  rw [runCode_append] at completes stays
  have last := perform_mem_passed (runCode program table position before) ⟨hit, stack⟩
  cases performed : perform (runCode program table position before) ⟨hit, stack⟩ with
  | mk outcome state =>
      rw [performed] at last
      cases outcome with
      | error error =>
          have failed := perform_bind_of_error (congrArg Prod.fst performed) fun _ =>
            runCode program table (position + before.length) after
          rw [completes] at failed
          cases failed
      | ok =>
          refine ⟨state, rfl, ?_⟩
          rcases List.mem_cons.mp last with unmoved | written
          · change state = _ at unmoved
            rw [unmoved]
            exact starts
          · refine stays state ?_
            rw [passed_bind]
            exact List.mem_append_left _ written

/-- A stack that is made for a program has room for each of its spans. -/
theorem room_forProgram (depth_le : span.stackDepth ≤ program.maxStackDepth) :
    (ValueStack.forProgram program).size + span.stackDepth ≤
      (ValueStack.forProgram program).capacity := by
  change 0 + span.stackDepth ≤ program.maxStackDepth
  rwa [Nat.zero_add]

/-- A run from a cleared stack answers with the value. -/
theorem perform_evaluate {value : Value} (isOf : value.IsOf kind)
    (runs : Transfer (execute program table id kind) pushes ⟨hit, []⟩ () ⟨hit, value.toList⟩)
    {stack : ValueStack} (fits : misfit? pushes stack.clear = none) :
    perform (evaluate program table id kind) ⟨hit, stack⟩ =
      (.ok value, ⟨hit, raise pushes stack.clear⟩) := by
  change perform (execute program table id kind >>= fun _ => _) ⟨hit, stack.clear⟩ = _
  rw [← on_nil, perform_bind, runs.completes _ fits]
  let stop := ((program.span? id kind).map Span.stop).getD 0
  have taken := (transfer_takeValue stop hit isOf).completes (raise pushes stack.clear) rfl
  rw [raise_nil, on_nil] at taken
  exact taken

/-- A node has a value on a hit point: the evaluator says so, and so does every run on a
stack that can hold as much as the span of the node needs. A stack that is made for the
program can. -/
structure Answers (config : Config) (program : Program) (table : Table) (id : NodeId)
    (kind : EvalKind) (hit : HitPoint) (value : Value) : Prop where
  evaluate_eq : table.evaluate config.bumpSampleDistance id kind hit = .ok value
  run_eq : ∃ span, program.span? id kind = some span ∧ span.stackDepth ≤ program.maxStackDepth ∧
    ∀ stack : ValueStack, span.stackDepth ≤ stack.capacity →
      (perform (evaluate program table id kind) ⟨hit, stack⟩).1 = .ok value

/-- Every node of a compiled table has a value. -/
theorem exists_answers {config : Config} (wellFormed : table.WellFormed)
    (compiled : table.compile config = .ok program) (inside : id < table.size) (kind : EvalKind)
    (hit : HitPoint) :
    ∃ value, value.IsOf kind ∧ Answers config program table id kind hit value := by
  obtain ⟨span, pushes, spanned, depth_le, low, runs⟩ :=
    exists_transfer_of_compile wellFormed compiled inside kind
  rcases runs hit with ⟨value, evaluated, isOf, _, transfer⟩
  refine ⟨value, isOf, evaluated, span, spanned, depth_le, fun stack room => ?_⟩
  have cleared : stack.clear.size + span.stackDepth ≤ stack.clear.capacity := by
    change 0 + span.stackDepth ≤ stack.capacity
    rwa [Nat.zero_add]
  exact congrArg Prod.fst (perform_evaluate isOf transfer (misfit?_eq_none_of_low low cleared))

/-- Compiled code answers with whatever the evaluator says. -/
theorem Answers.of_evaluate_eq_ok {config : Config} (wellFormed : table.WellFormed)
    (compiled : table.compile config = .ok program) (inside : id < table.size) {value : Value}
    (evaluated : table.evaluate config.bumpSampleDistance id kind hit = .ok value) :
    Answers config program table id kind hit value := by
  rcases exists_answers wellFormed compiled inside kind hit with ⟨answer, _, answers⟩
  obtain rfl := Except.ok.inj (answers.evaluate_eq.symm.trans evaluated)
  exact answers

/-- On a stack that is made for a program every run answers. -/
theorem exists_perform_evaluate_forProgram {config : Config} (wellFormed : table.WellFormed)
    (compiled : table.compile config = .ok program) (inside : id < table.size) (hit : HitPoint)
    (kind : EvalKind) :
    ∃ value, table.evaluate config.bumpSampleDistance id kind hit = .ok value ∧ value.IsOf kind ∧
      (perform (evaluate program table id kind) ⟨hit, .forProgram program⟩).1 = .ok value := by
  rcases exists_answers wellFormed compiled inside kind hit with ⟨value, isOf, evaluated, runs⟩
  rcases runs with ⟨span, _, depth_le, runs⟩
  exact ⟨value, evaluated, isOf, runs _ depth_le⟩

/-! ## Main results -/

section

variable {config : Config}

/-- Compiled code computes what the evaluator says: on top of whatever lies on a stack with
room for the span, and as the answer of a run on a stack made for the program. -/
theorem execute_eq_evaluate (built : table.Built) (compiled : table.compile config = .ok program)
    (inside : id < table.size) (hit : HitPoint) :
    (∀ kind, ∃ span value, program.span? id kind = some span ∧
      table.evaluate config.bumpSampleDistance id kind hit = .ok value ∧
      ∀ stack : ValueStack, stack.size + span.stackDepth ≤ stack.capacity →
        ∃ highWater, perform (execute program table id kind) ⟨hit, stack⟩ =
          (.ok (), ⟨hit, ⟨stack.values ++ value.toList, stack.capacity, highWater⟩⟩)) ∧
    ∃ number color normal,
      table.evaluateFloat config.bumpSampleDistance id hit = .ok number ∧
      table.evaluateSpectrum config.bumpSampleDistance id hit = .ok color ∧
      table.evaluateBump config.bumpSampleDistance id hit = .ok normal ∧
      (perform (evaluate program table id .float) ⟨hit, .forProgram program⟩).1 =
        .ok (.float number) ∧
      (perform (evaluate program table id .spectrum) ⟨hit, .forProgram program⟩).1 =
        .ok (.vector color) ∧
      (perform (evaluate program table id .bump) ⟨hit, .forProgram program⟩).1 =
        .ok (.vector normal) := by
  constructor
  · intro kind
    obtain ⟨span, pushes, spanned, _, low, runs⟩ :=
      exists_transfer_of_compile built.wellFormed compiled inside kind
    rcases runs hit with ⟨value, evaluated, _, _, transfer⟩
    refine ⟨span, value, spanned, evaluated, ?_⟩
    intro stack room
    have performed := transfer.completes stack (misfit?_eq_none_of_low low room)
    rw [on_nil] at performed
    exact ⟨_, performed⟩
  · have answers := exists_perform_evaluate_forProgram built.wellFormed compiled inside hit
    rcases answers .float with ⟨_, evaluatedFloat, ⟨number, rfl⟩, answersFloat⟩
    rcases answers .spectrum with ⟨_, evaluatedSpectrum, ⟨color, rfl⟩, answersSpectrum⟩
    rcases answers .bump with ⟨_, evaluatedBump, ⟨normal, rfl⟩, answersBump⟩
    refine ⟨number, color, normal, ?_, ?_, ?_, answersFloat, answersSpectrum, answersBump⟩
    · rw [Table.evaluateFloat, evaluatedFloat]
      rfl
    · rw [Table.evaluateSpectrum, evaluatedSpectrum]
      rfl
    · rw [Table.evaluateBump, evaluatedBump]
      rfl

theorem execute_eq_evaluate_nested :
    ∃ program normal, Table.nested.compile .standard = .ok program ∧
      Table.nested.evaluateBump Config.standard.bumpSampleDistance 3 .standard = .ok normal ∧
      (perform (evaluate program .nested 3 .bump) ⟨.standard, .forProgram program⟩).1 =
        .ok (.vector normal) := by
  obtain ⟨program, compiled⟩ : ∃ program, Table.nested.compile .standard = .ok program := ⟨_, rfl⟩
  have inside : 3 < Table.nested.size := by decide
  obtain ⟨_, _, _, normal, _, _, evaluated, _, _, answers⟩ :=
    execute_eq_evaluate Table.built_nested compiled inside .standard
  exact ⟨program, normal, compiled, evaluated, answers⟩

/-- A run needs no more of a stack than the depth of its span. It never fails within that
room, it leaves alone what lies below, and it ends one result higher. -/
theorem execute_within_stackDepth (built : table.Built)
    (compiled : table.compile config = .ok program) (inside : id < table.size) (kind : EvalKind) :
    ∃ span, program.span? id kind = some span ∧ span.stackDepth ≤ program.maxStackDepth ∧
      ∀ (hit : HitPoint) (stack : ValueStack),
        (stack.size + span.stackDepth ≤ stack.capacity →
          (∃ last, perform (execute program table id kind) ⟨hit, stack⟩ = (.ok (), last) ∧
            stack.values <+: last.stack.values ∧ last.stack.size = stack.size + kind.width) ∧
          (∀ state ∈ passed (execute program table id kind) ⟨hit, stack⟩,
            stack.values <+: state.stack.values ∧ stack.size ≤ state.stack.size ∧
              state.stack.size ≤ stack.size + span.stackDepth) ∧
          ∀ before after, program.slice span = before ++ after →
            ∃ state, perform (runCode program table span.start before) ⟨hit, stack⟩ =
                (.ok (), state) ∧
              stack.values <+: state.stack.values ∧ stack.size ≤ state.stack.size ∧
              state.stack.size ≤ stack.size + span.stackDepth) ∧
        (span.stackDepth ≤ stack.capacity →
          ∃ value last, perform (evaluate program table id kind) ⟨hit, stack⟩ = (.ok value, last) ∧
            last.stack.highWater ≤ span.stackDepth) := by
  obtain ⟨span, pushes, spanned, depth_le, low, runs⟩ :=
    exists_transfer_of_compile built.wellFormed compiled inside kind
  refine ⟨span, spanned, depth_le, fun hit stack => ?_⟩
  rcases runs hit with ⟨value, _, isOf, codeTransfer, transfer⟩
  constructor
  · intro room
    have fits := misfit?_eq_none_of_low low room
    have completes := transfer.completes stack fits
    have stays := transfer.stays stack span.stackDepth (Nat.zero_le _) low
    rw [on_nil] at completes stays
    refine ⟨⟨_, completes, List.prefix_append _ _, ?_⟩, ?_, ?_⟩
    · change (stack.values ++ value.toList).length = _
      rw [List.length_append, isOf.toList_length]
      rfl
    · intro state member
      have within := stays state member
      exact ⟨within.keeps, within.keeps.length_le, within.size_le⟩
    · intro before after split
      rw [split] at codeTransfer
      rcases exists_perform_before codeTransfer low fits with ⟨state, performed, within⟩
      exact ⟨state, performed, within.keeps, within.keeps.length_le, within.size_le⟩
  · intro room
    have cleared : stack.clear.size + span.stackDepth ≤ stack.clear.capacity := by
      change 0 + span.stackDepth ≤ stack.capacity
      rwa [Nat.zero_add]
    refine ⟨value, _, perform_evaluate isOf transfer (misfit?_eq_none_of_low low cleared), ?_⟩
    have raised : (raise pushes stack.clear).highWater ≤ max 0 (0 + span.stackDepth) :=
      raise_highWater_le low
    rwa [Nat.zero_add, Nat.zero_max] at raised

theorem execute_within_stackDepth_nested :
    ∃ program span, Table.nested.compile .standard = .ok program ∧
      program.span? 3 .bump = some span ∧
      ∀ state ∈ passed (execute program .nested 3 .bump)
          ⟨.standard, ⟨[1], 1 + span.stackDepth, 1⟩⟩,
        [1] <+: state.stack.values ∧ 1 ≤ state.stack.size ∧
          state.stack.size ≤ 1 + span.stackDepth := by
  obtain ⟨program, compiled⟩ : ∃ program, Table.nested.compile .standard = .ok program := ⟨_, rfl⟩
  have inside : 3 < Table.nested.size := by decide
  obtain ⟨span, spanned, _, runs⟩ :=
    execute_within_stackDepth Table.built_nested compiled inside .bump
  rcases (runs .standard ⟨[1], 1 + span.stackDepth, 1⟩).1 (Nat.le_refl _) with ⟨_, stays, _⟩
  exact ⟨program, span, compiled, spanned, stays⟩

/-- Whatever the stack holds and however large it is, a run that ends without an error
leaves the hit point as it found it. -/
theorem hit_eq_of_execute_eq_ok (built : table.Built)
    (compiled : table.compile config = .ok program) {stack : ValueStack} {last : State}
    (ends : perform (execute program table id kind) ⟨hit, stack⟩ = (.ok (), last)) :
    last.hit = hit := by
  by_cases inside : id < table.size
  · obtain ⟨span, pushes, _, _, _, runs⟩ :=
      exists_transfer_of_compile built.wellFormed compiled inside kind
    rcases runs hit with ⟨value, _, _, _, transfer⟩
    rw [← on_nil] at ends
    cases fits : misfit? pushes stack with
    | none =>
        rw [transfer.completes stack fits] at ends
        cases ends
        rfl
    | some push =>
        have failed := transfer.overflows stack push fits
        rw [ends] at failed
        cases failed
  · have outside : program.nodeCount ≤ id ∨ program.nodeCount ≠ table.size := by
      rw [Table.nodeCount_of_compile compiled]
      exact .inl (Nat.not_lt.mp inside)
    simp only [execute, if_pos outside, perform_fail] at ends
    cases ends

theorem hit_eq_of_execute_eq_ok_nested :
    ∃ program last, Table.nested.compile .standard = .ok program ∧
      perform (execute program .nested 3 .bump) ⟨.standard, .forProgram program⟩ =
        (.ok (), last) ∧
      last.hit = .standard := by
  obtain ⟨program, compiled⟩ : ∃ program, Table.nested.compile .standard = .ok program := ⟨_, rfl⟩
  have inside : 3 < Table.nested.size := by decide
  obtain ⟨span, pushes, _, depth_le, low, runs⟩ :=
    exists_transfer_of_compile Table.built_nested.wellFormed compiled inside .bump
  rcases runs .standard with ⟨value, _, _, _, transfer⟩
  have ends := transfer.completes _ (misfit?_eq_none_of_low low (room_forProgram depth_le))
  rw [on_nil] at ends
  exact ⟨program, _, compiled, ends, hit_eq_of_execute_eq_ok Table.built_nested compiled ends⟩

end

end Machine

end TextureGraph
