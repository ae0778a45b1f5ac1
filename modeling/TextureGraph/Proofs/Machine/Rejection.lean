import TextureGraph.Proofs.Machine.Correctness
import TextureGraph.Proofs.Program.Composition
import TextureGraph.Proofs.Table.Edits

/-!
# Programs on other tables

A program may meet a table that it was not compiled from, such as its own one after more
edits. The nodes that its instructions name are then of any kind, and what lies on the stack
is not what they expect. Such a run gives some value or an error that names what did not
fit. It never reads what is not there, and it leaves alone the same parts of the state as
any other run.
-/

namespace TextureGraph

/-! ## What every run leaves alone -/

/-- A stack has never held more than it can hold, and remembers at least what it holds. -/
structure ValueStack.Sound (stack : ValueStack) : Prop where
  size_le : stack.size ≤ stack.highWater
  highWater_le : stack.highWater ≤ stack.capacity

namespace ValueStack

variable {stack next : ValueStack} {values : List Binary32} {count : Nat}

theorem sound_clear : stack.clear.Sound where
  size_le := Nat.le_refl 0
  highWater_le := Nat.zero_le _

theorem Sound.push (sound : stack.Sound) (pushed : stack.push? values = some next) :
    next.Sound := by
  rcases push?_eq_some_iff.mp pushed with ⟨fits, rfl⟩
  constructor
  · change (stack.values ++ values).length ≤ _
    rw [List.length_append]
    exact Nat.le_max_right _ _
  · exact Nat.max_le.mpr ⟨sound.highWater_le, fits⟩

theorem capacity_of_push? (pushed : stack.push? values = some next) :
    next.capacity = stack.capacity := by
  rcases push?_eq_some_iff.mp pushed with ⟨_, rfl⟩
  rfl

theorem Sound.pop (sound : stack.Sound) (popped : stack.pop? count = some (values, next)) :
    next.Sound := by
  rcases pop?_eq_some_iff.mp popped with ⟨_, _, rfl⟩
  exact ⟨Nat.le_trans (List.length_take_le' _ _) sound.size_le, sound.highWater_le⟩

theorem capacity_of_pop? (popped : stack.pop? count = some (values, next)) :
    next.capacity = stack.capacity := by
  rcases pop?_eq_some_iff.mp popped with ⟨_, _, rfl⟩
  rfl

end ValueStack

/-- The same hit point, but for the surface state. -/
def HitPoint.Moves (start hit : HitPoint) : Prop :=
  ∃ surface, hit = start.withState surface

theorem HitPoint.Moves.withState {start hit : HitPoint} (moves : start.Moves hit)
    (surface : SurfaceState) : start.Moves (hit.withState surface) := by
  rcases moves with ⟨_, rfl⟩
  exact ⟨surface, rfl⟩

namespace Machine

/-- What a run may make of a state: another surface state, and other values on the same
stack within its bounds. -/
structure Tidy (start state : State) : Prop where
  moves : start.hit.Moves state.hit
  capacity_eq : state.stack.capacity = start.stack.capacity
  sound : start.stack.Sound → state.stack.Sound

theorem Tidy.refl (start : State) : Tidy start start where
  moves := ⟨start.hit.state, rfl⟩
  capacity_eq := rfl
  sound := id

theorem Tidy.clear {start state : State} (tidy : Tidy start state) :
    Tidy start { state with stack := state.stack.clear } where
  moves := tidy.moves
  capacity_eq := tidy.capacity_eq
  sound _ := ValueStack.sound_clear

/-- Errors that a run may meet on a table of the right length. An instruction is invalid only
where it sets a lookup up, for a node that does not project or displace. -/
inductive Rejection (program : Program) : ExecError → Prop where
  | stackOverflow (position capacity : Nat) : Rejection program (.stackOverflow position capacity)
  | stackUnderflow (position : Nat) : Rejection program (.stackUnderflow position)
  | invalidProjection {position : Nat} {node : NodeId} {axis : Axis}
      (standing : program.instructions[position]? = some ⟨node, .triplanarStep axis⟩) :
      Rejection program (.invalidOp position node (.triplanarStep axis))
  | invalidDisplacement {position : Nat} {node : NodeId}
      (standing : program.instructions[position]? = some ⟨node, .distortSetup⟩) :
      Rejection program (.invalidOp position node .distortSetup)
  | resultWidth {node : NodeId} {kind : EvalKind} {found : Nat} (wrong : found ≠ kind.width) :
      Rejection program (.resultWidth node kind kind.width found)

variable {α β : Type}

/-- A run ends in a tidy state, with a good result or with a rejection. -/
inductive Ends (program : Program) (start : State) (good : α → Prop) :
    Except ExecError α × State → Prop where
  | ok {result : α} {state : State} (holds : good result) (tidy : Tidy start state) :
      Ends program start good (.ok result, state)
  | rejected {error : ExecError} {state : State} (rejection : Rejection program error)
      (tidy : Tidy start state) : Ends program start good (.error error, state)

theorem Ends.tidy {program : Program} {start : State} {good : α → Prop}
    {outcome : Except ExecError α × State} (ends : Ends program start good outcome) :
    Tidy start outcome.2 := by
  cases ends with
  | ok _ tidy | rejected _ tidy => exact tidy

/-- Whatever tidy state an action is performed on, it ends well. -/
def Safe (program : Program) (start : State) (action : Action α) (good : α → Prop) : Prop :=
  ∀ state, Tidy start state → Ends program start good (perform action state)

variable {program : Program} {start : State} {good : α → Prop}

/-! ## Safe actions -/

theorem safe_pure {result : α} (holds : good result) : Safe program start (pure result) good :=
  fun _ tidy => .ok holds tidy

theorem safe_fail {error : ExecError} (rejection : Rejection program error) :
    Safe program start (.fail error) good :=
  fun _ tidy => .rejected rejection tidy

theorem Safe.bind {action : Action α} {next : α → Action β} {better : β → Prop}
    (first : Safe program start action good)
    (second : ∀ result, good result → Safe program start (next result) better) :
    Safe program start (action >>= next) better := by
  intro state tidy
  have ended := first state tidy
  rw [perform_bind]
  generalize perform action state = outcome at ended ⊢
  cases ended with
  | ok holds tidy => exact second _ holds _ tidy
  | rejected rejection tidy => exact .rejected rejection tidy

theorem Safe.imp {action : Action α} {weaker : α → Prop} (safe : Safe program start action good)
    (weaken : ∀ result, good result → weaker result) : Safe program start action weaker := by
  intro state tidy
  have ended := safe state tidy
  generalize perform action state = outcome at ended ⊢
  cases ended with
  | ok holds tidy => exact .ok (weaken _ holds) tidy
  | rejected rejection tidy => exact .rejected rejection tidy

theorem Safe.map {action : Action α} {f : α → β} {better : β → Prop}
    (safe : Safe program start action good) (holds : ∀ result, good result → better (f result)) :
    Safe program start (f <$> action) better := by
  rw [map_eq_pure_bind]
  exact safe.bind fun result isGood => safe_pure (holds result isGood)

theorem safe_get : Safe program start get (Tidy start) :=
  fun _ tidy => .ok tidy tidy

theorem safe_set {state : State} (tidy : Tidy start state) :
    Safe program start (set state) fun _ : PUnit => True :=
  fun _ _ => .ok trivial tidy

theorem safe_hit : Safe program start hit start.hit.Moves :=
  safe_get.bind fun _ tidy => safe_pure tidy.moves

theorem safe_setHit {hit : HitPoint} (moves : start.hit.Moves hit) :
    Safe program start (setHit hit) fun _ => True :=
  fun _ tidy => .ok trivial ⟨moves, tidy.capacity_eq, tidy.sound⟩

theorem safe_push (position : Nat) (values : List Binary32) :
    Safe program start (push position values) fun _ => True := by
  refine safe_get.bind fun state tidy => ?_
  cases pushed : state.stack.push? values with
  | none => exact safe_fail (.stackOverflow position _)
  | some stack =>
      exact safe_set ⟨tidy.moves, (ValueStack.capacity_of_push? pushed).trans tidy.capacity_eq,
        fun sound => (tidy.sound sound).push pushed⟩

theorem safe_pop (position count : Nat) :
    Safe program start (pop position count) fun values => values.length = count := by
  refine safe_get.bind fun state tidy => ?_
  cases popped : state.stack.pop? count with
  | none => exact safe_fail (.stackUnderflow position)
  | some popping =>
      rcases popping with ⟨values, stack⟩
      have tidyBelow : Tidy start { state with stack } :=
        ⟨tidy.moves, (ValueStack.capacity_of_pop? popped).trans tidy.capacity_eq,
          fun sound => (tidy.sound sound).pop popped⟩
      exact (safe_set tidyBelow).bind fun _ _ => safe_pure (ValueStack.length_of_pop? popped)

theorem safe_peek (position skip count : Nat) :
    Safe program start (peek position skip count) fun values => values.length = count := by
  refine safe_get.bind fun state tidy => ?_
  cases seen : state.stack.peek? skip count with
  | none => exact safe_fail (.stackUnderflow position)
  | some values => exact safe_pure (ValueStack.length_of_peek? seen)

/-- The operand buffer is large enough, so no operand is refused. -/
theorem safe_popOperands (position : Nat) {count : Nat} (few : count ≤ maxOperands) :
    Safe program start (popOperands position count) fun values => values.length = count := by
  refine safe_get.bind fun state _ => ?_
  rw [if_neg fun many => Nat.not_lt.mpr few many.1]
  exact safe_pop position count

/-- Operands can be read from a list that is long enough. -/
theorem safe_read {operands : Operands α} {count : Nat} (reads : operands.Reads count good)
    {values : List Binary32} (enough : count ≤ values.length) :
    Safe program start (read values operands) good := by
  rcases reads (values.take count) (values.drop count) (List.length_take_of_le enough) with
    ⟨result, run_eq, holds⟩
  rw [List.take_append_drop] at run_eq
  rw [read, run_eq]
  exact safe_pure holds

/-! ## What instructions read from the stack -/

section

open Operands

theorem reads_readState : Reads readState 8 fun _ => True :=
  reads_vector.bind fun _ _ => reads_vector.bind fun _ _ => reads_vector2.bind fun _ _ =>
    reads_pure trivial

theorem reads_readPlacement : Reads readPlacement 5 fun _ => True :=
  reads_vector.bind fun _ _ => reads_vector2.bind fun _ _ => reads_pure trivial

theorem reads_readProjection : Reads readProjection 5 fun _ => True :=
  reads_vector2.bind fun _ _ => reads_vector.bind fun _ _ => reads_pure trivial

theorem reads_readBlend (weights : Vec3) : Reads (readBlend weights) 9 fun _ => True :=
  reads_vector.bind fun _ _ => reads_vector.bind fun _ _ => reads_vector.bind fun _ _ =>
    reads_pure trivial

theorem reads_readSamples : Reads readSamples 10 fun _ => True :=
  reads_float.bind fun _ _ => reads_readState.bind fun _ _ => reads_float.bind fun _ _ =>
    reads_pure trivial

end

/-! ## Instructions for nodes of any kind -/

variable {table : Table} {id : NodeId} {node : Node} {kind : EvalKind}

/-- As many operands as a rule asks for make a value. -/
theorem safe_combine (wellFormed : table.WellFormed) (found : table.node? id = some node)
    (closed : node.kind.rule kind ≠ .genericBump) (hit : HitPoint) {operands : List Binary32}
    (width : operands.length = (node.kind.rule kind).operandWidth kind) :
    Safe program start (read operands (Combine.value? table.images node.kind kind hit))
      fun value? => ∃ value, value? = some value := by
  have reads := Combine.reads_value? wellFormed.image (wellFormed.stands found).fits closed hit
  exact (safe_read reads (Nat.le_of_eq width.symm)).imp fun _ made => made.imp fun _ => And.left

theorem safe_closedValue_triplanar (position : Nat) {mapping : SpaceMapping}
    (rule : node.kind.rule kind = .triplanar mapping) :
    Safe program start (closedValue table position node kind) fun value? =>
      ∃ value, value? = some value := by
  rw [closedValue, rule]
  refine (safe_pop position 9).bind fun colors colorsLength => ?_
  refine (safe_pop position 8).bind fun saved savedLength => ?_
  -- The point that its steps have used lies behind coordinates and weights, and is not read.
  have enough : 5 ≤ saved.length := by omega
  refine (safe_read reads_readProjection enough).bind ?_
  rintro ⟨uv, weights⟩ _
  refine safe_hit.bind fun hit moves => ?_
  refine (safe_setHit (moves.withState ⟨hit.position, hit.shadingNormal, uv⟩)).bind fun _ _ => ?_
  refine (safe_read (reads_readBlend weights) (Nat.le_of_eq colorsLength.symm)).bind
    fun color _ => ?_
  cases kind <;> exact safe_pure ⟨_, rfl⟩

theorem safe_closedValue_distort (wellFormed : table.WellFormed)
    (found : table.node? id = some node) (position : Nat) {strength : Binary32}
    (rule : node.kind.rule kind = .distort strength) :
    Safe program start (closedValue table position node kind) fun value? =>
      ∃ value, value? = some value := by
  have closed : node.kind.rule kind ≠ .genericBump := by
    rw [rule]
    exact nofun
  have few : kind.width ≤ maxOperands := by cases kind <;> decide
  simp only [closedValue, rule]
  refine (safe_popOperands position few).bind fun result resultLength => ?_
  refine (safe_pop position 5).bind fun saved savedLength => ?_
  refine (safe_pop position 3).bind fun offset offsetLength => ?_
  refine (safe_read reads_readPlacement (Nat.le_of_eq savedLength.symm)).bind ?_
  rintro ⟨place, uv⟩ _
  refine safe_hit.bind fun hit moves => ?_
  refine (safe_setHit (moves.withState ⟨place, hit.shadingNormal, uv⟩)).bind fun _ _ => ?_
  have width : (offset ++ result).length = (node.kind.rule kind).operandWidth kind := by
    rw [rule, List.length_append, offsetLength, resultLength]
    rfl
  exact safe_hit.bind fun hit _ => safe_combine wellFormed found closed hit width

/-- Whatever its rule is, the own instruction of a node finds a value, if no samples are
called for. -/
theorem safe_closedValue (wellFormed : table.WellFormed) (found : table.node? id = some node)
    (closed : node.kind.rule kind ≠ .genericBump) (position : Nat) :
    Safe program start (closedValue table position node kind) fun value? =>
      ∃ value, value? = some value := by
  cases rule : node.kind.rule kind with
  | leaf =>
      simp only [closedValue, rule]
      refine safe_hit.bind fun hit _ => safe_combine wellFormed found closed hit ?_
      rw [rule]
      rfl
  | combinator children =>
      have few := TextureKind.totalWidth_le_of_rule rule
      simp only [closedValue, rule]
      refine (safe_popOperands position few).bind fun operands width => ?_
      refine safe_hit.bind fun hit _ => safe_combine wellFormed found closed hit ?_
      rw [rule]
      exact width
  | genericBump => exact absurd rule closed
  | triplanar mapping => exact safe_closedValue_triplanar position rule
  | distort strength => exact safe_closedValue_distort wellFormed found position rule

theorem safe_closedStep (wellFormed : table.WellFormed) (found : table.node? id = some node)
    (closed : node.kind.rule kind ≠ .genericBump) (position : Nat) :
    Safe program start (closedStep table position id node kind) fun _ => True := by
  refine (safe_closedValue wellFormed found closed position).bind ?_
  rintro _ ⟨value, rfl⟩
  exact safe_push position value.toList

theorem safe_sampledBump (wellFormed : table.WellFormed) (found : table.node? id = some node)
    (position : Nat) :
    Safe program start (sampledBump program table position id node) fun _ => True := by
  have closed : node.kind.rule .float ≠ .genericBump :=
    fun sampled => nomatch TextureKind.eq_bump_of_rule_eq_genericBump sampled
  refine (safe_closedStep wellFormed found closed position).bind fun _ _ => ?_
  refine (safe_pop position 1).bind fun last lastLength => ?_
  refine (safe_read Operands.reads_float (Nat.le_of_eq lastLength.symm)).bind fun heightV _ => ?_
  refine (safe_pop position 10).bind fun samples samplesLength => ?_
  refine (safe_read reads_readSamples (Nat.le_of_eq samplesLength.symm)).bind ?_
  rintro ⟨height, state, heightU⟩ _
  refine safe_hit.bind fun hit moves => ?_
  refine (safe_setHit (moves.withState state)).bind fun _ _ => ?_
  exact safe_hit.bind fun _ _ => safe_pure trivial

theorem safe_evalStep (wellFormed : table.WellFormed) (found : table.node? id = some node)
    (kind : EvalKind) (position : Nat) :
    Safe program start (evalStep program table position id node kind) fun _ => True := by
  unfold evalStep
  by_cases sampled : node.kind.rule kind = .genericBump
  · rw [if_pos sampled]
    exact (safe_sampledBump wellFormed found position).bind fun normal _ =>
      safe_push position normal.toList
  · rw [if_neg sampled]
    exact safe_closedStep wellFormed found sampled position

theorem safe_startProjection (position : Nat) {hit : HitPoint} (moves : start.hit.Moves hit)
    (point : Vec3) : Safe program start (startProjection position hit point) fun _ => True :=
  (safe_push position _).bind fun _ _ => (safe_push position _).bind fun _ _ =>
    (safe_push position _).bind fun _ _ =>
      safe_setHit (moves.withState ⟨hit.position, hit.shadingNormal, Pattern.triplanarUv point 0⟩)

theorem safe_continueProjection (position : Nat) (axis : Axis) :
    Safe program start (continueProjection position axis) fun _ => True := by
  refine (safe_peek position (3 * axis.index) 3).bind fun saved savedLength => ?_
  refine (safe_read Operands.reads_vector (Nat.le_of_eq savedLength.symm)).bind fun point _ => ?_
  refine safe_hit.bind fun hit moves => ?_
  exact safe_setHit
    (moves.withState ⟨hit.position, hit.shadingNormal, Pattern.triplanarUv point axis.index⟩)

/-- An instruction for a node of any kind: only those that set a lookup up ask for a rule. -/
theorem safe_runOp (wellFormed : table.WellFormed) (found : table.node? id = some node)
    {position : Nat} {op : Op} (standing : program.instructions[position]? = some ⟨id, op⟩) :
    Safe program start (runOp program table position id node op) fun _ => True := by
  cases op with
  | eval kind => exact safe_evalStep wellFormed found kind position
  | bumpOffsetU =>
      refine safe_hit.bind fun hit _ => ?_
      refine (safe_push position hit.state.toList).bind fun _ _ => ?_
      refine safe_hit.bind fun hit moves => ?_
      exact safe_setHit (moves.withState (Bump.offsetU hit program.bumpSampleDistance).state)
  | bumpOffsetV =>
      refine (safe_peek position 1 8).bind fun saved savedLength => ?_
      refine (safe_read reads_readState (Nat.le_of_eq savedLength.symm)).bind fun state _ => ?_
      refine safe_hit.bind fun hit moves => ?_
      exact safe_setHit (moves.withState
        (Bump.offsetV (hit.withState state) program.bumpSampleDistance).state)
  | triplanarStep axis =>
      refine safe_hit.bind fun hit _ => ?_
      cases projectedPoint? node hit with
      | none => exact safe_fail (.invalidProjection standing)
      | some point =>
          cases axis with
          | x => exact safe_hit.bind fun hit moves => safe_startProjection position moves point
          | y | z => exact safe_continueProjection position _
  | distortSetup =>
      simp only [runOp]
      cases displacement? node with
      | none => exact safe_fail (.invalidDisplacement standing)
      | some strength =>
          refine (safe_peek position 0 3).bind fun saved savedLength => ?_
          refine (safe_read Operands.reads_vector (Nat.le_of_eq savedLength.symm)).bind
            fun offset _ => ?_
          refine safe_hit.bind fun hit _ => ?_
          refine (safe_push position hit.placement).bind fun _ _ => ?_
          refine safe_hit.bind fun hit moves => ?_
          exact safe_setHit (moves.withState (Pattern.distort hit offset strength).state)

/-! ## Runs on any table -/

theorem safe_step (wellFormed : table.WellFormed) {position : Nat} {instruction : Instruction}
    (standing : program.instructions[position]? = some instruction)
    (inside : instruction.node < table.size) :
    Safe program start (step program table position instruction) fun _ => True := by
  have found : table.node? instruction.node = some table.nodes[instruction.node] :=
    List.getElem?_eq_getElem inside
  rw [step_eq_runOp program position instruction.op found]
  exact safe_runOp wellFormed found standing

/-- Every step starts from a tidy state, whatever the steps before it have left. -/
theorem safe_runCode (wellFormed : table.WellFormed)
    (inside : ∀ instruction ∈ program.instructions, instruction.node < table.size)
    {position : Nat} {code : List Instruction}
    (standing : code <+: program.instructions.drop position) :
    Safe program start (runCode program table position code) fun _ => True := by
  induction code generalizing position with
  | nil => exact safe_pure trivial
  | cons instruction rest ih =>
      rcases standing with ⟨after, split⟩
      have first : program.instructions[position]? = some instruction := by
        rw [← Nat.add_zero position, ← List.getElem?_drop, ← split]
        rfl
      have others : rest <+: program.instructions.drop (position + 1) := by
        rw [← List.drop_drop, ← split]
        exact ⟨after, rfl⟩
      have named := inside instruction (List.mem_of_getElem? first)
      exact (safe_step wellFormed first named).bind fun _ _ => ih others

theorem safe_runSpan (wellFormed : table.WellFormed)
    (inside : ∀ instruction ∈ program.instructions, instruction.node < table.size)
    (id : NodeId) (kind : EvalKind) (span : Span) :
    Safe program start (runSpan program table id kind span) fun _ => True := by
  refine safe_get.bind fun before _ => ?_
  have standing : program.slice span <+: program.instructions.drop span.start :=
    List.take_prefix _ _
  refine (safe_runCode wellFormed inside standing).bind fun _ _ => ?_
  refine safe_get.bind fun after _ => ?_
  dsimp only
  split
  · next misfit =>
      have width_pos : 0 < kind.width := by cases kind <;> decide
      have wrong : after.stack.size - before.stack.size ≠ kind.width := by omega
      exact safe_fail (.resultWidth wrong)
  · exact safe_pure trivial

variable {source : Table} {config : Config}

theorem safe_execute (compiled : source.compile config = .ok program)
    (wellFormed : table.WellFormed) (size_eq : table.size = source.size)
    (inside : id < source.size) (kind : EvalKind) :
    Safe program start (execute program table id kind) fun _ => True := by
  have sameCount : program.nodeCount = table.size :=
    (Table.nodeCount_of_compile compiled).trans size_eq.symm
  have named := Table.node_lt_size_of_compile compiled
  have found : source.node? id = some source.nodes[id] := List.getElem?_eq_getElem inside
  rcases Table.exists_places_of_compile compiled found kind with ⟨_, span, _, places⟩
  rw [← size_eq] at inside named
  rw [execute_eq_runSpan sameCount inside places.span?_eq places.stop_le]
  exact safe_runSpan wellFormed named id kind span

theorem safe_evaluate (compiled : source.compile config = .ok program)
    (wellFormed : table.WellFormed) (size_eq : table.size = source.size)
    (inside : id < source.size) (kind : EvalKind) :
    Safe program start (evaluate program table id kind) (·.IsOf kind) := by
  have cleared : Safe program start
      (modify fun state => { state with stack := state.stack.clear }) fun _ => True :=
    fun _ tidy => .ok trivial tidy.clear
  refine cleared.bind fun _ _ => ?_
  refine (safe_execute compiled wellFormed size_eq inside kind).bind fun _ _ => ?_
  refine (safe_pop _ kind.width).bind fun values length => ?_
  have enough := Nat.le_of_eq length.symm
  cases kind with
  | float => exact (safe_read Operands.reads_float enough).map fun number _ => ⟨number, rfl⟩
  | spectrum | bump =>
      exact (safe_read Operands.reads_vector enough).map fun components _ => ⟨components, rfl⟩

/-- A table of another length is refused at once, and so is a node that the program does not
have. -/
theorem execute_eq_fail (compiled : source.compile config = .ok program)
    (misfit : table.size ≠ source.size ∨ source.size ≤ id) :
    execute program table id kind = .fail (.nodeOutOfRange id source.size) := by
  rw [← Table.nodeCount_of_compile compiled] at misfit ⊢
  exact if_pos (misfit.symm.imp_right Ne.symm)

theorem perform_evaluate_of_misfit (compiled : source.compile config = .ok program)
    (misfit : table.size ≠ source.size ∨ source.size ≤ id) (hit : HitPoint) (stack : ValueStack) :
    perform (evaluate program table id kind) ⟨hit, stack⟩ =
      (.error (.nodeOutOfRange id source.size), ⟨hit, stack.clear⟩) := by
  change perform (execute program table id kind >>= fun _ => _) ⟨hit, stack.clear⟩ = _
  rw [execute_eq_fail compiled misfit]
  rfl

/-- A program may be run on any table that edits can make, not only on its own. On a table of
another length, or for a node that the program does not have, it says so before it does
anything. Else it ends with a result, or with an error that tells what did not fit. -/
theorem runs_end_on_every_table (compiled : source.compile config = .ok program)
    (built : table.Built) (id : NodeId) (kind : EvalKind) (hit : HitPoint) (stack : ValueStack) :
    (table.size ≠ source.size ∨ source.size ≤ id →
      perform (execute program table id kind) ⟨hit, stack⟩ =
        (.error (.nodeOutOfRange id source.size), ⟨hit, stack⟩) ∧
      perform (evaluate program table id kind) ⟨hit, stack⟩ =
        (.error (.nodeOutOfRange id source.size), ⟨hit, stack.clear⟩)) ∧
    (table.size = source.size → id < source.size →
      Ends program ⟨hit, stack⟩ (fun _ => True)
        (perform (execute program table id kind) ⟨hit, stack⟩) ∧
      Ends program ⟨hit, stack⟩ (·.IsOf kind)
        (perform (evaluate program table id kind) ⟨hit, stack⟩)) ∧
    Tidy ⟨hit, stack⟩ (perform (execute program table id kind) ⟨hit, stack⟩).2 ∧
    Tidy ⟨hit, stack⟩ (perform (evaluate program table id kind) ⟨hit, stack⟩).2 := by
  have tidy := Tidy.refl ⟨hit, stack⟩
  have refused (misfit : table.size ≠ source.size ∨ source.size ≤ id) :
      perform (execute program table id kind) ⟨hit, stack⟩ =
        (.error (.nodeOutOfRange id source.size), ⟨hit, stack⟩) := by
    rw [execute_eq_fail compiled misfit, perform_fail]
  have executes (size_eq : table.size = source.size) (inside : id < source.size) :=
    safe_execute compiled built.wellFormed size_eq inside kind _ tidy
  have evaluates (size_eq : table.size = source.size) (inside : id < source.size) :=
    safe_evaluate compiled built.wellFormed size_eq inside kind _ tidy
  refine ⟨fun misfit => ⟨refused misfit, perform_evaluate_of_misfit compiled misfit hit stack⟩,
    fun size_eq inside => ⟨executes size_eq inside, evaluates size_eq inside⟩, ?_⟩
  by_cases misfit : table.size ≠ source.size ∨ source.size ≤ id
  · rw [refused misfit, perform_evaluate_of_misfit compiled misfit]
    exact ⟨tidy, tidy.clear⟩
  · obtain ⟨size_eq, inside⟩ : table.size = source.size ∧ id < source.size := by
      rwa [not_or, not_not, Nat.not_le] at misfit
    exact ⟨(executes size_eq inside).tidy, (evaluates size_eq inside).tidy⟩

/-- The program of a projection meets a table that has a sum in its place: the first
instruction is refused. A node behind the last one is refused at once. -/
theorem runs_end_on_every_table_striped :
    ∃ program start, Table.nested.compile .standard = .ok program ∧
      start = ⟨.standard, .forProgram program⟩ ∧
      Ends program start (fun _ => True) (perform (execute program .striped 3 .float) start) ∧
      (perform (execute program .striped 3 .float) start).1 =
        .error (.invalidOp 30 3 (.triplanarStep .x)) ∧
      perform (execute program .striped 4 .float) start = (.error (.nodeOutOfRange 4 4), start) := by
  obtain ⟨program, compiled⟩ : ∃ program, Table.nested.compile .standard = .ok program := ⟨_, rfl⟩
  have runs := runs_end_on_every_table compiled Table.built_striped
  obtain ⟨_, ends, _⟩ := runs 3 .float .standard (.forProgram program)
  obtain ⟨refused, _⟩ := runs 4 .float .standard (.forProgram program)
  refine ⟨program, _, compiled, rfl, (ends rfl (by decide)).1, ?_,
    (refused (.inr (Nat.le_refl 4))).1⟩
  cases compiled
  rfl

end Machine

end TextureGraph
