import TextureGraph.Program.Upload
import TextureGraph.Proofs.Program.Addresses

/-!
# Uploaded programs

The header and the records of a program are enough to rebuild it, if its numbers fit into
words. Of a program that is compiled only the count of its instructions and the depths of its
spans need to be small: its nodes, addresses and reserved slots are bounded by these. So the
address of every node is found among the records, the records it names are its instructions,
and no two programs are uploaded alike.
-/

namespace TextureGraph

/-! ## Values for each node -/

namespace PerKind

variable {α : Type}

/-- Values that stand one behind the other, three for each node. -/
def gather : List α → List (PerKind α)
  | float :: spectrum :: bump :: rest => ⟨float, spectrum, bump⟩ :: gather rest
  | _ => []

theorem mem_toList_iff {values : PerKind α} {value : α} :
    value ∈ values.toList ↔ ∃ kind, values.get kind = value := by
  constructor
  · intro member
    simp only [toList, List.mem_cons, List.not_mem_nil, or_false] at member
    obtain rfl | rfl | rfl := member
    · exact ⟨.float, rfl⟩
    · exact ⟨.spectrum, rfl⟩
    · exact ⟨.bump, rfl⟩
  · rintro ⟨kind, rfl⟩
    exact List.mem_of_getElem? (values.toList_getElem?_index kind)

@[simp]
theorem gather_flatMap_toList (values : List (PerKind α)) :
    gather (values.flatMap toList) = values := by
  induction values with
  | nil => rfl
  | cons first rest ih =>
      change first :: gather (rest.flatMap toList) = _
      rw [ih]

end PerKind

/-! ## Numbers in words -/

theorem Op.code_lt (op : Op) : op.code < UInt32.size := by
  rcases op with kind | _ | _ | axis | _
  · cases kind <;> decide
  · decide
  · decide
  · cases axis <;> decide
  · decide

/-- A span whose numbers fit into words. -/
structure Span.InWords (span : Span) : Prop where
  start_lt : span.start < UInt32.size
  length_lt : span.length < UInt32.size
  stackDepth_lt : span.stackDepth < UInt32.size

/-- A program whose numbers fit into words. -/
structure Program.InWords (program : Program) : Prop where
  instructionCount_lt : program.instructions.length < UInt32.size
  nodeCount_lt : program.nodeCount < UInt32.size
  maxStackDepth_lt : program.maxStackDepth < UInt32.size
  node_lt : ∀ instruction ∈ program.instructions, instruction.node < UInt32.size
  span : ∀ span ∈ program.spans, span.InWords

namespace Upload

theorem SpanRecord.span_ofSpan {span : Span} (inWords : span.InWords) :
    (ofSpan span).span = span := by
  rcases span with ⟨start, length, stackDepth⟩
  simp only [ofSpan, SpanRecord.span, UInt32.toNat_ofNat_of_lt' inWords.start_lt,
    UInt32.toNat_ofNat_of_lt' inWords.length_lt, UInt32.toNat_ofNat_of_lt' inWords.stackDepth_lt]

theorem InstructionRecord.instruction?_ofInstruction {instruction : Instruction}
    (node_lt : instruction.node < UInt32.size) :
    (ofInstruction instruction).instruction? = some instruction := by
  simp only [ofInstruction, instruction?, UInt32.toNat_ofNat_of_lt' node_lt,
    UInt32.toNat_ofNat_of_lt' instruction.op.code_lt, Op.ofCode?_code, Option.map_some]

/-- Every stretch of instructions is read back from its records. -/
theorem map_instruction?_ofInstruction {stretch : List Instruction}
    (node_lt : ∀ instruction ∈ stretch, instruction.node < UInt32.size) :
    (stretch.map InstructionRecord.ofInstruction).map InstructionRecord.instruction? =
      stretch.map some := by
  rw [List.map_map]
  exact List.map_congr_left fun instruction member =>
    InstructionRecord.instruction?_ofInstruction (node_lt instruction member)

/-- The program that records stand for, if all their codes are those of operations. -/
def program? (header : Header) (instructions : List InstructionRecord)
    (spans : List SpanRecord) : Option Program := do
  let instructions ← instructions.mapM InstructionRecord.instruction?
  return ⟨instructions, PerKind.gather (spans.map SpanRecord.span), header.maxStackDepth.toNat,
    header.bumpSampleDistance⟩

/-- A program whose numbers fit into words is rebuilt from what is uploaded. -/
theorem program?_ofProgram {program : Program} (inWords : program.InWords) :
    program? (.ofProgram program) (instructions program) (spans program) = some program := by
  have instructionsRead :
      (instructions program).mapM InstructionRecord.instruction? = some program.instructions :=
    calc (instructions program).mapM InstructionRecord.instruction?
      _ = ((instructions program).map InstructionRecord.instruction?).mapM id := by
          rw [List.mapM_map, Function.id_comp]
      _ = (program.instructions.map some).mapM id := by
          rw [instructions, map_instruction?_ofInstruction inWords.node_lt]
      _ = some (program.instructions.map id) := by
          rw [List.mapM_map]
          exact List.mapM_pure
      _ = some program.instructions := by rw [List.map_id]
  have spansRead : (spans program).map SpanRecord.span = program.spans := by
    rw [spans, List.map_map, List.map_congr_left, List.map_id]
    intro span member
    exact SpanRecord.span_ofSpan (inWords.span span member)
  rcases program with ⟨_, nodeSpans, maxStackDepth, distance⟩
  simp only [program?, instructionsRead, spansRead, Program.spans, PerKind.gather_flatMap_toList,
    Header.ofProgram, UInt32.toNat_ofNat_of_lt' inWords.maxStackDepth_lt, Option.bind_eq_bind,
    Option.bind_some, Option.pure_def]

/-- What the records of a program say of a node under a kind of evaluation: the record at the
place of the node and the kind carries the address, and the records that it names are read
back as the code. -/
structure Records (program : Program) (id : NodeId) (kind : EvalKind) (record : SpanRecord)
    (code : List Instruction) : Prop where
  getElem?_spans : (spans program)[3 * id + kind.index]? = some record
  span?_eq : program.span? id kind = some record.span
  code?_eq : program.code? id kind = some code
  stop_le : record.span.stop ≤ (instructions program).length
  map_instruction?_eq :
    (((instructions program).drop record.start.toNat).take record.length.toNat).map
      InstructionRecord.instruction? = code.map some

end Upload

/-! ## Numbers of programs that are compiled -/

/-- Spans that tile a stretch, each with an instruction at least, are no more than it is long. -/
theorem Span.Tiles.add_length_le {start stop : Nat} {spans : List Span}
    (tiles : Tiles start spans stop) (filled : ∀ span ∈ spans, 0 < span.length) :
    start + spans.length ≤ stop := by
  induction spans generalizing start with
  | nil => exact Nat.le_of_eq tiles
  | cons span rest ih =>
      rcases tiles with ⟨rfl, restTiles⟩
      rw [List.forall_mem_cons] at filled
      have restFits := ih restTiles filled.2
      have spanFilled := filled.1
      rw [Span.stop] at restFits
      rw [List.length_cons]
      omega

namespace Program

variable {program : Program}

/-- The spans of a program are those of its nodes. -/
theorem mem_spans_iff {span : Span} :
    span ∈ program.spans ↔ ∃ id kind, program.span? id kind = some span := by
  constructor
  · intro member
    rcases List.mem_flatMap.mp member with ⟨nodeSpans, nodeMember, inNode⟩
    rcases List.mem_iff_getElem?.mp nodeMember with ⟨id, found⟩
    rcases PerKind.mem_toList_iff.mp inNode with ⟨kind, rfl⟩
    exact ⟨id, kind, by rw [span?, found, Option.map_some]⟩
  · rintro ⟨id, kind, found⟩
    rw [span?, ← PerKind.getElem?_flatMap_toList] at found
    exact List.mem_of_getElem? found

/-- What is above some counts is above the greatest of them. -/
theorem foldl_max_lt {counts : List Nat} {bound : Nat} (positive : 0 < bound)
    (below : ∀ count ∈ counts, count < bound) : counts.foldl max 0 < bound := by
  by_cases empty : counts = []
  · rw [empty]
    exact positive
  · exact below _ (foldl_max_mem empty)

end Program

namespace Table

variable {table : Table} {config : Config} {program : Program}

theorem exists_places_of_mem_spans (compiled : table.compile config = .ok program) {span : Span}
    (member : span ∈ program.spans) :
    ∃ id kind code, program.Places id kind code span ∧ code.instructions ≠ [] := by
  rcases Program.mem_spans_iff.mp member with ⟨id, kind, spanned⟩
  have inside : id < table.size := by
    rcases Option.map_eq_some_iff.mp spanned with ⟨_, found, _⟩
    rw [← nodeCount_of_compile compiled]
    exact (List.getElem?_eq_some_iff.mp found).1
  have found : table.node? id = some table.nodes[id] := List.getElem?_eq_getElem inside
  rcases exists_places_of_compile compiled found kind with ⟨code, _, made, places⟩
  obtain rfl := Option.some.inj (places.span?_eq.symm.trans spanned)
  exact ⟨id, kind, code, places, nodeCode_instructions_ne_nil made⟩

/-- There are no more nodes than instructions. -/
theorem nodeCount_le_of_compile (compiled : table.compile config = .ok program) :
    program.nodeCount ≤ program.instructions.length := by
  have filled : ∀ span ∈ program.spans, 0 < span.length := by
    intro span member
    rcases exists_places_of_mem_spans compiled member with ⟨_, _, code, places, nonempty⟩
    rw [places.length_eq]
    exact List.length_pos_iff.mpr nonempty
  have tiles : Span.Tiles 0 program.spans program.instructions.length := by
    rcases exists_codes_of_compile compiled with ⟨codes, _, laidOut⟩
    rw [laidOut, ← Nat.zero_add (List.length _)]
    exact Program.tiles_layOut 0 codes
  have spanCount : program.spans.length = 3 * program.nodeCount :=
    PerKind.length_flatMap_toList program.nodeSpans
  have counted := tiles.add_length_le filled
  omega

/-- If the instructions of a program are few and its spans need little of a stack, all its
numbers are small. -/
theorem inWords_of_compile (compiled : table.compile config = .ok program)
    (few : program.instructions.length < UInt32.size)
    (shallow : ∀ span ∈ program.spans, span.stackDepth < UInt32.size) : program.InWords where
  instructionCount_lt := few
  nodeCount_lt := Nat.lt_of_le_of_lt (nodeCount_le_of_compile compiled) few
  maxStackDepth_lt := by
    have greatest : program.maxStackDepth = (program.spans.map Span.stackDepth).foldl max 0 := by
      rcases exists_codes_of_compile compiled with ⟨codes, _, rfl⟩
      exact Program.ofCodes_maxStackDepth _ codes
    rw [greatest]
    exact Program.foldl_max_lt (by decide) (List.forall_mem_map.mpr shallow)
  node_lt := by
    intro instruction member
    have inside := node_lt_size_of_compile compiled instruction member
    rw [← nodeCount_of_compile compiled] at inside
    exact Nat.lt_of_lt_of_le inside
      (Nat.le_trans (nodeCount_le_of_compile compiled) (Nat.le_of_lt few))
  span := by
    intro span member
    rcases exists_places_of_mem_spans compiled member with ⟨_, _, _, places, _⟩
    have stop_le := places.stop_le
    rw [Span.stop] at stop_le
    exact ⟨by omega, by omega, shallow span member⟩

/-- Every node of a table is found among the records of its program. -/
theorem exists_records_of_compile (compiled : table.compile config = .ok program)
    (inWords : program.InWords) {id : NodeId} (inside : id < table.size) (kind : EvalKind) :
    ∃ record code, Upload.Records program id kind record code := by
  have found : table.node? id = some table.nodes[id] := List.getElem?_eq_getElem inside
  rcases exists_places_of_compile compiled found kind with ⟨code, span, _, places⟩
  have listed : program.spans[3 * id + kind.index]? = some span := by
    rw [Program.spans, PerKind.getElem?_flatMap_toList]
    exact places.span?_eq
  have read := Upload.SpanRecord.span_ofSpan (inWords.span span (List.mem_of_getElem? listed))
  have start_eq : (Upload.SpanRecord.ofSpan span).start.toNat = span.start :=
    congrArg Span.start read
  have length_eq : (Upload.SpanRecord.ofSpan span).length.toNat = span.length :=
    congrArg Span.length read
  refine ⟨.ofSpan span, code.instructions, ?_, ?_, places.code?_eq, ?_, ?_⟩
  · rw [Upload.spans, List.getElem?_map, listed, Option.map_some]
  · rw [read]
    exact places.span?_eq
  · rw [read, Upload.instructions, List.length_map]
    exact places.stop_le
  · rw [start_eq, length_eq, Upload.instructions, ← List.map_drop, ← List.map_take]
    change (List.map _ (program.slice span)).map _ = _
    rw [← places.slice_eq]
    exact Upload.map_instruction?_ofInstruction fun instruction member =>
      inWords.node_lt instruction (List.mem_of_mem_drop (List.mem_of_mem_take member))

/-- A program that is compiled can be uploaded without loss, if its instructions are few and
its spans need little of a stack. Each node is found among the records, the header counts
them, and the whole program is rebuilt from header and records, so that no other program with
the same ones exists. -/
theorem upload_of_compile (compiled : table.compile config = .ok program)
    (few : program.instructions.length < UInt32.size)
    (shallow : ∀ span ∈ program.spans, span.stackDepth < UInt32.size) :
    (∀ id kind, id < program.nodeCount →
      ∃ record code, Upload.Records program id kind record code) ∧
    (Upload.Header.ofProgram program).instructionCount.toNat =
      (Upload.instructions program).length ∧
    3 * (Upload.Header.ofProgram program).nodeCount.toNat = (Upload.spans program).length ∧
    Upload.program? (.ofProgram program) (Upload.instructions program) (Upload.spans program) =
      some program ∧
    ∀ (otherTable : Table) (otherConfig : Config) (other : Program),
      otherTable.compile otherConfig = .ok other → other.instructions.length < UInt32.size →
      (∀ span ∈ other.spans, span.stackDepth < UInt32.size) →
      Upload.Header.ofProgram other = .ofProgram program →
      Upload.instructions other = Upload.instructions program →
      Upload.spans other = Upload.spans program → other = program := by
  have inWords := inWords_of_compile compiled few shallow
  have rebuilt := Upload.program?_ofProgram inWords
  refine ⟨fun id kind inside => ?_, ?_, ?_, rebuilt, ?_⟩
  · rw [nodeCount_of_compile compiled] at inside
    exact exists_records_of_compile compiled inWords inside kind
  · rw [Upload.instructions, List.length_map]
    exact UInt32.toNat_ofNat_of_lt' inWords.instructionCount_lt
  · rw [Upload.spans, List.length_map, Program.spans, PerKind.length_flatMap_toList]
    exact congrArg (3 * ·) (UInt32.toNat_ofNat_of_lt' inWords.nodeCount_lt)
  · intro otherTable otherConfig other otherCompiled otherFew otherShallow header instructions spans
    have otherRebuilt := Upload.program?_ofProgram
      (inWords_of_compile otherCompiled otherFew otherShallow)
    rw [header, instructions, spans, rebuilt] at otherRebuilt
    exact (Option.some.inj otherRebuilt).symm

theorem upload_of_compile_nested :
    ∃ program record code, nested.compile .standard = .ok program ∧
      program.instructions.length < UInt32.size ∧
      (∀ span ∈ program.spans, span.stackDepth < UInt32.size) ∧
      Upload.Records program 3 .bump record code ∧
      Upload.program? (.ofProgram program) (Upload.instructions program)
        (Upload.spans program) = some program := by
  obtain ⟨program, compiled, few, shallow⟩ : ∃ program, nested.compile .standard = .ok program ∧
      program.instructions.length < UInt32.size ∧
      ∀ span ∈ program.spans, span.stackDepth < UInt32.size :=
    ⟨_, rfl, by decide, by decide⟩
  obtain ⟨located, _, _, rebuilt, _⟩ := upload_of_compile compiled few shallow
  have count : program.nodeCount = 4 := nodeCount_of_compile compiled
  have inside : 3 < program.nodeCount := by
    rw [count]
    decide
  rcases located 3 .bump inside with ⟨record, code, records⟩
  exact ⟨program, record, code, compiled, few, shallow, records, rebuilt⟩

end Table

end TextureGraph
