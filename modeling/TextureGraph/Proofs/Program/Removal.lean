import TextureGraph.Proofs.Program.Renumbering
import TextureGraph.Proofs.Table.Edits

/-!
# Removing a node from a compiled table

A node that no other one refers to leaves no trace in the code of the others. The program
of the table without it is the old program with the three spans of the node cut out and
the nodes behind it renumbered.
-/

namespace TextureGraph

open Outcome

/-! ## Positions before and after a removal -/

namespace NodeId

/-- Where a node stood before the one at position `removed` was taken out. -/
def beforeRemoval (removed id : Nat) : Nat :=
  if id < removed then id else id + 1

/-- Where a node stands once the one at position `removed` is taken out. -/
def afterRemoval (removed id : Nat) : Nat :=
  if removed < id then id - 1 else id

theorem beforeRemoval_ne (removed id : Nat) : beforeRemoval removed id ≠ removed := by
  unfold beforeRemoval
  split <;> omega

theorem afterRemoval_beforeRemoval (removed id : Nat) :
    afterRemoval removed (beforeRemoval removed id) = id := by
  unfold afterRemoval beforeRemoval
  split <;> split <;> omega

theorem beforeRemoval_afterRemoval {removed id : Nat} (other : id ≠ removed) :
    beforeRemoval removed (afterRemoval removed id) = id := by
  unfold afterRemoval beforeRemoval
  split <;> split <;> omega

end NodeId

theorem getElem?_eraseIdx_eq {α : Type} (values : List α) (removed id : NodeId) :
    (values.eraseIdx removed)[id]? = values[NodeId.beforeRemoval removed id]? := by
  rw [List.getElem?_eraseIdx, NodeId.beforeRemoval]
  split <;> rfl

namespace Table

variable {table : Table} {id : NodeId} {removed : Node}

theorem remove_eq_of_ok (removal : (table.remove id).1 = .ok removed) :
    table.node? id = some removed ∧ (∀ node ∈ table.nodes, id ∉ node.children) ∧
      (table.remove id).2 =
        { table with nodes := (table.nodes.eraseIdx id).map (·.shiftChildren id) } := by
  obtain ⟨_, refused⟩ | ⟨node, found, unused, taken⟩ := table.remove_cases id
  · rw [refused] at removal
    cases removal
  · rw [taken] at removal ⊢
    cases removal
    exact ⟨found, unused, rfl⟩

/-- What is left stands in the old table one position further behind, past the removed node. -/
theorem relocation_remove (wellFormed : table.WellFormed)
    (removal : (table.remove id).1 = .ok removed) :
    (table.remove id).2.Relocation table (· < (table.remove id).2.size)
      (NodeId.beforeRemoval id) := by
  have leftFormed := wellFormed.remove id
  rcases remove_eq_of_ok removal with ⟨_, unused, taken⟩
  rw [taken] at leftFormed ⊢
  have node?_eq (position : NodeId) :
      node? { table with nodes := (table.nodes.eraseIdx id).map (·.shiftChildren id) } position =
        (table.node? (NodeId.beforeRemoval id position)).map (·.shiftChildren id) := by
    rw [node?, List.getElem?_map, getElem?_eraseIdx_eq]
    rfl
  constructor
  · rfl
  · intro position inside
    exact ⟨_, List.getElem?_eq_getElem inside⟩
  · intro position node _ found
    rw [node?_eq, Option.map_eq_some_iff] at found
    rcases found with ⟨old, foundOld, rfl⟩
    have children_eq : (old.shiftChildren id).children.map (NodeId.beforeRemoval id) =
        old.children := by
      refine (List.map_map).trans ((List.map_congr_left ?_).trans (List.map_id _))
      intro child member
      refine NodeId.beforeRemoval_afterRemoval ?_
      rintro rfl
      exact unused old (List.mem_of_getElem? foundOld) member
    refine ⟨old.name, ?_⟩
    rw [foundOld, Node.relocate, children_eq]
    rfl
  · intro position node inside found child member
    exact Nat.lt_trans ((leftFormed.stands found).child_lt child member) inside

end Table

/-! ## Programs without the spans of a node -/

/-- A span that starts further behind. -/
def Span.advance (distance : Nat) (span : Span) : Span :=
  { span with start := span.start + distance }

namespace Program

variable {distance : Binary32} {move : NodeId → NodeId}

theorem block_renumber (codes : PerKind Code) :
    block (codes.map (·.renumber move)) = (block codes).map (·.renumber move) := by
  simp [block, PerKind.toList, PerKind.map, Code.renumber]

theorem layOut_renumber (start : Nat) (codes : List (PerKind Code)) :
    layOut start (codes.map (PerKind.map (·.renumber move))) = layOut start codes := by
  induction codes generalizing start with
  | nil => rfl
  | cons first rest ih =>
      simp only [List.map_cons, layOut, block_renumber, List.length_map, ih]
      simp [spansFrom, PerKind.map, Code.renumber]

/-- Renumbering codes changes nothing but which nodes the instructions name. -/
theorem ofCodes_renumber (codes : List (PerKind Code)) :
    ofCodes distance (codes.map (PerKind.map (·.renumber move))) =
      { ofCodes distance codes with
        instructions := (ofCodes distance codes).instructions.map (·.renumber move) } := by
  have depths_eq (codes : PerKind Code) :
      (codes.map (·.renumber move)).toList.map Code.depth = codes.toList.map Code.depth := by
    rw [PerKind.toList_map, List.map_map]
    rfl
  simp only [ofCodes, layOut_renumber, List.flatMap_map, List.map_flatMap, block_renumber,
    depths_eq]

theorem spansFrom_add (start further : Nat) (codes : PerKind Code) :
    spansFrom (start + further) codes = (spansFrom start codes).map (.advance further) := by
  simp [spansFrom, PerKind.map, Span.advance, Nat.add_right_comm]

theorem layOut_add (start further : Nat) (codes : List (PerKind Code)) :
    layOut (start + further) codes =
      (layOut start codes).map (PerKind.map (.advance further)) := by
  induction codes generalizing start with
  | nil => rfl
  | cons first rest ih =>
      rw [layOut, spansFrom_add, Nat.add_right_comm, ih, layOut, List.map_cons]

/-! ### Two programs, one with the codes of a node and one without -/

variable {before after : List (PerKind Code)} {nodeCodes : PerKind Code} {kind : EvalKind}

variable (nodeCodes) in
theorem bump_stop_spansFrom (start : Nat) :
    (spansFrom start nodeCodes).bump.stop = start + (block nodeCodes).length := by
  simp [spansFrom, Span.stop, block, PerKind.toList, Nat.add_assoc]

theorem totalLength_spansFrom (start : Nat) :
    (spansFrom start nodeCodes).float.length + (spansFrom start nodeCodes).spectrum.length +
      (spansFrom start nodeCodes).bump.length = (block nodeCodes).length := by
  simp [spansFrom, block, PerKind.toList, Nat.add_assoc]

theorem nodeSpans_ofCodes_append :
    (ofCodes distance (before ++ nodeCodes :: after)).nodeSpans =
      layOut 0 before ++ spansFrom (before.flatMap block).length nodeCodes ::
        layOut ((before.flatMap block).length + (block nodeCodes).length) after := by
  simp only [ofCodes, layOut_append, layOut, Nat.zero_add]

variable (nodeCodes) in
/-- The instructions of the other nodes are what is left when those of the node are cut out. -/
theorem instructions_ofCodes_append :
    (ofCodes distance (before ++ after)).instructions =
      (ofCodes distance (before ++ nodeCodes :: after)).instructions.take
          (before.flatMap block).length ++
        (ofCodes distance (before ++ nodeCodes :: after)).instructions.drop
          ((before.flatMap block).length + (block nodeCodes).length) := by
  simp [ofCodes, List.flatMap_append, List.flatMap_cons, ← List.drop_drop]

/-- Nodes in front keep their spans, which end before those of the node. -/
theorem span?_ofCodes_front {position : NodeId} (front : position < before.length) {span : Span}
    (spanned : (ofCodes distance (before ++ nodeCodes :: after)).span? position kind = some span) :
    (ofCodes distance (before ++ after)).span? position kind = some span ∧
      span.stop ≤ (before.flatMap block).length := by
  have inside : position < (layOut 0 before).length := by rwa [layOut_length]
  rw [span?, nodeSpans_ofCodes_append, List.getElem?_append_left inside, Option.map_eq_some_iff]
    at spanned
  rcases spanned with ⟨spans, found, rfl⟩
  have within := (layOut_within found kind).2
  rw [Nat.zero_add] at within
  refine ⟨?_, within⟩
  rw [span?, ofCodes, layOut_append, List.getElem?_append_left inside, found, Option.map_some]

/-- Nodes behind have spans that start earlier by the instructions of the node. -/
theorem span?_ofCodes_behind {position : NodeId} {span : Span}
    (spanned : (ofCodes distance (before ++ nodeCodes :: after)).span?
      (before.length + position + 1) kind = some span) :
    (ofCodes distance (before ++ after)).span? (before.length + position) kind =
        some { span with start := span.start - (block nodeCodes).length } ∧
      (before.flatMap block).length + (block nodeCodes).length ≤ span.start := by
  have right : (layOut 0 before).length ≤ before.length + position + 1 := by
    rw [layOut_length]
    omega
  have behind : before.length + position + 1 - (layOut 0 before).length = position + 1 := by
    rw [layOut_length]
    omega
  rw [span?, nodeSpans_ofCodes_append, List.getElem?_append_right right, behind,
    List.getElem?_cons_succ, layOut_add, List.getElem?_map, Option.map_map,
    Option.map_eq_some_iff] at spanned
  rcases spanned with ⟨spans, found, rfl⟩
  have within := (layOut_within found kind).1
  constructor
  · rw [span?, ofCodes, layOut_append, List.getElem?_append_right (by simp [layOut_length]),
      layOut_length, Nat.add_sub_cancel_left, Nat.zero_add, found, Option.map_some]
    simp [Span.advance]
  · simpa [Span.advance] using within

theorem maxStackDepth_ofCodes_append :
    (ofCodes distance (before ++ after)).maxStackDepth =
      ((((ofCodes distance (before ++ nodeCodes :: after)).nodeSpans.eraseIdx
        before.length).flatMap PerKind.toList).map Span.stackDepth).foldl max 0 := by
  have erased : (ofCodes distance (before ++ nodeCodes :: after)).nodeSpans.eraseIdx before.length =
      layOut 0 before ++
        layOut ((before.flatMap block).length + (block nodeCodes).length) after := by
    have lengths : (layOut 0 before).length = before.length := layOut_length 0 before
    rw [nodeSpans_ofCodes_append, List.eraseIdx_append_of_length_le (Nat.le_of_eq lengths),
      lengths, Nat.sub_self, List.eraseIdx_cons_zero]
  rw [erased, List.flatMap_append, List.map_append, stackDepths_layOut, stackDepths_layOut,
    ← List.map_append, ← List.flatMap_append, ofCodes]

end Program

namespace Table

variable {table : Table} {id : NodeId} {removed : Node}

/-- Renumbering is all that happens to the codes of the other nodes, in which the removed one
does not occur. -/
theorem codes_remove (wellFormed : table.WellFormed)
    (removal : (table.remove id).1 = .ok removed) {limit : Nat} {codes : List (PerKind Code)}
    (made : table.codes limit = .ok codes) :
    ∃ own, (table.remove id).2.codes limit = .ok own ∧
      codes.eraseIdx id = own.map (PerKind.map (·.renumber (NodeId.beforeRemoval id))) := by
  have relocation := relocation_remove wellFormed removal
  rcases relocation.exists_codes made with ⟨own, ownMade, moved⟩
  rcases remove_eq_of_ok removal with ⟨found, _, taken⟩
  have lengths : own.length = (codes.eraseIdx id).length := by
    have inside : id < table.size := (List.getElem?_eq_some_iff.mp found).1
    rw [codes_length ownMade, taken, size, List.length_map, List.length_eraseIdx_of_lt inside,
      List.length_eraseIdx_of_lt (codes_length made ▸ inside), codes_length made, size]
  refine ⟨own, ownMade, List.ext_getElem? fun position => ?_⟩
  rw [List.getElem?_map]
  cases ownFound : own[position]? with
  | some nodeCodes =>
      rw [getElem?_eraseIdx_eq]
      exact moved position nodeCodes ownFound
  | none =>
      rw [List.getElem?_eq_none_iff, lengths] at ownFound
      rw [List.getElem?_eq_none ownFound, Option.map_none]

/-- Without the codes of the removed node, the program of a table is that of what is left,
with the nodes numbered as they were. -/
theorem exists_compile_remove (wellFormed : table.WellFormed)
    (removal : (table.remove id).1 = .ok removed) {config : Config} {program : Program}
    (compiled : table.compile config = .ok program) :
    ∃ before nodeCodes after shrunk, before.length = id ∧
      program = .ofCodes config.bumpSampleDistance (before ++ nodeCodes :: after) ∧
      (table.remove id).2.compile config = .ok shrunk ∧
      Program.ofCodes config.bumpSampleDistance (before ++ after) = { shrunk with
        instructions := shrunk.instructions.map (·.renumber (NodeId.beforeRemoval id)) } := by
  rcases exists_codes_of_compile compiled with ⟨codes, made, rfl⟩
  rcases codes_remove wellFormed removal made with ⟨own, ownMade, without⟩
  have inside : id < codes.length := by
    rw [codes_length made]
    exact (List.getElem?_eq_some_iff.mp (remove_eq_of_ok removal).1).1
  refine ⟨codes.take id, codes[id], codes.drop (id + 1), .ofCodes config.bumpSampleDistance own,
    List.length_take_of_le (Nat.le_of_lt inside), ?_, ?_, ?_⟩
  · rw [← List.drop_eq_getElem_cons inside, List.take_append_drop]
  · rw [compile_eq_map_codes, ownMade, map_ok]
  · rw [← List.eraseIdx_eq_take_drop_succ, without, Program.ofCodes_renumber]

/-- Compiling what is left after a node is taken out gives the old program with the spans of
the node cut out. They lie back to back; spans behind them start earlier by their length. -/
theorem compile_remove (built : table.Built) (removal : (table.remove id).1 = .ok removed)
    {config : Config} {program : Program} (compiled : table.compile config = .ok program) :
    ∃ shrunk spans, (table.remove id).2.compile config = .ok shrunk ∧
      program.nodeSpans[id]? = some spans ∧
      spans.spectrum.start = spans.float.stop ∧ spans.bump.start = spans.spectrum.stop ∧
      (∀ instruction ∈ program.instructions.take spans.float.start ++
        program.instructions.drop spans.bump.stop, instruction.node ≠ id) ∧
      shrunk.instructions = (program.instructions.take spans.float.start ++
        program.instructions.drop spans.bump.stop).map (·.renumber (NodeId.afterRemoval id)) ∧
      (∀ other kind span, other < id → program.span? other kind = some span →
        shrunk.span? (NodeId.afterRemoval id other) kind = some span ∧
          span.stop ≤ spans.float.start) ∧
      (∀ other kind span, id < other → program.span? other kind = some span →
        shrunk.span? (NodeId.afterRemoval id other) kind = some { span with
          start := span.start -
            (spans.float.length + spans.spectrum.length + spans.bump.length) } ∧
          spans.bump.stop ≤ span.start) ∧
      shrunk.nodeCount + 1 = program.nodeCount ∧
      shrunk.maxStackDepth = (((program.nodeSpans.eraseIdx id).flatMap PerKind.toList).map
        Span.stackDepth).foldl max 0 ∧
      shrunk.bumpSampleDistance = program.bumpSampleDistance := by
  obtain ⟨before, nodeCodes, after, shrunk, rfl, rfl, shrunkCompiled, without⟩ :=
    exists_compile_remove built.wellFormed removal compiled
  have stop_eq := Program.bump_stop_spansFrom nodeCodes (before.flatMap Program.block).length
  have left_eq : (Program.ofCodes config.bumpSampleDistance (before ++ after)).instructions =
      shrunk.instructions.map (·.renumber (NodeId.beforeRemoval before.length)) := by
    rw [without]
  rw [Program.instructions_ofCodes_append nodeCodes, ← stop_eq] at left_eq
  have nodeSpans_eq : shrunk.nodeSpans =
      (Program.ofCodes config.bumpSampleDistance (before ++ after)).nodeSpans := by
    rw [without]
  have span?_eq (position : NodeId) (kind : EvalKind) : shrunk.span? position kind =
      (Program.ofCodes config.bumpSampleDistance (before ++ after)).span? position kind := by
    rw [Program.span?, Program.span?, nodeSpans_eq]
  refine ⟨shrunk, Program.spansFrom (before.flatMap Program.block).length nodeCodes,
    shrunkCompiled, ?_, rfl, rfl, ?_, ?_, ?_, ?_, ?_, ?_, ?_⟩
  · simp [Program.ofCodes, Program.layOut_getElem?]
  · intro instruction member
    change instruction ∈ List.take (before.flatMap Program.block).length _ ++ _ at member
    rw [left_eq] at member
    rcases List.mem_map.mp member with ⟨old, _, rfl⟩
    exact NodeId.beforeRemoval_ne _ _
  · change _ = (List.take (before.flatMap Program.block).length _ ++ _).map _
    rw [left_eq, List.map_map]
    refine (List.map_id _).symm.trans (List.map_congr_left fun instruction _ => ?_)
    simp [Instruction.renumber, NodeId.afterRemoval_beforeRemoval]
  · intro other kind span front spanned
    rw [NodeId.afterRemoval, if_neg (Nat.not_lt.mpr (Nat.le_of_lt front)), span?_eq]
    exact Program.span?_ofCodes_front front spanned
  · intro other kind span behind spanned
    rcases Nat.exists_eq_add_of_lt behind with ⟨position, rfl⟩
    rw [NodeId.afterRemoval, if_pos behind, Nat.add_sub_cancel, span?_eq, stop_eq,
      Program.totalLength_spansFrom]
    exact Program.span?_ofCodes_behind spanned
  · rw [Program.nodeCount, Program.nodeCount, nodeSpans_eq]
    simp [Program.ofCodes, Program.layOut_length]
    omega
  · rw [← Program.maxStackDepth_ofCodes_append, without]
  · exact (congrArg Program.bumpSampleDistance without).symm

/-- Nobody uses the stripes. Without them the brightened picture stands one position further
in front, and so does the picture that its code names. -/
theorem compile_remove_striped :
    ∃ program shrunk spans, striped.compile .standard = .ok program ∧
      (striped.remove 1).2.compile .standard = .ok shrunk ∧
      program.nodeSpans[1]? = some spans ∧
      shrunk.instructions = (program.instructions.take spans.float.start ++
        program.instructions.drop spans.bump.stop).map (·.renumber (NodeId.afterRemoval 1)) ∧
      (striped.remove 1).2.node? 2 = some ⟨"bright", .add, [0, 1]⟩ ∧
      shrunk.nodeCount + 1 = program.nodeCount := by
  obtain ⟨program, compiled⟩ : ∃ program, striped.compile .standard = .ok program := ⟨_, rfl⟩
  obtain ⟨shrunk, spans, shrunkCompiled, found, _, _, _, instructions, _, _, count, _⟩ :=
    compile_remove built_striped (show (striped.remove 1).1 = .ok _ from rfl) compiled
  exact ⟨program, shrunk, spans, compiled, shrunkCompiled, found, instructions, rfl, count⟩

end Table

end TextureGraph
