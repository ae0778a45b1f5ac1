import TextureGraph.Proofs.Machine.Simulation
import TextureGraph.Proofs.Program.Composition
import TextureGraph.Proofs.Program.Removal

/-!
# How far an edit reaches

An edit of a node concerns the node itself and those that reach it through their inputs.
All others keep their values and their code: appending a node leaves the old program in
front of its own code, replacing one leaves the spans of the others as they were, and
removing one changes no more than the positions of those behind it.
-/

namespace TextureGraph

open Outcome

theorem Node.relocate_id (node : Node) : node.relocate node.name id = node := by
  rw [relocate, List.map_id]

theorem Code.renumber_id (code : Code) : code.renumber id = code := by
  have unmoved (instruction : Instruction) : instruction.renumber id = instruction := rfl
  simp [renumber, unmoved]

theorem NodeId.afterRemoval_lt {removed id size : Nat} (removedInside : removed < size)
    (inside : id < size) (other : id ≠ removed) : afterRemoval removed id < size - 1 := by
  unfold afterRemoval
  split <;> omega

/-! ## What an accepted edit has done -/

namespace Table

variable {table : Table} {name : String} {kind : TextureKind} {children : List NodeId}

theorem push_eq_of_ok {pushed : NodeId} (success : (table.push name kind children).1 = .ok pushed) :
    (table.push name kind children).2 =
      { table with nodes := table.nodes ++ [⟨name, kind, children⟩] } := by
  obtain ⟨_, refused⟩ | ⟨_, appended⟩ := table.push_cases name kind children
  · rw [refused] at success
    cases success
  · rw [appended]

theorem replace_eq_of_ok {edited : NodeId}
    (success : (table.replace edited kind children).1 = .ok ()) :
    ∃ node, (table.replace edited kind children).2 =
      { table with nodes := table.nodes.set edited node } := by
  obtain ⟨_, refused⟩ | ⟨old, _, _, replaced⟩ := table.replace_cases edited kind children
  · rw [refused] at success
    cases success
  · exact ⟨_, by rw [replaced]⟩

theorem size_remove {id : NodeId} {removed : Node} (removal : (table.remove id).1 = .ok removed) :
    id < table.size ∧ (table.remove id).2.size = table.size - 1 := by
  rcases remove_eq_of_ok removal with ⟨found, _, taken⟩
  have inside : id < table.nodes.length := (List.getElem?_eq_some_iff.mp found).1
  rw [taken, size, size, List.length_map, List.length_eraseIdx_of_lt inside]
  exact ⟨inside, rfl⟩

/-! ## Nodes that stay where they are -/

/-- Nodes that are the same in another table, and whose inputs are, stand there as they are. -/
theorem relocation_of_node?_eq {source target : Table} {inside : NodeId → Prop}
    (images_eq : target.images = source.images)
    (found : ∀ {position}, inside position → position < source.size)
    (same : ∀ {position}, inside position → target.node? position = source.node? position)
    (child : ∀ {position node}, inside position → source.node? position = some node →
      ∀ child ∈ node.children, inside child) :
    source.Relocation target inside id where
  images_eq := images_eq
  found holds := ⟨_, List.getElem?_eq_getElem (found holds)⟩
  moved {position node} holds standing :=
    ⟨node.name, by rw [Node.relocate_id, id, same holds, standing]⟩
  child := child

/-- A node that is appended moves none of those before it. -/
theorem relocation_push (wellFormed : table.WellFormed) {pushed : NodeId}
    (success : (table.push name kind children).1 = .ok pushed) :
    table.Relocation (table.push name kind children).2 (· < table.size) id := by
  rw [push_eq_of_ok success]
  refine relocation_of_node?_eq rfl (fun inside => inside) ?_ ?_
  · intro position inside
    exact List.getElem?_append_left inside
  · intro position node inside standing child member
    exact Nat.lt_trans ((wellFormed.stands standing).child_lt child member) inside

/-- A node can be reached from another one by going from inputs to their inputs. -/
def Reaches (table : Table) : NodeId → NodeId → Prop :=
  Relation.ReflTransGen table.HasInput

theorem WellFormed.le_of_reaches (wellFormed : table.WellFormed) {id reached : NodeId}
    (path : table.Reaches id reached) : reached ≤ id := by
  obtain rfl | path := Relation.reflTransGen_iff_eq_or_transGen.mp path
  · exact Nat.le_refl _
  · exact Nat.le_of_lt (wellFormed.lt_of_transGen_hasInput path)

/-- A node that is replaced leaves alone all from which it cannot be reached. -/
theorem relocation_replace (wellFormed : table.WellFormed) {edited : NodeId}
    (success : (table.replace edited kind children).1 = .ok ()) :
    table.Relocation (table.replace edited kind children).2
      (fun position => position < table.size ∧ ¬ table.Reaches position edited) id := by
  rcases replace_eq_of_ok success with ⟨_, replaced⟩
  rw [replaced]
  refine relocation_of_node?_eq rfl And.left ?_ ?_
  · rintro position ⟨_, unreached⟩
    have other : edited ≠ position := by
      rintro rfl
      exact unreached .refl
    exact List.getElem?_set_ne other
  · rintro position node ⟨inside, unreached⟩ standing child member
    constructor
    · exact Nat.lt_trans ((wellFormed.stands standing).child_lt child member) inside
    · intro reached
      exact unreached (.head ⟨node, standing, member⟩ reached)

end Table

/-! ## What relocated nodes keep -/

/-- A node has a value under every kind of evaluation and on every hit point, and a node of
another table has the same ones. -/
def Table.SameValues (source target : Table) (distance : Binary32) (position moved : NodeId) :
    Prop :=
  ∀ eval hit, ∃ value, source.evaluate distance position eval hit = .ok value ∧
    target.evaluate distance moved eval hit = .ok value

namespace Table.Relocation

variable {source target : Table} {inside : NodeId → Prop} {move : NodeId → NodeId}
  {position : NodeId}

theorem sameValues (relocation : source.Relocation target inside move)
    (sourceFormed : source.WellFormed) (targetFormed : target.WellFormed)
    (holds : inside position) (distance : Binary32) :
    source.SameValues target distance position (move position) := by
  intro eval hit
  rcases relocation.found holds with ⟨_, standing⟩
  have within : position < source.size := (List.getElem?_eq_some_iff.mp standing).1
  rcases sourceFormed.exists_value within distance eval hit with ⟨value, evaluated, _⟩
  refine ⟨value, evaluated, ?_⟩
  rw [relocation.evaluate_eq sourceFormed targetFormed holds, evaluated]

/-- Where both tables compile, a node has the same code in both programs but for the
positions that it names. -/
theorem exists_places (relocation : source.Relocation target inside move) {config : Config}
    {program moved : Program} (compiled : source.compile config = .ok program)
    (movedCompiled : target.compile config = .ok moved) (holds : inside position)
    (kind : EvalKind) :
    ∃ code span movedSpan, program.Places position kind code span ∧
      moved.Places (move position) kind (code.renumber move) movedSpan := by
  rcases relocation.found holds with ⟨node, standing⟩
  rcases relocation.moved holds standing with ⟨_, standingMoved⟩
  rcases exists_places_of_compile compiled standing kind with ⟨code, span, made, places⟩
  rcases exists_places_of_compile movedCompiled standingMoved kind with
    ⟨_, movedSpan, madeMoved, placesMoved⟩
  rcases (relocation.agree_nodeCode _ _ holds kind).exists_of_eq_ok madeMoved with
    ⟨again, madeAgain, rfl⟩
  cases made.symm.trans madeAgain
  exact ⟨code, span, movedSpan, places, placesMoved⟩

/-- Where a table stands unmoved at the front of another one that compiles, its codes are the
first ones of the other. -/
theorem exists_codes_prefix (relocation : source.Relocation target (· < source.size) id)
    {limit : Nat} {codes : List (PerKind Code)} (made : target.codes limit = .ok codes) :
    ∃ own, source.codes limit = .ok own ∧ own <+: codes := by
  rcases relocation.exists_codes made with ⟨own, ownMade, stands⟩
  refine ⟨own, ownMade, List.prefix_iff_getElem?.mpr fun position within => ?_⟩
  have unmoved (codes : PerKind Code) : codes.map (·.renumber id) = codes := by
    simp only [PerKind.map, Code.renumber_id]
  have standing := stands position own[position] (List.getElem?_eq_getElem within)
  rwa [unmoved] at standing

end Table.Relocation

/-- Programs of codes grow with the codes, at their ends. -/
theorem Program.ofCodes_prefix {distance : Binary32} {own codes : List (PerKind Code)}
    (front : own <+: codes) :
    (ofCodes distance own).instructions <+: (ofCodes distance codes).instructions ∧
      (ofCodes distance own).nodeSpans <+: (ofCodes distance codes).nodeSpans := by
  rcases front with ⟨more, rfl⟩
  simp only [ofCodes, List.flatMap_append, layOut_append]
  exact ⟨List.prefix_append _ _, List.prefix_append _ _⟩

namespace Table

variable {table : Table}

/-- A table that another one begins with compiles where the other does, to a program that
the other one begins with. -/
theorem Relocation.exists_compile_prefix {longer : Table}
    (relocation : table.Relocation longer (· < table.size) id) {config : Config}
    {program : Program} (compiled : longer.compile config = .ok program) :
    ∃ own, table.compile config = .ok own ∧ own.instructions <+: program.instructions ∧
      own.nodeSpans <+: program.nodeSpans := by
  rcases exists_codes_of_compile compiled with ⟨codes, made, rfl⟩
  rcases relocation.exists_codes_prefix made with ⟨own, ownMade, front⟩
  refine ⟨.ofCodes config.bumpSampleDistance own, ?_, Program.ofCodes_prefix front⟩
  rw [compile_eq_map_codes, ownMade, map_ok]

/-- A node that has not moved has the same instructions and needs the same slots. -/
theorem Relocation.exists_code?_eq {target : Table} {inside : NodeId → Prop}
    (relocation : table.Relocation target inside id) {config : Config} {program moved : Program}
    (compiled : table.compile config = .ok program)
    (movedCompiled : target.compile config = .ok moved) {position : NodeId}
    (holds : inside position) (kind : EvalKind) :
    ∃ span movedSpan instructions, program.span? position kind = some span ∧
      moved.span? position kind = some movedSpan ∧
      program.code? position kind = some instructions ∧
      moved.code? position kind = some instructions ∧ span.stackDepth = movedSpan.stackDepth := by
  obtain ⟨code, span, movedSpan, places, placesMoved⟩ :=
    relocation.exists_places compiled movedCompiled holds kind
  rw [Code.renumber_id] at placesMoved
  exact ⟨span, movedSpan, code.instructions, places.span?_eq, placesMoved.span?_eq,
    places.code?_eq, placesMoved.code?_eq,
    places.stackDepth_eq.trans placesMoved.stackDepth_eq.symm⟩

/-- The nodes that are left have the values that they had. -/
theorem WellFormed.sameValues_remove (wellFormed : table.WellFormed) {id : NodeId} {removed : Node}
    (removal : (table.remove id).1 = .ok removed) {position : NodeId}
    (inside : position < table.size) (other : position ≠ id) (distance : Binary32) :
    table.SameValues (table.remove id).2 distance position (NodeId.afterRemoval id position) := by
  rcases size_remove removal with ⟨removedInside, size_eq⟩
  have left := NodeId.afterRemoval_lt removedInside inside other
  rw [← size_eq] at left
  have values := (relocation_remove wellFormed removal).sameValues (wellFormed.remove id)
    wellFormed left distance
  rw [NodeId.beforeRemoval_afterRemoval other] at values
  exact fun eval hit => (values eval hit).imp fun _ => And.symm

/-- No edit reaches further than it must. Nodes that were there before a new one was appended
keep their values, and their program stays in front. Nodes that do not reach a replaced one
keep their values, their code and their need of stack slots. The nodes that are left when one
is removed keep their values under their new positions. -/
theorem Built.edits_local (built : table.Built) (config : Config) :
    (∀ name kind children pushed, (table.push name kind children).1 = .ok pushed →
      (∀ position, position < table.size →
        table.SameValues (table.push name kind children).2 config.bumpSampleDistance position
          position) ∧
      ∀ program longer, table.compile config = .ok program →
        (table.push name kind children).2.compile config = .ok longer →
        program.instructions <+: longer.instructions ∧ program.nodeSpans <+: longer.nodeSpans) ∧
    (∀ edited kind children, (table.replace edited kind children).1 = .ok () →
      ∀ position, position < table.size → ¬ table.Reaches position edited →
        table.SameValues (table.replace edited kind children).2 config.bumpSampleDistance position
          position ∧
        ∀ program replaced, table.compile config = .ok program →
          (table.replace edited kind children).2.compile config = .ok replaced →
          ∀ eval, ∃ span replacedSpan instructions, program.span? position eval = some span ∧
            replaced.span? position eval = some replacedSpan ∧
            program.code? position eval = some instructions ∧
            replaced.code? position eval = some instructions ∧
            span.stackDepth = replacedSpan.stackDepth) ∧
    ∀ id removed, (table.remove id).1 = .ok removed →
      ∀ position, position < table.size → position ≠ id →
        table.SameValues (table.remove id).2 config.bumpSampleDistance position
          (NodeId.afterRemoval id position) := by
  have formed := built.wellFormed
  refine ⟨?_, ?_, ?_⟩
  · intro name kind children pushed success
    have relocation := relocation_push formed success
    constructor
    · intro position inside
      exact relocation.sameValues formed (formed.push name kind children) inside _
    · intro program longer compiled longerCompiled
      rcases relocation.exists_compile_prefix longerCompiled with ⟨own, ownCompiled, front⟩
      cases compiled.symm.trans ownCompiled
      exact front
  · intro edited kind children success position inside unreached
    have relocation := relocation_replace formed success
    constructor
    · exact relocation.sameValues formed (formed.replace edited kind children)
        ⟨inside, unreached⟩ _
    · intro program replaced compiled replacedCompiled
      exact relocation.exists_code?_eq compiled replacedCompiled ⟨inside, unreached⟩
  · intro id removed removal position inside other
    exact formed.sameValues_remove removal inside other _

/-- The picture has no input, so replacing the stripes by a sum changes neither its value nor
its code; and what is appended to the table comes behind the old program. -/
theorem edits_local_striped :
    ∃ program longer replaced, striped.compile .standard = .ok program ∧
      (striped.push "late" .abs [3]).2.compile .standard = .ok longer ∧
      program.instructions <+: longer.instructions ∧
      (striped.replace 1 .add [0, 0]).2.compile .standard = .ok replaced ∧
      program.code? 2 .bump = replaced.code? 2 .bump ∧
      striped.SameValues (striped.replace 1 .add [0, 0]).2 0.001 2 2 ∧
      striped.SameValues (striped.remove 1).2 0.001 3 2 := by
  obtain ⟨program, compiled⟩ : ∃ program, striped.compile .standard = .ok program := ⟨_, rfl⟩
  obtain ⟨longer, longerCompiled⟩ :
      ∃ longer, (striped.push "late" .abs [3]).2.compile .standard = .ok longer := ⟨_, rfl⟩
  obtain ⟨replaced, replacedCompiled⟩ :
      ∃ replaced, (striped.replace 1 .add [0, 0]).2.compile .standard = .ok replaced := ⟨_, rfl⟩
  have unreached : ¬ striped.Reaches 2 1 := by
    intro reached
    obtain same | ⟨input, ⟨node, standing, member⟩, _⟩ := Relation.ReflTransGen.cases_head reached
    · cases same
    · cases standing
      cases member
  obtain ⟨pushes, replaces, removes⟩ := built_striped.edits_local .standard
  have front := ((pushes "late" .abs [3] 4 rfl).2 program longer compiled longerCompiled).1
  obtain ⟨values, codes⟩ := replaces 1 .add [0, 0] rfl 2 (by decide) unreached
  obtain ⟨_, _, _, _, _, code_eq, replaced_eq, _⟩ :=
    codes program replaced compiled replacedCompiled .bump
  exact ⟨program, longer, replaced, compiled, longerCompiled, front, replacedCompiled,
    code_eq.trans replaced_eq.symm, values, removes 1 _ rfl 3 (by decide) (by decide)⟩

end Table

end TextureGraph
