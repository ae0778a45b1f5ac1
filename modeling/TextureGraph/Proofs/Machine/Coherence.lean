import TextureGraph.Proofs.Derivation
import TextureGraph.Proofs.Machine.Correctness

/-!
# Numbers and colours of one texture

Some textures are colours by nature and others are numbers. Under the other kind of
evaluation they visit the same inputs in the same way, so the two values belong together: the
number of a colour is its luminance, and the colour of a number is grey. Bumps are made of
numbers, so they follow the colours that are seen.
-/

namespace TextureGraph

namespace TextureKind

/-- Kinds that are colours by nature. -/
def IsColor : TextureKind → Prop
  | constColor _ | imageMap _ _ _ | hitPointColor | uv _ | marble _ _ _ _ _ | band _ | hsv
  | makeFloat3 | triplanar _ => True
  | _ => False

/-- Kinds that are numbers by nature. -/
def IsNumber : TextureKind → Prop
  | constFloat _ | hitPointAlpha | hitPointGrey _ | fbm _ _ _ | wrinkled _ _ _ | windy _
  | splitFloat3 _ | normalMap _ => True
  | _ => False

/-- Among the values that a texture of the kind has under each kind of evaluation, a number
and a colour belong together. -/
def Coherent (kind : TextureKind) (has : EvalKind → Value → Prop) : Prop :=
  (kind.IsColor → ∃ color, has .spectrum (.vector color) ∧
    has .float (.float (Color.luminance color))) ∧
  (kind.IsNumber → ∃ number, has .float (.float number) ∧
    has .spectrum (.vector (Vec3.splat number)))

theorem Coherent.mono {kind : TextureKind} {has hasMore : EvalKind → Value → Prop}
    (coherent : kind.Coherent has) (more : ∀ eval value, has eval value → hasMore eval value) :
    kind.Coherent hasMore := by
  constructor
  · intro isColor
    rcases coherent.1 isColor with ⟨color, asColor, asNumber⟩
    exact ⟨color, more _ _ asColor, more _ _ asNumber⟩
  · intro isNumber
    rcases coherent.2 isNumber with ⟨number, asNumber, asColor⟩
    exact ⟨number, more _ _ asNumber, more _ _ asColor⟩

end TextureKind

/-! ## The same operands -/

namespace Combine

variable {images : List Image} {kind : TextureKind} {hit : HitPoint}
  {operands rest : List Binary32}

theorem value?_float_eq_ok_iff {number : Binary32} :
    (value? images kind .float hit).run operands = .ok (some (.float number), rest) ↔
      (Combine.number images kind hit).run operands = .ok (number, rest) := by
  simp [value?, StateT.run_map, Outcome.map_eq_map, Outcome.map_eq_ok_iff]

theorem value?_spectrum_eq_ok_iff {color : Color} :
    (value? images kind .spectrum hit).run operands = .ok (some (.vector color), rest) ↔
      (spectrum images kind hit).run operands = .ok (color, rest) := by
  simp [value?, StateT.run_map, Outcome.map_eq_map, Outcome.map_eq_ok_iff]

theorem number_eq_luminance (isColor : kind.IsColor) :
    number images kind hit = Color.luminance <$> spectrum images kind hit := by
  cases kind with
  | constColor | imageMap | hitPointColor | uv | marble | band | hsv | makeFloat3 | triplanar => rfl
  | _ => exact isColor.elim

theorem spectrum_eq_splat (isNumber : kind.IsNumber) :
    spectrum images kind hit = Vec3.splat <$> number images kind hit := by
  cases kind with
  | constFloat | hitPointAlpha | hitPointGrey | fbm | wrinkled | windy | normalMap => rfl
  | splitFloat3 => simp only [spectrum, number, map_eq_pure_bind, bind_assoc, pure_bind]
  | _ => exact isNumber.elim

end Combine

namespace Node

variable {node : Node} {visit : Visit} {hit : HitPoint}

/-- A number and a colour of such a texture take the same operands. -/
theorem operands?_float_eq_spectrum (ownKind : node.kind.IsColor ∨ node.kind.IsNumber) :
    node.operands? visit .float hit = node.operands? visit .spectrum hit := by
  rcases node with ⟨name, kind, children⟩
  cases kind with
  | scale | add | subtract | mix | divide | power | abs | clamp | modulo | dots | checkerboard2d
  | checkerboard3d | bilerp | distort => exact ownKind.elim False.elim False.elim
  | _ => rfl

end Node

/-! ## Derivations under the other kind -/

namespace Table

variable {table : Table} {distance : Binary32} {nesting : Nat} {id : NodeId} {node : Node}
  {hit : HitPoint}

/-- A derivation of a colour also derives the luminance of the colour. -/
theorem Evaluates.luminance {color : Color} (found : table.node? id = some node)
    (isColor : node.kind.IsColor)
    (derived : table.Evaluates distance nesting id .spectrum hit (.vector color)) :
    table.Evaluates distance nesting id .float hit (.float (Color.luminance color)) := by
  cases derived with
  | combined visit foundAgain filled inputs visited made =>
      obtain rfl := Option.some.inj (found.symm.trans foundAgain)
      rw [← Node.operands?_float_eq_spectrum (.inl isColor)] at visited
      refine .combined visit found filled inputs visited ?_
      rw [Combine.value?_spectrum_eq_ok_iff] at made
      rw [Combine.value?_float_eq_ok_iff, Combine.number_eq_luminance isColor, StateT.run_map, made]
      rfl

/-- A derivation of a number also derives the grey of the number. -/
theorem Evaluates.splat {number : Binary32} (found : table.node? id = some node)
    (isNumber : node.kind.IsNumber)
    (derived : table.Evaluates distance nesting id .float hit (.float number)) :
    table.Evaluates distance nesting id .spectrum hit (.vector (Vec3.splat number)) := by
  cases derived with
  | combined visit foundAgain filled inputs visited made =>
      obtain rfl := Option.some.inj (found.symm.trans foundAgain)
      rw [Node.operands?_float_eq_spectrum (.inr isNumber)] at visited
      refine .combined visit found filled inputs visited ?_
      rw [Combine.value?_float_eq_ok_iff] at made
      rw [Combine.value?_spectrum_eq_ok_iff, Combine.spectrum_eq_splat isNumber, StateT.run_map,
        made]
      rfl

theorem WellFormed.coherent_evaluates (wellFormed : table.WellFormed)
    (found : table.node? id = some node) (distance : Binary32) (hit : HitPoint) :
    node.kind.Coherent fun eval value =>
      table.Evaluates distance (2 * id + 2) id eval hit value := by
  have inside : id < table.size := (List.getElem?_eq_some_iff.mp found).1
  constructor
  · intro isColor
    obtain ⟨_, derived, color, rfl⟩ := wellFormed.exists_evaluates inside distance .spectrum hit
    exact ⟨color, derived, derived.luminance found isColor⟩
  · intro isNumber
    obtain ⟨_, derived, number, rfl⟩ := wellFormed.exists_evaluates inside distance .float hit
    exact ⟨number, derived, derived.splat found isNumber⟩

end Table

namespace Machine

variable {table : Table} {id : NodeId} {node : Node}

/-- The number of a texture that is a colour by nature is the luminance of its colour, and the
colour of one that is a number by nature is the grey of its number. The evaluator says so on
every table, and the code that a table is compiled to answers so. -/
theorem coherent_answers (built : table.Built) (found : table.node? id = some node)
    (hit : HitPoint) :
    (∀ distance, node.kind.Coherent fun eval value =>
      table.evaluate distance id eval hit = .ok value) ∧
    ∀ config program, table.compile config = .ok program →
      node.kind.Coherent fun eval value => Answers config program table id eval hit value := by
  have wellFormed := built.wellFormed
  have evaluated (distance : Binary32) : node.kind.Coherent fun eval value =>
      table.evaluate distance id eval hit = .ok value :=
    (wellFormed.coherent_evaluates found distance hit).mono fun _ _ =>
      wellFormed.evaluate_eq_ok_of_evaluates
  refine ⟨evaluated, fun config program compiled => ?_⟩
  have inside : id < table.size := (List.getElem?_eq_some_iff.mp found).1
  exact (evaluated config.bumpSampleDistance).mono fun _ _ =>
    .of_evaluate_eq_ok wellFormed compiled inside

theorem coherent_answers_nested :
    ∃ program color number, Table.nested.compile .standard = .ok program ∧
      Answers .standard program .nested 3 .spectrum .standard (.vector color) ∧
      Answers .standard program .nested 3 .float .standard (.float (Color.luminance color)) ∧
      Answers .standard program .nested 0 .float .standard (.float number) ∧
      Answers .standard program .nested 0 .spectrum .standard (.vector (Vec3.splat number)) := by
  obtain ⟨program, compiled⟩ : ∃ program, Table.nested.compile .standard = .ok program := ⟨_, rfl⟩
  have projected : Table.nested.node? 3 =
      some ⟨"projected", .triplanar .identity, [2, 0, 1]⟩ := rfl
  have wind : Table.nested.node? 0 = some ⟨"wind", .windy .identity, []⟩ := rfl
  have ofColor := coherent_answers Table.built_nested projected .standard
  have ofNumber := coherent_answers Table.built_nested wind .standard
  rcases (ofColor.2 .standard program compiled).1 trivial with ⟨color, asColor, asNumber⟩
  rcases (ofNumber.2 .standard program compiled).2 trivial with ⟨number, ownNumber, grey⟩
  exact ⟨program, color, number, compiled, asColor, asNumber, ownNumber, grey⟩

end Machine

end TextureGraph
