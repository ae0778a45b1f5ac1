import TextureGraph.Evaluate
import TextureGraph.Proofs.Lookup
import TextureGraph.Rule

/-!
# What combining reads

The operands of a kind of texture take exactly as many values off a list as its rule
says that its inputs leave, and they make a value of the kind of evaluation of them.
So nothing is missing where values are combined, and nothing is left over.
-/

namespace TextureGraph

namespace Operands

variable {α β : Type}

/-- Operands that take `count` values off the front of any list, leave the rest of it and
make a good result of them. -/
def Reads (operands : Operands α) (count : Nat) (good : α → Prop) : Prop :=
  ∀ values rest : List Binary32, values.length = count →
    ∃ result, operands.run (values ++ rest) = .ok (result, rest) ∧ good result

variable {operands : Operands α} {count : Nat} {good : α → Prop}

theorem reads_pure {result : α} (holds : good result) : Reads (pure result) 0 good := by
  intro values rest length
  cases List.length_eq_zero_iff.mp length
  exact ⟨result, rfl, holds⟩

theorem reads_float : Reads float 1 fun _ => True := by
  intro values rest length
  rcases List.length_eq_one_iff.mp length with ⟨value, rfl⟩
  exact ⟨value, rfl, trivial⟩

theorem Reads.bind {next : α → Operands β} {more : Nat} {better : β → Prop}
    (first : operands.Reads count good)
    (second : ∀ result, good result → (next result).Reads more better) :
    Reads (operands >>= next) (count + more) better := by
  intro values rest length
  obtain ⟨middle, read, holds⟩ :=
    first (values.take count) (values.drop count ++ rest) (by simp [length])
  obtain ⟨result, readNext, holdsNext⟩ :=
    second middle holds (values.drop count) rest (by simp [length])
  refine ⟨result, ?_, holdsNext⟩
  rw [← List.append_assoc, List.take_append_drop] at read
  rw [StateT.run_bind, read]
  exact readNext

theorem Reads.map {f : α → β} {better : β → Prop} (reads : operands.Reads count good)
    (holds : ∀ result, good result → better (f result)) : Reads (f <$> operands) count better := by
  rw [map_eq_pure_bind]
  exact reads.bind fun result isGood => reads_pure (holds result isGood)

theorem reads_demand {fault : Fault} {value : Option α}
    (found : ∃ result, value = some result ∧ good result) : Reads (demand fault value) 0 good := by
  rcases found with ⟨result, rfl, holds⟩
  exact reads_pure holds

theorem reads_vector2 : Reads vector2 2 fun _ => True :=
  reads_float.bind fun _ _ => reads_float.bind fun _ _ => reads_pure trivial

theorem reads_vector : Reads vector 3 fun _ => True :=
  reads_float.bind fun _ _ => reads_float.bind fun _ _ => reads_float.bind fun _ _ =>
    reads_pure trivial

/-- Reading a list of just the right length leaves nothing over. -/
theorem Reads.exists_run_eq_ok (reads : operands.Reads count good) {values : List Binary32}
    (length : values.length = count) :
    ∃ result, operands.run values = .ok (result, []) ∧ good result := by
  rcases reads values [] length with ⟨result, read, holds⟩
  rw [List.append_nil] at read
  exact ⟨result, read, holds⟩

end Operands

/-- Number of values that the inputs of a node leave for its own instruction. -/
def Rule.operandWidth (rule : Rule) (kind : EvalKind) : Nat :=
  match rule with
  | .leaf | .genericBump => 0
  | .combinator children => ChildEval.totalWidth children kind
  | .triplanar _ => 9
  | .distort _ => 3 + kind.width

namespace Combine

open Operands

theorem reads_floats (f : Binary32 → Binary32 → Binary32) : Reads (floats f) 2 fun _ => True :=
  reads_float.bind fun _ _ => reads_float.bind fun _ _ => reads_pure trivial

theorem reads_vectors (f : Vec3 → Vec3 → Vec3) : Reads (vectors f) 6 fun _ => True :=
  reads_vector.bind fun _ _ => reads_vector.bind fun _ _ => reads_pure trivial

theorem reads_channels (f : Binary32 → Binary32 → Binary32) :
    Reads (channels f) 4 fun _ => True :=
  reads_vector.bind fun _ _ => reads_float.bind fun _ _ => reads_pure trivial

variable {images : List Image} {kind : TextureKind}

theorem reads_imageColor (stored : ∀ image ∈ images, image.WellFormed) {id : ImageId}
    (inside : id < images.length) (gain : Binary32) (uv : Vec2) :
    Reads (imageColor images id gain uv) 0 fun _ => True := by
  have answers : ∀ image, images[id] = image → ∃ color, image.lookup? uv = some color ∧ True := by
    rintro _ rfl
    rcases (stored _ (List.getElem_mem inside)).exists_lookup?_eq_some uv with ⟨color, found⟩
    exact ⟨color, found, trivial⟩
  exact (reads_demand ⟨_, List.getElem?_eq_getElem inside, rfl⟩).bind fun image same =>
    (reads_demand (answers image same)).bind fun _ _ => reads_pure trivial

/-- A colour is made of as many values as the inputs leave for a colour. -/
theorem reads_spectrum (stored : ∀ image ∈ images, image.WellFormed)
    (fits : kind.Fits images.length) (hit : HitPoint) :
    Reads (spectrum images kind hit) ((kind.rule .spectrum).operandWidth .spectrum)
      fun _ => True := by
  cases kind with
  | imageMap image gain mapping => exact reads_imageColor stored fits gain (mapping.apply hit)
  | scale | add | subtract | divide | dots | checkerboard2d | checkerboard3d =>
      exact reads_vectors _
  | mix => exact reads_float.bind fun _ _ => reads_vectors _
  | power | modulo => exact reads_channels _
  | abs | clamp => exact reads_vector.map fun _ _ => trivial
  | bilerp =>
      exact reads_vector.bind fun _ _ => reads_vector.bind fun _ _ => reads_vector.bind fun _ _ =>
        reads_vector.bind fun _ _ => reads_pure trivial
  | band points =>
      refine reads_float.bind fun amount _ => reads_demand ?_
      rcases points.exists_lookup?_eq_some amount with ⟨color, found⟩
      exact ⟨color, found, trivial⟩
  | hsv =>
      exact reads_vector.bind fun _ _ => reads_float.bind fun _ _ => reads_float.bind fun _ _ =>
        reads_float.bind fun _ _ => reads_pure trivial
  | splitFloat3 => exact reads_vector.bind fun _ _ => reads_pure trivial
  | makeFloat3 => exact reads_vector
  | triplanar =>
      exact reads_vector.bind fun _ _ => reads_vector.bind fun _ _ => reads_vector.bind fun _ _ =>
        reads_pure trivial
  | distort => exact reads_vector.bind fun _ _ => reads_vector
  | _ => exact reads_pure trivial

/-- A number is made of as many values as the inputs leave for a number. -/
theorem reads_number (stored : ∀ image ∈ images, image.WellFormed)
    (fits : kind.Fits images.length) (hit : HitPoint) :
    Reads (number images kind hit) ((kind.rule .float).operandWidth .float) fun _ => True := by
  cases kind with
  | scale | add | subtract | divide | power | modulo | dots | checkerboard2d | checkerboard3d =>
      exact reads_floats _
  | mix => exact reads_float.bind fun _ _ => reads_floats _
  | abs | clamp => exact reads_float.map fun _ _ => trivial
  | bilerp =>
      exact reads_float.bind fun _ _ => reads_float.bind fun _ _ => reads_float.bind fun _ _ =>
        reads_float.bind fun _ _ => reads_pure trivial
  | splitFloat3 => exact reads_vector.map fun _ _ => trivial
  | distort => exact reads_vector.bind fun _ _ => reads_float
  | imageMap | hitPointColor | uv | marble | band | hsv | makeFloat3 | triplanar =>
      exact (reads_spectrum stored fits hit).map fun _ _ => trivial
  | _ => exact reads_pure trivial

/-- A bumped normal that has a closed form is made of as many values as the inputs leave. -/
theorem reads_bump? (closed : kind.rule .bump ≠ .genericBump) (hit : HitPoint) :
    Reads (bump? kind hit) ((kind.rule .bump).operandWidth .bump)
      fun result => ∃ normal, result = some normal := by
  cases kind with
  | constFloat | constColor => exact reads_pure ⟨_, rfl⟩
  | add | subtract => exact (reads_vectors _).map fun _ _ => ⟨_, rfl⟩
  | scale =>
      exact reads_vector.bind fun _ _ => reads_vector.bind fun _ _ => reads_float.bind fun _ _ =>
        reads_float.bind fun _ _ => reads_pure ⟨_, rfl⟩
  | mix =>
      exact reads_vector.bind fun _ _ => reads_vector.bind fun _ _ => reads_vector.bind fun _ _ =>
        reads_float.bind fun _ _ => reads_float.bind fun _ _ => reads_float.bind fun _ _ =>
          reads_pure ⟨_, rfl⟩
  | normalMap => exact reads_vector.bind fun _ _ => reads_pure ⟨_, rfl⟩
  | distort => exact reads_vector.bind fun _ _ => reads_vector.map fun _ _ => ⟨_, rfl⟩
  | _ => exact absurd rfl closed

end Combine

/-- A value of the shape that a kind of evaluation asks for. -/
def Value.IsOf (value : Value) : EvalKind → Prop
  | .float => ∃ number, value = .float number
  | .spectrum | .bump => ∃ components, value = .vector components

theorem Value.IsOf.toList_length {value : Value} {kind : EvalKind} (isOf : value.IsOf kind) :
    value.toList.length = kind.width := by
  cases kind with
  | float =>
      rcases isOf with ⟨number, rfl⟩
      rfl
  | spectrum | bump =>
      rcases isOf with ⟨components, rfl⟩
      rfl

namespace Combine

open Operands

/-- Wherever a rule does not call for samples, its operands make a value of the kind. -/
theorem reads_value? {images : List Image} (stored : ∀ image ∈ images, image.WellFormed)
    {kind : TextureKind} (fits : kind.Fits images.length) {eval : EvalKind}
    (closed : kind.rule eval ≠ .genericBump) (hit : HitPoint) :
    Reads (value? images kind eval hit) ((kind.rule eval).operandWidth eval)
      fun result => ∃ value, result = some value ∧ value.IsOf eval := by
  cases eval with
  | float => exact (reads_number stored fits hit).map fun number _ => ⟨_, rfl, number, rfl⟩
  | spectrum => exact (reads_spectrum stored fits hit).map fun color _ => ⟨_, rfl, color, rfl⟩
  | bump =>
      refine (reads_bump? closed hit).map ?_
      rintro _ ⟨normal, rfl⟩
      exact ⟨_, rfl, normal, rfl⟩

end Combine

end TextureGraph
