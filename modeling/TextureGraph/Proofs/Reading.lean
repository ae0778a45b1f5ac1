import TextureGraph.Proofs.Evaluation
import TextureGraph.Proofs.Program.Code
import TextureGraph.Proofs.Program.Locality

/-!
# What an evaluation reads of a hit point

Numbers and colours are made of where a hit point lies and of its own colour. Only a
projection looks at the shading normal besides, and only a bump at the tangents; the normal
of the geometry is not read at all. So hit points that agree on as much have the same value.
-/

namespace TextureGraph

/-! ## Hit points that look alike -/

/-- Hit points that agree on everything that may be read of them, where the shading normal
and the tangents count only if they are read. -/
structure HitPoint.Alike (normals tangents : Prop) (hit other : HitPoint) : Prop where
  position_eq : other.position = hit.position
  uv_eq : other.uv = hit.uv
  color_eq : other.color = hit.color
  alpha_eq : other.alpha = hit.alpha
  shadingNormal_eq : normals → other.shadingNormal = hit.shadingNormal
  dpdu_eq : tangents → other.dpdu = hit.dpdu
  dpdv_eq : tangents → other.dpdv = hit.dpdv
  dndu_eq : tangents → other.dndu = hit.dndu
  dndv_eq : tangents → other.dndv = hit.dndv

namespace HitPoint.Alike

variable {normals tangents : Prop} {hit other : HitPoint}

/-- Where everything is read, only the normal of the geometry is left out. -/
theorem eq_of_read (alike : hit.Alike normals tangents other) (normalsRead : normals)
    (tangentsRead : tangents) : other = { hit with geometryNormal := other.geometryNormal } := by
  cases other
  simp only [mk.injEq, true_and]
  exact ⟨alike.position_eq, alike.shadingNormal_eq normalsRead, alike.uv_eq,
    alike.dpdu_eq tangentsRead, alike.dpdv_eq tangentsRead, alike.dndu_eq tangentsRead,
    alike.dndv_eq tangentsRead, alike.color_eq, alike.alpha_eq⟩

/-- Whatever is read, hit points that differ in the normal of the geometry look alike. -/
theorem withGeometryNormal (hit : HitPoint) (normal : Vec3) :
    hit.Alike normals tangents { hit with geometryNormal := normal } :=
  ⟨rfl, rfl, rfl, rfl, fun _ => rfl, fun _ => rfl, fun _ => rfl, fun _ => rfl, fun _ => rfl⟩

theorem withPlacement (alike : hit.Alike normals tangents other) (position : Vec3) (uv : Vec2) :
    (hit.withPlacement position uv).Alike normals tangents (other.withPlacement position uv) :=
  { alike with position_eq := rfl, uv_eq := rfl }

theorem along (alike : hit.Alike normals tangents other) (point : Vec3) (axis : Axis) :
    (hit.along point axis).Alike normals tangents (other.along point axis) :=
  { alike with uv_eq := rfl }

theorem distort (alike : hit.Alike normals tangents other) (offset : Vec3) (strength : Binary32) :
    (Pattern.distort hit offset strength).Alike normals tangents
      (Pattern.distort other offset strength) := by
  rw [Pattern.distort, Pattern.distort, alike.position_eq, alike.uv_eq]
  exact alike.withPlacement _ _

theorem offsetU (alike : hit.Alike normals tangents other) (normalsRead : normals)
    (tangentsRead : tangents) (distance : Binary32) :
    (Bump.offsetU hit distance).Alike normals tangents (Bump.offsetU other distance) := by
  rw [alike.eq_of_read normalsRead tangentsRead]
  exact withGeometryNormal (Bump.offsetU hit distance) other.geometryNormal

theorem offsetV (alike : hit.Alike normals tangents other) (normalsRead : normals)
    (tangentsRead : tangents) (distance : Binary32) :
    (Bump.offsetV hit distance).Alike normals tangents (Bump.offsetV other distance) := by
  rw [alike.eq_of_read normalsRead tangentsRead]
  exact withGeometryNormal (Bump.offsetV hit distance) other.geometryNormal

theorem finiteDifference_eq (alike : hit.Alike normals tangents other) (normalsRead : normals)
    (tangentsRead : tangents) (distance height heightU heightV : Binary32) :
    Bump.finiteDifference other distance height heightU heightV =
      Bump.finiteDifference hit distance height heightU heightV := by
  rw [alike.eq_of_read normalsRead tangentsRead]
  rfl

theorem uvMapping_apply_eq (alike : hit.Alike normals tangents other) (mapping : UvMapping) :
    mapping.apply other = mapping.apply hit := by
  rw [UvMapping.apply, alike.uv_eq]
  rfl

theorem spaceMapping_apply_eq (alike : hit.Alike normals tangents other)
    (mapping : SpaceMapping) : mapping.apply other = mapping.apply hit := by
  rw [SpaceMapping.apply, alike.position_eq, alike.uv_eq]
  rfl

end HitPoint.Alike

/-! ## What combining reads of a hit point -/

/-- Textures that blend by the shading normal. -/
def TextureKind.IsProjection (kind : TextureKind) : Prop :=
  ∃ mapping, kind = .triplanar mapping

namespace Combine

variable {normals tangents : Prop} {hit other : HitPoint} {images : List Image}
  {kind : TextureKind}

theorem spectrum_eq_of_alike (alike : hit.Alike normals tangents other)
    (projected : kind.IsProjection → normals) :
    spectrum images kind other = spectrum images kind hit := by
  cases kind with
  | triplanar mapping =>
      have shading := alike.shadingNormal_eq (projected ⟨mapping, rfl⟩)
      simp only [spectrum, shading]
  | _ =>
      simp only [spectrum, hitPointGrey, alike.uvMapping_apply_eq, alike.spaceMapping_apply_eq,
        alike.color_eq, alike.alpha_eq, alike.uv_eq]

theorem number_eq_of_alike (alike : hit.Alike normals tangents other)
    (projected : kind.IsProjection → normals) :
    number images kind other = number images kind hit := by
  have color_eq : spectrum images kind other = spectrum images kind hit :=
    spectrum_eq_of_alike alike projected
  cases kind <;>
    simp only [number, color_eq, hitPointGrey, alike.uvMapping_apply_eq,
      alike.spaceMapping_apply_eq, alike.color_eq, alike.alpha_eq, alike.uv_eq]

/-- No bump looks at the normal of the geometry. -/
theorem bump?_withGeometryNormal (kind : TextureKind) (hit : HitPoint) (normal : Vec3) :
    bump? kind { hit with geometryNormal := normal } = bump? kind hit := by
  cases kind <;> rfl

theorem value?_eq_of_alike {eval : EvalKind} (alike : hit.Alike normals tangents other)
    (bumped : eval = .bump → normals ∧ tangents) (projected : kind.IsProjection → normals) :
    value? images kind eval other = value? images kind eval hit := by
  cases eval with
  | float => rw [value?, number_eq_of_alike alike projected, value?]
  | spectrum => rw [value?, spectrum_eq_of_alike alike projected, value?]
  | bump =>
      obtain ⟨normalsRead, tangentsRead⟩ := bumped rfl
      rw [value?, alike.eq_of_read normalsRead tangentsRead, bump?_withGeometryNormal, value?]

/-- Only a bump can be without a value. -/
theorem eq_bump_of_value?_eq_none {eval : EvalKind} {values rest : List Binary32}
    (combined : (value? images kind eval hit).run values = .ok (none, rest)) : eval = .bump := by
  cases eval with
  | bump => rfl
  | float | spectrum =>
      rw [value?, StateT.run_map, Outcome.map_eq_map, Outcome.map_eq_ok_iff] at combined
      rcases combined with ⟨_, _, isNone⟩
      cases isNone

end Combine

/-! ## What a node reads of a hit point -/

/-- Visits that answer alike on hit points that look alike, for a bump only if a bump is asked
for. -/
def Visit.AnswerAlike (normals tangents : Prop) (eval : EvalKind) (visit other : Visit) : Prop :=
  ∀ slot inputKind {hit otherHit : HitPoint}, (inputKind = .bump → eval = .bump) →
    hit.Alike normals tangents otherHit →
    other slot inputKind otherHit = visit slot inputKind hit

namespace Visit.AnswerAlike

variable {normals tangents : Prop} {eval : EvalKind} {visit other : Visit}
  {hit otherHit : HitPoint}

/-- Colours may always be asked for. -/
theorem color_eq (answers : AnswerAlike normals tangents eval visit other) (slot : Nat)
    (alike : hit.Alike normals tangents otherHit) :
    other slot .spectrum otherHit = visit slot .spectrum hit := by
  have unbumped : EvalKind.spectrum ≠ .bump := by decide
  exact answers slot .spectrum (absurd · unbumped) alike

theorem all_eq (answers : AnswerAlike normals tangents eval visit other)
    (alike : hit.Alike normals tangents otherHit) {inputs : List (Nat × EvalKind)}
    (bumps : ∀ input ∈ inputs, input.2 = .bump → eval = .bump) :
    other.all otherHit inputs = visit.all hit inputs := by
  induction inputs with
  | nil => rfl
  | cons input rest ih =>
      rw [List.forall_mem_cons] at bumps
      rw [all, all, answers input.1 input.2 bumps.1 alike, ih bumps.2]

theorem projected_eq (answers : AnswerAlike normals tangents eval visit other)
    (alike : hit.Alike normals tangents otherHit) (point : Vec3) :
    other.projected otherHit point = visit.projected hit point := by
  have lookup (slot : Nat) (axis : Axis) :
      other slot .spectrum (otherHit.along point axis) =
        visit slot .spectrum (hit.along point axis) :=
    answers.color_eq slot (alike.along point axis)
  have first := lookup 0 .x
  have second := lookup 1 .y
  have third := lookup 2 .z
  simp only [HitPoint.along, Axis.index] at first second third
  rw [projected, projected, first, second, third]

theorem displaced_eq (answers : AnswerAlike normals tangents eval visit other)
    (alike : hit.Alike normals tangents otherHit) (strength : Binary32) :
    other.displaced otherHit strength eval = visit.displaced hit strength eval := by
  have moved (offset : Vec3) := answers 0 eval id (alike.distort offset strength)
  rw [displaced, displaced, answers.color_eq 1 alike]
  simp only [moved]

/-- Where bumps may be asked for, anything may. -/
theorem of_bump (answers : AnswerAlike normals tangents .bump visit other) :
    AnswerAlike normals tangents eval visit other :=
  fun slot inputKind _ _ _ alike => answers slot inputKind (fun _ => rfl) alike

end Visit.AnswerAlike

namespace Node

variable {normals tangents : Prop} {eval : EvalKind} {node : Node} {images : List Image}
  {visit other : Visit} {hit otherHit : HitPoint}

theorem operands?_eq_of_alike (arity : node.children.length = node.kind.arity)
    (answers : Visit.AnswerAlike normals tangents eval visit other)
    (alike : hit.Alike normals tangents otherHit) :
    node.operands? other eval otherHit = node.operands? visit eval hit := by
  rw [operands?_eq_ruleOperands? arity, operands?_eq_ruleOperands? arity]
  cases rule : node.kind.rule eval with
  | leaf | genericBump => rfl
  | combinator children =>
      have bumps : ∀ input ∈ children.map fun child => (child.slot, child.resolve eval),
          input.2 = .bump → eval = .bump := by
        intro input member
        rcases List.mem_map.mp member with ⟨child, childMember, rfl⟩
        exact TextureKind.eq_bump_of_resolve_eq_bump rule childMember
      rw [ruleOperands?, ruleOperands?, answers.all_eq alike bumps]
  | triplanar mapping =>
      rw [ruleOperands?, ruleOperands?, alike.spaceMapping_apply_eq, answers.projected_eq alike]
  | distort strength =>
      rw [ruleOperands?, ruleOperands?, answers.displaced_eq alike]

theorem closedForm?_eq_of_alike (arity : node.children.length = node.kind.arity)
    (answers : Visit.AnswerAlike normals tangents eval visit other)
    (alike : hit.Alike normals tangents otherHit) (bumped : eval = .bump → normals ∧ tangents)
    (projected : node.kind.IsProjection → normals) :
    node.closedForm? images other eval otherHit = node.closedForm? images visit eval hit := by
  rw [closedForm?, closedForm?, operands?_eq_of_alike arity answers alike,
    Combine.value?_eq_of_alike alike bumped projected]

/-- Only a bump lacks a closed form. -/
theorem eq_bump_of_closedForm?_eq_none (arity : node.children.length = node.kind.arity)
    (unclosed : node.closedForm? images visit eval hit = .ok none) : eval = .bump := by
  rw [closedForm?, operands?_eq_ruleOperands? arity] at unclosed
  cases visited : ruleOperands? (node.kind.rule eval) visit eval hit with
  | none =>
      cases rule : node.kind.rule eval with
      | genericBump => exact TextureKind.eq_bump_of_rule_eq_genericBump rule
      | leaf | combinator | triplanar | distort =>
          rw [rule] at visited
          cases visited
  | some operands =>
      simp only [visited, Outcome.bind_eq_ok_iff, Outcome.pure_eq_ok, Except.ok.injEq] at unclosed
      rcases unclosed with ⟨values, _, ⟨_, rest⟩, combined, rfl⟩
      exact Combine.eq_bump_of_value?_eq_none combined

theorem sampledBump_eq_of_alike (arity : node.children.length = node.kind.arity)
    (answers : Visit.AnswerAlike normals tangents .bump visit other)
    (alike : hit.Alike normals tangents otherHit) (normalsRead : normals) (tangentsRead : tangents)
    (distance : Binary32) :
    node.sampledBump images other distance otherHit =
      node.sampledBump images visit distance hit := by
  have numbers : Visit.AnswerAlike normals tangents .float visit other := answers.of_bump
  have height_eq {hit otherHit : HitPoint} (alike : hit.Alike normals tangents otherHit) :
      node.height images other otherHit = node.height images visit hit := by
    have unbumped : EvalKind.float ≠ .bump := by decide
    rw [height, height, closedForm?_eq_of_alike arity numbers alike (absurd · unbumped)
      fun _ => normalsRead]
  have height := height_eq alike
  have heightU := height_eq (alike.offsetU normalsRead tangentsRead distance)
  have heightV := height_eq (alike.offsetV normalsRead tangentsRead distance)
  have difference := alike.finiteDifference_eq normalsRead tangentsRead distance
  simp only [sampledBump, height, heightU, heightV, difference]

theorem value_eq_of_alike {distance otherDistance : Binary32}
    (arity : node.children.length = node.kind.arity)
    (answers : Visit.AnswerAlike normals tangents eval visit other)
    (alike : hit.Alike normals tangents otherHit)
    (bumped : eval = .bump → normals ∧ tangents ∧ otherDistance = distance)
    (projected : node.kind.IsProjection → normals) :
    node.value images other otherDistance eval otherHit =
      node.value images visit distance eval hit := by
  have closed_eq : node.closedForm? images other eval otherHit =
      node.closedForm? images visit eval hit :=
    closedForm?_eq_of_alike arity answers alike
      (fun isBump => ⟨(bumped isBump).1, (bumped isBump).2.1⟩) projected
  rw [value, value, closed_eq]
  cases closed : node.closedForm? images visit eval hit with
  | error fault => rw [Outcome.error_bind, Outcome.error_bind]
  | ok form =>
      rw [Outcome.ok_bind, Outcome.ok_bind]
      cases form with
      | some value => rfl
      | none =>
          -- Only here is the distance used, and only a bump comes here.
          obtain rfl := eq_bump_of_closedForm?_eq_none arity closed
          obtain ⟨normalsRead, tangentsRead, rfl⟩ := bumped rfl
          rw [sampledBump_eq_of_alike arity answers alike normalsRead tangentsRead]

end Node

/-! ## What a node of a table reads of a hit point -/

namespace Table

variable {table : Table} {id : NodeId}

/-- A node from which a projection can be reached, if it is not one itself. -/
def ReachesProjection (table : Table) (id : NodeId) : Prop :=
  ∃ reached node, table.Reaches id reached ∧ table.node? reached = some node ∧
    node.kind.IsProjection

/-- What can be reached from an input can be reached from the node. -/
theorem ReachesProjection.of_hasInput {input : NodeId} (has : table.HasInput id input)
    (reaches : table.ReachesProjection input) : table.ReachesProjection id := by
  rcases reaches with ⟨reached, node, path, found, isProjection⟩
  exact ⟨reached, node, .head has path, found, isProjection⟩

/-- A node has the same value on hit points that look alike: whatever their tangents and
whatever the distance of samples, unless it is a bump, and whatever their shading normals,
unless a projection can be reached. -/
theorem WellFormed.evaluate_eq_of_alike (wellFormed : table.WellFormed)
    {normals tangents : Prop} {eval : EvalKind} {distance otherDistance : Binary32}
    (bumped : eval = .bump → normals ∧ tangents ∧ otherDistance = distance)
    (projected : table.ReachesProjection id → normals) {hit other : HitPoint}
    (alike : hit.Alike normals tangents other) :
    table.evaluate otherDistance id eval other = table.evaluate distance id eval hit := by
  -- Inputs stand before the node, and are visited on hit points that look alike again.
  induction id using Nat.strongRecOn generalizing eval hit other with
  | ind id ih =>
      cases found : table.node? id with
      | none => rw [evaluate, evaluate, found]
      | some node =>
          have answers : Visit.AnswerAlike normals tangents eval (table.visit distance id node)
              (table.visit otherDistance id node) := by
            intro slot inputKind inputHit inputOther bumps inputAlike
            cases filled : node.child? slot with
            | none => simp only [visit, filled]
            | some input =>
                have member := List.mem_of_getElem? filled
                have earlier := (wellFormed.stands found).child_lt input member
                rw [visit_eq_evaluate filled earlier, visit_eq_evaluate filled earlier]
                exact ih input earlier (fun isBump => bumped (bumps isBump))
                  (fun reaches => projected (reaches.of_hasInput ⟨node, found, member⟩)) inputAlike
          rw [evaluate_eq_value found, evaluate_eq_value found]
          exact Node.value_eq_of_alike (wellFormed.stands found).children_length answers alike
            bumped fun isProjection => projected ⟨id, node, .refl, found, isProjection⟩

end Table

end TextureGraph
