import TextureGraph.Proofs.Machine.Correctness
import TextureGraph.Proofs.Reading

/-!
# Values that tangents do not touch

A number or a colour is the same whatever the tangents of the hit point are and however far
apart bumps are sampled, for the evaluator and for a program alike: none of its instructions
belongs to a bump. No value at all depends on the normal of the geometry.
-/

namespace TextureGraph

namespace Table

variable {table : Table} {id : NodeId} {kind : EvalKind}

/-- Code that is not for a bump contains nothing that belongs to one. -/
theorem forall_not_isBump_of_nodeCode {limit budget : Nat} {code : Code}
    (made : table.nodeCode limit budget id kind = .ok code) (unbumped : kind ≠ .bump) :
    ∀ instruction ∈ code.instructions, ¬ instruction.op.IsBump := by
  have bumps : ∀ instruction ∈ code.instructions, instruction.op.IsBump → kind = .bump := by
    refine forall_mem_instructions_of_nodeCode
      (fun _ kind instruction => instruction.op.IsBump → kind = .bump) ?_ ?_ made
    · intro id node kind op _ bumps
      exact bumps
    · intro id node kind input inputKind instruction _ _ bumps inputBumps isBump
      exact bumps (inputBumps isBump)
  intro instruction member isBump
  exact unbumped (bumps instruction member isBump)

end Table

namespace Machine

variable {table : Table} {config otherConfig : Config} {program otherProgram : Program}
  {id : NodeId} {kind : EvalKind} {hit other : HitPoint}

/-- Where the evaluator gives two hit points the same value, so do programs. -/
theorem exists_answers_of_evaluate_eq (wellFormed : table.WellFormed)
    (compiled : table.compile config = .ok program)
    (otherCompiled : table.compile otherConfig = .ok otherProgram) (inside : id < table.size)
    (same : table.evaluate otherConfig.bumpSampleDistance id kind other =
      table.evaluate config.bumpSampleDistance id kind hit) :
    ∃ value, Answers config program table id kind hit value ∧
      Answers otherConfig otherProgram table id kind other value := by
  rcases exists_answers wellFormed compiled inside kind hit with ⟨value, _, answers⟩
  have otherEvaluated := same.trans answers.evaluate_eq
  exact ⟨value, answers, .of_evaluate_eq_ok wellFormed otherCompiled inside otherEvaluated⟩

/-- Numbers and colours do not depend on the tangents, on the normal of the geometry and on
the distance of samples, nor on the shading normal unless a projection can be reached. Their
code has no instruction that belongs to a bump. Bumps do not depend on the normal of the
geometry. All this holds of the evaluator and of programs, whatever their settings are. -/
theorem noninterference (built : table.Built) (inside : id < table.size) :
    (∀ kind, kind ≠ .bump →
      (∀ hit other, hit.Alike (table.ReachesProjection id) False other →
        (∀ distance otherDistance, ∃ value, table.evaluate distance id kind hit = .ok value ∧
          table.evaluate otherDistance id kind other = .ok value) ∧
        ∀ config otherConfig program otherProgram, table.compile config = .ok program →
          table.compile otherConfig = .ok otherProgram →
          ∃ value, Answers config program table id kind hit value ∧
            Answers otherConfig otherProgram table id kind other value) ∧
      ∀ config program, table.compile config = .ok program →
        ∃ instructions, program.code? id kind = some instructions ∧
          ∀ instruction ∈ instructions, ¬ instruction.op.IsBump) ∧
    ∀ (hit : HitPoint) (normal : Vec3),
      (∀ distance, ∃ value, table.evaluate distance id .bump hit = .ok value ∧
        table.evaluate distance id .bump { hit with geometryNormal := normal } = .ok value) ∧
      ∀ config program, table.compile config = .ok program →
        ∃ value, Answers config program table id .bump hit value ∧
          Answers config program table id .bump { hit with geometryNormal := normal } value := by
  have formed := built.wellFormed
  constructor
  · intro kind unbumped
    constructor
    · intro hit other alike
      have same (distance otherDistance : Binary32) :
          table.evaluate otherDistance id kind other = table.evaluate distance id kind hit :=
        formed.evaluate_eq_of_alike (absurd · unbumped) (fun reaches => reaches) alike
      constructor
      · intro distance otherDistance
        rcases formed.exists_value inside distance kind hit with ⟨value, evaluated, _⟩
        exact ⟨value, evaluated, (same distance otherDistance).trans evaluated⟩
      · intro config otherConfig program otherProgram compiled otherCompiled
        exact exists_answers_of_evaluate_eq formed compiled otherCompiled inside (same _ _)
    · intro config program compiled
      have found : table.node? id = some table.nodes[id] := List.getElem?_eq_getElem inside
      rcases Table.exists_places_of_compile compiled found kind with ⟨code, _, made, places⟩
      exact ⟨code.instructions, places.code?_eq,
        Table.forall_not_isBump_of_nodeCode made unbumped⟩
  · intro hit normal
    have same (distance : Binary32) :
        table.evaluate distance id .bump { hit with geometryNormal := normal } =
          table.evaluate distance id .bump hit :=
      formed.evaluate_eq_of_alike (fun _ => ⟨trivial, trivial, rfl⟩) (fun _ => trivial)
        (.withGeometryNormal hit normal)
    constructor
    · intro distance
      rcases formed.exists_value inside distance .bump hit with ⟨value, evaluated, _⟩
      exact ⟨value, evaluated, (same distance).trans evaluated⟩
    · intro config program compiled
      exact exists_answers_of_evaluate_eq formed compiled compiled inside (same _)

/-- No projection is behind the displaced coordinates, so turning the shading normal and
flattening a tangent leave their colour as it is. The projection itself has the same bump on
the other side of the geometry. -/
theorem noninterference_nested :
    ∃ program finer, Table.nested.compile .standard = .ok program ∧
      Table.nested.compile ⟨0.5, 256⟩ = .ok finer ∧
      (∃ value, Answers .standard program Table.nested 2 .spectrum .standard value ∧
        Answers ⟨0.5, 256⟩ finer Table.nested 2 .spectrum
          { HitPoint.standard with shadingNormal := Vec3.unitX, dpdu := Vec3.zero } value) ∧
      ∃ value, Answers .standard program Table.nested 3 .bump .standard value ∧
        Answers .standard program Table.nested 3 .bump
          { HitPoint.standard with geometryNormal := -Vec3.unitZ } value := by
  obtain ⟨program, compiled⟩ : ∃ program, Table.nested.compile .standard = .ok program := ⟨_, rfl⟩
  obtain ⟨finer, finerCompiled⟩ : ∃ finer, Table.nested.compile ⟨0.5, 256⟩ = .ok finer := ⟨_, rfl⟩
  have unprojected : ¬ Table.nested.ReachesProjection 2 := by
    rintro ⟨(reached : Nat), node, path, found, mapping, isProjection⟩
    have low : reached ≤ 2 := Table.built_nested.wellFormed.le_of_reaches path
    obtain rfl | rfl | rfl : reached = 0 ∨ reached = 1 ∨ reached = 2 := by omega
    all_goals
      cases found
      cases isProjection
  have alike : HitPoint.Alike (Table.nested.ReachesProjection 2) False .standard
      { HitPoint.standard with shadingNormal := Vec3.unitX, dpdu := Vec3.zero } :=
    ⟨rfl, rfl, rfl, rfl, fun reaches => absurd reaches unprojected, nofun, nofun, nofun, nofun⟩
  have colors := (noninterference Table.built_nested (show 2 < Table.nested.size by decide)).1
  have bumps := (noninterference Table.built_nested (show 3 < Table.nested.size by decide)).2
  refine ⟨program, finer, compiled, finerCompiled, ?_, ?_⟩
  · exact ((colors .spectrum (by decide)).1 _ _ alike).2 _ _ _ _ compiled finerCompiled
  · exact (bumps .standard (-Vec3.unitZ)).2 _ _ compiled

end Machine

end TextureGraph
