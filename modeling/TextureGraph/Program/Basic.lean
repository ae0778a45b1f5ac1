import TextureGraph.Binary32.Rounding
import TextureGraph.Program.Instruction

/-!
# Compiled programs

A program is one list of instructions with an address table, which gives for each
node and kind of evaluation the span of its code and the stack it needs.
-/

namespace TextureGraph

/-- A stretch of a program, with the stack slots needed to run it. -/
structure Span where
  start : Nat
  length : Nat
  stackDepth : Nat
deriving DecidableEq, Repr

namespace Span

/-- Position behind the last instruction. -/
def stop (span : Span) : Nat :=
  span.start + span.length

end Span

/-- Settings of a compilation. -/
structure Config where
  /-- Step of finite differences, in surface units. -/
  bumpSampleDistance : Binary32
  /-- How deep code may nest. -/
  maxCompileDepth : Nat
deriving DecidableEq, Repr

/-- Settings that hold where none are given. -/
def Config.standard : Config where
  bumpSampleDistance := 0.001
  maxCompileDepth := 256

instance : Inhabited Config := ⟨Config.standard⟩

structure Program where
  instructions : List Instruction
  nodeSpans : List (PerKind Span)
  maxStackDepth : Nat
  bumpSampleDistance : Binary32
deriving DecidableEq, Repr

namespace Program

def nodeCount (program : Program) : Nat :=
  program.nodeSpans.length

/-- Address of the code of a node under a kind of evaluation. -/
def span? (program : Program) (node : NodeId) (kind : EvalKind) : Option Span :=
  (program.nodeSpans[node]?).map (·.get kind)

/-- All spans, node by node. -/
def spans (program : Program) : List Span :=
  program.nodeSpans.flatMap PerKind.toList

/-- Instructions in a span. -/
def slice (program : Program) (span : Span) : List Instruction :=
  (program.instructions.drop span.start).take span.length

/-- Instructions for a node under a kind of evaluation. -/
def code? (program : Program) (node : NodeId) (kind : EvalKind) : Option (List Instruction) :=
  match program.span? node kind with
  | some span =>
      if span.stop ≤ program.instructions.length then some (program.slice span) else none
  | none => none

/-- Equality of programs, with the sample distance compared as a number. -/
def numEq (a b : Program) : Bool :=
  a.instructions == b.instructions && a.nodeSpans == b.nodeSpans &&
  a.maxStackDepth == b.maxStackDepth && a.bumpSampleDistance.numEq b.bumpSampleDistance

end Program

end TextureGraph
