import TextureGraph.Program.Basic

/-!
# Upload records

The layout in which a program is handed to a device: a header, the instructions
and the address table, all in little-endian 32-bit words.
-/

namespace TextureGraph

namespace Upload

structure Header where
  instructionCount : UInt32
  nodeCount : UInt32
  maxStackDepth : UInt32
  bumpSampleDistance : Binary32
deriving DecidableEq, Repr

structure InstructionRecord where
  node : UInt32
  op : UInt32
deriving DecidableEq, Repr

/-- One entry of the address table, padded to four words. -/
structure SpanRecord where
  start : UInt32
  length : UInt32
  stackDepth : UInt32
  padding : UInt32
deriving DecidableEq, Repr

def Header.ofProgram (program : Program) : Header where
  instructionCount := UInt32.ofNat program.instructions.length
  nodeCount := UInt32.ofNat program.nodeCount
  maxStackDepth := UInt32.ofNat program.maxStackDepth
  bumpSampleDistance := program.bumpSampleDistance

def InstructionRecord.ofInstruction (instruction : Instruction) : InstructionRecord :=
  ⟨UInt32.ofNat instruction.node, UInt32.ofNat instruction.op.code⟩

/-- The instruction that a record stands for, if its code is one. -/
def InstructionRecord.instruction? (record : InstructionRecord) : Option Instruction :=
  (Op.ofCode? record.op.toNat).map (⟨record.node.toNat, ·⟩)

def SpanRecord.ofSpan (span : Span) : SpanRecord :=
  ⟨UInt32.ofNat span.start, UInt32.ofNat span.length, UInt32.ofNat span.stackDepth, 0⟩

/-- The span that a record stands for. -/
def SpanRecord.span (record : SpanRecord) : Span :=
  ⟨record.start.toNat, record.length.toNat, record.stackDepth.toNat⟩

def instructions (program : Program) : List InstructionRecord :=
  program.instructions.map InstructionRecord.ofInstruction

/-- Address table, three entries for each node. -/
def spans (program : Program) : List SpanRecord :=
  program.spans.map SpanRecord.ofSpan

/-! ## Bytes -/

def Header.words (header : Header) : List UInt32 :=
  [header.instructionCount, header.nodeCount, header.maxStackDepth,
   header.bumpSampleDistance.bits]

def InstructionRecord.words (record : InstructionRecord) : List UInt32 :=
  [record.node, record.op]

def SpanRecord.words (record : SpanRecord) : List UInt32 :=
  [record.start, record.length, record.stackDepth, record.padding]

/-- Bytes of a word, the lowest one first. -/
def wordBytes (word : UInt32) : List UInt8 :=
  [word.toUInt8, (word >>> 8).toUInt8, (word >>> 16).toUInt8, (word >>> 24).toUInt8]

def bytes (words : List UInt32) : List UInt8 :=
  words.flatMap wordBytes

end Upload

end TextureGraph
