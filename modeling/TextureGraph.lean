import TextureGraph.Evaluate
import TextureGraph.Program.Compile
import TextureGraph.Program.Upload
import TextureGraph.Machine.Basic
import TextureGraph.Json.Render
import TextureGraph.Document.Reader
import TextureGraph.Document.Dependencies
import TextureGraph.Document.Lowering
import TextureGraph.Proofs.Outcome
import TextureGraph.Proofs.Table.Built
import TextureGraph.Proofs.Table.Edits
import TextureGraph.Proofs.Table.Relocation
import TextureGraph.Proofs.Lookup
import TextureGraph.Proofs.Operands
import TextureGraph.Proofs.Evaluation
import TextureGraph.Proofs.Program.Code
import TextureGraph.Proofs.Program.Emission
import TextureGraph.Proofs.Program.Layout
import TextureGraph.Proofs.Program.Nesting
import TextureGraph.Proofs.Derivation
import TextureGraph.Proofs.Program.Composition
import TextureGraph.Proofs.Program.Height
import TextureGraph.Proofs.Program.Renumbering
import TextureGraph.Proofs.Program.Removal
import TextureGraph.Proofs.Machine.Transfer
import TextureGraph.Proofs.Machine.Instructions
import TextureGraph.Proofs.Machine.Simulation
import TextureGraph.Proofs.Machine.Correctness
import TextureGraph.Proofs.Machine.Coherence
import TextureGraph.Proofs.Machine.Room
import TextureGraph.Proofs.Machine.Rejection
import TextureGraph.Proofs.Program.Locality
import TextureGraph.Proofs.Program.Addresses
import TextureGraph.Proofs.Program.Upload
import TextureGraph.Proofs.Reading
import TextureGraph.Proofs.Machine.Noninterference
import TextureGraph.Proofs.Document.Placement
import TextureGraph.Proofs.Document.Order
import TextureGraph.Proofs.Document.Countdown
import TextureGraph.Proofs.Document.Cycles
import TextureGraph.Proofs.Document.Arrangement
import TextureGraph.Proofs.Document.Readiness
import TextureGraph.Proofs.Document.Diagnosis
import TextureGraph.Proofs.Document.Walk
import TextureGraph.Proofs.Document.Kind
import TextureGraph.Proofs.Document.Lowering
import TextureGraph.Proofs.Document.Fidelity
import TextureGraph.Proofs.Document.Acceptance
import TextureGraph.Proofs.Document.Renaming
import TextureGraph.Proofs.Document.Part
import TextureGraph.Proofs.Document.Dependencies
import TextureGraph.Proofs.Document.Shaking
import TextureGraph.Proofs.Document.Presentation
import TextureGraph.Proofs.Binary32.Integral
import TextureGraph.Proofs.Lookup.Texel
import TextureGraph.Proofs.Lookup.Interpolation
import TextureGraph.Proofs.Hue
