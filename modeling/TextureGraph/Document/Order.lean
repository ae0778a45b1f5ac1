import TextureGraph.Document.Basic

/-!
# Dependency order

An order of the textures of a document in which each comes after its inputs. Each
texture counts the different inputs that it waits for. What waits for nothing is
placed, first come first served, and counts down what waits for it; those that become
ready together keep their order in the document. Textures that wait in the end depend
on a cycle.
-/

namespace TextureGraph

/-- Why the textures of a document cannot be ordered. -/
inductive OrderError where
  | duplicateName (name : String)
  | missingSource (texture slot source : String)
  | cycle (textures : List String)
deriving DecidableEq, Repr

def OrderError.message : OrderError → String
  | duplicateName name => "duplicate texture name: " ++ name
  | missingSource texture slot source =>
      "texture " ++ texture ++ " input " ++ slot ++ " references missing texture: " ++ source
  | cycle textures => "cycle detected between textures: " ++ ", ".intercalate textures

namespace Document

/-- The first of a list of names that stands in front of it already. -/
def firstRepeated? (seen : List String) : List String → Option String
  | [] => none
  | name :: rest => if name ∈ seen then some name else firstRepeated? (name :: seen) rest

/-- The first input, in the order of the slots, that names no texture. -/
def missingSource? (document : Document) (entry : TextureEntry) : Option OrderError :=
  (entry.inputs.sorted.find? fun (_, source) => !document.names.contains source).map
    fun (slot, source) => .missingSource entry.name slot source

/-- Positions of the textures that feed each texture. -/
def sourceIndices (document : Document) : List (List Nat) :=
  document.textures.map fun entry =>
    entry.inputs.values.filterMap fun source => document.names.findIdx? (· == source)

/-- How many different positions each one waits for, and which ones wait for it. -/
@[ext]
structure Links where
  waiting : List Nat
  waiters : List (List Nat)

namespace Links

/-- A position waits for one more. -/
def add (links : Links) (i input : Nat) : Links :=
  ⟨links.waiting.modify i (· + 1), links.waiters.modify input (· ++ [i])⟩

/-- A position waits for its inputs, once for those given more than once. -/
def addInputs (links : Links) (i : Nat) (seen : List Nat) : List Nat → Links
  | [] => links
  | input :: rest =>
      if input ∈ seen then links.addInputs i seen rest
      else (links.add i input).addInputs i (seen ++ [input]) rest

/-- Each position waits for its own inputs. -/
def ofSources (sources : List (List Nat)) : Links :=
  sources.zipIdx.foldl (fun links (inputs, i) => links.addInputs i [] inputs)
    ⟨List.replicate sources.length 0, List.replicate sources.length []⟩

end Links

/-- How many inputs each position still waits for, and those that wait for none any more. -/
@[ext]
structure Countdown where
  waiting : List Nat
  ready : List Nat

namespace Countdown

/-- At the start what has no inputs is ready. -/
def start (waiting : List Nat) : Countdown :=
  ⟨waiting, (List.range waiting.length).filter fun i => waiting[i]? == some 0⟩

/-- A position waits for one input less. If that was its last one, it is ready. -/
def settle (state : Countdown) (i : Nat) : Countdown :=
  match state.waiting[i]? with
  | some (count + 1) =>
      ⟨state.waiting.set i count, if count = 0 then state.ready ++ [i] else state.ready⟩
  -- Not reached while textures are placed: what one of them feeds has waited for it.
  | _ => state

/-- Place what is ready, first come first served, and count down what waits for it.
`remaining` is the number of textures not yet placed. -/
def run (waiters : List (List Nat)) :
    (remaining : Nat) → Countdown → (placed : List Nat) → Countdown × List Nat
  | remaining + 1, ⟨waiting, next :: ready⟩, placed =>
      let fed := waiters[next]?.getD []
      run waiters remaining (fed.foldl settle ⟨waiting, ready⟩) (placed ++ [next])
  | _, state, placed => (state, placed)

end Countdown

/-- Place all textures that can be placed. -/
def placeAll (document : Document) : Countdown × List Nat :=
  let links := Links.ofSources document.sourceIndices
  Countdown.run links.waiters document.textures.length (.start links.waiting) []

/-- Names of the textures that still wait, as the document lists them. -/
def stillWaiting (document : Document) (state : Countdown) : List String :=
  (document.textures.zipIdx.filter fun (_, i) => state.waiting[i]?.any (0 < ·)).map (·.1.name)

/-- Positions of the textures such that each comes after its inputs. -/
def order (document : Document) : Except OrderError (List Nat) :=
  match firstRepeated? [] document.names with
  | some name => .error (.duplicateName name)
  | none =>
      match document.textures.findSome? document.missingSource? with
      | some e => .error e
      | none =>
          let (state, placed) := document.placeAll
          if placed.length = document.textures.length then .ok placed
          else .error (.cycle (document.stillWaiting state))

end Document

end TextureGraph
