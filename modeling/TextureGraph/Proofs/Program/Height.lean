import TextureGraph.Proofs.Program.Layout
import TextureGraph.Proofs.Program.Nesting

/-!
# Nesting heights

To compile a node is to compile what its rule evaluates, one level deeper, and so on down to
the leaves. How far down that goes is the height of the node. A table compiles just if no
height exceeds the limit, and otherwise the error names the first code, in the order of
emission, that would have been one level too deep. Below the limit, the limit does not matter.
-/

namespace TextureGraph

open Outcome

/-! ## Heights -/

/-- Height of nesting by a rule, from the heights of the inputs and of the node's own number. -/
def Rule.height (kind : EvalKind) (input : (slot : Nat) → EvalKind → Nat) (number : Nat) :
    Rule → Nat
  | .leaf => 0
  | .combinator children =>
      1 + (children.map fun child => input child.slot (child.resolve kind)).foldr max 0
  | .genericBump => 1 + number
  | .triplanar _ => 1 + max (input 0 .spectrum) (max (input 1 .spectrum) (input 2 .spectrum))
  | .distort _ => 1 + max (input 1 .spectrum) (input 0 kind)

/-- Height to which the code of a node nests under a kind of evaluation. The recursion goes to
earlier nodes, and from a bump to the number of the same node. -/
def Table.height (table : Table) (id : NodeId) (kind : EvalKind) : Nat :=
  match table.node? id with
  | none => 0
  | some node =>
      (node.kind.rule kind).height kind
        (fun slot inputKind =>
          match node.child? slot with
          | none => 0
          | some child => if child < id then table.height child inputKind else 0)
        (if kind = .float then 0 else table.height id .float)
termination_by (id, kind.index)
decreasing_by
  · exact .left _ _ ‹_›
  · refine .right _ ?_
    cases kind with
    | float => contradiction
    | spectrum | bump => decide

/-! ## Calls -/

/-- A node that is to be compiled under a kind of evaluation. -/
structure Call where
  node : NodeId
  kind : EvalKind
deriving DecidableEq, Repr

/-- The call for the node in an input slot. -/
def Node.inputCalls (node : Node) (slot : Nat) (kind : EvalKind) : List Call :=
  ((node.child? slot).map fun child => ⟨child, kind⟩).toList

/-- What compiling a node calls for one level deeper, in the order of emission. -/
def Node.calls (node : Node) (id : NodeId) (kind : EvalKind) : List Call :=
  match node.kind.rule kind with
  | .leaf => []
  | .combinator children =>
      children.flatMap fun child => node.inputCalls child.slot (child.resolve kind)
  | .genericBump => [⟨id, .float⟩, ⟨id, .float⟩, ⟨id, .float⟩]
  | .triplanar _ =>
      node.inputCalls 0 .spectrum ++ node.inputCalls 1 .spectrum ++ node.inputCalls 2 .spectrum
  | .distort _ => node.inputCalls 1 .spectrum ++ node.inputCalls 0 kind

namespace Table

/-- The calls that a call leads to a number of levels deeper, in the order of emission. -/
def callsAt (table : Table) : (depth : Nat) → Call → List Call
  | 0, call => [call]
  | depth + 1, call =>
      match table.node? call.node with
      | none => []
      | some node => (node.calls call.node call.kind).flatMap (table.callsAt depth)

/-- All nodes under all kinds of evaluation, in the order in which they are compiled. -/
def entries (table : Table) : List Call :=
  (List.range table.size).flatMap fun id => EvalKind.all.map fun kind => ⟨id, kind⟩

end Table

/-! ## What a node calls for -/

namespace Node

variable {node : Node} {id : NodeId} {kind : EvalKind}

theorem inputCalls_eq_singleton {slot : Nat} {child : NodeId}
    (filled : node.child? slot = some child) : node.inputCalls slot kind = [⟨child, kind⟩] := by
  rw [inputCalls, filled]
  rfl

theorem node_mem_children_of_mem_inputCalls {slot : Nat} {call : Call}
    (member : call ∈ node.inputCalls slot kind) : call.node ∈ node.children := by
  rw [inputCalls, Option.mem_toList, Option.map_eq_some_iff] at member
  rcases member with ⟨child, filled, rfl⟩
  exact List.mem_of_getElem? filled

/-- A node calls for nothing but its inputs and itself. -/
theorem node_eq_or_mem_of_mem_calls {call : Call} (member : call ∈ node.calls id kind) :
    call.node = id ∨ call.node ∈ node.children := by
  rw [calls] at member
  cases rule : node.kind.rule kind with
  | leaf =>
      rw [rule] at member
      cases member
  | combinator children =>
      rw [rule] at member
      rcases List.mem_flatMap.mp member with ⟨_, _, member⟩
      exact .inr (node_mem_children_of_mem_inputCalls member)
  | genericBump =>
      rw [rule] at member
      simp only [List.mem_cons, List.not_mem_nil, or_false, or_self] at member
      exact .inl (congrArg Call.node member)
  | triplanar mapping =>
      simp only [rule, List.mem_append] at member
      obtain (member | member) | member := member <;>
        exact .inr (node_mem_children_of_mem_inputCalls member)
  | distort strength =>
      simp only [rule, List.mem_append] at member
      obtain member | member := member <;>
        exact .inr (node_mem_children_of_mem_inputCalls member)

end Node

/-! ## Heights and calls -/

/-- No rule combines no input at all. -/
theorem TextureKind.children_ne_nil_of_rule {kind : TextureKind} {eval : EvalKind}
    {children : List ChildEval} (rule : kind.rule eval = .combinator children) :
    children ≠ [] := by
  cases kind <;> cases eval <;> cases rule <;> exact List.cons_ne_nil _ _

theorem foldr_max_lt_iff {counts : List Nat} {bound : Nat} :
    counts.foldr max 0 < bound ↔ 0 < bound ∧ ∀ count ∈ counts, count < bound := by
  induction counts with
  | nil => simp
  | cons count rest ih =>
      rw [List.foldr_cons, Nat.max_lt, ih, List.forall_mem_cons]
      exact and_left_comm

namespace Table

variable {table : Table} {id : NodeId} {node : Node} {kind : EvalKind}

/-- Height of the node in an input slot. -/
def inputHeight (table : Table) (node : Node) (slot : Nat) (kind : EvalKind) : Nat :=
  match node.child? slot with
  | none => 0
  | some child => table.height child kind

/-- The height of a node by its rule: nothing for a leaf, one more than the highest input, or
one more than the number of which samples are taken. -/
theorem WellFormed.height_eq (wellFormed : table.WellFormed) (found : table.node? id = some node)
    (kind : EvalKind) :
    table.height id kind =
      (node.kind.rule kind).height kind (table.inputHeight node) (table.height id .float) := by
  have inputs_eq : (fun slot inputKind => match node.child? slot with
      | none => 0
      | some child => if child < id then table.height child inputKind else 0) =
        table.inputHeight node := by
    funext slot inputKind
    cases filled : node.child? slot with
    | none => rw [inputHeight, filled]
    | some child =>
        have earlier := (wellFormed.stands found).child_lt child (List.mem_of_getElem? filled)
        rw [inputHeight, filled]
        exact if_pos earlier
  rw [height, found]
  simp only [inputs_eq]
  by_cases number : kind = .float
  · -- The number of a node is not sampled.
    subst number
    cases rule : node.kind.rule .float with
    | genericBump => cases TextureKind.eq_bump_of_rule_eq_genericBump rule
    | leaf | combinator | triplanar | distort => rfl
  · rw [if_neg number]

/-- Calls for an input stay below a depth if the input does. -/
theorem forall_inputCalls_iff {slot bound : Nat} (filled : node.InputHas slot (· < id)) :
    (∀ call ∈ node.inputCalls slot kind, table.height call.node call.kind < bound) ↔
      table.inputHeight node slot kind < bound := by
  rcases filled with ⟨child, filled, _⟩
  rw [Node.inputCalls_eq_singleton filled, List.forall_mem_singleton, inputHeight, filled]

/-- A node is higher than all that it calls for. -/
theorem WellFormed.height_lt_succ_iff (wellFormed : table.WellFormed)
    (found : table.node? id = some node) (kind : EvalKind) {bound : Nat} :
    table.height id kind < bound + 1 ↔
      ∀ call ∈ node.calls id kind, table.height call.node call.kind < bound := by
  have input_iff (slot : Nat) (used : slot ∈ (node.kind.rule kind).slots) (inputKind : EvalKind) :
      (∀ call ∈ node.inputCalls slot inputKind, table.height call.node call.kind < bound) ↔
        table.inputHeight node slot inputKind < bound :=
    forall_inputCalls_iff ((wellFormed.stands found).exists_inputHas used)
  rw [wellFormed.height_eq found, Node.calls]
  cases rule : node.kind.rule kind with
  | leaf => simp [Rule.height]
  | combinator children =>
      rw [rule] at input_iff
      have first_pos (below : ∀ child ∈ children,
          table.inputHeight node child.slot (child.resolve kind) < bound) : 0 < bound := by
        rcases List.exists_mem_of_ne_nil _ (TextureKind.children_ne_nil_of_rule rule) with
          ⟨first, member⟩
        exact Nat.zero_lt_of_lt (below first member)
      have each_iff : (∀ call ∈ children.flatMap fun child =>
            node.inputCalls child.slot (child.resolve kind),
          table.height call.node call.kind < bound) ↔
          ∀ child ∈ children, table.inputHeight node child.slot (child.resolve kind) < bound := by
        rw [List.forall_mem_flatMap]
        exact forall₂_congr fun child member =>
          input_iff child.slot (List.mem_map_of_mem member) (child.resolve kind)
      rw [each_iff, Rule.height, Nat.add_comm, Nat.add_lt_add_iff_right, foldr_max_lt_iff,
        List.forall_mem_map]
      exact and_iff_right_of_imp first_pos
  | genericBump =>
      simp only [Rule.height, List.forall_mem_cons, List.not_mem_nil, false_imp_iff, implies_true,
        and_true, and_self]
      omega
  | triplanar mapping =>
      simp only [rule, Rule.slots, List.forall_mem_cons] at input_iff
      rcases input_iff with ⟨input0, input1, input2, _⟩
      simp only [Rule.height, List.forall_mem_append, input0, input1, input2]
      omega
  | distort strength =>
      simp only [rule, Rule.slots, List.forall_mem_cons] at input_iff
      rcases input_iff with ⟨offset, moved, _⟩
      simp only [Rule.height, List.forall_mem_append, offset, moved]
      omega

/-- What a node of a table calls for is in the table. -/
theorem WellFormed.node_lt_size_of_mem_calls (wellFormed : table.WellFormed)
    (found : table.node? id = some node) {call : Call} (member : call ∈ node.calls id kind) :
    call.node < table.size := by
  have inside : id < table.size := (List.getElem?_eq_some_iff.mp found).1
  rcases Node.node_eq_or_mem_of_mem_calls member with own | input
  · rwa [own]
  · exact Nat.lt_trans ((wellFormed.stands found).child_lt call.node input) inside

theorem callsAt_succ_eq_flatMap {call : Call} (found : table.node? call.node = some node)
    (depth : Nat) :
    table.callsAt (depth + 1) call =
      (node.calls call.node call.kind).flatMap (table.callsAt depth) := by
  rw [callsAt, found]

/-- Calls go as deep as the height, and no deeper. -/
theorem WellFormed.callsAt_eq_nil_iff (wellFormed : table.WellFormed) {depth : Nat} {call : Call}
    (inside : call.node < table.size) :
    table.callsAt depth call = [] ↔ table.height call.node call.kind < depth := by
  induction depth generalizing call with
  | zero => simp [callsAt]
  | succ depth ih =>
      have found : table.node? call.node = some table.nodes[call.node] :=
        List.getElem?_eq_getElem inside
      rw [callsAt_succ_eq_flatMap found, List.flatMap_eq_nil_iff,
        wellFormed.height_lt_succ_iff found]
      exact forall₂_congr fun next member => ih (wellFormed.node_lt_size_of_mem_calls found member)

end Table

/-! ## Where compiling fails -/

/-- Code by a rule fails where the first of the calls does that fails. -/
theorem Code.failure?_ofRule {id : NodeId} {node : Node} {kind : EvalKind}
    {input : Nat → EvalKind → Except CompileError Code} {sample : Except CompileError Code}
    {fails : Call → Option CompileError}
    (inputs : ∀ slot ∈ (node.kind.rule kind).slots, ∀ inputKind,
      failure? (input slot inputKind) = (node.inputCalls slot inputKind).findSome? fails)
    (samples : failure? sample = fails ⟨id, .float⟩) :
    failure? (ofRule id kind (node.kind.rule kind) input sample) =
      (node.calls id kind).findSome? fails := by
  rw [Node.calls]
  cases rule : node.kind.rule kind with
  | leaf => rfl
  | combinator children =>
      rw [rule] at inputs
      rw [ofRule, failure?_bind_pure, failure?_mapM, findSome?_flatMap]
      exact findSome?_congr fun child member => inputs child.slot (List.mem_map_of_mem member) _
  | genericBump =>
      rw [ofRule, failure?_bind_pure, samples]
      simp only [List.findSome?_cons, List.findSome?_nil]
      cases fails ⟨id, .float⟩ <;> rfl
  | triplanar mapping =>
      simp only [rule, Rule.slots, List.forall_mem_cons] at inputs
      rcases inputs with ⟨input0, input1, input2, _⟩
      rw [List.findSome?_append, List.findSome?_append, ← input0, ← input1, ← input2,
        Option.or_assoc]
      exact failure?_bind fun c0 => failure?_bind fun c1 => failure?_bind_pure _ _
  | distort strength =>
      simp only [rule, Rule.slots, List.forall_mem_cons] at inputs
      rcases inputs with ⟨offsetInput, movedInput, _⟩
      rw [List.findSome?_append, ← offsetInput, ← movedInput]
      exact failure?_bind fun offset => failure?_bind_pure _ _

/-- The error for a call that would be a level too deep. -/
def Call.depthError (limit : Nat) (call : Call) : CompileError :=
  .depthLimit call.node call.kind limit

namespace Table

open CompileError

variable {table : Table} {id : NodeId} {node : Node} {kind : EvalKind}

/-- Within a number of levels the code of a node fails just if there are calls that many levels
deeper, and then for the first of them. -/
theorem WellFormed.failure?_nodeCode (wellFormed : table.WellFormed) (limit budget : Nat)
    {call : Call} (inside : call.node < table.size) :
    failure? (table.nodeCode limit budget call.node call.kind) =
      (table.callsAt budget call).head?.map (·.depthError limit) := by
  induction budget generalizing call with
  | zero => rfl
  | succ budget ih =>
      have found : table.node? call.node = some table.nodes[call.node] :=
        List.getElem?_eq_getElem inside
      have inputs : ∀ slot ∈ (table.nodes[call.node].kind.rule call.kind).slots, ∀ inputKind,
          failure? (do
              let input ← demand (.missingChild slot) (table.nodes[call.node].child? slot)
              table.nodeCode limit budget input inputKind) =
            (table.nodes[call.node].inputCalls slot inputKind).findSome? fun next =>
              failure? (table.nodeCode limit budget next.node next.kind) := by
        intro slot used inputKind
        rcases (wellFormed.stands found).exists_inputHas used with ⟨child, filled, _⟩
        rw [Node.inputCalls_eq_singleton filled, filled, demand_some, ok_bind,
          List.findSome?_singleton]
      rw [nodeCode, found, demand_some, ok_bind, Code.failure?_ofRule inputs rfl,
        callsAt_succ_eq_flatMap found, List.head?_flatMap, List.map_findSome?]
      exact findSome?_congr fun next member =>
        ih (wellFormed.node_lt_size_of_mem_calls found member)

end Table

/-- Parameters that fit a table are within the limits of their kind. -/
theorem TextureKind.Fits.checkCapacity_eq_ok {kind : TextureKind} {imageCount : Nat}
    (fits : kind.Fits imageCount) (id : NodeId) : kind.checkCapacity id = .ok () := by
  rw [checkCapacity_eq_ok_iff]
  rintro use used
  cases kind with
  | band points =>
      cases used
      exact Nat.max_le.mpr ⟨fits.bounded, fits.paired ▸ fits.bounded⟩
  | _ => cases used

namespace Table

variable {table : Table} {config : Config}

theorem WellFormed.failure?_kindCodes (wellFormed : table.WellFormed) (limit : Nat) {id : NodeId}
    {node : Node} (found : table.node? id = some node) :
    failure? (table.kindCodes limit id node) = EvalKind.all.findSome? fun kind =>
      failure? (table.nodeCode limit (limit + 1) id kind) := by
  have bounded := (wellFormed.stands found).fits.checkCapacity_eq_ok id
  have each : failure? (table.kindCodes limit id node) =
      (failure? (table.nodeCode limit (limit + 1) id .float)).or
        ((failure? (table.nodeCode limit (limit + 1) id .spectrum)).or
          (failure? (table.nodeCode limit (limit + 1) id .bump))) := by
    have passes : Except.mapError CompileError.capacity (.ok ()) = .ok () := rfl
    rw [kindCodes, bounded, passes, ok_bind]
    exact failure?_bind fun float => failure?_bind fun spectrum => failure?_bind_pure _ _
  rw [each]
  simp only [EvalKind.all, List.findSome?_cons, List.findSome?_nil]
  cases failure? (table.nodeCode limit (limit + 1) id .float) <;>
    cases failure? (table.nodeCode limit (limit + 1) id .spectrum) <;>
      cases failure? (table.nodeCode limit (limit + 1) id .bump) <;> rfl

/-- Compiling fails for the first entry that leads to calls deeper than the limit, and for the
first one of these. -/
theorem WellFormed.failure?_compile (wellFormed : table.WellFormed) (config : Config) :
    failure? (table.compile config) = table.entries.findSome? fun entry =>
      (table.callsAt (config.maxCompileDepth + 1) entry).head?.map
        (·.depthError config.maxCompileDepth) := by
  have ids_eq : List.range table.size = table.nodes.zipIdx.map Prod.snd := by
    rw [List.zipIdx_map_snd, List.range_eq_range', size]
  rw [compile_eq_map_codes, failure?_map, codes, failure?_mapM, entries, findSome?_flatMap, ids_eq,
    List.findSome?_map]
  refine findSome?_congr ?_
  rintro ⟨node, id⟩ member
  have found : table.node? id = some node := List.mem_zipIdx_iff_getElem?.mp member
  have inside (kind : EvalKind) : (⟨id, kind⟩ : Call).node < table.size :=
    (List.getElem?_eq_some_iff.mp found).1
  simp only [wellFormed.failure?_kindCodes _ found, Function.comp, List.findSome?_map]
  exact findSome?_congr fun kind _ => wellFormed.failure?_nodeCode _ _ (inside kind)

theorem mem_entries_iff {entry : Call} : entry ∈ table.entries ↔ entry.node < table.size := by
  have listed : entry.kind ∈ EvalKind.all := by
    cases entry.kind <;> decide
  rw [entries, List.mem_flatMap]
  constructor
  · rintro ⟨id, inside, member⟩
    rcases List.mem_map.mp member with ⟨_, _, rfl⟩
    exact List.mem_range.mp inside
  · intro inside
    exact ⟨entry.node, List.mem_range.mpr inside, List.mem_map_of_mem listed⟩

/-! ## The limit makes no other difference -/

theorem nodeCode_of_limit {limit budget : Nat} {id : NodeId} {kind : EvalKind} {code : Code}
    (other : Nat) (made : table.nodeCode limit budget id kind = .ok code) :
    table.nodeCode other budget id kind = .ok code := by
  induction budget generalizing id kind code with
  | zero => cases made
  | succ budget ih =>
      rcases nodeCode_succ_eq_ok_iff.mp made with ⟨node, found, composed⟩
      exact nodeCode_succ_eq_ok_iff.mpr ⟨node, found, composed.mono fun _ _ _ => ih⟩

/-- A node has the same code within whatever limits it has code. -/
theorem nodeCode_unique {limit budget limit' budget' : Nat} {id : NodeId} {kind : EvalKind}
    {code code' : Code} (made : table.nodeCode limit budget id kind = .ok code)
    (made' : table.nodeCode limit' budget' id kind = .ok code') : code = code' := by
  have lifted := nodeCode_of_le (Nat.le_max_left budget budget') made
  have lifted' := nodeCode_of_le (Nat.le_max_right budget budget') (nodeCode_of_limit limit made')
  exact Except.ok.inj (lifted.symm.trans lifted')

theorem codes_unique {limit limit' : Nat} {codes codes' : List (PerKind Code)}
    (made : table.codes limit = .ok codes) (made' : table.codes limit' = .ok codes') :
    codes = codes' := by
  refine List.ext_getElem ((codes_length made).trans (codes_length made').symm) ?_
  intro id inside inside'
  have inTable : id < table.nodes.length := Nat.lt_of_lt_of_eq inside (codes_length made)
  have found : table.node? id = some table.nodes[id] := List.getElem?_eq_getElem inTable
  rcases exists_getElem?_codes made found with ⟨own, standing, ownMade⟩
  rcases exists_getElem?_codes made' found with ⟨own', standing', ownMade'⟩
  rw [List.getElem?_eq_getElem inside, Option.some.injEq] at standing
  rw [List.getElem?_eq_getElem inside', Option.some.injEq] at standing'
  rw [standing, standing']
  have same (kind : EvalKind) : own.get kind = own'.get kind :=
    nodeCode_unique (nodeCode_of_kindCodes ownMade kind) (nodeCode_of_kindCodes ownMade' kind)
  exact congr (congr (congrArg PerKind.mk (same .float)) (same .spectrum)) (same .bump)

/-! ## Within the limit and beyond it -/

/-- Calls go beyond a limit just where the height does. -/
theorem WellFormed.callsAt_succ_eq_nil_iff (wellFormed : table.WellFormed) {limit : Nat}
    {entry : Call} (member : entry ∈ table.entries) :
    table.callsAt (limit + 1) entry = [] ↔ table.height entry.node entry.kind ≤ limit :=
  (wellFormed.callsAt_eq_nil_iff (mem_entries_iff.mp member)).trans Nat.lt_succ_iff

theorem WellFormed.exists_compile_iff (wellFormed : table.WellFormed) (config : Config) :
    (∃ program, table.compile config = .ok program) ↔
      ∀ id kind, id < table.size → table.height id kind ≤ config.maxCompileDepth := by
  rw [← failure?_eq_none_iff, wellFormed.failure?_compile, List.findSome?_eq_none_iff]
  simp only [Option.map_eq_none_iff, List.head?_eq_none_iff]
  constructor
  · intro none_deep id kind inside
    have member : (⟨id, kind⟩ : Call) ∈ table.entries := mem_entries_iff.mpr inside
    exact (wellFormed.callsAt_succ_eq_nil_iff member).mp (none_deep _ member)
  · intro low entry member
    exact (wellFormed.callsAt_succ_eq_nil_iff member).mpr
      (low entry.node entry.kind (mem_entries_iff.mp member))

/-- The error is about the first call beyond the limit from the first entry that is too high. -/
theorem WellFormed.exists_deep_call (wellFormed : table.WellFormed) {error : CompileError}
    (failed : table.compile config = .error error) :
    ∃ entry call,
      table.entries.find?
          (fun entry => decide (config.maxCompileDepth < table.height entry.node entry.kind)) =
        some entry ∧
      (table.callsAt (config.maxCompileDepth + 1) entry).head? = some call ∧
      error = .depthLimit call.node call.kind config.maxCompileDepth := by
  rw [← failure?_eq_some_iff, wellFormed.failure?_compile, List.findSome?_eq_some_iff] at failed
  rcases failed with ⟨before, entry, after, entries_eq, deep, low⟩
  rcases Option.map_eq_some_iff.mp deep with ⟨call, first, rfl⟩
  have listed {entry' : Call} (member : entry' ∈ before ++ entry :: after) :
      entry' ∈ table.entries := entries_eq ▸ member
  refine ⟨entry, call, List.find?_eq_some_iff_append.mpr ⟨?_, before, after, entries_eq, ?_⟩,
    first, rfl⟩
  · rw [decide_eq_true_iff, ← Nat.not_le,
      ← wellFormed.callsAt_succ_eq_nil_iff (listed List.mem_append_cons_self)]
    intro none_deep
    rw [none_deep] at first
    cases first
  · intro earlier member
    have none_deep := low earlier member
    rw [Option.map_eq_none_iff, List.head?_eq_none_iff,
      wellFormed.callsAt_succ_eq_nil_iff (listed (List.mem_append_left _ member))] at none_deep
    rw [decide_eq_false (Nat.not_lt.mpr none_deep)]
    rfl

/-- A table compiles just if no node nests higher than the limit under any kind of evaluation.
Otherwise the error names the first call that would be entered beyond the limit, while the
first entry that is too high is compiled. All limits that are high enough give the same code. -/
theorem Built.compile_eq_ok_iff_height_le (built : table.Built) (config : Config) :
    ((∃ program, table.compile config = .ok program) ↔
      ∀ id kind, id < table.size → table.height id kind ≤ config.maxCompileDepth) ∧
    (∀ error, table.compile config = .error error →
      ∃ entry call,
        table.entries.find?
            (fun entry => decide (config.maxCompileDepth < table.height entry.node entry.kind)) =
          some entry ∧
        (table.callsAt (config.maxCompileDepth + 1) entry).head? = some call ∧
        error = .depthLimit call.node call.kind config.maxCompileDepth) ∧
    ∀ other program again, table.compile config = .ok program → table.compile other = .ok again →
      program.instructions = again.instructions ∧ program.nodeSpans = again.nodeSpans ∧
        program.maxStackDepth = again.maxStackDepth := by
  refine ⟨built.wellFormed.exists_compile_iff config,
    fun _ failed => built.wellFormed.exists_deep_call failed, ?_⟩
  intro other program again compiled compiledAgain
  rcases exists_codes_of_compile compiled with ⟨codes, made, rfl⟩
  rcases exists_codes_of_compile compiledAgain with ⟨codes', made', rfl⟩
  rw [codes_unique made made']
  exact ⟨rfl, rfl, rfl⟩

/-- The bump of the displaced wind takes samples of the wind one level too deep. -/
theorem compile_eq_ok_iff_height_le_nested :
    ∃ entry, nested.compile ⟨0.001, 1⟩ = .error (.depthLimit 0 .float 1) ∧
      nested.entries.find? (fun entry => decide (1 < nested.height entry.node entry.kind)) =
        some entry ∧
      (nested.callsAt 2 entry).head? = some ⟨0, .float⟩ := by
  have failed : nested.compile ⟨0.001, 1⟩ = .error (.depthLimit 0 .float 1) := rfl
  obtain ⟨_, errors, _⟩ := built_nested.compile_eq_ok_iff_height_le ⟨0.001, 1⟩
  rcases errors _ failed with ⟨entry, ⟨node, kind⟩, first, deepest, error_eq⟩
  cases error_eq
  exact ⟨entry, failed, first, deepest⟩

end Table

end TextureGraph
