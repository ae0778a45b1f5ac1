import TextureGraph.Binary32.Basic

/-!
# Bounded value stacks

A stack of numbers, listed from the bottom up, that never grows beyond its
capacity and remembers the most it has held.
-/

namespace TextureGraph

structure ValueStack where
  /-- Contents, with the top at the end. -/
  values : List Binary32
  capacity : Nat
  /-- Most slots in use at once since the stack was last cleared. -/
  highWater : Nat
deriving DecidableEq, Repr

namespace ValueStack

def withCapacity (capacity : Nat) : ValueStack := ⟨[], capacity, 0⟩

def size (stack : ValueStack) : Nat :=
  stack.values.length

def isEmpty (stack : ValueStack) : Bool :=
  stack.values.isEmpty

/-- Empty the stack and forget how full it was. -/
def clear (stack : ValueStack) : ValueStack :=
  { stack with values := [], highWater := 0 }

/-- Put values on top, the last one uppermost, if there is room for all. -/
def push? (stack : ValueStack) (values : List Binary32) : Option ValueStack :=
  let size := stack.size + values.length
  if stack.capacity < size then none
  else some { stack with
    values := stack.values ++ values
    highWater := max stack.highWater size }

/-- Take the top `count` values off, the uppermost last. -/
def pop? (stack : ValueStack) (count : Nat) : Option (List Binary32 × ValueStack) :=
  if stack.size < count then none
  else
    let below := stack.size - count
    some (stack.values.drop below, { stack with values := stack.values.take below })

/-- The `count` values under the top `skip` ones, which stay in place. -/
def peek? (stack : ValueStack) (skip count : Nat) : Option (List Binary32) :=
  if stack.size < skip + count then none
  else some ((stack.values.drop (stack.size - (skip + count))).take count)

/-! ## Laws -/

theorem push?_eq_some_iff {stack next : ValueStack} {values : List Binary32} :
    stack.push? values = some next ↔
      stack.size + values.length ≤ stack.capacity ∧
      next = ⟨stack.values ++ values, stack.capacity,
        max stack.highWater (stack.size + values.length)⟩ := by
  unfold push?
  by_cases full : stack.capacity < stack.size + values.length
  · rw [if_pos full]
    constructor
    · intro impossible
      cases impossible
    · rintro ⟨fits, _⟩
      exact absurd fits (Nat.not_le.mpr full)
  · rw [if_neg full]
    constructor
    · intro pushed
      cases pushed
      exact ⟨Nat.not_lt.mp full, rfl⟩
    · rintro ⟨_, rfl⟩
      rfl

theorem pop?_eq_some_iff {stack next : ValueStack} {values : List Binary32} {count : Nat} :
    stack.pop? count = some (values, next) ↔
      count ≤ stack.size ∧ values = stack.values.drop (stack.size - count) ∧
      next = { stack with values := stack.values.take (stack.size - count) } := by
  unfold pop?
  by_cases few : stack.size < count
  · rw [if_pos few]
    constructor
    · intro impossible
      cases impossible
    · rintro ⟨enough, _⟩
      exact absurd few (Nat.not_lt.mpr enough)
  · rw [if_neg few]
    constructor
    · intro popped
      cases popped
      exact ⟨Nat.not_lt.mp few, rfl, rfl⟩
    · rintro ⟨_, rfl, rfl⟩
      rfl

/-- As many values come off as are asked for. -/
theorem length_of_pop? {stack next : ValueStack} {values : List Binary32} {count : Nat}
    (popped : stack.pop? count = some (values, next)) : values.length = count := by
  rcases pop?_eq_some_iff.mp popped with ⟨enough, rfl, _⟩
  rw [List.length_drop]
  exact Nat.sub_sub_self enough

theorem length_of_peek? {stack : ValueStack} {values : List Binary32} {skip count : Nat}
    (seen : stack.peek? skip count = some values) : values.length = count := by
  unfold peek? at seen
  split at seen
  · cases seen
  · next enough =>
      cases seen
      simp only [List.length_take, List.length_drop, size] at enough ⊢
      omega

/-- What was pushed last comes off first. -/
theorem pop?_append (below above : List Binary32) (capacity highWater : Nat) :
    (ValueStack.mk (below ++ above) capacity highWater).pop? above.length =
      some (above, ⟨below, capacity, highWater⟩) := by
  have position : below.length + above.length - above.length = below.length := by omega
  have enough : ¬ below.length + above.length < above.length := by omega
  simp only [pop?, size, List.length_append, if_neg enough, position,
    List.drop_left, List.take_left]

/-- Values under the top can be read without moving them. -/
theorem peek?_append (below seen above : List Binary32) (capacity highWater : Nat) :
    (ValueStack.mk (below ++ (seen ++ above)) capacity highWater).peek? above.length seen.length =
      some seen := by
  have position : below.length + (seen.length + above.length) - (above.length + seen.length) =
      below.length := by omega
  have enough : ¬ below.length + (seen.length + above.length) < above.length + seen.length := by
    omega
  simp only [peek?, size, List.length_append, if_neg enough, position,
    List.drop_left, List.take_left]

end ValueStack

end TextureGraph
