import TextureGraph.Fault
import TextureGraph.HitPoint
import TextureGraph.Machine.ValueStack
import TextureGraph.Program.Instruction

/-!
# Actions of the stack machine

What the machine does is a tree of its reads and writes of the state. To perform
an action is to follow one path through the tree. The states that are written on
the way can be listed, so that a statement about a run can also speak of what lies
between its beginning and its end.
-/

namespace TextureGraph

inductive ExecError where
  | stackOverflow (position capacity : Nat)
  | stackUnderflow (position : Nat)
  | nodeOutOfRange (node : NodeId) (count : Nat)
  /-- An instruction that does not fit the rule of its node. -/
  | invalidOp (position : Nat) (node : NodeId) (op : Op)
  | spanOutOfRange (start length total : Nat)
  | resultWidth (node : NodeId) (kind : EvalKind) (expected found : Nat)
  | fault (fault : Fault)
deriving DecidableEq, Repr

def ExecError.message : ExecError → String
  | stackOverflow position capacity =>
      "value stack overflow at instruction " ++ toString position ++ " (capacity " ++
        toString capacity ++ ")"
  | stackUnderflow position =>
      "value stack underflow at instruction " ++ toString position
  | nodeOutOfRange node count =>
      "texture " ++ node.label ++ " is not part of a " ++ toString count ++ "-texture program"
  | invalidOp position node op =>
      "instruction " ++ toString position ++ ": " ++ op.name ++ " is not valid for texture " ++
        node.label
  | spanOutOfRange start length total =>
      "span " ++ toString start ++ "+" ++ toString length ++ " is outside the " ++
        toString total ++ "-instruction program"
  | resultWidth node kind expected found =>
      "span for " ++ node.label ++ " under " ++ kind.name ++ " left " ++ toString found ++
        " values, expected " ++ toString expected
  | fault _ => "the program refers to data that is not there"

namespace Machine

/-- What a run changes. -/
structure State where
  hit : HitPoint
  stack : ValueStack
deriving DecidableEq, Repr

/-- A computation that reads and writes the state, one use behind the other, and
may give up. -/
inductive Action (α : Type) where
  | done (result : α)
  | fail (error : ExecError)
  | inspect (next : State → Action α)
  | update (state : State) (next : Action α)

namespace Action

variable {α β γ : Type}

/-- One action, then another that depends on its result. -/
protected def bind : Action α → (α → Action β) → Action β
  | done result, next => next result
  | fail error, _ => fail error
  | inspect rest, next => inspect fun state => (rest state).bind next
  | update state rest, next => update state (rest.bind next)

instance : Monad Action where
  pure := done
  bind := Action.bind

protected theorem bind_done (action : Action α) : action.bind done = action := by
  induction action with
  | done | fail => rfl
  | inspect rest ih => exact congrArg inspect (funext ih)
  | update state rest ih => exact congrArg (update state) ih

protected theorem bind_bind (action : Action α) (first : α → Action β) (second : β → Action γ) :
    (action.bind first).bind second = action.bind fun result => (first result).bind second := by
  induction action with
  | done | fail => rfl
  | inspect rest ih => exact congrArg inspect (funext ih)
  | update state rest ih => exact congrArg (update state) ih

instance : LawfulMonad Action :=
  LawfulMonad.mk' Action Action.bind_done (fun _ _ => rfl) Action.bind_bind

instance : MonadStateOf State Action where
  get := inspect done
  set state := update state (done ())
  modifyGet change := inspect fun state => update (change state).2 (done (change state).1)

end Action

/-! ## Performing an action -/

variable {α β : Type}

/-- Result of an action and the state that it leaves behind, also when it fails. -/
def perform : Action α → State → Except ExecError α × State
  | .done result, state => (.ok result, state)
  | .fail error, state => (.error error, state)
  | .inspect next, state => perform (next state) state
  | .update state next, _ => perform next state

/-- The states that an action writes, in order. -/
def passed : Action α → State → List State
  | .done _, _ => []
  | .fail _, _ => []
  | .inspect next, state => passed (next state) state
  | .update state next, _ => state :: passed next state

@[simp]
theorem perform_pure (result : α) (state : State) :
    perform (pure result) state = (.ok result, state) := rfl

@[simp]
theorem passed_pure (result : α) (state : State) : passed (pure result) state = [] := rfl

@[simp]
theorem perform_fail (error : ExecError) (state : State) :
    perform (.fail error : Action α) state = (.error error, state) := rfl

@[simp]
theorem passed_fail (error : ExecError) (state : State) :
    passed (.fail error : Action α) state = [] := rfl

@[simp]
theorem perform_get_bind (next : State → Action α) (state : State) :
    perform (get >>= next) state = perform (next state) state := rfl

@[simp]
theorem passed_get_bind (next : State → Action α) (state : State) :
    passed (get >>= next) state = passed (next state) state := rfl

/-- A failed action ends the whole; else the rest goes on from its state. -/
theorem perform_bind (action : Action α) (next : α → Action β) (state : State) :
    perform (action >>= next) state =
      match perform action state with
      | (.ok result, after) => perform (next result) after
      | (.error error, after) => (.error error, after) := by
  induction action generalizing state with
  | done | fail => rfl
  | inspect rest ih => exact ih state state
  | update written rest ih => exact ih written

theorem passed_bind (action : Action α) (next : α → Action β) (state : State) :
    passed (action >>= next) state =
      passed action state ++
        match perform action state with
        | (.ok result, after) => passed (next result) after
        | (.error _, _) => [] := by
  induction action generalizing state with
  | done | fail => rfl
  | inspect rest ih => exact ih state state
  | update written rest ih => exact congrArg (written :: ·) (ih written)

theorem perform_bind_of_error {action : Action α} {state : State} {error : ExecError}
    (failed : (perform action state).1 = .error error) (next : α → Action β) :
    (perform (action >>= next) state).1 = .error error := by
  rw [perform_bind]
  cases performed : perform action state with
  | mk outcome after =>
      rw [performed] at failed
      subst failed
      rfl

theorem passed_bind_of_error {action : Action α} {state : State} {error : ExecError}
    (failed : (perform action state).1 = .error error) (next : α → Action β) :
    passed (action >>= next) state = passed action state := by
  rw [passed_bind]
  cases performed : perform action state with
  | mk outcome after =>
      rw [performed] at failed
      subst failed
      exact List.append_nil _

/-- Nothing but its writes changes the state of an action. -/
theorem perform_mem_passed (action : Action α) (state : State) :
    (perform action state).2 ∈ state :: passed action state := by
  induction action generalizing state with
  | done | fail => exact List.mem_cons_self
  | inspect rest ih => exact ih state state
  | update written rest ih => exact List.mem_cons_of_mem state (ih written)

end Machine

end TextureGraph
