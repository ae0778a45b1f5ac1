import TextureGraph.Machine.Basic

/-!
# Effect of an action on a stack

An action sees no more of a stack than a few values on top of it. What it does to
these values, and how high its pushes rise above the rest, is the same on every stack.
The pushes alone decide whether a stack is large enough, and which push fails if not.
-/

namespace TextureGraph

namespace Machine

/-! ## Pushes -/

/-- The position of a push, and the number of slots above the untouched part of the stack
that are in use after it. -/
structure Push where
  position : Nat
  height : Nat

/-- A push further up on a stack. -/
def Push.lift (slots : Nat) (push : Push) : Push :=
  ⟨push.position, slots + push.height⟩

/-- The first push that a stack has no room for. -/
def misfit? (pushes : List Push) (below : ValueStack) : Option Push :=
  pushes.find? fun push => decide (below.capacity < below.size + push.height)

/-- A stack with the high-water mark that pushes leave behind. -/
def raise (pushes : List Push) (below : ValueStack) : ValueStack :=
  { below with
    highWater := pushes.foldl (fun most push => max most (below.size + push.height))
      below.highWater }

variable {pushes more : List Push} {below : ValueStack} {peak : Nat}

@[simp]
theorem raise_nil : raise [] below = below := rfl

@[simp]
theorem raise_append : raise (pushes ++ more) below = raise more (raise pushes below) := by
  simp only [raise, List.foldl_append]
  rfl

theorem misfit?_append :
    misfit? (pushes ++ more) below = (misfit? pushes below).or (misfit? more below) :=
  List.find?_append

theorem misfit?_eq_none_iff :
    misfit? pushes below = none ↔ ∀ push ∈ pushes, below.size + push.height ≤ below.capacity := by
  simp [misfit?]

/-- Pushes that stay within a number of slots. -/
def Low (pushes : List Push) (peak : Nat) : Prop :=
  ∀ push ∈ pushes, push.height ≤ peak

@[simp]
theorem low_nil : Low [] peak := nofun

@[simp]
theorem low_cons_iff {push : Push} :
    Low (push :: pushes) peak ↔ push.height ≤ peak ∧ Low pushes peak :=
  List.forall_mem_cons

@[simp]
theorem low_append_iff : Low (pushes ++ more) peak ↔ Low pushes peak ∧ Low more peak :=
  List.forall_mem_append

theorem Low.mono {higher : Nat} (low : Low pushes peak) (le : peak ≤ higher) : Low pushes higher :=
  fun push member => Nat.le_trans (low push member) le

theorem low_map_lift_iff {slots : Nat} :
    Low (pushes.map (Push.lift slots)) (slots + peak) ↔ Low pushes peak := by
  simp only [Low, List.forall_mem_map, Push.lift, Nat.add_le_add_iff_left]

theorem raise_highWater_le (low : Low pushes peak) :
    (raise pushes below).highWater ≤ max below.highWater (below.size + peak) := by
  induction pushes generalizing below with
  | nil => exact Nat.le_max_left _ _
  | cons push rest ih =>
      rw [low_cons_iff] at low
      have first : below.size + push.height ≤ below.size + peak := Nat.add_le_add_left low.1 _
      calc
        (raise rest (raise [push] below)).highWater
            ≤ max (max below.highWater (below.size + push.height)) (below.size + peak) :=
              ih low.2
        _ ≤ max below.highWater (below.size + peak) :=
              Nat.max_le.mpr ⟨Nat.max_le.mpr ⟨Nat.le_max_left _ _,
                Nat.le_trans first (Nat.le_max_right _ _)⟩, Nat.le_max_right _ _⟩

/-- A stack with more values on it, which an action higher up does not touch. -/
def extend (below : ValueStack) (values : List Binary32) : ValueStack :=
  { below with values := below.values ++ values }

@[simp]
theorem capacity_extend (lower : List Binary32) :
    (extend below lower).capacity = below.capacity := rfl

@[simp]
theorem size_extend (lower : List Binary32) :
    (extend below lower).size = below.size + lower.length :=
  List.length_append

theorem misfit?_map_lift (lower : List Binary32) :
    misfit? (pushes.map (Push.lift lower.length)) below =
      (misfit? pushes (extend below lower)).map (Push.lift lower.length) := by
  have same : ((fun push => decide (below.capacity < below.size + push.height)) ∘
      Push.lift lower.length) = fun push =>
        decide ((extend below lower).capacity < (extend below lower).size + push.height) := by
    funext push
    simp only [Function.comp, Push.lift, capacity_extend, size_extend, Nat.add_assoc]
    rfl
  rw [misfit?, List.find?_map, same]
  rfl

theorem raise_map_lift (lower : List Binary32) :
    extend (raise (pushes.map (Push.lift lower.length)) below) lower =
      raise pushes (extend below lower) := by
  simp only [raise, size_extend, Nat.add_assoc, List.foldl_map]
  rfl

/-! ## Windows -/

/-- The hit point, and the values on top of a stack that an action may touch. -/
structure Window where
  hit : HitPoint
  values : List Binary32

/-- The state in which the values of a window lie on a stack. -/
def Window.on (window : Window) (below : ValueStack) : State :=
  ⟨window.hit, { below with values := below.values ++ window.values }⟩

/-- A stack still holds all of another one, and no more than `peak` slots on top of it. -/
structure Within (below : ValueStack) (peak : Nat) (stack : ValueStack) : Prop where
  keeps : below.values <+: stack.values
  size_le : stack.size ≤ below.size + peak
  highWater_le : stack.highWater ≤ max below.highWater (below.size + peak)

theorem Window.within_on {window : Window} (low : window.values.length ≤ peak) :
    Within below peak (window.on below).stack where
  keeps := List.prefix_append _ _
  size_le := by
    change (below.values ++ window.values).length ≤ _
    rw [List.length_append]
    exact Nat.add_le_add_left low _
  highWater_le := Nat.le_max_left _ _

theorem Within.of_raise {stack : ValueStack} (low : Low pushes peak)
    (within : Within (raise pushes below) peak stack) : Within below peak stack where
  keeps := within.keeps
  size_le := within.size_le
  highWater_le :=
    Nat.le_trans within.highWater_le
      (Nat.max_le.mpr ⟨raise_highWater_le low, Nat.le_max_right _ _⟩)

theorem Within.of_extend {stack : ValueStack} {lower : List Binary32}
    (low : lower.length ≤ peak)
    (within : Within (extend below lower) (peak - lower.length) stack) :
    Within below peak stack where
  keeps := (List.prefix_append _ _).trans within.keeps
  size_le := by
    have bound := within.size_le
    rw [size_extend] at bound
    omega
  highWater_le := by
    have bound := within.highWater_le
    rw [size_extend, Nat.add_assoc, Nat.add_sub_cancel' low] at bound
    exact bound

/-! ## Transfers -/

variable {α β : Type}

/-- An action leads from one window to another, on whatever stack the windows lie. It
fails exactly at the first push that there is no room for. -/
structure Transfer (action : Action α) (pushes : List Push) (start : Window) (result : α)
    (finish : Window) : Prop where
  completes : ∀ below, misfit? pushes below = none →
    perform action (start.on below) = (.ok result, finish.on (raise pushes below))
  overflows : ∀ below push, misfit? pushes below = some push →
    (perform action (start.on below)).1 = .error (.stackOverflow push.position below.capacity)
  stays : ∀ below peak, start.values.length ≤ peak → Low pushes peak →
    ∀ state ∈ passed action (start.on below), Within below peak state.stack

namespace Transfer

variable {action : Action α} {start middle finish : Window} {result : α}

/-- No window rises above the start and the pushes. -/
theorem finish_length_le (transfer : Transfer action pushes start result finish)
    (start_low : start.values.length ≤ peak) (low : Low pushes peak) :
    finish.values.length ≤ peak := by
  have fits : misfit? pushes (.withCapacity peak) = none := by
    rw [misfit?_eq_none_iff]
    intro push member
    simpa [ValueStack.withCapacity, ValueStack.size] using low push member
  have last := perform_mem_passed action (start.on (.withCapacity peak))
  rw [transfer.completes _ fits] at last
  change finish.on (raise pushes (.withCapacity peak)) ∈ _ at last
  have within : Within (.withCapacity peak) peak
      (finish.on (raise pushes (.withCapacity peak))).stack := by
    rcases List.mem_cons.mp last with unmoved | written
    · rw [unmoved]
      exact Window.within_on start_low
    · exact transfer.stays _ peak start_low low _ written
  simpa [Window.on, raise, ValueStack.withCapacity, ValueStack.size] using within.size_le

theorem pure (result : α) (window : Window) :
    Transfer (Pure.pure result) [] window result window where
  completes _ _ := rfl
  overflows _ _ misfits := by cases misfits
  stays _ _ _ _ _ member := by cases member

theorem bind {next : α → Action β} {outcome : β}
    (first : Transfer action pushes start result middle)
    (second : Transfer (next result) more middle outcome finish) :
    Transfer (action >>= next) (pushes ++ more) start outcome finish where
  completes below fits := by
    rw [misfit?_append, Option.or_eq_none_iff] at fits
    rw [perform_bind, first.completes below fits.1, raise_append]
    exact second.completes (raise pushes below) fits.2
  overflows below push misfits := by
    rw [misfit?_append] at misfits
    cases fits : misfit? pushes below with
    | some early =>
        rw [fits] at misfits
        cases misfits
        exact perform_bind_of_error (first.overflows below push fits) next
    | none =>
        rw [fits] at misfits
        rw [perform_bind, first.completes below fits]
        exact second.overflows (raise pushes below) push misfits
  stays below peak start_low low state member := by
    rcases low_append_iff.mp low with ⟨firstLow, secondLow⟩
    cases fits : misfit? pushes below with
    | some push =>
        rw [passed_bind_of_error (first.overflows below push fits)] at member
        exact first.stays below peak start_low firstLow state member
    | none =>
        rw [passed_bind, first.completes below fits] at member
        rcases List.mem_append.mp member with early | late
        · exact first.stays below peak start_low firstLow state early
        · exact (second.stays (raise pushes below) peak
            (first.finish_length_le start_low firstLow) secondLow state late).of_raise firstLow

/-- An action that pushes nothing, then the rest. -/
theorem before {next : α → Action β} {outcome : β}
    (silent : Transfer action [] start result middle)
    (rest : Transfer (next result) pushes middle outcome finish) :
    Transfer (action >>= next) pushes start outcome finish :=
  silent.bind rest

/-- The same action further up on a stack. -/
theorem above (lower : List Binary32) (transfer : Transfer action pushes start result finish) :
    Transfer action (pushes.map (Push.lift lower.length)) ⟨start.hit, lower ++ start.values⟩ result
      ⟨finish.hit, lower ++ finish.values⟩ := by
  have on_eq : ∀ (window : Window) (below : ValueStack),
      Window.on ⟨window.hit, lower ++ window.values⟩ below = window.on (extend below lower) := by
    intro window below
    simp only [Window.on, extend, List.append_assoc]
  constructor
  · intro below fits
    rw [misfit?_map_lift, Option.map_eq_none_iff] at fits
    rw [on_eq, on_eq, transfer.completes _ fits, raise_map_lift]
  · intro below push misfits
    rw [misfit?_map_lift, Option.map_eq_some_iff] at misfits
    rcases misfits with ⟨push, misfits, rfl⟩
    rw [on_eq]
    exact transfer.overflows _ push misfits
  · intro below peak start_low low state member
    rw [on_eq] at member
    rw [List.length_append] at start_low
    have lower_low := Nat.le_of_add_right_le start_low
    rw [← Nat.add_sub_cancel' lower_low, low_map_lift_iff] at low
    have within : Within (extend below lower) (peak - lower.length) state.stack :=
      transfer.stays _ _ (Nat.le_sub_of_add_le' start_low) low state member
    exact within.of_extend lower_low

end Transfer

/-! ## Actions on the stack -/

/-- An action that reads, or takes values off the stack, in a single write. -/
theorem Transfer.of_silent {action : Action α} {start finish : Window} {result : α}
    (performs : ∀ below, perform action (start.on below) = (.ok result, finish.on below))
    (passes : ∀ below, ∀ state ∈ passed action (start.on below), state = finish.on below)
    (shrinks : finish.values.length ≤ start.values.length) :
    Transfer action [] start result finish where
  completes below _ := performs below
  overflows _ _ misfits := by cases misfits
  stays below peak start_low _ state member := by
    rw [passes below state member]
    exact Window.within_on (Nat.le_trans shrinks start_low)

theorem transfer_push (position : Nat) (hit : HitPoint) (values pushed : List Binary32) :
    Transfer (push position pushed) [⟨position, (values ++ pushed).length⟩] ⟨hit, values⟩ ()
      ⟨hit, values ++ pushed⟩ := by
  have pushed_eq : ∀ below, (Window.on ⟨hit, values⟩ below).stack.push? pushed =
      if below.capacity < below.size + (values ++ pushed).length then none
      else some (Window.on ⟨hit, values ++ pushed⟩
        (raise [⟨position, (values ++ pushed).length⟩] below)).stack := by
    intro below
    have size_eq : (below.values ++ values).length + pushed.length =
        below.size + (values ++ pushed).length := by
      simp only [List.length_append, ValueStack.size, Nat.add_assoc]
    simp only [Window.on, ValueStack.push?, ValueStack.size, size_eq, raise, List.append_assoc]
    rfl
  constructor
  · intro below fits
    have room : ¬ below.capacity < below.size + (values ++ pushed).length := by
      simpa [misfit?_eq_none_iff] using fits
    rw [push, perform_get_bind, pushed_eq, if_neg room]
    rfl
  · intro below push misfits
    obtain ⟨full, rfl⟩ : below.capacity < below.size + (values ++ pushed).length ∧
        ⟨position, (values ++ pushed).length⟩ = push := by
      simpa [misfit?, List.find?_singleton] using misfits
    rw [Machine.push, perform_get_bind, pushed_eq, if_pos full]
    rfl
  · intro below peak _ low state member
    rw [push, passed_get_bind, pushed_eq] at member
    by_cases full : below.capacity < below.size + (values ++ pushed).length
    · rw [if_pos full] at member
      cases member
    · rw [if_neg full] at member
      cases List.mem_singleton.mp member
      have top : (values ++ pushed).length ≤ peak := (low_cons_iff.mp low).1
      exact Within.of_raise low (Window.within_on top)

theorem transfer_pop (position : Nat) (hit : HitPoint) (values popped : List Binary32) :
    Transfer (pop position popped.length) [] ⟨hit, values ++ popped⟩ popped ⟨hit, values⟩ := by
  have found : ∀ below, (Window.on ⟨hit, values ++ popped⟩ below).stack.pop? popped.length =
      some (popped, (Window.on ⟨hit, values⟩ below).stack) := by
    intro below
    rw [Window.on, ← List.append_assoc]
    exact ValueStack.pop?_append _ _ _ _
  apply Transfer.of_silent
  · intro below
    rw [pop, perform_get_bind, found]
    rfl
  · intro below state member
    rw [pop, passed_get_bind, found] at member
    exact List.mem_singleton.mp member
  · rw [List.length_append]
    exact Nat.le_add_right _ _

theorem transfer_popOperands (position : Nat) (hit : HitPoint) (values popped : List Binary32)
    (few : popped.length ≤ maxOperands) :
    Transfer (popOperands position popped.length) [] ⟨hit, values ++ popped⟩ popped
      ⟨hit, values⟩ := by
  have fits : ∀ state : State,
      ¬ (maxOperands < popped.length ∧ popped.length ≤ state.stack.size) :=
    fun _ many => Nat.not_lt.mpr few many.1
  have popped_off := transfer_pop position hit values popped
  constructor
  · intro below
    rw [popOperands, perform_get_bind, if_neg (fits _)]
    exact popped_off.completes below
  · intro below
    rw [popOperands, perform_get_bind, if_neg (fits _)]
    exact popped_off.overflows below
  · intro below
    rw [popOperands, passed_get_bind, if_neg (fits _)]
    exact popped_off.stays below

theorem transfer_peek (position : Nat) (hit : HitPoint) (values seen above : List Binary32) :
    Transfer (peek position above.length seen.length) [] ⟨hit, values ++ (seen ++ above)⟩ seen
      ⟨hit, values ++ (seen ++ above)⟩ := by
  have found : ∀ below, (Window.on ⟨hit, values ++ (seen ++ above)⟩ below).stack.peek?
      above.length seen.length = some seen := by
    intro below
    rw [Window.on, ← List.append_assoc below.values]
    exact ValueStack.peek?_append _ _ _ _ _
  apply Transfer.of_silent
  · intro below
    rw [peek, perform_get_bind, found]
    rfl
  · intro below state member
    rw [peek, passed_get_bind, found] at member
    cases member
  · exact Nat.le_refl _

theorem transfer_hit (window : Window) : Transfer Machine.hit [] window window.hit window :=
  Transfer.of_silent (fun _ => rfl) (fun _ _ member => by cases member) (Nat.le_refl _)

theorem transfer_setHit (window : Window) (hit : HitPoint) :
    Transfer (setHit hit) [] window () ⟨hit, window.values⟩ :=
  Transfer.of_silent (fun _ => rfl) (fun _ _ member => List.mem_singleton.mp member)
    (Nat.le_refl _)

end Machine

end TextureGraph
