import WalletPanel.Form.Submission

/-!
# A workflow does not look at its values

To replace the values that a workflow deals with by others and then go on is the same as to go on
and then replace them. What a workflow does, what it notes in the journal and what the user is told
are therefore independent of the values. The same holds of the arguments of a call that is
submitted: only its operation is looked at.
-/

namespace WalletPanel

/-- Where the first part of a computation differs from that of another one by `f` in what it yields,
and what follows by `g`, there the whole differs by `g`. -/
theorem Traced.bind_of_map {x : Traced α} {y : Traced β} {f : α → β} {k : α → Traced γ}
    {l : β → Traced δ} {g : γ → δ} (hx : y = f <$> x) (hk : ∀ a, l (f a) = g <$> k a) :
    y >>= l = g <$> (x >>= k) := by
  rw [hx, bind_map_left, map_bind]
  exact bind_congr hk

/-- A state with another value. -/
def WorkflowState.map (f : α → β) : WorkflowState α → WorkflowState β
  | idle => idle
  | submitting => submitting
  | succeeded value => succeeded (f value)
  | failed reason => failed reason

/-- A workflow with another value. -/
def Workflow.map (f : α → β) (w : Workflow α) : Workflow β := ⟨w.state.map f, w.generation⟩

/-- Whether a request is under way does not depend on the value. -/
@[simp] theorem WorkflowState.isSubmitting_map (f : α → β) (s : WorkflowState α) :
    (s.map f).isSubmitting = s.isSubmitting := by
  cases s <;> rfl

/-- The value of the state is the other value. -/
@[simp] theorem WorkflowState.value?_map (f : α → β) (s : WorkflowState α) :
    (s.map f).value? = s.value?.map f := by
  cases s <;> rfl

namespace Workflow

/-- To keep the value is to keep the workflow. -/
theorem map_id : map (fun a : α => a) = fun w => w := by
  funext w
  obtain ⟨state, generation⟩ := w
  cases state <;> rfl

variable {f : α → β} {w : Workflow α}

/-- The phase does not depend on the value. -/
@[simp] theorem phase_map : (w.map f).phase = w.phase := by
  unfold phase map
  cases w.state <;> rfl

/-- A request is begun whatever the value is. -/
theorem begin_map (label : String) :
    (w.map f).begin label = (fun r => (r.1.map f, r.2)) <$> w.begin label := by
  unfold Workflow.begin
  rw [phase_map]
  cases w.phase.after .submit <;> rfl

/-- A result is taken whatever value it has. -/
theorem resolve_map (label : String) (ticket : UInt64) (result : Except RemoteError α) :
    (w.map f).resolve label ticket (result.map f)
      = (fun r => (r.1.map f, r.2)) <$> w.resolve label ticket result := by
  unfold resolve map
  dsimp only
  rw [WorkflowState.isSubmitting_map]
  split
  · cases result <;> rfl
  · rfl

/-- A reset takes the value away, whatever it is. -/
theorem reset_map (label : String) : (w.map f).reset label = map f <$> w.reset label := by
  unfold reset
  rw [phase_map]
  refine Traced.ext rfl ?_
  -- what is noted of a reset is the phase before it
  rw [Traced.events_map]
  rfl

end Workflow

/-- What the user is told of a result does not depend on the value. -/
theorem settle_map (f : α → β) (id : WorkflowId) (outcome : Outcome) (w : Workflow α)
    (ticket : UInt64) (result : Except RemoteError α) :
    settle id outcome (w.map f) ticket (result.map f)
      = (fun r => (r.1.map f, r.2)) <$> settle id outcome w ticket result := by
  unfold settle
  refine Traced.bind_of_map (w.resolve_map id.label ticket result) fun r => ?_
  -- what is told to the user depends on the resolution alone
  obtain ⟨w, resolution⟩ := r
  cases resolution <;> rfl

/-- A submission looks at the operation of a call and at nothing else of it. -/
theorem submitCall_map (f : α → β) (g : RemoteCall → RemoteCall)
    (hg : ∀ c, (g c).operation = c.operation) (id : WorkflowId) (w : Workflow α)
    (call : Except ValidationError RemoteCall) :
    submitCall id (w.map f) (call.map g)
      = (fun r => (r.1.map f, r.2.map fun d => { d with call := g d.call }))
          <$> submitCall id w call := by
  unfold submitCall
  have hs : (w.map f).state.isSubmitting = w.state.isSubmitting := w.state.isSubmitting_map f
  rw [hs]
  split
  · rfl
  · cases call with
    | error e => rfl
    | ok c =>
      dsimp only [Except.map]
      -- the journal shows the operation of the call, which `g` keeps
      rw [hg]
      refine Traced.bind_of_map (w.begin_map id.label) fun r => ?_
      obtain ⟨w, ticket⟩ := r
      cases ticket <;> rfl

end WalletPanel
