import WalletPanel.Form.Submission

/-!
# How a workflow moves

A workflow is moved by three things: a submission, a result and a reset. This module says what each
of them leaves behind, once, as equations on the values; everything about the panel that concerns
its workflows is derived from them, and nothing else looks inside `submitCall` and `settle`.

* `value_settle` — a result is taken exactly if it comes under the current ticket while a request
  is under way. Then the state is the one that the result says; otherwise nothing changes.
* `value_submitCall` — a submission is accepted exactly in the phases that allow one, and only with
  a call. Then a request is under way under the next generation, which is its ticket.
* `announced_settle` — a result that is dropped announces nothing.
-/

namespace WalletPanel

/-! ### What a result says -/

/-- The state of a workflow whose request has ended with a result. -/
def WorkflowState.ofResult : Except RemoteError α → WorkflowState α
  | .ok value => succeeded value
  | .error error => failed error.detail

/-- How a result is taken that is not dropped. -/
def Resolution.ofResult : Except RemoteError α → Resolution
  | .ok _ => succeeded
  | .error _ => failed

/-- A workflow with a result is not at rest. -/
theorem WorkflowState.ofResult_ne_idle (r : Except RemoteError α) :
    WorkflowState.ofResult r ≠ .idle := by
  cases r <;> simp [WorkflowState.ofResult]

/-- A result that was taken is not stale. -/
@[simp] theorem Resolution.ofResult_ne_stale (r : Except RemoteError α) :
    Resolution.ofResult r ≠ .stale := by
  cases r <;> simp [Resolution.ofResult]

/-- The test for a request under way. -/
@[simp] theorem WorkflowState.isSubmitting_eq_true_iff (s : WorkflowState α) :
    s.isSubmitting = true ↔ s = .submitting := by
  cases s <;> simp [isSubmitting]

namespace Workflow

/-- A workflow waits for a result under a ticket if a request is under way and the ticket is that
of the request. -/
def Awaits (w : Workflow α) (ticket : UInt64) : Prop :=
  ticket = w.generation ∧ w.state = .submitting

/-- The test that `Workflow.resolve` makes. -/
theorem awaits_iff (w : Workflow α) (ticket : UInt64) :
    (ticket = w.generation ∧ w.state.isSubmitting = true) ↔ w.Awaits ticket :=
  and_congr_right fun _ => w.state.isSubmitting_eq_true_iff

instance (w : Workflow α) (ticket : UInt64) : Decidable (w.Awaits ticket) :=
  decidable_of_iff _ (w.awaits_iff ticket)

/-- The workflow after a result under a ticket. -/
def settled (w : Workflow α) (ticket : UInt64) (result : Except RemoteError α) : Workflow α :=
  if w.Awaits ticket then { w with state := .ofResult result } else w

/-- How a result under a ticket is taken. -/
def resolution (w : Workflow α) (ticket : UInt64) (result : Except RemoteError α) : Resolution :=
  if w.Awaits ticket then .ofResult result else .stale

/-- The workflow after a submission that was accepted. -/
def begun (w : Workflow α) : Workflow α := ⟨.submitting, w.generation + 1⟩

/-- The workflow after a reset. The ticket of a request under way has no use from then on. -/
def cleared (w : Workflow α) : Workflow α := ⟨.idle, w.generation + 1⟩

/-- A result that is not awaited changes nothing. -/
theorem settled_of_not_awaits {w : Workflow α} {ticket : UInt64} (h : ¬ w.Awaits ticket)
    (result : Except RemoteError α) : w.settled ticket result = w :=
  if_neg h

/-- It is stale exactly if it is not awaited. -/
theorem resolution_eq_stale_iff (w : Workflow α) (ticket : UInt64)
    (result : Except RemoteError α) : w.resolution ticket result = .stale ↔ ¬ w.Awaits ticket := by
  unfold resolution
  split
  · next h => exact iff_of_false (Resolution.ofResult_ne_stale result) (not_not_intro h)
  · next h => exact iff_of_true rfl h

/-- A result is taken under the ticket of the request that is under way, and under no other. -/
theorem value_resolve (label : String) (w : Workflow α) (ticket : UInt64)
    (result : Except RemoteError α) :
    (w.resolve label ticket result).value
      = (w.settled ticket result, w.resolution ticket result) := by
  unfold resolve settled resolution
  by_cases h : w.Awaits ticket
  · -- whether it was a success is looked at only now
    rw [if_pos ((w.awaits_iff ticket).mpr h), if_pos h, if_pos h]
    cases result <;> rfl
  · rw [if_neg (mt (w.awaits_iff ticket).mp h), if_neg h, if_neg h]
    rfl

end Workflow

/-! ### Results -/

/-- **Taking a result.** What the user is told is told beside the workflow. -/
@[simp] theorem value_settle (id : WorkflowId) (outcome : Outcome) (w : Workflow α)
    (ticket : UInt64) (result : Except RemoteError α) :
    (settle id outcome w ticket result).value
      = (w.settled ticket result, w.resolution ticket result) := by
  unfold settle
  rw [Traced.value_bind, Workflow.value_resolve]
  cases w.resolution ticket result <;> rfl

/-- A result that is dropped announces nothing. -/
theorem announced_settle {w : Workflow α} {ticket : UInt64} (h : ¬ w.Awaits ticket)
    (id : WorkflowId) (outcome : Outcome) (result : Except RemoteError α) :
    (settle id outcome w ticket result).events.filterMap Event.announcement? = [] := by
  have hs : (w.resolve id.label ticket result).value = (w, .stale) := by
    rw [Workflow.value_resolve, Workflow.settled_of_not_awaits h,
      (w.resolution_eq_stale_iff ticket result).mpr h]
  -- the journal notes that it was dropped, and a note is no announcement
  have he : (w.resolve id.label ticket result).events
      = [.staleResult id.label ticket w.generation] := by
    unfold Workflow.resolve
    rw [if_neg (mt (w.awaits_iff ticket).mp h)]
    rfl
  unfold settle
  rw [Traced.events_bind, hs, he]
  rfl

/-! ### Submissions -/

/-- The phases that allow a submission. -/
def Workflow.Ready (w : Workflow α) : Prop := w.phase = .idle ∨ w.phase = .failed

instance (w : Workflow α) : Decidable w.Ready := inferInstanceAs (Decidable (_ ∨ _))

/-- A request is begun in the phases that allow one, and leaves the workflow as it is in the others.
-/
theorem Workflow.value_begin (label : String) (w : Workflow α) :
    (w.Ready ∧ (w.begin label).value = (w.begun, .ok (w.generation + 1))) ∨
      ∃ e, ¬ w.Ready ∧ (w.begin label).value = (w, .error e) := by
  unfold Workflow.begin Workflow.Ready
  cases h : w.phase with
  | idle => exact Or.inl ⟨Or.inl rfl, rfl⟩
  | failed => exact Or.inl ⟨Or.inr rfl, rfl⟩
  | submitting => exact Or.inr ⟨_, by simp, rfl⟩
  | succeeded => exact Or.inr ⟨_, by simp, rfl⟩

/-- **Submitting.** With a call and in a phase that allows it, a request is under way afterwards,
under the next generation, and the call goes out under that ticket; otherwise the workflow stays as
it is and nothing goes out. -/
theorem value_submitCall (id : WorkflowId) (w : Workflow α)
    (call : Except ValidationError RemoteCall) :
    (∃ c, call = .ok c ∧ w.Ready ∧
        (submitCall id w call).value = (w.begun, some ⟨id, w.generation + 1, c⟩)) ∨
      ((∀ c, call = .ok c → ¬ w.Ready) ∧ (submitCall id w call).value = (w, none)) := by
  unfold submitCall
  by_cases hb : w.state.isSubmitting = true
  · -- a second press of the button while a request is under way
    have hr : ¬ w.Ready := by
      rw [w.state.isSubmitting_iff] at hb
      simp [Workflow.Ready, Workflow.phase, hb]
    rw [if_pos hb]
    exact Or.inr ⟨fun _ _ => hr, rfl⟩
  · rw [if_neg hb]
    cases call with
    | error e => exact Or.inr ⟨fun _ h => by simp at h, rfl⟩
    | ok c =>
      -- the table of phases decides: after a success the form has to be reset first
      rcases w.value_begin id.label with ⟨hr, hv⟩ | ⟨e, hr, hv⟩
      · refine Or.inl ⟨c, rfl, hr, ?_⟩
        dsimp only
        rw [Traced.value_bind, hv]
        rfl
      · refine Or.inr ⟨fun _ _ => hr, ?_⟩
        dsimp only
        rw [Traced.value_bind, hv]
        rfl

end WalletPanel
