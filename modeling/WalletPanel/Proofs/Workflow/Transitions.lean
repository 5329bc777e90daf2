import Mathlib.Algebra.Ring.Nat
import Mathlib.Data.List.Chain
import Mathlib.Data.List.Induction
import WalletPanel.Proofs.Workflow.Settling

/-!
# The phases of a workflow follow the table

A workflow looks into the table of transitions (`Phase.after`) when it is submitted to. A result and
a reset put the new state in place directly, and ask the table only for what the journal is to say.
So there are two accounts of how a workflow moves, and this module shows that they are one.

* `step_cases` — an operation is taken exactly if the table allows its action and, where it is a
  result, its ticket is the current one. Then the phase is the target of the table's transition,
  and the journal has this transition once, with the generation that the workflow has afterwards.
  An operation that is not taken changes nothing and leaves no transition in the journal.
* `isPath_run` — the transitions of a run lead from rest to the phase at its end, each from where
  the one before it has led.
* `generation_after` — the generation counts the submissions that were accepted and the resets.

`run_follows_table` has all of it for every row of operations.
-/

namespace WalletPanel

/-! ### Changes of phase in the journal -/

/-- The phase that an action leads to. -/
def Action.target : Action → Phase
  | submit => .submitting
  | remoteSuccess => .succeeded
  | remoteFailure => .failed
  | reset => .idle

/-- Where an action leads does not depend on where it starts. -/
theorem Phase.target_of_after {phase : Phase} {action : Action} {t : Transition}
    (h : phase.after action = .ok t) : t.target = action.target := by
  cases phase <;> cases action <;> simp [Phase.after] at h <;> simp [← h, Action.target]

/-- What the journal says of a change of phase: of which workflow, how, and the generation that the
workflow had afterwards. -/
structure PhaseChange where
  label : String
  transition : Transition
  generation : UInt64
deriving DecidableEq

/-- The change of phase that an event is about, if it is about one. -/
def Event.phaseChange? : Event → Option PhaseChange
  | transition label t generation => some ⟨label, t, generation⟩
  | _ => none

/-- The changes of phase in the journal of a computation. -/
def Traced.phaseChanges (x : Traced α) : List PhaseChange := x.events.filterMap Event.phaseChange?

/-- A mere value changes no phase. -/
@[simp] theorem Traced.phaseChanges_pure (a : α) : (pure a : Traced α).phaseChanges = [] := rfl

/-- The changes of phase one after the other. -/
@[simp] theorem Traced.phaseChanges_bind (x : Traced α) (f : α → Traced β) :
    (x >>= f).phaseChanges = x.phaseChanges ++ (f x.value).phaseChanges := by
  unfold phaseChanges
  rw [events_bind, List.filterMap_append]

/-- A change of the value is no change of phase. -/
@[simp] theorem Traced.phaseChanges_map (f : α → β) (x : Traced α) :
    (f <$> x).phaseChanges = x.phaseChanges := by
  unfold phaseChanges
  rw [events_map]

/-- The changes of phase in a journal lead from rest to a phase, each from where the one before it
has led. -/
structure IsPath (changes : List PhaseChange) (phase : Phase) : Prop where
  first : ∀ c ∈ changes.head?, c.transition.source = .idle
  joined : changes.IsChain fun b c => c.transition.source = b.transition.target
  last : phase = (changes.getLast?.map (·.transition.target)).getD .idle

/-- Without a change a workflow is at rest. -/
theorem isPath_nil : IsPath [] .idle := ⟨nofun, .nil, rfl⟩

/-- A path goes on from the phase that it has led to. -/
theorem IsPath.concat {changes : List PhaseChange} {phase : Phase} (h : IsPath changes phase)
    {c : PhaseChange} (hc : c.transition.source = phase) :
    IsPath (changes ++ [c]) c.transition.target := by
  refine ⟨?_, ?_, ?_⟩
  · cases changes with
    | nil =>
      -- the first change starts where the empty path has led, which is at rest
      rintro b ⟨⟩
      exact hc.trans h.last
    | cons b bs => exact h.first
  · rw [List.isChain_append]
    refine ⟨h.joined, .singleton c, fun b hb d hd => ?_⟩
    cases hd
    rw [hc, h.last, hb]
    rfl
  · rw [List.getLast?_concat]
    rfl

namespace Workflow

/-! ### Operations -/

/-- Something that is done to a workflow. -/
inductive Op (α : Type) where
  | begin
  | resolve (ticket : UInt64) (result : Except RemoteError α)
  | reset

/-- What a workflow answers to an operation. -/
inductive Answer where
  /-- The ticket of a submission, or why there is none. -/
  | ticket (ticket : Except TransitionError UInt64)
  | resolution (resolution : Resolution)
  /-- A reset has no answer. -/
  | none

/-- The action that an operation comes to. -/
def Op.action : Op α → Action
  | begin => .submit
  | resolve _ (.ok _) => .remoteSuccess
  | resolve _ (.error _) => .remoteFailure
  | reset => .reset

/-- Whether an operation is meant for a workflow as it is now. A result is, if it comes under the
current ticket. -/
def Op.IsCurrent (w : Workflow α) : Op α → Prop
  | resolve ticket _ => ticket = w.generation
  | _ => True

/-- Whether an answer says that the operation was taken: the submission was accepted, or the result
was not dropped. A reset always is. -/
def Answer.isTaken : Answer → Bool
  | ticket (.ok _) => true
  | ticket (.error _) => false
  | resolution r => r != .stale
  | none => true

/-- Whether an answer is that of a submission that was accepted, or of a reset. -/
def Answer.isRenewal : Answer → Bool
  | ticket (.ok _) | none => true
  | _ => false

/-- Does an operation. -/
def step (label : String) (w : Workflow α) : Op α → Traced (Workflow α × Answer)
  | .begin => do
    let (w, ticket) ← w.begin label
    return (w, .ticket ticket)
  | .resolve ticket result => do
    let (w, resolution) ← w.resolve label ticket result
    return (w, .resolution resolution)
  | .reset => do
    let w ← w.reset label
    return (w, .none)

/-- Does one operation after the other; yields all answers. -/
def run (label : String) (w : Workflow α) : List (Op α) → Traced (Workflow α × List Answer)
  | [] => return (w, [])
  | op :: ops => do
    let (w, answer) ← w.step label op
    let (w, answers) ← w.run label ops
    return (w, answer :: answers)

section

variable (label : String) (w : Workflow α)

/-- The workflow after an operation. -/
def next (op : Op α) : Workflow α := (w.step label op).value.1

/-- The answer to an operation. -/
def answer (op : Op α) : Answer := (w.step label op).value.2

/-- The workflow after a row of operations. -/
def after (ops : List (Op α)) : Workflow α := (w.run label ops).value.1

/-- The answers to a row of operations. -/
def answers (ops : List (Op α)) : List Answer := (w.run label ops).value.2

end

/-! ### What an operation does -/

/-- The two things that can come of an operation. -/
inductive StepCase (label : String) (w : Workflow α) (op : Op α) : Prop
  /-- The table allows it, and the workflow goes where the table says. -/
  | taken (t : Transition) (current : op.IsCurrent w) (allowed : w.phase.after op.action = .ok t)
      (yes : (w.answer label op).isTaken = true)
      (target : (w.next label op).phase = t.target)
      (generation : (w.next label op).generation
        = w.generation + if (w.answer label op).isRenewal then 1 else 0)
      (noted : (w.step label op).phaseChanges = [⟨label, t, (w.next label op).generation⟩])
  /-- It is not meant for the workflow, or the table does not allow it, and nothing happens. -/
  | refused (barred : ¬ (op.IsCurrent w ∧ ∃ t, w.phase.after op.action = .ok t))
      (no : (w.answer label op).isTaken = false)
      (kept : w.next label op = w)
      (silent : (w.step label op).phaseChanges = [])

section StepCase

variable {label : String} {w v : Workflow α} {op : Op α} {a : Answer} {events : List Event}

/-- An operation that is taken, by what it comes to. -/
theorem StepCase.of_taken {t : Transition} (hs : w.step label op = ⟨(v, a), events⟩)
    (current : op.IsCurrent w) (allowed : w.phase.after op.action = .ok t)
    (yes : a.isTaken = true) (target : v.phase = t.target)
    (generation : v.generation = w.generation + if a.isRenewal then 1 else 0)
    (noted : events.filterMap Event.phaseChange? = [⟨label, t, v.generation⟩]) :
    StepCase label w op := by
  -- the next state and the answer are parts of what the step does
  have hn : w.next label op = v := by rw [next, hs]
  have ha : w.answer label op = a := by rw [answer, hs]
  refine .taken t current allowed ?_ ?_ ?_ ?_
  · rw [ha]
    exact yes
  · rw [hn]
    exact target
  · rw [hn, ha]
    exact generation
  · rw [hn, hs]
    exact noted

/-- An operation that is not taken, by what it comes to. -/
theorem StepCase.of_refused (hs : w.step label op = ⟨(w, a), events⟩)
    (barred : ¬ (op.IsCurrent w ∧ ∃ t, w.phase.after op.action = .ok t))
    (no : a.isTaken = false) (silent : events.filterMap Event.phaseChange? = []) :
    StepCase label w op := by
  refine .refused barred ?_ ?_ ?_
  · rw [answer, hs]
    exact no
  · rw [next, hs]
  · rw [hs]
    exact silent

end StepCase

/-- A submission asks the table, and does what it says. -/
theorem stepCase_begin (label : String) (w : Workflow α) : StepCase label w .begin := by
  cases h : w.phase.after .submit with
  | ok t =>
    have hs : w.step label .begin
        = ⟨(w.begun, .ticket (.ok (w.generation + 1))),
          [.transition label t (w.generation + 1)]⟩ := by
      unfold step begin
      rw [h]
      rfl
    exact .of_taken hs trivial h rfl (Phase.target_of_after h).symm rfl rfl
  | error e =>
    have hs : w.step label .begin = ⟨(w, .ticket (.error e)), []⟩ := by
      unfold step begin
      rw [h]
      rfl
    refine .of_refused hs ?_ rfl rfl
    -- the table would have to allow what it refuses
    rintro ⟨-, t, ht⟩
    rw [Op.action, h] at ht
    cases ht

/-- A result is taken while a request is under way, without a look at the table. That is the one
phase in which the table allows a result. -/
theorem stepCase_resolve (label : String) (w : Workflow α) (ticket : UInt64)
    (result : Except RemoteError α) : StepCase label w (.resolve ticket result) := by
  have hb := w.awaits_iff ticket
  by_cases h : w.Awaits ticket
  · have hphase : w.phase = .submitting := by rw [phase, h.2]; rfl
    cases result with
    | ok value =>
      have hs : w.step label (.resolve ticket (.ok value))
          = ⟨({ w with state := .succeeded value }, .resolution .succeeded),
            [.transition label ⟨.submitting, .succeeded, "remote_success"⟩ w.generation]⟩ := by
        unfold step resolve
        dsimp only
        rw [if_pos (hb.mpr h)]
        rfl
      refine .of_taken hs h.1 ?_ rfl rfl (UInt64.add_zero _).symm rfl
      rw [hphase]
      rfl
    | error e =>
      have hs : w.step label (.resolve ticket (.error e))
          = ⟨({ w with state := .failed e.detail }, .resolution .failed), [.requestFailed label e,
            .transition label ⟨.submitting, .failed, "remote_failure"⟩ w.generation]⟩ := by
        unfold step resolve
        dsimp only
        rw [if_pos (hb.mpr h)]
        rfl
      refine .of_taken hs h.1 ?_ rfl rfl (UInt64.add_zero _).symm rfl
      rw [hphase]
      rfl
  · have hs : w.step label (.resolve ticket result)
        = ⟨(w, .resolution .stale), [.staleResult label ticket w.generation]⟩ := by
      unfold step resolve
      dsimp only
      rw [if_neg (mt hb.mp h)]
      rfl
    refine .of_refused hs ?_ rfl rfl
    -- under the current ticket it is dropped because no request is under way
    rintro ⟨hc, t, ht⟩
    have hphase : w.phase = .submitting := by
      cases hp : w.phase <;> rw [hp] at ht <;> cases result <;> first | rfl | cases ht
    rw [phase, ← w.state.isSubmitting_iff] at hphase
    exact h (hb.mp ⟨hc, hphase⟩)

/-- A reset is allowed in every phase. -/
theorem stepCase_reset (label : String) (w : Workflow α) : StepCase label w .reset := by
  have ht : w.phase.after .reset = .ok ⟨w.phase, .idle, "reset"⟩ := by
    cases w.phase <;> rfl
  have hs : w.step label .reset
      = ⟨(w.cleared, .none),
        [.transition label ⟨w.phase, .idle, "reset"⟩ (w.generation + 1)]⟩ := by
    unfold step reset note
    rw [ht]
    rfl
  exact .of_taken hs trivial ht rfl rfl rfl rfl

/-- **What an operation does.** It is taken exactly if it is meant for the workflow as it is now and
the table allows it. -/
theorem step_cases (label : String) (w : Workflow α) (op : Op α) : StepCase label w op := by
  cases op with
  | begin => exact stepCase_begin label w
  | resolve ticket result => exact stepCase_resolve label w ticket result
  | reset => exact stepCase_reset label w

/-! ### Runs -/

/-- A run can be cut anywhere. -/
theorem run_append (label : String) (w : Workflow α) (xs ys : List (Op α)) :
    w.run label (xs ++ ys) = (do
      let (w, as) ← w.run label xs
      let (w, bs) ← w.run label ys
      return (w, as ++ bs)) := by
  induction xs generalizing w with
  | nil => simp [run]
  | cons x xs ih => simp [run, ih]

section

variable (label : String) (w : Workflow α) (ops : List (Op α)) (op : Op α)

/-- The last operation is done to what the others have left. -/
theorem after_concat : w.after label (ops ++ [op]) = (w.after label ops).next label op := by
  unfold after
  rw [run_append]
  rfl

/-- Its answer is the last one. -/
theorem answers_concat :
    w.answers label (ops ++ [op])
      = w.answers label ops ++ [(w.after label ops).answer label op] := by
  unfold answers
  rw [run_append]
  rfl

/-- Its changes of phase are the last ones. -/
theorem phaseChanges_concat :
    (w.run label (ops ++ [op])).phaseChanges
      = (w.run label ops).phaseChanges ++ ((w.after label ops).step label op).phaseChanges := by
  rw [run_append]
  simp [run, after]

end

/-- The transitions of a run lead from rest to the phase at its end. -/
theorem isPath_run (label : String) (ops : List (Op α)) :
    IsPath (start.run label ops).phaseChanges (start.after label ops : Workflow α).phase := by
  induction ops using List.reverseRecOn with
  | nil => exact isPath_nil
  | append_singleton ops op ih =>
    -- an operation that is taken adds one change, from the phase that the path has led to
    rw [phaseChanges_concat, after_concat]
    cases step_cases label (start.after label ops) op with
    | taken t current allowed yes target generation noted =>
      rw [noted, target]
      exact ih.concat (Phase.source_of_after allowed)
    | refused barred no kept silent =>
      rw [silent, kept, List.append_nil]
      exact ih

/-- Whatever the journal says of a change of phase, it has from the table. -/
theorem allowed_of_mem_phaseChanges {label : String} {ops : List (Op α)} {c : PhaseChange}
    (h : c ∈ ((start : Workflow α).run label ops).phaseChanges) :
    c.label = label ∧ ∃ action, c.transition.source.after action = .ok c.transition := by
  induction ops using List.reverseRecOn with
  | nil => cases h
  | append_singleton ops op ih =>
    rw [phaseChanges_concat] at h
    rcases List.mem_append.mp h with h | h
    · exact ih h
    · -- a change of phase is noted by an operation that is taken
      cases step_cases label (start.after label ops) op with
      | taken t current allowed yes target generation noted =>
        rw [noted] at h
        cases List.mem_singleton.mp h
        refine ⟨rfl, op.action, ?_⟩
        rw [Phase.source_of_after allowed]
        exact allowed
      | refused barred no kept silent =>
        rw [silent] at h
        cases h

/-- There is one change of phase in the journal for each operation that was taken. -/
theorem length_phaseChanges (label : String) (ops : List (Op α)) :
    ((start : Workflow α).run label ops).phaseChanges.length
      = ((start : Workflow α).answers label ops).countP (·.isTaken) := by
  induction ops using List.reverseRecOn with
  | nil => rfl
  | append_singleton ops op ih =>
    rw [phaseChanges_concat, answers_concat, List.length_append, List.countP_append, ih,
      List.countP_singleton]
    cases step_cases label (start.after label ops) op with
    | taken t current allowed yes target generation noted => rw [noted, yes]; rfl
    | refused barred no kept silent => rw [silent, no]; rfl

/-- The generation counts the submissions that were accepted and the resets. -/
theorem generation_after (label : String) (ops : List (Op α)) :
    ((start : Workflow α).after label ops).generation
      = UInt64.ofNat (((start : Workflow α).answers label ops).countP (·.isRenewal)) := by
  induction ops using List.reverseRecOn with
  | nil => rfl
  | append_singleton ops op ih =>
    rw [after_concat, answers_concat, List.countP_append, List.countP_singleton, UInt64.ofNat_add,
      ← ih]
    cases step_cases label (start.after label ops) op with
    | taken t current allowed yes target generation noted =>
      rw [generation]
      cases ((start.after label ops).answer label op).isRenewal <;> rfl
    | refused barred no kept silent =>
      -- what is not taken renews nothing
      have hn : ((start.after label ops).answer label op).isRenewal = false := by
        revert no
        cases (start.after label ops).answer label op with
        | ticket r => cases r <;> simp [Answer.isTaken, Answer.isRenewal]
        | resolution r => simp [Answer.isRenewal]
        | none => simp [Answer.isTaken]
      rw [kept, hn]
      exact (UInt64.add_zero _).symm

/-! ### The table and the journal -/

/-- What one operation does, in the words of the table. -/
structure Obeys (label : String) (w : Workflow α) (op : Op α) : Prop where
  /-- The phase changes only by a transition that the table has for the operation. -/
  moved : (w.next label op).phase ≠ w.phase → ∃ t, w.phase.after op.action = .ok t ∧
    t.source = w.phase ∧ t.target = (w.next label op).phase
  /-- An operation is taken exactly if it is meant for the workflow and the table allows it. -/
  taken_iff : (w.answer label op).isTaken = true ↔
    op.IsCurrent w ∧ ∃ t, w.phase.after op.action = .ok t
  /-- One that is not taken changes nothing and leaves no transition in the journal. -/
  refused : (w.answer label op).isTaken = false →
    w.next label op = w ∧ (w.step label op).phaseChanges = []
  /-- One that is taken leaves the table's transition, with the generation held afterwards. -/
  noted : (w.answer label op).isTaken = true → ∃ t, w.phase.after op.action = .ok t ∧
    (w.step label op).phaseChanges = [⟨label, t, (w.next label op).generation⟩]

/-- Every operation obeys the table. -/
theorem obeys (label : String) (w : Workflow α) (op : Op α) : Obeys label w op := by
  cases step_cases label w op with
  | taken t current allowed yes target generation noted =>
    -- the table says where its transitions start
    have hsource := Phase.source_of_after allowed
    refine ⟨fun _ => ⟨t, allowed, hsource, target.symm⟩, iff_of_true yes ⟨current, t, allowed⟩,
      fun no => ?_, fun _ => ⟨t, allowed, noted⟩⟩
    rw [yes] at no
    cases no
  | refused barred no kept silent =>
    refine ⟨fun hne => ?_, iff_of_false ?_ barred, fun _ => ⟨kept, silent⟩, fun yes => ?_⟩
    · rw [kept] at hne
      exact absurd rfl hne
    · rw [no]
      exact Bool.false_ne_true
    · rw [no] at yes
      cases yes

/-- **The workflow follows the table, and the journal tells it.** After any row of operations, the
next operation obeys the table; in particular a submission is accepted exactly if the table allows
one. The transitions in the journal lead from rest to the present phase; each of them is the
table's own, and there is one for each operation that was taken. The generation is the number of
submissions that were accepted and of resets, in a word. -/
theorem run_follows_table (label : String) (ops : List (Op α)) (op : Op α) :
    Obeys label (start.after label ops) op ∧
    ((∃ ticket, (start.after label ops : Workflow α).answer label .begin = .ticket (.ok ticket)) ↔
      ∃ t, (start.after label ops : Workflow α).phase.after .submit = .ok t) ∧
    IsPath (start.run label ops).phaseChanges (start.after label ops : Workflow α).phase ∧
    (∀ c ∈ ((start : Workflow α).run label ops).phaseChanges,
      c.label = label ∧ ∃ action, c.transition.source.after action = .ok c.transition) ∧
    ((start : Workflow α).run label ops).phaseChanges.length
      = ((start : Workflow α).answers label ops).countP (·.isTaken) ∧
    (start.run label (ops ++ [op])).phaseChanges
      = (start.run label ops).phaseChanges ++ ((start.after label ops).step label op).phaseChanges ∧
    ((start : Workflow α).after label ops).generation.toNat
      = ((start : Workflow α).answers label ops).countP (·.isRenewal) % 2 ^ 64 := by
  refine ⟨obeys label _ op, ?_, isPath_run label ops, fun c hc => allowed_of_mem_phaseChanges hc,
    length_phaseChanges label ops, phaseChanges_concat label start ops op, ?_⟩
  · -- a ticket is given out where the table allows to submit
    have hb := (obeys label (start.after label ops : Workflow α) .begin).taken_iff
    have hanswer : (start.after label ops : Workflow α).answer label .begin
        = .ticket ((start.after label ops : Workflow α).begin label).value.2 := rfl
    rw [hanswer] at hb ⊢
    cases hr : ((start.after label ops : Workflow α).begin label).value.2 with
    | ok n =>
      rw [hr] at hb
      exact iff_of_true ⟨n, rfl⟩ (hb.mp rfl).2
    | error e =>
      rw [hr] at hb
      exact iff_of_false (fun ⟨_, h⟩ => by cases h) fun ht => absurd (hb.mpr ⟨trivial, ht⟩) nofun
  · rw [generation_after, UInt64.toNat_ofNat']

end Workflow
end WalletPanel
