import WalletPanel.Panel.Step
import WalletPanel.Proofs.Workflow.Settling

/-!
# The five workflows of a panel

The forms hold workflows of five types of values. `Panel.workflow` gives all of them under one name,
indexed by `WorkflowId`, so that what is the same for all five can be said once.

What one operation does to one workflow is `Panel.step_cases`. There are four cases and no others:
a request goes out for the workflow, what it has come to is given up, the request under way is
settled by a result, or nothing happens to it. In each case the entry of the operation in the
history (`Panel.Entry`) shows which case it is: what an operation did can be read off the operation,
the screen that it was done on and its answer, without a look at the forms. All that is proved about
runs of the panel rests on this one case analysis.
-/

namespace WalletPanel

/-! ### Values and results by workflow -/

/-- The type of the values that a workflow's requests bring. -/
@[reducible] def WorkflowId.Value : WorkflowId → Type
  | createWallet => CreatedWallet
  | importWallet => WalletRecord
  | walletList => List WalletRecord
  | tokenCreator => GeneratedToken
  | contractWriter => GeneratedContract

/-- The result that a reply has for a workflow, if it is of the kind that the workflow asks for. -/
def RemoteReply.result? : RemoteReply → (w : WorkflowId) → Option (Except RemoteError w.Value)
  | createdWallet r, .createWallet => some r
  | importedWallet r, .importWallet => some r
  | wallets r, .walletList => some r
  | token r, .tokenCreator => some r
  | contract r, .contractWriter => some r
  | _, _ => none

/-- The result that a completion has for a workflow, if it is for that workflow and of the kind that
the workflow asks for. -/
def Completion.result? (c : Completion) (w : WorkflowId) : Option (Except RemoteError w.Value) :=
  if c.workflow = w then c.reply.result? w else none

/-- A completion has results for its own workflow only. -/
theorem Completion.workflow_of_result? {c : Completion} {w : WorkflowId}
    {r : Except RemoteError w.Value} (h : c.result? w = some r) : c.workflow = w := by
  unfold Completion.result? at h
  split at h
  · next hw => exact hw
  · cases h

/-- A reply has a result for a workflow exactly if it is of the operation that the workflow asks
for. -/
theorem RemoteReply.isSome_result?_iff (r : RemoteReply) (w : WorkflowId) :
    (r.result? w).isSome = true ↔ r.operation = w.operation := by
  cases r <;> cases w <;> simp [result?, operation, WorkflowId.operation]

namespace Panel

/-- A workflow of a panel. -/
def workflow (p : Panel) : (w : WorkflowId) → Workflow w.Value
  | .createWallet => p.createWallet.workflow
  | .importWallet => p.importWallet.workflow
  | .walletList => p.walletList.workflow
  | .tokenCreator => p.tokenCreator.workflow
  | .contractWriter => p.contractWriter.workflow

/-- A new panel has all its workflows at rest. -/
@[simp] theorem state_workflow_start (w : WorkflowId) : (start.workflow w).state = .idle := by
  cases w <;> rfl

/-- A new panel has not counted any generation yet. -/
@[simp] theorem generation_workflow_start (w : WorkflowId) :
    (start.workflow w).generation = 0 := by
  cases w <;> rfl

/-! ### Entries -/

/-- The completion that an operation delivers, if it delivers one. -/
def Op.completion? : Op → Option Completion
  | .apply c => some c
  | _ => none

/-- How many generations a request of a workflow takes. Loading the list takes two: the list before
is given up, and then the request goes out. -/
def generations (w : WorkflowId) : Nat := if w = .walletList then 2 else 1

/-- An operation as it is remembered: on which screen it was done, and what it answered. -/
structure Entry where
  screen : Screen
  op : Op
  answer : Answer

/-- The entry of an operation that is done to a panel. -/
def entry (p : Panel) (op : Op) : Entry := ⟨p.screen, op, (p.step op).value.2⟩

/-- The panel after an operation. -/
def next (p : Panel) (op : Op) : Panel := (p.step op).value.1

namespace Entry

/-- The request that went out by an operation, if one did. -/
def request? (e : Entry) : Option Dispatch :=
  match e.answer with
  | .dispatch d => d
  | _ => none

/-- The request that went out for a workflow by an operation, if one did. -/
def requestOf? (e : Entry) (w : WorkflowId) : Option Dispatch :=
  e.request?.filter (·.workflow = w)

/-- The completion that came in by an operation, if one did. -/
def completion? (e : Entry) : Option Completion := e.op.completion?

/-- The workflow whose last request an operation gave up, if there is one: by a reset of its form,
or by going from its screen to another one. -/
def givenUp? (e : Entry) : Option WorkflowId :=
  match e.op with
  | .reset w => some w
  | .navigate target => if target = e.screen then none else some e.screen.workflow
  | _ => none

/-- A request is of one workflow only. -/
theorem workflow_unique {e : Entry} {v w : WorkflowId} {c d : Dispatch}
    (hv : e.requestOf? v = some c) (hw : e.requestOf? w = some d) : v = w := by
  obtain ⟨hc, hcv⟩ := Option.filter_eq_some_iff.mp hv
  obtain ⟨hd, hdw⟩ := Option.filter_eq_some_iff.mp hw
  rw [hc] at hd
  cases hd
  exact (of_decide_eq_true hcv).symm.trans (of_decide_eq_true hdw)

/-- The operation that delivers a completion. -/
theorem op_of_completion? {e : Entry} {c : Completion} (h : e.completion? = some c) :
    e.op = .apply c := by
  unfold completion? Op.completion? at h
  split at h
  · next hop => rw [hop, Option.some.inj h]
  · cases h

/-- How often an operation gave a workflow a new generation. -/
def bumps (e : Entry) (w : WorkflowId) : Nat :=
  (if e.givenUp? = some w then 1 else 0) +
    match e.requestOf? w with
    | some _ => generations w
    | none => 0

/-- An operation leaves the generation alone if it neither asks nor gives up. -/
theorem bumps_eq_zero_iff (e : Entry) (w : WorkflowId) :
    e.bumps w = 0 ↔ e.requestOf? w = none ∧ e.givenUp? ≠ some w := by
  -- a request takes at least one generation, whichever workflow it is of
  have hpos : generations w ≠ 0 := by
    unfold generations
    split <;> decide
  unfold bumps
  cases e.requestOf? w with
  | none => simp
  | some d => simp [hpos]

end Entry

/-- To go where one is gives up nothing. -/
theorem givenUp?_entry_navigate_self {p : Panel} {target : Screen} (h : target = p.screen) :
    (p.entry (.navigate target)).givenUp? = none :=
  if_pos h

/-- A delivery has what it delivers. -/
theorem completion?_entry_apply (p : Panel) (c : Completion) :
    (p.entry (.apply c)).completion? = some c := rfl

/-! ### What an operation does to a workflow -/

/-- The four things that can come of an operation for a workflow, each with what the entry of the
operation shows of it. -/
inductive StepCase (p : Panel) (op : Op) (w : WorkflowId) : Prop
  /-- A request goes out. Its ticket is the generation that the workflow has afterwards. -/
  | requested (d : Dispatch) (asked : (p.entry op).requestOf? w = some d)
      (kind : d.call.operation = w.operation)
      (kept : (p.entry op).givenUp? ≠ some w)
      (ticket : d.ticket = (p.workflow w).generation + UInt64.ofNat (generations w))
      (result : (p.next op).workflow w = ⟨.submitting, d.ticket⟩)
  /-- What the workflow has come to is given up. -/
  | givenUp (asked : (p.entry op).requestOf? w = none)
      (left : (p.entry op).givenUp? = some w)
      (result : (p.next op).workflow w = (p.workflow w).cleared)
  /-- A completion comes in and settles the request under way. -/
  | settled (c : Completion) (r : Except RemoteError w.Value) (taken : op = .apply c)
      (brought : c.result? w = some r) (awaited : (p.workflow w).Awaits c.ticket)
      (result : (p.next op).workflow w = { p.workflow w with state := .ofResult r })
  /-- Nothing happens to the workflow. If a completion for it comes in, it is not awaited. -/
  | untouched (asked : (p.entry op).requestOf? w = none)
      (kept : (p.entry op).givenUp? ≠ some w)
      (dropped : ∀ c r, op = .apply c → c.result? w = some r → ¬ (p.workflow w).Awaits c.ticket)
      (result : (p.next op).workflow w = p.workflow w)

/-! ### Requests -/

end Panel

/-- The list of wallets is that of the dashboard. -/
@[simp] theorem Screen.workflow_eq_walletList_iff (s : Screen) :
    s.workflow = .walletList ↔ s = .dashboard := by
  cases s <;> simp [workflow]

/-- Each screen has a workflow of its own. -/
theorem Screen.workflow_injective {s t : Screen} (h : s.workflow = t.workflow) : s = t := by
  cases s <;> cases t <;> first | rfl | cases h

namespace Panel

/-- A panel with another workflow in the place of one of its own. -/
def setWorkflow (p : Panel) : (w : WorkflowId) → Workflow w.Value → Panel
  | .createWallet, x => { p with createWallet := { p.createWallet with workflow := x } }
  | .importWallet, x => { p with importWallet := { p.importWallet with workflow := x } }
  | .walletList, x => { p with walletList := ⟨x⟩ }
  | .tokenCreator, x => { p with tokenCreator := { p.tokenCreator with workflow := x } }
  | .contractWriter, x => { p with contractWriter := { p.contractWriter with workflow := x } }

/-- The workflow that was put in is there. -/
@[simp] theorem workflow_setWorkflow_self (p : Panel) (w : WorkflowId) (x : Workflow w.Value) :
    (p.setWorkflow w x).workflow w = x := by
  cases w <;> rfl

/-- The other workflows are left as they are. -/
theorem workflow_setWorkflow_of_ne (p : Panel) {v w : WorkflowId} (h : w ≠ v)
    (x : Workflow v.Value) : (p.setWorkflow v x).workflow w = p.workflow w := by
  cases v <;> cases w <;> first | rfl | exact absurd rfl h

/-- The call that the form of a workflow makes. -/
def call (p : Panel) : WorkflowId → Except ValidationError RemoteCall
  | .createWallet => p.createWallet.call
  | .importWallet => p.importWallet.call
  | .walletList => .ok .listWallets
  | .tokenCreator => p.tokenCreator.spec.map .createToken
  | .contractWriter => p.contractWriter.call

/-- Each form calls the operation of its own workflow. -/
theorem operation_of_call {p : Panel} {w : WorkflowId} {c : RemoteCall} (h : p.call w = .ok c) :
    c.operation = w.operation := by
  cases w with
  | createWallet =>
    simp only [call, CreateForm.call] at h
    split at h <;> cases h
    rfl
  | importWallet =>
    -- two checks stand in front of this call: of the name and of the key
    simp only [call, ImportForm.call] at h
    split at h
    · cases h
    · split at h <;> cases h
      rfl
  | walletList => cases h; rfl
  | tokenCreator =>
    simp only [call] at h
    cases hs : p.tokenCreator.spec with
    | error e => rw [hs] at h; cases h
    | ok t => rw [hs] at h; cases h; rfl
  | contractWriter =>
    simp only [call, ContractForm.call] at h
    split at h <;> cases h
    rfl

/-- A form is submitted by submitting the call that it makes. -/
theorem value_submit (p : Panel) {w : WorkflowId} (h : w ≠ .walletList) :
    (p.submit w).value
      = (p.setWorkflow w (submitCall w (p.workflow w) (p.call w)).value.1,
        (submitCall w (p.workflow w) (p.call w)).value.2) := by
  cases w with
  | walletList => exact absurd rfl h
  | _ => rfl

/-- The list is loaded by giving up the list before and asking for a new one, unless a list is on
its way already. -/
theorem value_mount (p : Panel) :
    p.mount.value = if (p.workflow .walletList).state = .submitting then (p, none) else
      (p.setWorkflow .walletList (p.workflow .walletList).cleared.begun,
        some ⟨.walletList, (p.workflow .walletList).generation + 2, .listWallets⟩) := by
  have hm : p.mount.value
      = ({ p with walletList := p.walletList.mount.value.1 }, p.walletList.mount.value.2) := rfl
  have hl : p.walletList.isLoading = true ↔ (p.workflow .walletList).state = .submitting :=
    WorkflowState.isSubmitting_eq_true_iff _
  rw [hm]
  unfold WalletList.mount
  by_cases hb : (p.workflow .walletList).state = .submitting
  · rw [if_pos hb, if_pos (hl.mpr hb)]
    rfl
  · -- the reset takes one generation and the submission another
    have h2 : (p.workflow .walletList).generation + 1 + 1
        = (p.workflow .walletList).generation + 2 := UInt64.add_assoc _ 1 1
    rw [if_neg hb, if_neg (mt hl.mp hb), ← h2]
    rfl

/-- `Asks p q v d` says that from `p` to `q` the workflow `v` may have been asked for a request: if
`d` is one, it went out for `v`, and if it is none, nothing has happened. The other workflows are
left alone in either case. -/
structure Asks (p q : Panel) (v : WorkflowId) (d : Option Dispatch) : Prop where
  others : ∀ w, w ≠ v → q.workflow w = p.workflow w
  asked : (d = none ∧ q.workflow v = p.workflow v) ∨
    ∃ e : Dispatch, d = some e ∧ e.workflow = v ∧ e.call.operation = v.operation ∧
      e.ticket = (p.workflow v).generation + UInt64.ofNat (generations v) ∧
      q.workflow v = ⟨.submitting, e.ticket⟩

/-- Loading the list asks its own workflow for a request, or nobody. -/
theorem asks_mount (p : Panel) : Asks p p.mount.value.1 .walletList p.mount.value.2 := by
  rw [value_mount]
  split
  · -- a list is on its way already
    exact ⟨fun _ _ => rfl, Or.inl ⟨rfl, rfl⟩⟩
  · refine ⟨fun w hw => workflow_setWorkflow_of_ne p hw _,
      Or.inr ⟨_, rfl, rfl, rfl, rfl, ?_⟩⟩
    rw [workflow_setWorkflow_self]
    exact congrArg (Workflow.mk _) (UInt64.add_assoc _ 1 1)

/-- Submitting a form asks its own workflow, or nobody if it is refused. -/
theorem asks_submit (p : Panel) (v : WorkflowId) :
    Asks p (p.submit v).value.1 v (p.submit v).value.2 := by
  by_cases hv : v = .walletList
  · subst hv
    exact p.asks_mount
  · rw [value_submit p hv]
    refine ⟨fun w hw => workflow_setWorkflow_of_ne p hw _, ?_⟩
    rw [workflow_setWorkflow_self]
    rcases value_submitCall v (p.workflow v) (p.call v) with ⟨c, hc, -, h⟩ | ⟨-, h⟩
    · -- accepted: the ticket is the next generation, and `generations v` is one
      rw [h]
      have hg : UInt64.ofNat (generations v) = 1 := by rw [generations, if_neg hv]; rfl
      exact Or.inr ⟨_, rfl, rfl, operation_of_call hc, by rw [hg], rfl⟩
    · rw [h]
      exact Or.inl ⟨rfl, rfl⟩

/-- Entering a screen asks for the list on the dashboard, and for nothing elsewhere. -/
theorem asks_enter (p : Panel) (s : Screen) :
    Asks p (p.enter s).value.1 .walletList (p.enter s).value.2 := by
  cases s with
  | dashboard => exact p.asks_mount
  | _ => exact ⟨fun _ _ => rfl, Or.inl ⟨rfl, rfl⟩⟩

/-! ### Resets -/

/-- The workflows do not depend on the screen or on what the user has been told. -/
@[simp] theorem workflow_mk (s : Screen) (p : Panel) (n : NoticeLog) (w : WorkflowId) :
    ({ p with screen := s, notices := n } : Panel).workflow w = p.workflow w := by
  cases w <;> rfl

/-- A reset clears the workflow of the form that is reset. -/
theorem workflow_reset_self (p : Panel) (w : WorkflowId) :
    (p.reset w).value.workflow w = (p.workflow w).cleared := by
  cases w <;> rfl

/-- It leaves the other workflows alone. -/
theorem workflow_reset_of_ne (p : Panel) {v w : WorkflowId} (h : w ≠ v) :
    (p.reset v).value.workflow w = p.workflow w := by
  cases v <;> cases w <;> first | rfl | exact absurd rfl h

/-- The workflows after an operation are those that the operation by itself leaves behind. -/
theorem workflow_next (p : Panel) (op : Op) (w : WorkflowId) :
    (p.next op).workflow w = (p.act op).value.1.workflow w :=
  workflow_mk _ _ _ _

/-- It leaves the user on the screen. -/
theorem screen_reset (p : Panel) (w : WorkflowId) : (p.reset w).value.screen = p.screen := by
  cases w <;> rfl

/-! ### Completions -/

/-- Gives a result to the form of a workflow. -/
def complete (p : Panel) (w : WorkflowId) (ticket : UInt64) (r : Except RemoteError w.Value) :
    Traced (Panel × Resolution) :=
  match w with
  | .createWallet => do
    let (f, resolution) ← p.createWallet.complete ticket r
    return ({ p with createWallet := f }, resolution)
  | .importWallet => do
    let (f, resolution) ← p.importWallet.complete ticket r
    return ({ p with importWallet := f }, resolution)
  | .walletList => do
    let (l, resolution) ← p.walletList.complete ticket r
    return ({ p with walletList := l }, resolution)
  | .tokenCreator => do
    let (f, resolution) ← p.tokenCreator.complete ticket r
    return ({ p with tokenCreator := f }, resolution)
  | .contractWriter => do
    let (f, resolution) ← p.contractWriter.complete ticket r
    return ({ p with contractWriter := f }, resolution)

/-- A completion goes to the form of its workflow if its reply is of the kind that the workflow asks
for, and nowhere otherwise. -/
theorem apply_eq_complete {p : Panel} {c : Completion} {r : Except RemoteError c.workflow.Value}
    (h : c.result? c.workflow = some r) : p.apply c = p.complete c.workflow c.ticket r := by
  obtain ⟨w, t, reply⟩ := c
  rw [Completion.result?, if_pos rfl] at h
  cases w <;> cases reply <;> cases h <;> rfl

/-- A completion that has no result for its workflow is noted and dropped. -/
theorem apply_eq_misrouted {p : Panel} {c : Completion} (h : c.result? c.workflow = none) :
    p.apply c = (do
      Traced.emit (.misrouted c.workflow c.reply.operation)
      return (p, .stale)) := by
  obtain ⟨w, t, reply⟩ := c
  rw [Completion.result?, if_pos rfl] at h
  cases w <;> cases reply <;> first | rfl | cases h

/-- A form answers to a result as its workflow does. -/
theorem resolution_complete (p : Panel) (w : WorkflowId) (ticket : UInt64)
    (r : Except RemoteError w.Value) :
    (p.complete w ticket r).value.2 = (p.workflow w).resolution ticket r := by
  cases w <;> simp only [complete, workflow, CreateForm.complete, ImportForm.complete,
    WalletList.complete, TokenForm.complete, ContractForm.complete, Traced.value_bind,
    Traced.value_pure, value_settle]

/-- A form gives a result to its workflow. -/
theorem workflow_complete_self (p : Panel) (w : WorkflowId) (ticket : UInt64)
    (r : Except RemoteError w.Value) :
    (p.complete w ticket r).value.1.workflow w = (p.workflow w).settled ticket r := by
  cases w <;> simp only [complete, workflow, CreateForm.complete, ImportForm.complete,
    WalletList.complete, TokenForm.complete, ContractForm.complete, Traced.value_bind,
    Traced.value_pure, value_settle]

/-- The other workflows do not get it. -/
theorem workflow_complete_of_ne (p : Panel) {v w : WorkflowId} (h : w ≠ v) (ticket : UInt64)
    (r : Except RemoteError v.Value) :
    (p.complete v ticket r).value.1.workflow w = p.workflow w := by
  cases v <;> cases w <;> first | rfl | exact absurd rfl h

/-- A result that is not awaited leaves the panel as it is. -/
theorem value_complete_of_not_awaits {p : Panel} {w : WorkflowId} {ticket : UInt64}
    (h : ¬ (p.workflow w).Awaits ticket) (r : Except RemoteError w.Value) :
    (p.complete w ticket r).value = (p, .stale) := by
  have hs := Workflow.settled_of_not_awaits h r
  have hr := ((p.workflow w).resolution_eq_stale_iff ticket r).mpr h
  -- the import form empties its key only when a result was a success
  have hne : (Resolution.stale != Resolution.succeeded) = true := rfl
  cases w <;> simp only [workflow] at hs hr <;>
    simp [complete, CreateForm.complete, ImportForm.complete, WalletList.complete,
      TokenForm.complete, ContractForm.complete, hs, hr, hne]

/-- What the user is told when a request of a workflow has ended. -/
def outcome : WorkflowId → Outcome
  | .createWallet => CreateForm.outcome
  | .importWallet => ImportForm.outcome
  | .walletList => WalletList.outcome
  | .tokenCreator => TokenForm.outcome
  | .contractWriter => ContractForm.outcome

/-- What is noted of a result is what its workflow notes. -/
theorem events_complete (p : Panel) (w : WorkflowId) (ticket : UInt64)
    (r : Except RemoteError w.Value) :
    (p.complete w ticket r).events = (settle w (outcome w) (p.workflow w) ticket r).events := by
  cases w <;> simp only [complete, CreateForm.complete, ImportForm.complete, WalletList.complete,
    TokenForm.complete, ContractForm.complete, Traced.events_bind, Traced.events_pure,
    List.append_nil] <;> rfl

/-- **Dropped completions.** A completion that has no result for its workflow, or one that is not
awaited, is answered as stale and leaves the whole panel as it is, the log of notices included. -/
theorem step_apply_of_not_awaits {p : Panel} {c : Completion}
    (h : ∀ r, c.result? c.workflow = some r → ¬ (p.workflow c.workflow).Awaits c.ticket) :
    (p.step (.apply c)).value = (p, .resolution .stale) := by
  -- neither the forms nor the user get to know of the completion
  obtain ⟨hv, he⟩ : (p.apply c).value = (p, .stale) ∧
      (p.apply c).events.filterMap Event.announcement? = [] := by
    cases hc : c.result? c.workflow with
    | none =>
      rw [apply_eq_misrouted hc]
      exact ⟨rfl, rfl⟩
    | some r =>
      rw [apply_eq_complete hc, events_complete]
      exact ⟨value_complete_of_not_awaits (h r hc) r, announced_settle (h r hc) _ _ r⟩
  -- nothing was announced, so that the log of notices is the one before
  have hn : p.notices.record (p.act (.apply c)).events = p.notices := by
    have hev : (p.act (.apply c)).events = (p.apply c).events ++ [] := rfl
    rw [hev, List.append_nil, NoticeLog.record, he]
    rfl
  have ha : (p.act (.apply c)).value = ((p.apply c).value.1, .resolution (p.apply c).value.2) := rfl
  unfold step
  dsimp only
  rw [hn, ha, hv]

/-- A completion that is awaited is taken as its result says. -/
theorem step_apply_of_awaits {p : Panel} {c : Completion} {r : Except RemoteError c.workflow.Value}
    (hr : c.result? c.workflow = some r) (h : (p.workflow c.workflow).Awaits c.ticket) :
    (p.entry (.apply c)).answer = .resolution (.ofResult r) ∧
      (p.next (.apply c)).workflow c.workflow
        = { p.workflow c.workflow with state := .ofResult r } := by
  have ha : (p.step (.apply c)).value
      = ({ (p.apply c).value.1 with notices := (p.next (.apply c)).notices },
        .resolution (p.apply c).value.2) := rfl
  unfold next entry
  rw [ha, apply_eq_complete hr]
  refine ⟨?_, ?_⟩
  · -- the answer
    rw [resolution_complete, Workflow.resolution, if_pos h]
  · -- the workflow
    have hw := workflow_complete_self p c.workflow c.ticket r
    rw [Workflow.settled, if_pos h] at hw
    rw [← hw]
    exact workflow_mk _ _ _ _

/-! ### The case analysis -/

/-- An operation that asks `v` for a request and has left `w` alone until then. -/
theorem Asks.stepCase {p p' q : Panel} {v w : WorkflowId} {d : Option Dispatch} {op : Op}
    (h : Asks p' q v d) (hp : p'.workflow w = p.workflow w)
    (hq : (p.next op).workflow w = q.workflow w) (ha : (p.entry op).answer = .dispatch d)
    (hg : (p.entry op).givenUp? ≠ some w) (hop : ∀ c, op ≠ .apply c) : StepCase p op w := by
  have hr : (p.entry op).requestOf? w = d.filter (·.workflow = w) := by
    rw [Entry.requestOf?, Entry.request?, ha]
  by_cases hw : w = v
  · -- the workflow that was asked: a request went out for it or nothing happened
    subst hw
    rcases h.asked with ⟨rfl, hk⟩ | ⟨e, rfl, he, hkind, ht, hs⟩
    · exact .untouched hr hg (fun c _ hc => absurd hc (hop c)) (hq.trans (hk.trans hp))
    · refine .requested e ?_ hkind hg (by rw [ht, hp]) (hq.trans hs)
      rw [hr, Option.filter_some, if_pos (decide_eq_true he)]
  · -- another workflow: a request that went out is not of this one
    refine .untouched ?_ hg (fun c _ hc => absurd hc (hop c)) (hq.trans ((h.others w hw).trans hp))
    rcases h.asked with ⟨rfl, -⟩ | ⟨e, rfl, he, -⟩
    · exact hr
    · rw [hr, Option.filter_some, if_neg]
      simpa [he] using Ne.symm hw

/-- An operation that has nothing to do with requests, results and resets. -/
theorem stepCase_of_idle {p : Panel} {op : Op} {w : WorkflowId}
    (hr : (p.entry op).request? = none) (hg : (p.entry op).givenUp? ≠ some w)
    (hop : ∀ c, op ≠ .apply c) (hq : (p.next op).workflow w = p.workflow w) :
    StepCase p op w :=
  .untouched (by rw [Entry.requestOf?, hr]; rfl) hg (fun c _ hc => absurd hc (hop c)) hq

/-- The panel on its way to another screen: the form of the screen that is left has been reset. -/
def departed (p : Panel) (target : Screen) : Panel :=
  { (p.reset p.screen.workflow).value with screen := target }

/-- To go to another screen is to leave the one and enter the other. -/
theorem value_navigate_of_ne {p : Panel} {target : Screen} (h : target ≠ p.screen) :
    (p.navigate target).value = ((p.departed target).enter target).value := by
  unfold navigate
  rw [if_neg h]
  rfl

/-- Whoever leaves a screen gives up what its form has come to. -/
theorem workflow_departed_self (p : Panel) (target : Screen) :
    (p.departed target).workflow p.screen.workflow = (p.workflow p.screen.workflow).cleared := by
  rw [← workflow_reset_self]
  exact workflow_mk _ _ _ _

/-- The forms of other screens are left alone. -/
theorem workflow_departed_of_ne (p : Panel) (target : Screen) {w : WorkflowId}
    (h : w ≠ p.screen.workflow) : (p.departed target).workflow w = p.workflow w := by
  rw [← workflow_reset_of_ne p h]
  exact workflow_mk _ _ _ _

/-- A screen other than the dashboard makes no request when it is entered. -/
theorem value_enter_of_ne (p : Panel) {s : Screen} (h : s ≠ .dashboard) :
    (p.enter s).value = (p, none) := by
  cases s with
  | dashboard => exact absurd rfl h
  | _ => rfl

/-- Going to another screen gives up what its form has come to, and asks for nothing in its
place. -/
theorem asks_navigate_of_ne {p : Panel} {target : Screen} (h : target ≠ p.screen) :
    (p.navigate target).value.1.workflow p.screen.workflow
        = (p.workflow p.screen.workflow).cleared ∧
      ∀ d, (p.navigate target).value.2 = some d → d.workflow ≠ p.screen.workflow := by
  rw [value_navigate_of_ne h, ← workflow_departed_self p target]
  by_cases ht : target = .dashboard
  · -- the list is asked for, which is not the workflow of the screen that is left
    have hs : p.screen.workflow ≠ .walletList := by
      rw [Ne, Screen.workflow_eq_walletList_iff]
      exact fun hs => h (ht.trans hs.symm)
    have ha := (p.departed target).asks_enter target
    refine ⟨ha.others _ hs, fun d hd => ?_⟩
    rcases ha.asked with ⟨hn, -⟩ | ⟨e, he, hv, -⟩
    · rw [hn] at hd; cases hd
    · rw [he] at hd
      cases hd
      rw [hv]
      exact hs.symm
  · rw [value_enter_of_ne _ ht]
    exact ⟨rfl, fun d hd => by cases hd⟩

/-- To go to another screen is one of the four cases, for the screen that is left and for all
others. -/
theorem stepCase_navigate {p : Panel} {target : Screen} (h : target ≠ p.screen) (w : WorkflowId) :
    StepCase p (.navigate target) w := by
  have hq : (p.next (.navigate target)).workflow w = (p.navigate target).value.1.workflow w :=
    workflow_next p _ w
  have hr : (p.entry (.navigate target)).requestOf? w
      = (p.navigate target).value.2.filter (·.workflow = w) := rfl
  have hl : (p.entry (.navigate target)).givenUp? = some p.screen.workflow := if_neg h
  by_cases hw : w = p.screen.workflow
  · -- the form of the screen that is left
    subst hw
    obtain ⟨hc, hd⟩ := asks_navigate_of_ne h
    refine .givenUp ?_ hl (hq.trans hc)
    rw [hr, Option.filter_eq_none_iff]
    exact fun d he hv => hd d he (of_decide_eq_true hv)
  · have ha := (p.departed target).asks_enter target
    rw [← value_navigate_of_ne h] at ha
    refine ha.stepCase (workflow_departed_of_ne p target hw) hq rfl ?_ (by simp)
    rw [hl]
    exact fun he => hw (Option.some.inj he).symm

/-- A completion settles the request under way, or nothing happens. -/
theorem stepCase_apply (p : Panel) (c : Completion) (w : WorkflowId) :
    StepCase p (.apply c) w := by
  have hg : (p.entry (.apply c)).givenUp? ≠ some w := nofun
  -- there is something to settle exactly if the completion brings a result that `w` awaits
  by_cases hc : ∃ r, c.result? w = some r ∧ (p.workflow w).Awaits c.ticket
  · obtain ⟨r, hr, hw⟩ := hc
    have hcw := Completion.workflow_of_result? hr
    subst hcw
    exact .settled c r rfl hr hw (step_apply_of_awaits hr hw).2
  · have hd : ∀ r, c.result? w = some r → ¬ (p.workflow w).Awaits c.ticket :=
      fun r hr hw => hc ⟨r, hr, hw⟩
    refine .untouched rfl hg (fun c' r h hr => ?_) ?_
    · cases h
      exact hd r hr
    · by_cases hcw : c.workflow = w
      · subst hcw
        have hs := step_apply_of_not_awaits hd
        rw [next, hs]
      · -- a completion for another workflow
        have hn : (p.next (.apply c)).workflow w = (p.apply c).value.1.workflow w :=
          workflow_next p _ w
        rw [hn]
        cases hr : c.result? c.workflow with
        | none => rw [apply_eq_misrouted hr]; rfl
        | some r =>
          rw [apply_eq_complete hr]
          exact workflow_complete_of_ne p (Ne.symm hcw) _ _

/-- **What an operation does to a workflow.** Every operation falls under one of the four cases, for
each of the workflows. -/
theorem step_cases (p : Panel) (op : Op) (w : WorkflowId) : StepCase p op w := by
  have hn : (none : Option WorkflowId) ≠ some w := nofun
  cases op with
  | start => exact (p.asks_enter p.screen).stepCase rfl (workflow_next p _ w) rfl hn (by simp)
  | navigate target =>
    by_cases ht : target = p.screen
    · -- to go where one is enters the screen again without a reset
      have hnav : p.navigate target = p.enter target := if_pos ht
      have hg := givenUp?_entry_navigate_self ht
      have ha := p.asks_enter target
      rw [← hnav] at ha
      exact ha.stepCase rfl (workflow_next p _ w) rfl (hg ▸ hn) (by simp)
    · exact stepCase_navigate ht w
  | submit v => exact (p.asks_submit v).stepCase rfl (workflow_next p _ w) rfl hn (by simp)
  | edit field text =>
    refine stepCase_of_idle rfl hn (by simp) ?_
    cases field <;> cases w <;> rfl
  | reset v =>
    by_cases hw : w = v
    · subst hw
      refine .givenUp rfl rfl ?_
      rw [← workflow_reset_self]
      exact workflow_next p _ w
    · refine stepCase_of_idle rfl (fun he => hw (Option.some.inj he).symm) (by simp) ?_
      rw [← workflow_reset_of_ne p hw]
      exact workflow_next p _ w
  | toggleReveal =>
    refine stepCase_of_idle rfl hn (by simp) ?_
    have hf : p.createWallet.toggleReveal.workflow = p.createWallet.workflow := by
      unfold CreateForm.toggleReveal
      split <;> rfl
    cases w <;> first | rfl | exact hf
  | selectExample index =>
    refine stepCase_of_idle rfl hn (by simp) ?_
    have hf : (p.contractWriter.selectExample index).1.workflow = p.contractWriter.workflow := by
      unfold ContractForm.selectExample
      split <;> rfl
    cases w <;> first | rfl | exact hf
  | copy target => exact stepCase_of_idle rfl hn (by simp) (workflow_next p _ w)
  | apply c => exact stepCase_apply p c w
  | finishCopy outcome => exact stepCase_of_idle rfl hn (by simp) (workflow_next p _ w)

end Panel
end WalletPanel
