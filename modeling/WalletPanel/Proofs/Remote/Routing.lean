import WalletPanel.Proofs.Panel.Tracking
import WalletPanel.Proofs.Remote.Requests

/-!
# A reply gets to the form that asked for it

The way of a request and its reply is given by three tables: which call a form makes, which function
of the gateway a call uses and of which kind its reply is, and which form takes a reply. Each is
written by itself, and two of the replies carry the same type of value, so that nothing but the
tables keeps the forms apart. This module shows that they fit together for every request that a
panel makes.

* `run_recording` — carrying out a request calls one function of the gateway, once, with the
  arguments of the call. This is seen by a gateway that keeps a record (`Gateway.recording`).
* `Dispatch.Routed` — the function is that of the request's workflow, and what it gives comes back
  to this workflow under the ticket of the request, in a reply that the panel takes there.
* `run_comes_back` — every request that a panel makes is of this sort, and what comes of it is taken
  as long as the history waits for the request.
-/

namespace WalletPanel

/-! ### Invocations of a gateway -/

/-- The type of what a function of the gateway is called with. -/
@[reducible] def Operation.Arguments : Operation → Type
  | createWallet => String
  | importWallet => PrivateKey × String
  | listWallets => Unit
  | createToken => TokenSpec
  | generateContract => ContractRequest

/-- A function of the gateway with what it is called with. -/
structure Invocation where
  operation : Operation
  arguments : operation.Arguments

namespace Gateway

variable {m : Type → Type}

/-- Calls a function of the gateway. -/
def invoke (gateway : Gateway m) :
    (i : Invocation) → m (Except RemoteError i.operation.Value)
  | ⟨.createWallet, name⟩ => gateway.createWallet name
  | ⟨.importWallet, key, name⟩ => gateway.importWallet key name
  | ⟨.listWallets, ()⟩ => gateway.listWallets
  | ⟨.createToken, spec⟩ => gateway.createToken spec
  | ⟨.generateContract, request⟩ => gateway.generateContract request

/-- Writes an invocation to the record, and then does what it comes to. -/
def recorded [Monad m] (i : Invocation) (x : m α) : StateT (List Invocation) m α := do
  modify (· ++ [i])
  x

/-- A gateway that keeps a record of its invocations, the oldest first. -/
def recording [Monad m] (gateway : Gateway m) : Gateway (StateT (List Invocation) m) where
  createWallet name := recorded ⟨.createWallet, name⟩ (gateway.createWallet name)
  importWallet key name := recorded ⟨.importWallet, key, name⟩ (gateway.importWallet key name)
  listWallets := recorded ⟨.listWallets, ()⟩ gateway.listWallets
  createToken spec := recorded ⟨.createToken, spec⟩ (gateway.createToken spec)
  generateContract request :=
    recorded ⟨.generateContract, request⟩ (gateway.generateContract request)

/-- What is done with a record ends with the invocation behind what was recorded before. -/
theorem run_recorded [Monad m] [LawfulMonad m] (i : Invocation) (x : m α)
    (record : List Invocation) :
    (recorded i x).run record = (fun a => (a, record ++ [i])) <$> x := by
  simp [recorded]

/-- A gateway that keeps a record does what it would do without one. -/
theorem invoke_recording [Monad m] [LawfulMonad m] (gateway : Gateway m) (i : Invocation) :
    gateway.recording.invoke i = recorded i (gateway.invoke i) := by
  obtain ⟨operation, arguments⟩ := i
  cases operation <;> rfl

end Gateway

/-! ### From a call to its reply -/

/-- What a call calls a function of the gateway with. -/
def RemoteCall.invocation : RemoteCall → Invocation
  | createWallet request => ⟨.createWallet, request.name⟩
  | importWallet request => ⟨.importWallet, request.privateKey, request.name⟩
  | listWallets => ⟨.listWallets, ()⟩
  | createToken spec => ⟨.createToken, spec⟩
  | generateContract request => ⟨.generateContract, request⟩

/-- The function that is called is the one of the call's operation. -/
theorem RemoteCall.operation_invocation (call : RemoteCall) :
    call.invocation.operation = call.operation := by
  cases call <;> rfl

/-- The reply to a call has what its function of the gateway gives. -/
theorem RemoteCall.reply_eq_invoke {m : Type → Type} [Functor m] (gateway : Gateway m)
    (call : RemoteCall) :
    call.reply gateway
      = call.invocation.operation.reply <$> gateway.invoke call.invocation := by
  cases call <;> rfl

namespace Dispatch

/-- What goes back for a request when its function of the gateway has given a result. -/
def completionOf (d : Dispatch)
    (result : Except RemoteError d.call.invocation.operation.Value) : Completion :=
  d.complete (d.call.invocation.operation.reply result)

section

variable {m : Type → Type} [Monad m] [LawfulMonad m]

/-- Carrying out a request is the invocation of its call, and nothing else. -/
theorem run_eq_invoke (gateway : Gateway m) (d : Dispatch) :
    d.run gateway = (fun result => ⟨d.completionOf result, [.executing d.call.operation]⟩)
      <$> gateway.invoke d.call.invocation := by
  unfold run RemoteCall.execute
  rw [RemoteCall.reply_eq_invoke, Functor.map_map, Functor.map_map]
  rfl

/-- Carrying out a request calls one function of the gateway, once, with what the call has for
it. -/
theorem run_recording (gateway : Gateway m) (d : Dispatch) (record : List Invocation) :
    (d.run gateway.recording).run record
      = (fun done => (done, record ++ [d.call.invocation])) <$> d.run gateway := by
  rw [run_eq_invoke, run_eq_invoke, StateT.run_map, Gateway.invoke_recording,
    Gateway.run_recorded, Functor.map_map, Functor.map_map]

end

end Dispatch

/-! ### From a reply to its form -/

/-- A form takes the reply of the operation that its workflow uses, with the result that is in
it. -/
theorem Operation.result?_reply {o : Operation} {w : WorkflowId} (h : o = w.operation)
    (result : Except RemoteError o.Value) :
    ∃ r, (o.reply result).result? w = some r ∧ Resolution.ofResult r = .ofResult result := by
  subst h
  cases w <;> exact ⟨result, rfl, rfl⟩

/-- Taking a result is no matter of routing. -/
theorem misrouted_notMem_settle (id : WorkflowId) (outcome : Outcome) (w : Workflow α)
    (ticket : UInt64) (result : Except RemoteError α) (v : WorkflowId) (o : Operation) :
    .misrouted v o ∉ (settle id outcome w ticket result).events := by
  unfold settle Workflow.resolve
  -- the journal of a result has what came of it or that it was dropped
  by_cases h : ticket = w.generation ∧ w.state.isSubmitting = true
  · rw [if_pos h]
    cases result <;> simp [Workflow.note, Phase.after]
  · rw [if_neg h]
    simp

/-- **A request that finds its way.** It calls the function of its own workflow, and what that gives
comes back to the form that has asked for it. -/
structure Dispatch.Routed (d : Dispatch) : Prop where
  /-- The function that is called is the one that the workflow uses. -/
  operation : d.call.invocation.operation = d.workflow.operation
  /-- It is called once and with what the call has for it, and no other function is called. -/
  once : ∀ {m : Type → Type} [Monad m] [LawfulMonad m] (gateway : Gateway m)
    (record : List Invocation), (d.run gateway.recording).run record
      = (fun done => (done, record ++ [d.call.invocation])) <$> d.run gateway
  /-- What goes back is what the function has given. -/
  result : ∀ {m : Type → Type} [Monad m] [LawfulMonad m] (gateway : Gateway m),
    d.run gateway = (fun result => ⟨d.completionOf result, [.executing d.call.operation]⟩)
      <$> gateway.invoke d.call.invocation
  /-- It goes back to the workflow of the request, under its ticket. -/
  address : ∀ result, (d.completionOf result).workflow = d.workflow ∧
    (d.completionOf result).ticket = d.ticket
  /-- The panel takes it there, whatever has become of the panel in the meantime. -/
  accepted : ∀ (result) (p : Panel), ∃ r, (d.completionOf result).result? d.workflow = some r ∧
    Resolution.ofResult r = .ofResult result ∧
    p.apply (d.completionOf result) = p.complete d.workflow d.ticket r ∧
    ∀ w o, .misrouted w o ∉ (p.apply (d.completionOf result)).events

/-- A request finds its way if its call is one of its workflow. -/
theorem Dispatch.routed_of_operation {d : Dispatch} (h : d.call.operation = d.workflow.operation) :
    d.Routed := by
  have hop : d.call.invocation.operation = d.workflow.operation :=
    d.call.operation_invocation.trans h
  refine ⟨hop, fun gateway record => d.run_recording gateway record,
    fun gateway => d.run_eq_invoke gateway, fun _ => ⟨rfl, rfl⟩, fun result p => ?_⟩
  obtain ⟨r, hr, hres⟩ := Operation.result?_reply hop result
  -- the workflow is the right one, so that the result in the reply is looked for
  have hc : (d.completionOf result).result? d.workflow = some r := (if_pos rfl).trans hr
  have happly : p.apply (d.completionOf result) = p.complete d.workflow d.ticket r :=
    Panel.apply_eq_complete hc
  refine ⟨r, hc, hres, happly, fun w o => ?_⟩
  rw [happly, Panel.events_complete]
  exact misrouted_notMem_settle _ _ _ _ _ w o

namespace Panel

/-! ### Requests of a panel -/

/-- What comes of a request is taken for what it is, as long as the history waits for the
request. -/
theorem answer_of_outstanding {ops : List Op} {n : Nat} {d : Dispatch} (hd : d.Routed)
    (ho : Outstanding d.workflow (broughtByTicket d.workflow) (start.history ops) (n, d)) (result) :
    ((start.after ops).step (.apply (d.completionOf result))).value.2
      = .resolution (.ofResult result) := by
  have ht := tracked_run ops d.workflow
  -- the workflow is busy, since the history waits for a request
  have hs : ((start.after ops).workflow d.workflow).state = .submitting := by
    rw [ht.state]
    exact stateBy_eq_submitting_iff.mpr ⟨_, ho⟩
  -- the ticket of a request that is waited for is the current one
  have haw : ((start.after ops).workflow d.workflow).Awaits d.ticket :=
    ⟨ht.ticket n d ho.last ho.kept, hs⟩
  obtain ⟨r, hr, hres, -⟩ := hd.accepted result (start.after ops)
  rw [← hres]
  exact (step_apply_of_awaits hr haw).1

/-- A request that an operation has answered with is one of its workflow. -/
theorem requestOf?_of_dispatch {p : Panel} {op : Op} {d : Dispatch}
    (hd : (p.step op).value.2 = .dispatch (some d)) :
    (p.entry op).requestOf? d.workflow = some d := by
  have hr : (p.entry op).request? = some d := by
    unfold Entry.request? entry
    rw [hd]
  rw [Entry.requestOf?, hr, Option.filter_some, if_pos (decide_eq_true rfl)]

/-- **What a request brings comes back to its form.** Whatever has been done to a panel, a request
that it makes finds its way through every gateway and back. From then on the history waits for it
until its workflow makes another request, gives it up or gets a result for it; and so long what
comes of it is taken as a success or a failure, as it is one, and never dropped. -/
theorem run_comes_back {ops : List Op} {op : Op} {d : Dispatch}
    (hd : ((start.after ops).step op).value.2 = .dispatch (some d)) :
    d.Routed ∧
      Outstanding d.workflow (broughtByTicket d.workflow) (start.history (ops ++ [op]))
        (ops.length, d) ∧
      ∀ more, Outstanding d.workflow (broughtByTicket d.workflow)
          (start.history (ops ++ op :: more)) (ops.length, d) → ∀ result,
        ((start.after (ops ++ op :: more)).step (.apply (d.completionOf result))).value.2
          = .resolution (.ofResult result) := by
  have hasked := requestOf?_of_dispatch hd
  obtain ⟨hkind, -, -⟩ := request_of_getElem? (getElem?_history_concat start ops op) hasked
  have hrouted := Dispatch.routed_of_operation hkind
  refine ⟨hrouted, ?_, fun more ho result => answer_of_outstanding hrouted ho result⟩
  rw [history_concat, ← length_history start ops]
  exact outstanding_concat hasked

/-- A wallet is named and its key put in. -/
def filledImport : List Op :=
  [.navigate .importWallet, .edit .importName "savings", .edit .importKey "0a1b"]

/-- The request to import the wallet. -/
def importRequest : Dispatch := ⟨.importWallet, 1, .importWallet ⟨⟨"0a1b"⟩, "savings"⟩⟩

/-- The backend is asked once, for the key under the name, and its refusal is taken as a failure,
also after the button has been pressed again. -/
theorem filledImport_comes_back :
    ((start.after filledImport).step (.submit .importWallet)).value.2
        = .dispatch (some importRequest) ∧
      (importRequest.run (Gateway.always (.importedWallet (.error ⟨"refused"⟩))).recording).run []
        = ((⟨⟨.importWallet, 1, .importedWallet (.error ⟨"refused"⟩)⟩,
            [.executing .importWallet]⟩ : Traced Completion),
          [⟨.importWallet, ⟨"0a1b"⟩, "savings"⟩]) ∧
      ((start.after (filledImport ++ [.submit .importWallet, .submit .importWallet])).step
          (.apply ⟨.importWallet, 1, .importedWallet (.error ⟨"refused"⟩)⟩)).value.2
        = .resolution .failed := by
  have hd : ((start.after filledImport).step (.submit .importWallet)).value.2
      = .dispatch (some importRequest) := by
    rfl
  obtain ⟨hrouted, -, hlive⟩ := run_comes_back hd
  -- nothing has come in since the call, and the second submission was turned away
  have ho : Outstanding .importWallet (broughtByTicket .importWallet)
      (start.history (filledImport ++ [.submit .importWallet, .submit .importWallet]))
      (filledImport.length, importRequest) := by
    refine ⟨?_, ?_, ?_⟩
    · decide +kernel
    · decide +kernel
    · rfl
  exact ⟨hd, hrouted.once _ [], hlive [.submit .importWallet] ho (.error ⟨"refused"⟩)⟩

end Panel

end WalletPanel
