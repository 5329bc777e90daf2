import Mathlib.Control.Traversable.Basic
import WalletPanel.Proofs.Panel.Workflows
import WalletPanel.Http.Exchange
import WalletPanel.Remote.Gateway

/-!
# What carrying out a request can bring

A request that has gone out is carried out somewhere else, through a gateway of which the panel
knows nothing. What can come back for it (`Dispatch.Completes`) is therefore said with an arbitrary
gateway, and comes to this (`Dispatch.completes_iff`): the workflow and the ticket are those of the
request, and the reply is of the kind that belongs to its call.
-/

namespace WalletPanel

/-- A completion that comes of carrying out a request through some gateway. -/
def Dispatch.Completes (d : Dispatch) (c : Completion) : Prop :=
  ∃ gateway : Gateway Id, (show Traced Completion from d.run gateway).value = c

/-- Whatever the gateway, the reply to a call is of the call's kind. -/
theorem RemoteCall.operation_reply (gateway : Gateway Id) (call : RemoteCall) :
    (show RemoteReply from call.reply gateway).operation = call.operation := by
  cases call <;> rfl

/-- The gateway that has one reply for the calls of its kind, and an error for all others. -/
def Gateway.always (reply : RemoteReply) : Gateway Id where
  createWallet _ := match reply with
    | .createdWallet r => r
    | _ => .error ⟨""⟩
  importWallet _ _ := match reply with
    | .importedWallet r => r
    | _ => .error ⟨""⟩
  listWallets := match reply with
    | .wallets r => r
    | _ => .error ⟨""⟩
  createToken _ := match reply with
    | .token r => r
    | _ => .error ⟨""⟩
  generateContract _ := match reply with
    | .contract r => r
    | _ => .error ⟨""⟩

/-- Its reply to a call of the right kind is the one that it has. -/
theorem RemoteCall.reply_always {call : RemoteCall} {reply : RemoteReply}
    (h : reply.operation = call.operation) :
    (show RemoteReply from call.reply (Gateway.always reply)) = reply := by
  -- a reply of another kind is excluded by `h`
  cases call <;> cases reply <;> first | rfl | cases h

/-- A completion belongs to a request if it has its workflow, its ticket and a reply of the kind of
its call; nothing else is known of what comes back. -/
theorem Dispatch.completes_iff (d : Dispatch) (c : Completion) :
    d.Completes c ↔
      c.workflow = d.workflow ∧ c.ticket = d.ticket ∧ c.reply.operation = d.call.operation := by
  constructor
  · rintro ⟨gateway, rfl⟩
    exact ⟨rfl, rfl, d.call.operation_reply gateway⟩
  · -- some gateway gives this reply
    obtain ⟨w, t, reply⟩ := c
    rintro ⟨rfl, rfl, hr⟩
    have hc := RemoteCall.reply_always hr
    refine ⟨Gateway.always reply, ?_⟩
    change d.complete (show RemoteReply from d.call.reply (Gateway.always reply)) = _
    rw [hc]
    rfl

instance (d : Dispatch) (c : Completion) : Decidable (d.Completes c) :=
  decidable_of_iff _ (d.completes_iff c).symm

/-- What carrying out a request brings has a result for the workflow of the request. -/
theorem Dispatch.Completes.exists_result {d : Dispatch} {c : Completion} (h : d.Completes c)
    {w : WorkflowId} (hw : d.workflow = w) (hd : d.call.operation = w.operation) :
    ∃ r, c.result? w = some r := by
  obtain ⟨hcw, -, hr⟩ := (d.completes_iff c).mp h
  have hs : (c.reply.result? w).isSome = true := by
    rw [RemoteReply.isSome_result?_iff, hr, hd]
  rw [Completion.result?, if_pos (hcw.trans hw)]
  exact Option.isSome_iff_exists.mp hs

/-! ### Calls that are carried out bit by bit -/

/-- Whatever comes of its requests, an exchange ends with a value that satisfies `P`. -/
def Http.Exchange.All (P : α → Prop) : Http.Exchange α → Prop
  | done value => P value
  | ask _ next => ∀ arrival, (next arrival).All P

/-- If `f` gives nothing but what satisfies `P`, an exchange followed by it ends so. -/
theorem Http.Exchange.all_map {P : β → Prop} {f : α → β} (h : ∀ a, P (f a))
    (x : Http.Exchange α) : (f <$> x).All P := by
  induction x with
  | done value => exact h value
  | ask request next ih => exact fun arrival => ih arrival

/-- What holds of the end of an exchange is carried along by a function. -/
theorem Http.Exchange.All.map {P : α → Prop} {Q : β → Prop} {f : α → β} {x : Http.Exchange α}
    (hx : x.All P) (h : ∀ a, P a → Q (f a)) : (f <$> x).All Q := by
  induction x with
  | done value => exact h value hx
  | ask request next ih => exact fun arrival => ih arrival (hx arrival)

/-- Whatever comes of its requests, the reply to a call is of the call's kind. -/
theorem RemoteCall.all_reply (gateway : Gateway Http.Exchange) (call : RemoteCall) :
    (call.reply gateway).All fun reply => reply.operation = call.operation := by
  cases call <;> refine Http.Exchange.all_map ?_ _ <;> exact fun _ => rfl

/-- Whatever comes of the requests that are sent for it, a call ends with a completion of its own.
-/
theorem Dispatch.all_run (gateway : Gateway Http.Exchange) (d : Dispatch) :
    (d.run gateway).All fun c => d.Completes c.value := by
  have hcall : (d.call.execute gateway).All fun r => r.value.operation = d.call.operation :=
    (d.call.all_reply gateway).map fun _ h => h
  exact hcall.map fun r h => (d.completes_iff _).mpr ⟨rfl, rfl, h⟩

end WalletPanel
