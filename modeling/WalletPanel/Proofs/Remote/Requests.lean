import WalletPanel.Proofs.Wire.Values
import WalletPanel.Remote.Client

/-!
# What a call sends and what it brings

A call over HTTP is one exchange with the backend, or none where the backend's URL names no server.
This module says which request that is, and which answers bring a value. The request is stated for
the backend that gets it: its method and path are those of the operation's row in a table
(`Operation.row`), and its body, read by someone who knows nothing of the panel, is the object of
the call's own arguments (`RemoteCall.Asks`). The reply is stated by what came of the request: it
has a value exactly if a response came with success and a body that is the wire form of that value,
and names the path otherwise (`RemoteCall.Gets`). `execute_follows_contract` puts the two together
for every backend, call and server.
-/

namespace WalletPanel

open Wire (Value)

/-! ### Operations -/

/-- The row of an operation: the method and the path of its requests. -/
def Operation.row : Operation → Http.Method × String
  | createWallet => (.post, "/wallet/create")
  | importWallet => (.post, "/wallet/import")
  | listWallets => (.get, "/wallets")
  | createToken => (.post, "/token/create")
  | generateContract => (.post, "/contract/generate")

/-- The type of the values that an operation brings. -/
@[reducible] def Operation.Value : Operation → Type
  | createWallet => CreatedWallet
  | importWallet => WalletRecord
  | listWallets => List WalletRecord
  | createToken => GeneratedToken
  | generateContract => GeneratedContract

/-- How the value of an operation is read from a body. -/
def Operation.parse : (o : Operation) → String → Except Wire.Error o.Value
  | createWallet => CreatedWallet.parse
  | importWallet => WalletRecord.schema.parse
  | listWallets => WalletRecord.parseList
  | createToken => GeneratedToken.schema.parse
  | generateContract => GeneratedContract.schema.parse

/-- The reply of an operation with a result. -/
def Operation.reply : (o : Operation) → Except RemoteError o.Value → RemoteReply
  | createWallet, result => .createdWallet result
  | importWallet, result => .importedWallet result
  | listWallets, result => .wallets result
  | createToken, result => .token result
  | generateContract, result => .contract result

/-- The path that is sent to is the one in the row. -/
theorem Operation.path_eq (o : Operation) : o.path = o.row.2 := by
  cases o <;> rfl

/-- The members of a call's body: its own arguments, each under its key. A list has no arguments. -/
def RemoteCall.members? : RemoteCall → Option (List (String × Value))
  | createWallet r => some [("name", .text r.name)]
  | importWallet r =>
    some [("private_key", .text r.privateKey.expose), ("name", .text r.name)]
  | listWallets => none
  | createToken t =>
    some [("name", .text t.name), ("symbol", .text t.symbol),
      ("total_supply", .number (.natural t.totalSupply.toNat)),
      ("decimals", .number (.natural t.decimals.toNat))]
  | generateContract r => some [("description", .text r.description)]

/-- How deeply a value may nest for a reader who takes any. -/
def bodyDepth : Nat := 127

/-! ### The contract -/

namespace RemoteCall

/-- **What a request asks of a backend.** It is the request for a call if it has the method of the
call's row, goes to the path of that row at the backend, and has the call's arguments in its body,
or no body if there are none. -/
structure Asks (call : RemoteCall) (b : Backend) (r : Http.Request) : Prop where
  method : r.method = call.operation.row.1
  target : Http.target? (b.urlOf call.operation.row.2) = some r.target
  contentType : r.contentType = call.members?.map fun _ => "application/json"
  body : match call.members? with
    | some members => (Wire.Reader.value bodyDepth).run r.body.toList = .ok (.object members)
    | none => r.body = ""

/-- **What a call gets** by what came of its request: a reply of its own kind. The reply has a value
exactly if a response came in full whose status means success and whose whole body is the wire form
of the value; in all other cases it has an error that begins with the path. -/
def Gets (call : RemoteCall) (arrival : Http.Arrival) (reply : RemoteReply) : Prop :=
  ∃ result : Except RemoteError call.operation.Value, reply = call.operation.reply result ∧
    (∀ v, result = .ok v ↔ ∃ r text, arrival = .response r ∧
      200 ≤ r.status ∧ r.status ≤ 299 ∧ r.text = .ok text ∧
      call.operation.parse text = .ok v) ∧
    ∀ e, result = .error e → ∃ said, e.detail = call.operation.row.2 ++ ": " ++ said

end RemoteCall

/-! ### Requests -/

namespace RemoteCall

/-- The body of a call is read as the object of its arguments. -/
theorem value_body (call : RemoteCall) :
    (call.body? = none ∧ call.members? = none ∧ call.operation.row.1 = .get) ∨
    ∃ written members, call.body? = some written ∧ call.members? = some members ∧
      call.operation.row.1 = .post ∧
      (Wire.Reader.value bodyDepth).run written = .ok (.object members) := by
  cases call with
  | listWallets => exact Or.inl ⟨rfl, rfl, rfl⟩
  | createWallet r =>
    exact Or.inr ⟨_, _, rfl, rfl, rfl, CreateWalletRequest.schema.value_write r 126⟩
  | importWallet r =>
    exact Or.inr ⟨_, _, rfl, rfl, rfl, ImportWalletRequest.schema.value_write r 126⟩
  | createToken t => exact Or.inr ⟨_, _, rfl, rfl, rfl, TokenSpec.schema.value_write t 126⟩
  | generateContract r =>
    exact Or.inr ⟨_, _, rfl, rfl, rfl, ContractRequest.schema.value_write r 126⟩

/-- The request that a backend's client makes for a call is the one for that call. -/
theorem asks_of_request? {call : RemoteCall} {b : Backend} {r : Http.Request}
    (h : b.request? call.operation call.body? = some r) : call.Asks b r := by
  unfold Backend.request? at h
  rw [call.operation.path_eq] at h
  obtain ⟨target, ht, hr⟩ := Option.map_eq_some_iff.mp h
  rcases call.value_body with ⟨hb, hm, hget⟩ | ⟨written, members, hb, hm, hpost, hv⟩
  · -- no arguments, and so no body and no type of it
    rw [hb] at hr
    subst hr
    exact ⟨hget.symm, ht, by rw [hm]; rfl, by rw [hm]⟩
  · -- a body, with the arguments of the call
    rw [hb] at hr
    subst hr
    refine ⟨hpost.symm, ht, by rw [hm]; rfl, ?_⟩
    rw [hm]
    dsimp only
    rw [String.toList_ofList]
    exact hv

/-- A client makes a request exactly if the URL names a server. -/
theorem isSome_request? (call : RemoteCall) (b : Backend) :
    (b.request? call.operation call.body?).isSome
      = (Http.target? (b.urlOf call.operation.row.2)).isSome := by
  unfold Backend.request?
  rw [Option.isSome_map, call.operation.path_eq]

/-! ### Replies -/

/-- A response brings a value exactly if it means success and its body is the value's wire form. -/
theorem value_eq_ok_iff {α : Type} (parse : String → Except Wire.Error α) (arrival : Http.Arrival)
    (v : α) : arrival.value parse = .ok v ↔ ∃ r text, arrival = .response r ∧
      200 ≤ r.status ∧ r.status ≤ 299 ∧ r.text = .ok text ∧ parse text = .ok v := by
  cases arrival with
  | nothing said => exact ⟨nofun, fun ⟨_, _, h, _⟩ => nomatch h⟩
  | response r =>
    -- success is a status from 200 to 299
    have hs : Http.isSuccess r.status = true ↔ 200 ≤ r.status ∧ r.status ≤ 299 := by
      unfold Http.isSuccess
      rw [Bool.and_eq_true, decide_eq_true_eq, decide_eq_true_eq]
    constructor
    · intro h
      change r.value parse = .ok v at h
      unfold Http.Response.value at h
      by_cases hok : Http.isSuccess r.status = true
      · rw [if_pos hok] at h
        obtain ⟨hl, hu⟩ := hs.mp hok
        cases ht : r.text with
        | error said => rw [ht] at h; cases h
        | ok text =>
          rw [ht] at h
          dsimp only at h
          cases hp : parse text with
          | error e => rw [hp] at h; cases h
          | ok w =>
            rw [hp] at h
            cases h
            exact ⟨r, text, rfl, hl, hu, ht, hp⟩
      · rw [if_neg hok] at h
        cases h
    · rintro ⟨r', text, hr, hl, hu, ht, hp⟩
      cases hr
      change r.value parse = .ok v
      unfold Http.Response.value
      rw [if_pos (hs.mpr ⟨hl, hu⟩), ht]
      dsimp only
      rw [hp]

/-- Whatever went wrong, what is said of it begins with the path. -/
theorem detail_error (o : Operation) (fault : RequestFault) :
    ∃ said, (o.error fault).detail = o.row.2 ++ ": " ++ said := by
  refine ⟨fault.message, ?_⟩
  rw [← o.path_eq]
  rfl

/-- A call whose request has come to something gets what that brings. -/
theorem gets_arrival (call : RemoteCall) (arrival : Http.Arrival) :
    call.Gets arrival (call.operation.reply
      ((arrival.value call.operation.parse).mapError call.operation.error)) := by
  refine ⟨_, rfl, fun v => ?_, fun e he => ?_⟩
  · -- an error is given the path, and a value is left as it is
    rw [← value_eq_ok_iff call.operation.parse arrival v]
    cases arrival.value call.operation.parse with
    | ok w =>
      constructor
      · intro h
        cases h
        rfl
      · intro h
        cases h
        rfl
    | error fault => exact ⟨nofun, nofun⟩
  · cases hv : arrival.value call.operation.parse with
    | ok w => rw [hv] at he; cases he
    | error fault =>
      rw [hv] at he
      cases he
      exact detail_error call.operation fault

/-! ### Calls -/

/-- A call is carried out by sending its body to its own operation. -/
theorem reply_eq (call : RemoteCall) (b : Backend) :
    call.reply b.gateway
      = call.operation.reply <$> b.send call.operation call.body? call.operation.parse := by
  unfold reply Backend.gateway
  -- each call is one function of the gateway, and this is how it is sent
  cases call
  all_goals
    dsimp only
    rfl

/-- What a call comes to by what came of its request. -/
def replyTo (call : RemoteCall) (arrival : Http.Arrival) : Traced RemoteReply :=
  ⟨call.operation.reply
    ((arrival.value call.operation.parse).mapError call.operation.error),
    [.executing call.operation]⟩

/-- Over HTTP a call asks for one request, whether it can be sent or not, and is done with what
comes of it. -/
theorem execute_gateway (call : RemoteCall) (b : Backend) :
    call.execute b.gateway
      = .ask (b.request? call.operation call.body?) fun a => .done (call.replyTo a) := by
  unfold execute
  rw [call.reply_eq b]
  rfl

/-- **The contract of the client.** Whatever the backend's URL, the call and the server, a call
sends one request if the URL names a server and none otherwise, and never a second one; the request
asks for what the call is, and the call gets what came of it, or what is said of a request that
cannot be sent. -/
theorem execute_follows_contract (b : Backend) (call : RemoteCall)
    (server : Http.Request → Http.Arrival) (refusal : String) :
    ∃ requests reply,
      (call.execute b.gateway).answer server refusal
        = (requests, ⟨reply, [.executing call.operation]⟩) ∧
      requests.length = (if (Http.target? (b.urlOf call.operation.row.2)).isSome then 1 else 0) ∧
      (∀ r ∈ requests, call.Asks b r) ∧
      call.Gets ((requests.head?.map server).getD (.nothing refusal)) reply := by
  rw [← call.isSome_request? b, call.execute_gateway b]
  -- nothing is sent, or one request and what the server says to it
  cases hr : b.request? call.operation call.body? with
  | none => exact ⟨[], _, rfl, rfl, nofun, call.gets_arrival (.nothing refusal)⟩
  | some request =>
    refine ⟨[request], _, rfl, rfl, fun r hm => ?_, call.gets_arrival (server request)⟩
    rw [List.mem_singleton.mp hm]
    exact asks_of_request? hr

/-- A server that answers everything with an empty list. -/
def barrenServer (_ : Http.Request) : Http.Arrival := .response ⟨200, [0x5B, 0x5D], none⟩

/-- It gets one request for the list, and the list is empty. -/
theorem barrenServer_gets_one_request :
    ∃ request reply,
      (listWallets.execute Backend.standard.gateway).answer barrenServer ""
        = ([request], ⟨reply, [.executing .listWallets]⟩) ∧
      request.method = .get ∧ request.target = "/api/wallets" ∧ request.body = "" ∧
      reply = .wallets (.ok []) := by
  obtain ⟨requests, reply, hrun, hcount, hasks, result, hreply, hok, -⟩ :=
    execute_follows_contract Backend.standard listWallets barrenServer ""
  have htarget : Http.target? (Backend.standard.urlOf "/wallets") = some "/api/wallets" := by
    decide +kernel
  -- the URL names a server, so that there is a request
  have hcount' : requests.length = 1 := by
    rw [hcount]
    exact if_pos (congrArg Option.isSome htarget)
  obtain ⟨request, rfl⟩ := List.length_eq_one_iff.mp hcount'
  have hrequest := hasks request List.mem_cons_self
  have hbody : WalletRecord.parseList "[]" = .ok [] := rfl
  refine ⟨request, reply, hrun, hrequest.method, ?_, hrequest.body, ?_⟩
  · exact (Option.some.inj (htarget.symm.trans hrequest.target)).symm
  · rw [hreply, (hok []).mpr ⟨_, "[]", rfl, by decide, by decide, by decide +kernel, hbody⟩]
    rfl

end RemoteCall

end WalletPanel
