import WalletPanel.Proofs.App.Ledger
import WalletPanel.Proofs.Panel.Told
import WalletPanel.Proofs.Remote.Requests
import WalletPanel.Proofs.Remote.Routing
import WalletPanel.Proofs.Wire.Elements

/-!
# A list that is loaded

What comes of the request for the list is, in the end, either all of the list or nothing of it. A
call that waits for a response goes on from any arrival to a completion without another request
(`WaitingCall.Plain`), and what the completion has is said by the elements of the body
(`Http.Arrival.Lists`). The panel shows what it takes for the list that it waits for, in the order
of the body and from the first place on (`Panel.Shows`); nothing of a list before is left.

`App.load_is_all_or_nothing` puts this together, from any arrival to what is shown. Which texts are
the elements of a body is a matter of the readers. In a well-formed list they are those of the
grammar, unless an address loses its place: then one element may be read as two
(`App.brokenElement_is_two_wallets`).
-/

namespace WalletPanel

open Wire
open Panel (Op)

/-! ### Responses with wallets -/

namespace Http.Arrival

/-- A response that lists these wallets: it came in full, its status means success, and its body is
laid out as a list whose elements are read as these wallets, each by itself. -/
def Lists (a : Arrival) (records : List WalletRecord) : Prop :=
  ∃ r text, a = .response r ∧ 200 ≤ r.status ∧ r.status ≤ 299 ∧ r.text = .ok text ∧
    WalletRecord.ListedBy text records

/-- What a call for the list gets by what came of its request. -/
def loaded (a : Arrival) : Except RemoteError (List WalletRecord) :=
  (a.value WalletRecord.parseList).mapError Operation.listWallets.error

/-- A load succeeds with some wallets exactly if the response lists them. -/
theorem loaded_eq_ok_iff {a : Arrival} {records : List WalletRecord} :
    a.loaded = .ok records ↔ a.Lists records := by
  have hvalue := RemoteCall.value_eq_ok_iff WalletRecord.parseList a records
  simp only [WalletRecord.parseList_eq_ok_iff] at hvalue
  refine Iff.trans ?_ hvalue
  unfold loaded
  cases a.value WalletRecord.parseList with
  | ok rs => exact ⟨fun h => congrArg _ (Except.ok.inj h), fun h => congrArg _ (Except.ok.inj h)⟩
  | error fault => exact ⟨nofun, nofun⟩

/-- Where no wallets are listed, the load fails. -/
theorem exists_loaded_error {a : Arrival} (h : ∀ records, ¬ a.Lists records) :
    ∃ e, a.loaded = .error e := by
  cases hl : a.loaded with
  | ok records => exact absurd (loaded_eq_ok_iff.mp hl) (h records)
  | error e => exact ⟨e, rfl⟩

end Http.Arrival

/-! ### What the panel shows -/

/-- What stands above the list on the dashboard while no list is on its way. -/
def View.aboveList : List Widget :=
  [.label "Dashboard", .label "Create wallets, mint tokens and generate smart contracts."] ++
    offers.flatMap (fun (screen, title, about) =>
      [.button title true (.navigate screen), .label about]) ++
    [.label "Your Wallets", .button "⟳" true (.submit .walletList)]

namespace Panel

/-- The panel shows these wallets: it has them for its list, each is copied from its own place, and
the dashboard has one after the other, or says that there is none. -/
structure Shows (p : Panel) (records : List WalletRecord) : Prop where
  wallets : p.walletList.wallets = records
  copied : ∀ i, (p.copy (.listedAddress i)).value
    = records[i]?.map fun r => ⟨.listedAddress i, r.address.checksummed⟩
  drawn : View.dashboard p = View.aboveList ++
    if records.isEmpty then [.label "No wallets yet. Create or import one to get started."]
    else View.listedWallets 0 records

/-- Once the list has been loaded, or could not be, its wallets are shown. -/
theorem shows_wallets {p : Panel} (h : p.walletList.isLoading = false) :
    p.Shows p.walletList.wallets where
  wallets := rfl
  copied i := by
    -- a wallet is copied by its place in the list
    have htext : p.copyText? (.listedAddress i)
        = p.walletList.wallets[i]?.map (·.address.checksummed) := rfl
    unfold copy
    rw [htext]
    cases p.walletList.wallets[i]? <;> rfl
  drawn := by
    unfold View.dashboard View.aboveList
    dsimp only
    rw [h]
    simp only [Bool.not_false, Bool.false_eq_true, if_false]

/-- What is shown of the list depends on the list only. -/
theorem Shows.congr {p q : Panel} {records : List WalletRecord} (h : p.Shows records)
    (hpq : q.walletList = p.walletList) : q.Shows records := by
  have hdrawn : View.dashboard q = View.dashboard p := by
    unfold View.dashboard
    rw [hpq]
  refine ⟨hpq ▸ h.wallets, fun i => ?_, hdrawn.trans h.drawn⟩
  have hcopy : q.copy (.listedAddress i) = p.copy (.listedAddress i) := by
    unfold copy copyText?
    rw [hpq]
  rw [hcopy]
  exact h.copied i

/-- **What becomes of a load** that the panel `p` waits for, when the panel `q` has taken what came
of its request: all that has been listed is shown, or nothing is. -/
structure Loads (p q : Panel) (a : Http.Arrival) : Prop where
  all : ∀ records, a.Lists records → q.Shows records ∧
    (q.workflow .walletList).phase = .succeeded ∧
    q.notices.entries = p.notices.entries ++ [⟨p.notices.length, .success, "Wallets loaded"⟩]
  nothing : (∀ records, ¬ a.Lists records) → q.Shows [] ∧
    (q.workflow .walletList).phase = .failed ∧
    q.notices.entries = p.notices.entries ++ [⟨p.notices.length, .error, "Failed to load wallets"⟩]

/-- **A result that the list waits for** is taken, and told once. -/
theorem next_of_load {p : Panel} {t : UInt64} (h : (p.workflow .walletList).Awaits t)
    (result : Except RemoteError (List WalletRecord)) :
    ((p.next (.apply ⟨.walletList, t, .wallets result⟩)).workflow .walletList).state
        = .ofResult result ∧
    (p.next (.apply ⟨.walletList, t, .wallets result⟩)).notices.entries = p.notices.entries ++
      numbered p.notices.length (WalletList.outcome.notice? (.ofResult result)).toList := by
  obtain ⟨hanswer, hworkflow⟩ :=
    step_apply_of_awaits (c := ⟨.walletList, t, .wallets result⟩) (r := result) rfl h
  refine ⟨congrArg Workflow.state hworkflow, ?_⟩
  rw [entries_next]
  unfold told
  rw [hanswer]
  rfl

/-- A panel that waits for the list takes what has arrived, all of it or nothing. -/
theorem loads_of_awaits {p : Panel} {t : UInt64} (h : (p.workflow .walletList).Awaits t)
    (a : Http.Arrival) : p.Loads (p.next (.apply ⟨.walletList, t, .wallets a.loaded⟩)) a := by
  obtain ⟨hstate, hentries⟩ := next_of_load h a.loaded
  -- of the panel afterwards no more is needed than its state and its log
  generalize p.next (.apply ⟨.walletList, t, .wallets a.loaded⟩) = q at hstate hentries
  have hlist : q.walletList.workflow.state = .ofResult a.loaded := hstate
  have hidle : q.walletList.isLoading = false := by
    unfold WalletList.isLoading
    rw [hlist]
    cases a.loaded <;> rfl
  have hshows := shows_wallets hidle
  unfold WalletList.wallets at hshows
  rw [hlist] at hshows
  have hphase : (q.workflow .walletList).phase = (WorkflowState.ofResult a.loaded).phase :=
    congrArg WorkflowState.phase hstate
  constructor
  · intro records hrecords
    rw [Http.Arrival.loaded_eq_ok_iff.mpr hrecords] at hshows hphase hentries
    exact ⟨hshows, hphase, hentries⟩
  · intro hnone
    obtain ⟨e, he⟩ := Http.Arrival.exists_loaded_error hnone
    rw [he] at hshows hphase hentries
    exact ⟨hshows, hphase, hentries⟩

end Panel

/-! ### Calls that wait -/

/-- The completion that a call comes to by what came of its request. -/
def Dispatch.arrived (d : Dispatch) (a : Http.Arrival) : Traced Completion :=
  d.complete <$> d.call.replyTo a

/-- A call of its workflow's own operation that waits for a response and for nothing after it. -/
structure WaitingCall.Plain (call : WaitingCall) : Prop where
  operation : call.dispatch.call.operation = call.dispatch.workflow.operation
  next : ∀ a, call.next a = .done (call.dispatch.arrived a)

/-- Over HTTP a call that has been asked for is done with what comes of its one request. -/
theorem Dispatch.run_gateway (d : Dispatch) (backend : Backend) :
    d.run backend.gateway
      = .ask (backend.request? d.call.operation d.call.body?) fun a => .done (d.arrived a) := by
  unfold run
  rw [d.call.execute_gateway backend]
  rfl

namespace Background

/-- All calls that wait are plain ones. -/
def Plain (b : Background) : Prop := ∀ call ∈ b.waiting, call.Plain

variable {b : Background}

/-- What an answer of the panel starts is a plain call. -/
theorem Plain.serve (h : b.Plain) (backend : Backend) (p : Panel) (op : Op) :
    (b.serve backend (p.entry op).answer).Plain := by
  cases ha : (p.entry op).answer with
  | dispatch asked =>
    cases asked with
    | none => exact h
    | some d =>
      have hd : (p.entry op).requestOf? d.workflow = some d := Panel.requestOf?_of_dispatch ha
      have hoperation : d.call.operation = d.workflow.operation := by
        cases p.step_cases op d.workflow with
        | requested e he hkind =>
          rw [hd] at he
          cases he
          exact hkind
        | givenUp he | untouched he => rw [hd] at he; cases he
        | settled c r hop =>
          -- a completion asks for nothing
          rw [hop] at ha
          cases ha
      -- the call that is started joins those that wait, and is a plain one
      have hjoined : WaitingCall.Plain ⟨d, b.requests.length,
          backend.request? d.call.operation d.call.body?, fun a => .done (d.arrived a)⟩ :=
        ⟨hoperation, fun _ => rfl⟩
      change (b.proceed d (d.run backend.gateway)).Plain
      rw [d.run_gateway backend]
      exact List.forall_mem_append.mpr ⟨h, List.forall_mem_singleton.mpr hjoined⟩
  | job j => cases j <;> exact h
  | _ => exact h

/-- So is what a row of answers starts. -/
theorem Plain.serve_history (h : b.Plain) (backend : Backend) (p : Panel) (ops : List Op) :
    ((p.history ops).foldl (fun g e => g.serve backend e.answer) b).Plain := by
  induction ops generalizing b p with
  | nil => exact h
  | cons op ops ih => exact ih (h.serve backend p op) (p.next op)

/-- **What arrives** is the end of the call that waits for it. -/
theorem Plain.arrive_eq (h : b.Plain) {n : Nat} {a : Http.Arrival} {call : WaitingCall}
    (hcall : b.waiting.find? (·.awaits n a) = some call) :
    b.arrive n a = { b with
      waiting := b.waiting.eraseP (·.awaits n a)
      completions := b.completions ++ [(call.dispatch.arrived a).value] } := by
  unfold arrive
  rw [hcall]
  dsimp only
  rw [(h call (List.mem_of_find?_eq_some hcall)).next a]
  rfl

/-- What arrives starts no call. -/
theorem Plain.arrive (h : b.Plain) (n : Nat) (a : Http.Arrival) : (b.arrive n a).Plain := by
  cases hcall : b.waiting.find? (·.awaits n a) with
  | none =>
    unfold Background.arrive
    rw [hcall]
    exact h
  | some call =>
    rw [h.arrive_eq hcall]
    exact fun c hc => h c (List.mem_of_mem_eraseP hc)

/-- Neither does a copy that ends. -/
theorem Plain.endCopy (h : b.Plain) (place : Nat) (result : Except ClipboardError Unit) :
    (b.endCopy place result).Plain := by
  unfold Background.endCopy
  split <;> exact h

end Background

namespace App

/-- An event leaves only plain calls waiting. -/
theorem plain_step {app : App} (h : app.background.Plain) (e : Event) :
    (app.step e).1.background.Plain := by
  cases e with
  | arrive n a => exact h.arrive n a
  | endCopy place result => exact h.endCopy place result
  | frame now g =>
    have htaken : app.background.taken.Plain := h
    change (app.frame now g).1.background.Plain
    rw [(does_frame app now g).background]
    exact htaken.serve_history app.backend app.panel (app.frameOps g)

/-- In a run all calls that wait are plain ones. -/
theorem plain_run (backend : Backend) (events : List Event) :
    ((App.start backend).run events).background.Plain := by
  have hrun : ∀ (es : List Event) (app : App), app.background.Plain →
      (app.run es).background.Plain := by
    intro es
    induction es with
    | nil => exact fun _ h => h
    | cons e es ih => exact fun app h => ih _ (plain_step h e)
  refine hrun events _ ?_
  rw [background_start]
  exact Background.Plain.serve (b := .idle) (fun _ hc => by cases hc) backend Panel.start .start

/-! ### The list -/

/-- A call for the list comes to a completion with what has been loaded. -/
theorem arrived_of_walletList {d : Dispatch} (h : d.call.operation = d.workflow.operation)
    (hlist : d.workflow = .walletList) (a : Http.Arrival) :
    (d.arrived a).value = ⟨.walletList, d.ticket, .wallets a.loaded⟩ := by
  obtain ⟨w, t, call⟩ := d
  cases hlist
  cases call <;> cases h
  rfl

/-- **A panel whose load is carried out** by any backend with any server. -/
theorem loads_of_server (backend : Backend) (server : Http.Request → Http.Arrival)
    (refusal : String) {p : Panel} {t : UInt64} (h : (p.workflow .walletList).Awaits t) :
    ∃ requests c events,
      ((⟨.walletList, t, .listWallets⟩ : Dispatch).run backend.gateway).answer server refusal
        = (requests, ⟨c, events⟩) ∧
      p.Loads (p.next (.apply c)) ((requests.head?.map server).getD (.nothing refusal)) := by
  rw [Dispatch.run_gateway]
  cases backend.request? (RemoteCall.listWallets).operation (RemoteCall.listWallets).body? with
  | none => exact ⟨[], _, _, rfl, Panel.loads_of_awaits h (.nothing refusal)⟩
  | some request => exact ⟨[request], _, _, rfl, Panel.loads_of_awaits h (server request)⟩

/-- Copies that have ended leave the list alone. -/
theorem walletList_after_copies (p : Panel) (outcomes : List CopyOutcome) :
    (p.after (outcomes.map Op.finishCopy)).walletList = p.walletList := by
  induction outcomes generalizing p with
  | nil => rfl
  | cons o outcomes ih => exact ih (p.next (.finishCopy o))

variable {backend : Backend} {events : List Event}

/-- **A load is all or nothing.** Let a call wait for the list at any time in a run, and let
anything arrive for it that may come of its request. Then a completion is ready.

Whenever a panel that waits for the list takes it, the panel shows the wallets that were listed, all
of them and in their order, with a notice of success; or, if no list has come, it shows no wallet,
the load has failed, and one notice of an error is added. The next frame of the run shows this, if
the panel still waits for the list when the completion's turn has come. It is the same for any
panel, with any server and also where no request can be sent.

The elements of a well-formed list are those of the grammar, as long as no address in them loses its
place. -/
theorem load_is_all_or_nothing {n : Nat} {a : Http.Arrival} {call : WaitingCall}
    (hcall : ((App.start backend).run events).background.waiting.find? (·.awaits n a) = some call)
    (hlist : call.dispatch.workflow = .walletList) :
    let app := (App.start backend).run events
    let app' := (app.step (.arrive n a)).1
    let turn := app.panel.after (app.background.completions.map Op.apply)
    (∃ c : Completion, c.key = call.dispatch.key ∧
      app'.background.completions = app.background.completions ++ [c] ∧
      (∀ p : Panel, (p.workflow .walletList).Awaits c.ticket → p.Loads (p.next (.apply c)) a) ∧
      ((turn.workflow .walletList).Awaits c.ticket →
        (∀ records, a.Lists records → app'.takeReady.panel.Shows records) ∧
        ((∀ records, ¬ a.Lists records) → app'.takeReady.panel.Shows []))) ∧
    (∀ (server : Http.Request → Http.Arrival) refusal (p : Panel) t,
      (p.workflow .walletList).Awaits t → ∃ requests c events,
        ((⟨.walletList, t, .listWallets⟩ : Dispatch).run backend.gateway).answer server refusal
          = (requests, ⟨c, events⟩) ∧
        p.Loads (p.next (.apply c)) ((requests.head?.map server).getD (.nothing refusal))) ∧
    ∀ text items records, IsListOf items text → (∀ i ∈ items, WalletRecord.schema.Steady i.core) →
      (WalletRecord.ListedBy text records ↔ List.Forall₂
        (fun i r => WalletRecord.schema.parse (String.ofList i.core) = .ok r) items records) := by
  intro app app' turn
  have hplain : app.background.Plain := plain_run backend events
  -- one call alone is taken out, and its completion comes last
  have hcompletion := arrived_of_walletList
    (hplain call (List.mem_of_find?_eq_some hcall)).operation hlist a
  have hbackground : app'.background = _ := hplain.arrive_eq hcall
  refine ⟨⟨(call.dispatch.arrived a).value, rfl, congrArg Background.completions hbackground,
    fun p hp => ?_, fun hp => ?_⟩, fun server refusal p t => loads_of_server backend server refusal,
    fun text items records => WalletRecord.listedBy_iff⟩
  · -- for any panel that waits for it
    rw [hcompletion] at hp ⊢
    exact Panel.loads_of_awaits hp a
  · rw [hcompletion] at hp
    have hloads := Panel.loads_of_awaits hp a
    -- the frame takes the completions in their turn, and after them the copies that have ended
    have hready : app'.takeReady.panel
        = (turn.next (.apply ⟨.walletList, call.dispatch.ticket, .wallets a.loaded⟩)).after
          (app.background.outcomes.map Op.finishCopy) := by
      rw [(does_takeReady app').panel]
      unfold readyOps
      rw [hbackground, hcompletion, List.map_append, List.append_assoc, Panel.after_append]
      rfl
    have hsame := congrArg Panel.walletList hready
    rw [walletList_after_copies] at hsame
    exact ⟨fun records h => (hloads.all records h).1.congr hsame,
      fun h => (hloads.nothing h).1.congr hsame⟩

/-- The octets of a text that has no character beyond the first 128. -/
def plainOctets (text : List Char) : List UInt8 := text.map (·.toNat.toUInt8)

/-- A list with one wallet. -/
def sentText : List Char := listText [] [.bare (objectText [] WalletRecord.sentMembers)]

/-- The response with this list. -/
def sentList : Http.Response := ⟨200, plainOctets sentText, none⟩

/-- The wallet of this list. -/
def sentWallet : WalletRecord := ⟨"a", ⟨Vector.replicate 20 0⟩, none⟩

/-- If the list arrives, its wallet is shown; if nothing does, none is. -/
theorem sentList_is_shown :
    (Http.Arrival.response sentList).Lists [sentWallet] ∧
    ((App.start .standard).step (.arrive 0 (.response sentList))).1.takeReady.panel.Shows
      [sentWallet] ∧
    ((App.start .standard).step (.arrive 0 (.nothing ""))).1.takeReady.panel.Shows [] := by
  -- the call that waits for either of them is the one for the list
  have hkey : ∀ a, (((App.start .standard).run []).background.waiting.find? (·.awaits 0 a)).map
      (·.dispatch.key) = some (.walletList, 2) := by
    intro a
    cases a <;> rfl
  obtain ⟨call, hcall, hdispatch⟩ := Option.map_eq_some_iff.mp (hkey (.response sentList))
  obtain ⟨call', hcall', hdispatch'⟩ := Option.map_eq_some_iff.mp (hkey (.nothing ""))
  have hawaits : ∀ c : Completion, c.key = (.walletList, 2) →
      ((((App.start .standard).run []).panel.after
        (((App.start .standard).run []).background.completions.map Op.apply)).workflow
          .walletList).Awaits c.ticket := by
    intro c hc
    rw [(Prod.mk.inj hc).2]
    decide +kernel
  obtain ⟨⟨c, hc, -, -, hframe⟩, -, helements⟩ :=
    load_is_all_or_nothing hcall (Prod.mk.inj hdispatch).1
  obtain ⟨⟨c', hc', -, -, hframe'⟩, -, -⟩ :=
    load_is_all_or_nothing hcall' (Prod.mk.inj hdispatch').1
  -- the list is laid out as the grammar has it, with no address that loses its place
  have hlists : (Http.Arrival.response sentList).Lists [sentWallet] := by
    refine ⟨sentList, String.ofList sentText, rfl, by decide, by decide, by decide +kernel, ?_⟩
    have hobject : IsValue (objectText [] WalletRecord.sentMembers) :=
      .object isBlank_nil (fun m hm => (WalletRecord.wellFormed_sentMembers m hm).key)
        fun m hm => (WalletRecord.wellFormed_sentMembers m hm).value
    have hsteady : WalletRecord.schema.Steady (objectText [] WalletRecord.sentMembers) :=
      .object isBlank_nil WalletRecord.wellFormed_sentMembers WalletRecord.keepsPlace_sentMembers
    have hform : IsListOf [.bare (objectText [] WalletRecord.sentMembers)]
        (String.ofList sentText) :=
      ⟨List.forall_mem_singleton.mpr hobject, [], [], [], isBlank_nil, isBlank_nil, isBlank_nil,
        rfl⟩
    exact (helements _ _ _ hform (List.forall_mem_singleton.mpr hsteady)).mpr
      (.cons (by decide +kernel) .nil)
  refine ⟨hlists, (hframe (hawaits c (hc.trans hdispatch))).1 _ hlists,
    (hframe' (hawaits c' (hc'.trans hdispatch'))).2 ?_⟩
  rintro records ⟨r, text, h, -⟩
  cases h

/-- A line feed is a blank. -/
theorem isBlank_newline : IsBlank ['\n'] :=
  List.forall_mem_singleton.mpr (Or.inr (Or.inl rfl))

/-- The address of a wallet that is no wallet: behind twenty octets there are two texts. The first
of them begins with the second half of a character, and goes on with brackets. -/
def brokenItems : List Padded :=
  List.replicate 20 (.bare ['1']) ++
    [.bare (quotedText ['\\', 'u', 'd', 'c', '0', '0', ']', ']', ',', '[']),
      ⟨[], quotedText (',' :: '[' :: (List.replicate 20 ['1', ',']).flatten), ['\n'], isBlank_nil,
        isBlank_newline⟩]

/-- The element: an array of a name and this address. -/
def brokenElement : List Char :=
  listText [] [.bare (quotedText ['a']), .bare (listText [] brokenItems)]

/-- A list of this one element. -/
def brokenText : List Char := listText [] [.bare brokenElement]

/-- The response with this list. -/
def brokenList : Http.Response := ⟨200, plainOctets brokenText, none⟩

/-- **Where a place is lost**, a list whose only element is no wallet is shown as two wallets. -/
theorem brokenElement_is_two_wallets :
    IsListOf [.bare brokenElement] (String.ofList brokenText) ∧
    brokenList.text = .ok (String.ofList brokenText) ∧
    WalletRecord.schema.parse (String.ofList brokenElement) = .error .trailingText ∧
    List.map WalletRecord.name ((App.start .standard).step (.arrive 0 (.response
      brokenList))).1.takeReady.panel.walletList.wallets = ["a", ","] := by
  have hone : IsValue ['1'] := by
    have hunsigned : IsUnsigned (['1'] ++ ([] ++ [])) :=
      .mk (.digits (by decide) (by decide)) .none .none
    exact .scalar (.numeral (.positive hunsigned))
  -- half of a surrogate pair is well-formed in the grammar, and the reader stops at it
  have hhalf : IsInner ('\\' :: 'u' :: (['d', 'c', '0', '0'] ++ [']', ']', ',', '['])) :=
    .number rfl (forall_mem_of_all (by decide)) (isInner_of_plain (by decide))
  have hrest : IsInner (',' :: '[' :: (List.replicate 20 ['1', ',']).flatten) :=
    isInner_of_plain (by decide)
  have hitems : IsValue (listText [] brokenItems) := by
    refine .list isBlank_nil (List.forall_mem_append.mpr ⟨fun i hi => ?_, ?_⟩)
    · rw [List.eq_of_mem_replicate hi]
      exact hone
    · exact List.forall_mem_cons.mpr ⟨.scalar (.text hhalf),
        List.forall_mem_singleton.mpr (.scalar (.text hrest))⟩
  have helement : IsValue brokenElement := .list isBlank_nil (List.forall_mem_cons.mpr
    ⟨.scalar (.text (isInner_of_plain (by decide))), List.forall_mem_singleton.mpr hitems⟩)
  have hform : IsListOf [.bare brokenElement] (String.ofList brokenText) :=
    ⟨List.forall_mem_singleton.mpr helement, [], [], [], isBlank_nil, isBlank_nil, isBlank_nil, rfl⟩
  exact ⟨hform, by decide +kernel, by decide +kernel, by decide +kernel⟩

end App

end WalletPanel
