import Mathlib.Data.List.Forall2
import WalletPanel.Panel.Description
import WalletPanel.Proofs.Panel.Censored
import WalletPanel.Proofs.Remote.Completions

/-!
# Keys do not show

Two runs of a panel in which the same is done, but with other keys, leave the same events, tell the
user the same, answer the same as far as answers are described, and look the same as long as the
key of a new wallet is masked (`keys_do_not_show`). Keys come in at two places: the user types one,
and a reply to the request for a new wallet has one. Of what is typed only whether it is blank
makes a difference.

The proof does not follow the two runs side by side. Each of them is compared with the run of the
censored panel (`run_censored`), and that one is the same for both.
-/

namespace WalletPanel

/-- Replies that are the same but for the key of a new wallet. -/
inductive RemoteReply.Alike : RemoteReply → RemoteReply → Prop
  | same (r : RemoteReply) : Alike r r
  | key {v w : CreatedWallet} (h : v.record = w.record) :
    Alike (.createdWallet (.ok v)) (.createdWallet (.ok w))

/-- Such replies have one and the same censored form. -/
theorem RemoteReply.Alike.censored_eq {r r' : RemoteReply} (h : r.Alike r') :
    r.censored = r'.censored := by
  cases h with
  | same => rfl
  | key h => simp [RemoteReply.censored, CreatedWallet.censored, Except.map, h]

namespace Panel

/-! ### Runs with calls that are carried out -/

/-- Something that is done with a panel and the calls that it has made. Of what a call is carried
out through, only the reply matters that it gives, and every reply of the call's kind is that of
some gateway (`RemoteCall.reply_always`). -/
inductive Deed where
  | operate (op : Op)
  /-- The call of this number is carried out, and gets this reply. -/
  | execute (number : Nat) (reply : RemoteReply)

/-- What a deed gives back. -/
inductive Given where
  | answer (a : Answer)
  /-- The completion of the call that was carried out, if there is a call of the number. -/
  | completion (c : Option Completion)

/-- A panel with the calls that it has made. -/
structure Bench where
  panel : Panel
  calls : List Dispatch

/-- The call that an answer asks for, if it asks for one. -/
def Answer.dispatch? : Answer → Option Dispatch
  | .dispatch d => d
  | _ => Option.none

namespace Bench

/-- The panel as it starts. -/
def start : Bench := ⟨Panel.start, []⟩

/-- Does a deed. -/
def act (b : Bench) : Deed → Traced (Bench × Given)
  | .operate op => do
    let (p, a) ← b.panel.step op
    return (⟨p, b.calls ++ a.dispatch?.toList⟩, .answer a)
  | .execute number reply =>
    match b.calls[number]? with
    | some d => (fun c => (b, .completion (some c))) <$> d.run (Gateway.always reply)
    | none => return (b, .completion none)

/-- Does one deed after the other; yields all that they give back. -/
def run (b : Bench) : List Deed → Traced (Bench × List Given)
  | [] => return (b, [])
  | deed :: deeds => do
    let (b, given) ← b.act deed
    let (b, all) ← b.run deeds
    return (b, given :: all)

end Bench

/-! ### What may be different in two runs -/

/-- Operations that are the same but for keys. -/
inductive Op.Alike : Op → Op → Prop
  | same (op : Op) : Alike op op
  | key {s t : String} (h : Text.allBlank s = Text.allBlank t) :
    Alike (.edit .importKey s) (.edit .importKey t)
  | apply {w : WorkflowId} {ticket : UInt64} {r r' : RemoteReply} (h : r.Alike r') :
    Alike (.apply ⟨w, ticket, r⟩) (.apply ⟨w, ticket, r'⟩)

/-- Deeds that are the same but for keys. -/
inductive Deed.Alike : Deed → Deed → Prop
  | operate {op op' : Op} (h : op.Alike op') : Alike (.operate op) (.operate op')
  | execute (number : Nat) {r r' : RemoteReply} (h : r.Alike r') :
    Alike (.execute number r) (.execute number r')

/-! ### What shows -/

/-- What shows of a call under way. -/
def shownDispatch (d : Dispatch) : WorkflowId × UInt64 × Operation × String :=
  (d.workflow, d.ticket, d.call.operation, d.description)

/-- What shows of a completion. -/
def shownCompletion (c : Completion) : WorkflowId × UInt64 × Operation × String :=
  (c.workflow, c.ticket, c.reply.operation, c.description)

/-- What shows of a copy under way. -/
def shownJob (job : CopyJob) : CopyTarget × String := (job.target, job.description)

/-- Whether the same shows of two things that deeds have given back. -/
def Given.Same : Given → Given → Prop
  | .answer .none, .answer .none => True
  | .answer (.dispatch d), .answer (.dispatch d') => d.map shownDispatch = d'.map shownDispatch
  | .answer (.resolution r), .answer (.resolution r') => r = r'
  | .answer (.flag b), .answer (.flag b') => b = b'
  | .answer (.job j), .answer (.job j') => j.map shownJob = j'.map shownJob
  | .completion c, .completion c' => c.map shownCompletion = c'.map shownCompletion
  | _, _ => False

/-- Two panels look the same: what they show is the same, a key that the user asks to see and the
key that is being typed apart. -/
structure LooksLike (p q : Panel) : Prop where
  screen : p.screen = q.screen
  notices : p.notices = q.notices
  createName : p.createWallet.name = q.createWallet.name
  revealed : p.createWallet.revealed = q.createWallet.revealed
  created : p.createWallet.created? = q.createWallet.created?
  keyDisplay : p.createWallet.revealed = false →
    p.createWallet.keyDisplay? = q.createWallet.keyDisplay?
  importName : p.importWallet.name = q.importWallet.name
  hasKey : p.importWallet.hasKey = q.importWallet.hasKey
  imported : p.importWallet.imported? = q.importWallet.imported?
  wallets : p.walletList = q.walletList
  token : p.tokenCreator = q.tokenCreator
  contract : p.contractWriter = q.contractWriter
  phases : ∀ w, (p.workflow w).phase = (q.workflow w).phase

/-! ### Censoring -/

/-- A deed with the keys in it censored. -/
def Deed.censored : Deed → Deed
  | .operate op => .operate op.censored
  | .execute number reply => .execute number reply.censored

/-- What a deed gives back, with the keys in it censored. -/
def Given.censored : Given → Given
  | .answer a => .answer a.censored
  | .completion c => .completion (c.map Completion.censored)

/-- A panel and its calls with the keys in them censored. -/
def Bench.censored (b : Bench) : Bench := ⟨b.panel.censored, b.calls.map Dispatch.censored⟩

/-- Such operations have one and the same censored form. -/
theorem Op.Alike.censored_eq {op op' : Op} (h : op.Alike op') : op.censored = op'.censored := by
  cases h with
  | same => rfl
  | key h => simp [Op.censored, censoredText, h]
  | apply h => simp [Op.censored, Completion.censored, h.censored_eq]

/-- Such deeds have one and the same censored form. -/
theorem Deed.Alike.censored_eq {d d' : Deed} (h : d.Alike d') : d.censored = d'.censored := by
  cases h with
  | operate h => rw [Deed.censored, Deed.censored, h.censored_eq]
  | execute number h => rw [Deed.censored, Deed.censored, h.censored_eq]

/-- The reply that a censored call gets is the censored one. -/
theorem reply_censored (call : RemoteCall) (reply : RemoteReply) :
    (show RemoteReply from call.censored.reply (Gateway.always reply.censored))
      = (show RemoteReply from call.reply (Gateway.always reply)).censored := by
  cases call <;> cases reply <;> rfl

/-- A censored call is carried out as the call is, and its completion is the censored one. -/
theorem run_always_censored (d : Dispatch) (reply : RemoteReply) :
    (show Traced Completion from d.censored.run (Gateway.always reply.censored))
      = Completion.censored <$> (show Traced Completion from d.run (Gateway.always reply)) := by
  -- an execution leaves one event, the operation of the call
  refine Traced.ext ?_ ?_
  · change Completion.mk d.workflow d.ticket _ = Completion.mk d.workflow d.ticket _
    exact congrArg _ (reply_censored d.call reply)
  · change [Event.executing d.call.censored.operation] = [Event.executing d.call.operation]
    rw [RemoteCall.operation_censored]

/-- To censor and then do a deed is to do the deed and then censor. -/
theorem Bench.act_censored (b : Bench) (deed : Deed) :
    b.censored.act deed.censored = (fun r => (r.1.censored, r.2.censored)) <$> b.act deed := by
  cases deed with
  | operate op =>
    unfold act
    refine Traced.bind_of_map (b.panel.step_censored op) fun r => ?_
    obtain ⟨p, a⟩ := r
    -- the call that an answer asks for is the next one in the list
    have hd : a.censored.dispatch? = a.dispatch?.map Dispatch.censored := by
      cases a <;> rfl
    have hcalls : b.censored.calls ++ a.censored.dispatch?.toList
        = (b.calls ++ a.dispatch?.toList).map Dispatch.censored := by
      rw [hd, List.map_append]
      cases a.dispatch? <;> rfl
    dsimp only
    rw [hcalls]
    rfl
  | execute number reply =>
    have hcall : b.censored.calls[number]? = b.calls[number]?.map Dispatch.censored :=
      List.getElem?_map
    unfold act
    dsimp only [Deed.censored]
    rw [hcall]
    cases b.calls[number]? with
    | none => rfl
    | some d =>
      dsimp only [Option.map]
      exact congrArg (Functor.map fun c => (b.censored, Given.completion (some c)))
        (run_always_censored d reply)

/-- **Runs of censored panels.** -/
theorem Bench.run_censored (b : Bench) (deeds : List Deed) :
    b.censored.run (deeds.map Deed.censored)
      = (fun r => (r.1.censored, r.2.map Given.censored)) <$> b.run deeds := by
  induction deeds generalizing b with
  | nil => rfl
  | cons deed deeds ih =>
    rw [List.map_cons]
    unfold run
    -- one deed, and then the rest on what it has left
    refine Traced.bind_of_map (b.act_censored deed) fun r => ?_
    exact Traced.bind_of_map (ih r.1) fun _ => rfl

/-! ### What shows is the same -/

/-- What does not look at what is censored is the same where the censored forms are. -/
theorem map_eq_of_censored {f : α → β} {g : α → α} (hf : ∀ a, f (g a) = f a) {x y : Option α}
    (h : x.map g = y.map g) : x.map f = y.map f := by
  have hm : ∀ z : Option α, (z.map g).map f = z.map f := by
    intro z
    cases z with
    | none => rfl
    | some a => exact congrArg some (hf a)
  rw [← hm x, h, hm y]

/-- What shows of a call is without its key. -/
theorem shownDispatch_censored (d : Dispatch) : shownDispatch d.censored = shownDispatch d := by
  obtain ⟨w, ticket, call⟩ := d
  cases call <;> rfl

/-- What shows of a completion is without the key in it. -/
theorem shownCompletion_censored (c : Completion) :
    shownCompletion c.censored = shownCompletion c := by
  obtain ⟨w, ticket, reply⟩ := c
  cases reply with
  -- the only reply with a key, which its description masks
  | createdWallet result => cases result <;> rfl
  | _ => rfl

/-- What shows of a copy is without its text. -/
theorem shownJob_censored (job : CopyJob) : shownJob job.censored = shownJob job := by
  unfold CopyJob.censored
  split <;> rfl

/-- Where the censored forms are the same, the same shows. -/
theorem Given.same_of_censored {g g' : Given} (h : g.censored = g'.censored) : g.Same g' := by
  -- censoring keeps the kind of what is given back, and what shows of it
  cases g with
  | completion c =>
    cases g' with
    | completion c' => exact map_eq_of_censored shownCompletion_censored (Given.completion.inj h)
    | answer a' => cases h
  | answer a =>
    cases g' with
    | completion c' => cases h
    | answer a' =>
      have ha := Given.answer.inj h
      cases a with
      | none =>
        cases a' with
        | none => trivial
        | _ => cases ha
      | dispatch d =>
        cases a' with
        | dispatch d' =>
          exact map_eq_of_censored shownDispatch_censored (Answer.dispatch.inj ha)
        | _ => cases ha
      | resolution r =>
        cases a' with
        | resolution r' => exact Answer.resolution.inj ha
        | _ => cases ha
      | flag b =>
        cases a' with
        | flag b' => exact Answer.flag.inj ha
        | _ => cases ha
      | job j =>
        cases a' with
        | job j' => exact map_eq_of_censored shownJob_censored (Answer.job.inj ha)
        | _ => cases ha

/-- Panels with one censored form look the same. -/
theorem looksLike_of_censored {p q : Panel} (h : p.censored = q.censored) : p.LooksLike q := by
  obtain ⟨hscreen, hcreate, himport, hlist, htoken, hcontract, hnotices⟩ := Panel.mk.inj h
  obtain ⟨hcreateName, hrevealed, hworkflow⟩ := CreateForm.mk.inj hcreate
  obtain ⟨himportName, hkey, himported⟩ := ImportForm.mk.inj himport
  -- the wallets that were created are the same but for the key
  have hvalue : p.createWallet.workflow.state.value?.map CreatedWallet.censored
      = q.createWallet.workflow.state.value?.map CreatedWallet.censored := by
    have hv := congrArg (fun w => w.state.value?) hworkflow
    have hm : ∀ w : Workflow CreatedWallet, (w.map CreatedWallet.censored).state.value?
        = w.state.value?.map CreatedWallet.censored :=
      fun w => w.state.value?_map _
    rwa [hm, hm] at hv
  refine ⟨hscreen, hnotices, hcreateName, hrevealed, ?_, ?_, himportName, ?_, ?_, hlist, htoken,
    hcontract, ?_⟩
  · exact map_eq_of_censored (g := CreatedWallet.censored) (fun _ => rfl) hvalue
  · -- a masked key is shown as the same dots, whatever it is
    intro hmasked
    have hmask : ∀ f : CreateForm, f.revealed = false →
        f.keyDisplay? = f.workflow.state.value?.map fun _ => PrivateKey.mask := by
      intro f hf
      unfold CreateForm.keyDisplay? CreateForm.privateKey?
      rw [hf, Option.map_map]
      rfl
    rw [hmask _ hmasked, hmask _ (hrevealed ▸ hmasked)]
    exact map_eq_of_censored (g := CreatedWallet.censored) (fun _ => rfl) hvalue
  · -- whether a key was typed survives the censoring
    have hk := congrArg Text.allBlank hkey
    rw [ImportForm.allBlank_censoredText, ImportForm.allBlank_censoredText] at hk
    rw [ImportForm.hasKey, ImportForm.hasKey, hk]
  · rw [ImportForm.imported?, ImportForm.imported?, himported]
  · -- a phase is independent of the value
    intro w
    have hphase : ∀ r : Panel, (r.censored.workflow w).phase = (r.workflow w).phase := by
      intro r
      cases w with
      | createWallet => exact Workflow.phase_map
      | _ => rfl
    rw [← hphase p, h, hphase q]

/-- **Keys do not show.** In two runs in which the same is done but for keys, the events are the
same and so is what shows of all that is given back; and the panels that are left look the same. -/
theorem keys_do_not_show {ds es : List Deed} (h : List.Forall₂ Deed.Alike ds es) :
    (Bench.start.run ds).events = (Bench.start.run es).events ∧
    List.Forall₂ Given.Same (Bench.start.run ds).value.2 (Bench.start.run es).value.2 ∧
    (Bench.start.run ds).value.1.panel.LooksLike (Bench.start.run es).value.1.panel := by
  -- deed by deed the censored forms are the same
  have hmap : ds.map Deed.censored = es.map Deed.censored := by
    induction h with
    | nil => rfl
    | cons hd _ ih => rw [List.map_cons, List.map_cons, hd.censored_eq, ih]
  -- both runs have one and the same censored run
  have hd := Bench.start.run_censored ds
  have he := Bench.start.run_censored es
  rw [hmap, he] at hd
  refine ⟨?_, ?_, ?_⟩
  · have hev := congrArg Traced.events hd
    rw [Traced.events_map, Traced.events_map] at hev
    exact hev.symm
  · have hg := congrArg (fun t => t.value.2) hd
    have hgiven : (Bench.start.run ds).value.2.map Given.censored
        = (Bench.start.run es).value.2.map Given.censored := hg.symm
    rw [← List.forall₂_eq_eq_eq, List.forall₂_map_left_iff, List.forall₂_map_right_iff] at hgiven
    exact hgiven.imp fun _ _ => Given.same_of_censored
  · have hb := congrArg (fun t => t.value.1.panel) hd
    exact looksLike_of_censored hb.symm

/-- A run in which a key is typed that the backend refuses, and then a wallet with another key is
created and the key copied. -/
def keyedRun (typed key : String) : List Deed :=
  let refused := RemoteReply.importedWallet (.error ⟨"refused"⟩)
  let created := RemoteReply.createdWallet (.ok ⟨⟨"a", ⟨Vector.replicate 20 0⟩, none⟩, ⟨key⟩⟩)
  [.operate .start, .operate (.navigate .importWallet), .operate (.edit .importKey typed),
    .operate (.submit .importWallet), .execute 1 refused,
    .operate (.apply ⟨.importWallet, 1, refused⟩), .operate (.navigate .createWallet),
    .operate (.submit .createWallet), .execute 2 created,
    .operate (.apply ⟨.createWallet, 1, created⟩), .operate (.copy .createdPrivateKey)]

/-- Other keys in both places, and the same events and the same display. -/
theorem keyedRun_does_not_show :
    List.Forall₂ Deed.Alike (keyedRun "k" "p") (keyedRun " l " "q") ∧
    (Bench.start.run (keyedRun "k" "p")).events
      = (Bench.start.run (keyedRun " l " "q")).events ∧
    (Bench.start.run (keyedRun "k" "p")).value.1.panel.createWallet.keyDisplay?
      = (Bench.start.run (keyedRun " l " "q")).value.1.panel.createWallet.keyDisplay? := by
  have h : List.Forall₂ Deed.Alike (keyedRun "k" "p") (keyedRun " l " "q") := by
    have hsame : ∀ op, (Deed.operate op).Alike (.operate op) := fun op => .operate (.same op)
    refine .cons (hsame _) <| .cons (hsame _) <| .cons (.operate (.key ?_)) <| .cons (hsame _) <|
      .cons (.execute 1 (.same _)) <| .cons (hsame _) <| .cons (hsame _) <| .cons (hsame _) <|
      .cons (.execute 2 (.key rfl)) <| .cons (.operate (.apply (.key rfl))) <|
      .cons (hsame _) .nil
    decide
  obtain ⟨hevents, -, hlooks⟩ := keys_do_not_show h
  exact ⟨h, hevents, hlooks.keyDisplay (by decide +kernel)⟩

end Panel

end WalletPanel
