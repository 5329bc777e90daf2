import WalletPanel.Proofs.Panel.Told
import WalletPanel.Proofs.Text.Trimming
import WalletPanel.Proofs.Token.Specs

/-!
# What a submission does

Four of the forms are filled in by the user before they are submitted. `submit_law` says what a
submission of one of them does. It sends a request exactly if the phase allows one and the form is
filled in (`Panel.Filled`). Then the request says what the form says (`Panel.Says`), and a request
under way is all that has changed. Otherwise nothing has changed, but that the user is told what is
wrong with the form, unless a request is under way.

Neither predicate is read off `call`, which makes its checks in an order; that the two come to what
`call` does is `call_eq_ok_iff`.

The last section asks whether a request can go out with nothing to read in one of its texts. The
forms look for more than blanks in all of them but one: a symbol has only to be there. So what is
wrong with a request can be nothing but its symbol (`texts_of_request`), and a blank symbol does go
out (`blank_symbol_goes_out`).
-/

namespace WalletPanel

/-! ### Texts with something to read in them -/

namespace Text

/-- A text has a character in it that is no blank. -/
def Legible (s : String) : Prop := ∃ c ∈ s.toList, isBlank c = false

/-- There is something to read in a text exactly if it is not all blank. -/
theorem legible_iff (s : String) : Legible s ↔ allBlank s = false := by
  unfold Legible allBlank
  rw [List.all_eq_false]
  simp only [Bool.not_eq_true]

instance (s : String) : Decidable (Legible s) := decidable_of_iff _ (legible_iff s).symm

/-- What may not be cut off is left. -/
theorem mem_strip_of_neg {p : Char → Bool} {c : Char} {s : List Char} (h : c ∈ s)
    (hc : p c = false) : c ∈ strip p s := by
  obtain ⟨before, after, hs, hbefore, hafter⟩ := exists_append_strip p s
  have hkept : ∀ {t : List Char}, t.all p = true → c ∉ t := fun hall hmem =>
    absurd (List.all_eq_true.mp hall c hmem) (Bool.eq_false_iff.mp hc)
  rw [hs] at h
  rcases List.mem_append.mp h with h | h
  · exact (List.mem_append.mp h).resolve_left (hkept hbefore)
  · exact absurd h (hkept hafter)

/-- Trimming leaves what there is to read. -/
theorem Legible.trimBlank {s : String} (h : Legible s) : Legible (trimBlank s) := by
  obtain ⟨c, hs, hc⟩ := h
  refine ⟨c, ?_, hc⟩
  rw [toList_trimBlank]
  exact mem_strip_of_neg hs hc

end Text

/-- To tell nothing leaves the log as it is. -/
theorem NoticeLog.append_numbered_nil (log : NoticeLog) :
    (⟨log.entries ++ numbered log.length []⟩ : NoticeLog) = log :=
  congrArg NoticeLog.mk (List.append_nil _)

namespace Panel

/-! ### What a form says -/

/-- A form is filled in. -/
def Filled (p : Panel) : WorkflowId → Prop
  | .createWallet => Text.Legible p.createWallet.name
  | .importWallet => Text.Legible p.importWallet.key ∧ Text.Legible p.importWallet.name
  | .walletList => True
  | .tokenCreator => ∃ token, p.tokenCreator.spec = .ok token
  | .contractWriter => Text.Legible p.contractWriter.description

/-- A call says what a form says. Names and descriptions are as they were typed, a key is without
the blanks around it, and a token is the one that its form describes. -/
def Says (p : Panel) : WorkflowId → RemoteCall → Prop
  | .createWallet, c => c = .createWallet ⟨p.createWallet.name⟩
  | .importWallet, c =>
    c = .importWallet ⟨⟨Text.trimBlank p.importWallet.key⟩, p.importWallet.name⟩
  | .walletList, c => c = .listWallets
  | .tokenCreator, c => ∃ token, p.tokenCreator.spec = .ok token ∧ c = .createToken token
  | .contractWriter, c => c = .generateContract ⟨p.contractWriter.description⟩

/-- A form makes a call exactly if it is filled in, and the call says what the form says. -/
theorem call_eq_ok_iff (p : Panel) (w : WorkflowId) (c : RemoteCall) :
    p.call w = .ok c ↔ p.Filled w ∧ p.Says w c := by
  -- each form has its own checks, and its call is made of what they let pass
  cases w with
  | createWallet =>
    unfold call CreateForm.call Filled Says
    dsimp only
    rw [Text.legible_iff]
    cases Text.allBlank p.createWallet.name <;> simp [eq_comm]
  | importWallet =>
    unfold call ImportForm.call Filled Says
    dsimp only
    rw [Text.legible_iff, Text.legible_iff]
    cases Text.allBlank p.importWallet.key <;> cases Text.allBlank p.importWallet.name <;>
      simp [eq_comm]
  | walletList => simp [call, Filled, Says, eq_comm]
  | tokenCreator =>
    unfold call Filled Says
    cases p.tokenCreator.spec <;> simp [Except.map, eq_comm]
  | contractWriter =>
    unfold call ContractForm.call Filled Says
    dsimp only
    rw [Text.legible_iff]
    cases Text.allBlank p.contractWriter.description <;> simp [eq_comm]

/-- A form makes a call exactly if it is filled in. -/
theorem exists_call_iff (p : Panel) (w : WorkflowId) : (∃ c, p.call w = .ok c) ↔ p.Filled w := by
  constructor
  · rintro ⟨c, hc⟩
    exact ((p.call_eq_ok_iff w c).mp hc).1
  · intro h
    cases hc : p.call w with
    | ok c => exact ⟨c, rfl⟩
    | error e =>
      -- a form that is filled in has a call that says so
      obtain ⟨c, hs⟩ : ∃ c, p.Says w c := by
        cases w with
        | tokenCreator =>
          obtain ⟨token, ht⟩ := h
          exact ⟨_, token, ht, rfl⟩
        | _ => exact ⟨_, rfl⟩
      rw [(p.call_eq_ok_iff w c).mpr ⟨h, hs⟩] at hc
      cases hc

/-- Something is wrong with a form exactly if it is not filled in. -/
theorem fault?_eq_none_iff (p : Panel) (w : WorkflowId) : p.fault? w = none ↔ p.Filled w := by
  rw [fault?_eq, ← exists_call_iff]
  cases p.call w <;> simp

/-- A request that goes out is that of a form that is filled in, and says what the form says. -/
theorem says_of_submit {p : Panel} {w : WorkflowId} {d : Dispatch}
    (h : (p.submit w).value.2 = some d) : p.Filled w ∧ p.Says w d.call := by
  by_cases hw : w = .walletList
  · -- the list is submitted by loading it, which is no call of a form
    subst hw
    change p.mount.value.2 = some d at h
    rw [value_mount] at h
    split at h
    · cases h
    · cases h
      exact ⟨trivial, rfl⟩
  · rw [value_submit p hw] at h
    rcases value_submitCall w (p.workflow w) (p.call w) with ⟨c, hc, -, hv⟩ | ⟨-, hv⟩
    · rw [hv] at h
      cases h
      exact (p.call_eq_ok_iff w c).mp hc
    · rw [hv] at h
      cases h

/-- A request goes out for the workflow whose form was submitted. -/
theorem workflow_of_submit {p : Panel} {w : WorkflowId} {d : Dispatch}
    (h : (p.submit w).value.2 = some d) : d.workflow = w := by
  rcases (p.asks_submit w).asked with ⟨hnone, -⟩ | ⟨e, he, hworkflow, -⟩
  · rw [hnone] at h
    cases h
  · rw [he] at h
    cases h
    exact hworkflow

/-- A form sends a request exactly if its phase allows one and it is filled in. -/
theorem sends_iff (p : Panel) {w : WorkflowId} (hw : w ≠ .walletList) :
    (∃ d, (p.submit w).value.2 = some d) ↔ (p.workflow w).Ready ∧ p.Filled w := by
  rw [value_submit p hw]
  rcases value_submitCall w (p.workflow w) (p.call w) with ⟨c, hc, hready, hv⟩ | ⟨hnone, hv⟩
  · rw [hv]
    exact ⟨fun _ => ⟨hready, ((p.call_eq_ok_iff w c).mp hc).1⟩, fun _ => ⟨_, rfl⟩⟩
  · -- a form that is filled in makes a call, so that it was the phase
    rw [hv]
    refine ⟨nofun, fun ⟨hready, hfilled⟩ => ?_⟩
    obtain ⟨c, hc⟩ := (p.exists_call_iff w).mpr hfilled
    exact absurd hready (hnone c hc)

/-- The list is asked for unless it is on its way. -/
theorem sends_list_iff (p : Panel) :
    (∃ d, (p.submit .walletList).value.2 = some d) ↔
      (p.workflow .walletList).phase ≠ .submitting := by
  have hstate : (p.workflow .walletList).state = .submitting ↔
      (p.workflow .walletList).phase = .submitting := by
    rw [← WorkflowState.isSubmitting_eq_true_iff]
    exact WorkflowState.isSubmitting_iff _
  have hvalue : (p.submit .walletList).value = p.mount.value := rfl
  rw [hvalue, value_mount, ne_eq, ← hstate]
  split
  · next h => exact ⟨nofun, fun hne => absurd h hne⟩
  · next h => exact ⟨fun _ => h, fun _ => ⟨_, rfl⟩⟩

/-! ### What a submission tells -/

/-- The user is told nothing about a form that is filled in. -/
theorem told_submit_of_filled {p : Panel} {w : WorkflowId} (h : p.Filled w) :
    p.told (.submit w) = [] := by
  rw [told, (p.fault?_eq_none_iff w).mpr h]
  exact ite_self _

/-- The user is told one thing about a form that is not. -/
theorem exists_told_submit {p : Panel} {w : WorkflowId}
    (hphase : (p.workflow w).phase ≠ .submitting) (h : ¬ p.Filled w) :
    ∃ e, p.fault? w = some e ∧ p.told (.submit w) = [(.error, e.message)] := by
  cases hf : p.fault? w with
  | none => exact absurd ((p.fault?_eq_none_iff w).mp hf) h
  | some e =>
    refine ⟨e, rfl, ?_⟩
    rw [told, if_neg hphase, hf]
    rfl

/-! ### The law -/

/-- The log after an operation is the one before with what the operation tells. -/
theorem notices_next (p : Panel) (op : Op) :
    (p.next op).notices = ⟨p.notices.entries ++ numbered p.notices.length (p.told op)⟩ :=
  congrArg NoticeLog.mk (entries_next p op)

/-- A submission touches the workflow of its form and the log. -/
theorem next_submit (p : Panel) {w : WorkflowId} (h : w ≠ .walletList) :
    p.next (.submit w) =
      { p.setWorkflow w (submitCall w (p.workflow w) (p.call w)).value.1 with
        notices := ⟨p.notices.entries ++ numbered p.notices.length (p.told (.submit w))⟩ } := by
  have hnext : p.next (.submit w)
      = { (p.submit w).value.1 with notices := (p.next (.submit w)).notices } := rfl
  rw [hnext, notices_next, value_submit p h]

/-- A panel is the one before if nothing was told and its workflow was set. -/
theorem setWorkflow_with_notices (p : Panel) (w : WorkflowId) (x : Workflow w.Value) :
    { p.setWorkflow w x with notices := ⟨p.notices.entries ++ numbered p.notices.length []⟩ }
      = p.setWorkflow w x := by
  rw [NoticeLog.append_numbered_nil]
  cases w <;> rfl

/-- To put a workflow where it is already changes nothing. -/
@[simp] theorem setWorkflow_workflow (p : Panel) (w : WorkflowId) :
    p.setWorkflow w (p.workflow w) = p := by
  cases w <;> rfl

/-- **What a submission does.** A form that the user fills in sends a request exactly if its phase
allows one and it is filled in. The request says what the form says, under the next generation, and
apart from the request under way the panel is the one before. A submission that sends nothing
leaves the panel as it is; only if no request is under way and the form is not filled in, the user
is told the first thing that is wrong with it. -/
theorem submit_law (p : Panel) {w : WorkflowId} (hw : w ≠ .walletList) :
    ((∃ d, (p.submit w).value.2 = some d) ↔
      ((p.workflow w).phase = .idle ∨ (p.workflow w).phase = .failed) ∧ p.Filled w) ∧
    (∀ d, (p.submit w).value.2 = some d →
      d.workflow = w ∧ p.Says w d.call ∧ d.ticket = (p.workflow w).generation + 1 ∧
      p.next (.submit w) = p.setWorkflow w ⟨.submitting, d.ticket⟩) ∧
    ((p.submit w).value.2 = none →
      ((p.workflow w).phase = .submitting ∨ p.Filled w → p.next (.submit w) = p) ∧
      ((p.workflow w).phase ≠ .submitting ∧ ¬ p.Filled w →
        ∃ e, p.fault? w = some e ∧
          p.next (.submit w) = { p with notices := p.notices.post .error e.message })) := by
  refine ⟨p.sends_iff hw, ?_⟩
  rw [next_submit p hw, value_submit p hw]
  rcases value_submitCall w (p.workflow w) (p.call w) with ⟨c, hc, -, hv⟩ | ⟨-, hv⟩
  · -- the request goes out
    obtain ⟨hfilled, hsaid⟩ := (p.call_eq_ok_iff w c).mp hc
    rw [hv, told_submit_of_filled hfilled, setWorkflow_with_notices]
    refine ⟨?_, nofun⟩
    rintro d ⟨⟩
    exact ⟨rfl, hsaid, rfl, rfl⟩
  · -- nothing goes out, and the workflow stays
    rw [hv]
    refine ⟨nofun, fun _ => ⟨?_, ?_⟩⟩
    · intro h
      -- under way, nothing is told; filled in, there is nothing to tell
      have htold : p.told (.submit w) = [] := by
        rcases h with h | h
        · rw [told]
          exact if_pos h
        · exact told_submit_of_filled h
      rw [htold, setWorkflow_with_notices, setWorkflow_workflow]
    · rintro ⟨hphase, hfilled⟩
      obtain ⟨e, hfault, htold⟩ := exists_told_submit hphase hfilled
      rw [htold, setWorkflow_workflow]
      exact ⟨e, hfault, rfl⟩

/-- A panel with a wallet to import, a request for which has failed. -/
def retriedImport : Panel :=
  { start with importWallet := ⟨" Main", " 0xabc\n", ⟨.failed "no such key", 7⟩⟩ }

/-- The form is sent again, with the key trimmed and the name as it was typed. -/
theorem retriedImport_follows_law :
    WorkflowId.importWallet ≠ .walletList ∧
    (retriedImport.submit .importWallet).value.2 =
      some ⟨.importWallet, 8, .importWallet ⟨⟨"0xabc"⟩, " Main"⟩⟩ := by
  have hw : WorkflowId.importWallet ≠ .walletList := by decide
  obtain ⟨hiff, hout, -⟩ := submit_law retriedImport hw
  obtain ⟨⟨w, ticket, call⟩, hd⟩ := hiff.mpr ⟨.inr rfl, by decide, by decide⟩
  obtain ⟨rfl, rfl, rfl, -⟩ := hout _ hd
  rw [hd]
  exact ⟨hw, by decide +kernel⟩

end Panel

/-! ### What is there to read in a request -/

namespace RemoteCall

/-- The texts that a call cannot do without, but for a symbol. -/
def texts : RemoteCall → List String
  | createWallet request => [request.name]
  | importWallet request => [request.privateKey.expose, request.name]
  | listWallets => []
  | createToken spec => [spec.name]
  | generateContract request => [request.description]

/-- The symbol of the token that a call asks for, if it asks for one. -/
def symbol? : RemoteCall → Option String
  | createToken spec => some spec.symbol
  | _ => none

end RemoteCall

namespace Panel

/-- What a token form describes has the form's name and symbol, with something to read in the name
and something at all in the symbol. -/
theorem of_spec_eq_ok {f : TokenForm} {token : TokenSpec} (h : f.spec = .ok token) :
    token.name = f.name ∧ token.symbol = f.symbol ∧ Text.Legible f.name ∧ f.symbol ≠ "" := by
  have hdescribes := (TokenForm.spec_eq_ok_iff f token).mp h
  obtain ⟨hname, hsymbol, -⟩ := hdescribes.complete
  rw [ne_eq, Text.trimBlank_eq_empty_iff, Bool.not_eq_true, ← Text.legible_iff] at hname
  exact ⟨hdescribes.name, hdescribes.symbol, hname, hsymbol⟩

/-- There is something to read in each text of a request, but for a symbol. That is the one in the
form, which is not empty and may be blank. -/
theorem texts_of_request {p : Panel} {w : WorkflowId} {d : Dispatch}
    (h : (p.submit w).value.2 = some d) :
    (∀ text ∈ d.call.texts, Text.Legible text) ∧
    d.call.symbol? = (if w = .tokenCreator then some p.tokenCreator.symbol else none) ∧
    (w = .tokenCreator → p.tokenCreator.symbol ≠ "") := by
  have hsaid := says_of_submit h
  -- what each form says of the call that it makes
  cases w with
  | createWallet =>
    obtain ⟨hname, hcall⟩ := hsaid
    rw [hcall]
    exact ⟨List.forall_mem_singleton.mpr hname, rfl, nofun⟩
  | importWallet =>
    obtain ⟨⟨hkey, hname⟩, hcall⟩ := hsaid
    rw [hcall]
    exact ⟨List.forall_mem_cons.mpr ⟨hkey.trimBlank, List.forall_mem_singleton.mpr hname⟩, rfl,
      nofun⟩
  | walletList =>
    rw [hsaid.2]
    exact ⟨nofun, rfl, nofun⟩
  | tokenCreator =>
    obtain ⟨-, token, htoken, hcall⟩ := hsaid
    obtain ⟨hname, hsymbol, hlegible, hthere⟩ := of_spec_eq_ok htoken
    rw [hcall]
    refine ⟨List.forall_mem_singleton.mpr ?_, congrArg some hsymbol, fun _ => hthere⟩
    rw [hname]
    exact hlegible
  | contractWriter =>
    obtain ⟨hdescription, hcall⟩ := hsaid
    rw [hcall]
    exact ⟨List.forall_mem_singleton.mpr hdescription, rfl, nofun⟩

/-- A panel with a wallet to import, whose key is typed between blanks of several kinds. -/
def wideKey : Panel :=
  { start with importWallet := ⟨"Main", "\u00a0 0xabc\u3000", .start⟩ }

/-- The key goes out without the blanks, and there is something to read in it. -/
theorem wideKey_goes_out :
    (wideKey.submit .importWallet).value.2 =
      some ⟨.importWallet, 1, .importWallet ⟨⟨"0xabc"⟩, "Main"⟩⟩ ∧
    ∀ text ∈ (RemoteCall.importWallet ⟨⟨"0xabc"⟩, "Main"⟩).texts, Text.Legible text := by
  have h : (wideKey.submit .importWallet).value.2 =
      some ⟨.importWallet, 1, .importWallet ⟨⟨"0xabc"⟩, "Main"⟩⟩ := by
    decide +kernel
  exact ⟨h, (texts_of_request h).1⟩

/-- A run that describes a token whose symbol is a blank. -/
def blankSymbol : List Op :=
  [.navigate .tokenCreator, .edit .tokenName "Demo", .edit .tokenSymbol " ",
    .edit .tokenSupply "1"]

/-- A blank symbol goes out: one of the texts of the request has nothing to read in it. -/
theorem blank_symbol_goes_out :
    ((start.after blankSymbol).submit .tokenCreator).value.2 =
      some ⟨.tokenCreator, 1, .createToken ⟨"Demo", " ", 1, 18⟩⟩ ∧
    (RemoteCall.createToken ⟨"Demo", " ", 1, 18⟩).symbol? = some " " ∧ ¬ Text.Legible " " :=
  ⟨by decide +kernel, rfl, by decide⟩

end Panel

end WalletPanel
