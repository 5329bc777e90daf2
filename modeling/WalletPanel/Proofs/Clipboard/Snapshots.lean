import WalletPanel.Proofs.Panel.Told

/-!
# Copies are snapshots

Between the click on a copy button and the message that the text was copied, anything may be done to
the panel: the wallet may be given up, the list loaded anew, another text copied. A job has its text
with it, so that none of this has a part in what the clipboard is given.

To say so, a panel stands on a desk (`Desk`) with the jobs that it has handed out, the texts that
the clipboard was given and the outcomes that are there to be reported. Errands do something to one
of these and leave the others, in any order (`Desk.next`). That the rows of a desk only grow at
their ends (`Desk.extends_after`) carries everything from the moment in which it is made to the
moment in which it is asked for.

What a panel holds (`Panel.Holds`) is said by the states of its workflows, without a look at what
the screens show; a masked key is held as any other value is.
-/

namespace WalletPanel

/-! ### Values that can be copied -/

/-- A panel holds a text as the value of a target: the workflow that has such values has succeeded
with it. -/
inductive Panel.Holds (p : Panel) : CopyTarget → String → Prop where
  | createdAddress {wallet : CreatedWallet}
      (h : p.createWallet.workflow.state = .succeeded wallet) :
      Holds p .createdAddress wallet.record.address.checksummed
  | createdPrivateKey {wallet : CreatedWallet}
      (h : p.createWallet.workflow.state = .succeeded wallet) :
      Holds p .createdPrivateKey wallet.privateKey.expose
  | importedAddress {record : WalletRecord}
      (h : p.importWallet.workflow.state = .succeeded record) :
      Holds p .importedAddress record.address.checksummed
  | listedAddress {records : List WalletRecord}
      (h : p.walletList.workflow.state = .succeeded records) (index : Nat)
      (hi : index < records.length) :
      Holds p (.listedAddress index) records[index].address.checksummed
  | tokenContract {token : GeneratedToken}
      (h : p.tokenCreator.workflow.state = .succeeded token) :
      Holds p .tokenContract token.contractCode
  | generatedContract {contract : GeneratedContract}
      (h : p.contractWriter.workflow.state = .succeeded contract) :
      Holds p .generatedContract contract.contractCode

namespace Panel

variable {p : Panel} {target : CopyTarget} {text : String}

/-- A text that can be copied is held as the value of its target. -/
theorem holds_of_copyText? (h : p.copyText? target = some text) : p.Holds target text := by
  cases target with
  | listedAddress index =>
    obtain ⟨record, hr, rfl⟩ := Option.map_eq_some_iff.mp h
    unfold WalletList.wallets at hr
    cases hs : p.walletList.workflow.state with
    | succeeded records =>
      rw [hs] at hr
      obtain ⟨hi, rfl⟩ := List.getElem?_eq_some_iff.mp hr
      exact .listedAddress hs index hi
    | _ =>
      -- a list that is not loaded is shown as if it were empty
      rw [hs] at hr
      cases hr
  | _ =>
    -- the other targets are parts of the value that one workflow has
    simp only [copyText?, CreateForm.created?, CreateForm.privateKey?, ImportForm.imported?,
      TokenForm.generated?, ContractForm.generated?, Option.map_map, Option.map_eq_some_iff,
      WorkflowState.value?_eq_some_iff] at h
    obtain ⟨value, hs, rfl⟩ := h
    constructor
    exact hs

/-- The text of a target is the value that the panel holds. -/
theorem copyText?_eq_some_iff : p.copyText? target = some text ↔ p.Holds target text := by
  refine ⟨holds_of_copyText?, fun h => ?_⟩
  -- each value is found in the state of its own workflow
  cases h with
  | createdAddress h =>
    rw [copyText?, CreateForm.created?, h]
    rfl
  | createdPrivateKey h =>
    rw [copyText?, CreateForm.privateKey?, h]
    rfl
  | importedAddress h =>
    rw [copyText?, ImportForm.imported?, h]
    rfl
  | listedAddress h index hi =>
    have hr : p.walletList.wallets = _ := congrArg (fun s => s.value?.getD []) h
    rw [copyText?, hr, WorkflowState.value?, Option.getD_some, List.getElem?_eq_getElem hi]
    rfl
  | tokenContract h =>
    rw [copyText?, TokenForm.generated?, h]
    rfl
  | generatedContract h =>
    rw [copyText?, ContractForm.generated?, h]
    rfl

/-! ### Asking for a copy, and reporting how it went -/

/-- The job that an answer has, if it has one. -/
def Answer.job? : Answer → Option CopyJob
  | job j => j
  | _ => Option.none

/-- A copy is answered with a job that has the text with it, if there is a text. -/
theorem answer_copy (p : Panel) (target : CopyTarget) :
    (p.step (.copy target)).value.2 = .job ((p.copyText? target).map (CopyJob.mk target)) := by
  change Answer.job (p.copy target).value = _
  unfold copy
  cases p.copyText? target <;> rfl

/-- To ask for a copy changes nothing, and tells the user nothing. -/
theorem next_copy (p : Panel) (target : CopyTarget) : p.next (.copy target) = p := by
  -- a copy that is asked for tells nothing
  have hlog : (p.next (.copy target)).notices = p.notices := by
    have h : (p.next (.copy target)).notices.entries = p.notices.entries ++ [] :=
      entries_next p (.copy target)
    rw [List.append_nil] at h
    exact congrArg NoticeLog.mk h
  change { p with notices := (p.next (.copy target)).notices } = p
  rw [hlog]

/-- How an outcome is taken: it is told once, as a success under the name of what was copied or as a
failure with the advice to copy by hand. The answer says which of them it was, and nothing else
changes. -/
structure Finishes (p : Panel) (o : CopyOutcome) : Prop where
  told : (p.next (.finishCopy o)).notices.entries = p.notices.entries ++
    [if o.result.isOk then ⟨p.notices.length, .success, o.target.label ++ " copied to clipboard!"⟩
      else ⟨p.notices.length, .error, "Failed to copy. Please copy manually."⟩]
  answered : (p.step (.finishCopy o)).value.2 = .flag o.result.isOk
  rest : p.next (.finishCopy o) = { p with notices := (p.next (.finishCopy o)).notices }

/-- Every outcome is taken in this way. -/
theorem finishes (p : Panel) (o : CopyOutcome) : p.Finishes o := by
  obtain ⟨target, result⟩ := o
  refine ⟨?_, ?_, rfl⟩
  · rw [entries_next, told, copyNotice]
    cases result with
    | ok _ => cases target <;> rfl
    | error _ => rfl
  · cases result <;> rfl

end Panel

/-! ### A desk -/

/-- A panel with what is under way beside it. -/
structure Desk where
  panel : Panel
  /-- The jobs that the panel has handed out, the oldest first. -/
  jobs : List CopyJob
  /-- The texts that the clipboard was given, the oldest first. -/
  given : List String
  /-- The outcomes of the jobs that were run, the oldest first. -/
  outcomes : List CopyOutcome

/-- Something that is done at a desk. -/
inductive Errand where
  /-- An operation is done to the panel. -/
  | operate (op : Panel.Op)
  /-- The job at this place is run. -/
  | make (job : Nat)
  /-- The outcome at this place is reported to the panel. -/
  | report (outcome : Nat)

namespace Desk

/-- A desk with a new panel. -/
def start : Desk := ⟨.start, [], [], []⟩

-- how the clipboard answers a text after those that it was given before
variable (answer : List String → String → Except ClipboardError Unit)

/-- Gives a text to the clipboard. -/
def give (text : String) : StateM (List String) (Except ClipboardError Unit) := do
  let given ← get
  set (given ++ [text])
  return answer given text

/-- What an errand does; without effect if there is no such job or no such outcome. -/
def next (d : Desk) : Errand → Desk
  | .operate op =>
    { d with
      panel := d.panel.next op
      jobs := d.jobs ++ (d.panel.step op).value.2.job?.toList }
  | .make n =>
    match d.jobs[n]? with
    | some job =>
      let (outcome, given) := (job.run (give answer)).run d.given
      { d with given := given, outcomes := d.outcomes ++ [outcome] }
    | none => d
  | .report n =>
    match d.outcomes[n]? with
    | some outcome => { d with panel := d.panel.next (.finishCopy outcome) }
    | none => d

/-- A desk after a row of errands. -/
def after (d : Desk) (errands : List Errand) : Desk := errands.foldl (next answer) d

variable {answer} {d : Desk}

/-- A job that is run gives its text to the clipboard, once. -/
theorem next_make {n : Nat} {job : CopyJob} (h : d.jobs[n]? = some job) :
    d.next answer (.make n) =
      { d with
        given := d.given ++ [job.text]
        outcomes := d.outcomes ++ [⟨job.target, answer d.given job.text⟩] } := by
  dsimp only [next]
  rw [h]
  rfl

/-- An outcome that is reported is told to the panel. -/
theorem next_report {n : Nat} {outcome : CopyOutcome} (h : d.outcomes[n]? = some outcome) :
    d.next answer (.report n) = { d with panel := d.panel.next (.finishCopy outcome) } := by
  dsimp only [next]
  rw [h]

/-! ### Rows that only grow -/

/-- A desk whose rows begin with those of another one. -/
structure Extends (d e : Desk) : Prop where
  jobs : d.jobs <+: e.jobs
  given : d.given <+: e.given
  outcomes : d.outcomes <+: e.outcomes

/-- A desk begins with its own rows. -/
theorem Extends.refl (d : Desk) : d.Extends d :=
  ⟨List.prefix_rfl, List.prefix_rfl, List.prefix_rfl⟩

/-- What begins with a beginning begins with the whole of it. -/
theorem Extends.trans {d e f : Desk} (hde : d.Extends e) (hef : e.Extends f) : d.Extends f :=
  ⟨hde.jobs.trans hef.jobs, hde.given.trans hef.given, hde.outcomes.trans hef.outcomes⟩

/-- An errand takes nothing out of a row and puts nothing in before what is there. -/
theorem extends_next (d : Desk) (errand : Errand) : d.Extends (d.next answer errand) := by
  -- an errand adds at the end of a row, or does nothing
  cases errand with
  | operate op => exact ⟨List.prefix_append _ _, List.prefix_rfl, List.prefix_rfl⟩
  | make n =>
    cases h : d.jobs[n]? with
    | some job =>
      rw [next_make h]
      exact ⟨List.prefix_rfl, List.prefix_append _ _, List.prefix_append _ _⟩
    | none =>
      dsimp only [next]
      rw [h]
      exact Extends.refl d
  | report n =>
    cases h : d.outcomes[n]? with
    | some outcome =>
      rw [next_report h]
      exact ⟨List.prefix_rfl, List.prefix_rfl, List.prefix_rfl⟩
    | none =>
      dsimp only [next]
      rw [h]
      exact Extends.refl d

/-- Whatever is done, the rows of a desk begin as they did. -/
theorem extends_after (d : Desk) (errands : List Errand) : d.Extends (d.after answer errands) := by
  induction errands generalizing d with
  | nil => exact Extends.refl d
  | cons errand errands ih => exact (extends_next d errand).trans (ih (d.next answer errand))

/-- What stands at a place of a row stands there as long as the row only grows. -/
theorem getElem?_of_prefix {xs ys : List α} (h : xs <+: ys) {n : Nat} {a : α}
    (ha : xs[n]? = some a) : ys[n]? = some a := by
  obtain ⟨hn, rfl⟩ := List.getElem?_eq_some_iff.mp ha
  exact List.prefix_iff_getElem?.mp h n hn

/-- The job of a copy keeps its place, whatever is done after the copy was asked for. -/
theorem job_of_copy {target : CopyTarget} {text : String} (h : d.panel.Holds target text)
    (between : List Errand) :
    ((d.next answer (.operate (.copy target))).after answer between).jobs[d.jobs.length]?
      = some ⟨target, text⟩ := by
  refine getElem?_of_prefix (extends_after _ between).jobs ?_
  have hjobs : (d.next answer (.operate (.copy target))).jobs = d.jobs ++ [⟨target, text⟩] := by
    change d.jobs ++ (d.panel.step (.copy target)).value.2.job?.toList = _
    rw [Panel.answer_copy, Panel.copyText?_eq_some_iff.mpr h]
    rfl
  rw [hjobs, List.getElem?_concat_length]

end Desk

/-- **Copies are snapshots.** A copy can be asked for just when the panel holds the value, and to
ask for it changes nothing and tells the user nothing. Whatever is done `between` that and the run
of the job, the clipboard is given the text that was held when the copy was asked for, and that
once; whatever is done `later`, up to the report, how the clipboard answered is told once, and
nothing else comes of it. -/
theorem copies_are_snapshots (answer : List String → String → Except ClipboardError Unit)
    (d : Desk) (target : CopyTarget) :
    (∀ job, (d.panel.step (.copy target)).value.2 = .job (some job) ↔
      job.target = target ∧ d.panel.Holds target job.text) ∧
    ((d.panel.step (.copy target)).value.2 = .job none ↔ ∀ text, ¬ d.panel.Holds target text) ∧
    d.panel.next (.copy target) = d.panel ∧
    ∀ text, d.panel.Holds target text → ∀ between later : List Errand,
      let found := (d.next answer (.operate (.copy target))).after answer between
      let outcome : CopyOutcome := ⟨target, answer found.given text⟩
      let made := found.next answer (.make d.jobs.length)
      let kept := made.after answer later
      made = { found with
        given := found.given ++ [text], outcomes := found.outcomes ++ [outcome] } ∧
      kept.next answer (.report found.outcomes.length)
        = { kept with panel := kept.panel.next (.finishCopy outcome) } ∧
      kept.panel.Finishes outcome := by
  refine ⟨fun job => ?_, ?_, d.panel.next_copy target, ?_⟩
  · rw [Panel.answer_copy, Panel.Answer.job.injEq, Option.map_eq_some_iff]
    constructor
    · rintro ⟨text, htext, rfl⟩
      exact ⟨rfl, Panel.copyText?_eq_some_iff.mp htext⟩
    · rintro ⟨rfl, hholds⟩
      exact ⟨job.text, Panel.copyText?_eq_some_iff.mpr hholds, rfl⟩
  · rw [Panel.answer_copy, Panel.Answer.job.injEq, Option.map_eq_none_iff,
      Option.eq_none_iff_forall_ne_some]
    exact forall_congr' fun text => not_congr Panel.copyText?_eq_some_iff
  · -- the job has kept its place up to its run, and so has the outcome up to the report
    intro text hholds between later found outcome made kept
    have hmade : made = { found with
        given := found.given ++ [text], outcomes := found.outcomes ++ [outcome] } :=
      Desk.next_make (Desk.job_of_copy hholds between)
    refine ⟨hmade, Desk.next_report ?_, Panel.finishes _ _⟩
    refine Desk.getElem?_of_prefix (Desk.extends_after made later).outcomes ?_
    rw [hmade]
    exact List.getElem?_concat_length

/-- A clipboard that takes the first text that it is given and no other. -/
def firstOnly (given : List String) (_ : String) : Except ClipboardError Unit :=
  if given = [] then .ok () else .error .unavailable

/-- A wallet with a key. -/
def minted : CreatedWallet := ⟨⟨"Main", ⟨Vector.replicate 20 0⟩, none⟩, ⟨"0xabc"⟩⟩

/-- A key that was masked when its copy was asked for, and that the panel has given up when the job
is run, is copied all the same. -/
theorem lost_key_is_copied :
    let d := Desk.start.after firstOnly [.operate (.submit .createWallet),
      .operate (.apply ⟨.createWallet, 1, .createdWallet (.ok minted)⟩)]
    let found := (d.next firstOnly (.operate (.copy .createdPrivateKey))).after firstOnly
      [.operate (.reset .createWallet)]
    let made := found.next firstOnly (.make 0)
    d.panel.createWallet.revealed = false ∧ d.panel.Holds .createdPrivateKey "0xabc" ∧
    found.panel.copyText? .createdPrivateKey = none ∧ made.given = ["0xabc"] ∧
    (made.next firstOnly (.report 0)).panel.notices.entries.map (·.message)
      = ["Wallet created successfully!", "Private Key copied to clipboard!"] := by
  intro d found made
  have hstate : d.panel.createWallet.workflow.state = .succeeded minted := rfl
  have hholds : d.panel.Holds .createdPrivateKey "0xabc" := .createdPrivateKey hstate
  obtain ⟨hmade, hreported, hfinishes⟩ :=
    (copies_are_snapshots firstOnly d .createdPrivateKey).2.2.2 "0xabc" hholds
      [.operate (.reset .createWallet)] []
  have hlog := congrArg (fun e : Desk => e.panel.notices.entries) hreported
  exact ⟨rfl, hholds, rfl, congrArg Desk.given hmade,
    congrArg (List.map (·.message)) (hlog.trans hfinishes.told)⟩

end WalletPanel
