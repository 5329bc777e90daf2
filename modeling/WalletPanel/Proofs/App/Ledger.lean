import Mathlib.Data.List.Forall2
import Mathlib.Data.List.Nodup
import WalletPanel.Proofs.App.Operations
import WalletPanel.Proofs.Panel.Pending

/-!
# No call and no copy is lost

A call that the panel has asked for is under way, or its completion lies ready, or the panel has
taken the completion: one of the three, and only once. The same holds of copies. `Books` says so of
a background and the history of the panel beside it, and one lemma for each thing that can happen
to a background says that the books stay in order: a call or a copy is started, something comes of
a request, a copy ends, what is ready is taken.

From this follows what keeps a workflow from waiting for nothing (`submitting_iff_pending`): it
waits exactly if one of the calls that are under way or ready has its current ticket. All that is
pending besides has lost its meaning for good. Together this is `run_keeps_books`.
-/

namespace WalletPanel

/-! ### Accounts -/

/-- An account of what was issued: each item is at one of three places, namely still running, ready
in the form that it has come to, or taken in that form. -/
def Accounted (R : α → β → Prop) (issued running : List α) (ready taken : List β) : Prop :=
  ∃ r t, issued.Perm (running ++ r ++ t) ∧ List.Forall₂ R r ready ∧ List.Forall₂ R t taken

namespace Accounted

variable {R : α → β → Prop} {issued running pre post : List α} {ready taken : List β}

/-- Where nothing was issued, nothing is missing. -/
theorem nil : Accounted R [] [] [] [] := ⟨[], [], .refl _, .nil, .nil⟩

/-- It does not matter in which order the items run. -/
theorem of_perm {running' : List α} (h : Accounted R issued running ready taken)
    (hp : running.Perm running') : Accounted R issued running' ready taken := by
  obtain ⟨r, t, hi, hr, ht⟩ := h
  exact ⟨r, t, hi.trans ((hp.append_right r).append_right t), hr, ht⟩

/-- An item that is issued runs. -/
theorem issue (h : Accounted R issued running ready taken) (a : α) :
    Accounted R (issued ++ [a]) (running ++ [a]) ready taken := by
  obtain ⟨r, t, hi, hr, ht⟩ := h
  refine ⟨r, t, ?_, hr, ht⟩
  calc List.Perm (issued ++ [a]) (a :: issued) := List.perm_append_singleton a issued
    List.Perm _ (a :: (running ++ (r ++ t))) := by
      rw [← List.append_assoc]
      exact hi.cons a
    List.Perm _ (running ++ [a] ++ r ++ t) := by
      rw [List.append_assoc, List.append_assoc]
      exact List.perm_middle.symm

/-- This for an item that may be missing. -/
theorem issue? (h : Accounted R issued running ready taken) (o : Option α) :
    Accounted R (issued ++ o.toList) (running ++ o.toList) ready taken := by
  cases o with
  | none =>
    rw [Option.toList_none, List.append_nil, List.append_nil]
    exact h
  | some a => exact h.issue a

/-- An item that ends is ready in the form that it has come to. -/
theorem finish {a : α} {b : β} (h : Accounted R issued (pre ++ a :: post) ready taken)
    (hab : R a b) : Accounted R issued (pre ++ post) (ready ++ [b]) taken := by
  obtain ⟨r, t, hi, hr, ht⟩ := h
  refine ⟨r ++ [a], t, hi.trans ?_, List.rel_append hr (.cons hab .nil), ht⟩
  -- both rows come to the same once the item is moved to the front
  have hl : (pre ++ a :: post ++ r ++ t).Perm (a :: (pre ++ post ++ r ++ t)) := by
    simp only [List.append_assoc, List.cons_append]
    exact List.perm_middle
  have hr : (pre ++ post ++ (r ++ [a]) ++ t).Perm (a :: (pre ++ post ++ r ++ t)) := by
    have hs : pre ++ post ++ (r ++ [a]) ++ t = (pre ++ post ++ r) ++ a :: t := by simp
    rw [hs]
    exact List.perm_middle
  exact hl.trans hr.symm

/-- What is ready is taken. -/
theorem take (h : Accounted R issued running ready taken) :
    Accounted R issued running [] (taken ++ ready) := by
  obtain ⟨r, t, hi, hr, ht⟩ := h
  -- what was ready is now behind what was taken before
  refine ⟨[], t ++ r, hi.trans ?_, .nil, List.rel_append ht hr⟩
  rw [List.append_nil, List.append_assoc]
  exact List.perm_append_comm.append_left running

/-- What items and the forms that they come to have in common is accounted for as well. -/
theorem perm_map (h : Accounted R issued running ready taken) {f : α → γ} {g : β → γ}
    (hfg : ∀ a b, R a b → f a = g b) :
    (issued.map f).Perm (running.map f ++ ready.map g ++ taken.map g) := by
  obtain ⟨r, t, hi, hr, ht⟩ := h
  have hmap : ∀ {xs ys}, List.Forall₂ R xs ys → xs.map f = ys.map g := by
    intro xs ys h
    induction h with
    | nil => rfl
    | cons hab _ ih => rw [List.map_cons, List.map_cons, hfg _ _ hab, ih]
  have hm := hi.map f
  rwa [List.map_append, List.map_append, hmap hr, hmap ht] at hm

/-- What is ready was issued. -/
theorem exists_of_mem_ready (h : Accounted R issued running ready taken) {b : β}
    (hb : b ∈ ready) : ∃ a ∈ issued, R a b := by
  obtain ⟨r, t, hi, hr, -⟩ := h
  obtain ⟨n, hn, rfl⟩ := List.mem_iff_getElem.mp hb
  -- the items that are ready stand in the order of their forms
  have hlen : n < r.length := hr.length_eq ▸ hn
  refine ⟨r[n], hi.symm.subset ?_, hr.get hlen hn⟩
  exact List.mem_append_left _ (List.mem_append_right _ (List.getElem_mem hlen))

end Accounted

/-! ### The books of a background -/

/-- An outcome in which a copy can end: with whatever result of the clipboard. -/
def CopyJob.Ends (job : CopyJob) (o : CopyOutcome) : Prop :=
  ∃ clipboard : String → Id (Except ClipboardError Unit), job.run clipboard = o

/-- A copy can end with any result. -/
theorem CopyJob.ends_mk (job : CopyJob) (result : Except ClipboardError Unit) :
    job.Ends ⟨job.target, result⟩ :=
  ⟨fun _ => result, rfl⟩

namespace Panel

/-- The copy that has to be made after an operation, if there is one. -/
def Entry.job? (e : Entry) : Option CopyJob :=
  match e.answer with
  | .job j => j
  | _ => none

/-- The outcome of a copy that an operation delivers, if it delivers one. -/
def Op.outcome? : Op → Option CopyOutcome
  | .finishCopy o => some o
  | _ => none

/-- The outcome of a copy that came in by an operation, if one did. -/
def Entry.outcome? (e : Entry) : Option CopyOutcome := e.op.outcome?

/-- The copies that were asked for. -/
def jobs (h : List Entry) : List CopyJob := h.filterMap Entry.job?

/-- The outcomes of copies that have come in. -/
def finished (h : List Entry) : List CopyOutcome := h.filterMap Entry.outcome?

/-- An entry issues the call that it asks for. -/
theorem issued_concat (h : List Entry) (e : Entry) :
    issued (h ++ [e]) = issued h ++ e.request?.toList := by
  cases he : e.request? <;> simp [issued, he]

/-- An entry issues the copy that it asks for. -/
theorem jobs_concat (h : List Entry) (e : Entry) :
    jobs (h ++ [e]) = jobs h ++ e.job?.toList := by
  cases he : e.job? <;> simp [jobs, he]

/-- An entry that brings no completion takes none. -/
theorem applied_concat_of_none (h : List Entry) {e : Entry} (he : e.completion? = none) :
    applied (h ++ [e]) = applied h := by
  simp [applied, he]

/-- An entry that brings no outcome of a copy takes none. -/
theorem finished_concat_of_none (h : List Entry) {e : Entry} (he : e.outcome? = none) :
    finished (h ++ [e]) = finished h := by
  simp [finished, he]

end Panel

open Panel (Op Entry issued applied jobs finished)

/-- The completions that are ready are taken, in their order. -/
theorem App.filterMap_completion?_readyOps (b : Background) :
    (App.readyOps b).filterMap Op.completion? = b.completions := by
  simp [App.readyOps, Function.comp_def, Op.completion?]

/-- The outcomes that are ready are taken, in their order. -/
theorem App.filterMap_outcome?_readyOps (b : Background) :
    (App.readyOps b).filterMap Op.outcome? = b.outcomes := by
  simp [App.readyOps, Function.comp_def, Op.outcome?]

/-- The calls that wait, without how they go on. -/
def Background.running (b : Background) : List Dispatch := b.waiting.map (·.dispatch)

/-- **The books.** What the panel has asked for in the course of a history is accounted for by the
background and by what the panel has taken. -/
structure Books (h : List Entry) (b : Background) : Prop where
  calls : Accounted Dispatch.Completes (issued h) b.running b.completions (applied h)
  copies : Accounted CopyJob.Ends (jobs h) b.copying b.outcomes (finished h)
  /-- A call that waits ends with a completion of its own. -/
  waiting : ∀ call ∈ b.waiting, ∀ arrival,
    (call.next arrival).All fun c => call.dispatch.Completes c.value
  causal : Panel.Causal h

namespace Books

variable {h : List Entry} {b : Background}

/-- A background in which nothing was started has its books in order. -/
theorem idle : Books [] .idle where
  calls := .nil
  copies := .nil
  waiting := fun _ hc => by cases hc
  causal := fun _ _ _ he => by cases he

/-- A call that goes on waits again or is done. -/
theorem proceed {d : Dispatch} {pre post : List Dispatch} {x : Http.Exchange (Traced Completion)}
    (hc : Accounted Dispatch.Completes (issued h) (pre ++ d :: post) b.completions (applied h))
    (hr : b.running = pre ++ post)
    (hj : Accounted CopyJob.Ends (jobs h) b.copying b.outcomes (finished h))
    (hw : ∀ call ∈ b.waiting, ∀ arrival,
      (call.next arrival).All fun c => call.dispatch.Completes c.value)
    (hx : x.All fun c => d.Completes c.value) (hcausal : Panel.Causal h) :
    Books h (b.proceed d x) := by
  cases x with
  | done completion =>
    -- the call has come to a completion of its own, which is ready now
    refine ⟨?_, hj, hw, hcausal⟩
    have hf := hc.finish hx
    rwa [← hr] at hf
  | ask request next =>
    -- the call waits for another request, at the end of the row
    refine ⟨?_, hj, ?_, hcausal⟩
    · have hrun : (b.proceed d (.ask request next)).running = pre ++ post ++ [d] := by
        rw [← hr]
        exact List.map_append
      rw [hrun]
      refine hc.of_perm ?_
      exact List.perm_middle.trans (List.perm_append_singleton d _).symm
    · intro call hcall
      rcases List.mem_append.mp hcall with hcall | hcall
      · exact hw call hcall
      · rw [List.mem_singleton.mp hcall]
        exact hx

/-- Something comes of a request. -/
theorem arrive (hb : Books h b) (number : Nat) (arrival : Http.Arrival) :
    Books h (b.arrive number arrival) := by
  unfold Background.arrive
  cases hf : b.waiting.find? (·.awaits number arrival) with
  | none => exact hb
  | some call =>
    -- the call that waits for the request is taken out of the row, and no other one
    obtain ⟨hp, pre, post, hsplit, hpre⟩ := List.find?_eq_some_iff_append.mp hf
    have herase : b.waiting.eraseP (·.awaits number arrival) = pre ++ post := by
      rw [hsplit, List.eraseP_append_right _ (by simpa using hpre)]
      exact congrArg (pre ++ ·) (List.eraseP_cons_of_pos hp)
    have hrun : b.running = pre.map (·.dispatch) ++ call.dispatch :: post.map (·.dispatch) := by
      rw [Background.running, hsplit]
      simp
    have hcalls := hb.calls
    rw [hrun] at hcalls
    refine proceed hcalls ?_ hb.copies ?_ ?_ hb.causal
    · rw [Background.running]
      simp [herase]
    · intro c hc
      exact hb.waiting c (List.mem_of_mem_eraseP hc)
    · exact hb.waiting call (List.mem_of_find?_eq_some hf) arrival

/-- A copy ends. -/
theorem endCopy (hb : Books h b) (place : Nat) (result : Except ClipboardError Unit) :
    Books h (b.endCopy place result) := by
  unfold Background.endCopy
  cases hj : b.copying[place]? with
  | none => exact hb
  | some job =>
    obtain ⟨hlt, rfl⟩ := List.getElem?_eq_some_iff.mp hj
    refine ⟨hb.calls, ?_, hb.waiting, hb.causal⟩
    -- the job is taken out of the row at its place
    have hsplit := hb.copies
    rw [← List.take_append_drop place b.copying, List.drop_eq_getElem_cons hlt] at hsplit
    have hf := hsplit.finish (CopyJob.ends_mk _ result)
    rwa [← List.eraseIdx_eq_take_drop_succ] at hf

/-- What an answer of the panel asks for is started. -/
theorem serve {e : Entry} (hb : Books h b) (backend : Backend) (hc : e.completion? = none)
    (ho : e.outcome? = none) : Books (h ++ [e]) (b.serve backend e.answer) := by
  have hcausal : Panel.Causal (h ++ [e]) := by
    apply hb.causal.append
    intro x hx c hxc
    rw [List.mem_singleton.mp hx, hc] at hxc
    cases hxc
  -- the entry issues at most one call or one copy and takes nothing
  have hcalls : Accounted Dispatch.Completes (issued (h ++ [e])) (b.running ++ e.request?.toList)
      b.completions (applied (h ++ [e])) := by
    rw [Panel.issued_concat, Panel.applied_concat_of_none h hc]
    exact hb.calls.issue? _
  have hcopies : Accounted CopyJob.Ends (jobs (h ++ [e])) (b.copying ++ e.job?.toList) b.outcomes
      (finished (h ++ [e])) := by
    rw [Panel.jobs_concat, Panel.finished_concat_of_none h ho]
    exact hb.copies.issue? _
  unfold Entry.request? at hcalls
  unfold Entry.job? at hcopies
  cases hans : e.answer with
  | dispatch d =>
    rw [hans] at hcalls hcopies
    dsimp only at hcalls hcopies
    rw [Option.toList_none, List.append_nil] at hcopies
    cases d with
    | none =>
      rw [Option.toList_none, List.append_nil] at hcalls
      exact ⟨hcalls, hcopies, hb.waiting, hcausal⟩
    | some d =>
      exact proceed hcalls (List.append_nil _).symm hcopies hb.waiting (d.all_run _) hcausal
  | job j =>
    rw [hans] at hcalls hcopies
    dsimp only at hcalls hcopies
    rw [Option.toList_none, List.append_nil] at hcalls
    cases j with
    | none =>
      rw [Option.toList_none, List.append_nil] at hcopies
      exact ⟨hcalls, hcopies, hb.waiting, hcausal⟩
    | some j => exact ⟨hcalls, hcopies, hb.waiting, hcausal⟩
  | none | resolution _ | flag _ =>
    rw [hans] at hcalls hcopies
    dsimp only at hcalls hcopies
    rw [Option.toList_none, List.append_nil] at hcalls hcopies
    exact ⟨hcalls, hcopies, hb.waiting, hcausal⟩

/-- What the answers to a row of operations ask for is started. -/
theorem serve_history (hb : Books h b) (backend : Backend) {ops : List Op}
    (hops : ∀ op ∈ ops, ¬ op.FromBackground) (p : Panel) :
    Books (h ++ p.history ops)
      ((p.history ops).foldl (fun g e => g.serve backend e.answer) b) := by
  induction ops generalizing h b p with
  | nil =>
    rw [Panel.history_nil, List.append_nil]
    exact hb
  | cons op ops ih =>
    -- the user brings no completion and no outcome of a copy
    have hop := hops op List.mem_cons_self
    have hnone : (p.entry op).completion? = none ∧ (p.entry op).outcome? = none := by
      cases op with
      | apply c => exact absurd trivial hop
      | finishCopy o => exact absurd trivial hop
      | _ => exact ⟨rfl, rfl⟩
    have hs := hb.serve backend hnone.1 hnone.2
    have hi := ih hs (fun o ho => hops o (List.mem_cons_of_mem op ho)) (p.next op)
    rw [List.append_assoc] at hi
    exact hi

/-- What is ready is taken. -/
theorem take (hb : Books h b) (p : Panel) :
    Books (h ++ p.history (App.readyOps b)) b.taken := by
  -- to take what is ready asks for nothing
  have hnone : ∀ op ∈ App.readyOps b, ∀ q : Panel,
      (q.entry op).request? = none ∧ (q.entry op).job? = none := by
    intro op hop q
    have hop := App.fromBackground_of_mem_readyOps hop
    cases op with
    | apply c => exact ⟨rfl, rfl⟩
    | finishCopy o => exact ⟨rfl, rfl⟩
    | _ => exact hop.elim
  have hissued : issued (p.history (App.readyOps b)) = [] :=
    (Panel.filterMap_history p fun op hop q => (hnone op hop q).1).trans (by simp)
  have hjobs : jobs (p.history (App.readyOps b)) = [] :=
    (Panel.filterMap_history p fun op hop q => (hnone op hop q).2).trans (by simp)
  have happlied : applied (p.history (App.readyOps b)) = b.completions := by
    refine (Panel.filterMap_history p fun op _ q => rfl).trans ?_
    rw [App.filterMap_completion?_readyOps]
  have hfinished : finished (p.history (App.readyOps b)) = b.outcomes := by
    refine (Panel.filterMap_history p fun op _ q => rfl).trans ?_
    rw [App.filterMap_outcome?_readyOps]
  refine ⟨?_, ?_, hb.waiting, hb.causal.append ?_⟩
  · rw [Panel.issued_append, Panel.applied_append, hissued, happlied, List.append_nil]
    exact hb.calls.take
  · have hj : jobs (h ++ p.history (App.readyOps b)) = jobs h := by
      rw [jobs, List.filterMap_append]
      exact (congrArg (jobs h ++ ·) hjobs).trans (List.append_nil _)
    have hf : finished (h ++ p.history (App.readyOps b)) = finished h ++ b.outcomes := by
      rw [finished, List.filterMap_append]
      exact congrArg (finished h ++ ·) hfinished
    rw [hj, hf]
    exact hb.copies.take
  · -- the completions that are taken were ready, hence their calls were issued
    intro e he c hc
    have hm : c ∈ applied (p.history (App.readyOps b)) := List.mem_filterMap.mpr ⟨e, he, hc⟩
    rw [happlied] at hm
    exact hb.calls.exists_of_mem_ready hm

end Books

/-! ### Runs of the application -/

namespace App

/-- One event keeps the books. -/
theorem books_step {h : List Entry} {app : App} (hb : Books h app.background) (e : Event) :
    Books (h ++ app.panel.history (app.eventOps e)) (app.step e).1.background := by
  cases e with
  | arrive number arrival =>
    have ha := hb.arrive number arrival
    rwa [← List.append_nil h] at ha
  | endCopy place result =>
    have he := hb.endCopy place result
    rwa [← List.append_nil h] at he
  | frame now g =>
    -- first what is ready is taken, then the user has a turn
    have ht := hb.take app.panel
    rw [← background_takeReady] at ht
    have hops : ∀ op ∈ app.userOps g, ¬ op.FromBackground :=
      fun op => not_fromBackground_of_mem_userOps
    have hs := ht.serve_history app.takeReady.backend hops app.takeReady.panel
    rw [← (does_user app now g).background, (does_takeReady app).panel, List.append_assoc,
      ← Panel.history_append] at hs
    exact hs

/-- **The books of a run.** At any time in a run everything that the panel has asked for is
accounted for. -/
theorem books_run (backend : Backend) (events : List Event) :
    Books (trace backend events) ((App.start backend).run events).background := by
  have hrun : ∀ (es : List Event) (h : List Entry) (app : App), Books h app.background →
      Books (h ++ app.panel.history (app.ops es)) (app.run es).background := by
    intro es
    induction es with
    | nil =>
      intro h app hb
      rw [ops, Panel.history_nil, List.append_nil]
      exact hb
    | cons e es ih =>
      intro h app hb
      have hi := ih _ _ (books_step hb e)
      rw [panel_step, List.append_assoc, ← Panel.history_append] at hi
      exact hi
  -- the application starts with the call for the list
  have hstart : Books [Panel.start.entry .start] (App.start backend).background := by
    have hs := Books.idle.serve (e := Panel.start.entry .start) backend rfl rfl
    rwa [← background_start] at hs
  have h := hrun events _ _ hstart
  rw [panel_start] at h
  exact h

/-! ### Waiting and what is pending -/

end App

/-- The keys of the calls that are under way or ready. -/
def Background.pending (b : Background) : List (WorkflowId × UInt64) :=
  b.running.map Dispatch.key ++ b.completions.map Completion.key

namespace App

variable {backend : Backend} {events : List Event}

/-- What has been issued is pending or has been taken. -/
theorem perm_pending (backend : Backend) (events : List Event) :
    ((issued (trace backend events)).map Dispatch.key).Perm
      (((App.start backend).run events).background.pending
        ++ (applied (trace backend events)).map Completion.key) :=
  (books_run backend events).calls.perm_map fun _ _ h => h.key_eq

/-- No two calls that are pending have the same key. -/
theorem count_pending_le (hb : ∀ w, Panel.bumps (trace backend events) w < 2 ^ 64)
    (k : WorkflowId × UInt64) :
    ((App.start backend).run events).background.pending.count k
      + ((applied (trace backend events)).map Completion.key).count k ≤ 1 := by
  -- all keys that were issued are counted here, and they are different
  rw [← List.count_append, ← (perm_pending backend events).count_eq]
  exact List.nodup_iff_count.mp (Panel.nodup_keys_issued hb) k

/-- **No waiting for nothing.** A workflow waits exactly if one call with its current ticket is
pending, and then only one is. -/
theorem submitting_iff_pending (hb : ∀ w, Panel.bumps (trace backend events) w < 2 ^ 64)
    (w : WorkflowId) :
    ((((App.start backend).run events).panel.workflow w).state = .submitting ↔
      ((App.start backend).run events).background.pending.count
        (w, (((App.start backend).run events).panel.workflow w).generation) = 1) := by
  have hs := Panel.submitting_iff (books_run backend events).causal (hb w)
  rw [← panel_run_start, ← trace] at hs
  rw [hs]
  generalize (w, (((App.start backend).run events).panel.workflow w).generation) = k
  -- one at most of all that are pending or taken has the key
  have hle := count_pending_le hb k
  have hmem := (perm_pending backend events).mem_iff (a := k)
  rw [List.mem_append] at hmem
  constructor
  · -- issued and not taken, hence pending
    rintro ⟨hi, ha⟩
    have hp : k ∈ ((App.start backend).run events).background.pending :=
      (hmem.mp hi).resolve_right ha
    have hpos := List.count_pos_iff.mpr hp
    omega
  · -- pending, hence issued; and what is pending has not been taken, for it counts only once
    intro h1
    have hp : k ∈ ((App.start backend).run events).background.pending := by
      rw [← List.count_pos_iff]
      omega
    refine ⟨hmem.mpr (Or.inl hp), ?_⟩
    intro ha
    have hpos := List.count_pos_iff.mpr ha
    omega

/-- **What is pending besides is void.** A call that is pending under another ticket than the one
that its workflow waits for will be answered as stale whenever its completion is taken. -/
theorem stale_of_pending (hb : ∀ w, Panel.bumps (trace backend events) w < 2 ^ 64)
    {w : WorkflowId} {t : UInt64}
    (hp : (w, t) ∈ ((App.start backend).run events).background.pending)
    (hn : ¬ (((App.start backend).run events).panel.workflow w).Awaits t) {more : List Event}
    (hm : Panel.bumps (trace backend (events ++ more)) w < 2 ^ 64) {c : Completion}
    (hc : c.key = (w, t)) :
    (((App.start backend).run (events ++ more)).panel.entry (.apply c)).answer
      = .resolution .stale := by
  obtain ⟨rfl, rfl⟩ := Prod.mk.inj hc
  -- under the current ticket the workflow would wait for it
  have ht : c.ticket
      ≠ (((App.start backend).run events).panel.workflow c.workflow).generation := by
    intro ht
    refine hn ⟨ht, (submitting_iff_pending hb _).mpr ?_⟩
    have hle := count_pending_le hb (c.workflow, c.ticket)
    have hpos := List.count_pos_iff.mpr hp
    rw [← ht]
    omega
  have hi := (perm_pending backend events).mem_iff.mpr (List.mem_append_left _ hp)
  have hops : .start :: (App.start backend).ops (events ++ more)
      = (.start :: (App.start backend).ops events)
        ++ ((App.start backend).run events).ops more := by
    rw [ops_append]
    rfl
  rw [panel_run_start] at ht
  rw [trace, hops] at hm
  have hlater := Panel.ticket_ne_generation_later hm hi ht
  rw [← hops, ← panel_run_start] at hlater
  rw [Panel.entry, Panel.step_apply_of_not_awaits fun _ _ ha => hlater ha.1]

/-- **The ledger of a run.** As long as no ticket comes up twice, no two calls are the same, each
call and each copy is at exactly one of the three places, and a workflow waits exactly if one call
with its current ticket is pending. Whatever else is pending is answered as stale, now and after
any further events. -/
theorem run_keeps_books (hb : ∀ w, Panel.bumps (trace backend events) w < 2 ^ 64) :
    (issued (trace backend events)).Nodup ∧
    Accounted Dispatch.Completes (issued (trace backend events))
      ((App.start backend).run events).background.running
      ((App.start backend).run events).background.completions
      (applied (trace backend events)) ∧
    Accounted CopyJob.Ends (jobs (trace backend events))
      ((App.start backend).run events).background.copying
      ((App.start backend).run events).background.outcomes
      (finished (trace backend events)) ∧
    ∀ w, ((((App.start backend).run events).panel.workflow w).state = .submitting ↔
        ((App.start backend).run events).background.pending.count
          (w, (((App.start backend).run events).panel.workflow w).generation) = 1) ∧
      ∀ t, (w, t) ∈ ((App.start backend).run events).background.pending →
        ¬ (((App.start backend).run events).panel.workflow w).Awaits t →
        ∀ more c, Panel.bumps (trace backend (events ++ more)) w < 2 ^ 64 → c.key = (w, t) →
          (((App.start backend).run (events ++ more)).panel.entry (.apply c)).answer
            = .resolution .stale := by
  have hbooks := books_run backend events
  -- requests with different keys are different
  have hnodup := List.Nodup.of_map _ (Panel.nodup_keys_issued hb)
  refine ⟨hnodup, hbooks.calls, hbooks.copies, ?_⟩
  intro w
  refine ⟨submitting_iff_pending hb w, ?_⟩
  intro t hp hn more c hm hc
  exact stale_of_pending hb hp hn hm hc

/-- A run of a user who does not wait for the list but goes on to create a wallet; then the
connection for the list fails. -/
def impatientRun : List Event :=
  [.frame 0 (.click 2), .frame 1 ⟨[(.createName, "a")], [10]⟩, .arrive 0 (.nothing "")]

/-- The call for the list is void, while that for the wallet is waited for. -/
theorem impatientRun_keeps_books :
    (∀ w, Panel.bumps (trace .standard impatientRun) w < 2 ^ 64) ∧
    Accounted Dispatch.Completes (issued (trace .standard impatientRun))
      ((App.start .standard).run impatientRun).background.running
      ((App.start .standard).run impatientRun).background.completions
      (applied (trace .standard impatientRun)) ∧
    ((App.start .standard).run impatientRun).background.pending
      = [(.createWallet, 1), (.walletList, 2)] ∧
    (((App.start .standard).run impatientRun).panel.workflow .createWallet).state
      = .submitting ∧
    (((App.start .standard).run impatientRun).panel.workflow .walletList).state
      ≠ .submitting := by
  have hb : ∀ w, Panel.bumps (trace .standard impatientRun) w < 2 ^ 64 := by
    intro w
    cases w <;> decide +kernel
  have hp : ((App.start .standard).run impatientRun).background.pending
      = [(.createWallet, 1), (.walletList, 2)] := by decide +kernel
  -- that the list is not waited for is read off its ticket
  obtain ⟨-, hcalls, -, hw⟩ := run_keeps_books hb
  refine ⟨hb, hcalls, hp, (hw .createWallet).1.mpr ?_, fun hs => ?_⟩
  · decide +kernel
  · have hcount := (hw .walletList).1.mp hs
    revert hcount
    decide +kernel

end App

end WalletPanel
