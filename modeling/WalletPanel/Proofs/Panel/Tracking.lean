import Mathlib.Data.List.Induction
import Mathlib.Tactic.ByContra
import WalletPanel.Proofs.Panel.History

/-!
# A panel does as its history says

The panel knows a completion by its ticket and by nothing else; the history knows which request it
is of. The two agree as long as no ticket comes up twice, which is the case until a workflow has
had `2 ^ 64` generations. So the proof has two parts.

* `Tracked` — the invariant of all runs, whatever comes in: the state of a workflow is what the
  history says when completions are told apart by their tickets, the generation counts requests and
  resets, and a request that has not been given up has the current generation for its ticket.
* `place_unique` — no two requests of a workflow have the same ticket, from which follows that
  tickets tell completions apart as well as their origin does (`stateOf_eq_stateByTicket`).

The main statement is `run_follows_history`.
-/

namespace WalletPanel.Panel

variable {h : List Entry} {p : Panel} {w : WorkflowId}

/-! ### The invariant of runs -/

/-- What holds between a workflow of a panel and the history that has led to the panel. -/
structure Tracked (h : List Entry) (p : Panel) (w : WorkflowId) : Prop where
  state : (p.workflow w).state = stateByTicket w h
  generation : (p.workflow w).generation = UInt64.ofNat (bumps h w)
  ticket : ∀ n d, lastRequest? h w = some (n, d) → ¬ GivenUpSince h n w →
    d.ticket = (p.workflow w).generation

/-- A new panel is as its empty history says. -/
theorem tracked_start (w : WorkflowId) : Tracked [] start w := by
  refine ⟨?_, ?_, ?_⟩
  · rw [state_workflow_start]
    rfl
  · rw [generation_workflow_start]
    rfl
  · intro n d hl
    cases hl

/-- A workflow that waits has an outstanding request, and the ticket of that request is the only one
that the workflow takes. -/
theorem Tracked.exists_outstanding (ht : Tracked h p w)
    (hs : (p.workflow w).state = .submitting) :
    ∃ r, Outstanding w (broughtByTicket w) h r ∧ r.2.ticket = (p.workflow w).generation := by
  rw [ht.state] at hs
  obtain ⟨r, ho⟩ := stateBy_eq_submitting_iff.mp hs
  exact ⟨r, ho, ht.ticket r.1 r.2 ho.last ho.kept⟩

/-- One operation keeps the invariant. -/
theorem Tracked.step (ht : Tracked h p w) (op : Op) :
    Tracked (h ++ [p.entry op]) (p.next op) w := by
  have hg := ht.generation
  -- by what the operation does to the workflow; the entry shows which of the cases it is
  cases p.step_cases op w with
  | requested d asked kind kept ticket result =>
    have hb : (p.entry op).bumps w = generations w := by simp [Entry.bumps, asked, kept]
    refine ⟨?_, ?_, ?_⟩
    · rw [result]
      exact (stateBy_concat_of_request asked).symm
    · rw [result, bumps_concat, hb, UInt64.ofNat_add, ← hg]
      exact ticket
    · -- the last request is the one that has just gone out
      intro n e he _
      rw [lastRequest?_concat, asked] at he
      cases he
      rw [result]
  | givenUp asked left result =>
    have hb : (p.entry op).bumps w = 1 := by simp [Entry.bumps, asked, left]
    refine ⟨?_, ?_, ?_⟩
    · rw [result]
      exact (stateBy_concat_of_givenUp asked left).symm
    · rw [result, bumps_concat, hb, UInt64.ofNat_add, ← hg]
      rfl
    · -- whatever went out before has been given up
      intro n e he hk
      rw [lastRequest?_concat_of_none h asked] at he
      exact absurd ((givenUpSince_concat (lt_of_lastRequest? he) w).mpr (Or.inr left)) hk
  | settled c r taken brought awaited result =>
    subst taken
    have hb : (p.entry (.apply c)).bumps w = 0 := rfl
    have hk : (p.entry (.apply c)).givenUp? ≠ some w := nofun
    obtain ⟨q, ho, hq⟩ := ht.exists_outstanding awaited.2
    -- the completion is one for the outstanding request, for it has the ticket of it
    have hr : broughtByTicket w q (p.entry (.apply c), h.length) = some r := by
      have hc : c.ticket = q.2.ticket := awaited.1.trans hq.symm
      rw [broughtByTicket, completion?_entry_apply, Option.filter_some,
        if_pos (decide_eq_true hc)]
      exact brought
    refine ⟨?_, ?_, ?_⟩
    · rw [result]
      exact (stateBy_concat_of_brought rfl hk ho hr).symm
    · rw [result, bumps_concat, hb]
      exact hg
    · intro n e he hn
      rw [lastRequest?_concat_of_none h rfl] at he
      rw [givenUpSince_concat (lt_of_lastRequest? he)] at hn
      rw [result]
      exact ht.ticket n e he fun hu => hn (Or.inl hu)
  | untouched asked kept dropped result =>
    have hb : (p.entry op).bumps w = 0 := by simp [Entry.bumps, asked, kept]
    -- what comes in for the outstanding request would be awaited
    have hr : ∀ q, Outstanding w (broughtByTicket w) h q →
        broughtByTicket w q (p.entry op, h.length) = none := by
      intro q ho
      by_contra hne
      obtain ⟨r, hr⟩ := Option.ne_none_iff_exists'.mp hne
      obtain ⟨c, hc, hcr⟩ := Option.bind_eq_some_iff.mp hr
      obtain ⟨hop, hct⟩ := Option.filter_eq_some_iff.mp hc
      have hs : (p.workflow w).state = .submitting := by
        rw [ht.state]
        exact stateBy_eq_submitting_iff.mpr ⟨q, ho⟩
      have hq := ht.ticket q.1 q.2 ho.last ho.kept
      exact dropped c r (Entry.op_of_completion? hop) hcr ⟨(of_decide_eq_true hct).trans hq, hs⟩
    refine ⟨?_, ?_, ?_⟩
    · rw [result, ht.state]
      exact (stateBy_concat_of_not_brought asked kept hr).symm
    · rw [result, bumps_concat, hb]
      exact hg
    · intro n e he hn
      rw [lastRequest?_concat_of_none h asked] at he
      rw [givenUpSince_concat (lt_of_lastRequest? he)] at hn
      rw [result]
      exact ht.ticket n e he fun hu => hn (Or.inl hu)

/-- **Every run is tracked.** No matter what comes in, each workflow is as the history says when
completions are told apart by their tickets. -/
theorem tracked_run (ops : List Op) (w : WorkflowId) :
    Tracked (start.history ops) (start.after ops) w := by
  induction ops using List.reverseRecOn with
  | nil => exact tracked_start w
  | append_singleton ops op ih =>
    rw [history_concat, after_append]
    exact ih.step op

/-! ### Tickets -/

section Tickets

variable {ops : List Op} {m n : Nat} {e f : Entry} {c : Completion} {d d' : Dispatch}
  {source : Nat → Nat}

/-- What is known of a request that has gone out: it is of the kind of its workflow, and its ticket
is the number of generations that the workflow had been given by then. -/
theorem request_of_getElem? (he : (start.history ops)[n]? = some e)
    (hd : e.requestOf? w = some d) :
    d.call.operation = w.operation ∧
      d.ticket = UInt64.ofNat (bumps ((start.history ops).take (n + 1)) w) ∧
      bumps ((start.history ops).take n) w < bumps ((start.history ops).take (n + 1)) w := by
  -- the entry is that of an operation done to what the first `n` operations have left
  have htake := List.take_add_one (l := start.history ops) (i := n)
  rw [he] at htake
  rw [htake, take_history]
  rw [getElem?_history] at he
  obtain ⟨op, -, rfl⟩ := Option.map_eq_some_iff.mp he
  have hs := (tracked_run (ops.take n) w).step op
  cases (start.after (ops.take n)).step_cases op w with
  | requested d' asked kind kept ticket result =>
    rw [asked] at hd
    cases hd
    refine ⟨kind, ?_, ?_⟩
    · have hg := hs.generation
      rw [result] at hg
      exact hg
    · have hb : ((start.after (ops.take n)).entry op).bumps w = generations w := by
        simp [Entry.bumps, asked, kept]
      have hpos : 0 < generations w := by
        unfold generations
        split <;> decide
      change _ < bumps (_ ++ [_]) w
      rw [bumps_concat, hb]
      exact Nat.lt_add_of_pos_right hpos
  | givenUp asked left result => rw [asked] at hd; cases hd
  | settled c r taken brought awaited result => subst taken; cases hd
  | untouched asked kept dropped result => rw [asked] at hd; cases hd

/-- Below the number of tickets there is one ticket for each number. -/
theorem eq_of_ofNat_eq {a b : Nat} (ha : a < 2 ^ 64) (hb : b < 2 ^ 64)
    (h : UInt64.ofNat a = UInt64.ofNat b) : a = b := by
  have hnat := congrArg UInt64.toNat h
  rwa [UInt64.toNat_ofNat_of_lt' ha, UInt64.toNat_ofNat_of_lt' hb] at hnat

/-- A later request of a workflow has another ticket, as long as the tickets do not start anew. -/
theorem ticket_ne_of_lt (hb : bumps (start.history ops) w < 2 ^ 64) (hmn : m < n)
    (hm : (start.history ops)[m]? = some e) (hn : (start.history ops)[n]? = some f)
    (he : e.requestOf? w = some d) (hf : f.requestOf? w = some d') : d.ticket ≠ d'.ticket := by
  obtain ⟨-, hd, -⟩ := request_of_getElem? hm he
  obtain ⟨-, hd', hlt⟩ := request_of_getElem? hn hf
  have hle : bumps ((start.history ops).take (m + 1)) w
      ≤ bumps ((start.history ops).take n) w := bumps_take_le _ w hmn
  have hall := bumps_take_le_self (start.history ops) w (n + 1)
  -- the later request has taken at least one generation more
  intro ht
  rw [hd, hd'] at ht
  have heq := eq_of_ofNat_eq (by omega) (by omega) ht
  omega

/-- The requests of a workflow are told apart by their tickets. -/
theorem place_unique (hb : bumps (start.history ops) w < 2 ^ 64)
    (hm : (start.history ops)[m]? = some e) (hn : (start.history ops)[n]? = some f)
    (he : e.requestOf? w = some d) (hf : f.requestOf? w = some d')
    (ht : d.ticket = d'.ticket) : m = n := by
  rcases Nat.lt_trichotomy m n with hlt | heq | hgt
  · -- the second one is later
    exact absurd ht (ticket_ne_of_lt hb hlt hm hn he hf)
  · exact heq
  · -- the first one is later
    exact absurd ht.symm (ticket_ne_of_lt hb hgt hn hm hf he)

end Tickets

/-! ### Where completions are from -/

section Sourced

variable {ops : List Op} {source : Nat → Nat} {e : Entry} {n : Nat} {d : Dispatch}

/-- Every completion that comes in is of a request that has gone out before: the one at place `n` is
of the request at place `source n`. Apart from that they may come in any order, any number of times
or not at all. -/
def Sourced (source : Nat → Nat) (h : List Entry) : Prop :=
  ∀ x ∈ h.zipIdx, ∀ c ∈ x.1.completion?,
    source x.2 < x.2 ∧ ∃ d ∈ h[source x.2]?.bind Entry.request?, d.Completes c

instance (source : Nat → Nat) (h : List Entry) : Decidable (Sourced source h) :=
  inferInstanceAs (Decidable (∀ x ∈ h.zipIdx, ∀ c ∈ x.1.completion?,
    source x.2 < x.2 ∧ ∃ d ∈ h[source x.2]?.bind Entry.request?, d.Completes c))

/-- Whether a completion of the request at place `n` has come in. -/
def Delivered (source : Nat → Nat) (h : List Entry) (n : Nat) : Prop :=
  ∃ e ∈ since h n, e.1.completion?.isSome = true ∧ source e.2 = n

/-- A completion that comes in is of a request of its workflow, has the ticket of that request, and
has a result for the workflow. -/
theorem Sourced.exists_request (hs : Sourced source (start.history ops)) {c : Completion}
    (he : (start.history ops)[n]? = some e) (hc : e.completion? = some c) :
    source n < n ∧ ∃ f d, (start.history ops)[source n]? = some f ∧
      f.requestOf? c.workflow = some d ∧ d.ticket = c.ticket ∧
      ∃ r, c.result? c.workflow = some r := by
  obtain ⟨hlt, d, hd, hcomp⟩ := hs (e, n) (List.mem_zipIdx_iff_getElem?.mpr he) c hc
  obtain ⟨f, hf, hfd⟩ := Option.bind_eq_some_iff.mp hd
  obtain ⟨hw, ht, -⟩ := (d.completes_iff c).mp hcomp
  have hr : f.requestOf? c.workflow = some d := by
    rw [Entry.requestOf?, hfd, Option.filter_some, if_pos (decide_eq_true hw.symm)]
  obtain ⟨hk, -, -⟩ := request_of_getElem? hf hr
  exact ⟨hlt, f, d, hf, hr, ht.symm, hcomp.exists_result hw.symm hk⟩

/-- Tickets tell the completions of a request apart from all others as well as their origin does, as
long as no ticket comes up twice. -/
theorem Sourced.brought_eq (hs : Sourced source (start.history ops))
    (hb : bumps (start.history ops) w < 2 ^ 64)
    (hl : lastRequest? (start.history ops) w = some (n, d)) {x : Entry × Nat}
    (hx : x ∈ since (start.history ops) n) :
    broughtFrom source w (n, d) x = broughtByTicket w (n, d) x := by
  unfold broughtFrom broughtByTicket
  have hxm := List.mem_zipIdx_iff_getElem?.mp (List.mem_of_mem_drop hx)
  obtain ⟨e, he, hed⟩ := getElem?_of_lastRequest? hl
  cases hc : x.1.completion? with
  | none => simp
  | some c =>
    obtain ⟨-, f, d', hf, hfd, hd', r, hr⟩ := hs.exists_request hxm hc
    rw [Option.filter_some]
    by_cases hw : c.workflow = w
    · subst hw
      by_cases hn : source x.2 = n
      · -- one and the same request
        rw [hn, he] at hf
        cases hf
        rw [hed] at hfd
        cases hfd
        rw [if_pos hn, if_pos (decide_eq_true hd'.symm)]
      · -- two requests of one workflow, hence two tickets
        have ht : ¬ c.ticket = d.ticket := fun ht =>
          hn (place_unique hb hf he hfd hed (hd'.trans ht))
        rw [if_neg hn, if_neg (by simpa using ht)]
        rfl
    · -- a completion for another workflow has no result for this one
      have hnone : c.result? w = none := if_neg hw
      split <;> split <;> simp [hnone]

/-- So the state is the same, whichever way completions are told apart. -/
theorem Sourced.stateOf_eq_stateByTicket (hs : Sourced source (start.history ops))
    (hb : bumps (start.history ops) w < 2 ^ 64) :
    stateOf source w (start.history ops) = stateByTicket w (start.history ops) :=
  stateBy_congr fun r hl _ hx => hs.brought_eq (n := r.1) (d := r.2) hb hl hx

/-- A first part of a history has its completions from requests of this part. -/
theorem Sourced.of_append {g h : List Entry} (hs : Sourced source (g ++ h)) : Sourced source g := by
  intro x hx c hc
  have hx' := List.mem_zipIdx_iff_getElem?.mp hx
  -- a completion of the part is of an earlier request, which is in the part as well
  have hlt := (List.getElem?_eq_some_iff.mp hx').1
  have hxa : x ∈ (g ++ h).zipIdx := by
    rw [List.mem_zipIdx_iff_getElem?, List.getElem?_append_left hlt]
    exact hx'
  obtain ⟨hsrc, d, hd, hcomp⟩ := hs x hxa c hc
  rw [List.getElem?_append_left (by omega)] at hd
  exact ⟨hsrc, d, hd, hcomp⟩

/-- The outstanding request in the words of the origin: the last one, not given up, of which no
completion has come in. -/
theorem Sourced.outstanding_iff (hs : Sourced source (start.history ops)) (r : Nat × Dispatch) :
    Outstanding w (broughtFrom source w) (start.history ops) r ↔
      lastRequest? (start.history ops) w = some r ∧ ¬ GivenUpSince (start.history ops) r.1 w ∧
        ¬ Delivered source (start.history ops) r.1 := by
  constructor
  · rintro ⟨hl, hg, ho⟩
    refine ⟨hl, hg, ?_⟩
    rintro ⟨x, hx, hc, hsrc⟩
    obtain ⟨c, hc⟩ := Option.isSome_iff_exists.mp hc
    have hxm := List.mem_zipIdx_iff_getElem?.mp (List.mem_of_mem_drop hx)
    obtain ⟨-, f, d, hf, hfd, -, r', hr'⟩ := hs.exists_request hxm hc
    obtain ⟨f', hf', hfd'⟩ := getElem?_of_lastRequest? hl
    -- a completion of the last request would have a result for it
    rw [hsrc, hf'] at hf
    cases hf
    have hw : c.workflow = w := Entry.workflow_unique hfd hfd'
    subst hw
    have hnone := List.findSome?_eq_none_iff.mp ho x hx
    rw [broughtFrom, if_pos hsrc, hc, Option.bind_some, hr'] at hnone
    cases hnone
  · rintro ⟨hl, hg, hd⟩
    refine ⟨hl, hg, List.findSome?_eq_none_iff.mpr fun x hx => ?_⟩
    unfold broughtFrom
    split
    · next hsrc =>
      cases hc : x.1.completion? with
      | none => rfl
      | some c => exact absurd ⟨x, hx, by rw [hc]; rfl, hsrc⟩ hd
    · rfl

/-- A workflow takes a completion exactly if that is the first one of its last request, which has
not been given up. -/
theorem Sourced.awaits_iff {pre : List Op} {c : Completion}
    (hs : Sourced source (start.history (pre ++ [.apply c])))
    (hb : bumps (start.history pre) c.workflow < 2 ^ 64) :
    ((start.after pre).workflow c.workflow).Awaits c.ticket ↔
      ∃ d, lastRequest? (start.history pre) c.workflow = some (source pre.length, d) ∧
        ¬ GivenUpSince (start.history pre) (source pre.length) c.workflow ∧
        ¬ Delivered source (start.history pre) (source pre.length) := by
  obtain ⟨hlt, f, d, hf, hfd, hd, -⟩ :=
    hs.exists_request (getElem?_history_concat start pre _) (completion?_entry_apply _ c)
  rw [history_concat, List.getElem?_append_left (by rwa [length_history])] at hf
  rw [history_concat] at hs
  -- the history until then, in which no ticket has come up twice
  have hpre := hs.of_append
  have ht := tracked_run pre c.workflow
  have hstate := hpre.stateOf_eq_stateByTicket hb
  constructor
  · rintro ⟨hct, hsub⟩
    rw [ht.state, ← hstate] at hsub
    obtain ⟨⟨n, d'⟩, ho⟩ := stateBy_eq_submitting_iff.mp hsub
    obtain ⟨hl, hg, hdel⟩ := (hpre.outstanding_iff _).mp ho
    obtain ⟨f', hf', hfd'⟩ := getElem?_of_lastRequest? hl
    -- the outstanding request has the ticket of the completion, and so does its own request
    have htick : d'.ticket = d.ticket := by rw [ht.ticket n d' hl hg, ← hct, hd]
    have hn : n = source pre.length := place_unique hb hf' hf hfd' hfd htick
    subst hn
    exact ⟨d', hl, hg, hdel⟩
  · rintro ⟨d', hl, hg, hdel⟩
    obtain ⟨f', hf', hfd'⟩ := getElem?_of_lastRequest? hl
    -- the last request is the one that the completion is of
    rw [hf] at hf'
    cases hf'
    rw [hfd] at hfd'
    cases hfd'
    refine ⟨hd.symm.trans (ht.ticket _ d hl hg), ?_⟩
    rw [ht.state, ← hstate]
    exact stateBy_eq_submitting_iff.mpr ⟨_, (hpre.outstanding_iff _).mpr ⟨hl, hg, hdel⟩⟩

end Sourced

/-! ### The state of a workflow -/

/-- **Workflows follow the history.** In a run in which every completion is of a request that went
out before, and in which no workflow has as many generations as there are tickets, the history
alone says how each workflow stands. A completion is taken exactly if it is the first one of the
last request of its workflow and that request has not been given up; all others are answered as
stale and leave the panel, with all that the user has been told, as it is. -/
theorem run_follows_history {source : Nat → Nat} {ops : List Op}
    (hs : Sourced source (start.history ops))
    (hb : ∀ w, bumps (start.history ops) w < 2 ^ 64) :
    (∀ w, ((start.after ops).workflow w).state = stateOf source w (start.history ops)) ∧
    ∀ pre c post, ops = pre ++ .apply c :: post →
      ∃ ρ, ((start.after pre).entry (.apply c)).answer = .resolution ρ ∧
        (ρ ≠ .stale ↔
          ∃ d, lastRequest? (start.history pre) c.workflow = some (source pre.length, d) ∧
            ¬ GivenUpSince (start.history pre) (source pre.length) c.workflow ∧
            ¬ Delivered source (start.history pre) (source pre.length)) ∧
        (ρ = .stale → (start.after pre).next (.apply c) = start.after pre) := by
  constructor
  · intro w
    rw [(tracked_run ops w).state, hs.stateOf_eq_stateByTicket (hb w)]
  · intro pre c post hops
    have hsplit : start.history ops = start.history (pre ++ [.apply c])
        ++ (start.after (pre ++ [.apply c])).history post := by
      rw [hops, List.append_cons, history_append]
    rw [hsplit] at hs
    -- the history until then has no more generations than the whole
    have hbc := hb c.workflow
    rw [hsplit, history_append, bumps_append, bumps_append] at hbc
    have haw := hs.of_append.awaits_iff (by omega)
    by_cases hw : ((start.after pre).workflow c.workflow).Awaits c.ticket
    · -- it is awaited, and taken as what it is
      obtain ⟨-, f, d, -, -, -, r, hr⟩ := hs.of_append.exists_request
        (getElem?_history_concat start pre _) (completion?_entry_apply _ c)
      have hne := Resolution.ofResult_ne_stale r
      refine ⟨.ofResult r, (step_apply_of_awaits hr hw).1, iff_of_true hne (haw.mp hw), ?_⟩
      intro hst
      exact absurd hst hne
    · -- it is not awaited, and dropped
      have hst := step_apply_of_not_awaits (p := start.after pre) (c := c) fun _ _ => hw
      refine ⟨.stale, ?_, iff_of_false (fun h => h rfl) (mt haw.mpr hw), ?_⟩
      · rw [entry, hst]
      · intro _
        rw [next, hst]

/-- A run with late and repeated completions: the list that is asked for at the start arrives when
its screen has been left, and the first wallet is refused twice, once after the second has been
asked for. -/
def lateRun : List Op :=
  [.start, .navigate .createWallet, .edit .createName "a", .submit .createWallet,
    .apply ⟨.createWallet, 1, .createdWallet (.error ⟨"first"⟩)⟩, .submit .createWallet,
    .apply ⟨.createWallet, 1, .createdWallet (.error ⟨"first"⟩)⟩,
    .apply ⟨.walletList, 2, .wallets (.ok [])⟩,
    .apply ⟨.createWallet, 2, .createdWallet (.error ⟨"second"⟩)⟩]

/-- The requests that the completions of `lateRun` are of. -/
def lateSource (n : Nat) : Nat := if n = 7 then 0 else if n = 8 then 5 else 3

/-- The second wallet has failed for a reason of its own, and the list that arrived too late is not
shown. -/
theorem lateRun_follows_history :
    Sourced lateSource (start.history lateRun) ∧
      (∀ w, bumps (start.history lateRun) w < 2 ^ 64) ∧
      (∀ w, ((start.after lateRun).workflow w).state
        = stateOf lateSource w (start.history lateRun)) ∧
      stateOf lateSource .createWallet (start.history lateRun) = .failed "second" ∧
      stateOf lateSource .walletList (start.history lateRun) = .idle := by
  have hs : Sourced lateSource (start.history lateRun) := by decide +kernel
  have hb : ∀ w, bumps (start.history lateRun) w < 2 ^ 64 := by
    intro w
    cases w <;> decide +kernel
  refine ⟨hs, hb, (run_follows_history hs hb).1, ?_, ?_⟩
  · decide +kernel
  · decide +kernel

end WalletPanel.Panel
