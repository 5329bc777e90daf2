import WalletPanel.Proofs.Panel.Tracking

/-!
# Which completion a workflow waits for

A workflow that waits does so for one completion, the one under its current ticket. Whether it
waits can be told without looking at the order of things: it does so exactly if a request has gone
out under that ticket and no completion under it has come in (`submitting_iff`). A ticket that is
not the current one never becomes so again (`ticket_ne_generation_later`).

All of this is for histories in which completions come after their requests (`Causal`) and no ticket
comes up twice.
-/

namespace WalletPanel

/-- What a request has in common with its completions. -/
def Dispatch.key (d : Dispatch) : WorkflowId × UInt64 := (d.workflow, d.ticket)

/-- What a completion has in common with its request. -/
def Completion.key (c : Completion) : WorkflowId × UInt64 := (c.workflow, c.ticket)

/-- A completion has the key of its request. -/
theorem Dispatch.Completes.key_eq {d : Dispatch} {c : Completion} (h : d.Completes c) :
    d.key = c.key := by
  obtain ⟨hw, ht, -⟩ := (d.completes_iff c).mp h
  rw [Dispatch.key, Completion.key, hw, ht]

namespace Panel

variable {h : List Entry} {w : WorkflowId} {ops : List Op} {n : Nat} {e : Entry} {d : Dispatch}

/-- The requests that have gone out. -/
def issued (h : List Entry) : List Dispatch := h.filterMap Entry.request?

/-- The completions that have come in. -/
def applied (h : List Entry) : List Completion := h.filterMap Entry.completion?

/-- What has gone out in the one part and in the other. -/
theorem issued_append (g h : List Entry) : issued (g ++ h) = issued g ++ issued h :=
  List.filterMap_append

/-- What has come in in the one part and in the other. -/
theorem applied_append (g h : List Entry) : applied (g ++ h) = applied g ++ applied h :=
  List.filterMap_append

/-- Every completion that comes in is of a request that has gone out before. -/
def Causal (h : List Entry) : Prop :=
  ∀ n e c, h[n]? = some e → e.completion? = some c → ∃ d ∈ issued (h.take n), d.Completes c

/-- Later entries keep the order, if their completions are of requests that went out before all of
them. -/
theorem Causal.append {k : List Entry} (hh : Causal h)
    (hk : ∀ e ∈ k, ∀ c, e.completion? = some c → ∃ d ∈ issued h, d.Completes c) :
    Causal (h ++ k) := by
  intro n e c he hc
  rcases Nat.lt_or_ge n h.length with hn | hn
  · -- the entries of `h` have the same entries before them as they had
    rw [List.getElem?_append_left hn] at he
    rw [List.take_append_of_le_length (Nat.le_of_lt hn)]
    exact hh n e c he hc
  · -- an entry of `k` has all of `h` before it
    rw [List.getElem?_append_right hn] at he
    obtain ⟨d, hd, hcomp⟩ := hk e (List.mem_of_getElem? he) c hc
    refine ⟨d, ?_, hcomp⟩
    rw [List.take_append, List.take_of_length_le hn, issued_append]
    exact List.mem_append_left _ hd

/-- A request is one of its own workflow. -/
theorem requestOf?_workflow (he : e.request? = some d) : e.requestOf? d.workflow = some d := by
  rw [Entry.requestOf?, he, Option.filter_some, if_pos (decide_eq_true rfl)]

/-- A request that has gone out stands at some place of the history. -/
theorem exists_place_of_mem_issued (hd : d ∈ issued h) :
    ∃ (n : Nat) (e : Entry), h[n]? = some e ∧ e.requestOf? d.workflow = some d := by
  obtain ⟨e, he, hed⟩ := List.mem_filterMap.mp hd
  obtain ⟨n, hn⟩ := List.mem_iff_getElem?.mp he
  exact ⟨n, e, hn, requestOf?_workflow hed⟩

/-- No two requests have the same key. -/
theorem nodup_keys_issued (hb : ∀ w, bumps (start.history ops) w < 2 ^ 64) :
    ((issued (start.history ops)).map Dispatch.key).Nodup := by
  unfold issued List.Nodup
  rw [List.pairwise_map, List.pairwise_filterMap, List.pairwise_iff_getElem]
  intro i j hi hj hij d hd d' hd' hkey
  -- two requests with one key would be of one workflow and have one ticket
  obtain ⟨hw, ht⟩ := Prod.mk.inj hkey
  have hr := requestOf?_workflow hd
  rw [hw] at hr
  exact ticket_ne_of_lt (hb d'.workflow) hij (List.getElem?_eq_getElem hi)
    (List.getElem?_eq_getElem hj) hr (requestOf?_workflow hd') ht

/-! ### The request under the current ticket -/

/-- Entries without a request leave the last one as it is. -/
theorem lastRequest?_append_of_none (g : List Entry) (hn : ∀ e ∈ h, e.requestOf? w = none) :
    lastRequest? (g ++ h) w = lastRequest? g w := by
  induction h using List.reverseRecOn with
  | nil => rw [List.append_nil]
  | append_singleton h e ih =>
    have he := hn e (List.mem_append_right _ (List.mem_singleton.mpr rfl))
    rw [← List.append_assoc, lastRequest?_concat_of_none _ he]
    exact ih fun x hx => hn x (List.mem_append_left _ hx)

/-- A request after which the workflow has had no new generation is its last one, and it has not
been given up. -/
theorem last_of_bumps_eq (he : h[n]? = some e) (hd : e.requestOf? w = some d)
    (hb : bumps (h.take (n + 1)) w = bumps h w) :
    lastRequest? h w = some (n, d) ∧ ¬ GivenUpSince h n w := by
  have hsplit := List.take_append_drop (n + 1) h
  -- a sum of nothing has no part, so that no entry after the request moves the workflow
  have hz : bumps (h.drop (n + 1)) w = 0 := by
    have hs := congrArg (bumps · w) hsplit
    simp only [bumps_append] at hs
    omega
  -- without a new generation nothing was asked for and nothing given up
  have hall : ∀ x ∈ h.drop (n + 1), x.requestOf? w = none ∧ x.givenUp? ≠ some w := by
    intro x hx
    rw [← Entry.bumps_eq_zero_iff]
    exact List.sum_eq_zero_iff_forall_eq_nat.mp hz _ (List.mem_map_of_mem hx)
  refine ⟨?_, ?_⟩
  · have hlen := (List.getElem?_eq_some_iff.mp he).1
    rw [← hsplit, lastRequest?_append_of_none _ fun x hx => (hall x hx).1, List.take_add_one, he]
    change lastRequest? (_ ++ [e]) w = _
    rw [lastRequest?_concat, hd, List.length_take_of_le (Nat.le_of_lt hlen)]
    rfl
  · rintro ⟨x, hx, hg⟩
    have hmem : x.1 ∈ h.drop (n + 1) := by
      have hmap := List.mem_map_of_mem (f := Prod.fst) hx
      rwa [since, List.map_drop, List.zipIdx_map_fst] at hmap
    exact (hall _ hmem).2 hg

/-- A request that has gone out under the current ticket is the last one, and it has not been given
up. -/
theorem last_of_ticket_eq (hb : bumps (start.history ops) w < 2 ^ 64)
    (he : (start.history ops)[n]? = some e) (hd : e.requestOf? w = some d)
    (ht : d.ticket = ((start.after ops).workflow w).generation) :
    lastRequest? (start.history ops) w = some (n, d) ∧ ¬ GivenUpSince (start.history ops) n w := by
  obtain ⟨-, hn, -⟩ := request_of_getElem? he hd
  rw [hn, (tracked_run ops w).generation] at ht
  have hle := bumps_take_le_self (start.history ops) w (n + 1)
  exact last_of_bumps_eq he hd (eq_of_ofNat_eq (Nat.lt_of_le_of_lt hle hb) hb ht)

/-- A completion with the key of a request is of that request: it came in later and has a result for
it. -/
theorem brought_of_key_mem_applied (hc : Causal (start.history ops))
    (hb : bumps (start.history ops) w < 2 ^ 64) (he : (start.history ops)[n]? = some e)
    (hed : e.requestOf? w = some d)
    (hk : (w, d.ticket) ∈ (applied (start.history ops)).map Completion.key) :
    ∃ x ∈ since (start.history ops) n, ∃ r, broughtByTicket w (n, d) x = some r := by
  obtain ⟨c, hcm, hck⟩ := List.mem_map.mp hk
  obtain ⟨-, hct⟩ := Prod.mk.inj hck
  obtain ⟨x, hx, hxc⟩ := List.mem_filterMap.mp hcm
  obtain ⟨m, hm⟩ := List.mem_iff_getElem?.mp hx
  -- the request that went out before the completion, at place `k`
  obtain ⟨d', hd', hcomp⟩ := hc m x c hm hxc
  obtain ⟨k, f, hk, hf⟩ := exists_place_of_mem_issued hd'
  have hkm : k < m := by
    have hlt := (List.getElem?_eq_some_iff.mp hk).1
    rw [List.length_take] at hlt
    omega
  have hkf : (start.history ops)[k]? = some f := by rwa [List.getElem?_take_of_lt hkm] at hk
  obtain ⟨hdw', hdt'⟩ := Prod.mk.inj (hcomp.key_eq.trans hck)
  rw [hdw'] at hf
  -- it has the ticket of `d`, so that it is `d`
  have hkn : k = n := place_unique hb hkf he hf hed hdt'
  obtain ⟨hkind, -, -⟩ := request_of_getElem? hkf hf
  obtain ⟨r, hr⟩ := hcomp.exists_result hdw' hkind
  refine ⟨(x, m), mem_since_iff.mpr ⟨hm, hkn ▸ hkm⟩, r, ?_⟩
  rw [broughtByTicket, hxc, Option.filter_some, if_pos (decide_eq_true hct), Option.bind_some, hr]

/-- What brings a result for a request is a completion with the key of the request. -/
theorem key_mem_applied_of_brought {x : Entry × Nat} (hx : x ∈ since h n)
    {r : Except RemoteError w.Value} (hr : broughtByTicket w (n, d) x = some r) :
    (w, d.ticket) ∈ (applied h).map Completion.key := by
  obtain ⟨c, hcx, hcr⟩ := Option.bind_eq_some_iff.mp hr
  obtain ⟨hcx, hct⟩ := Option.filter_eq_some_iff.mp hcx
  have hmem : c ∈ applied h :=
    List.mem_filterMap.mpr ⟨x.1, List.mem_of_getElem? (mem_since_iff.mp hx).1, hcx⟩
  refine List.mem_map.mpr ⟨c, hmem, ?_⟩
  exact Prod.ext (Completion.workflow_of_result? hcr) (of_decide_eq_true hct)

/-- **When a workflow waits.** It does exactly if a request has gone out under its current ticket
and no completion has come in under that ticket. -/
theorem submitting_iff (hc : Causal (start.history ops))
    (hb : bumps (start.history ops) w < 2 ^ 64) :
    ((start.after ops).workflow w).state = .submitting ↔
      (w, ((start.after ops).workflow w).generation)
          ∈ (issued (start.history ops)).map Dispatch.key ∧
        (w, ((start.after ops).workflow w).generation)
          ∉ (applied (start.history ops)).map Completion.key := by
  have ht := tracked_run ops w
  constructor
  · intro hs
    obtain ⟨⟨n, d⟩, ho, hd⟩ := ht.exists_outstanding hs
    obtain ⟨e, he, hed⟩ := getElem?_of_lastRequest? ho.last
    obtain ⟨hreq, hdw⟩ := Option.filter_eq_some_iff.mp hed
    rw [← hd]
    refine ⟨List.mem_map.mpr ⟨d, ?_, Prod.ext (of_decide_eq_true hdw) rfl⟩, ?_⟩
    · exact List.mem_filterMap.mpr ⟨e, List.mem_of_getElem? he, hreq⟩
    · -- nothing has come for an outstanding request
      intro hmem
      obtain ⟨x, hx, r, hr⟩ := brought_of_key_mem_applied hc hb he hed hmem
      have hnone := List.findSome?_eq_none_iff.mp ho.open_ x hx
      rw [hr] at hnone
      cases hnone
  · rintro ⟨hi, ha⟩
    obtain ⟨d, hdm, hdk⟩ := List.mem_map.mp hi
    obtain ⟨rfl, hdt⟩ := Prod.mk.inj hdk
    obtain ⟨n, e, he, hed⟩ := exists_place_of_mem_issued hdm
    -- a request under the current ticket is the last one, and nothing has come for it
    obtain ⟨hl, hg⟩ := last_of_ticket_eq hb he hed hdt
    rw [ht.state]
    refine stateBy_eq_submitting_iff.mpr ⟨(n, d), hl, hg, List.findSome?_eq_none_iff.mpr ?_⟩
    intro x hx
    by_contra hne
    obtain ⟨r, hr⟩ := Option.ne_none_iff_exists'.mp hne
    rw [← hdt] at ha
    exact ha (key_mem_applied_of_brought hx hr)

/-- A ticket that is not the current one stays so, whatever happens. -/
theorem ticket_ne_generation_later {more : List Op} {t : UInt64}
    (hb : bumps (start.history (ops ++ more)) w < 2 ^ 64)
    (hk : (w, t) ∈ (issued (start.history ops)).map Dispatch.key)
    (ht : t ≠ ((start.after ops).workflow w).generation) :
    t ≠ ((start.after (ops ++ more)).workflow w).generation := by
  obtain ⟨d, hdm, hdk⟩ := List.mem_map.mp hk
  obtain ⟨rfl, rfl⟩ := Prod.mk.inj hdk
  obtain ⟨n, e, he, hed⟩ := exists_place_of_mem_issued hdm
  obtain ⟨-, hd, -⟩ := request_of_getElem? he hed
  rw [(tracked_run ops _).generation] at ht
  rw [(tracked_run (ops ++ more) _).generation]
  -- generations only grow, and until the end of the run none of them comes up again
  intro hlater
  have hall : bumps (start.history ops) d.workflow
      ≤ bumps (start.history (ops ++ more)) d.workflow := by
    rw [history_append, bumps_append]
    exact Nat.le_add_right _ _
  have hle := bumps_take_le_self (start.history ops) d.workflow (n + 1)
  rw [hd] at hlater ht
  have heq := eq_of_ofNat_eq (by omega) hb hlater
  exact ht (congrArg UInt64.ofNat (by omega))

end Panel

end WalletPanel
