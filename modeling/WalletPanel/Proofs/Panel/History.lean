import Mathlib.Algebra.Ring.Nat
import Mathlib.Data.List.Induction
import WalletPanel.Proofs.Remote.Completions

/-!
# What the history of a panel says about its workflows

Completions may come late, twice, in any order or not at all, while the user submits, resets and
goes from screen to screen. What a workflow has come to is all the same a matter of the history of
the run: only its last request counts, and of the completions of that request only the first.

This module has the histories (`Panel.history`) and what they say (`Panel.stateBy`). Which results
belong to a request is left open there, for there are two ways to tell: by the ticket, which is all
that the panel has (`stateByTicket`), and by where the completion is from, which is what a user
would go by (`stateOf`). That the panel does as its history says, and that the two ways come to the
same, is proved in `Proofs/Panel/Tracking.lean`.
-/

namespace WalletPanel.Panel

/-! ### Runs and their histories -/

/-- The panel after a row of operations. -/
def after (p : Panel) (ops : List Op) : Panel := (p.run ops).value.1

/-- The history of a row of operations, the oldest entry first. -/
def history (p : Panel) : List Op → List Entry
  | [] => []
  | op :: ops => p.entry op :: (p.next op).history ops

@[simp] theorem history_nil (p : Panel) : p.history [] = [] := rfl

@[simp] theorem history_cons (p : Panel) (op : Op) (ops : List Op) :
    p.history (op :: ops) = p.entry op :: (p.next op).history ops := rfl

/-- A run can be cut anywhere. -/
theorem after_append (p : Panel) (xs ys : List Op) :
    p.after (xs ++ ys) = (p.after xs).after ys := by
  induction xs generalizing p with
  | nil => rfl
  | cons x xs ih => exact ih (p.next x)

/-- The history of a run goes on with that of what is left behind. -/
theorem history_append (p : Panel) (xs ys : List Op) :
    p.history (xs ++ ys) = p.history xs ++ (p.after xs).history ys := by
  induction xs generalizing p with
  | nil => rfl
  | cons x xs ih => exact congrArg (p.entry x :: ·) (ih (p.next x))

@[simp] theorem length_history (p : Panel) (ops : List Op) :
    (p.history ops).length = ops.length := by
  induction ops generalizing p with
  | nil => rfl
  | cons op ops ih => exact congrArg (· + 1) (ih (p.next op))

/-- What can be seen of each operation by itself can be collected from the operations. -/
theorem filterMap_history {f : Entry → Option α} {g : Op → Option α} {ops : List Op} (p : Panel)
    (hfg : ∀ op ∈ ops, ∀ q : Panel, f (q.entry op) = g op) :
    (p.history ops).filterMap f = ops.filterMap g := by
  induction ops generalizing p with
  | nil => rfl
  | cons op ops ih =>
    rw [history_cons, List.filterMap_cons, List.filterMap_cons, hfg op List.mem_cons_self p,
      ih (p.next op) fun o ho => hfg o (List.mem_cons_of_mem op ho)]

/-! ### What the history says -/

/-- How often a workflow has been given a new generation. -/
def bumps (h : List Entry) (w : WorkflowId) : Nat := (h.map (·.bumps w)).sum

/-- The last request of a workflow, with its place in the history. -/
def lastRequest? (h : List Entry) (w : WorkflowId) : Option (Nat × Dispatch) :=
  h.zipIdx.reverse.findSome? fun (e, n) => (e.requestOf? w).map fun d => (n, d)

/-- What has come after the entry at place `n`, each entry with its place. -/
def since (h : List Entry) (n : Nat) : List (Entry × Nat) := h.zipIdx.drop (n + 1)

/-- Whether what a workflow had come to has been given up after place `n`. -/
def GivenUpSince (h : List Entry) (n : Nat) (w : WorkflowId) : Prop :=
  ∃ e ∈ since h n, e.1.givenUp? = some w

instance (h : List Entry) (n : Nat) (w : WorkflowId) : Decidable (GivenUpSince h n w) :=
  inferInstanceAs (Decidable (∃ e ∈ since h n, e.1.givenUp? = some w))

/-- The state that the history gives to a workflow, when `brought r e` is the result that the entry
`e` has for the request `r`: at rest if there is no request or the last one has been given up;
otherwise what the first result for it says, or waiting if there is none. -/
def stateBy (w : WorkflowId)
    (brought : Nat × Dispatch → Entry × Nat → Option (Except RemoteError w.Value))
    (h : List Entry) : WorkflowState w.Value :=
  match lastRequest? h w with
  | none => .idle
  | some r =>
    if GivenUpSince h r.1 w then .idle
    else
      match (since h r.1).findSome? (brought r) with
      | none => .submitting
      | some result => .ofResult result

/-- The result that an entry has for a request, when a completion belongs to the request whose
ticket it has. -/
def broughtByTicket (w : WorkflowId) (r : Nat × Dispatch) (e : Entry × Nat) :
    Option (Except RemoteError w.Value) :=
  (e.1.completion?.filter (·.ticket = r.2.ticket)).bind (·.result? w)

/-- The result that an entry has for a request, when the completion at place `n` is known to be of
the request at place `source n`. -/
def broughtFrom (source : Nat → Nat) (w : WorkflowId) (r : Nat × Dispatch) (e : Entry × Nat) :
    Option (Except RemoteError w.Value) :=
  if source e.2 = r.1 then e.1.completion?.bind (·.result? w) else none

/-- The state that the history gives to a workflow when completions are told apart by their
tickets. -/
def stateByTicket (w : WorkflowId) : List Entry → WorkflowState w.Value :=
  stateBy w (broughtByTicket w)

/-- The state that the history gives to a workflow when completions are told apart by the requests
that they are of. -/
def stateOf (source : Nat → Nat) (w : WorkflowId) : List Entry → WorkflowState w.Value :=
  stateBy w (broughtFrom source w)

/-! ### The parts of a history -/

/-- Generations are counted up over the parts of a history. -/
theorem bumps_append (g h : List Entry) (w : WorkflowId) :
    bumps (g ++ h) w = bumps g w + bumps h w := by
  unfold bumps
  rw [List.map_append, List.sum_append]

/-- A longer part has no fewer generations. -/
theorem bumps_take_le (h : List Entry) (w : WorkflowId) {m n : Nat} (hmn : m ≤ n) :
    bumps (h.take m) w ≤ bumps (h.take n) w := by
  obtain ⟨k, rfl⟩ := Nat.exists_eq_add_of_le hmn
  rw [List.take_add, bumps_append]
  exact Nat.le_add_right _ _

/-- No part has more generations than the whole. -/
theorem bumps_take_le_self (h : List Entry) (w : WorkflowId) (n : Nat) :
    bumps (h.take n) w ≤ bumps h w := by
  -- cut the history at `n`
  have hs := congrArg (bumps · w) (List.take_append_drop n h)
  simp only [bumps_append] at hs
  omega

/-- The first entries are the history of the first operations. -/
theorem take_history (p : Panel) (ops : List Op) (n : Nat) :
    (p.history ops).take n = p.history (ops.take n) := by
  induction ops generalizing p n with
  | nil => simp
  | cons op ops ih =>
    cases n with
    | zero => rfl
    | succ n => exact congrArg (p.entry op :: ·) (ih (p.next op) n)

/-- What stands at a place of a history is the entry of an operation that was done to what the
operations before had left. -/
theorem getElem?_history (p : Panel) (ops : List Op) (n : Nat) :
    (p.history ops)[n]? = ops[n]?.map (p.after (ops.take n)).entry := by
  induction ops generalizing p n with
  | nil => rfl
  | cons op ops ih =>
    cases n with
    | zero => rfl
    | succ n => exact ih (p.next op) n

/-- One more operation is one more entry, at the end. -/
theorem history_concat (p : Panel) (ops : List Op) (op : Op) :
    p.history (ops ++ [op]) = p.history ops ++ [(p.after ops).entry op] :=
  p.history_append ops [op]

/-- The entry of the last operation stands behind all others. -/
theorem getElem?_history_concat (p : Panel) (ops : List Op) (op : Op) :
    (p.history (ops ++ [op]))[ops.length]? = some ((p.after ops).entry op) := by
  rw [history_concat, ← length_history p ops, List.getElem?_concat_length]

/-! ### One more entry -/

/-- An entry adds its own generations. -/
@[simp] theorem bumps_concat (h : List Entry) (e : Entry) (w : WorkflowId) :
    bumps (h ++ [e]) w = bumps h w + e.bumps w := by
  simp [bumps]

/-- An entry has the number of those before it for its place. -/
theorem zipIdx_concat (h : List Entry) (e : Entry) :
    (h ++ [e]).zipIdx = h.zipIdx ++ [(e, h.length)] := by
  simp [List.zipIdx_append]

/-- The last request is that of the new entry, if it has one. -/
theorem lastRequest?_concat (h : List Entry) (e : Entry) (w : WorkflowId) :
    lastRequest? (h ++ [e]) w
      = ((e.requestOf? w).map fun d => (h.length, d)).or (lastRequest? h w) := by
  unfold lastRequest?
  rw [zipIdx_concat, List.reverse_append, List.findSome?_append, List.reverse_singleton,
    List.findSome?_singleton]

/-- An entry without a request leaves the last one as it is. -/
theorem lastRequest?_concat_of_none {e : Entry} {w : WorkflowId} (h : List Entry)
    (hd : e.requestOf? w = none) : lastRequest? (h ++ [e]) w = lastRequest? h w := by
  rw [lastRequest?_concat, hd]
  rfl

/-- The last request is an entry of the history. -/
theorem getElem?_of_lastRequest? {h : List Entry} {w : WorkflowId} {n : Nat} {d : Dispatch}
    (hr : lastRequest? h w = some (n, d)) : ∃ e, h[n]? = some e ∧ e.requestOf? w = some d := by
  obtain ⟨⟨e, m⟩, hm, he⟩ := List.exists_of_findSome?_eq_some hr
  obtain ⟨d', hd, heq⟩ := Option.map_eq_some_iff.mp he
  cases heq
  exact ⟨e, List.mem_zipIdx_iff_getElem?.mp (List.mem_reverse.mp hm), hd⟩

/-- Its place is one of the history. -/
theorem lt_of_lastRequest? {h : List Entry} {w : WorkflowId} {n : Nat} {d : Dispatch}
    (hr : lastRequest? h w = some (n, d)) : n < h.length := by
  obtain ⟨e, he, -⟩ := getElem?_of_lastRequest? hr
  exact (List.getElem?_eq_some_iff.mp he).1

/-- What has come after a place are the entries at later places. -/
theorem mem_since_iff {h : List Entry} {n : Nat} {x : Entry × Nat} :
    x ∈ since h n ↔ h[x.2]? = some x.1 ∧ n < x.2 := by
  unfold since
  constructor
  · intro hx
    refine ⟨List.mem_zipIdx_iff_getElem?.mp (List.mem_of_mem_drop hx), ?_⟩
    -- place `i` of what comes after `n` is place `n + 1 + i` of the history
    obtain ⟨i, hi⟩ := List.mem_iff_getElem?.mp hx
    rw [List.getElem?_drop, List.getElem?_zipIdx] at hi
    obtain ⟨e, -, rfl⟩ := Option.map_eq_some_iff.mp hi
    dsimp only
    omega
  · rintro ⟨hx, hn⟩
    rw [List.mem_iff_getElem?]
    refine ⟨x.2 - (n + 1), ?_⟩
    rw [List.getElem?_drop, Nat.add_sub_cancel' hn, List.getElem?_zipIdx, hx, Nat.zero_add]
    rfl

/-- A new entry comes after every place there was. -/
theorem since_concat (h : List Entry) (e : Entry) {n : Nat} (hn : n < h.length) :
    since (h ++ [e]) n = since h n ++ [(e, h.length)] := by
  unfold since
  rw [zipIdx_concat, List.drop_append_of_le_length]
  rw [List.length_zipIdx]
  exact hn

/-- Nothing has come after the newest entry. -/
theorem since_concat_self (h : List Entry) (e : Entry) : since (h ++ [e]) h.length = [] := by
  unfold since
  rw [List.drop_eq_nil_iff]
  simp

/-- A request is given up by the new entry, or has been before. -/
theorem givenUpSince_concat {h : List Entry} {e : Entry} {n : Nat} (hn : n < h.length)
    (w : WorkflowId) :
    GivenUpSince (h ++ [e]) n w ↔ GivenUpSince h n w ∨ e.givenUp? = some w := by
  unfold GivenUpSince
  rw [since_concat h e hn]
  -- the entry is behind the place, and so it is the last one to be looked at
  constructor
  · rintro ⟨x, hx, hw⟩
    rcases List.mem_append.mp hx with hx | hx
    · exact Or.inl ⟨x, hx, hw⟩
    · rw [List.mem_singleton.mp hx] at hw
      exact Or.inr hw
  · rintro (⟨x, hx, hw⟩ | hw)
    · exact ⟨x, List.mem_append_left _ hx, hw⟩
    · exact ⟨_, List.mem_append_right _ (List.mem_singleton.mpr rfl), hw⟩

/-! ### Requests that are waited for -/

/-- Only what a function has for the members of a list matters. -/
theorem findSome?_congr {f g : α → Option β} {l : List α} (hfg : ∀ x ∈ l, f x = g x) :
    l.findSome? f = l.findSome? g := by
  induction l with
  | nil => rfl
  | cons x l ih =>
    rw [List.findSome?_cons, List.findSome?_cons, hfg x List.mem_cons_self,
      ih fun y hy => hfg y (List.mem_cons_of_mem x hy)]

section StateBy

variable {w : WorkflowId}
  {brought : Nat × Dispatch → Entry × Nat → Option (Except RemoteError w.Value)}
  {h : List Entry} {e : Entry} {r : Nat × Dispatch}

/-- A request that the history waits for: it is the last one of its workflow, it has not been given
up, and no result has come for it. -/
structure Outstanding (w : WorkflowId)
    (brought : Nat × Dispatch → Entry × Nat → Option (Except RemoteError w.Value))
    (h : List Entry) (r : Nat × Dispatch) : Prop where
  last : lastRequest? h w = some r
  kept : ¬ GivenUpSince h r.1 w
  open_ : (since h r.1).findSome? (brought r) = none

/-- The state depends on what the entries behind the last request bring for it, and on no other. -/
theorem stateBy_congr
    {brought' : Nat × Dispatch → Entry × Nat → Option (Except RemoteError w.Value)}
    (hb : ∀ r, lastRequest? h w = some r → ∀ x ∈ since h r.1, brought r x = brought' r x) :
    stateBy w brought h = stateBy w brought' h := by
  unfold stateBy
  cases hl : lastRequest? h w with
  | none => rfl
  | some r =>
    dsimp only
    rw [findSome?_congr (hb r hl)]

/-- A workflow waits exactly if there is a request to wait for. -/
theorem stateBy_eq_submitting_iff :
    stateBy w brought h = .submitting ↔ ∃ r, Outstanding w brought h r := by
  unfold stateBy
  constructor
  · intro hs
    cases hl : lastRequest? h w with
    | none => rw [hl] at hs; cases hs
    | some r =>
      rw [hl] at hs
      dsimp only at hs
      split at hs
      · cases hs
      · next hg =>
        cases hf : (since h r.1).findSome? (brought r) with
        | none => exact ⟨r, hl, hg, hf⟩
        | some result =>
          -- a result makes it a success or a failure
          rw [hf] at hs
          cases result <;> cases hs
  · rintro ⟨r, hl, hg, hf⟩
    rw [hl]
    dsimp only
    rw [if_neg hg, hf]

/-- A request that has just gone out is waited for, as nothing has come after it. -/
theorem outstanding_concat {d : Dispatch} (hd : e.requestOf? w = some d) :
    Outstanding w brought (h ++ [e]) (h.length, d) := by
  refine ⟨?_, ?_, ?_⟩
  · rw [lastRequest?_concat, hd]
    rfl
  · rintro ⟨x, hx, -⟩
    rw [since_concat_self] at hx
    cases hx
  · rw [since_concat_self]
    rfl

/-- A request starts the workflow anew, whatever has been before. -/
theorem stateBy_concat_of_request {d : Dispatch} (hd : e.requestOf? w = some d) :
    stateBy w brought (h ++ [e]) = .submitting :=
  stateBy_eq_submitting_iff.mpr ⟨_, outstanding_concat hd⟩

/-- A reset puts the workflow to rest. -/
theorem stateBy_concat_of_givenUp (hd : e.requestOf? w = none) (hg : e.givenUp? = some w) :
    stateBy w brought (h ++ [e]) = .idle := by
  unfold stateBy
  rw [lastRequest?_concat_of_none h hd]
  cases hl : lastRequest? h w with
  | none => rfl
  | some r => exact if_pos ((givenUpSince_concat (lt_of_lastRequest? hl) w).mpr (Or.inr hg))

/-- A result for the outstanding request settles it. -/
theorem stateBy_concat_of_brought {result : Except RemoteError w.Value}
    (hd : e.requestOf? w = none) (hg : e.givenUp? ≠ some w) (ho : Outstanding w brought h r)
    (hb : brought r (e, h.length) = some result) :
    stateBy w brought (h ++ [e]) = .ofResult result := by
  have hn := lt_of_lastRequest? ho.last
  -- it is still kept, since the entry gives nothing up
  have hk : ¬ GivenUpSince (h ++ [e]) r.1 w := by
    rw [givenUpSince_concat hn]
    exact not_or.mpr ⟨ho.kept, hg⟩
  unfold stateBy
  rw [lastRequest?_concat_of_none h hd, ho.last]
  dsimp only
  rw [if_neg hk, since_concat h e hn, List.findSome?_append, ho.open_, Option.none_or,
    List.findSome?_singleton, hb]

/-- Any other entry leaves the state as it is. -/
theorem stateBy_concat_of_not_brought (hd : e.requestOf? w = none) (hg : e.givenUp? ≠ some w)
    (hb : ∀ r, Outstanding w brought h r → brought r (e, h.length) = none) :
    stateBy w brought (h ++ [e]) = stateBy w brought h := by
  unfold stateBy
  rw [lastRequest?_concat_of_none h hd]
  cases hl : lastRequest? h w with
  | none => rfl
  | some r =>
    have hn := lt_of_lastRequest? hl
    dsimp only
    by_cases hk : GivenUpSince h r.1 w
    · -- what has been given up stays so
      rw [if_pos hk, if_pos ((givenUpSince_concat hn w).mpr (Or.inl hk))]
    · have hk' : ¬ GivenUpSince (h ++ [e]) r.1 w := by
        rw [givenUpSince_concat hn]
        exact not_or.mpr ⟨hk, hg⟩
      rw [if_neg hk, if_neg hk', since_concat h e hn, List.findSome?_append,
        List.findSome?_singleton]
      cases hf : (since h r.1).findSome? (brought r) with
      | none =>
        -- the request is outstanding, and the entry has nothing for it
        rw [hb r ⟨hl, hk, hf⟩]
        rfl
      | some result => rfl

end StateBy

end WalletPanel.Panel
