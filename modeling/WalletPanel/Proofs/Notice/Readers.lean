import Mathlib.Data.List.Induction
import WalletPanel.Notice.Board
import WalletPanel.Proofs.Notice.Places

/-!
# Readers see everything once

A board is worked on in any order: notices are posted through any sink, sinks are cloned or made
anew, readers are made and take out what is new to them. What the logs and the readers then show
follows from the operations alone.

The account of a row of operations (`account`) says which sinks belong together, what has been
posted through them, and which sink each reader was made of. It has no logs and no cursors; two
sinks belong together if they have the same origin, the sink with which their log was made.

* `agrees_after` — the board has, for each origin, one log with exactly what was posted through the
  sinks of this origin, numbered from 0.
* `seen_after` — what a reader has taken out so far is its log up to the cursor.

From the two follows `readers_see_everything_once`: what a reader has taken out, with what it would
take out now, is the whole log of its sink.
-/

namespace WalletPanel.NoticeBoard

/-! ### Operations -/

/-- Something that is done to a board. -/
inductive Op where
  | post (sink : Nat) (kind : NoticeKind) (message : String)
  | cloneSink (sink : Nat)
  | newSink
  | newReader (sink : Nat)
  | drain (reader : Nat)

/-- Does an operation. -/
def step (b : NoticeBoard) : Op → NoticeBoard
  | .post sink kind message => b.post sink kind message
  | .cloneSink sink => b.cloneSink sink
  | .newSink => b.newSink
  | .newReader sink => b.newReader sink
  | .drain reader => b.drain reader

/-- The board after a row of operations. -/
def after (b : NoticeBoard) (ops : List Op) : NoticeBoard := ops.foldl step b

/-- What a reader takes out by an operation. -/
def taken (b : NoticeBoard) (reader : Nat) : Op → List Notice
  | .drain r => if r = reader then (b.fresh? r).getD [] else []
  | _ => []

/-- What a reader takes out by a row of operations, in order. -/
def takenBy (b : NoticeBoard) (reader : Nat) : List Op → List Notice
  | [] => []
  | op :: ops => b.taken reader op ++ (b.step op).takenBy reader ops

/-- The last operation is done to what the others have left. -/
theorem after_concat (b : NoticeBoard) (ops : List Op) (op : Op) :
    b.after (ops ++ [op]) = (b.after ops).step op := by
  unfold after
  rw [List.foldl_append]
  rfl

/-- By one more operation a reader takes out what is then new to it, if it is a drain of the reader.
-/
theorem takenBy_concat (b : NoticeBoard) (reader : Nat) (ops : List Op) (op : Op) :
    b.takenBy reader (ops ++ [op]) = b.takenBy reader ops ++ (b.after ops).taken reader op := by
  induction ops generalizing b with
  | nil => exact List.append_nil _
  | cons o ops ih =>
    rw [List.cons_append, takenBy, ih, takenBy, List.append_assoc]
    rfl

/-! ### Sinks that have been made, and others -/

section

variable {b : NoticeBoard} {sink l : Nat}

/-- A notice goes to the log of its sink. -/
theorem post_of_some (h : b.sinks[sink]? = some l) (kind : NoticeKind) (message : String) :
    b.post sink kind message = { b with logs := b.logs.modify l (·.post kind message) } := by
  unfold NoticeBoard.post
  rw [h]

/-- Without a sink it goes nowhere. -/
theorem post_of_none (h : b.sinks[sink]? = none) (kind : NoticeKind) (message : String) :
    b.post sink kind message = b := by
  unfold NoticeBoard.post
  rw [h]

/-- A clone is a sink of the same log. -/
theorem cloneSink_of_some (h : b.sinks[sink]? = some l) :
    b.cloneSink sink = { b with sinks := b.sinks ++ [l] } := by
  unfold cloneSink
  rw [h]

/-- What has not been made is not cloned. -/
theorem cloneSink_of_none (h : b.sinks[sink]? = none) : b.cloneSink sink = b := by
  unfold cloneSink
  rw [h]

/-- A new reader has its cursor at the beginning of the log. -/
theorem newReader_of_some (h : b.sinks[sink]? = some l) :
    b.newReader sink = { b with readers := b.readers ++ [⟨l, 0⟩] } := by
  unfold newReader
  rw [h]

/-- Of a sink that has not been made there is no reader. -/
theorem newReader_of_none (h : b.sinks[sink]? = none) : b.newReader sink = b := by
  unfold newReader
  rw [h]

/-- A drain moves the cursor of its reader to the end of the log, and does nothing else. -/
theorem drain_cases (b : NoticeBoard) (reader : Nat) :
    (b.fresh? reader = none ∧ b.drain reader = b) ∨
      ∃ r log, b.readers[reader]? = some r ∧ b.logs[r.log]? = some log ∧
        b.fresh? reader = some (log.since r.cursor) ∧
        b.drain reader = { b with readers := b.readers.set reader ⟨r.log, log.length⟩ } := by
  unfold drain fresh?
  cases hr : b.readers[reader]? with
  | none => exact Or.inl ⟨rfl, rfl⟩
  | some r =>
    cases hl : b.logs[r.log]? with
    | none => exact Or.inl (by simp [hl])
    | some log => exact Or.inr ⟨r, log, rfl, hl, by simp [hl], by simp [hl]⟩

end

/-! ### The account of a row of operations -/

/-- What operations say about sinks, notices and readers. -/
structure Account where
  /-- For each sink its origin: the sink with which its log was made. -/
  origins : List Nat
  /-- What has been posted, each with the origin of the sink. -/
  posts : List (Nat × NoticeKind × String)
  /-- For each reader the sink of which it was made. -/
  readers : List Nat

namespace Account

/-- One sink, and nothing posted. -/
def start : Account := ⟨[0], [], []⟩

/-- Takes an operation into account. A clone has the origin of its sink, and a new sink is an
origin. What concerns a sink that has not been made is left out. -/
def enter (a : Account) : Op → Account
  | .post sink kind message =>
    { a with posts := a.posts ++ (a.origins[sink]?.map fun o => (o, kind, message)).toList }
  | .cloneSink sink => { a with origins := a.origins ++ a.origins[sink]?.toList }
  | .newSink => { a with origins := a.origins ++ [a.origins.length] }
  | .newReader sink =>
    { a with readers := a.readers ++ (a.origins[sink]?.map fun _ => sink).toList }
  | .drain _ => a

section

variable {a : Account} {sink o : Nat}

/-- A notice is entered under the origin of its sink. -/
theorem enter_post_of_some (h : a.origins[sink]? = some o) (kind : NoticeKind)
    (message : String) : a.enter (.post sink kind message)
      = { a with posts := a.posts ++ [(o, kind, message)] } := by
  simp [enter, h]

/-- Without a sink nothing is entered. -/
theorem enter_post_of_none (h : a.origins[sink]? = none) (kind : NoticeKind)
    (message : String) : a.enter (.post sink kind message) = a := by
  simp [enter, h]

/-- A clone is entered with the origin of its sink. -/
theorem enter_cloneSink_of_some (h : a.origins[sink]? = some o) :
    a.enter (.cloneSink sink) = { a with origins := a.origins ++ [o] } := by
  simp [enter, h]

/-- A clone of nothing is not entered. -/
theorem enter_cloneSink_of_none (h : a.origins[sink]? = none) :
    a.enter (.cloneSink sink) = a := by
  simp [enter, h]

/-- A reader is entered with the sink of which it was made. -/
theorem enter_newReader_of_some (h : a.origins[sink]? = some o) :
    a.enter (.newReader sink) = { a with readers := a.readers ++ [sink] } := by
  simp [enter, h]

/-- A reader of nothing is not entered. -/
theorem enter_newReader_of_none (h : a.origins[sink]? = none) :
    a.enter (.newReader sink) = a := by
  simp [enter, h]

end

/-- What has been posted through the sinks of an origin. -/
def postsOf (a : Account) (origin : Nat) : List (NoticeKind × String) :=
  (a.posts.filter (·.1 = origin)).map (·.2)

/-- The log that the sinks of an origin should show. -/
def log (a : Account) (origin : Nat) : NoticeLog := ⟨numbered 0 (a.postsOf origin)⟩

end Account

/-- The account of a row of operations. -/
def account (ops : List Op) : Account := ops.foldl Account.enter .start

/-- The account of one operation more. -/
theorem account_concat (ops : List Op) (op : Op) :
    account (ops ++ [op]) = (account ops).enter op := by
  unfold account
  rw [List.foldl_append]
  rfl

/-- A sink keeps its origin. -/
theorem origins_prefix (ops more : List Op) :
    (account ops).origins <+: (account (ops ++ more)).origins := by
  induction more using List.reverseRecOn with
  | nil => simp
  | append_singleton more op ih =>
    rw [← List.append_assoc, account_concat]
    refine ih.trans ?_
    cases op <;> first | exact List.prefix_append _ _ | exact List.prefix_rfl

/-! ### The board agrees with the account -/

/-- The sinks, each as its origin and the number of its log. -/
def pairs (a : Account) (b : NoticeBoard) : List (Nat × Nat) := a.origins.zip b.sinks

/-- What holds between an account and a board that has been worked on in that way. -/
structure Agrees (a : Account) (b : NoticeBoard) : Prop where
  length : a.origins.length = b.sinks.length
  /-- Sinks share a log exactly if they have the same origin. -/
  shared : ∀ x ∈ pairs a b, ∀ y ∈ pairs a b, x.1 = y.1 ↔ x.2 = y.2
  log : ∀ x ∈ pairs a b, b.logs[x.2]? = some (a.log x.1)
  origin : ∀ x ∈ pairs a b, x.1 < a.origins.length
  post : ∀ x ∈ a.posts, x.1 < a.origins.length
  readers : a.readers.length = b.readers.length
  /-- A reader reads the log of the sink of which it was made. -/
  reader : ∀ x ∈ a.readers.zip b.readers, b.sinks[x.1]? = some x.2.log

section Agrees

variable {a : Account} {b : NoticeBoard}

/-- A new board has one sink with an empty log, and so has the account. -/
theorem agrees_start : Agrees .start start := by
  have hp : pairs .start start = [(0, 0)] := rfl
  -- there is one pair, so that all that is said of two of them is said of one
  have heq : ∀ x ∈ pairs .start start, x = (0, 0) := fun x hx => by
    rw [hp] at hx
    exact List.mem_singleton.mp hx
  refine ⟨rfl, fun x hx y hy => ?_, fun x hx => ?_, fun x hx => ?_, nofun, rfl, nofun⟩
  · rw [heq x hx, heq y hy]
  · rw [heq x hx]
    rfl
  · rw [heq x hx]
    exact Nat.zero_lt_one

/-- A sink with its origin and its log is one of the pairs. -/
theorem mem_pairs {o l : Nat} {sink : Nat} (ho : a.origins[sink]? = some o)
    (hl : b.sinks[sink]? = some l) : (o, l) ∈ pairs a b :=
  List.mem_iff_getElem?.mpr ⟨sink, List.getElem?_zip_eq_some.mpr ⟨ho, hl⟩⟩

/-- A sink is known to the account and to the board, or to neither. -/
theorem Agrees.sink_cases (h : Agrees a b) (sink : Nat) :
    (a.origins[sink]? = none ∧ b.sinks[sink]? = none) ∨
      ∃ o l, a.origins[sink]? = some o ∧ b.sinks[sink]? = some l ∧ (o, l) ∈ pairs a b := by
  by_cases hs : sink < b.sinks.length
  · have ho := List.getElem?_eq_getElem (h.length ▸ hs)
    have hl := List.getElem?_eq_getElem hs
    exact Or.inr ⟨_, _, ho, hl, mem_pairs ho hl⟩
  · refine Or.inl ⟨List.getElem?_eq_none ?_, List.getElem?_eq_none (Nat.le_of_not_lt hs)⟩
    rw [h.length]
    exact Nat.le_of_not_lt hs

/-- A reader reads the log of the sink that the account has for it. -/
theorem Agrees.log_of_reader (h : Agrees a b) {n sink : Nat} {r : NoticeReader}
    (hs : a.readers[n]? = some sink) (hr : b.readers[n]? = some r) :
    b.sinks[sink]? = some r.log :=
  h.reader (sink, r) (List.mem_iff_getElem?.mpr ⟨n, List.getElem?_zip_eq_some.mpr ⟨hs, hr⟩⟩)

/-- Each sink shows the log of its origin. -/
theorem Agrees.logOf?_eq (h : Agrees a b) (sink : Nat) :
    b.logOf? sink = a.origins[sink]?.map a.log := by
  unfold logOf?
  rcases h.sink_cases sink with ⟨ho, hl⟩ | ⟨o, l, ho, hl, hmem⟩
  · rw [ho, hl]
    rfl
  · rw [ho, hl]
    exact h.log _ hmem

/-- A notice is added to the log of its own origin, and to no other. -/
theorem Account.log_post (a : Account) (x : Nat × NoticeKind × String) (o : Nat) :
    ({ a with posts := a.posts ++ [x] } : Account).log o
      = if x.1 = o then (a.log o).post x.2.1 x.2.2 else a.log o := by
  unfold Account.log postsOf
  rw [List.filter_append, List.map_append, List.filter_cons]
  by_cases hx : x.1 = o
  · rw [if_pos hx, if_pos (decide_eq_true hx), NoticeLog.post_numbered]
    rfl
  · rw [if_neg hx, if_neg (by simpa using hx), List.filter_nil, List.map_nil, List.append_nil]

/-- A notice is posted on the board as it is entered in the account. -/
theorem Agrees.post_step (h : Agrees a b) (sink : Nat) (kind : NoticeKind) (message : String) :
    Agrees (a.enter (.post sink kind message)) (b.post sink kind message) := by
  rcases h.sink_cases sink with ⟨ho, hl⟩ | ⟨o, l, ho, hl, hmem⟩
  · -- nobody has this sink
    rw [Account.enter_post_of_none ho, post_of_none hl]
    exact h
  · rw [Account.enter_post_of_some ho, post_of_some hl]
    refine ⟨h.length, h.shared, fun x hx => ?_, h.origin, fun x hx => ?_, h.readers, h.reader⟩
    · -- the log is written to if it is that of the same origin
      have hxl : o = x.1 ↔ l = x.2 := h.shared (o, l) hmem x hx
      rw [Account.log_post, List.getElem?_modify, h.log x hx]
      by_cases hl' : l = x.2
      · rw [if_pos (hxl.mpr hl')]
        simp [hl']
      · rw [if_neg (mt hxl.mp hl')]
        simp [hl']
    · rcases List.mem_append.mp hx with hx | hx
      · exact h.post x hx
      · rw [List.mem_singleton.mp hx]
        exact h.origin _ hmem

/-- The sink that a reader was made of stays where it is when more sinks are made. -/
theorem Agrees.reader_append (h : Agrees a b) (more : List Nat) :
    ∀ x ∈ a.readers.zip b.readers, (b.sinks ++ more)[x.1]? = some x.2.log := by
  intro x hx
  have hs := h.reader x hx
  rw [List.getElem?_append_left (List.getElem?_eq_some_iff.mp hs).1]
  exact hs

/-- A place stays one when a row gets longer. -/
theorem lt_length_concat {n : Nat} {l : List α} (h : n < l.length) (x : α) :
    n < (l ++ [x]).length := by
  rw [List.length_append]
  exact Nat.lt_add_right _ h

/-- Rows of one length get longer together. -/
theorem length_concat_eq {k : List α} {l : List β} (h : k.length = l.length) (x : α) (y : β) :
    (k ++ [x]).length = (l ++ [y]).length := by
  rw [List.length_append, List.length_append, h]
  rfl

/-- A clone shares the log of its sink, as it shares the origin. -/
theorem Agrees.cloneSink_step (h : Agrees a b) (sink : Nat) :
    Agrees (a.enter (.cloneSink sink)) (b.cloneSink sink) := by
  rcases h.sink_cases sink with ⟨ho, hl⟩ | ⟨o, l, ho, hl, hmem⟩
  · rw [Account.enter_cloneSink_of_none ho, cloneSink_of_none hl]
    exact h
  · rw [Account.enter_cloneSink_of_some ho, cloneSink_of_some hl]
    -- the clone is a pair that is there already
    have hp : ∀ x ∈ pairs { a with origins := a.origins ++ [o] } { b with sinks := b.sinks ++ [l] },
        x ∈ pairs a b := by
      intro x hx
      unfold pairs at hx
      rw [List.zip_append h.length] at hx
      rcases List.mem_append.mp hx with hx | hx
      · exact hx
      · rw [List.mem_singleton.mp hx]
        exact hmem
    exact ⟨length_concat_eq h.length o l, fun x hx y hy => h.shared x (hp x hx) y (hp y hy),
      fun x hx => h.log x (hp x hx), fun x hx => lt_length_concat (h.origin x (hp x hx)) o,
      fun x hx => lt_length_concat (h.post x hx) o, h.readers, h.reader_append [l]⟩

/-- Nothing has been posted to an origin that is not there. -/
theorem Agrees.log_length (h : Agrees a b) : a.log a.origins.length = .empty := by
  have hnone : a.posts.filter (·.1 = a.origins.length) = [] := by
    rw [List.filter_eq_nil_iff]
    intro p hp
    simpa using Nat.ne_of_lt (h.post p hp)
  unfold Account.log Account.postsOf
  rw [hnone]
  rfl

/-- A new sink is the first of its origin, and has a log of its own. -/
theorem Agrees.newSink_step (h : Agrees a b) :
    Agrees (a.enter .newSink) b.newSink := by
  have ha : a.enter .newSink = { a with origins := a.origins ++ [a.origins.length] } := rfl
  have hb : b.newSink
      = { b with logs := b.logs ++ [.empty], sinks := b.sinks ++ [b.logs.length] } := rfl
  rw [ha, hb]
  have hp : ∀ x ∈ pairs { a with origins := a.origins ++ [a.origins.length] }
      { b with logs := b.logs ++ [.empty], sinks := b.sinks ++ [b.logs.length] },
      x ∈ pairs a b ∨ x = (a.origins.length, b.logs.length) := by
    intro x hx
    unfold pairs at hx
    rw [List.zip_append h.length] at hx
    exact (List.mem_append.mp hx).imp_right List.mem_singleton.mp
  have hlog : ∀ x ∈ pairs a b, x.2 < b.logs.length := fun x hx =>
    (List.getElem?_eq_some_iff.mp (h.log x hx)).1
  refine ⟨length_concat_eq h.length _ _, fun x hx y hy => ?_, fun x hx => ?_, fun x hx => ?_,
    fun x hx => lt_length_concat (h.post x hx) _, h.readers, h.reader_append _⟩
  · -- both the origin and the log are new
    rcases hp x hx with hx | rfl <;> rcases hp y hy with hy | rfl
    · exact h.shared x hx y hy
    · exact iff_of_false (Nat.ne_of_lt (h.origin x hx)) (Nat.ne_of_lt (hlog x hx))
    · exact iff_of_false (Nat.ne_of_gt (h.origin y hy)) (Nat.ne_of_gt (hlog y hy))
    · exact iff_of_true rfl rfl
  · -- the log of an old sink is where it was, and the new one is empty
    rcases hp x hx with hx | rfl
    · rw [List.getElem?_append_left (hlog x hx)]
      exact h.log x hx
    · rw [List.getElem?_concat_length]
      exact congrArg some h.log_length.symm
  · rcases hp x hx with hx | rfl
    · exact lt_length_concat (h.origin x hx) _
    · dsimp only
      rw [List.length_append]
      exact Nat.lt_succ_self _

/-- A new reader reads the log of its sink. -/
theorem Agrees.newReader_step (h : Agrees a b) (sink : Nat) :
    Agrees (a.enter (.newReader sink)) (b.newReader sink) := by
  rcases h.sink_cases sink with ⟨ho, hl⟩ | ⟨o, l, ho, hl, hmem⟩
  · rw [Account.enter_newReader_of_none ho, newReader_of_none hl]
    exact h
  · rw [Account.enter_newReader_of_some ho, newReader_of_some hl]
    -- only the row of readers gets longer
    refine ⟨h.length, h.shared, h.log, h.origin, h.post, length_concat_eq h.readers _ _,
      fun x hx => ?_⟩
    dsimp only at hx
    rw [List.zip_append h.readers] at hx
    rcases List.mem_append.mp hx with hx | hx
    · exact h.reader x hx
    · rw [List.mem_singleton.mp hx]
      exact hl

/-- A drain moves a cursor, of which the account knows nothing. -/
theorem Agrees.drain_step (h : Agrees a b) (reader : Nat) :
    Agrees a (b.drain reader) := by
  rcases b.drain_cases reader with ⟨-, hd⟩ | ⟨r, log, hr, -, -, hd⟩
  · rw [hd]
    exact h
  · rw [hd]
    refine ⟨h.length, h.shared, h.log, h.origin, h.post, ?_, fun x hx => ?_⟩
    · rw [List.length_set]
      exact h.readers
    · -- the reader that has been moved still reads the same log
      obtain ⟨n, hn⟩ := List.mem_iff_getElem?.mp hx
      obtain ⟨hs, hx'⟩ := List.getElem?_zip_eq_some.mp hn
      dsimp only at hx'
      rw [List.getElem?_set] at hx'
      split at hx'
      · next heq =>
        subst heq
        rw [if_pos (List.getElem?_eq_some_iff.mp hr).1] at hx'
        have hlog : b.sinks[x.1]? = some r.log := h.log_of_reader hs hr
        rw [← Option.some.inj hx']
        exact hlog
      · exact h.log_of_reader hs hx'

/-- One operation keeps the agreement. -/
theorem Agrees.step (h : Agrees a b) (op : Op) : Agrees (a.enter op) (b.step op) := by
  cases op with
  | post sink kind message => exact h.post_step sink kind message
  | cloneSink sink => exact h.cloneSink_step sink
  | newSink => exact h.newSink_step
  | newReader sink => exact h.newReader_step sink
  | drain reader => exact h.drain_step reader

end Agrees

/-- **The board agrees with the account** after any row of operations. -/
theorem agrees_after (ops : List Op) : Agrees (account ops) (start.after ops) := by
  induction ops using List.reverseRecOn with
  | nil => exact agrees_start
  | append_singleton ops op ih =>
    rw [account_concat, after_concat]
    exact ih.step op

/-! ### What readers have seen -/

/-- What a reader that has taken out `taken` holds: its log up to the cursor. One that has not been
made has taken out nothing. -/
def Seen (b : NoticeBoard) (reader : Nat) (taken : List Notice) : Prop :=
  match b.readers[reader]? with
  | none => taken = []
  | some r => ∃ log, b.logs[r.log]? = some log ∧ r.cursor ≤ log.length ∧
      taken = log.entries.take r.cursor

section Seen

variable {a : Account} {b : NoticeBoard} {reader : Nat} {taken : List Notice}

/-- An operation that leaves the reader alone, and its log but for what is added to it. -/
theorem Seen.of_extends {c : NoticeBoard} (h : b.Seen reader taken)
    (hr : c.readers[reader]? = b.readers[reader]?)
    (hl : ∀ (n : Nat) (log : NoticeLog), b.logs[n]? = some log →
      ∃ more, c.logs[n]? = some ⟨log.entries ++ more⟩) : c.Seen reader taken := by
  unfold Seen at h ⊢
  rw [hr]
  cases hb : b.readers[reader]? with
  | none =>
    rw [hb] at h
    exact h
  | some r =>
    rw [hb] at h
    obtain ⟨log, hlog, hle, ht⟩ := h
    -- what has been read stands at the beginning of the log still
    obtain ⟨more, hmore⟩ := hl r.log log hlog
    refine ⟨_, hmore, ?_, ?_⟩
    · unfold NoticeLog.length
      rw [List.length_append]
      exact Nat.le_add_right_of_le hle
    · -- the cursor is within what was there before
      rw [List.take_append_of_le_length hle]
      exact ht

/-- This where the logs stay the same. -/
theorem Seen.of_same_logs {c : NoticeBoard} (h : b.Seen reader taken)
    (hr : c.readers[reader]? = b.readers[reader]?) (hl : c.logs = b.logs) :
    c.Seen reader taken := by
  refine h.of_extends hr fun n log hn => ⟨[], ?_⟩
  rw [hl, List.append_nil]
  exact hn

/-- A notice that is posted is behind every cursor. -/
theorem Seen.post_step (h : b.Seen reader taken) (sink : Nat) (kind : NoticeKind)
    (message : String) : (b.post sink kind message).Seen reader taken := by
  cases hl : b.sinks[sink]? with
  | none =>
    rw [post_of_none hl]
    exact h
  | some l =>
    rw [post_of_some hl]
    refine h.of_extends rfl fun n log hn => ?_
    rw [List.getElem?_modify, hn]
    -- the notice is added to one log, and the others stay as they are
    by_cases hln : l = n
    · exact ⟨[⟨log.length, kind, message⟩], by simp [hln, NoticeLog.post]⟩
    · exact ⟨[], by simp [hln]⟩

/-- A clone is of no concern to readers. -/
theorem Seen.cloneSink_step (h : b.Seen reader taken) (sink : Nat) :
    (b.cloneSink sink).Seen reader taken := by
  cases hl : b.sinks[sink]? with
  | none =>
    rw [cloneSink_of_none hl]
    exact h
  | some l =>
    rw [cloneSink_of_some hl]
    exact h.of_same_logs rfl rfl

/-- Neither is a new sink. -/
theorem Seen.newSink_step (h : b.Seen reader taken) : b.newSink.Seen reader taken := by
  refine h.of_extends rfl fun n log hn => ⟨[], ?_⟩
  have hlogs : b.newSink.logs = b.logs ++ [.empty] := rfl
  rw [hlogs, List.getElem?_append_left (List.getElem?_eq_some_iff.mp hn).1, List.append_nil]
  exact hn

/-- A new reader has seen nothing, and the others are left alone. -/
theorem Seen.newReader_step (h : b.Seen reader taken) (hab : Agrees a b) (sink : Nat) :
    (b.newReader sink).Seen reader taken := by
  rcases hab.sink_cases sink with ⟨-, hl⟩ | ⟨o, l, -, hl, hmem⟩
  · rw [newReader_of_none hl]
    exact h
  · rw [newReader_of_some hl]
    rcases Nat.lt_trichotomy reader b.readers.length with hlt | heq | hgt
    · exact h.of_same_logs (List.getElem?_append_left hlt) rfl
    · -- the new reader starts at the beginning of the log
      subst heq
      unfold Seen at h ⊢
      rw [List.getElem?_eq_none (Nat.le_refl _)] at h
      rw [List.getElem?_concat_length]
      exact ⟨a.log o, hab.log _ hmem, Nat.zero_le _, h⟩
    · -- a reader that has not been made yet
      refine h.of_same_logs ?_ rfl
      rw [List.getElem?_eq_none (Nat.le_of_lt hgt), List.getElem?_eq_none]
      rw [List.length_append]
      exact hgt

/-- What a reader has seen of its log is a beginning of it, and what is new to it is the rest. -/
theorem Seen.drain_step (h : b.Seen reader taken) (other : Nat) :
    (b.drain other).Seen reader
      (taken ++ if other = reader then (b.fresh? other).getD [] else []) := by
  rcases b.drain_cases other with ⟨hf, hd⟩ | ⟨r, log, hr, hl, hf, hd⟩
  · rw [hd, hf, Option.getD_none, ite_self, List.append_nil]
    exact h
  · by_cases hother : other = reader
    · subst hother
      unfold Seen at h
      rw [hr] at h
      obtain ⟨log', hl', -, ht⟩ := h
      rw [hl] at hl'
      cases hl'
      unfold Seen
      rw [hd, List.getElem?_set_self (List.getElem?_eq_some_iff.mp hr).1, if_pos rfl, hf]
      refine ⟨log, hl, Nat.le_refl _, ?_⟩
      dsimp only
      unfold NoticeLog.length
      -- what was seen and what is new make up the whole log
      rw [ht, Option.getD_some, NoticeLog.since, List.take_append_drop, List.take_length]
    · rw [if_neg hother, List.append_nil, hd]
      exact h.of_same_logs (List.getElem?_set_ne hother) rfl

/-- One operation adds to what a reader has seen what the reader takes out by it. -/
theorem Seen.step (h : b.Seen reader taken) (hab : Agrees a b) (op : Op) :
    (b.step op).Seen reader (taken ++ b.taken reader op) := by
  -- only a drain takes anything out
  cases op with
  | post sink kind message =>
    exact (List.append_nil taken).symm ▸ h.post_step sink kind message
  | cloneSink sink => exact (List.append_nil taken).symm ▸ h.cloneSink_step sink
  | newSink => exact (List.append_nil taken).symm ▸ h.newSink_step
  | newReader sink => exact (List.append_nil taken).symm ▸ h.newReader_step hab sink
  | drain other => exact h.drain_step other

/-- What a reader that has been made has seen and what is new to it are its log. -/
theorem Seen.append_fresh (h : b.Seen reader taken) {r : NoticeReader}
    (hr : b.readers[reader]? = some r) :
    ∃ log fresh, b.logs[r.log]? = some log ∧ b.fresh? reader = some fresh ∧
      taken ++ fresh = log.entries := by
  unfold Seen at h
  rw [hr] at h
  obtain ⟨log, hl, -, ht⟩ := h
  refine ⟨log, log.since r.cursor, hl, ?_, ?_⟩
  · simp [fresh?, hr, hl]
  · rw [ht]
    exact List.take_append_drop _ _

end Seen

/-- **What a reader has taken out** is its log up to the cursor. -/
theorem seen_after (ops : List Op) (reader : Nat) :
    (start.after ops).Seen reader (start.takenBy reader ops) := by
  induction ops using List.reverseRecOn with
  | nil => rfl
  | append_singleton ops op ih =>
    rw [after_concat, takenBy_concat]
    exact ih.step (agrees_after ops) op

/-! ### The laws of a board -/

/-- What logs and readers show after a row of operations. -/
structure Shows (ops : List Op) : Prop where
  /-- A sink shows what has been posted through the sinks of its origin, numbered from 0. -/
  log : ∀ sink, (start.after ops).logOf? sink
    = (account ops).origins[sink]?.map fun o => ⟨numbered 0 ((account ops).postsOf o)⟩
  /-- The notices of a log have the numbers 0, 1, 2 and so on. -/
  seq : ∀ sink, ∀ log ∈ (start.after ops).logOf? sink,
    log.entries.map (·.seq) = List.range log.entries.length
  /-- What a reader has taken out, with what it would take out now, is all that its sink shows. -/
  reader : ∀ reader, ∀ sink ∈ (account ops).readers[reader]?,
    ∃ log fresh, (start.after ops).logOf? sink = some log ∧
      (start.after ops).fresh? reader = some fresh ∧
      start.takenBy reader ops ++ fresh = log.entries
  /-- A drain changes no log, no sink and no other reader. -/
  drain : ∀ reader, ((start.after ops).drain reader).logs = (start.after ops).logs ∧
    ((start.after ops).drain reader).sinks = (start.after ops).sinks ∧
    ∀ other, other ≠ reader →
      ((start.after ops).drain reader).readers[other]? = (start.after ops).readers[other]?
  /-- A sink and its clone show the same log from then on. -/
  clone : ∀ sink, sink < (start.after ops).sinks.length → ∀ more,
    (start.after (ops ++ .cloneSink sink :: more)).logOf? (start.after ops).sinks.length
      = (start.after (ops ++ .cloneSink sink :: more)).logOf? sink
  /-- What is posted through a sink is not shown by sinks of another origin. -/
  apart : ∀ sink other kind message,
    (account ops).origins[sink]? ≠ (account ops).origins[other]? →
    ((start.after ops).post sink kind message).logOf? other = (start.after ops).logOf? other

/-- A clone shows what its sink shows, whatever is done later. -/
theorem logOf?_clone (ops more : List Op) {sink : Nat} (h : sink < (start.after ops).sinks.length) :
    (start.after (ops ++ .cloneSink sink :: more)).logOf? (start.after ops).sinks.length
      = (start.after (ops ++ .cloneSink sink :: more)).logOf? sink := by
  have hlen := (agrees_after ops).length
  rw [← hlen] at h ⊢
  have ho := List.getElem?_eq_getElem h
  -- the clone gets the origin of the sink, and both keep it
  have hclone : (account (ops ++ [.cloneSink sink])).origins
      = (account ops).origins ++ [(account ops).origins[sink]] := by
    rw [account_concat, Account.enter_cloneSink_of_some ho]
  obtain ⟨rest, hrest⟩ := origins_prefix (ops ++ [.cloneSink sink]) more
  have hsame : (account (ops ++ .cloneSink sink :: more)).origins[(account ops).origins.length]?
      = (account (ops ++ .cloneSink sink :: more)).origins[sink]? := by
    rw [List.append_cons, ← hrest, hclone, List.append_assoc, List.getElem?_append_left h, ho,
      List.getElem?_append_right (Nat.le_refl _), Nat.sub_self]
    rfl
  rw [(agrees_after _).logOf?_eq, (agrees_after _).logOf?_eq, hsame]

/-- A notice is not shown by the sinks of another origin. -/
theorem logOf?_post_of_ne {ops : List Op} {sink other : Nat}
    (h : (account ops).origins[sink]? ≠ (account ops).origins[other]?) (kind : NoticeKind)
    (message : String) :
    ((start.after ops).post sink kind message).logOf? other = (start.after ops).logOf? other := by
  have hpost : (start.after ops).post sink kind message
      = start.after (ops ++ [.post sink kind message]) :=
    (after_concat start ops (.post sink kind message)).symm
  -- of the board nothing is needed but what the account says of it
  rw [hpost, (agrees_after _).logOf?_eq, (agrees_after _).logOf?_eq, account_concat]
  cases hs : (account ops).origins[sink]? with
  | none => rw [Account.enter_post_of_none hs]
  | some q =>
    rw [Account.enter_post_of_some hs]
    dsimp only
    cases ho : (account ops).origins[other]? with
    | none => rfl
    | some o =>
      have hqo : q ≠ o := by
        rw [ho, hs] at h
        exact fun heq => h (congrArg some heq)
      rw [Option.map_some, Option.map_some, Account.log_post, if_neg hqo]

/-- **Readers see everything once.** Whatever is done to a board and in whatever order, each reader
has taken out, and would take out now, exactly what its sink shows, each notice once and in order;
the sinks that belong together show the same log, and no other sink and no reader has a part in
it. -/
theorem readers_see_everything_once (ops : List Op) : Shows ops := by
  have h := agrees_after ops
  refine ⟨h.logOf?_eq, fun sink log hlog => ?_, fun reader sink hs => ?_, fun reader => ?_,
    fun sink hs more => logOf?_clone ops more hs,
    fun sink other kind message hne => logOf?_post_of_ne hne kind message⟩
  · -- a log is numbered, as that of an origin is
    rw [h.logOf?_eq] at hlog
    obtain ⟨o, -, rfl⟩ := Option.map_eq_some_iff.mp hlog
    unfold Account.log
    rw [seq_numbered, length_numbered, List.range_eq_range']
  · -- the reader of the board that the account's reader stands for
    have hlt : reader < (start.after ops).readers.length :=
      h.readers ▸ (List.getElem?_eq_some_iff.mp hs).1
    have hr := List.getElem?_eq_getElem hlt
    have hsink := h.log_of_reader hs hr
    obtain ⟨log, fresh, hl, hf, happ⟩ := (seen_after ops reader).append_fresh hr
    refine ⟨log, fresh, ?_, hf, happ⟩
    unfold logOf?
    rw [hsink]
    exact hl
  · -- a drain moves one cursor
    refine ⟨logs_drain _ _, ?_⟩
    rcases (start.after ops).drain_cases reader with ⟨-, hd⟩ | ⟨r, log, -, -, -, hd⟩
    · rw [hd]
      exact ⟨rfl, fun _ _ => rfl⟩
    · rw [hd]
      exact ⟨rfl, fun other hne => List.getElem?_set_ne hne.symm⟩

end WalletPanel.NoticeBoard
