import WalletPanel.Journal.Event

/-!
# Notices and their places

A notice carries its place in its log. So a log that was empty at first is known by the messages
alone: it has them one after the other, numbered from 0 (`numbered`). A message that is posted is
added at the end, under the next number (`post_numbered`), and so are the announcements of a row of
events (`NoticeLog.entries_record`).
-/

namespace WalletPanel

/-- Messages as notices, with their places counted from `n`. -/
def numbered (n : Nat) : List (NoticeKind × String) → List Notice
  | [] => []
  | (kind, message) :: more => ⟨n, kind, message⟩ :: numbered (n + 1) more

/-- The second row goes on with the number where the first one stops. -/
theorem numbered_append (n : Nat) (xs ys : List (NoticeKind × String)) :
    numbered n (xs ++ ys) = numbered n xs ++ numbered (n + xs.length) ys := by
  induction xs generalizing n with
  | nil => rfl
  | cons x xs ih =>
    -- the second row starts behind one message more than it does in the induction hypothesis
    have hn : n + (x :: xs).length = n + 1 + xs.length := by
      rw [List.length_cons]
      omega
    rw [hn]
    exact congrArg (_ :: ·) (ih (n + 1))

/-- There is one notice for each message. -/
@[simp] theorem length_numbered (n : Nat) (xs : List (NoticeKind × String)) :
    (numbered n xs).length = xs.length := by
  induction xs generalizing n with
  | nil => rfl
  | cons x xs ih => exact congrArg (· + 1) (ih (n + 1))

/-- The notices are numbered in order, without a gap. -/
theorem seq_numbered (n : Nat) (xs : List (NoticeKind × String)) :
    (numbered n xs).map (·.seq) = List.range' n xs.length := by
  induction xs generalizing n with
  | nil => rfl
  | cons x xs ih => exact congrArg (n :: ·) (ih (n + 1))

/-- What is recorded is added at the end, under the next numbers. -/
theorem NoticeLog.entries_record (log : NoticeLog) (events : List Event) :
    (log.record events).entries
      = log.entries ++ numbered log.length (events.filterMap Event.announcement?) := by
  unfold record
  generalize events.filterMap Event.announcement? = told
  induction told generalizing log with
  | nil => exact (List.append_nil _).symm
  | cons t told ih =>
    rw [List.foldl_cons, ih, entries_post, length_post, List.append_assoc]
    rfl

/-- A log of numbered messages goes on with the next number. -/
theorem NoticeLog.post_numbered (xs : List (NoticeKind × String)) (kind : NoticeKind)
    (message : String) :
    post ⟨numbered 0 xs⟩ kind message = ⟨numbered 0 (xs ++ [(kind, message)])⟩ := by
  rw [numbered_append, Nat.zero_add]
  unfold post NoticeLog.length
  rw [length_numbered]
  rfl

end WalletPanel
