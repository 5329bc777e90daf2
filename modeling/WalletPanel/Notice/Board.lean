import WalletPanel.Notice.Log

/-!
# Logs with many writers and many readers

A board holds independent logs. Notices are put in through sinks, of which several may share a log,
and are taken out by readers, each with a cursor of its own that starts at the beginning of its
log, whenever the reader is made. Taking out moves one cursor and changes nothing else.

Sinks and readers are named by number in the order in which they were made; a function yields
nothing for a number that has not been given out.
-/

namespace WalletPanel

/-- A reader: which log it reads and how far it has come. -/
structure NoticeReader where
  log : Nat
  cursor : Nat
deriving DecidableEq, Repr

/-- Logs, the sinks that write to them and the readers that read them. -/
structure NoticeBoard where
  logs : List NoticeLog
  /-- For each sink the number of its log. -/
  sinks : List Nat
  readers : List NoticeReader
deriving DecidableEq, Repr

namespace NoticeBoard

/-- One log with one sink and no reader. -/
def start : NoticeBoard := ⟨[.empty], [0], []⟩

def logOf? (b : NoticeBoard) (sink : Nat) : Option NoticeLog := do b.logs[← b.sinks[sink]?]?

def post (b : NoticeBoard) (sink : Nat) (kind : NoticeKind) (message : String) : NoticeBoard :=
  match b.sinks[sink]? with
  | some log => { b with logs := b.logs.modify log (·.post kind message) }
  | none => b

def cloneSink (b : NoticeBoard) (sink : Nat) : NoticeBoard :=
  match b.sinks[sink]? with
  | some log => { b with sinks := b.sinks ++ [log] }
  | none => b

/-- Makes a sink with a log of its own. -/
def newSink (b : NoticeBoard) : NoticeBoard :=
  { b with logs := b.logs ++ [.empty], sinks := b.sinks ++ [b.logs.length] }

/-- Makes a reader of a sink's log. -/
def newReader (b : NoticeBoard) (sink : Nat) : NoticeBoard :=
  match b.sinks[sink]? with
  | some log => { b with readers := b.readers ++ [⟨log, 0⟩] }
  | none => b

/-- The notices that are new to a reader. -/
def fresh? (b : NoticeBoard) (reader : Nat) : Option (List Notice) := do
  let r ← b.readers[reader]?
  let log ← b.logs[r.log]?
  some (log.since r.cursor)

/-- Moves a reader to the end of its log. -/
def drain (b : NoticeBoard) (reader : Nat) : NoticeBoard :=
  match b.readers[reader]? with
  | some r =>
    match b.logs[r.log]? with
    | some log => { b with readers := b.readers.set reader ⟨r.log, log.length⟩ }
    | none => b
  | none => b

/-- Taking notices out changes no log. -/
@[simp] theorem logs_drain (b : NoticeBoard) (reader : Nat) : (b.drain reader).logs = b.logs := by
  unfold drain; split <;> (try split) <;> rfl

end NoticeBoard

end WalletPanel
