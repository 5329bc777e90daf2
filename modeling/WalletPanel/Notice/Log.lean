/-!
# Notices

Short messages to the user, kept in a log that only grows. A notice carries its place in the log as
a number; equal messages are kept as often as they come.
-/

namespace WalletPanel

/-- Whether a notice brings good news. -/
inductive NoticeKind where
  | success
  | error
deriving DecidableEq, Repr

structure Notice where
  /-- Its place in the log, from 0. -/
  seq : Nat
  kind : NoticeKind
  message : String
deriving DecidableEq, Repr

/-- The notices so far, the oldest first. -/
structure NoticeLog where
  entries : List Notice
deriving DecidableEq, Repr

namespace NoticeLog

def empty : NoticeLog := ⟨[]⟩

def length (log : NoticeLog) : Nat := log.entries.length

def isEmpty (log : NoticeLog) : Bool := log.length == 0

def post (log : NoticeLog) (kind : NoticeKind) (message : String) : NoticeLog :=
  ⟨log.entries ++ [⟨log.length, kind, message⟩]⟩

/-- The notices from place `cursor` on. -/
def since (log : NoticeLog) (cursor : Nat) : List Notice := log.entries.drop cursor

@[simp] theorem entries_empty : empty.entries = [] := rfl

@[simp] theorem entries_post (log : NoticeLog) (kind : NoticeKind) (message : String) :
    (log.post kind message).entries = log.entries ++ [⟨log.length, kind, message⟩] := rfl

@[simp] theorem length_post (log : NoticeLog) (kind : NoticeKind) (message : String) :
    (log.post kind message).length = log.length + 1 := by
  simp [length]

@[simp] theorem since_zero (log : NoticeLog) : log.since 0 = log.entries := rfl

end NoticeLog

end WalletPanel
