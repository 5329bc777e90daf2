import WalletPanel.Clipboard.Error
import WalletPanel.Clipboard.Target
import WalletPanel.Form.Validation
import WalletPanel.Notice.Log
import WalletPanel.Remote.Call
import WalletPanel.Screen.Id
import WalletPanel.Workflow.Phase

/-!
# The journal

Everything that happens in the panel leaves an event, of which `Event.level` and `Event.fields` make
a line of the journal. An event holds what its line says and no more: none has a wallet's key for a
part, though the error of a request may quote what the backend has sent. Some events are
announcements to the user: `Event.announcement?` is the notice that such an event posts, so that the
notices of a run can be read off its events.
-/

namespace WalletPanel

/-- How important a line of the journal is. -/
inductive Level where
  | debug
  | info
  | warning
  | error
deriving DecidableEq, Repr

def Level.name : Level → String
  | debug => "DEBUG"
  | info => "INFO"
  | warning => "WARN"
  | error => "ERROR"

/-- Which of its two ways a text took to the clipboard. -/
inductive ClipboardPath where
  | primary
  | fallback
deriving DecidableEq, Repr

def ClipboardPath.name : ClipboardPath → String
  | primary => "primary"
  | fallback => "fallback"

inductive Event where
  /-- The workflow of this label changed its phase and has this generation now. -/
  | transition (label : String) (t : Transition) (generation : UInt64)
  /-- A result came for a request that is no longer waited for. -/
  | staleResult (label : String) (ticket current : UInt64)
  /-- A request that was waited for failed. -/
  | requestFailed (label : String) (error : RemoteError)
  /-- A submission came while a request was under way. -/
  | submitIgnored (workflow : WorkflowId)
  /-- A form was submitted that is not filled in. -/
  | formInvalid (workflow : WorkflowId) (error : ValidationError)
  /-- A submission came in a phase that does not allow it. -/
  | submitRejected (workflow : WorkflowId) (error : TransitionError)
  | dispatching (workflow : WorkflowId) (operation : Operation)
  /-- A call goes to the backend. -/
  | executing (operation : Operation)
  | announced (kind : NoticeKind) (message : String)
  | navigated (source target : Screen)
  /-- A reply came for a workflow that does not ask for its kind. -/
  | misrouted (workflow : WorkflowId) (operation : Operation)
  | nothingToCopy (target : CopyTarget)
  | copyFailed (target : CopyTarget) (error : ClipboardError)
  | copied (path : ClipboardPath)
  /-- The clipboard did not take a text and the other way is tried. -/
  | primaryFailed (error : ClipboardError)
  /-- No way led to the clipboard. -/
  | clipboardFailed (error : ClipboardError)
deriving DecidableEq, Repr

namespace Event

def level : Event → Level
  | requestFailed _ _ | clipboardFailed _ | announced .error _ => .warning
  | dispatching _ _ | announced .success _ => .info
  | misrouted _ _ => .error
  | _ => .debug

def digits (n : UInt64) : String := String.ofList (Text.decimal n.toNat)

/-- The line of an event: its fields in order, the first of which says what happened. -/
def fields : Event → List (String × String)
  | transition label t generation =>
    [("message", "workflow transition"), ("workflow", label), ("from", t.source.name),
      ("to", t.target.name), ("reason", t.reason), ("generation", digits generation)]
  | staleResult label ticket current =>
    [("message", "dropping stale completion"), ("workflow", label), ("ticket", digits ticket),
      ("current", digits current)]
  | requestFailed label error =>
    [("message", "remote call failed"), ("workflow", label), ("error", error.message)]
  | submitIgnored workflow =>
    [("message", "submit ignored while submitting"), ("workflow", workflow.name)]
  | formInvalid workflow error =>
    [("message", "local validation failed"), ("workflow", workflow.name), ("error", error.name)]
  | submitRejected workflow error =>
    [("message", "submit rejected"), ("workflow", workflow.name), ("error", error.message)]
  | dispatching workflow operation =>
    [("message", "dispatching"), ("workflow", workflow.name), ("operation", operation.name)]
  | executing operation => [("message", "executing remote call"), ("operation", operation.name)]
  | announced _ message => [("message", "notify"), ("message", message)]
  | navigated source target =>
    [("message", "navigate"), ("from", source.name), ("to", target.name)]
  | misrouted workflow operation =>
    [("message", "reply routed to wrong workflow"), ("workflow", workflow.name),
      ("reply", operation.replyName)]
  | nothingToCopy target => [("message", "nothing to copy"), ("target", target.name)]
  | copyFailed target error =>
    [("message", "copy failed"), ("copy_target", target.name), ("error", error.message)]
  | copied path => [("message", "copied to clipboard"), ("path", path.name)]
  | primaryFailed error =>
    [("message", "primary clipboard failed, trying fallback"), ("error", error.message)]
  | clipboardFailed error => [("message", "clipboard copy failed"), ("error", error.message)]

/-- The notice that an event posts, if it is an announcement. -/
def announcement? : Event → Option (NoticeKind × String)
  -- all that the user is told is announced, and nothing else is
  | announced kind message => some (kind, message)
  | _ => none

end Event

/-- The log with the announcements among `events` posted to it. -/
def NoticeLog.record (log : NoticeLog) (events : List Event) : NoticeLog :=
  (events.filterMap Event.announcement?).foldl
    (fun log (kind, message) => log.post kind message) log

@[simp] theorem NoticeLog.record_nil (log : NoticeLog) : log.record [] = log := rfl

end WalletPanel
