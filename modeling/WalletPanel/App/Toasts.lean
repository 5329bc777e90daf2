import WalletPanel.Notice.Log

/-!
# Toasts

A notice is shown for a while after it has been collected; a toast is gone as soon as its lifetime
has passed. Times are in nanoseconds since some time before the start. Clocks tell no shorter spans
apart, so that no two times of a clock fall together here.
-/

namespace WalletPanel

/-- A notice that is shown until a time. -/
structure Toast where
  notice : Notice
  expiresAt : Nat
deriving DecidableEq, Repr

namespace Toast

/-- How long a notice is shown: four seconds. -/
def lifetime : Nat := 4000000000

/-- The sign that goes with a notice. -/
def icon : NoticeKind → String
  | .success => "✅"
  | .error => "❌"

/-- What can be seen of a toast. -/
def shown (t : Toast) : List String := [icon t.notice.kind, t.notice.message]

/-- The toasts of notices that are collected at time `now`. -/
def ofNotices (now : Nat) (notices : List Notice) : List Toast :=
  -- all notices of a frame end together
  notices.map (⟨·, now + lifetime⟩)

/-- The toasts that are still shown at time `now`. -/
def alive (now : Nat) (toasts : List Toast) : List Toast := toasts.filter (now < ·.expiresAt)

/-- Notices that are collected together are shown together, until their lifetime has passed. -/
theorem alive_ofNotices (now time : Nat) (notices : List Notice) :
    alive now (ofNotices time notices)
      = if now < time + lifetime then ofNotices time notices else [] := by
  -- for any time to expire at, so that no step counts out how long the lifetime is
  have hend : ∀ expiry, alive now (notices.map (⟨·, expiry⟩))
      = if now < expiry then notices.map (⟨·, expiry⟩) else [] := by
    intro expiry
    unfold alive
    rw [List.filter_map]
    by_cases h : now < expiry
    · rw [if_pos h]
      exact congrArg _ (List.filter_eq_self.mpr fun _ _ => decide_eq_true h)
    · rw [if_neg h]
      exact congrArg (List.map _) (List.filter_eq_nil_iff.mpr fun _ _ => mt of_decide_eq_true h)
  exact hend (time + lifetime)

/-- What is gone stays gone: looking earlier in between changes nothing. -/
theorem alive_alive {now later : Nat} (h : now ≤ later) (toasts : List Toast) :
    alive later (alive now toasts) = alive later toasts := by
  simp only [alive, List.filter_filter]
  refine List.filter_congr fun t _ => ?_
  by_cases ht : later < t.expiresAt <;> simp [ht]
  omega

end Toast

end WalletPanel
