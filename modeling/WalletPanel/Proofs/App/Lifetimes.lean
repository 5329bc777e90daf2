import Mathlib.Data.List.Flatten
import Mathlib.Data.List.Nodup
import WalletPanel.Proofs.App.Painted
import WalletPanel.Proofs.Panel.Told

/-!
# How long a notice is shown

The frames of a run are taken down one by one (`App.shots`): the time of each, the notices that have
come up since the frame before, and what is drawn. This is looked at from outside, in the log and in
the picture; neither the cursor into the log nor the row of toasts has a part in it.

What the application knows between two frames is said by `App.Kept`: the log has been read to its
end, and of all toasts that there have been those are left that were alive in the last frame. One
frame keeps this (`Kept.frame`), and what it draws can be read off it (`Kept.drawn`). As time goes
on a toast that is gone stays gone, so that it does not matter that toasts are forgotten on the way.

So a frame draws the notices of the last four seconds, the one in which they came up included
(`drawn_are_recent`).
-/

namespace WalletPanel

/-- A frame as it is taken down. -/
structure Shot where
  time : Nat
  /-- The notices that have come up since the end of the frame before. -/
  collected : List Notice
  /-- The notices that have come up in the frame itself. -/
  posted : List Notice
  /-- The notices that are drawn, in the order in which they are. -/
  drawn : List Notice

/-- Whether the notices of a frame are recent at time `now`: four seconds have not passed. -/
def Shot.isRecent (now : Nat) (s : Shot) : Bool := now < s.time + 4000000000

/-- The notices of a row of frames that are recent at time `now`. -/
def recent (now : Nat) (shots : List Shot) : List Notice :=
  (shots.filter (Shot.isRecent now)).flatMap Shot.collected

/-- The toasts that the notices of a frame become. -/
def Shot.toasts (s : Shot) : List Toast := Toast.ofNotices s.time s.collected

/-- The time that an event has on the clock. -/
def App.Event.time? : App.Event → Option Nat
  | frame now _ => some now
  | arrive _ _ | endCopy _ _ => none

/-- The time does not go back in a row of events. -/
def App.Forward (events : List App.Event) : Prop :=
  (events.filterMap App.Event.time?).Pairwise (· ≤ ·)

instance (events : List App.Event) : Decidable (App.Forward events) :=
  inferInstanceAs (Decidable (List.Pairwise _ _))

/-! ### Toasts that are alive -/

/-- The toasts of two rows that are alive are those of each row. -/
theorem Toast.alive_append (now : Nat) (xs ys : List Toast) :
    alive now (xs ++ ys) = alive now xs ++ alive now ys :=
  List.filter_append xs ys

/-- Of the toasts of a row of frames those are alive whose notices are recent. -/
theorem notices_alive (now : Nat) (shots : List Shot) :
    (Toast.alive now (shots.flatMap Shot.toasts)).map (·.notice) = recent now shots := by
  -- a toast keeps the notice that it was made of
  have hmap : ∀ s : Shot, s.toasts.map (·.notice) = s.collected := by
    intro s
    unfold Shot.toasts Toast.ofNotices
    rw [List.map_map]
    exact List.map_id s.collected
  induction shots with
  | nil => rfl
  | cons s shots ih =>
    -- all toasts of a frame end at the same time
    have halive : Toast.alive now s.toasts = if s.isRecent now then s.toasts else [] := by
      have hrecent : s.isRecent now = true ↔ now < s.time + Toast.lifetime := decide_eq_true_iff
      unfold Shot.toasts
      rw [Toast.alive_ofNotices]
      exact if_congr hrecent.symm rfl rfl
    unfold recent at ih ⊢
    rw [List.flatMap_cons, Toast.alive_append, List.map_append, ih, halive, List.filter_cons]
    split
    · rw [hmap]
      rfl
    · rfl

namespace App

/-! ### Frames one after the other -/

/-- A frame at time `now`, when there were `seen` notices at the end of the frame before. -/
def shot (app : App) (seen now : Nat) (g : Gestures) : Shot where
  time := now
  collected := (app.frame now g).1.panel.notices.since seen
  posted := (app.frame now g).1.panel.notices.since app.panel.notices.length
  drawn := (app.frame now g).2.toasts.map (·.notice)

/-- The frames of a row of events, when there were `seen` notices at the end of the frame before. -/
def shots (app : App) (seen : Nat) : List Event → List Shot
  | [] => []
  | .frame now g :: es =>
    app.shot seen now g :: (app.frame now g).1.shots (app.frame now g).1.panel.notices.length es
  | e :: es => (app.step e).1.shots seen es

/-- The frames are taken down with the times that they have on the clock. -/
theorem time_shots (app : App) (seen : Nat) (events : List Event) :
    (app.shots seen events).map (·.time) = events.filterMap Event.time? := by
  induction events generalizing app seen with
  | nil => rfl
  | cons e es ih =>
    cases e with
    | frame now g => exact congrArg (now :: ·) (ih _ _)
    | arrive request arrival => exact ih _ seen
    | endCopy place result => exact ih _ seen

/-- A frame only adds to the log. -/
theorem entries_frame (app : App) (now : Nat) (g : Gestures) :
    app.panel.notices.entries ++ (app.shot app.panel.notices.length now g).collected
      = (app.frame now g).1.panel.notices.entries := by
  have hpanel : (app.frame now g).1.panel = app.panel.after (app.frameOps g) :=
    (does_frame app now g).panel
  unfold shot NoticeLog.since NoticeLog.length
  rw [hpanel, Panel.entries_after, List.drop_left]

/-- **What is kept between two frames**, when `past` are the frames so far and `last` is the time of
the last one. -/
structure Kept (past : List Shot) (last : Nat) (app : App) : Prop where
  /-- All notices have been turned into toasts. -/
  cursor : app.collected = app.panel.notices.length
  /-- Of the toasts that there have been, those are left that have not been pruned. -/
  toasts : app.toasts = Toast.alive last (past.flatMap Shot.toasts)
  /-- Each notice has come up in one frame, in the order of the log. -/
  log : past.flatMap Shot.collected = app.panel.notices.entries

/-- To start tells the user nothing. -/
theorem entries_start (backend : Backend) : (App.start backend).panel.notices.entries = [] := by
  rw [panel_start, Panel.entries_after]
  rfl

/-- At the start there is no notice that could have been seen. -/
theorem length_notices_start (backend : Backend) :
    (App.start backend).panel.notices.length = 0 := by
  rw [NoticeLog.length, entries_start]
  rfl

/-- Before the first frame there is nothing to keep. -/
theorem kept_start (backend : Backend) : Kept [] 0 (App.start backend) := by
  have hboard : (App.start backend).board = ([], 0) := board_act _ .start
  refine ⟨?_, congrArg Prod.fst hboard, (entries_start backend).symm⟩
  rw [length_notices_start]
  exact congrArg Prod.snd hboard

namespace Kept

variable {app : App} {past : List Shot} {last now : Nat}

/-- The toasts of a frame are those that are alive of all that there have been, its own included. -/
theorem toasts_frame (h : Kept past last app) (hnow : last ≤ now) (g : Gestures) :
    (app.frame now g).2.toasts = Toast.alive now
      ((past ++ [app.shot app.panel.notices.length now g]).flatMap Shot.toasts) := by
  have hnew : (app.shot app.panel.notices.length now g).toasts
      = Toast.ofNotices now ((app.frame now g).1.panel.notices.since app.collected) := by
    rw [h.cursor]
    rfl
  rw [toasts_frame_eq, ← hnew, Toast.alive_append, h.toasts, Toast.alive_alive hnow,
    ← Toast.alive_append, List.flatMap_append, List.flatMap_singleton]

/-- **A frame draws what is recent.** -/
theorem drawn (h : Kept past last app) (hnow : last ≤ now) (g : Gestures) :
    (app.shot app.panel.notices.length now g).drawn
      = recent now (past ++ [app.shot app.panel.notices.length now g]) := by
  rw [← notices_alive, ← h.toasts_frame hnow g]
  rfl

/-- **A frame keeps the log and the toasts in step.** -/
theorem frame (h : Kept past last app) (hnow : last ≤ now) (g : Gestures) :
    Kept (past ++ [app.shot app.panel.notices.length now g]) now (app.frame now g).1 := by
  refine ⟨rfl, h.toasts_frame hnow g, ?_⟩
  rw [List.flatMap_append, List.flatMap_singleton, h.log, entries_frame]

/-- **The frames of a run.** Each of them draws what is recent of all frames up to it, and draws
what has come up in it; and together they have collected the log. -/
theorem run (h : Kept past last app) {events : List Event} (hforward : Forward events)
    (hlast : ∀ t ∈ events.filterMap Event.time?, last ≤ t) :
    (past ++ app.shots app.panel.notices.length events).flatMap Shot.collected
      = (app.run events).panel.notices.entries ∧
    ∀ earlier s later, app.shots app.panel.notices.length events = earlier ++ s :: later →
      s.drawn = recent s.time (past ++ earlier ++ [s]) ∧ s.posted = s.collected := by
  induction events generalizing app past last with
  | nil =>
    refine ⟨(congrArg _ (List.append_nil past)).trans h.log, fun earlier s later hs => ?_⟩
    exact absurd hs.symm (List.append_ne_nil_of_right_ne_nil _ (List.cons_ne_nil s later))
  | cons e es ih =>
    cases e with
    -- what comes from outside lies ready until the next frame
    | arrive request arrival => exact ih ⟨h.cursor, h.toasts, h.log⟩ hforward hlast
    | endCopy place result => exact ih ⟨h.cursor, h.toasts, h.log⟩ hforward hlast
    | frame now g =>
      obtain ⟨hle, hmore⟩ := List.pairwise_cons.mp hforward
      have hnow : last ≤ now := hlast now List.mem_cons_self
      obtain ⟨hlog, hshots⟩ := ih (h.frame hnow g) hmore hle
      rw [List.append_assoc] at hlog
      refine ⟨hlog, fun earlier s later hs => ?_⟩
      cases earlier with
      | nil =>
        obtain ⟨rfl, -⟩ := List.cons.inj hs
        rw [List.append_nil]
        exact ⟨h.drawn hnow g, rfl⟩
      | cons first earlier =>
        obtain ⟨rfl, hrest⟩ := List.cons.inj hs
        have hs' := hshots earlier s later hrest
        rw [List.append_assoc past] at hs'
        exact hs'

end Kept

/-! ### Runs -/

/-- The notices of a run are numbered in ascending order. -/
theorem seq_run (backend : Backend) (events : List Event) :
    (((App.start backend).run events).panel.notices.entries.map (·.seq)).Pairwise (· < ·) := by
  have hseq := (Panel.notices_of_run (.start :: (App.start backend).ops events) []).2.1
  rw [← panel_run_start] at hseq
  rw [hseq]
  exact List.pairwise_lt_range

section

variable {backend : Backend} {events : List Event} {earlier later : List Shot} {s : Shot}

/-- A frame of a run draws what is recent, and what has come up in it. -/
theorem drawn_of_shots (h : Forward events)
    (hs : (App.start backend).shots 0 events = earlier ++ s :: later) :
    s.drawn = recent s.time (earlier ++ [s]) ∧ s.posted = s.collected := by
  rw [← length_notices_start backend] at hs
  exact ((kept_start backend).run h fun _ _ => Nat.zero_le _).2 earlier s later hs

/-- Together the frames of a run have collected the log. -/
theorem collected_of_shots (h : Forward events) :
    ((App.start backend).shots 0 events).flatMap Shot.collected
      = ((App.start backend).run events).panel.notices.entries := by
  rw [← length_notices_start backend]
  exact ((kept_start backend).run h fun _ _ => Nat.zero_le _).1

/-- No notice comes up in a frame and again in a later one. -/
theorem collected_apart (h : Forward events)
    (hs : (App.start backend).shots 0 events = earlier ++ later) :
    (earlier.flatMap Shot.collected).Disjoint (later.flatMap Shot.collected) := by
  have hnodup : ((App.start backend).run events).panel.notices.entries.Nodup :=
    ((seq_run backend events).imp Nat.ne_of_lt).of_map _ fun _ _ hne heq => hne (congrArg _ heq)
  rw [← collected_of_shots h, hs, List.flatMap_append] at hnodup
  exact (List.nodup_append'.mp hnodup).2.2

/-- No later frame has an earlier time. -/
theorem time_le_of_shots (h : Forward events)
    (hs : (App.start backend).shots 0 events = earlier ++ s :: later) :
    ∀ f ∈ later, s.time ≤ f.time := by
  have htimes : (((App.start backend).shots 0 events).map (·.time)).Pairwise (· ≤ ·) := by
    rw [time_shots]
    exact h
  rw [hs, List.pairwise_map] at htimes
  exact (List.pairwise_cons.mp (List.pairwise_append.mp htimes).2.1).1

/-- **The toasts of a frame are the notices of the last four seconds.** Let the clock of a run not
go back, and take one of its frames.

What the frame draws is what came up in a frame up to it that began less than four seconds ago, each
notice once and in the order of the log; what comes up in the frame itself is drawn in it. The
frames of the run together collect the whole log. A notice that has come up and is not drawn is not
drawn in any later frame either. -/
theorem drawn_are_recent (h : Forward events)
    (hs : (App.start backend).shots 0 events = earlier ++ s :: later) :
    s.drawn = recent s.time (earlier ++ [s]) ∧
    (s.drawn.map (·.seq)).Pairwise (· < ·) ∧
    s.posted <:+ s.drawn ∧
    (earlier ++ s :: later).flatMap Shot.collected
      = ((App.start backend).run events).panel.notices.entries ∧
    ∀ f ∈ later, ∀ n ∈ f.drawn, n ∈ (earlier ++ [s]).flatMap Shot.collected → n ∈ s.drawn := by
  obtain ⟨hdrawn, hposted⟩ := drawn_of_shots h hs
  have hlog : (earlier ++ s :: later).flatMap Shot.collected
      = ((App.start backend).run events).panel.notices.entries := hs ▸ collected_of_shots h
  refine ⟨hdrawn, ?_, ?_, hlog, ?_⟩
  · -- what is drawn stands in the log in this order
    have hsub : s.drawn.Sublist ((App.start backend).run events).panel.notices.entries := by
      rw [hdrawn, ← hlog, List.append_cons earlier s later, List.flatMap_append]
      exact (List.filter_sublist.flatMap _).trans (List.sublist_append_left _ _)
    exact (seq_run backend events).sublist (hsub.map _)
  · -- a frame is itself recent, and comes last
    have hself : s.isRecent s.time = true := decide_eq_true (Nat.lt_add_of_pos_right (by decide))
    rw [hdrawn, hposted, recent, List.filter_append, List.flatMap_append,
      List.filter_cons_of_pos hself, List.filter_nil, List.flatMap_singleton]
    exact List.suffix_append _ _
  · intro f hf n hn hold
    obtain ⟨between, rest, rfl⟩ := List.append_of_mem hf
    have hf : (App.start backend).shots 0 events = (earlier ++ s :: between) ++ f :: rest := by
      rw [hs, List.append_assoc, List.cons_append]
    -- the frame in which it came up is recent still, and is not a frame after `s`
    rw [(drawn_of_shots h hf).1] at hn
    obtain ⟨g, hg, hmem⟩ := List.mem_flatMap.mp hn
    obtain ⟨hg, hrecent⟩ := List.mem_filter.mp hg
    have hbefore : g ∈ earlier ++ [s] := by
      have hapart := collected_apart h ((List.append_cons earlier s _).symm ▸ hs)
      rw [List.append_cons earlier s between, List.append_assoc (earlier ++ [s])] at hg
      refine (List.mem_append.mp hg).resolve_right fun hlate => ?_
      refine hapart hold (List.mem_flatMap.mpr ⟨g, ?_, hmem⟩)
      rw [List.append_cons between f rest]
      exact List.mem_append_left _ hlate
    have htime : s.time ≤ f.time := time_le_of_shots h hs f List.mem_append_cons_self
    rw [hdrawn]
    refine List.mem_flatMap.mpr ⟨g, List.mem_filter.mpr ⟨hbefore, ?_⟩, hmem⟩
    exact decide_eq_true (htime.trans_lt (of_decide_eq_true hrecent))

end

/-- A run in which the wallets cannot be loaded. Four seconds later, less one nanosecond, a form is
sent off empty. -/
def waitingRun : List Event :=
  [.arrive 0 (.nothing ""), .frame 0 (.click 4), .frame 3999999999 (.click 16),
    .frame 4000000000 .none]

/-- The first notice is drawn for as long as four seconds have not passed, and not at the end of
them. -/
theorem waitingRun_draws_recent :
    Forward waitingRun ∧
    ((App.start .standard).shots 0 waitingRun).map (fun s => (s.time, s.drawn.map (·.message)))
      = [(0, ["Failed to load wallets"]),
        (3999999999, ["Failed to load wallets", "Please fill in all fields"]),
        (4000000000, ["Please fill in all fields"])] ∧
    ∃ first second s, (App.start .standard).shots 0 waitingRun = [first, second] ++ [s] ∧
      s.drawn = recent s.time [first, second, s] := by
  have h : Forward waitingRun := by decide
  obtain ⟨first, second, s, hs⟩ : ∃ first second s,
      (App.start .standard).shots 0 waitingRun = [first, second] ++ [s] := ⟨_, _, _, rfl⟩
  refine ⟨h, ?_, first, second, s, hs, (drawn_are_recent h hs).1⟩
  decide +kernel

end App

end WalletPanel
