import Mathlib.Data.List.DropRight
import WalletPanel.Text.Trim

/-!
# What trimming leaves

What is left of a text, said without cutting anything off (`Trims`): the text has it between two
rows of characters that may go, and none of these stands at an end of what is left. `strip` finds
it, and there is nothing else to be found (`strip_eq_iff`).

Each way of trimming comes with the same two facts. A text with nothing to cut at its ends stays as
it is, and characters that may go make no difference where they are put at an end (`dropEnd_append`,
`strip_append`).
-/

namespace WalletPanel.Text

variable {p : Char → Bool}

/-! ### At one end -/

/-- A text that begins with a character that stays is kept from the front on. -/
theorem dropWhile_of_head {s : List Char} (h : ∀ c ∈ s.head?, p c = false) :
    s.dropWhile p = s := by
  cases s with
  | nil => rfl
  | cons c t => rw [List.dropWhile_cons, h c rfl]; rfl

/-- Characters that may go make no difference at the end. -/
theorem dropEnd_append {after : List Char} (h : after.all p = true) (s : List Char) :
    dropEnd p (s ++ after) = dropEnd p s := by
  -- the last character goes first
  induction after using List.reverseRecOn with
  | nil => rw [List.append_nil]
  | append_singleton after c ih =>
    rw [List.all_append, Bool.and_eq_true] at h
    obtain ⟨hafter, hc⟩ := h
    rw [← List.append_assoc, dropEnd_append_of_pos (List.all_eq_true.mp hc c List.mem_cons_self)]
    exact ih hafter

/-- A text that ends in a character that stays is kept up to the end. -/
theorem dropEnd_of_getLast {s : List Char} (h : ∀ c ∈ s.getLast?, p c = false) :
    dropEnd p s = s := by
  rcases s.eq_nil_or_concat' with rfl | ⟨t, c, rfl⟩
  · rfl
  · exact dropEnd_append_of_neg (h c List.getLast?_concat) t

/-- What is cut off the end are characters that may go. -/
theorem exists_append_dropEnd (p : Char → Bool) (s : List Char) :
    ∃ after, s = dropEnd p s ++ after ∧ after.all p = true := by
  refine ⟨s.rtakeWhile p, List.rdropWhile_append_rtakeWhile.symm, List.all_eq_true.mpr ?_⟩
  exact fun c hc => List.mem_rtakeWhile_imp hc

/-- What is left does not end in a character that may go. -/
theorem getLast_dropEnd {s : List Char} {c : Char} (hc : c ∈ (dropEnd p s).getLast?) :
    p c = false := by
  obtain ⟨hne, rfl⟩ := List.mem_getLast?_eq_getLast hc
  exact Bool.eq_false_iff.mpr (List.rdropWhile_last_not p s hne)

/-! ### At both ends -/

/-- What is left of a text when the characters of a kind are cut off its ends. -/
structure Trims (p : Char → Bool) (s core : List Char) : Prop where
  around : ∃ before after, s = before ++ core ++ after ∧ before.all p = true ∧ after.all p = true
  head : ∀ c ∈ core.head?, p c = false
  last : ∀ c ∈ core.getLast?, p c = false

/-- Characters that may go make no difference at the ends. -/
theorem strip_append {before after : List Char} (hb : before.all p = true) (s : List Char)
    (ha : after.all p = true) : strip p (before ++ s ++ after) = strip p s := by
  unfold strip
  rw [List.append_assoc, List.dropWhile_append_of_pos (List.all_eq_true.mp hb),
    List.dropWhile_append]
  cases hs : s.dropWhile p with
  | nil =>
    -- nothing is left of the text, so that the front takes the end with it
    rw [(dropWhile_eq_nil_iff p after).mpr ha]
    rfl
  | cons c t => exact dropEnd_append ha (c :: t)

/-- A text with nothing to cut at its ends stays as it is. -/
theorem strip_of_ends {s : List Char} (hhead : ∀ c ∈ s.head?, p c = false)
    (hlast : ∀ c ∈ s.getLast?, p c = false) : strip p s = s := by
  unfold strip
  rw [dropWhile_of_head hhead, dropEnd_of_getLast hlast]

/-- What is cut off a text are the characters at its ends that may be. -/
theorem exists_append_strip (p : Char → Bool) (s : List Char) :
    ∃ before after, s = before ++ strip p s ++ after ∧ before.all p = true ∧
      after.all p = true := by
  obtain ⟨after, hs, ha⟩ := exists_append_dropEnd p (s.dropWhile p)
  refine ⟨s.takeWhile p, after, ?_, List.all_takeWhile, ha⟩
  unfold strip
  rw [List.append_assoc, ← hs, List.takeWhile_append_dropWhile]

/-- What `strip` leaves is what is left of the text. -/
theorem trims_strip (p : Char → Bool) (s : List Char) : Trims p s (strip p s) := by
  refine ⟨exists_append_strip p s, fun c hc => ?_, fun c => getLast_dropEnd⟩
  -- what is left begins where the front stops, the end being behind it
  obtain ⟨after, hs, -⟩ := exists_append_dropEnd p (s.dropWhile p)
  obtain ⟨t, ht⟩ := List.head?_eq_some_iff.mp hc
  change dropEnd p (s.dropWhile p) = c :: t at ht
  rw [ht] at hs
  exact head_of_dropWhile hs

/-- **Trimming leaves what is left**, and nothing else is. -/
theorem strip_eq_iff (p : Char → Bool) (s core : List Char) :
    strip p s = core ↔ Trims p s core := by
  constructor
  · rintro rfl
    exact trims_strip p s
  · intro h
    obtain ⟨before, after, rfl, hb, ha⟩ := h.around
    -- what may go is cut off, and then there is nothing more to cut
    rw [strip_append hb core ha, strip_of_ends h.head h.last]

end WalletPanel.Text
