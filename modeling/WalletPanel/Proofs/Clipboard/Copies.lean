import WalletPanel.Clipboard.Service

/-!
# A copy cleans up behind itself

What a copy does to the primary clipboard and to the surface depends on how they answer, and they
may answer differently each time. Whatever they answer, and however many texts are copied one after
the other, each copy keeps to one pattern.

* The primary clipboard is offered the text if it says that it is there, and not otherwise. If it
  takes it, the surface is left alone.
* Else a scratch element is created, filled and copied from, up to the first of these steps that
  fails (`Devices.Goes`). After that the element is removed, if it was made (`Devices.ScratchUse`).
* What comes of it is what comes of these three steps. Why the primary clipboard did not take the
  text has no part in it.

`copies_are_scoped` has this for each copy of a row of copies, and that after each copy there are as
many elements as there were before the first.
-/

namespace WalletPanel

namespace Touch

/-- The text that a touch offers to the primary clipboard. -/
def offered? : Touch → Option String
  | write text => some text
  | _ => none

/-- Each element is removed as often as it is made. -/
def Balanced (touches : List Touch) : Prop :=
  ∀ element, touches.count (.create (some element)) = touches.count (.remove element)

/-- Two rows that make up for what they do, one after the other. -/
theorem Balanced.append {xs ys : List Touch} (hx : Balanced xs) (hy : Balanced ys) :
    Balanced (xs ++ ys) := by
  intro element
  rw [List.count_append, List.count_append, hx, hy]

end Touch

namespace Devices

/-! ### Steps up to the first that fails -/

/-- What a touch is answered. A removal has no answer. -/
def answer (d : Devices) (history : List Touch) : Touch → Except ClipboardError Unit
  | .write text => d.write history text
  | .create _ => (d.create history).map fun _ => ()
  | .fill element text => d.fill history element text
  | .exec => d.exec history
  | .remove _ => .ok ()

/-- Steps are taken one after the other until one of them fails. `done` has the steps that were
taken, the one that failed among them. -/
inductive Goes (d : Devices) :
    (history steps done : List Touch) → (result : Except ClipboardError Unit) → Prop
  | finished (history : List Touch) : d.Goes history [] [] (.ok ())
  | failed {history : List Touch} {step : Touch} {e : ClipboardError}
      (h : d.answer history step = .error e) (steps : List Touch) :
      d.Goes history (step :: steps) [step] (.error e)
  | on {history : List Touch} {step : Touch} {steps done : List Touch}
      {result : Except ClipboardError Unit} (h : d.answer history step = .ok ())
      (rest : d.Goes (history ++ [step]) steps done result) :
      d.Goes history (step :: steps) (step :: done) result

section Goes

variable {d : Devices} {history steps done : List Touch} {result : Except ClipboardError Unit}

/-- The steps that were taken are the first of those that were to be taken. -/
theorem Goes.isPrefix (h : d.Goes history steps done result) : done <+: steps := by
  induction h with
  | finished => exact List.prefix_rfl
  | failed => exact List.prefix_append _ _
  | on _ _ ih => exact (List.prefix_cons_inj _).mpr ih

/-- Of a single step comes what it is answered. -/
theorem goes_singleton (d : Devices) (history : List Touch) (step : Touch) :
    d.Goes history [step] [step] (d.answer history step) := by
  cases h : d.answer history step with
  | error e => exact .failed h []
  | ok _ => exact .on h (.finished _)

end Goes

/-! ### The use of a scratch element -/

/-- What comes of creating, filling and copying from a scratch element: the error of the first of
them that fails, if one does. -/
def threeSteps (d : Devices) (text : String) (history : List Touch) :
    Except ClipboardError Unit := do
  let element ← d.create history
  let created := history ++ [.create (some element)]
  d.fill created element text
  d.exec (created ++ [.fill element text])

/-- What is done to the surface for a text, and what comes of it. -/
structure ScratchUse (d : Devices) (text : String) (history touches : List Touch)
    (result : Except ClipboardError Unit) : Prop where
  /-- Where no element is made there is nothing to remove. -/
  unmade : ∀ e, d.create history = .error e → touches = [.create none]
  /-- An element that is made is removed after the last step that was taken. -/
  made : ∀ element, d.create history = .ok element → ∃ done,
    d.Goes history [.create (some element), .fill element text, .exec] done result ∧
      touches = done ++ [.remove element]
  result_eq : result = d.threeSteps text history

section ScratchUse

variable {d : Devices} {text : String} {history : List Touch}

/-- Where no element is made nothing else is done, and the error is that of the making. -/
theorem scratchUse_of_unmade {e : ClipboardError} (hc : d.create history = .error e)
    (text : String) : d.ScratchUse text history [.create none] (.error e) := by
  refine ⟨fun _ _ => rfl, fun element h => ?_, ?_⟩
  · rw [hc] at h
    cases h
  · rw [threeSteps, hc]
    rfl

/-- What comes of the two steps that follow the making of an element comes of all three. -/
theorem Goes.eq_threeSteps {element : Nat} {done : List Touch} {result : Except ClipboardError Unit}
    (hc : d.create history = .ok element)
    (h : d.Goes (history ++ [.create (some element)]) [.fill element text, .exec] done result) :
    result = d.threeSteps text history := by
  rw [threeSteps, hc]
  cases h with
  | failed hf =>
    -- the element is not filled, so that there is nothing to copy from
    rw [answer] at hf
    dsimp only [bind, Except.bind]
    rw [hf]
  | on hf rest =>
    rw [answer] at hf
    dsimp only [bind, Except.bind]
    rw [hf]
    cases rest with
    | failed he => exact he.symm
    | on he rest =>
      cases rest
      exact he.symm

/-- After the making of an element has succeeded, what matters is how the two other steps go. -/
theorem scratchUse_of_made {element : Nat} {done : List Touch} {result : Except ClipboardError Unit}
    (hc : d.create history = .ok element)
    (h : d.Goes (history ++ [.create (some element)]) [.fill element text, .exec] done result) :
    d.ScratchUse text history (.create (some element) :: done ++ [.remove element]) result := by
  refine ⟨fun e he => ?_, fun element' he => ?_, h.eq_threeSteps hc⟩
  · rw [hc] at he
    cases he
  · rw [hc] at he
    cases he
    have hcreated : d.answer history (.create (some element)) = .ok () := by
      rw [answer, hc]
      rfl
    exact ⟨_, .on hcreated h, rfl⟩

/-- A copy by way of a scratch element makes, uses and removes it as it should. -/
theorem scratchUse_copyByScratch (d : Devices) (text : String) (history : List Touch) :
    ∃ touches, (d.copyByScratch text history).2 = history ++ touches ∧
      d.ScratchUse text history touches (d.copyByScratch text history).1 := by
  unfold copyByScratch
  cases hc : d.create history with
  | error e => exact ⟨_, rfl, scratchUse_of_unmade hc text⟩
  | ok element =>
    dsimp only
    -- the element has been made; the next step decides whether there is a last one
    cases hf : d.fill (history ++ [.create (some element)]) element text with
    | error e =>
      have hfilled : d.answer (history ++ [.create (some element)]) (.fill element text)
          = .error e := hf
      refine ⟨_, ?_, scratchUse_of_made hc (.failed hfilled [.exec])⟩
      simp
    | ok _ =>
      have hfilled : d.answer (history ++ [.create (some element)]) (.fill element text)
          = .ok () := hf
      refine ⟨_, ?_, scratchUse_of_made hc (.on hfilled (goes_singleton d _ .exec))⟩
      simp

section

variable {touches : List Touch} {result : Except ClipboardError Unit}
  (h : d.ScratchUse text history touches result)
include h

/-- Between the making of an element and its removal the surface is filled and copied from, and
nothing else is done. -/
theorem ScratchUse.eq_cons_of_made {element : Nat} (hc : d.create history = .ok element) :
    ∃ rest, rest <+: [.fill element text, .exec] ∧
      touches = .create (some element) :: rest ++ [.remove element] := by
  obtain ⟨done, hdone, rfl⟩ := h.made element hc
  cases hdone with
  | failed hcreated =>
    -- the first step did not fail
    rw [answer, hc] at hcreated
    cases hcreated
  | on _ rest => exact ⟨_, rest.isPrefix, rfl⟩

/-- An element that is made is removed, and no other one is. -/
theorem ScratchUse.balanced : Touch.Balanced touches := by
  intro element
  cases hc : d.create history with
  | error e =>
    rw [h.unmade e hc]
    simp
  | ok made =>
    -- between the two ends of the row nothing is made and nothing removed
    obtain ⟨rest, hrest, rfl⟩ := h.eq_cons_of_made hc
    have hcreate : rest.count (.create (some element)) = 0 :=
      List.count_eq_zero.mpr fun hm => by simpa using hrest.subset hm
    have hremove : rest.count (.remove element) = 0 :=
      List.count_eq_zero.mpr fun hm => by simpa using hrest.subset hm
    simp [List.count_cons, hcreate, hremove]

/-- The primary clipboard is left alone. -/
theorem ScratchUse.offered : touches.filterMap Touch.offered? = [] := by
  rw [List.filterMap_eq_nil_iff]
  intro touch hm
  -- on the way by a scratch element nothing is written to the clipboard
  cases hc : d.create history with
  | error e =>
    rw [h.unmade e hc] at hm
    rw [List.mem_singleton.mp hm]
    rfl
  | ok made =>
    obtain ⟨rest, hrest, rfl⟩ := h.eq_cons_of_made hc
    simp only [List.mem_append, List.mem_cons, List.not_mem_nil, or_false] at hm
    rcases hm with (rfl | hm) | rfl
    · rfl
    · have hmem := hrest.subset hm
      simp only [List.mem_cons, List.not_mem_nil, or_false] at hmem
      rcases hmem with rfl | rfl <;> rfl
    · rfl

end

end ScratchUse

/-! ### Copies -/

/-- The primary clipboard says that it is there, and takes the text. -/
def Takes (d : Devices) (text : String) (history : List Touch) : Prop :=
  d.isAvailable history = true ∧ d.write history text = .ok ()

/-- What is done to the primary clipboard for a text. -/
def offers (d : Devices) (text : String) (history : List Touch) : List Touch :=
  if d.isAvailable history then [.write text] else []

/-- What a copy does to the devices, and what comes of it. -/
structure ScopedCopy (d : Devices) (text : String) (history touches : List Touch)
    (result : Except ClipboardError Unit) : Prop where
  /-- The primary clipboard is offered the text once if it is there, and nothing else ever. -/
  offered : touches.filterMap Touch.offered? = if d.isAvailable history then [text] else []
  /-- A text that the primary clipboard takes does not get to the surface. -/
  taken : d.Takes text history → touches = [.write text] ∧ result = .ok ()
  /-- Else it goes by way of a scratch element. -/
  fallback : ¬ d.Takes text history → ∃ surface, touches = d.offers text history ++ surface ∧
    d.ScratchUse text (history ++ d.offers text history) surface result
  balanced : Touch.Balanced touches

section ScopedCopy

variable {d : Devices} {text : String} {history : List Touch}

/-- The primary clipboard is offered the text once if it is there. -/
theorem offered_offers (d : Devices) (text : String) (history : List Touch) :
    (d.offers text history).filterMap Touch.offered?
      = if d.isAvailable history then [text] else [] := by
  unfold offers
  split <;> rfl

/-- This has nothing to do with elements. -/
theorem balanced_offers (d : Devices) (text : String) (history : List Touch) :
    Touch.Balanced (d.offers text history) := by
  unfold offers
  split <;> intro element <;> simp

/-- A text that the primary clipboard takes is copied by one touch. -/
theorem scopedCopy_of_takes (h : d.Takes text history) :
    d.ScopedCopy text history [.write text] (.ok ()) := by
  have hoffers : d.offers text history = [.write text] := if_pos h.1
  refine ⟨?_, fun _ => ⟨rfl, rfl⟩, fun hn => absurd h hn, ?_⟩
  · rw [← hoffers]
    exact d.offered_offers text history
  · rw [← hoffers]
    exact d.balanced_offers text history

/-- Else the surface is used behind what was done to the primary clipboard. -/
theorem scopedCopy_of_scratchUse (hn : ¬ d.Takes text history) {surface : List Touch}
    {result : Except ClipboardError Unit}
    (h : d.ScratchUse text (history ++ d.offers text history) surface result) :
    d.ScopedCopy text history (d.offers text history ++ surface) result := by
  refine ⟨?_, fun hy => absurd hy hn, fun _ => ⟨surface, rfl, h⟩,
    (d.balanced_offers text history).append h.balanced⟩
  rw [List.filterMap_append, h.offered, List.append_nil]
  exact d.offered_offers text history

/-- What the fallback notes in the journal makes no difference to what it does. -/
theorem value_copyByFallback (d : Devices) (text : String) (history : List Touch) :
    (d.copyByFallback text history).value = d.copyByScratch text history := by
  unfold copyByFallback
  obtain ⟨result, after⟩ := d.copyByScratch text history
  cases result <;> rfl

/-- A copy that the primary clipboard takes. -/
theorem value_copy_of_takes (h : d.Takes text history) :
    (d.copy text history).value = (.ok (), history ++ [.write text]) := by
  unfold copy
  rw [if_pos h.1, h.2]
  rfl

/-- A copy that it does not take goes by way of the surface. -/
theorem value_copy_of_not_takes (h : ¬ d.Takes text history) :
    (d.copy text history).value = d.copyByScratch text (history ++ d.offers text history) := by
  unfold copy offers
  split
  · next hav =>
    cases hw : d.write history text with
    | ok _ => exact absurd ⟨hav, hw⟩ h
    | error e => exact d.value_copyByFallback text _
  · rw [List.append_nil]
    exact d.value_copyByFallback text _

/-- Each copy keeps to the pattern. -/
theorem scopedCopy_copy (d : Devices) (text : String) (history : List Touch) :
    ∃ touches, (d.copy text history).value.2 = history ++ touches ∧
      d.ScopedCopy text history touches (d.copy text history).value.1 := by
  by_cases h : d.Takes text history
  · rw [value_copy_of_takes h]
    exact ⟨_, rfl, scopedCopy_of_takes h⟩
  · rw [value_copy_of_not_takes h]
    obtain ⟨surface, htouches, huse⟩ := d.scratchUse_copyByScratch text _
    refine ⟨_, ?_, scopedCopy_of_scratchUse h huse⟩
    rw [htouches, List.append_assoc]

/-- A copy leaves as many scratch elements as it finds. -/
theorem live_copy (d : Devices) (text : String) (history : List Touch) :
    Touch.live (d.copy text history).value.2 = Touch.live history := by
  by_cases h : d.Takes text history
  · rw [value_copy_of_takes h]
    simp [Touch.live, Touch.created, Touch.removed]
  · rw [value_copy_of_not_takes h, live_copyByScratch]
    unfold offers
    split <;> simp [Touch.live, Touch.created, Touch.removed]

end ScopedCopy

/-! ### Rows of copies -/

/-- Copies one text after the other; yields all results and the history after them. -/
def copyAll (d : Devices) (history : List Touch) :
    List String → Traced (List (Except ClipboardError Unit) × List Touch)
  | [] => return ([], history)
  | text :: texts => do
    let (result, history) ← d.copy text history
    let (results, history) ← d.copyAll history texts
    return (result :: results, history)

/-- A row of copies can be cut anywhere. -/
theorem copyAll_append (d : Devices) (history : List Touch) (xs ys : List String) :
    d.copyAll history (xs ++ ys) = (do
      let (rs, history) ← d.copyAll history xs
      let (ss, history) ← d.copyAll history ys
      return (rs ++ ss, history)) := by
  induction xs generalizing history with
  | nil => simp [copyAll]
  | cons x xs ih => simp [copyAll, ih]

/-- A row of copies leaves as many scratch elements as it finds. -/
theorem live_copyAll (d : Devices) (history : List Touch) (texts : List String) :
    Touch.live (d.copyAll history texts).value.2 = Touch.live history := by
  -- each copy finds as many elements as the one before it
  induction texts generalizing history with
  | nil => rfl
  | cons text texts ih => exact (ih _).trans (d.live_copy text history)

/-- **Copies clean up behind themselves.** Whatever the devices answer and whatever has been copied
before, a copy does to them what `ScopedCopy` says, and leaves as many scratch elements as there
have been in the beginning. -/
theorem copies_are_scoped (d : Devices) (history : List Touch) (texts : List String)
    (text : String) :
    ∃ touches result,
      (d.copyAll history (texts ++ [text])).value =
        ((d.copyAll history texts).value.1 ++ [result],
          (d.copyAll history texts).value.2 ++ touches) ∧
      d.ScopedCopy text (d.copyAll history texts).value.2 touches result ∧
      Touch.live ((d.copyAll history texts).value.2 ++ touches) = Touch.live history := by
  obtain ⟨touches, htouches, hcopy⟩ := d.scopedCopy_copy text (d.copyAll history texts).value.2
  -- the last copy begins where the others have left the devices
  have hvalue : (d.copyAll history (texts ++ [text])).value =
      ((d.copyAll history texts).value.1
          ++ [(d.copy text (d.copyAll history texts).value.2).value.1],
        (d.copyAll history texts).value.2 ++ touches) := by
    rw [copyAll_append, ← htouches]
    rfl
  refine ⟨touches, _, hvalue, hcopy, ?_⟩
  rw [← htouches, live_copy, live_copyAll]

end Devices

end WalletPanel
