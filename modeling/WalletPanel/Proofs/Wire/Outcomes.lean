import WalletPanel.Proofs.Wire.Forms
import WalletPanel.Proofs.Wire.Leads
import WalletPanel.Wire.Record

/-!
# What a reader comes to

A reader that is run on a well-formed part of a text either takes all of it, with a value, or ends
in an error. Where it stops in the second case is a matter of the reader, and often of what follows
the part; the value or the error is not. `Reader.Comes` says so for one place of a text and
`Reader.Yields` for a part of a text, whatever follows it. Since there is at most one thing that a
reader comes to at a part, it can also be computed (`Reader.outcome`), and a reader `Settles` on a
part if this is what it comes to whatever follows.

Blanks before a mark change nothing, for every reader that looks for a mark passes over them first
(`bind_peek_blank`).
-/

namespace WalletPanel.Wire

/-! ### Blanks -/

/-- The blanks of the grammar are those that readers pass over. -/
theorem isSpace_of_isBlank {b : List Char} (h : IsBlank b) {c : Char} (hc : c ∈ b) :
    Reader.isSpace c = true := by
  rcases h c hc with rfl | rfl | rfl | rfl <;> rfl

/-- There may be no blanks at all. -/
theorem isBlank_nil : IsBlank [] := List.forall_mem_nil _

/-- Behind a number there may be blanks. -/
theorem endsNumber_blank {b s : List Char} (hb : IsBlank b) (hs : EndsNumber s) :
    EndsNumber (b ++ s) := by
  -- without blanks it is what stands behind them, else it is the first of the blanks
  cases b with
  | nil => exact hs
  | cons d b =>
    intro c hc
    cases hc
    rcases hb d List.mem_cons_self with rfl | rfl | rfl | rfl <;> decide

/-- The bracket of a list ends a number. -/
theorem endsNumber_bracket (s : List Char) : EndsNumber (']' :: s) := by
  intro c hc
  cases hc
  decide

namespace Reader

variable {α β γ : Type}

/-- What goes on after a reader goes on after any other that ends in the same way. -/
theorem bind_congr {x y : Reader α} {f : α → Reader β} {s t : List Char} (h : x s = y t) :
    (x >>= f) s = (y >>= f) t := by
  change EStateM.bind x f s = EStateM.bind y f t
  unfold EStateM.bind
  rw [h]

/-- Blanks are passed over before anything is shown. -/
theorem peek_blank {b : List Char} (h : IsBlank b) (s : List Char) : peek (b ++ s) = peek s := by
  have hd : (b ++ s).dropWhile isSpace = s.dropWhile isSpace :=
    List.dropWhile_append_of_pos fun c hc => isSpace_of_isBlank h hc
  unfold peek
  rw [hd]

/-- The mark behind blanks is what is shown next. -/
theorem peek_blank_cons {b : List Char} (h : IsBlank b) {c : Char} (hc : isSpace c = false)
    (s : List Char) : peek (b ++ c :: s) = .ok (some c) (c :: s) := by
  rw [peek_blank h, peek_cons hc]

/-- Blanks before what a reader looks at first are passed over. -/
theorem bind_peek_blank {b : List Char} (h : IsBlank b) (f : Option Char → Reader β)
    (s : List Char) : (peek >>= f) (b ++ s) = (peek >>= f) s :=
  bind_congr (peek_blank h s)

/-- A value may have blanks before it. -/
theorem lead_blank {b : List Char} (h : IsBlank b) (s : List Char) : lead (b ++ s) = lead s :=
  bind_peek_blank h _ s

/-- A colon may have blanks before it. -/
theorem colon_blank {b : List Char} (h : IsBlank b) (s : List Char) : colon (b ++ s) = colon s :=
  bind_peek_blank h _ s

/-- Blanks may be left at the end of a text. -/
theorem finish_blank {b : List Char} (h : IsBlank b) : finish b = .ok () [] := by
  have hp := peek_blank h []
  rw [List.append_nil] at hp
  exact bind_of_ok hp

/-! ### Outcomes -/

/-- Two readers one after the other, if the first one ends in an error. -/
theorem bind_of_error {x : Reader α} {f : α → Reader β} {s t : List Char} {e : Error}
    (h : x s = .error e t) : (x >>= f) s = .error e t := by
  change EStateM.bind x f s = .error e t
  unfold EStateM.bind
  rw [h]

/-- At the text `s` the reader comes to `x`. With a value it leaves `rest`; an error may leave
anything. -/
def Comes (r : Reader α) (s : List Char) (x : Except Error α) (rest : List Char) : Prop :=
  match x with
  | .ok a => r s = .ok a rest
  | .error e => ∃ left, r s = .error e left

/-- A reader that takes nothing comes to its value at once. -/
theorem comes_pure (a : α) (s : List Char) : Comes (pure a) s (.ok a) s := rfl

/-- A reader that fails comes to its error, whatever it would leave. -/
theorem comes_throw (e : Error) (s rest : List Char) :
    Comes (throw e : Reader α) s (.error e) rest := ⟨s, rfl⟩

/-- A result of what has been read already takes nothing more. -/
theorem comes_accept (x : Except Error α) (s : List Char) : Comes (Kind.accept x) s x s := by
  cases x with
  | ok a => exact comes_pure a s
  | error e => exact comes_throw e s s

/-- A reader that does here what another one does there. -/
theorem Comes.of_eq {r r' : Reader α} {s s' rest : List Char} {x : Except Error α}
    (h : r'.Comes s' x rest) (he : r s = r' s') : r.Comes s x rest := by
  unfold Comes at h ⊢
  rw [he]
  exact h

/-- **One reader after another.** The second one is of importance only if the first one comes to a
value. -/
theorem Comes.bind {r : Reader α} {f : α → Reader β} {s t rest : List Char} {x : Except Error α}
    {y : α → Except Error β} (h : r.Comes s x t) (hf : ∀ a, x = .ok a → (f a).Comes t (y a) rest) :
    (r >>= f).Comes s (x >>= y) rest := by
  -- after an error the second reader is not run
  cases x with
  | error e =>
    obtain ⟨left, hl⟩ := h
    exact ⟨left, bind_of_error hl⟩
  | ok a =>
    have hs : (r >>= f) s = f a t := bind_of_ok h
    exact (hf a rfl).of_eq hs

/-- What is passed over behind a value. -/
theorem Comes.followed {r : Reader α} {f : α → Reader α} {s t rest : List Char}
    {x : Except Error α} (h : r.Comes s x t) (hf : ∀ a, f a t = .ok a rest) :
    (r >>= f).Comes s x rest := by
  have hb := h.bind (y := fun a => .ok a) fun a _ => hf a
  cases x <;> exact hb

/-- What is done with a value afterwards. -/
theorem Comes.map {r : Reader α} {s rest : List Char} {x : Except Error α} (h : r.Comes s x rest)
    (f : α → β) : (do let a ← r; pure (f a)).Comes s (x.map f) rest := by
  have hb := h.bind (y := fun a => .ok (f a)) fun a _ => comes_pure (f a) rest
  cases x <;> exact hb

/-- The reader comes to `x` at the part `s` of a text, whatever follows it. -/
def Yields (r : Reader α) (s : List Char) (x : Except Error α) : Prop :=
  ∀ rest, EndsNumber rest → r.Comes (s ++ rest) x rest

/-- What is done with a value does not depend on what follows the part. -/
theorem Yields.map {r : Reader α} {s : List Char} {x : Except Error α} (h : r.Yields s x)
    (f : α → β) : (do let a ← r; pure (f a)).Yields s (x.map f) :=
  fun rest hr => (h rest hr).map f

/-- What a reader comes to at a part that a comma follows. -/
def outcome (r : Reader α) (s : List Char) : Except Error α :=
  match r (s ++ [',']) with
  | .ok a _ => .ok a
  | .error e _ => .error e

/-- The outcome of a reader is all that it may come to at a part. -/
def Settles (r : Reader α) (s : List Char) : Prop := r.Yields s (r.outcome s)

/-- A reader comes to one thing at a part: what it yields is its outcome. -/
theorem Yields.outcome_eq {r : Reader α} {s : List Char} {x : Except Error α} (h : r.Yields s x) :
    r.outcome s = x := by
  have hc := h [','] (endsNumber_comma [])
  unfold outcome
  cases x with
  | ok a =>
    have ha : r (s ++ [',']) = .ok a [','] := hc
    rw [ha]
  | error e =>
    obtain ⟨left, he⟩ := hc
    rw [he]

/-- So it is enough to show of any one thing that it is yielded. -/
theorem Yields.settles {r : Reader α} {s : List Char} {x : Except Error α} (h : r.Yields s x) :
    r.Settles s := by
  unfold Settles
  rw [h.outcome_eq]
  exact h

/-- A text that is a part with blanks around it. -/
theorem Yields.run_eq {r : Reader α} {before s after : List Char} {x : Except Error α}
    (hb : ∀ t, r (before ++ t) = r t) (h : r.Yields s x) (ha : IsBlank after) :
    r.run (before ++ (s ++ after)) = x := by
  -- only blanks follow, and with them the text ends
  have hend : EndsNumber after := by
    have he := endsNumber_blank ha endsNumber_nil
    rw [List.append_nil] at he
    exact he
  have hpart : r.Comes (before ++ (s ++ after)) x after := (h after hend).of_eq (hb _)
  have hc : (do let a ← r; finish; pure a : Reader α).Comes (before ++ (s ++ after)) x [] :=
    hpart.followed fun a => bind_of_ok (finish_blank ha)
  unfold run
  cases x with
  | ok a =>
    have hok : (do let a ← r; finish; pure a : Reader α) (before ++ (s ++ after)) = .ok a [] := hc
    rw [hok]
  | error e =>
    obtain ⟨left, herr⟩ := hc
    rw [herr]

end Reader

end WalletPanel.Wire
