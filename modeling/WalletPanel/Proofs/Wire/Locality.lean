import WalletPanel.Proofs.Wire.Outcomes

/-!
# Readers look no further than they get

What a reader does at the beginning of a text does not depend on what stands behind the place where
it stops. So more text may be put behind, and nothing changes, not even an error
(`Reader.SameBefore`). If a reader gets to the end of its text there is nothing to be said of the
value, for a number may go on; but with more text behind it does get to the end of the first part.

Readers that are `Local` in this sense are closed under everything that readers are made of. Where
the text is gone over in turns, whose number is taken from its length, two numbers of turns are
compared (`Reader.Turns`), as there are more of them for a longer text.
-/

namespace WalletPanel.Wire.Reader

variable {α β : Type}

/-- What a reader leaves of a text. -/
def left (r : Reader α) (s : List Char) : List Char :=
  match r s with
  | .ok _ rest => rest
  | .error _ rest => rest

/-- An outcome with more text behind what is left. -/
def behind (t : List Char) : EStateM.Result Error (List Char) α → EStateM.Result Error (List Char) α
  | .ok a rest => .ok a (rest ++ t)
  | .error e rest => .error e (rest ++ t)

/-- What a reader leaves is an end of the text. -/
def Onward (r : Reader α) : Prop := ∀ s, left r s <:+ s

/-- The reader `r'` at `s` with `t` behind it does what `r` does at `s` alone. If `r` gets to the
end of `s`, then `r'` gets there at least. -/
structure SameBefore (r r' : Reader α) (s t : List Char) : Prop where
  within : left r s ≠ [] → r' (s ++ t) = behind t (r s)
  beyond : left r s = [] → left r' (s ++ t) <:+ t

/-- A reader that looks no further than it gets. -/
structure Local (r : Reader α) : Prop where
  onward : Onward r
  same : ∀ s t, SameBefore r r s t

/-- The same for two readers, where `s` has fewer characters than `n`, and fewer than `n'` with `t`
behind it. -/
def SameWithin (n n' : Nat) (r r' : Reader α) : Prop :=
  ∀ s t, s.length < n → (s ++ t).length < n' → SameBefore r r' s t

/-- A reader with a number of turns that is local as long as it has more turns than there are
characters. -/
structure Turns (r : Nat → Reader α) : Prop where
  onward : ∀ n, Onward (r n)
  same : ∀ n n', SameWithin n n' (r n) (r n')

/-! ### How readers are put together -/

/-- What is left behind a value. -/
theorem left_of_ok {r : Reader α} {s rest : List Char} {a : α} (h : r s = .ok a rest) :
    left r s = rest := by
  unfold left
  rw [h]

/-- What is left behind an error. -/
theorem left_of_error {r : Reader α} {s rest : List Char} {e : Error} (h : r s = .error e rest) :
    left r s = rest := by
  unfold left
  rw [h]

/-- A second reader leaves no more than the first one has left it. -/
theorem left_bind_suffix {r : Reader α} {f : α → Reader β} (hf : ∀ a, Onward (f a))
    (s : List Char) : left (r >>= f) s <:+ left r s := by
  -- behind an error the second reader is not run
  cases h : r s with
  | ok a rest =>
    have hb : left (r >>= f) s = left (f a) rest := by
      unfold left
      rw [bind_of_ok h]
    rw [hb, left_of_ok h]
    exact hf a rest
  | error e rest =>
    have hsame : left (r >>= f) s = left r s := by
      rw [left_of_error h, left_of_error (bind_of_error h)]
    exact hsame ▸ List.suffix_rfl

/-- Two readers one after the other go onward if both do. -/
theorem Onward.bind {r : Reader α} {f : α → Reader β} (h : Onward r) (hf : ∀ a, Onward (f a)) :
    Onward (r >>= f) := fun s => (left_bind_suffix hf s).trans (h s)

/-- So does either of two readers. -/
theorem Onward.ite {p : Prop} [Decidable p] {r r' : Reader α} (h : Onward r) (h' : Onward r') :
    Onward (if p then r else r') := by
  split
  · exact h
  · exact h'

/-- Where a reader goes on, there is something left only if there was before. -/
theorem Onward.left_nil {r : Reader α} (h : Onward r) : left r [] = [] :=
  List.suffix_nil.mp (h [])

/-- **One reader after another.** -/
theorem SameBefore.bind {r r' : Reader α} {f f' : α → Reader β} {s t : List Char}
    (h : SameBefore r r' s t) (hf : ∀ a, Onward (f a)) (hf' : ∀ a, Onward (f' a))
    (hs : ∀ a rest, r s = .ok a rest → SameBefore (f a) (f' a) rest t) :
    SameBefore (r >>= f) (r' >>= f') s t := by
  -- once the first reader has got to the end of `s`, the second one has nothing before `t`
  have hbeyond : left r s = [] → left (r' >>= f') (s ++ t) <:+ t := fun hnil =>
    (left_bind_suffix hf' _).trans (h.beyond hnil)
  -- an error of the first reader is that of both; else the second one goes on
  cases hr : r s with
  | error e rest =>
    have hbind : (r >>= f) s = .error e rest := bind_of_error hr
    have hleft : left (r >>= f) s = left r s := by
      rw [left_of_error hbind, left_of_error hr]
    refine ⟨fun hne => ?_, fun hnil => hbeyond (hleft ▸ hnil)⟩
    have hr' := h.within (hleft ▸ hne)
    rw [hr] at hr'
    rw [hbind]
    exact bind_of_error hr'
  | ok a rest =>
    have hbind : (r >>= f) s = f a rest := bind_of_ok hr
    have hleft : left (r >>= f) s = left (f a) rest := by
      unfold left
      rw [hbind]
    by_cases hnil : rest = []
    · subst hnil
      refine ⟨fun hne => absurd (hleft.trans (hf a).left_nil) hne, fun _ => ?_⟩
      exact hbeyond (left_of_ok hr)
    · -- there is something left for the second reader, and it is the same but for `t` behind it
      have hr' := h.within (left_of_ok hr ▸ hnil)
      rw [hr] at hr'
      have hbind' : (r' >>= f') (s ++ t) = f' a (rest ++ t) := bind_of_ok hr'
      have hmore := hs a rest hr
      refine ⟨fun hne => ?_, fun hend => ?_⟩
      · rw [hbind', hbind]
        exact hmore.within (hleft ▸ hne)
      · have hleft' : left (r' >>= f') (s ++ t) = left (f' a) (rest ++ t) := by
          unfold left
          rw [hbind']
        rw [hleft']
        exact hmore.beyond (hleft ▸ hend)

/-- **Local readers one after the other** are local. -/
theorem Local.bind {r : Reader α} {f : α → Reader β} (h : Local r) (hf : ∀ a, Local (f a)) :
    Local (r >>= f) where
  onward := h.onward.bind fun a => (hf a).onward
  same s t := (h.same s t).bind (fun a => (hf a).onward) (fun a => (hf a).onward)
    fun a rest _ => (hf a).same rest t

/-- A reader that stays where it is, if the text only matters where there is any. -/
theorem local_of_stays {r : Reader α} (hleft : ∀ s, left r s = s)
    (h : ∀ s t, s ≠ [] → r (s ++ t) = behind t (r s)) : Local r where
  onward s := (hleft s).symm ▸ List.suffix_rfl
  same s t := by
    refine ⟨fun hne => h s t (hleft s ▸ hne), fun hnil => ?_⟩
    rw [hleft] at hnil ⊢
    rw [hnil]
    exact List.suffix_rfl

/-- A reader that takes nothing is local. -/
theorem local_pure (a : α) : Local (pure a : Reader α) :=
  local_of_stays (fun _ => rfl) fun _ _ _ => rfl

/-- So is one that fails at once. -/
theorem local_throw (e : Error) : Local (throw e : Reader α) :=
  local_of_stays (fun _ => rfl) fun _ _ _ => rfl

/-- What stands behind an error is not gone on with. -/
theorem local_throw_bind (e : Error) (f : β → Reader α) : Local (throw e >>= f) := local_throw e

/-- So is a result that is there already. -/
theorem local_accept (x : Except Error α) : Local (Kind.accept x) := by
  cases x with
  | ok a => exact local_pure a
  | error e => exact local_throw e

/-- A number of turns that is taken from what is left of the text. -/
theorem Turns.local {r : Nat → Reader α} (h : Turns r) :
    Local (do r ((← get).length + 1)) where
  onward s := h.onward (s.length + 1) s
  same s t :=
    have hsame := h.same _ _ s t (Nat.lt_succ_self _) (Nat.lt_succ_self _)
    ⟨hsame.within, hsame.beyond⟩

/-- Turns may be followed by a local reader. -/
theorem Turns.bind {r : Nat → Reader α} {f : α → Reader β} (h : Turns r) (hf : ∀ a, Local (f a)) :
    Turns fun n => r n >>= f where
  onward n := (h.onward n).bind fun a => (hf a).onward
  same n n' s t hn hn' := (h.same n n' s t hn hn').bind (fun a => (hf a).onward)
    (fun a => (hf a).onward) fun a rest _ => (hf a).same rest t

/-- What is local needs no turns. -/
theorem Local.within {r : Reader α} (h : Local r) (n n' : Nat) : SameWithin n n' r r :=
  fun s t _ _ => h.same s t

/-- Behind a reader there are no more characters left than before. -/
theorem Onward.length_le {r : Reader α} (h : Onward r) {s rest : List Char} {a : α}
    (hr : r s = .ok a rest) : rest.length ≤ s.length := by
  have hs := h s
  rw [left_of_ok hr] at hs
  exact hs.length_le

/-- A reader that does not come to a value without passing a character. -/
def Advances (r : Reader α) : Prop := ∀ s a rest, r s = .ok a rest → rest.length < s.length

section

variable {n n' : Nat} {r : Reader α} {f f' : α → Reader β}

/-- Fewer turns are enough for shorter texts. -/
theorem SameWithin.mono {r r' : Reader α} {m m' : Nat} (h : SameWithin m m' r r') (hn : n ≤ m)
    (hn' : n' ≤ m') : SameWithin n n' r r' :=
  fun s t hs hst => h s t (Nat.lt_of_lt_of_le hs hn) (Nat.lt_of_lt_of_le hst hn')

/-- Two readers one after the other, in the same turn. -/
theorem SameWithin.bind {r' : Reader α} (h : SameWithin n n' r r') (hr : Onward r)
    (hf : ∀ a, Onward (f a)) (hf' : ∀ a, Onward (f' a))
    (hs : ∀ a, SameWithin n n' (f a) (f' a)) : SameWithin n n' (r >>= f) (r' >>= f') := by
  intro s t hn hn'
  refine (h s t hn hn').bind hf hf' fun a rest hok => ?_
  have hle := hr.length_le hok
  rw [List.length_append] at hn'
  exact hs a rest t (by omega) (by rw [List.length_append]; omega)

/-- Behind a character there may be one turn less. -/
theorem Local.bind_next (h : Local r) (hr : Advances r) (hf : ∀ a, Onward (f a))
    (hf' : ∀ a, Onward (f' a)) (hs : ∀ a, SameWithin n n' (f a) (f' a)) :
    SameWithin (n + 1) (n' + 1) (r >>= f) (r >>= f') := by
  intro s t hn hn'
  refine (h.same s t).bind hf hf' fun a rest hok => ?_
  have hlt := hr s a rest hok
  rw [List.length_append] at hn'
  exact hs a rest t (by omega) (by rw [List.length_append]; omega)

end

/-- There is no text with fewer characters than none. -/
theorem sameWithin_zero_left (n' : Nat) (r r' : Reader α) : SameWithin 0 n' r r' :=
  fun _ _ h => absurd h (Nat.not_lt_zero _)

/-- Nor is there one with more text behind it. -/
theorem sameWithin_zero_right (n : Nat) (r r' : Reader α) : SameWithin n 0 r r' :=
  fun _ _ _ h => absurd h (Nat.not_lt_zero _)

/-- **Turns that each begin with a reader that advances.** Behind it a turn has been used up, and so
has a character at least. -/
theorem Turns.of_next {γ σ : Type} {r : σ → Nat → Reader α} {first : Reader γ}
    {next : σ → Nat → γ → Reader α} {e : Error} (hzero : ∀ g, r g 0 = throw e)
    (hsucc : ∀ g n, r g (n + 1) = first >>= next g n) (hfirst : Local first)
    (hadvances : Advances first)
    (honward : ∀ n, (∀ g, Onward (r g n)) → ∀ g c, Onward (next g n c))
    (hsame : ∀ n n', (∀ g, Onward (r g n)) → (∀ g, Onward (r g n')) →
      (∀ g, SameWithin n n' (r g n) (r g n')) → ∀ g c, SameWithin n n' (next g n c) (next g n' c))
    (g : σ) : Turns (r g) := by
  -- none of the readers goes back, by induction on the turns
  have hr : ∀ n g, Onward (r g n) := by
    intro n
    induction n with
    | zero => exact fun g => hzero g ▸ (local_throw e).onward
    | succ n ih => exact fun g => hsucc g n ▸ hfirst.onward.bind (honward n ih g)
  refine ⟨fun n => hr n g, fun n n' => ?_⟩
  induction n generalizing n' g with
  | zero => exact sameWithin_zero_left n' _ _
  | succ n ih =>
    cases n' with
    | zero => exact sameWithin_zero_right _ _ _
    | succ n' =>
      -- both take a turn, and have one turn less for the rest
      rw [hsucc, hsucc]
      exact hfirst.bind_next hadvances (honward n (hr n) g) (honward n' (hr n') g)
        (hsame n n' (hr n) (hr n') (fun g => ih g n') g)

/-! ### Marks -/

/-- What is dropped at the front of a text is dropped of a longer one as well, unless it was all of
it. -/
theorem dropWhile_append (p : Char → Bool) (s t : List Char) :
    (s.dropWhile p ≠ [] → (s ++ t).dropWhile p = s.dropWhile p ++ t) ∧
    (s.dropWhile p = [] → (s ++ t).dropWhile p <:+ t) := by
  -- until the first character that stays
  induction s with
  | nil => exact ⟨fun h => absurd rfl h, fun _ => List.dropWhile_suffix p⟩
  | cons c s ih =>
    rw [List.cons_append, List.dropWhile_cons, List.dropWhile_cons]
    split
    · exact ih
    · exact ⟨fun _ => rfl, fun h => absurd h (List.cons_ne_nil _ _)⟩

/-- Blanks are passed over locally: more of them may come in what follows, but then there was
nothing else. -/
theorem local_peek : Local peek where
  onward s := List.dropWhile_suffix isSpace
  same s t := by
    obtain ⟨hwithin, hbeyond⟩ := dropWhile_append isSpace s t
    refine ⟨fun hne => ?_, hbeyond⟩
    have hne : s.dropWhile isSpace ≠ [] := hne
    unfold peek behind
    dsimp only
    rw [hwithin hne, head_append hne]

/-- Octets that are passed leave an end of the text. -/
theorem afterOctets_suffix (n : Nat) (s : List Char) : afterOctets n s <:+ s := by
  induction s generalizing n with
  | nil => exact List.suffix_rfl
  | cons c s ih =>
    unfold afterOctets
    split
    · exact (ih _).trans (List.suffix_cons c s)
    · exact List.suffix_rfl

/-- Octets are passed in the same characters, unless these are too few. -/
theorem afterOctets_append (n : Nat) (s t : List Char) :
    (afterOctets n s ≠ [] → afterOctets n (s ++ t) = afterOctets n s ++ t) ∧
    (afterOctets n s = [] → afterOctets n (s ++ t) <:+ t) := by
  -- likewise, with the octets that are left to pass
  induction s generalizing n with
  | nil => exact ⟨fun h => absurd rfl h, fun _ => afterOctets_suffix n t⟩
  | cons c s ih =>
    rw [List.cons_append]
    unfold afterOctets
    split
    · exact ih _
    · exact ⟨fun _ => rfl, fun h => absurd h (List.cons_ne_nil _ _)⟩

/-- The next character is shown locally. -/
theorem local_front : Local front :=
  local_of_stays (fun _ => rfl) fun s t h => congrArg (EStateM.Result.ok · (s ++ t)) (head_append h)

/-- The end of a reader with a value or an error. -/
def ended (x : Except Error α) (rest : List Char) : EStateM.Result Error (List Char) α :=
  match x with
  | .ok a => .ok a rest
  | .error e => .error e rest

/-- What a reader has left where it ended. -/
theorem left_of_ended {r : Reader α} {s rest : List Char} {x : Except Error α}
    (h : r s = ended x rest) : left r s = rest := by
  cases x with
  | ok a => exact left_of_ok h
  | error e => exact left_of_error h

/-- More text goes behind what is left. -/
theorem behind_ended (t : List Char) (x : Except Error α) (rest : List Char) :
    behind t (ended x rest) = ended x (rest ++ t) := by
  cases x <;> rfl

/-- A reader that looks at one character and may pass it. -/
theorem local_of_cons {r : Reader α} (hnil : left r [] = [])
    (h : ∀ c, ∃ x w, w <:+ [c] ∧ ∀ s, r (c :: s) = ended x (w ++ s)) : Local r := by
  have honward : Onward r := by
    intro s
    cases s with
    | nil => exact hnil.symm ▸ List.suffix_rfl
    | cons c s =>
      obtain ⟨x, w, ⟨v, hv⟩, hr⟩ := h c
      rw [left_of_ended (hr s)]
      exact ⟨v, by rw [← List.append_assoc, hv]; rfl⟩
  refine ⟨honward, fun s t => ?_⟩
  -- without a character nothing is said, and with one the rest does not matter
  cases s with
  | nil => exact ⟨fun hne => absurd hnil hne, fun _ => honward t⟩
  | cons c s =>
    obtain ⟨x, w, hw, hr⟩ := h c
    have hmore : r (c :: s ++ t) = behind t (r (c :: s)) := by
      rw [List.cons_append, hr, hr, behind_ended, List.append_assoc]
    refine ⟨fun _ => hmore, fun hend => ?_⟩
    rw [left_of_ended (hr s)] at hend
    rw [List.cons_append, left_of_ended (hr (s ++ t)), ← List.append_assoc, hend]
    exact List.suffix_rfl

/-- What one octet leaves of a character. -/
theorem exists_afterOctets_one (c : Char) :
    ∃ w, w <:+ [c] ∧ ∀ s, afterOctets 1 (c :: s) = w ++ s := by
  by_cases h : c.utf8Size = 1
  · refine ⟨[], List.nil_suffix, fun s => ?_⟩
    rw [afterOctets_one_cons, if_pos h]
    rfl
  · refine ⟨[c], List.suffix_rfl, fun s => ?_⟩
    rw [afterOctets_one_cons, if_neg h]
    rfl

/-- One octet is passed locally. -/
theorem local_advance : Local advance := by
  refine local_of_cons rfl fun c => ?_
  obtain ⟨w, hw, hs⟩ := exists_afterOctets_one c
  exact ⟨.ok (), w, hw, fun s => congrArg _ (hs s)⟩

/-- A word is read locally, letter by letter. -/
theorem local_restOfWord (word : List Char) : Local (restOfWord word) := by
  induction word with
  | nil => exact local_pure ()
  | cons d word ih =>
    -- the first letter by itself, and then the others
    have hword : restOfWord (d :: word) = restOfWord [d] >>= fun _ => restOfWord word := by
      funext s
      cases s with
      | nil => rfl
      | cons c s =>
        by_cases hc : c = d
        · have hfirst : restOfWord [d] (c :: s) = .ok () s := if_pos hc
          rw [bind_of_ok hfirst]
          exact if_pos hc
        · have hfirst : restOfWord [d] (c :: s) = .error .brokenWord (afterOctets 1 (c :: s)) :=
            if_neg hc
          rw [bind_of_error hfirst]
          exact if_neg hc
    rw [hword]
    refine Local.bind (local_of_cons rfl fun c => ?_) fun _ => ih
    by_cases hc : c = d
    · exact ⟨.ok (), [], List.nil_suffix, fun s => if_pos hc⟩
    · obtain ⟨w, hw, hs⟩ := exists_afterOctets_one c
      refine ⟨.error .brokenWord, w, hw, fun s => ?_⟩
      have hfault : restOfWord [d] (c :: s) = .error .brokenWord (afterOctets 1 (c :: s)) :=
        if_neg hc
      rw [hfault, hs]
      rfl

end WalletPanel.Wire.Reader
