import WalletPanel.Proofs.Wire.Leads
import WalletPanel.Wire.Record

/-!
# Objects that are read back

All readers of objects are `Reader.membersFrom` with a function of their own that takes one member
after the other into what has been gathered. On an object that was written they do what that
function does with the row of its members (`Gathers`), whichever function it is; what it gathers is
left to those who use it.
-/

namespace WalletPanel.Wire

/-! ### Members as they are written -/

/-- A member as it is written: its key and its value with a colon between them. -/
def memberText (m : String × List Char) : List Char := writeText m.1 ++ ':' :: m.2

/-- Pieces with a comma before each. -/
def continued (pieces : List (List Char)) : List Char := pieces.flatMap (',' :: ·)

/-- The first piece has no comma before it, and every other one has. -/
theorem joined_cons (piece : List Char) (more : List (List Char)) :
    joined (piece :: more) = piece ++ continued more := by
  induction more generalizing piece with
  | nil => exact (List.append_nil piece).symm
  | cons next more ih =>
    have hj : joined (piece :: next :: more) = piece ++ ',' :: joined (next :: more) := rfl
    have hc : continued (next :: more) = ',' :: next ++ continued more := rfl
    rw [hj, ih, hc]
    rfl

/-- Whatever comes after a member of an object is no part of it. -/
theorem endsNumber_continued (pieces : List (List Char)) (rest : List Char) :
    EndsNumber (continued pieces ++ '\x7d' :: rest) := by
  cases pieces with
  | nil => exact endsNumber_brace rest
  | cons piece pieces => exact endsNumber_comma _

/-- Every member takes a character at least. -/
theorem length_le_joined (members : List (String × List Char)) :
    members.length ≤ (joined (members.map memberText)).length := by
  have hpos : ∀ m : String × List Char, 1 ≤ (memberText m).length := by
    intro m
    unfold memberText
    rw [List.length_append, List.length_cons]
    omega
  induction members with
  | nil => exact Nat.le_refl 0
  | cons m members ih =>
    have hm := hpos m
    -- the last member has no comma behind it
    cases members with
    | nil => exact hm
    | cons next members =>
      have hj : joined ((m :: next :: members).map memberText)
          = memberText m ++ ',' :: joined ((next :: members).map memberText) := rfl
      rw [hj]
      simp only [List.length_append, List.length_cons] at ih ⊢
      omega

namespace Reader

variable {σ : Type} {member : σ → String → Reader σ} {g g' : σ}
  {members : List (String × List Char)}

/-! ### Marks -/

/-- Before the first member only the quote of its key is passed. -/
theorem anotherMember_first (s : List Char) : anotherMember true ('"' :: s) = .ok true s :=
  calc anotherMember true ('"' :: s)
      = (advance >>= _) ('"' :: s) := bind_of_ok (peek_cons rfl s)
    _ = .ok true s := bind_of_ok (advance_cons rfl s)

/-- Before another member a comma and the quote of its key are passed. -/
theorem anotherMember_comma (s : List Char) :
    anotherMember false (',' :: '"' :: s) = .ok true s :=
  calc anotherMember false (',' :: '"' :: s)
      = (advance >>= _) (',' :: '"' :: s) := bind_of_ok (peek_cons rfl _)
    _ = (peek >>= _) ('"' :: s) := bind_of_ok (advance_cons rfl _)
    _ = (advance >>= _) ('"' :: s) := bind_of_ok (peek_cons rfl s)
    _ = .ok true s := bind_of_ok (advance_cons rfl s)

/-- No member comes after the closing bracket, which is left to `closeObject`. -/
theorem anotherMember_brace (first : Bool) (s : List Char) :
    anotherMember first ('\x7d' :: s) = .ok false ('\x7d' :: s) :=
  bind_of_ok (peek_cons rfl s)

/-- The colon between a key and its value is passed. -/
theorem colon_cons (s : List Char) : colon (':' :: s) = .ok () s :=
  calc colon (':' :: s)
      = advance (':' :: s) := bind_of_ok (peek_cons rfl s)
    _ = .ok () s := advance_cons rfl s

/-- The closing bracket is passed. -/
theorem closeObject_brace (s : List Char) : closeObject ('\x7d' :: s) = .ok () s :=
  calc closeObject ('\x7d' :: s)
      = advance ('\x7d' :: s) := bind_of_ok (peek_cons rfl s)
    _ = .ok () s := advance_cons rfl s

/-! ### Members -/

/-- From `g` the function `member` comes to `g'` when it takes the members in one after the other,
each from the colon on. -/
inductive Gathers (member : σ → String → Reader σ) : σ → List (String × List Char) → σ → Prop
  | done (g : σ) : Gathers member g [] g
  | step {g h g' : σ} {key : String} {written : List Char} {members : List (String × List Char)}
      (taken : ∀ rest, EndsNumber rest → member g key (':' :: written ++ rest) = .ok h rest)
      (more : Gathers member h members g') : Gathers member g ((key, written) :: members) g'

/-- One member, after the quote of its key. -/
theorem member_of_taken {h : σ} {key : String} {written rest : List Char} {f : σ → Reader β}
    (taken : member g key (':' :: written ++ rest) = .ok h rest) :
    (do let k ← text; let g ← member g k; f g : Reader β)
      (key.toList.flatMap escape ++ '"' :: (':' :: written ++ rest)) = f h rest := by
  have hkey := text_write key (':' :: written ++ rest)
  rw [bind_of_ok hkey, bind_of_ok taken]

/-- Where a member is read from: its opening quote, its key, and the rest from the colon on. -/
theorem memberText_append (key : String) (written rest : List Char) :
    memberText (key, written) ++ rest
      = '"' :: (key.toList.flatMap escape ++ '"' :: (':' :: written ++ rest)) := by
  simp only [memberText, writeText, List.cons_append, List.append_assoc, List.nil_append]

/-- **The members after the first one** are gathered up to the closing bracket. -/
theorem membersFrom_continued (h : Gathers member g members g') {fuel : Nat}
    (hf : members.length < fuel) (rest : List Char) :
    membersFrom text member fuel false g (continued (members.map memberText) ++ '\x7d' :: rest)
      = .ok g' ('\x7d' :: rest) := by
  -- over the members in the order in which they are taken in; each takes one turn
  induction h generalizing fuel with
  | done g =>
    obtain ⟨fuel, rfl⟩ := Nat.exists_eq_add_one_of_ne_zero (Nat.ne_of_gt hf)
    exact bind_of_ok (anotherMember_brace false rest)
  | @step g h g' key written members taken more ih =>
    obtain ⟨fuel, rfl⟩ :=
      Nat.exists_eq_add_one_of_ne_zero (Nat.ne_of_gt (Nat.zero_lt_of_lt hf))
    have hs : continued (((key, written) :: members).map memberText) ++ '\x7d' :: rest
        = ',' :: (memberText (key, written) ++
          (continued (members.map memberText) ++ '\x7d' :: rest)) := by
      rw [← List.append_assoc]
      rfl
    have hends := endsNumber_continued (members.map memberText) rest
    rw [hs, memberText_append]
    -- the comma and the quote, then the key with its value, and then the others
    calc membersFrom text member (fuel + 1) false g (',' :: '"' :: _)
        = (text >>= _) _ := bind_of_ok (anotherMember_comma _)
      _ = membersFrom text member fuel false h _ := member_of_taken (taken _ hends)
      _ = .ok g' ('\x7d' :: rest) := ih (Nat.lt_of_succ_lt_succ hf)

/-- **The members of an object** are gathered up to the closing bracket. -/
theorem membersFrom_joined (h : Gathers member g members g') {fuel : Nat}
    (hf : members.length < fuel) (rest : List Char) :
    membersFrom text member fuel true g (joined (members.map memberText) ++ '\x7d' :: rest)
      = .ok g' ('\x7d' :: rest) := by
  obtain ⟨fuel, rfl⟩ := Nat.exists_eq_add_one_of_ne_zero (Nat.ne_of_gt (Nat.zero_lt_of_lt hf))
  -- whether there is a first member, which no comma precedes
  cases h with
  | done => exact bind_of_ok (anotherMember_brace true rest)
  | @step _ h _ key written members taken more =>
    have hends := endsNumber_continued (members.map memberText) rest
    rw [List.map_cons, joined_cons, List.append_assoc, memberText_append]
    -- no comma stands before the first member; the others are those of the lemma before
    calc membersFrom text member (fuel + 1) true g ('"' :: _)
        = (text >>= _) _ := bind_of_ok (anotherMember_first _)
      _ = membersFrom text member fuel false h _ := member_of_taken (taken _ hends)
      _ = .ok g' ('\x7d' :: rest) := membersFrom_continued more (Nat.lt_of_succ_lt_succ hf) rest

/-- The turns that a reader of an object takes from the length of the text are enough. -/
theorem length_lt_fuel (members : List (String × List Char)) (rest : List Char) :
    members.length < (joined (members.map memberText) ++ rest).length + 1 := by
  have := length_le_joined members
  rw [List.length_append]
  omega

/-- An object with its closing bracket, after the opening one. -/
theorem objectOf_joined (h : Gathers member g members g') (rest : List Char) :
    objectOf text member g (joined (members.map memberText) ++ '\x7d' :: rest) = .ok g' rest := by
  have hmembers := membersFrom_joined h (length_lt_fuel members ('\x7d' :: rest)) rest
  calc objectOf text member g (joined (members.map memberText) ++ '\x7d' :: rest)
      = (membersFrom text member _ true g >>= _) _ := bind_get _
    _ = (closeObject >>= _) ('\x7d' :: rest) := bind_of_ok hmembers
    _ = .ok g' rest := bind_of_ok (closeObject_brace rest)

end Reader

end WalletPanel.Wire
