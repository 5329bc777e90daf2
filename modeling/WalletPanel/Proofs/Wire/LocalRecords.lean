import WalletPanel.Proofs.Wire.LocalScalars

/-!
# Records are read locally

What is read of lists, objects and records, and what is passed over of them, is made of readers of
scalars and of marks, and so it is local as well. This holds of the reader too that looks for one
octet more than an address has and drops the error that it meets (`Kind.refuseOctet`), since an
error is met no further than the reader gets.
-/

namespace WalletPanel.Wire

namespace Reader

variable {α κ σ : Type}

/-! ### Lists and objects -/

/-- Whether another item follows is seen from a comma and the character behind it. -/
theorem local_anotherItem (first : Bool) : Local (anotherItem first) := by
  unfold anotherItem
  refine local_peek.bind fun o => ?_
  -- the end of the text, the bracket, and what may be an item or a comma
  split
  · exact local_throw _
  · exact local_pure _
  · split
    · exact local_pure _
    · split
      · refine local_advance.bind fun _ => local_peek.bind fun o => ?_
        split
        · exact local_throw _
        · exact local_throw _
        · exact local_pure _
      · exact local_throw _

/-- The end of a list is seen from its bracket. -/
theorem local_closeList : Local closeList := by
  unfold closeList
  refine local_peek.bind fun o => ?_
  split
  · exact local_throw _
  · exact local_advance
  · refine local_advance.bind fun _ => local_peek.bind fun o => ?_
    split <;> exact local_throw _
  · exact local_throw _

/-- Whether another member follows is seen from a comma and the quote behind it. -/
theorem local_anotherMember (first : Bool) : Local (anotherMember first) := by
  unfold anotherMember
  have hquote : Local (do advance; pure true) := local_advance.bind fun _ => local_pure _
  refine local_peek.bind fun o => ?_
  -- likewise, with a quote that has to be the next mark
  split
  · exact local_throw _
  · exact local_pure _
  · split
    · split
      · exact hquote
      · exact local_throw _
    · split
      · refine local_advance.bind fun _ => local_peek.bind fun o => ?_
        split
        · exact local_throw _
        · exact hquote
        · exact local_throw _
        · exact local_throw _
      · exact local_throw _

/-- A colon is one mark. -/
theorem local_colon : Local colon := by
  unfold colon
  refine local_peek.bind fun o => ?_
  split
  · exact local_throw _
  · exact local_advance
  · exact local_throw _

/-! ### Passing over -/

/-- A value that two readers come to is one that the first of them has come to a value for. -/
theorem ok_of_bind {β : Type} {r : Reader α} {f : α → Reader β} {s rest : List Char} {b : β}
    (h : (r >>= f) s = .ok b rest) : ∃ a next, r s = .ok a next ∧ f a next = .ok b rest := by
  cases hr : r s with
  | ok a next => exact ⟨a, next, rfl, (bind_of_ok hr).symm.trans h⟩
  | error e next =>
    rw [bind_of_error hr] at h
    cases h

/-- What was shown is what is left to begin with. -/
theorem head_of_peek {s rest : List Char} {o : Option Char} (h : peek s = .ok o rest) :
    rest.head? = o := by
  cases h
  rfl

/-- A mark that is shown is passed. -/
theorem length_lt_of_advance {s rest : List Char} {c : Char} (hs : s.head? = some c)
    (hc : c.utf8Size = 1) (h : advance s = .ok () rest) : rest.length < s.length := by
  obtain ⟨t, rfl⟩ := List.head?_eq_some_iff.mp hs
  rw [advance_cons hc] at h
  cases h
  exact Nat.lt_succ_self _

/-- Passes the mark behind an item: whether another one follows. -/
def nextMarked (close : Char) (early broken : Error) : Reader Bool := do
  match ← peek with
  | none => throw early
  | some c =>
    if c = ',' then do advance; pure true
    else if c = close then do advance; pure false
    else throw broken

/-- The mark behind an item is one mark. -/
theorem local_nextMarked (close : Char) (early broken : Error) :
    Local (nextMarked close early broken) := by
  unfold nextMarked
  refine local_peek.bind fun o => ?_
  split
  · exact local_throw _
  · split
    · exact local_advance.bind fun _ => local_pure _
    · split
      · exact local_advance.bind fun _ => local_pure _
      · exact local_throw _

/-- A mark that was found has been passed, so that there is a character less. -/
theorem advances_nextMarked {close : Char} (hclose : close.utf8Size = 1) (early broken : Error) :
    Advances (nextMarked close early broken) := by
  intro s more rest h
  obtain ⟨o, next, hpeek, h⟩ := ok_of_bind h
  have hhead := head_of_peek hpeek
  have hle := local_peek.onward.length_le hpeek
  -- a comma or the bracket, both of one octet
  cases o with
  | none => cases h
  | some c =>
    dsimp only at h
    split at h
    · next hc =>
      obtain ⟨_, last, hadvance, h⟩ := ok_of_bind h
      cases h
      exact Nat.lt_of_lt_of_le (length_lt_of_advance hhead (hc ▸ rfl) hadvance) hle
    · split at h
      · next hc =>
        obtain ⟨_, last, hadvance, h⟩ := ok_of_bind h
        cases h
        exact Nat.lt_of_lt_of_le (length_lt_of_advance hhead (hc ▸ hclose) hadvance) hle
      · cases h

/-- Turns of passing over an item and the mark behind it. -/
def skipTurns (item : Reader Unit) (close : Char) (early broken : Error) : Nat → Reader Unit
  | 0 => throw early
  | n + 1 => do
    item
    if ← nextMarked close early broken then skipTurns item close early broken n else pure ()

/-- Passing over the items of a list goes in turns of an item and its mark. -/
theorem skipItems_eq (item : Reader Unit) (n : Nat) :
    skipItems item n = skipTurns item ']' .endInList .listNotContinued n := by
  -- turn by turn; the rows of the two matches are the same
  induction n with
  | zero => rfl
  | succ n ih =>
    unfold skipItems skipTurns nextMarked
    refine congrArg (item >>= ·) (funext fun _ => ?_)
    rw [bind_assoc, ih]
    refine congrArg (peek >>= ·) (funext fun o => ?_)
    split
    · rfl
    · rfl
    · rfl
    · next c hcomma hbracket =>
      dsimp only
      rw [if_neg hcomma, if_neg hbracket]
      rfl

/-- Passing over members goes in the same turns, each with a key before its value. -/
theorem skipMembers_eq (value : Reader Unit) (n : Nat) :
    skipMembers value n
      = skipTurns (do skipKey; value) '\x7d' .endInObject .objectNotContinued n := by
  induction n with
  | zero => rfl
  | succ n ih =>
    unfold skipMembers skipTurns nextMarked
    rw [bind_assoc]
    -- both pass a key and a value, and then look for a comma or a bracket
    refine congrArg (skipKey >>= ·) (funext fun _ => congrArg (value >>= ·) (funext fun _ => ?_))
    rw [bind_assoc, ih]
    refine congrArg (peek >>= ·) (funext fun o => ?_)
    split
    · rfl
    · rfl
    · rfl
    · next c hcomma hbracket =>
      dsimp only
      rw [if_neg hcomma, if_neg hbracket]
      rfl

section

variable {item item' : Reader Unit} {close : Char} {early broken : Error}

/-- Turns go onward if the item in them does. -/
theorem onward_skipTurns (hi : Onward item) (n : Nat) :
    Onward (skipTurns item close early broken n) := by
  induction n with
  | zero => exact (local_throw _).onward
  | succ n ih =>
    exact hi.bind fun _ => (local_nextMarked close early broken).onward.bind fun _ =>
      ih.ite (local_pure _).onward

/-- Turns do the same with more text behind, as long as the items in them do and there are turns
enough. -/
theorem sameWithin_skipTurns (hclose : close.utf8Size = 1) (hi : Onward item) (hi' : Onward item')
    {m m' : Nat} (h : SameWithin m m' item item') {k k' n n' : Nat} (hm : k ≤ m) (hm' : k' ≤ m')
    (hn : k ≤ n) (hn' : k' ≤ n') :
    SameWithin k k' (skipTurns item close early broken n)
      (skipTurns item' close early broken n') := by
  induction k generalizing k' n n' with
  | zero => exact sameWithin_zero_left k' _ _
  | succ k ih =>
    cases k' with
    | zero => exact sameWithin_zero_right _ _ _
    | succ k' =>
      obtain ⟨n, rfl, hle⟩ := exists_turn hn
      obtain ⟨n', rfl, hle'⟩ := exists_turn hn'
      have honward : ∀ {i : Reader Unit} (j : Nat), Onward i → ∀ more : Bool,
          Onward (if more then skipTurns i close early broken j else pure ()) :=
        fun j hi _ => (onward_skipTurns hi j).ite (local_pure _).onward
      -- an item may be read without a character, but the mark behind it is one
      have hmark := local_nextMarked close early broken
      refine (h.mono hm hm').bind hi (fun _ => hmark.onward.bind (honward n hi))
        (fun _ => hmark.onward.bind (honward n' hi')) fun _ => ?_
      refine hmark.bind_next (advances_nextMarked hclose early broken) (honward n hi)
        (honward n' hi') fun more => ?_
      split
      · exact ih (Nat.le_of_succ_le hm) (Nat.le_of_succ_le hm') hle hle'
      · exact (local_pure _).within k k'

end

/-- A key and its colon are passed over locally. -/
theorem local_skipKey : Local skipKey := by
  unfold skipKey
  refine local_peek.bind fun o => ?_
  split
  · exact local_throw _
  · refine local_advance.bind fun _ => local_skipText.bind fun _ => local_peek.bind fun o => ?_
    -- the colon is passed, and any other mark is an error
    split
    · exact local_throw _
    · exact local_advance
    · exact local_throw _
  · exact local_throw _

/-- What is passed over behind an opening bracket. -/
def skipOpened (item : Reader Unit) (close : Char) (early broken : Error) (n : Nat) :
    Reader Unit := do
  match ← peek with
  | none => throw early
  | some c => if c = close then advance else skipTurns item close early broken n

/-- Passes over a list from its opening bracket on. -/
def skipList (value : Reader Unit) (n : Nat) : Reader Unit := do
  advance
  match ← peek with
  | none => throw .endInList
  | some ']' => advance
  | some _ => skipItems value n

/-- Passes over an object from its opening bracket on. -/
def skipObject (value : Reader Unit) (n : Nat) : Reader Unit := do
  advance
  match ← peek with
  | none => throw .endInObject
  | some '\x7d' => advance
  | some _ => skipMembers value n

/-- A list that is passed over has the turns of `skipOpened` behind its bracket. -/
theorem skipList_eq (value : Reader Unit) (n : Nat) :
    skipList value n
      = (do advance; skipOpened value ']' .endInList .listNotContinued n) := by
  unfold skipList
  refine congrArg (advance >>= ·) (funext fun _ => congrArg (peek >>= ·) (funext fun o => ?_))
  split
  · rfl
  · rfl
  · next c hbracket =>
    dsimp only
    rw [if_neg hbracket, skipItems_eq]

/-- An object that is passed over has them as well. -/
theorem skipObject_eq (value : Reader Unit) (n : Nat) :
    skipObject value n
      = (do advance; skipOpened (do skipKey; value) '\x7d' .endInObject .objectNotContinued n) := by
  unfold skipObject
  refine congrArg (advance >>= ·) (funext fun _ => congrArg (peek >>= ·) (funext fun o => ?_))
  split
  · rfl
  · rfl
  · next c hbracket =>
    dsimp only
    rw [if_neg hbracket, skipMembers_eq]

/-- Passes over a value that begins with `c`. -/
def skipFrom (value : Reader Unit) (n : Nat) (c : Char) : Reader Unit :=
  if c = 'n' then do advance; restOfWord ['u', 'l', 'l']
  else if c = 't' then do advance; restOfWord ['r', 'u', 'e']
  else if c = 'f' then do advance; restOfWord ['a', 'l', 's', 'e']
  else if c = '-' then do advance; skipNumber
  else if c.isDigit then skipNumber
  else if c = '"' then do advance; skipText
  else if c = '[' then skipList value n
  else if c = '\x7b' then skipObject value n
  else throw .noValue

/-- What is passed over depends on the first character of a value. -/
theorem skipWithin_succ (n : Nat) :
    skipWithin (n + 1) = (do
      match ← peek with
      | none => throw .endInValue
      | some c => skipFrom (skipWithin n) (n + 1) c) := rfl

section

variable {item item' : Reader Unit} {close : Char} {early broken : Error}

/-- What is between brackets is gone over onward. -/
theorem onward_skipOpened (hi : Onward item) (n : Nat) :
    Onward (skipOpened item close early broken n) := by
  refine local_peek.onward.bind fun o => ?_
  split
  · exact (local_throw _).onward
  · exact local_advance.onward.ite (onward_skipTurns hi n)

/-- An opening bracket is passed, so that there may be one turn less behind it. -/
theorem sameBefore_skipOpened (hclose : close.utf8Size = 1) (hi : Onward item) (hi' : Onward item')
    {m m' : Nat} (h : SameWithin m m' item item') {s t : List Char} {c : Char}
    (hc : c.utf8Size = 1) (hs : s.head? = some c) (hm : s.length < m + 1)
    (hm' : (s ++ t).length < m' + 1) :
    SameBefore (do advance; skipOpened item close early broken (m + 1))
      (do advance; skipOpened item' close early broken (m' + 1)) s t := by
  refine (local_advance.same s t).bind (fun _ => onward_skipOpened hi _)
    (fun _ => onward_skipOpened hi' _) fun _ rest hr => ?_
  have hlt := length_lt_of_advance hs hc hr
  -- so that what is left is short enough for `h`, which knows of a level less
  have honward : ∀ {i : Reader Unit} (j : Nat), Onward i → ∀ o : Option Char,
      Onward (match o with
        | none => throw early
        | some d => if d = close then advance else skipTurns i close early broken j) := by
    intro i j hi o
    split
    · exact (local_throw _).onward
    · exact local_advance.onward.ite (onward_skipTurns hi j)
  have hopened : SameWithin m m' (skipOpened item close early broken (m + 1))
      (skipOpened item' close early broken (m' + 1)) := by
    refine (local_peek.within m m').bind local_peek.onward (honward _ hi) (honward _ hi')
      fun o => ?_
    split
    · exact (local_throw _).within m m'
    · split
      · exact local_advance.within m m'
      · exact sameWithin_skipTurns hclose hi hi' h (Nat.le_refl m) (Nat.le_refl m')
          (Nat.le_succ m) (Nat.le_succ m')
  rw [List.length_append] at hm'
  exact hopened rest t (by omega) (by rw [List.length_append]; omega)

end

section

variable {value value' : Reader Unit}

/-- Whatever a value begins with, it is passed over onward. -/
theorem onward_skipFrom (h : Onward value) (n : Nat) (c : Char) :
    Onward (skipFrom value n c) := by
  have hword : ∀ word, Onward (do advance; restOfWord word) := fun word =>
    local_advance.onward.bind fun _ => (local_restOfWord word).onward
  -- one row for each sort of value
  unfold skipFrom
  split
  · exact hword _
  split
  · exact hword _
  split
  · exact hword _
  split
  · exact local_advance.onward.bind fun _ => local_skipNumber.onward
  split
  · exact local_skipNumber.onward
  split
  · exact local_advance.onward.bind fun _ => local_skipText.onward
  split
  · rw [skipList_eq]
    exact local_advance.onward.bind fun _ => onward_skipOpened h n
  split
  · rw [skipObject_eq]
    exact local_advance.onward.bind fun _ =>
      onward_skipOpened (local_skipKey.onward.bind fun _ => h) n
  · exact (local_throw _).onward

/-- A value is passed over onward, however deep its brackets may nest. -/
theorem onward_skipWithin (n : Nat) : Onward (skipWithin n) := by
  induction n with
  | zero => exact (local_throw _).onward
  | succ n ih =>
    rw [skipWithin_succ]
    refine local_peek.onward.bind fun o => ?_
    split
    · exact (local_throw _).onward
    · exact onward_skipFrom ih (n + 1) _

/-- More text behind a value changes nothing for its passing over, if that holds of the values
between its brackets. -/
theorem sameBefore_skipFrom (hv : Onward value) (hv' : Onward value') {m m' : Nat}
    (h : SameWithin m m' value value') {s t : List Char} {c : Char} (hs : s.head? = some c)
    (hm : s.length < m + 1) (hm' : (s ++ t).length < m' + 1) :
    SameBefore (skipFrom value (m + 1) c) (skipFrom value' (m' + 1) c) s t := by
  have hword : ∀ word, Local (do advance; restOfWord word) := fun word =>
    local_advance.bind fun _ => local_restOfWord word
  -- the scalars are local by themselves; only brackets need the hypothesis on what is between them
  unfold skipFrom
  split
  · exact (hword _).same s t
  split
  · exact (hword _).same s t
  split
  · exact (hword _).same s t
  split
  · exact (local_advance.bind fun _ => local_skipNumber).same s t
  split
  · exact local_skipNumber.same s t
  split
  · exact (local_advance.bind fun _ => local_skipText).same s t
  split
  · next hc =>
    rw [skipList_eq, skipList_eq]
    exact sameBefore_skipOpened rfl hv hv' h (hc ▸ rfl) hs hm hm'
  split
  · next hc =>
    have hkey := local_skipKey.within m m'
    rw [skipObject_eq, skipObject_eq]
    exact sameBefore_skipOpened rfl (local_skipKey.onward.bind fun _ => hv)
      (local_skipKey.onward.bind fun _ => hv')
      (hkey.bind local_skipKey.onward (fun _ => hv) (fun _ => hv') fun _ => h) (hc ▸ rfl) hs hm hm'
  · exact (local_throw _).same s t

end

/-- **Passing over a value** is local: the depth that it is given is more than there are characters.
-/
theorem turns_skipWithin : Turns skipWithin where
  onward := onward_skipWithin
  same n n' := by
    -- on the depth of the shorter text, with any depth that is enough for the longer one
    induction n generalizing n' with
    | zero => exact sameWithin_zero_left n' _ _
    | succ n ih =>
      cases n' with
      | zero => exact sameWithin_zero_right _ _ _
      | succ n' =>
        intro s t hn hn'
        have honward : ∀ (k : Nat) (o : Option Char), Onward (match o with
            | none => throw .endInValue
            | some c => skipFrom (skipWithin k) (k + 1) c) := by
          intro k o
          split
          · exact (local_throw _).onward
          · exact onward_skipFrom (onward_skipWithin k) (k + 1) _
        rw [skipWithin_succ, skipWithin_succ]
        refine (local_peek.same s t).bind (honward n) (honward n') fun o rest hr => ?_
        have hhead := head_of_peek hr
        have hle := local_peek.onward.length_le hr
        rw [List.length_append] at hn'
        cases o with
        | none => exact (local_throw _).same rest t
        | some c =>
          exact sameBefore_skipFrom (onward_skipWithin n) (onward_skipWithin n') (ih n') hhead
            (by omega) (by rw [List.length_append]; omega)

/-- So is the passing over of a value that nobody asked for. -/
theorem local_skip : Local skip := turns_skipWithin.local

/-! ### Members -/

/-- What is done with a member of an object, or at its end. -/
def memberStep (key : Reader κ) (member : σ → κ → Reader σ) (n : Nat) (g : σ) (isMore : Bool) :
    Reader σ :=
  if isMore then do
    let k ← key
    let g ← member g k
    membersFrom key member n false g
  else pure g

section

variable {key : Reader κ} {member : σ → κ → Reader σ}

/-- Members are gone over onward. -/
theorem onward_membersFrom (hk : Local key) (hm : ∀ g k, Local (member g k)) (n : Nat)
    (first : Bool) (g : σ) : Onward (membersFrom key member n first g) := by
  induction n generalizing first g with
  | zero => exact (local_throw _).onward
  | succ n ih =>
    refine (local_anotherMember first).onward.bind fun isMore => Onward.ite ?_ (local_pure _).onward
    exact hk.onward.bind fun k => (hm g k).onward.bind fun g => ih false g

/-- A member that follows has a quote before it. -/
theorem length_lt_of_anotherMember {first : Bool} {s rest : List Char}
    (h : anotherMember first s = .ok true rest) : rest.length < s.length := by
  obtain ⟨o, next, hpeek, h⟩ := ok_of_bind h
  have hhead := head_of_peek hpeek
  have hle := local_peek.onward.length_le hpeek
  -- the end of the text and the bracket are no member
  split at h
  · cases h
  · cases h
  · split at h
    · split at h
      · next hc =>
        obtain ⟨_, last, hadvance, h⟩ := ok_of_bind h
        have hlt := length_lt_of_advance hhead (hc ▸ rfl) hadvance
        cases h
        exact Nat.lt_of_lt_of_le hlt hle
      · cases h
    · split at h
      · next hc =>
        -- the comma is a character less already, whatever becomes of the quote behind it
        obtain ⟨_, last, hadvance, h⟩ := ok_of_bind h
        have hlt := length_lt_of_advance hhead (hc ▸ rfl) hadvance
        obtain ⟨o, last', hpeek, h⟩ := ok_of_bind h
        have hle' := local_peek.onward.length_le hpeek
        split at h
        · cases h
        · obtain ⟨_, last, hadvance, h⟩ := ok_of_bind h
          have hle'' := local_advance.onward.length_le hadvance
          cases h
          omega
        · cases h
        · cases h
      · cases h

/-- **Going over members** is local, if what is read of each member is. -/
theorem turns_membersFrom (hk : Local key) (hm : ∀ g k, Local (member g k)) (first : Bool) (g : σ) :
    Turns fun n => membersFrom key member n first g where
  onward n := onward_membersFrom hk hm n first g
  same n n' := by
    -- on the turns for the shorter text, as for values
    induction n generalizing n' first g with
    | zero => exact sameWithin_zero_left n' _ _
    | succ n ih =>
      cases n' with
      | zero => exact sameWithin_zero_right _ _ _
      | succ n' =>
        intro s t hn hn'
        have honward : ∀ k isMore, Onward (memberStep key member k g isMore) := by
          intro k isMore
          refine Onward.ite ?_ (local_pure _).onward
          exact hk.onward.bind fun _ => (hm g _).onward.bind fun g =>
            onward_membersFrom hk hm k false g
        refine ((local_anotherMember first).same s t).bind (honward n) (honward n')
          fun isMore rest hr => ?_
        cases isMore with
        | false => exact (local_pure g).same rest t
        | true =>
          -- only now is it known that a character has been passed
          have hlt := length_lt_of_anotherMember hr
          rw [List.length_append] at hn'
          have hmember : SameWithin n n' (memberStep key member n g true)
              (memberStep key member n' g true) := by
            refine (hk.within n n').bind hk.onward
              (fun k => (hm g k).onward.bind fun g => onward_membersFrom hk hm n false g)
              (fun k => (hm g k).onward.bind fun g => onward_membersFrom hk hm n' false g)
              fun k => ?_
            exact ((hm g k).within n n').bind (hm g k).onward
              (onward_membersFrom hk hm n false) (onward_membersFrom hk hm n' false)
              fun g => ih false g n'
          exact hmember rest t (by omega) (by rw [List.length_append]; omega)

end

end Reader

/-! ### Kinds of members -/

namespace Kind

open Reader

/-- An octet is what a lead stands for. -/
theorem local_readOctet : Local readOctet := local_lead.bind fun _ => local_accept _

/-- So are octets that are read one after the other. -/
theorem local_readOctets (count done : Nat) : Local (readOctets count done) := by
  induction count generalizing done with
  | zero => exact local_pure _
  | succ count ih =>
    refine (local_anotherItem _).bind fun isMore => ?_
    split
    · exact local_readOctet.bind fun _ => (ih (done + 1)).bind fun _ => local_pure _
    · exact local_throw _

/-- Whether another octet follows. -/
def octetFollows : Reader Bool := do
  if ← anotherItem false then
    let _ ← readOctet
    pure true
  else pure false

/-- To look for another octet is to read a mark and perhaps the octet. -/
theorem local_octetFollows : Local octetFollows := by
  refine (local_anotherItem false).bind fun isMore => ?_
  split
  · exact local_readOctet.bind fun _ => local_pure _
  · exact local_pure _

/-- What `Kind.refuseOctet` makes of the three things that may follow. -/
theorem refuseOctet_eq (s : List Char) :
    refuseOctet s = match octetFollows s with
      | .ok true rest => .error (.wrongLength 21 .twentyOctets) rest
      | .ok false rest => .ok () rest
      | .error _ rest => .ok () rest := rfl

/-- An error that is dropped is met no further than the reader gets. -/
theorem local_refuseOctet : Local refuseOctet := by
  -- that it is refused does not change what is left of the text
  have hleft : ∀ s, left refuseOctet s = left octetFollows s := by
    intro s
    unfold left
    rw [refuseOctet_eq]
    cases octetFollows s with
    | ok isMore rest => cases isMore <;> rfl
    | error e rest => rfl
  refine ⟨fun s => (hleft s).symm ▸ local_octetFollows.onward s, fun s t => ⟨fun hne => ?_, ?_⟩⟩
  · rw [refuseOctet_eq, refuseOctet_eq, (local_octetFollows.same s t).within (hleft s ▸ hne)]
    cases octetFollows s with
    | ok isMore rest => cases isMore <;> rfl
    | error e rest => rfl
  · rw [hleft, hleft]
    exact (local_octetFollows.same s t).beyond

/-- An address is read locally in both of its forms. -/
theorem local_readAddress : Local readAddress := by
  unfold readAddress
  refine local_lead.bind fun l => ?_
  -- a list of octets, or a text
  split
  · refine local_advance.bind fun _ => (local_readOctets 20 0).bind fun octets => ?_
    refine local_refuseOctet.bind fun _ => local_closeList.bind fun _ => ?_
    split
    · exact local_pure _
    · exact local_throw _
  · exact local_accept _

/-- **The value of a member** is read locally, whatever its kind. -/
theorem local_read (k : Kind) : Local k.read := by
  cases k with
  | address => exact local_readAddress
  | _ => exact local_lead.bind fun _ => local_accept _

end Kind

open Reader

/-- A member is taken into a draft locally. -/
theorem Draft.local_member (fs : List Field) (draft : Draft fs) (key : String) :
    Local (Draft.member fs draft key) := by
  -- the field of this name, or one of those after it; without any the value is passed over
  induction fs with
  | nil => exact local_colon.bind fun _ => local_skip
  | cons f fs ih =>
    obtain ⟨slot, draft⟩ := draft
    unfold Draft.member
    split
    · split
      · exact local_throw _
      · exact local_colon.bind fun _ => f.kind.local_read.bind fun _ => local_pure _
    · exact (ih draft).bind fun _ => local_pure _

/-- The values of a record that is written as a list are read locally. -/
theorem local_readRow (name : String) (total : Nat) (fs : List Field) (done : Nat) :
    Local (readRow name total fs done) := by
  -- one value for each field, and none for those that may be missing behind the end
  induction fs generalizing done with
  | nil => exact local_pure _
  | cons f fs ih =>
    have hrest : ∀ v : f.kind.Carrier, Local (do
        let row ← readRow name total fs (done + 1)
        pure (v, row) : Reader (Row (f :: fs))) :=
      fun v => (ih (done + 1)).bind fun _ => local_pure _
    unfold readRow
    refine (local_anotherItem _).bind fun isMore => ?_
    split
    · exact f.kind.local_read.bind hrest
    · split
      · exact hrest _
      · exact (local_throw _).bind hrest

end WalletPanel.Wire
