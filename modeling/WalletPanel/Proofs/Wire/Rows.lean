import WalletPanel.Proofs.Wire.Objects
import WalletPanel.Proofs.Wire.Scalars

/-!
# Rows that are read and passed over

A list or an object whose items and members are well-formed is gone over from one of them to the
next, whatever the readers make of each. So the outcome of a row is made of the outcomes of its
parts: a list comes to the values of its items (`comes_listOf`), an object to what is gathered of
its members (`comes_membersFrom`), and either to the first error there is. From this every
well-formed value is passed over exactly (`yields_skip`), and comes to one thing only when it is
read as a value (`settles_value`).
-/

namespace WalletPanel.Wire

/-! ### What follows an item -/

/-- What follows an item of a row is a comma or what follows the row, perhaps behind blanks. -/
theorem endsNumber_row {b : List Char} (hb : IsBlank b) (items : List Padded) {s : List Char}
    (hs : EndsNumber s) : EndsNumber (rowFrom false b items ++ s) := by
  -- either the row is over, or it goes on with a comma
  cases items with
  | nil =>
    rw [rowFrom_nil]
    exact endsNumber_blank hb hs
  | cons i items =>
    have hrow : rowFrom false b (i :: items) ++ s
        = b ++ (',' :: (i.before ++ (i.core ++ rowFrom false i.after items)) ++ s) := by
      rw [rowFrom_cons]
      simp
    rw [hrow]
    exact endsNumber_blank hb (endsNumber_comma _)

/-- A key may stand before a colon and blanks. -/
theorem endsNumber_colon {b : List Char} (hb : IsBlank b) (s : List Char) :
    EndsNumber (b ++ ':' :: s) := by
  refine endsNumber_blank hb ?_
  intro c hc
  cases hc
  decide

namespace Reader

variable {α β σ : Type}

/-! ### From one item to the next -/

/-- A row that has been gone over. -/
theorem anotherItem_nil (first : Bool) {b : List Char} (hb : IsBlank b) (rest : List Char) :
    anotherItem first (rowFrom first b [] ++ ']' :: rest) = .ok false (']' :: rest) := by
  rw [rowFrom_nil]
  exact bind_of_ok (peek_blank_cons hb rfl rest)

/-- An item that follows is come to without the blanks before it. -/
theorem anotherItem_cons (first : Bool) {b : List Char} (hb : IsBlank b) {i : Padded}
    {c : Char} {s : List Char} (hi : i.core = c :: s) (hc : BeginsValue c) (items : List Padded)
    (rest : List Char) :
    anotherItem first (rowFrom first b (i :: items) ++ ']' :: rest)
      = .ok true (i.core ++ (rowFrom false i.after items ++ ']' :: rest)) := by
  have hvalue : peek (i.before ++ (i.core ++ (rowFrom false i.after items ++ ']' :: rest)))
      = .ok (some c) (i.core ++ (rowFrom false i.after items ++ ']' :: rest)) := by
    rw [hi]
    exact peek_blank_cons i.blank_before hc.1 _
  have hbracket : c ≠ ']' := hc.2.2.1
  -- before the first item there is no comma to pass
  cases first with
  | true =>
    have hrow : rowFrom true b (i :: items) ++ ']' :: rest
        = i.before ++ (i.core ++ (rowFrom false i.after items ++ ']' :: rest)) := by
      rw [rowFrom_cons]
      simp
    rw [hrow, anotherItem, bind_of_ok hvalue]
    -- the item begins with no bracket, so that only the last row of the match is left
    generalize hnext : some c = next
    split
    · cases hnext
    · cases hnext; exact absurd rfl hbracket
    · rfl
  | false =>
    have hrow : rowFrom false b (i :: items) ++ ']' :: rest
        = b ++ ',' :: (i.before ++ (i.core ++ (rowFrom false i.after items ++ ']' :: rest))) := by
      rw [rowFrom_cons]
      simp
    rw [hrow]
    calc anotherItem false (b ++ ',' :: (i.before ++ _))
        = (advance >>= _) (',' :: (i.before ++ _)) := bind_of_ok (peek_blank_cons hb rfl _)
      _ = (peek >>= _) (i.before ++ _) := bind_of_ok (advance_cons rfl _)
      _ = _ := bind_of_ok hvalue
      _ = .ok true (i.core ++ (rowFrom false i.after items ++ ']' :: rest)) := ?_
    generalize hnext : some c = next
    split
    · cases hnext
    · cases hnext; exact absurd rfl hbracket
    · rfl

/-- The end of a list is found behind its row only. -/
theorem closeList_bracket (s : List Char) : closeList (']' :: s) = .ok () s :=
  calc closeList (']' :: s)
      = advance (']' :: s) := bind_of_ok (peek_cons rfl s)
    _ = .ok () s := advance_cons rfl s

/-- Blanks before the end of a list are passed over. -/
theorem closeList_blank {b : List Char} (hb : IsBlank b) (s : List Char) :
    closeList (b ++ s) = closeList s :=
  bind_peek_blank hb _ s

/-! ### Lists -/

/-- **The items of a list** from any of them on. -/
theorem comes_itemsFrom {item : Reader α} {items : List Padded}
    (hi : ∀ i ∈ items, IsValue i.core ∧ item.Settles i.core) {fuel : Nat}
    (hf : items.length < fuel) (first : Bool) {b : List Char} (hb : IsBlank b) (done : List α)
    (rest : List Char) :
    (itemsFrom item fuel first done).Comes (rowFrom first b items ++ ']' :: rest)
      ((items.mapM fun i => item.outcome i.core).map (done.reverse ++ ·)) (']' :: rest) := by
  -- one item takes one turn, and what is done so far grows by it
  induction items generalizing fuel first b done with
  | nil =>
    obtain ⟨fuel, rfl, -⟩ := exists_turn hf
    change itemsFrom item (fuel + 1) first done _ = .ok (done.reverse ++ []) (']' :: rest)
    rw [List.append_nil]
    exact bind_of_ok (anotherItem_nil first hb rest)
  | cons i items ih =>
    obtain ⟨fuel, rfl, hle⟩ := exists_turn hf
    obtain ⟨hv, hs⟩ := hi i List.mem_cons_self
    obtain ⟨c, t, hct, hc⟩ := exists_head_value hv
    -- what all items come to is what the first one and then the others come to
    have hmap : ((i :: items).mapM fun i => item.outcome i.core).map (done.reverse ++ ·)
        = (item.outcome i.core >>= fun a =>
          (items.mapM fun i => item.outcome i.core).map ((a :: done).reverse ++ ·)) := by
      rw [List.mapM_cons]
      cases item.outcome i.core with
      | error e => rfl
      | ok a =>
        cases items.mapM fun i => item.outcome i.core with
        | error e => rfl
        | ok as =>
          change Except.ok _ = Except.ok _
          simp
    rw [hmap]
    have hnext := hs _ (endsNumber_row i.blank_after items (endsNumber_bracket rest))
    refine Comes.of_eq ?_ (bind_of_ok (anotherItem_cons first hb hct hc items rest))
    refine hnext.bind fun a _ => ?_
    exact ih (fun j hj => hi j (List.mem_cons_of_mem i hj)) hle false i.blank_after (a :: done)

/-- **A list** comes to the values of its items. -/
theorem comes_listOf {item : Reader α} {items : List Padded}
    (hi : ∀ i ∈ items, IsValue i.core ∧ item.Settles i.core) {b : List Char} (hb : IsBlank b)
    (rest : List Char) :
    (listOf item).Comes (rowText b items ++ ']' :: rest)
      (items.mapM fun i => item.outcome i.core) rest := by
  have hfuel : items.length < (rowText b items ++ ']' :: rest).length + 1 := by
    have := length_le_row b items
    rw [List.length_append, List.length_cons]
    omega
  have hitems := comes_itemsFrom hi hfuel true hb [] rest
  -- nothing has been done before the first item
  have hx : ∀ x : Except Error (List α), x.map ([].reverse ++ ·) = x := by
    intro x
    cases x <;> rfl
  rw [hx] at hitems
  refine Comes.of_eq ?_ (bind_get _)
  exact hitems.followed fun as => bind_of_ok (closeList_bracket rest)

/-! ### Objects -/

/-- A row of members that has been gone over ends with the bracket of the object. -/
theorem anotherMember_nil (first : Bool) {b : List Char} (hb : IsBlank b) (rest : List Char) :
    anotherMember first (rowFrom first b [] ++ '\x7d' :: rest) = .ok false ('\x7d' :: rest) := by
  rw [rowFrom_nil]
  exact bind_of_ok (peek_blank_cons hb rfl rest)

/-- A member that follows is come to after the quote of its key. -/
theorem anotherMember_cons (first : Bool) {b : List Char} (hb : IsBlank b) (m : Member)
    (items : List Padded) (rest : List Char) :
    anotherMember first (rowFrom first b (m.padded :: items) ++ '\x7d' :: rest)
      = .ok true (m.tail ++ (rowFrom false m.value.after items ++ '\x7d' :: rest)) := by
  cases first with
  | true =>
    -- the first member has no comma in front
    have hrow : rowFrom true b (m.padded :: items) ++ '\x7d' :: rest = m.key.before ++
        ('"' :: (m.tail ++ (rowFrom false m.value.after items ++ '\x7d' :: rest))) := by
      rw [rowFrom_cons]
      simp [Member.padded]
    rw [hrow, anotherMember, bind_peek_blank m.key.blank_before]
    exact anotherMember_first _
  | false =>
    -- any other one has, and blanks before it
    have hrow : rowFrom false b (m.padded :: items) ++ '\x7d' :: rest
        = b ++ (',' :: (m.key.before ++
          ('"' :: (m.tail ++ (rowFrom false m.value.after items ++ '\x7d' :: rest))))) := by
      rw [rowFrom_cons]
      simp [Member.padded]
    rw [hrow]
    calc anotherMember false (b ++ (',' :: (m.key.before ++ ('"' :: _))))
        = (advance >>= _) (',' :: (m.key.before ++ ('"' :: _))) :=
          bind_of_ok (peek_blank_cons hb rfl _)
      _ = (peek >>= _) (m.key.before ++ ('"' :: _)) := bind_of_ok (advance_cons rfl _)
      _ = (advance >>= _) ('"' :: _) := bind_of_ok (peek_blank_cons m.key.blank_before rfl _)
      _ = .ok true _ := bind_of_ok (advance_cons rfl _)

/-- Reads a key and takes its member in. -/
def taking (member : σ → String → Reader σ) (gathered : σ) : Reader σ := do
  let key ← text
  member gathered key

/-- **The members of an object** from any of them on: what is gathered of them one after the other,
up to the first error. -/
theorem comes_membersFrom {member : σ → String → Reader σ} {step : σ → Member → Except Error σ}
    {members : List Member} (hm : ∀ m ∈ members, ∀ g, (taking member g).Yields m.tail (step g m))
    {fuel : Nat} (hf : members.length < fuel) (first : Bool) {b : List Char} (hb : IsBlank b)
    (g : σ) (rest : List Char) :
    (membersFrom text member fuel first g).Comes
      (rowFrom first b (members.map Member.padded) ++ '\x7d' :: rest) (members.foldlM step g)
      ('\x7d' :: rest) := by
  -- the members are taken in one after the other, each into what the others before it have left
  induction members generalizing fuel first b g with
  | nil =>
    obtain ⟨fuel, rfl, -⟩ := exists_turn hf
    exact bind_of_ok (anotherMember_nil first hb rest)
  | cons m members ih =>
    obtain ⟨fuel, rfl, hle⟩ := exists_turn hf
    have hs := hm m List.mem_cons_self g
    -- a turn, written as the reader of one member and then the next turn
    have hstep : ∀ s, (do
          let key ← text
          let g ← member g key
          membersFrom text member fuel false g : Reader σ) s
        = (taking member g >>= membersFrom text member fuel false) s := by
      intro s
      unfold taking
      rw [bind_assoc]
    rw [List.foldlM_cons]
    refine Comes.of_eq ?_ (bind_of_ok (anotherMember_cons first hb m _ rest))
    refine Comes.of_eq ?_ (hstep _)
    refine (hs _ (endsNumber_row m.value.blank_after _ (endsNumber_brace rest))).bind fun g' _ => ?_
    exact ih (fun n hn => hm n (List.mem_cons_of_mem m hn)) hle false m.value.blank_after g'

/-- The turns that a reader of an object takes from the length of the text are enough. -/
theorem length_lt_turns (b : List Char) (members : List Member) (rest : List Char) :
    members.length < (rowText b (members.map Member.padded) ++ '\x7d' :: rest).length + 1 := by
  have hrow := length_le_row b (members.map Member.padded)
  rw [List.length_map] at hrow
  rw [List.length_append, List.length_cons]
  omega

/-- What becomes of the members that have been gathered, before the bracket behind them. -/
theorem comes_gathered {member : σ → String → Reader σ} {step : σ → Member → Except Error σ}
    {members : List Member} (hm : ∀ m ∈ members, ∀ g, (taking member g).Yields m.tail (step g m))
    {b : List Char} (hb : IsBlank b) (g : σ) {next : σ → Reader β} {y : σ → Except Error β}
    {rest : List Char} (hnext : ∀ g, (next g).Comes ('\x7d' :: rest) (y g) rest) :
    (do
      let g ← membersFrom text member ((← get).length + 1) true g
      next g : Reader β).Comes (rowText b (members.map Member.padded) ++ '\x7d' :: rest)
        (members.foldlM step g >>= y) rest := by
  have hmembers := comes_membersFrom hm (length_lt_turns b members rest) true hb g rest
  refine Comes.of_eq ?_ (bind_get _)
  exact hmembers.bind fun g' _ => hnext g'

/-- **An object** comes to what is gathered of its members. -/
theorem comes_objectOf {member : σ → String → Reader σ} {step : σ → Member → Except Error σ}
    {members : List Member} (hm : ∀ m ∈ members, ∀ g, (taking member g).Yields m.tail (step g m))
    {b : List Char} (hb : IsBlank b) (g : σ) (rest : List Char) :
    (objectOf text member g).Comes (rowText b (members.map Member.padded) ++ '\x7d' :: rest)
      (members.foldlM step g) rest := by
  have hclose : ∀ g : σ, (do closeObject; pure g : Reader σ).Comes ('\x7d' :: rest) (.ok g) rest :=
    fun g => bind_of_ok (closeObject_brace rest)
  have hobject := comes_gathered hm hb g hclose
  -- the bracket is asked for only if there was no error before
  cases hg : members.foldlM step g <;> rw [hg] at hobject <;> exact hobject

/-! ### Passing over -/

/-- **The items of a list** are passed over, from any of them on, with the bracket behind them. -/
theorem skipItems_row {item : Reader Unit} {i : Padded} {items : List Padded}
    (hi : ∀ j ∈ i :: items, ∀ b s, IsBlank b → EndsNumber s →
      item (b ++ (j.core ++ s)) = .ok () s) {fuel : Nat} (hf : items.length < fuel) {b : List Char}
    (hb : IsBlank b) (rest : List Char) :
    skipItems item fuel (b ++ (i.core ++ (rowFrom false i.after items ++ ']' :: rest)))
      = .ok () rest := by
  -- behind an item there is the bracket, or a comma and the next item
  induction items generalizing i fuel b with
  | nil =>
    obtain ⟨fuel, rfl, -⟩ := exists_turn hf
    have hitem := hi i List.mem_cons_self b _ hb
      (endsNumber_row i.blank_after [] (endsNumber_bracket rest))
    rw [rowFrom_nil] at hitem ⊢
    calc skipItems item (fuel + 1) (b ++ (i.core ++ (i.after ++ ']' :: rest)))
        = (peek >>= _) (i.after ++ ']' :: rest) := bind_of_ok hitem
      _ = advance (']' :: rest) := bind_of_ok (peek_blank_cons i.blank_after rfl rest)
      _ = .ok () rest := advance_cons rfl rest
  | cons j items ih =>
    obtain ⟨fuel, rfl, hle⟩ := exists_turn hf
    have hitem := hi i List.mem_cons_self b _ hb
      (endsNumber_row i.blank_after (j :: items) (endsNumber_bracket rest))
    have hrow : rowFrom false i.after (j :: items) ++ ']' :: rest = i.after ++
        (',' :: (j.before ++ (j.core ++ (rowFrom false j.after items ++ ']' :: rest)))) := by
      rw [rowFrom_cons]
      simp
    have hmore := ih (fun k hk => hi k (List.mem_cons_of_mem i hk)) hle j.blank_before
    rw [hrow] at hitem ⊢
    calc skipItems item (fuel + 1) (b ++ (i.core ++ (i.after ++ (',' :: _))))
        = (peek >>= _) (i.after ++ (',' :: _)) := bind_of_ok hitem
      _ = (advance >>= _) (',' :: _) := bind_of_ok (peek_blank_cons i.blank_after rfl _)
      _ = skipItems item fuel _ := bind_of_ok (advance_cons rfl _)
      _ = .ok () rest := hmore

/-- A key and its colon are passed over. -/
theorem skipKey_member {m : Member} (hm : IsInner m.key.core) {b : List Char} (hb : IsBlank b)
    (rest : List Char) :
    skipKey (b ++ ('"' :: (m.tail ++ rest)))
      = .ok () (m.value.before ++ (m.value.core ++ rest)) := by
  -- the key, its closing quote, the colon and the value
  have htail : m.tail ++ rest = m.key.core ++ '"' ::
      (m.key.after ++ (':' :: (m.value.before ++ (m.value.core ++ rest)))) := by
    simp [Member.tail, Member.valuePart]
  have hcolon := peek_blank_cons m.key.blank_after (c := ':') rfl
  rw [htail]
  calc skipKey (b ++ ('"' :: (m.key.core ++ '"' :: _)))
      = (advance >>= _) ('"' :: (m.key.core ++ '"' :: _)) := bind_of_ok (peek_blank_cons hb rfl _)
    _ = (skipText >>= _) (m.key.core ++ '"' :: _) := bind_of_ok (advance_cons rfl _)
    _ = (peek >>= _) (m.key.after ++ (':' :: _)) := bind_of_ok (skipText_inner hm _)
    _ = advance (':' :: _) := bind_of_ok (hcolon _)
    _ = .ok () (m.value.before ++ (m.value.core ++ rest)) := advance_cons rfl _

/-- **The members of an object** are passed over likewise. -/
theorem skipMembers_row {value : Reader Unit} {m : Member} {members : List Member}
    (hk : ∀ n ∈ m :: members, IsInner n.key.core)
    (hv : ∀ n ∈ m :: members, ∀ b s, IsBlank b → EndsNumber s →
      value (b ++ (n.value.core ++ s)) = .ok () s) {fuel : Nat} (hf : members.length < fuel)
    {b : List Char} (hb : IsBlank b) (rest : List Char) :
    skipMembers value fuel (b ++ ('"' :: (m.tail ++
      (rowFrom false m.value.after (members.map Member.padded) ++ '\x7d' :: rest))))
      = .ok () rest := by
  -- likewise, with a key and its colon before each value
  induction members generalizing m fuel b with
  | nil =>
    obtain ⟨fuel, rfl, -⟩ := exists_turn hf
    have hkey := skipKey_member (hk m List.mem_cons_self) hb
    have hvalue := hv m List.mem_cons_self m.value.before _ m.value.blank_before
      (endsNumber_row m.value.blank_after [] (endsNumber_brace rest))
    rw [rowFrom_nil] at hvalue
    rw [List.map_nil, rowFrom_nil]
    calc skipMembers value (fuel + 1) (b ++ ('"' :: (m.tail ++ (m.value.after ++ '\x7d' :: rest))))
        = (value >>= _) (m.value.before ++ (m.value.core ++ (m.value.after ++ '\x7d' :: rest))) :=
          bind_of_ok (hkey _)
      _ = (peek >>= _) (m.value.after ++ '\x7d' :: rest) := bind_of_ok hvalue
      _ = advance ('\x7d' :: rest) := bind_of_ok (peek_blank_cons m.value.blank_after rfl rest)
      _ = .ok () rest := advance_cons rfl rest
  | cons n members ih =>
    obtain ⟨fuel, rfl, hle⟩ := exists_turn hf
    have hkey := skipKey_member (hk m List.mem_cons_self) hb
    have hvalue := hv m List.mem_cons_self m.value.before _ m.value.blank_before
      (endsNumber_row m.value.blank_after ((n :: members).map Member.padded)
        (endsNumber_brace rest))
    have hrow : rowFrom false m.value.after ((n :: members).map Member.padded) ++ '\x7d' :: rest
        = m.value.after ++ (',' :: (n.key.before ++ ('"' :: (n.tail ++
          (rowFrom false n.value.after (members.map Member.padded) ++ '\x7d' :: rest))))) := by
      rw [List.map_cons, rowFrom_cons]
      simp [Member.padded]
    have hmore := ih (fun k h => hk k (List.mem_cons_of_mem m h))
      (fun k h => hv k (List.mem_cons_of_mem m h)) hle n.key.blank_before
    rw [hrow] at hvalue ⊢
    calc skipMembers value (fuel + 1) (b ++ ('"' :: (m.tail ++ (m.value.after ++ (',' :: _)))))
        = (value >>= _) (m.value.before ++ (m.value.core ++ (m.value.after ++ (',' :: _)))) :=
          bind_of_ok (hkey _)
      _ = (peek >>= _) (m.value.after ++ (',' :: _)) := bind_of_ok hvalue
      _ = (advance >>= _) (',' :: _) := bind_of_ok (peek_blank_cons m.value.blank_after rfl _)
      _ = skipMembers value fuel _ := bind_of_ok (advance_cons rfl _)
      _ = .ok () rest := hmore

/-- A value between brackets is shorter than what the brackets are part of. -/
theorem length_core_lt {i : Padded} {items : List Padded} (h : i ∈ items) (b : List Char)
    {opening closing : Char} {fuel : Nat}
    (hf : (opening :: (rowText b items ++ [closing])).length ≤ fuel) : i.core.length < fuel := by
  have := length_core_le_row h b
  rw [List.length_cons, List.length_append, List.length_singleton] at hf
  omega

/-- The value of a member is shorter than the object that the member is of. -/
theorem length_value_lt {m : Member} {members : List Member} (h : m ∈ members) (b : List Char)
    {opening closing : Char} {fuel : Nat}
    (hf : (opening :: (rowText b (members.map Member.padded) ++ [closing])).length ≤ fuel) :
    m.value.core.length < fuel := by
  have hpart : m.value.core.length ≤ m.padded.core.length := by
    simp only [Member.padded, Member.tail, Member.valuePart, List.length_cons, List.length_append]
    omega
  exact Nat.lt_of_le_of_lt hpart (length_core_lt (List.mem_map_of_mem h) b hf)

/-- A list is passed over if its items are. -/
theorem skipWithin_list {blanks : List Char} (blank : IsBlank blanks) {items : List Padded}
    (hi : ∀ i ∈ items, IsValue i.core) {fuel : Nat} (hf : (listText blanks items).length ≤ fuel)
    (hskip : ∀ i ∈ items, ∀ b s, IsBlank b → EndsNumber s →
      skipWithin fuel (b ++ (i.core ++ s)) = .ok () s) (s : List Char) :
    skipWithin (fuel + 1) (listText blanks items ++ s) = .ok () s := by
  rw [listText_append]
  calc skipWithin (fuel + 1) ('[' :: (rowText blanks items ++ ']' :: s))
      = (advance >>= _) ('[' :: (rowText blanks items ++ ']' :: s)) := bind_of_ok (peek_cons rfl _)
    _ = (peek >>= _) (rowText blanks items ++ ']' :: s) := bind_of_ok (advance_cons rfl _)
    _ = .ok () s := ?_
  -- an empty list is told from others by its bracket alone
  cases items with
  | nil =>
    calc (peek >>= _) (blanks ++ ']' :: s)
        = advance (']' :: s) := bind_of_ok (peek_blank_cons blank rfl s)
      _ = .ok () s := advance_cons rfl s
  | cons i items =>
    obtain ⟨c, t, hct, hc⟩ := exists_head_value (hi i List.mem_cons_self)
    have hpeek : peek (rowText blanks (i :: items) ++ ']' :: s)
        = .ok (some c) (i.core ++ (rowFrom false i.after items ++ ']' :: s)) := by
      have hrow : rowText blanks (i :: items) ++ ']' :: s
          = i.before ++ (i.core ++ (rowFrom false i.after items ++ ']' :: s)) := by
        simp [rowText, rowFrom, Padded.text]
      rw [hrow, hct]
      exact peek_blank_cons i.blank_before hc.1 _
    have hturns : items.length < fuel + 1 := by
      have := length_le_row blanks (i :: items)
      simp only [listText, List.length_cons, List.length_append] at hf this
      omega
    have hrest := skipItems_row hskip hturns isBlank_nil s
    rw [bind_of_ok hpeek]
    -- no item begins with a bracket
    generalize hnext : some c = next
    split
    · cases hnext
    · cases hnext; exact absurd rfl hc.2.2.1
    · exact hrest

/-- An object is passed over if its values are. -/
theorem skipWithin_object {blanks : List Char} (blank : IsBlank blanks) {members : List Member}
    (keys : ∀ m ∈ members, IsInner m.key.core) {fuel : Nat}
    (hf : (objectText blanks members).length ≤ fuel)
    (hskip : ∀ m ∈ members, ∀ b s, IsBlank b → EndsNumber s →
      skipWithin fuel (b ++ (m.value.core ++ s)) = .ok () s) (s : List Char) :
    skipWithin (fuel + 1) (objectText blanks members ++ s) = .ok () s := by
  rw [objectText_append]
  calc skipWithin (fuel + 1) ('\x7b' :: (rowText blanks (members.map Member.padded) ++ '\x7d' :: s))
      = (advance >>= _) ('\x7b' :: (rowText blanks (members.map Member.padded) ++ '\x7d' :: s)) :=
        bind_of_ok (peek_cons rfl _)
    _ = (peek >>= _) (rowText blanks (members.map Member.padded) ++ '\x7d' :: s) :=
        bind_of_ok (advance_cons rfl _)
    _ = .ok () s := ?_
  -- likewise an empty object
  cases members with
  | nil =>
    calc (peek >>= _) (blanks ++ '\x7d' :: s)
        = advance ('\x7d' :: s) := bind_of_ok (peek_blank_cons blank rfl s)
      _ = .ok () s := advance_cons rfl s
  | cons m members =>
    have hrow : rowText blanks ((m :: members).map Member.padded) ++ '\x7d' :: s
        = m.key.before ++ ('"' :: (m.tail ++
          (rowFrom false m.value.after (members.map Member.padded) ++ '\x7d' :: s))) := by
      simp [rowText, rowFrom, Padded.text, Member.padded]
    have hturns : members.length < fuel + 1 := by
      have := length_le_row blanks ((m :: members).map Member.padded)
      simp only [objectText, List.length_cons, List.length_append, List.length_map] at hf this
      omega
    rw [hrow]
    calc (peek >>= _) (m.key.before ++ ('"' :: _))
        = skipMembers (skipWithin fuel) (fuel + 1) ('"' :: _) :=
          bind_of_ok (peek_blank_cons m.key.blank_before rfl _)
      _ = .ok () s := skipMembers_row keys hskip hturns isBlank_nil s

/-- **Every well-formed value is passed over**, from blanks before it on, and nothing else is. -/
theorem skipWithin_value {v : List Char} (h : IsValue v) {fuel : Nat} (hf : v.length < fuel)
    {b s : List Char} (hb : IsBlank b) (hs : EndsNumber s) :
    skipWithin fuel (b ++ (v ++ s)) = .ok () s := by
  -- over the grammar of values; a value between brackets is shorter, so that turns are left for it
  induction h generalizing fuel b s with
  | scalar h =>
    obtain ⟨fuel, rfl, -⟩ := exists_turn hf
    rw [skipWithin, bind_peek_blank hb]
    exact skipWithin_scalar h fuel hs
  | @list blanks items blank values ih =>
    obtain ⟨fuel, rfl, hle⟩ := exists_turn hf
    rw [skipWithin, bind_peek_blank hb]
    refine skipWithin_list blank values hle (fun i hi b t hb ht => ?_) s
    exact ih i hi (length_core_lt hi blanks hle) hb ht
  | @object blanks members blank keys values ih =>
    obtain ⟨fuel, rfl, hle⟩ := exists_turn hf
    rw [skipWithin, bind_peek_blank hb]
    refine skipWithin_object blank keys hle (fun m hm b t hb ht => ?_) s
    exact ih m hm (length_value_lt hm blanks hle) hb ht

/-- A value that nobody asked for. -/
theorem yields_skip {v : List Char} (h : IsValue v) {b : List Char} (hb : IsBlank b) :
    skip.Yields (b ++ v) (.ok ()) := by
  intro rest hr
  have hfuel : v.length < (b ++ v ++ rest).length + 1 := by
    simp only [List.length_append]
    omega
  have hskip := skipWithin_value h hfuel hb hr
  rw [← List.append_assoc] at hskip
  refine Comes.of_eq ?_ (bind_get _)
  exact hskip

end Reader

end WalletPanel.Wire
