import WalletPanel.Proofs.Wire.Members

/-!
# Members that are read by their kind

The value of a member is looked at by what it begins with, and comes to what its kind makes of that
(`Kind.yields_read`). The one kind that looks further is the address, which may be a list of octets.
There is a flaw in how such a list is read: what goes wrong with an item behind the twentieth is
forgotten, and reading goes on from wherever it went wrong. In all cases but one that place is
behind the item, or at characters which nothing accepts. A text in which half a character is missing
is left in its middle, though, and what follows is then taken for something that it is not.
`KeepsPlace` excludes just this case; without it, an address comes to one thing whatever follows
(`Kind.settles_read`).
-/

namespace WalletPanel.Wire

/-- A value that is no list, or a list in which the item behind the twentieth is no text that stands
for nothing, as one does in which half a character is missing. -/
inductive KeepsPlace : List Char → Prop
  | other {v : List Char} (head : v.head? ≠ some '[') : KeepsPlace v
  | list {blanks : List Char} {items : List Padded} (blank : IsBlank blanks)
      (values : ∀ i ∈ items, IsValue i.core)
      (extra : ∀ i inner, items[20]? = some i → i.core = quotedText inner → IsInner inner →
        ∃ t, Reader.text.run (inner ++ ['"']) = .ok t) : KeepsPlace (listText blanks items)

open Reader

namespace Kind

/-! ### Values that are looked at once -/

/-- No kind is content with a bracket. -/
theorem ofLead_bracket (k : Kind) {l : Lead} (h : l = .list ∨ l = .object) :
    ∃ e, k.ofLead l = .error e := by
  rcases h with rfl | rfl <;> cases k <;> exact ⟨_, rfl⟩

/-- Only an address is looked at further than what it begins with. -/
theorem read_eq {k : Kind} {s t : List Char} {l : Lead} (h : lead s = .ok l t)
    (hl : k = .address → l ≠ .list) : k.read s = accept (k.ofLead l) t := by
  cases k with
  | address =>
    -- here the lead decides between a list of octets and everything else
    rw [Kind.read, readAddress, bind_of_ok h]
    cases l with
    | list => exact absurd rfl (hl rfl)
    | _ => rfl
  | _ => exact bind_of_ok h

/-- **A member's value** comes to what its kind makes of its lead. -/
theorem yields_read (k : Kind) {v : List Char} (h : IsValue v)
    (hk : k = .address → lead.outcome v ≠ .ok .list) :
    k.read.Yields v (lead.outcome v >>= k.ofLead) := by
  intro rest hr
  -- a bracket is left in place, but then there is nothing to go on with
  have hbracket : ∀ l, l = .list ∨ l = .object → (k = .address → l ≠ .list) →
      lead (v ++ rest) = .ok l (v ++ rest) → k.read.Comes (v ++ rest) (k.ofLead l) rest := by
    intro l hl hkl hlead
    obtain ⟨e, he⟩ := k.ofLead_bracket hl
    rw [he]
    refine ⟨v ++ rest, ?_⟩
    rw [read_eq hlead hkl, he]
    rfl
  -- a scalar is read to its end, and a bracket is refused where it stands
  cases h with
  | scalar h =>
    obtain ⟨hs, hlist, -⟩ := outcome_lead_scalar h
    have hs := hs rest hr
    cases hl : lead.outcome v with
    | error e =>
      rw [hl] at hs
      obtain ⟨left, he⟩ := hs
      refine ⟨left, ?_⟩
      cases k <;> exact bind_of_error he
    | ok l =>
      rw [hl] at hs hlist
      refine (comes_accept (k.ofLead l) rest).of_eq (read_eq hs fun _ hll => ?_)
      exact hlist (congrArg Except.ok hll)
  | @list blanks items blank values =>
    rw [outcome_lead_list] at hk ⊢
    refine hbracket .list (Or.inl rfl) (fun he _ => hk he rfl) ?_
    exact lead_list_text blanks items rest
  | @object blanks members blank keys values =>
    rw [outcome_lead_object]
    refine hbracket .object (Or.inr rfl) nofun ?_
    exact lead_object_text blanks members rest

/-! ### Lists of octets -/

/-- Octets of a list are read one after the other, until enough are read or one is none. -/
theorem comes_readOctets (count done : Nat) {b : List Char} (hb : IsBlank b) {items : List Padded}
    (hi : ∀ i ∈ items, IsValue i.core) :
    ∃ x b', IsBlank b' ∧ ∀ rest, (readOctets count done).Comes
      (rowFrom (done = 0) b items ++ ']' :: rest) x
      (rowFrom (done + count = 0) b' (items.drop count) ++ ']' :: rest) := by
  -- one octet for each turn; the first error ends the list
  induction count generalizing done b items with
  | zero => exact ⟨.ok [], b, hb, fun rest => rfl⟩
  | succ count ih =>
    cases items with
    | nil =>
      refine ⟨.error (.wrongLength done .twentyOctets), b, hb, fun rest => ⟨']' :: rest, ?_⟩⟩
      exact bind_of_ok (anotherItem_nil _ hb rest)
    | cons i items =>
      have hv := hi i List.mem_cons_self
      obtain ⟨c, t, hct, hc⟩ := exists_head_value hv
      obtain ⟨x, b', hb', hx⟩ := ih (done + 1) i.blank_after
        fun j hj => hi j (List.mem_cons_of_mem i hj)
      refine ⟨lead.outcome i.core >>= ofLead octet >>= fun o => x.map (o :: ·), b', hb',
        fun rest => ?_⟩
      have hoctet := octet.yields_read hv nofun _
        (endsNumber_row i.blank_after items (endsNumber_bracket rest))
      refine Comes.of_eq ?_ (bind_of_ok (anotherItem_cons _ hb hct hc items rest))
      refine hoctet.bind fun o _ => ?_
      have hmore := (hx rest).map (o :: ·)
      have hdone : done + 1 + count = done + (count + 1) := by omega
      rw [hdone] at hmore
      exact hmore

/-- Where a list may end or go on with a comma, nothing begins a value. -/
theorem closeList_value {c : Char} (hc : BeginsValue c) (s : List Char) :
    closeList (c :: s) = .error .trailingText (c :: s) := by
  rw [closeList, bind_of_ok (peek_cons hc.1 s)]
  generalize hnext : some c = next
  split
  · cases hnext
  · cases hnext; exact absurd rfl hc.2.2.1
  · cases hnext; exact absurd rfl hc.2.1
  · rfl

/-- Behind a comma, a list does not end. -/
theorem closeList_comma {b : List Char} (hb : IsBlank b) {c : Char} (hc : BeginsValue c)
    (s : List Char) : closeList (',' :: (b ++ c :: s)) = .error .trailingText (c :: s) := by
  calc closeList (',' :: (b ++ c :: s))
      = (advance >>= _) (',' :: (b ++ c :: s)) := bind_of_ok (peek_cons rfl _)
    _ = (peek >>= _) (b ++ c :: s) := bind_of_ok (advance_cons rfl _)
    _ = _ := bind_of_ok (peek_blank_cons hb hc.1 s)
    _ = .error .trailingText (c :: s) := ?_
  generalize hnext : some c = next
  split
  · cases hnext; exact absurd rfl hc.2.2.1
  · rfl

/-- A list ends behind its last item. -/
theorem comes_closeList (first : Bool) {b : List Char} (hb : IsBlank b) {items : List Padded}
    (hi : ∀ i ∈ items, IsValue i.core) :
    ∃ x, ∀ rest, closeList.Comes (rowFrom first b items ++ ']' :: rest) x rest := by
  -- an item that is left over is an error, with or without a comma before it
  cases items with
  | nil =>
    refine ⟨.ok (), fun rest => ?_⟩
    rw [rowFrom_nil]
    exact Comes.of_eq (closeList_bracket rest) (closeList_blank hb _)
  | cons i items =>
    -- neither an item nor a comma and an item may stand here
    obtain ⟨c, t, hct, hc⟩ := exists_head_value (hi i List.mem_cons_self)
    refine ⟨.error .trailingText, fun rest =>
      ⟨c :: (t ++ (rowFrom false i.after items ++ ']' :: rest)), ?_⟩⟩
    cases first with
    | true =>
      have hrow : rowFrom true b (i :: items) ++ ']' :: rest
          = i.before ++ c :: (t ++ (rowFrom false i.after items ++ ']' :: rest)) := by
        rw [rowFrom_cons, hct]
        simp
      rw [hrow, closeList_blank i.blank_before]
      exact closeList_value hc _
    | false =>
      have hrow : rowFrom false b (i :: items) ++ ']' :: rest
          = b ++ (',' :: (i.before ++
            c :: (t ++ (rowFrom false i.after items ++ ']' :: rest)))) := by
        rw [rowFrom_cons, hct]
        simp
      rw [hrow, closeList_blank hb]
      exact closeList_comma i.blank_before hc _

/-- Reading an octet ends behind the item, or stops before something that begins a value. -/
def Halts (v : List Char) : Prop :=
  (∃ o, ∀ rest, EndsNumber rest → readOctet (v ++ rest) = .ok o rest) ∨
  ∃ e left, (∀ c ∈ left.head?, BeginsValue c) ∧
    ∀ rest, EndsNumber rest → readOctet (v ++ rest) = .error e (left ++ rest)

/-- From a lead that has been read to its end there is nothing more to read. -/
theorem halts_of_lead {v : List Char} {l : Lead}
    (hl : ∀ rest, EndsNumber rest → lead (v ++ rest) = .ok l rest) : Halts v := by
  -- an error too is raised only after all of the lead has been read
  cases ho : octet.ofLead l with
  | ok o =>
    refine Or.inl ⟨o, fun rest hr => ?_⟩
    rw [readOctet, bind_of_ok (hl rest hr), ho]
    rfl
  | error e =>
    refine Or.inr ⟨e, [], nofun, fun rest hr => ?_⟩
    rw [readOctet, bind_of_ok (hl rest hr), ho]
    rfl

/-- A bracket is left in place. -/
theorem halts_of_bracket {v : List Char} (h : IsValue v) {l : Lead} (hl : l = .list ∨ l = .object)
    (hlead : ∀ rest, lead (v ++ rest) = .ok l (v ++ rest)) : Halts v := by
  obtain ⟨e, he⟩ := octet.ofLead_bracket hl
  obtain ⟨c, t, hct, hc⟩ := exists_head_value h
  refine Or.inr ⟨e, v, ?_, fun rest _ => ?_⟩
  · rw [hct]
    rintro _ ⟨⟩
    exact hc
  · rw [readOctet, bind_of_ok (hlead rest), he]
    rfl

/-- Reading an octet halts at every value, unless that is a text that stands for nothing. -/
theorem halts_of_isValue {v : List Char} (h : IsValue v)
    (ht : ∀ inner, v = quotedText inner → IsInner inner →
      ∃ t, Reader.text.run (inner ++ ['"']) = .ok t) : Halts v := by
  -- over the grammar: only a text in which half a character is missing does not halt
  cases h with
  | list blank values =>
    exact halts_of_bracket (.list blank values) (Or.inl rfl) (lead_list_text _ _)
  | object blank keys values =>
    exact halts_of_bracket (.object blank keys values) (Or.inr rfl) (lead_object_text _ _)
  | scalar h =>
    cases h with
    | null => exact halts_of_lead fun rest _ => lead_null rest
    | yes => exact halts_of_lead fun rest _ => lead_true rest
    | no => exact halts_of_lead fun rest _ => lead_false rest
    | numeral hn =>
      rcases lead_numeral hn with ⟨n, hn⟩ | ⟨ds, hds, hn⟩
      · exact halts_of_lead hn
      · refine Or.inr ⟨.numberTooLarge, ds, ?_, fun rest hr => bind_of_error (hn rest hr)⟩
        intro c hc
        exact beginsValue_of_isDigit (hds c (List.mem_of_mem_head? hc))
    | @text inner hin =>
      obtain ⟨t, ht⟩ := ht inner rfl hin
      have hy := yields_lead_text hin
      rw [(settles_text hin).run_eq] at ht
      rw [ht] at hy
      exact halts_of_lead hy

/-- The end of a list behind twenty octets: nothing, another octet, or something else. -/
theorem comes_endOfOctets {b : List Char} (hb : IsBlank b) {items : List Padded}
    (hi : ∀ i ∈ items, IsValue i.core)
    (ht : ∀ i inner, items.head? = some i → i.core = quotedText inner → IsInner inner →
      ∃ t, Reader.text.run (inner ++ ['"']) = .ok t) :
    ∃ x, ∀ rest,
      (do refuseOctet; closeList).Comes (rowFrom false b items ++ ']' :: rest) x rest := by
  cases items with
  | nil =>
    refine ⟨.ok (), fun rest => ?_⟩
    have hitem : (do if ← anotherItem false then let _ ← readOctet; pure true else pure false :
        Reader Bool) (rowFrom false b [] ++ ']' :: rest) = .ok false (']' :: rest) :=
      bind_of_ok (anotherItem_nil false hb rest)
    have hrefuse : refuseOctet (rowFrom false b [] ++ ']' :: rest) = .ok () (']' :: rest) := by
      unfold refuseOctet
      rw [hitem]
    exact Comes.of_eq (closeList_bracket rest) (bind_of_ok hrefuse)
  | cons i items =>
    have hv := hi i List.mem_cons_self
    obtain ⟨c, t, hct, hc⟩ := exists_head_value hv
    have hmore := fun rest => endsNumber_row i.blank_after items (endsNumber_bracket rest)
    have hitem : ∀ rest,
        (do if ← anotherItem false then let _ ← readOctet; pure true else pure false :
          Reader Bool) (rowFrom false b (i :: items) ++ ']' :: rest)
          = (do let _ ← readOctet; pure true : Reader Bool)
            (i.core ++ (rowFrom false i.after items ++ ']' :: rest)) :=
      fun rest => bind_of_ok (anotherItem_cons false hb hct hc items rest)
    -- an octet too many is an error of its own, and other items are left to `closeList`
    rcases halts_of_isValue hv (ht i · rfl) with ⟨o, ho⟩ | ⟨e, left, hleft, he⟩
    · refine ⟨.error (.wrongLength 21 .twentyOctets), fun rest =>
        ⟨rowFrom false i.after items ++ ']' :: rest, bind_of_error ?_⟩⟩
      have hread := ho _ (hmore rest)
      unfold refuseOctet
      rw [hitem, bind_of_ok hread]
      rfl
    · have hrefuse : ∀ rest, refuseOctet (rowFrom false b (i :: items) ++ ']' :: rest)
          = .ok () (left ++ (rowFrom false i.after items ++ ']' :: rest)) := by
        intro rest
        have hread := he _ (hmore rest)
        unfold refuseOctet
        rw [hitem, bind_of_error hread]
      cases left with
      | nil =>
        obtain ⟨x, hx⟩ :=
          comes_closeList false i.blank_after fun j hj => hi j (List.mem_cons_of_mem i hj)
        exact ⟨x, fun rest => (hx rest).of_eq (bind_of_ok (hrefuse rest))⟩
      | cons d left =>
        have hclose := closeList_value (hleft d rfl)
        refine ⟨.error .trailingText, fun rest => ?_⟩
        exact Comes.of_eq ⟨_, hclose _⟩ (bind_of_ok (hrefuse rest))

/-- What becomes of octets that have been read. -/
def addressOf (octets : List UInt8) : Except Error Address :=
  match Address.ofOctets? octets with
  | some a => .ok a
  | none => .error (.wrongLength octets.length .twentyOctets)

/-- **A list of octets** comes to one thing, if the item behind the twentieth keeps its place. -/
theorem settles_octets {blanks : List Char} {items : List Padded} (hb : IsBlank blanks)
    (hi : ∀ i ∈ items, IsValue i.core)
    (ht : ∀ i inner, items[20]? = some i → i.core = quotedText inner → IsInner inner →
      ∃ t, Reader.text.run (inner ++ ['"']) = .ok t) :
    readAddress.Settles (listText blanks items) := by
  obtain ⟨x, b, hb', hx⟩ := comes_readOctets 20 0 hb hi
  obtain ⟨y, hy⟩ := comes_endOfOctets hb' (fun i h => hi i (List.mem_of_mem_drop h))
    fun i inner h => ht i inner (by rw [← List.head?_drop]; exact h)
  -- behind its bracket a list is read in three steps
  have hlist : ∀ rest, readAddress (listText blanks items ++ rest) = (do
      let octets ← readOctets 20 0
      (do refuseOctet; closeList : Reader Unit)
      accept (addressOf octets) : Reader Address)
        (rowFrom true blanks items ++ ']' :: rest) := by
    intro rest
    rw [listText_append]
    refine Eq.trans (bind_lead_list rfl _) ?_
    refine congrFun (congrArg (readOctets 20 0 >>= ·) (funext fun octets => ?_)) _
    -- the octets that were read are an address or too few
    have haccept : accept (addressOf octets) = (match Address.ofOctets? octets with
        | some a => pure a
        | none => throw (.wrongLength octets.length .twentyOctets) : Reader Address) := by
      unfold addressOf
      cases Address.ofOctets? octets <;> rfl
    rw [haccept]
    exact (bind_assoc refuseOctet (fun _ => closeList) _).symm
  refine Yields.settles (x := x >>= fun octets => y >>= fun _ => addressOf octets) fun rest _ => ?_
  refine Comes.of_eq ?_ (hlist rest)
  refine (hx rest).bind fun octets _ => ?_
  exact (hy rest).bind fun _ _ => comes_accept (addressOf octets) rest

/-- **The value of a member** comes to one thing whatever follows it. -/
theorem settles_read (k : Kind) {v : List Char} (h : IsValue v)
    (hp : k = .address → KeepsPlace v) : k.read.Settles v := by
  -- only an address looks at a list, and this list is the one that has to keep its place
  by_cases hk : k = .address → lead.outcome v ≠ .ok .list
  · exact (k.yields_read h hk).settles
  · -- an address that is written as a list
    obtain ⟨rfl, hl⟩ := Classical.not_imp.mp hk
    have hlist := Classical.not_not.mp hl
    cases hp rfl with
    | list blank values extra => exact settles_octets blank values extra
    | other head => exact absurd hlist (outcome_lead_ne_list h head)

/-- A value that was kept is looked at as the text is, but for an address that is a list. -/
theorem ofValue_eq (k : Kind) {w : Value} (h : k = .address → w.lead ≠ .list) :
    k.ofValue w = k.ofLead w.lead := by
  cases k with
  | address =>
    cases w with
    | list => exact absurd rfl (h rfl)
    | _ => rfl
  | _ => rfl

/-- A value of which a kind makes something can be kept. -/
theorem exists_kept_of_read (k : Kind) {v : List Char} (h : IsValue v)
    (hk : k = .address → lead.outcome v ≠ .ok .list) {a : k.Carrier}
    (ha : k.read.outcome v = .ok a) (depth : Nat) : ∃ w, (value depth).outcome v = .ok w := by
  rw [(k.yields_read h hk).outcome_eq] at ha
  -- no kind makes anything of a bracket, so that `v` is a scalar
  have hbracket : ∀ l, l = .list ∨ l = .object → lead.outcome v ≠ .ok l := by
    intro l hl hv
    obtain ⟨e, he⟩ := k.ofLead_bracket hl
    rw [hv] at ha
    exact nomatch he.symm.trans ha
  -- and a scalar can always be kept
  cases h with
  | scalar h =>
    rw [(yields_value_scalar h depth).outcome_eq]
    cases hl : lead.outcome v with
    | error e => rw [hl] at ha; cases ha
    | ok l => exact ⟨_, rfl⟩
  | list => exact absurd (outcome_lead_list _ _) (hbracket .list (Or.inl rfl))
  | object => exact absurd (outcome_lead_object _ _) (hbracket .object (Or.inr rfl))

/-- A value may have blanks before it, whatever its kind. -/
theorem read_blank (k : Kind) {b : List Char} (hb : IsBlank b) (s : List Char) :
    k.read (b ++ s) = k.read s := by
  cases k <;> exact bind_congr (lead_blank hb s)

end Kind

/-! ### Drafts -/

namespace Draft

/-- A draft with the value `v` under `key` in it, if a member has that key; else as it was. -/
def put : (fs : List Field) → Draft fs → String → List Char → Except Error (Draft fs)
  | [], draft, _, _ => .ok draft
  | f :: fs, (slot, draft), key, v =>
    if key = f.name then
      match slot with
      | some _ => .error (.duplicateMember f.name)
      | none => (f.kind.read.outcome v).map fun a => (some a, draft)
    else (put fs draft key v).map fun draft => (slot, draft)

/-- **A member of a draft** comes to one thing whatever follows it. -/
theorem yields_put {m : Member} (hm : IsValue m.value.core) {key : String} {fs : List Field}
    (hp : ∀ f ∈ fs, f.kind = .address → key = f.name → KeepsPlace m.value.core)
    (draft : Draft fs) :
    (member fs draft key).Yields m.valuePart (put fs draft key m.value.core) := by
  induction fs with
  | nil => exact (yields_skip hm m.value.blank_before).colon
  | cons f fs ih =>
    obtain ⟨slot, draft⟩ := draft
    unfold member put
    -- the field of this name, or one of those after it
    by_cases hk : key = f.name
    · rw [if_pos hk, if_pos hk]
      cases slot with
      | some w => exact fun rest _ => ⟨_, rfl⟩
      | none =>
        have hread := f.kind.settles_read hm fun ha => hp f List.mem_cons_self ha hk
        have hblank := hread.blank fun s => f.kind.read_blank m.value.blank_before s
        have hvalue : (do
            let v ← f.kind.read
            pure (some v, draft) : Reader (Draft (f :: fs))).Yields
            (m.value.before ++ m.value.core)
            ((f.kind.read.outcome m.value.core).map fun v => (some v, draft)) :=
          hblank.map fun v => (some v, draft)
        exact hvalue.colon
    · rw [if_neg hk, if_neg hk]
      exact (ih (fun g hg => hp g (List.mem_cons_of_mem f hg)) draft).map fun draft => (slot, draft)

/-- A member whose key is that of no field changes nothing. -/
theorem put_of_foreign {key : String} {fs : List Field} (hk : ∀ f ∈ fs, key ≠ f.name)
    (draft : Draft fs) (v : List Char) : put fs draft key v = .ok draft := by
  -- no field takes it, from the first one on
  induction fs with
  | nil => rfl
  | cons f fs ih =>
    obtain ⟨slot, draft⟩ := draft
    unfold put
    rw [if_neg (hk f List.mem_cons_self), ih fun g hg => hk g (List.mem_cons_of_mem f hg)]
    rfl

/-- **A member that was kept** is taken into a draft as the value that it was kept as. -/
theorem put_of_kept {v : List Char} (hv : IsValue v) {key : String} {fs : List Field}
    (hl : ∀ f ∈ fs, f.kind = .address → key = f.name → lead.outcome v ≠ .ok .list) {depth : Nat}
    {w : Value} (hw : (value depth).outcome v = .ok w) (draft : Draft fs) :
    put fs draft key v = insert fs draft key w := by
  have hlead := lead_of_value hv hw
  -- field by field, as `put` and `insert` go
  induction fs with
  | nil => rfl
  | cons f fs ih =>
    obtain ⟨slot, draft⟩ := draft
    unfold put insert
    by_cases hk : key = f.name
    · rw [if_pos hk, if_pos hk]
      cases slot with
      | some w => rfl
      | none =>
        have hne := fun ha => hl f List.mem_cons_self ha hk
        have hread := (f.kind.yields_read hv hne).outcome_eq
        rw [hlead] at hne hread
        rw [f.kind.ofValue_eq fun ha hw => hne ha (congrArg Except.ok hw), hread]
        rfl
    · rw [if_neg hk, if_neg hk, ih fun g hg => hl g (List.mem_cons_of_mem f hg)]
      rfl

/-- The key of the first field finds its place empty. -/
theorem put_first {f : Field} {fs : List Field} {key : String} (hk : key = f.name)
    {slot : Option f.kind.Carrier} {draft : Draft fs} {draft' : Draft (f :: fs)} {v : List Char} :
    put (f :: fs) (slot, draft) key v = .ok draft' ↔
      slot = none ∧ ∃ a, f.kind.read.outcome v = .ok a ∧ draft' = (some a, draft) := by
  unfold put
  rw [if_pos hk]
  cases slot with
  | some w => simp
  | none => cases f.kind.read.outcome v <;> simp [Except.map, eq_comm]

/-- Another key goes on to the other fields. -/
theorem put_other {f : Field} {fs : List Field} {key : String} (hk : key ≠ f.name)
    {slot : Option f.kind.Carrier} {draft : Draft fs} {draft' : Draft (f :: fs)} {v : List Char} :
    put (f :: fs) (slot, draft) key v = .ok draft' ↔
      ∃ more, put fs draft key v = .ok more ∧ draft' = (slot, more) := by
  have hput : put (f :: fs) (slot, draft) key v
      = (put fs draft key v).map fun draft => (slot, draft) := if_neg hk
  rw [hput]
  cases put fs draft key v <;> simp [Except.map, eq_comm]

/-- **The order of two members** does not matter to a draft that takes both. -/
theorem put_comm {fs : List Field} {draft draft₁ draft₂ : Draft fs} {key key' : String}
    {v v' : List Char} (h : put fs draft key v = .ok draft₁)
    (h' : put fs draft₁ key' v' = .ok draft₂) :
    ∃ draft₁', put fs draft key' v' = .ok draft₁' ∧ put fs draft₁' key v = .ok draft₂ := by
  induction fs with
  | nil => exact ⟨(), rfl, rfl⟩
  | cons f fs ih =>
    obtain ⟨slot, draft⟩ := draft
    -- whether the first field is the one of either key
    by_cases hk : key = f.name <;> by_cases hk' : key' = f.name
    · -- the place is filled by the first of them
      obtain ⟨-, a, -, rfl⟩ := (put_first hk).mp h
      obtain ⟨hfull, -⟩ := (put_first hk').mp h'
      cases hfull
    · obtain ⟨rfl, a, ha, rfl⟩ := (put_first hk).mp h
      obtain ⟨more, hmore, rfl⟩ := (put_other hk').mp h'
      exact ⟨(none, more), (put_other hk').mpr ⟨more, hmore, rfl⟩,
        (put_first hk).mpr ⟨rfl, a, ha, rfl⟩⟩
    · obtain ⟨more, hmore, rfl⟩ := (put_other hk).mp h
      obtain ⟨rfl, a, ha, rfl⟩ := (put_first hk').mp h'
      exact ⟨(some a, draft), (put_first hk').mpr ⟨rfl, a, ha, rfl⟩,
        (put_other hk).mpr ⟨more, hmore, rfl⟩⟩
    · obtain ⟨more, hmore, rfl⟩ := (put_other hk).mp h
      obtain ⟨more', hmore', rfl⟩ := (put_other hk').mp h'
      obtain ⟨between, hbetween, hlast⟩ := ih hmore hmore'
      exact ⟨(slot, between), (put_other hk').mpr ⟨between, hbetween, rfl⟩,
        (put_other hk).mpr ⟨more', hlast, rfl⟩⟩

/-- What a field has to make of the value that is put in under its key. -/
theorem exists_read_of_put {fs : List Field} {draft draft' : Draft fs} {key : String}
    {v : List Char} (h : put fs draft key v = .ok draft') (hk : ∃ f ∈ fs, key = f.name) :
    ∃ f ∈ fs, key = f.name ∧ ∃ a, f.kind.read.outcome v = .ok a := by
  induction fs with
  | nil =>
    obtain ⟨f, hf, -⟩ := hk
    cases hf
  | cons g fs ih =>
    obtain ⟨slot, draft⟩ := draft
    -- the first field with this name is the one that the value is put in
    by_cases hg : key = g.name
    · obtain ⟨-, a, ha, -⟩ := (put_first hg).mp h
      exact ⟨g, List.mem_cons_self, hg, a, ha⟩
    · obtain ⟨more, hmore, -⟩ := (put_other hg).mp h
      obtain ⟨f, hf, hkey⟩ := hk
      have hrest : ∃ f ∈ fs, key = f.name := by
        rcases List.mem_cons.mp hf with rfl | hf
        · exact absurd hkey hg
        · exact ⟨f, hf, hkey⟩
      obtain ⟨f', hf', hread⟩ := ih hmore hrest
      exact ⟨f', List.mem_cons_of_mem g hf', hread⟩

end Draft

end WalletPanel.Wire
