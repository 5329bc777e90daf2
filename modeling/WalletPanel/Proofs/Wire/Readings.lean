import WalletPanel.Proofs.Wire.Octets

/-!
# Records that are read

An object that is read as a record comes to what its members are gathered to, one after the other,
and to the record that the draft then makes (`Schema.parse_object`). With this a property of all
objects is one of folds over members, and no more of readers or places. Records that are written as
lists are read as well; they only have to come to one thing (`Schema.Steady.settles`).
-/

namespace WalletPanel.Wire

open Reader

variable {α : Type} (s : Schema α)

/-! ### Objects -/

/-- The record of a draft. -/
def Schema.ofDraft (draft : Draft s.fields) : Except Error α :=
  (Draft.complete s.fields draft).map s.ofRow

/-- A draft with a member taken in under its key, which has to be a text. -/
def Schema.take (draft : Draft s.fields) (m : Member) : Except Error (Draft s.fields) := do
  let key ← m.name
  Draft.put s.fields draft key m.value.core

/-- The draft that members are gathered to. -/
def Schema.drafted (members : List Member) : Except Error (Draft s.fields) :=
  members.foldlM s.take (Draft.empty s.fields)

/-- A member whose value keeps its place, if it is an address of the record. -/
def Schema.KeepsPlace (m : Member) : Prop :=
  ∀ f ∈ s.fields, f.kind = .address → m.name = .ok f.name → Wire.KeepsPlace m.value.core

variable {s}

/-- A member of an object is taken into the draft as `Schema.take` says. -/
theorem Schema.yields_take {m : Member} (hm : m.WellFormed) (hp : s.KeepsPlace m)
    (draft : Draft s.fields) :
    (taking (Draft.member s.fields) draft).Yields m.tail (s.take draft m) := by
  refine Yields.taking hm.key fun key hkey => ?_
  refine Draft.yields_put hm.value (fun f hf ha hk => hp f hf ha ?_) draft
  rw [hkey, hk]

/-- **An object** comes to the record of what its members are gathered to. -/
theorem Schema.yields_object {blanks : List Char} {members : List Member} (hb : IsBlank blanks)
    (hm : ∀ m ∈ members, m.WellFormed) (hp : ∀ m ∈ members, s.KeepsPlace m) :
    s.read.Yields (objectText blanks members) (s.drafted members >>= s.ofDraft) := by
  intro rest _
  -- a missing member is found before the closing bracket
  have hrecord : ∀ draft : Draft s.fields, (do
      let row ← Kind.accept (Draft.complete s.fields draft)
      closeObject
      pure (s.ofRow row) : Reader α).Comes ('\x7d' :: rest) (s.ofDraft draft) rest := by
    intro draft
    unfold Schema.ofDraft
    cases Draft.complete s.fields draft with
    | error e => exact ⟨_, rfl⟩
    | ok row =>
      show (do closeObject; pure (s.ofRow row) : Reader α) ('\x7d' :: rest) = .ok (s.ofRow row) rest
      exact bind_of_ok (closeObject_brace rest)
  rw [objectText_append]
  refine Comes.of_eq ?_ (bind_lead_object rfl _)
  exact comes_gathered (fun m h => yields_take (hm m h) (hp m h)) hb _ hrecord

/-- A record may have blanks before it. -/
theorem Schema.read_blank {b : List Char} (hb : IsBlank b) (t : List Char) :
    s.read (b ++ t) = s.read t :=
  bind_congr (lead_blank hb t)

/-- **A text that is an object.** -/
theorem Schema.parse_object {text : String} {members : List Member} (h : IsObjectOf members text)
    (hp : ∀ m ∈ members, s.KeepsPlace m) : s.parse text = s.drafted members >>= s.ofDraft := by
  obtain ⟨hm, before, blanks, after, hbefore, hb, hafter, rfl⟩ := h
  unfold Schema.parse
  rw [String.toList_ofList]
  exact (yields_object hb hm hp).run_eq (fun t => read_blank hbefore t) hafter

/-! ### The order of members -/

/-- Something that is done after something else was done. -/
theorem exists_of_bind {ε β γ : Type} {x : Except ε β} {f : β → Except ε γ} {c : γ}
    (h : (x >>= f) = .ok c) : ∃ b, x = .ok b ∧ f b = .ok c := by
  cases x with
  | error e => cases h
  | ok b => exact ⟨b, rfl, h⟩

/-- Everything that was taken in was taken in at some point. -/
theorem exists_step_of_foldlM {ε β σ : Type} {step : σ → β → Except ε σ} {l : List β} {g k : σ}
    (h : l.foldlM step g = .ok k) {b : β} (hb : b ∈ l) : ∃ g' k', step g' b = .ok k' := by
  -- the element is the first one, or one of those after it
  induction l generalizing g with
  | nil => cases hb
  | cons a l ih =>
    rw [List.foldlM_cons] at h
    obtain ⟨next, hnext, hmore⟩ := exists_of_bind h
    rcases List.mem_cons.mp hb with rfl | hb
    · exact ⟨g, next, hnext⟩
    · exact ih hmore hb

/-- Steps that can be exchanged, where both can be taken, can be taken in any order. -/
theorem foldlM_perm {ε β σ : Type} {step : σ → β → Except ε σ}
    (hs : ∀ g h k a b, step g a = .ok h → step h b = .ok k →
      ∃ h', step g b = .ok h' ∧ step h' a = .ok k) {l l' : List β} (hl : l.Perm l') {g k : σ}
    (h : l.foldlM step g = .ok k) : l'.foldlM step g = .ok k := by
  -- over how the row is rearranged: only two neighbours at a time change places
  induction hl generalizing g with
  | nil => exact h
  | cons a _ ih =>
    rw [List.foldlM_cons] at h ⊢
    obtain ⟨next, hnext, hmore⟩ := exists_of_bind h
    rw [hnext]
    exact ih hmore
  | swap a b l =>
    rw [List.foldlM_cons] at h
    obtain ⟨first, hfirst, h⟩ := exists_of_bind h
    rw [List.foldlM_cons] at h
    obtain ⟨second, hsecond, hmore⟩ := exists_of_bind h
    obtain ⟨first', hfirst', hsecond'⟩ := hs _ _ _ _ _ hfirst hsecond
    rw [List.foldlM_cons, hfirst']
    change (b :: l).foldlM step first' = .ok k
    rw [List.foldlM_cons, hsecond']
    exact hmore
  | trans _ _ ih ih' => exact ih' (ih h)

/-- Two members that are both taken in are taken in either order. -/
theorem Schema.take_comm (draft draft₁ draft₂ : Draft s.fields) (m m' : Member)
    (h : s.take draft m = .ok draft₁) (h' : s.take draft₁ m' = .ok draft₂) :
    ∃ draft₁', s.take draft m' = .ok draft₁' ∧ s.take draft₁' m = .ok draft₂ := by
  obtain ⟨key, hkey, hput⟩ := exists_of_bind h
  obtain ⟨key', hkey', hput'⟩ := exists_of_bind h'
  obtain ⟨between, hbetween, hlast⟩ := Draft.put_comm hput hput'
  unfold take
  rw [hkey, hkey']
  exact ⟨between, hbetween, hlast⟩

/-- **The order of members** does not matter to a record that an object is read as. -/
theorem Schema.parse_perm {text text' : String} {members members' : List Member}
    (h : IsObjectOf members text) (h' : IsObjectOf members' text') (hl : members.Perm members')
    (hp : ∀ m ∈ members, s.KeepsPlace m) {a : α} (ha : s.parse text = .ok a) :
    s.parse text' = .ok a := by
  rw [parse_object h hp] at ha
  rw [parse_object h' fun m hm => hp m (hl.mem_iff.mpr hm)]
  obtain ⟨draft, hdraft, hrecord⟩ := exists_of_bind ha
  have hdraft' : s.drafted members' = .ok draft := foldlM_perm take_comm hl hdraft
  rw [hdraft']
  exact hrecord

/-! ### Lists -/

/-- The values of a record that is written as a list are read up to the last member, or up to the
end of the list. -/
theorem comes_readRow (name : String) (total : Nat) (fs : List Field) (done : Nat) {b : List Char}
    (hb : IsBlank b) {items : List Padded} (hi : ∀ i ∈ items, IsValue i.core)
    (hp : ∀ p ∈ fs.zip items, p.1.kind = .address → KeepsPlace p.2.core) :
    ∃ x b' items', IsBlank b' ∧ (∀ i ∈ items', IsValue i.core) ∧
      ∀ rest, (readRow name total fs done).Comes (rowFrom (done = 0) b items ++ ']' :: rest) x
        (rowFrom (done + fs.length = 0) b' items' ++ ']' :: rest) := by
  -- field by field: each takes an item, or stands for what is missing
  induction fs generalizing done b items with
  | nil => exact ⟨.ok (), b, items, hb, hi, fun rest => rfl⟩
  | cons f fs ih =>
    have hdone : done + 1 + fs.length = done + (f :: fs).length := by
      rw [List.length_cons]
      omega
    cases items with
    | nil =>
      cases ha : f.kind.absent with
      | none =>
        refine ⟨.error (.wrongLength done (.recordOf name total)), b, [], hb, nofun, fun rest => ?_⟩
        refine ⟨']' :: rest, ?_⟩
        rw [readRow, bind_of_ok (anotherItem_nil _ hb rest), ha]
        rfl
      | some v =>
        -- the list has ended, and this member may be missing
        have hnone : ∀ p ∈ fs.zip ([] : List Padded),
            p.1.kind = .address → KeepsPlace p.2.core := by
          simp
        obtain ⟨x, b', items', hb', hi', hx⟩ := ih (done + 1) isBlank_nil
          (List.forall_mem_nil _) hnone
        refine ⟨x.map (v, ·), b', items', hb', hi', fun rest => ?_⟩
        have hmore := (hx rest).map (v, ·)
        rw [hdone] at hmore
        refine hmore.of_eq ?_
        rw [readRow, bind_of_ok (anotherItem_nil _ hb rest), ha]
        rfl
    | cons i items =>
      have hv := hi i List.mem_cons_self
      obtain ⟨c, t, hct, hc⟩ := exists_head_value hv
      obtain ⟨x, b', items', hb', hi', hx⟩ := ih (done + 1) i.blank_after
        (fun j hj => hi j (List.mem_cons_of_mem i hj))
        fun p hp' => hp p (List.mem_cons_of_mem _ hp')
      have hread := f.kind.settles_read hv (hp (f, i) List.mem_cons_self)
      refine ⟨f.kind.read.outcome i.core >>= fun v => x.map (v, ·), b', items', hb', hi',
        fun rest => ?_⟩
      have hvalue := hread _ (endsNumber_row i.blank_after items (endsNumber_bracket rest))
      refine Comes.of_eq ?_ (bind_of_ok (anotherItem_cons _ hb hct hc items rest))
      refine hvalue.bind fun v _ => ?_
      have hmore := (hx rest).map (v, ·)
      rw [hdone] at hmore
      exact hmore

/-- **A list** that is read as a record comes to one thing. -/
theorem Schema.settles_list {blanks : List Char} {items : List Padded} (hb : IsBlank blanks)
    (hi : ∀ i ∈ items, IsValue i.core)
    (hp : ∀ p ∈ s.fields.zip items, p.1.kind = .address → Wire.KeepsPlace p.2.core) :
    s.read.Settles (listText blanks items) := by
  obtain ⟨x, b, items', hb', hi', hx⟩ := comes_readRow s.name s.fields.length s.fields 0 hb hi hp
  obtain ⟨y, hy⟩ := Kind.comes_closeList (0 + s.fields.length = 0) hb' hi'
  refine Yields.settles (x := x >>= fun row => y >>= fun _ => .ok (s.ofRow row)) fun rest _ => ?_
  rw [listText_append]
  refine Comes.of_eq ?_ (bind_lead_list rfl _)
  refine (hx rest).bind fun row _ => ?_
  exact (hy rest).bind fun _ _ => comes_pure (s.ofRow row) rest

/-! ### Any values -/

variable (s) in
/-- A well-formed value in which no address of the record, wherever the record has it, loses its
place. -/
inductive Schema.Steady : List Char → Prop
  | scalar {v : List Char} (scalar : IsScalar v) : Steady v
  | list {blanks : List Char} {items : List Padded} (blank : IsBlank blanks)
      (values : ∀ i ∈ items, IsValue i.core)
      (keeps : ∀ p ∈ s.fields.zip items, p.1.kind = .address → Wire.KeepsPlace p.2.core) :
      Steady (listText blanks items)
  | object {blanks : List Char} {members : List Member} (blank : IsBlank blanks)
      (wellFormed : ∀ m ∈ members, m.WellFormed) (keeps : ∀ m ∈ members, s.KeepsPlace m) :
      Steady (objectText blanks members)

/-- **A value** that is read as a record comes to one thing. -/
theorem Schema.Steady.settles {v : List Char} (h : s.Steady v) : s.read.Settles v := by
  -- a scalar is no record, and the others are read as such
  cases h with
  | scalar h =>
    obtain ⟨hs, hlist, hobject⟩ := outcome_lead_scalar h
    refine Yields.settles (x := lead.outcome v >>= fun l => .error (.wrongType l (.record s.name)))
      fun rest hr => ?_
    refine (hs rest hr).bind fun l hl => ?_
    cases l with
    | list => exact absurd hl hlist
    | object => exact absurd hl hobject
    | _ => exact comes_throw _ _ _
  | list blank values keeps => exact settles_list blank values keeps
  | object blank wellFormed keeps => exact (yields_object blank wellFormed keeps).settles

end WalletPanel.Wire
