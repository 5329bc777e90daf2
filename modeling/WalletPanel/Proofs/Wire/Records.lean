import WalletPanel.Proofs.Time.Timestamps
import WalletPanel.Proofs.Wallet.Addresses
import WalletPanel.Proofs.Wire.Objects

/-!
# Records that are read back

A record is written as its members are, and read into a draft that has a place for each of them.
That a record which was written is read back (`Schema.parse_write`) holds for every schema in which
no two members have the same key: the draft then takes each value in where it belongs
(`gathers_row`), and what was left out is what a missing member stands for.
-/

namespace WalletPanel.Wire

/-! ### Members by kind -/

namespace Kind

/-- The value of a member for a reader who does not know its kind. -/
def valueOf : (k : Kind) → k.Carrier → Value
  | text, s => .text s
  | octet, n => .number (.natural n.toNat)
  | word, n => .number (.natural n.toNat)
  | address, a => .text a.plain
  | moment, some t => .text (String.ofList t.text)
  | moment, none => .null

/-- What the value of a member begins with stands for it. -/
theorem ofLead_valueOf (k : Kind) (v : k.Carrier) : ofLead k (k.valueOf v).lead = .ok v := by
  -- kind by kind: numbers fit their types, and the forms of addresses and timestamps are read back
  cases k with
  | text => rfl
  | octet =>
    have hn : wholeBelow 256 .octet (.number (.natural v.toNat)) = .ok v.toNat :=
      if_pos v.toNat_lt
    change (wholeBelow 256 .octet (.number (.natural v.toNat))).map Nat.toUInt8 = .ok v
    rw [hn]
    exact congrArg Except.ok UInt8.ofNat_toNat
  | word =>
    have hn : wholeBelow (Nat.pow 2 64) .word (.number (.natural v.toNat)) = .ok v.toNat :=
      if_pos v.toNat_lt
    change (wholeBelow (Nat.pow 2 64) .word (.number (.natural v.toNat))).map Nat.toUInt64 = .ok v
    rw [hn]
    exact congrArg Except.ok UInt64.ofNat_toNat
  | address =>
    have ho : ∀ s, ofLead address (.text s) = (Address.parse s).mapError Error.badAddress :=
      fun _ => rfl
    rw [valueOf, Value.lead, ho, v.parse_plain]
    rfl
  | moment =>
    have ho : ∀ s, ofLead moment (.text s)
        = ((Timestamp.parse s.toList).map some).mapError Error.badMoment := fun _ => rfl
    cases v with
    | none => rfl
    | some t =>
      rw [valueOf, Value.lead, ho, String.toList_ofList, t.parse_text]
      rfl

/-- A text in which nothing has to be escaped is written as it is. -/
theorem writeText_plain {cs : List Char} (h : ∀ c ∈ cs, escape c = [c]) :
    writeText (String.ofList cs) = '"' :: cs ++ ['"'] := by
  -- so nothing becomes longer
  have hf : cs.flatMap escape = cs := by
    induction cs with
    | nil => rfl
    | cons c cs ih =>
      rw [List.flatMap_cons, h c List.mem_cons_self, ih fun d hd => h d (List.mem_cons_of_mem c hd)]
      rfl
  rw [writeText, String.toList_ofList, hf]

/-- A digit needs no escape. -/
theorem escape_of_isDigit {c : Char} (h : c.isDigit = true) : escape c = [c] := by
  have hne : ∀ d : Char, d.isDigit = false → c ≠ d := by
    rintro d hd rfl
    rw [hd] at h
    cases h
  have hn : ¬ c.toNat < 0x20 := by
    have : 48 ≤ c.toNat := (Char.isDigit_iff_toNat.mp h).1
    omega
  -- a digit is none of the characters that are escaped
  unfold escape
  rw [if_neg (hne _ rfl), if_neg (hne _ rfl), if_neg (hne _ rfl), if_neg (hne _ rfl),
    if_neg (hne _ rfl), if_neg (hne _ rfl), if_neg (hne _ rfl), if_neg hn]

/-- **The value of a member** that was written begins, and ends, with what it should. -/
theorem lead_write {k : Kind} {v : k.Carrier} {written rest : List Char}
    (h : k.write v = some written) (hr : EndsNumber rest) :
    Reader.lead (written ++ rest) = .ok (k.valueOf v).lead rest := by
  -- texts and numbers, with addresses and timestamps written as texts
  cases k with
  | text => cases h; exact Reader.lead_text v rest
  | octet =>
    cases h
    exact Reader.lead_decimal (Nat.lt_trans v.toNat_lt (by decide)) hr
  | word => cases h; exact Reader.lead_decimal v.toNat_lt hr
  | address => cases h; exact Reader.lead_text v.plain rest
  | moment =>
    cases v with
    | none => cases h
    | some t =>
      cases h
      -- a timestamp is written without a look for what has to be escaped, since nothing has to be
      have hplain : ∀ c ∈ t.text, escape c = [c] := by
        intro c hc
        rcases Timestamp.isDigit_or_mark_of_mem_text hc with hd | hm
        · exact escape_of_isDigit hd
        · simp only [List.mem_cons, List.not_mem_nil, or_false] at hm
          rcases hm with rfl | rfl | rfl | rfl | rfl | rfl <;> rfl
      rw [← writeText_plain hplain]
      exact Reader.lead_text _ rest

/-- What is left out is what a missing member stands for. -/
theorem absent_of_write {k : Kind} {v : k.Carrier} (h : k.write v = none) : k.absent = some v := by
  -- only a timestamp may be left out
  cases k with
  | moment =>
    cases v with
    | none => rfl
    | some t => cases h
  | _ => cases h

/-- A value that is there already is accepted. -/
theorem accept_ok {α : Type} {x : Except Error α} {a : α} (h : x = .ok a) (s : List Char) :
    accept x s = .ok a s := by
  rw [h]
  rfl

/-- The value of a member that was written is read back. -/
theorem read_write {k : Kind} {v : k.Carrier} {written rest : List Char}
    (h : k.write v = some written) (hr : EndsNumber rest) :
    k.read (written ++ rest) = .ok v rest := by
  have hlead := lead_write h hr
  have hof := accept_ok (k.ofLead_valueOf v) rest
  cases k with
  -- an address is looked at first, for it may also be a list
  | address =>
    rw [read, readAddress, Reader.bind_of_ok hlead]
    exact hof
  | _ =>
    rw [read, Reader.bind_of_ok hlead]
    exact hof

end Kind

/-! ### Rows -/

/-- The members of a row that are written, each as its key and its value. -/
def rowMembers : (fs : List Field) → Row fs → List (String × List Char)
  | [], _ => []
  | f :: fs, (v, row) =>
    match f.kind.write v with
    | some written => (f.name, written) :: rowMembers fs row
    | none => rowMembers fs row

/-- What is written of a row, member by member. -/
theorem writeMembers_eq (fs : List Field) (row : Row fs) :
    writeMembers fs row = (rowMembers fs row).map memberText := by
  -- a member that is left out is in neither
  induction fs with
  | nil => rfl
  | cons f fs ih =>
    obtain ⟨v, row⟩ := row
    unfold writeMembers rowMembers
    cases f.kind.write v with
    | none => exact ih row
    | some written => exact congrArg (_ :: ·) (ih row)

/-- The keys that are written are keys of the fields. -/
theorem key_mem_rowMembers {fs : List Field} {row : Row fs} {m : String × List Char}
    (h : m ∈ rowMembers fs row) : m.1 ∈ fs.map (·.name) := by
  -- the first field, if it is written, or one of the others
  induction fs with
  | nil => cases h
  | cons f fs ih =>
    obtain ⟨v, row⟩ := row
    unfold rowMembers at h
    split at h
    · rcases List.mem_cons.mp h with rfl | h
      · exact List.mem_cons_self
      · exact List.mem_cons_of_mem _ (ih h)
    · exact List.mem_cons_of_mem _ (ih h)

namespace Draft

/-- The draft that has what is written of a row. -/
def ofRow : (fs : List Field) → Row fs → Draft fs
  | [], _ => ()
  | f :: fs, (v, row) => (if (f.kind.write v).isSome then some v else none, ofRow fs row)

/-- What is missing in the draft of a row is what a missing member stands for. -/
theorem complete_ofRow (fs : List Field) (row : Row fs) : complete fs (ofRow fs row) = .ok row := by
  -- field by field
  induction fs with
  | nil => rfl
  | cons f fs ih =>
    obtain ⟨v, row⟩ := row
    unfold complete ofRow
    dsimp only
    rw [ih row]
    cases hw : f.kind.write v with
    | none =>
      rw [if_neg (by decide)]
      dsimp only
      rw [Kind.absent_of_write hw]
      rfl
    | some written => rfl

/-- Members whose keys are not the first field's go on to the other fields. -/
theorem gathers_cons {f : Field} {fs : List Field} {slot : Option f.kind.Carrier} {d d' : Draft fs}
    {members : List (String × List Char)} (h : Reader.Gathers (member fs) d members d')
    (hne : ∀ m ∈ members, m.1 ≠ f.name) :
    Reader.Gathers (member (f :: fs)) (slot, d) members (slot, d') := by
  induction h with
  | done d => exact .done (slot, d)
  | @step d e d' key written members taken more ih =>
    -- the first field is passed by, and its place stays as it is
    refine .step (h := (slot, e)) (fun rest hr => ?_)
      (ih fun m hm => hne m (List.mem_cons_of_mem _ hm))
    have hk : ¬ key = f.name := hne (key, written) List.mem_cons_self
    unfold member
    rw [if_neg hk]
    exact Reader.bind_of_ok (taken rest hr)

/-- **The members of a row** are gathered into the draft that has what is written of it, if no two
of the fields have the same key. -/
theorem gathers_row {fs : List Field} (hd : (fs.map (·.name)).Nodup) (row : Row fs) :
    Reader.Gathers (member fs) (empty fs) (rowMembers fs row) (ofRow fs row) := by
  induction fs with
  | nil => exact .done ()
  | cons f fs ih =>
    obtain ⟨v, row⟩ := row
    obtain ⟨hf, hfs⟩ := List.nodup_cons.mp hd
    have hne : ∀ m ∈ rowMembers fs row, m.1 ≠ f.name := by
      intro m hm he
      have hk := key_mem_rowMembers hm
      rw [he] at hk
      exact hf hk
    -- the members after the first do not come near its place, be it filled or not
    have hrest : ∀ slot, Reader.Gathers (member (f :: fs)) (slot, empty fs) (rowMembers fs row)
        (slot, ofRow fs row) := fun slot => gathers_cons (ih hfs row) hne
    unfold rowMembers ofRow empty
    cases hw : f.kind.write v with
    | none => exact hrest none
    | some written =>
      -- the place is empty before, so that the key is not refused as a second one
      refine .step (h := (some v, empty fs)) (fun rest hr => ?_) (hrest (some v))
      unfold member
      rw [if_pos rfl]
      calc (Reader.colon >>= _) (':' :: (written ++ rest))
          = (f.kind.read >>= _) (written ++ rest) := Reader.bind_of_ok (Reader.colon_cons _)
        _ = .ok (some v, empty fs) rest := Reader.bind_of_ok (Kind.read_write hw hr)

end Draft

/-! ### Records -/

namespace Schema

variable {α : Type} {s : Schema α}

/-- An object that was written is read back after its opening bracket. -/
theorem read_write (hd : (s.fields.map (·.name)).Nodup) (a : α) (rest : List Char) :
    s.read (s.write a ++ rest) = .ok a rest := by
  have hw : s.write a ++ rest
      = '\x7b' ::
        (joined ((rowMembers s.fields (s.toRow a)).map memberText) ++ '\x7d' :: rest) := by
    unfold write
    rw [writeMembers_eq, List.cons_append, List.cons_append, List.append_assoc]
    rfl
  have hmembers := Reader.membersFrom_joined (Draft.gathers_row hd (s.toRow a))
    (Reader.length_lt_fuel _ ('\x7d' :: rest)) rest
  have hrow := Kind.accept_ok (Draft.complete_ofRow s.fields (s.toRow a))
  have hobject : s.readObject
      (joined ((rowMembers s.fields (s.toRow a)).map memberText) ++ '\x7d' :: rest)
        = .ok a rest := by
    -- the draft of the row is gathered, completed to the row and made into the record
    calc s.readObject (joined ((rowMembers s.fields (s.toRow a)).map memberText) ++ '\x7d' :: rest)
        = (Reader.membersFrom Reader.text _ _ true _ >>= _) _ := Reader.bind_get _
      _ = (Kind.accept _ >>= _) ('\x7d' :: rest) := Reader.bind_of_ok hmembers
      _ = (Reader.closeObject >>= _) ('\x7d' :: rest) := Reader.bind_of_ok (hrow _)
      _ = .ok (s.ofRow (s.toRow a)) rest := Reader.bind_of_ok (Reader.closeObject_brace rest)
      _ = .ok a rest := by rw [s.ofRow_toRow]
  rw [hw]
  calc s.read ('\x7b' :: (joined ((rowMembers s.fields (s.toRow a)).map memberText)
          ++ '\x7d' :: rest))
      = s.readObject (joined ((rowMembers s.fields (s.toRow a)).map memberText)
          ++ '\x7d' :: rest) := Reader.bind_lead_object rfl _
    _ = .ok a rest := hobject

end Schema

/-- A reader that takes a whole text leaves nothing that could be at fault. -/
theorem Reader.run_of_ok {α : Type} {r : Reader α} {s : List Char} {a : α} (h : r s = .ok a []) :
    r.run s = .ok a := by
  have hr : (do let a ← r; finish; pure a : Reader α) s = .ok a [] := bind_of_ok h
  unfold run
  rw [hr]

/-- **A record that was written** is read back. -/
theorem Schema.parse_write {α : Type} {s : Schema α} (hd : (s.fields.map (·.name)).Nodup) (a : α) :
    s.parse (String.ofList (s.write a)) = .ok a := by
  have h := s.read_write hd a []
  rw [List.append_nil] at h
  unfold parse
  rw [String.toList_ofList]
  exact Reader.run_of_ok h

end WalletPanel.Wire
