import WalletPanel.Proofs.Wire.Rows
import WalletPanel.Proofs.Wire.Values

/-!
# Members and values that are read

What a reader comes to at a member of an object is made of its key, read as a text (`Member.name`),
and of what becomes of the value under that key (`Reader.Yields.taking`). Any well-formed value can
be kept (`settles_value`), unless its brackets nest too deeply or it has a text or a number that
stands for nothing; then that is the outcome. What is kept begins as the value did
(`lead_of_value`), and this is all that a member's kind looks at (`Kind.yields_read`). Only an
address that is written as a list of octets is left aside here.
-/

namespace WalletPanel.Wire

/-- What the key of a member is, once it has been read. -/
def Member.name (m : Member) : Except Error String := Reader.text.run (m.key.core ++ ['"'])

/-- Whether the key of a member is read as this one. -/
def Member.isNamed (m : Member) (key : String) : Bool := m.name.toOption == some key

/-- A key that cannot be read names nothing. -/
theorem Member.isNamed_iff {m : Member} {key : String} :
    m.isNamed key = true ↔ m.name = .ok key := by
  unfold isNamed
  cases m.name with
  | error e => exact ⟨nofun, nofun⟩
  | ok k => simp [Except.toOption]

/-- The value that has nothing but a lead. -/
def Value.ofLead : Lead → Value
  | .null => .null
  | .bool b => .bool b
  | .number n => .number n
  | .text s => .text s
  | .list => .list []
  | .object => .object []

namespace Reader

variable {α β σ : Type}

/-! ### Members -/

/-- A part by itself comes to its outcome. -/
theorem Settles.run_eq {r : Reader α} {s : List Char} (h : r.Settles s) :
    r.run s = r.outcome s := by
  have hrun : r.run ([] ++ (s ++ [])) = r.outcome s := Yields.run_eq (fun _ => rfl) h isBlank_nil
  rw [List.append_nil] at hrun
  exact hrun

/-- The key of a member comes to its name, whatever follows its quote. -/
theorem yields_name {m : Member} (h : IsInner m.key.core) :
    text.Yields (m.key.core ++ ['"']) m.name := by
  have hs := settles_text h
  unfold Member.name
  rw [hs.run_eq]
  exact hs

/-- Blanks before a value that is read from its first character on. -/
theorem Yields.blank {r : Reader α} {b v : List Char} {x : Except Error α} (h : r.Yields v x)
    (hb : ∀ s, r (b ++ s) = r s) : r.Yields (b ++ v) x := by
  intro rest hr
  rw [List.append_assoc]
  exact (h rest hr).of_eq (hb _)

/-- **A member** is read as its key is and as its value is under that key. -/
theorem Yields.taking {member : σ → String → Reader σ} {g : σ} {m : Member}
    (hm : IsInner m.key.core) {x : String → Except Error σ}
    (h : ∀ k, m.name = .ok k → (member g k).Yields m.valuePart (x k)) :
    (taking member g).Yields m.tail (m.name >>= x) := by
  intro rest hr
  have htail : m.tail ++ rest = m.key.core ++ ['"'] ++ (m.valuePart ++ rest) := by
    simp [Member.tail]
  have hcolon : EndsNumber (m.valuePart ++ rest) := by
    unfold Member.valuePart
    rw [List.append_assoc]
    exact endsNumber_colon m.key.blank_after _
  rw [htail]
  exact (yields_name hm _ hcolon).bind fun k hk => h k hk rest hr

/-- The value of a member behind the colon. -/
theorem Yields.colon {r : Reader α} {m : Member} {x : Except Error α}
    (h : r.Yields (m.value.before ++ m.value.core) x) : (do colon; r).Yields m.valuePart x := by
  intro rest hr
  have hpart : m.valuePart ++ rest
      = m.key.after ++ (':' :: (m.value.before ++ m.value.core ++ rest)) := by
    simp [Member.valuePart]
  rw [hpart]
  have hcolon := colon_cons (m.value.before ++ m.value.core ++ rest)
  rw [← colon_blank m.key.blank_after] at hcolon
  exact (h rest hr).of_eq (bind_of_ok hcolon)

/-! ### Leads of values -/

/-- The bracket of an object is what is found of it. -/
theorem lead_object_text (blanks : List Char) (members : List Member) (rest : List Char) :
    lead (objectText blanks members ++ rest) = .ok .object (objectText blanks members ++ rest) :=
  lead_object _

/-- The bracket of a list is what is found of it. -/
theorem lead_list_text (blanks : List Char) (items : List Padded) (rest : List Char) :
    lead (listText blanks items ++ rest) = .ok .list (listText blanks items ++ rest) :=
  lead_list _

/-- What is read before a comma is an outcome. -/
theorem outcome_of_ok {r : Reader α} {s t : List Char} {a : α} (h : r (s ++ [',']) = .ok a t) :
    r.outcome s = .ok a := by
  unfold outcome
  rw [h]

/-- The lead of a list. -/
theorem outcome_lead_list (blanks : List Char) (items : List Padded) :
    lead.outcome (listText blanks items) = .ok .list :=
  outcome_of_ok (lead_list_text blanks items [','])

/-- The lead of an object. -/
theorem outcome_lead_object (blanks : List Char) (members : List Member) :
    lead.outcome (objectText blanks members) = .ok .object :=
  outcome_of_ok (lead_object_text blanks members [','])

/-- What is found of a scalar is no bracket. -/
theorem outcome_lead_scalar {v : List Char} (h : IsScalar v) :
    lead.Settles v ∧ lead.outcome v ≠ .ok .list ∧ lead.outcome v ≠ .ok .object := by
  obtain ⟨x, hx, hne⟩ := exists_lead h
  refine ⟨hx.settles, ?_⟩
  rw [hx.outcome_eq]
  exact ⟨fun he => (hne _ he).1 rfl, fun he => (hne _ he).2 rfl⟩

/-- What does not begin with the bracket of a list is none. -/
theorem outcome_lead_ne_list {v : List Char} (h : IsValue v) (hv : v.head? ≠ some '[') :
    lead.outcome v ≠ .ok .list := by
  -- each form of a value begins with another character than a list, or is one
  cases h with
  | scalar h => exact (outcome_lead_scalar h).2.1
  | list => exact absurd rfl hv
  | object =>
    rw [outcome_lead_object]
    nofun

/-! ### Values that are kept -/

/-- A scalar is kept as what it begins with. -/
theorem yields_value_scalar {v : List Char} (h : IsScalar v) (depth : Nat) :
    (value depth).Yields v ((lead.outcome v).map Value.ofLead) := by
  obtain ⟨hs, hlist, hobject⟩ := outcome_lead_scalar h
  intro rest hr
  have hx : (lead.outcome v).map Value.ofLead
      = (lead.outcome v >>= fun l => .ok (Value.ofLead l)) := by
    cases lead.outcome v <;> rfl
  rw [hx]
  -- at the deepest level brackets are refused, which scalars do not have
  cases depth with
  | zero =>
    refine (hs rest hr).bind fun l hl => ?_
    cases l with
    | list => exact absurd hl hlist
    | object => exact absurd hl hobject
    | _ => rfl
  | succ depth =>
    refine (hs rest hr).bind fun l hl => ?_
    cases l with
    | list => exact absurd hl hlist
    | object => exact absurd hl hobject
    | _ => rfl

/-- A list is kept as the list of what its items are kept as. -/
theorem yields_value_list {blanks : List Char} {items : List Padded} (hb : IsBlank blanks)
    {depth : Nat} (hi : ∀ i ∈ items, IsValue i.core ∧ (value depth).Settles i.core) :
    (value (depth + 1)).Yields (listText blanks items)
      ((items.mapM fun i => (value depth).outcome i.core).map Value.list) := by
  intro rest _
  have hlist := (comes_listOf hi hb rest).map Value.list
  rw [listText_append]
  exact hlist.of_eq (bind_lead_list rfl _)

/-- How a member of an object is kept. -/
def kept (depth : Nat) (done : List (String × Value)) (m : Member) :
    Except Error (List (String × Value)) := do
  let key ← m.name
  let v ← (value depth).outcome m.value.core
  .ok ((key, v) :: done)

/-- A member is kept under its name, if it has one and its value can be kept. -/
theorem yields_keep {m : Member} (hm : IsInner m.key.core) {depth : Nat}
    (hv : (value depth).Settles m.value.core) (done : List (String × Value)) :
    (taking (keep depth) done).Yields m.tail (kept depth done m) := by
  refine Yields.taking hm fun k _ => ?_
  -- the value may have blanks before it
  have hblank : ∀ s, value depth (m.value.before ++ s) = value depth s := by
    intro s
    cases depth <;> exact bind_congr (lead_blank m.value.blank_before s)
  have hkeep : (do let v ← value depth; pure ((k, v) :: done) : Reader _).Yields
      (m.value.before ++ m.value.core)
      ((value depth).outcome m.value.core >>= fun v => .ok ((k, v) :: done)) :=
    fun rest hr => (hv.blank hblank rest hr).bind fun v _ => comes_pure _ _
  exact hkeep.colon

/-- An object is kept with its members, the first one first. -/
theorem yields_value_object {blanks : List Char} {members : List Member} (hb : IsBlank blanks)
    {depth : Nat} (hk : ∀ m ∈ members, IsInner m.key.core)
    (hv : ∀ m ∈ members, (value depth).Settles m.value.core) :
    (value (depth + 1)).Yields (objectText blanks members)
      ((members.foldlM (kept depth) []).map fun done => .object done.reverse) := by
  intro rest _
  have hm : ∀ m ∈ members, ∀ g, (taking (keep depth) g).Yields m.tail (kept depth g m) :=
    fun m hm g => yields_keep (hk m hm) (hv m hm) g
  have hobject := (comes_objectOf hm hb [] rest).map fun done => Value.object done.reverse
  rw [objectText_append]
  exact hobject.of_eq (bind_lead_object rfl _)

/-- Brackets that nest too deeply. -/
theorem yields_value_zero {v : List Char} {l : Lead} (hl : l = .list ∨ l = .object)
    (h : ∀ rest, lead (v ++ rest) = .ok l (v ++ rest)) :
    (value 0).Yields v (.error .nestedTooDeeply) := by
  intro rest _
  rcases hl with rfl | rfl <;> exact ⟨_, bind_of_ok (h rest)⟩

/-- **Every well-formed value** comes to one thing when it is to be kept. -/
theorem settles_value {v : List Char} (h : IsValue v) (depth : Nat) : (value depth).Settles v := by
  -- over the grammar; between brackets there is a level less
  induction h generalizing depth with
  | scalar h => exact (yields_value_scalar h depth).settles
  | @list blanks items blank values ih =>
    cases depth with
    | zero => exact (yields_value_zero (Or.inl rfl) (lead_list_text blanks items)).settles
    | succ depth =>
      exact (yields_value_list blank fun i hi => ⟨values i hi, ih i hi depth⟩).settles
  | @object blanks members blank keys values ih =>
    cases depth with
    | zero => exact (yields_value_zero (Or.inr rfl) (lead_object_text blanks members)).settles
    | succ depth => exact (yields_value_object blank keys fun m hm => ih m hm depth).settles

/-- What is kept is of one sort if everything that it may be is. -/
theorem lead_of_map {x : Except Error α} {f : α → Value} {l : Lead} {w : Value}
    (h : x.map f = .ok w) (hf : ∀ a, (f a).lead = l) : w.lead = l := by
  cases x with
  | error e => cases h
  | ok a =>
    cases h
    exact hf a

/-- **A value that was kept** begins with what was found of it. -/
theorem lead_of_value {v : List Char} (h : IsValue v) {depth : Nat} {w : Value}
    (hw : (value depth).outcome v = .ok w) : lead.outcome v = .ok w.lead := by
  -- a bracket is kept as what it opens, and a scalar as what it is
  cases h with
  | scalar h =>
    rw [(yields_value_scalar h depth).outcome_eq] at hw
    obtain ⟨-, hlist, hobject⟩ := outcome_lead_scalar h
    cases hl : lead.outcome v with
    | error e => rw [hl] at hw; cases hw
    | ok l =>
      rw [hl] at hw
      cases l with
      | list => exact absurd hl hlist
      | object => exact absurd hl hobject
      | _ => cases hw; rfl
  | @list blanks items blank values =>
    rw [outcome_lead_list]
    cases depth with
    | zero =>
      rw [(yields_value_zero (Or.inl rfl) (lead_list_text blanks items)).outcome_eq] at hw
      cases hw
    | succ depth =>
      rw [(yields_value_list blank fun i hi =>
        ⟨values i hi, settles_value (values i hi) depth⟩).outcome_eq] at hw
      rw [lead_of_map hw fun _ => rfl]
  | @object blanks members blank keys values =>
    rw [outcome_lead_object]
    cases depth with
    | zero =>
      rw [(yields_value_zero (Or.inr rfl) (lead_object_text blanks members)).outcome_eq] at hw
      cases hw
    | succ depth =>
      rw [(yields_value_object blank keys fun m hm =>
        settles_value (values m hm) depth).outcome_eq] at hw
      rw [lead_of_map hw fun _ => rfl]

end Reader

end WalletPanel.Wire
