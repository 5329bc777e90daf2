import WalletPanel.Proofs.Wallet.Echoes

/-!
# Wallets with their keys, read in two ways

A wallet that was created is read from an object that has its key beside the members of the wallet.
The key is taken out on the way; everything else is kept, and looked at behind the end of the
object. The same object can be read as a wallet without a key, and then each member is looked at
where it stands. What these two ways have in common is the draft that the members are taken into: a
member that was kept is taken in as it would have been from the text (`foldlM_take_of_kept`), unless
it is an address that is a list.

So an object is read as a created wallet exactly if it has one key, all that is beside it can be
kept, and it is read as a wallet (`CreatedWallet.parse_eq_ok_iff`). The statements that follow from
this, and that the order of members is of no matter, are put together in
`CreatedWallet.reads_as_record`.
-/

namespace WalletPanel

open Wire Wire.Reader

/-- A key is read up to the end of its text, whatever stands behind it. -/
theorem PrivateKey.yields_read {v : List Char} (h : IsValue v) :
    PrivateKey.read.Yields v (PrivateKey.parse (String.ofList v)) := by
  have hread := Kind.settles_read .text h nofun
  have hkey : PrivateKey.read.Yields v ((Kind.read .text).outcome v |>.map PrivateKey.mk) :=
    hread.map PrivateKey.mk
  -- parsing a text by itself is reading it with nothing behind it
  have hparse : PrivateKey.parse (String.ofList v) = PrivateKey.read.outcome v := by
    unfold PrivateKey.parse
    rw [String.toList_ofList]
    exact hkey.settles.run_eq
  rw [hparse]
  exact hkey.settles

namespace CreatedWallet

/-! ### The parts of an object -/

/-- How a member is taken in. -/
def Parts.take (p : Parts) (m : Member) : Except Error Parts := do
  let key ← m.name
  if key = keyName then
    match p.privateKey with
    | some _ => .error (.duplicateMember keyName)
    | none =>
      (PrivateKey.parse (String.ofList m.value.core)).map fun k => { p with privateKey := some k }
  else
    ((value depth).outcome m.value.core).map fun v => { p with others := (key, v) :: p.others }

/-- The member for the key finds its place taken, or is what the key is read as. -/
theorem Parts.take_key {m : Member} (hm : m.name = .ok keyName) (p : Parts) :
    p.take m = match p.privateKey with
      | some _ => .error (.duplicateMember keyName)
      | none => (PrivateKey.parse (String.ofList m.value.core)).map
          fun k => { p with privateKey := some k } := by
  unfold Parts.take
  rw [hm]
  rfl

/-- Any other member is kept. -/
theorem Parts.take_other {m : Member} {key : String} (hm : m.name = .ok key) (hk : key ≠ keyName)
    (p : Parts) : p.take m = ((value depth).outcome m.value.core).map
      fun v => { p with others := (key, v) :: p.others } := by
  unfold Parts.take
  rw [hm]
  exact if_neg hk

/-- A member is read up to its end, and comes to what taking it in comes to. -/
theorem Parts.yields_take {m : Member} (hm : m.WellFormed) (p : Parts) :
    (taking Parts.member p).Yields m.tail (p.take m) := by
  refine Yields.taking hm.key fun key _ => ?_
  unfold Parts.member
  by_cases hk : key = keyName
  · -- the key: a second one is an error before anything of it is read
    rw [if_pos hk, if_pos hk]
    cases p.privateKey with
    | some k => exact fun rest _ => ⟨_, rfl⟩
    | none =>
      have hread := (PrivateKey.yields_read hm.value).blank (b := m.value.before)
        fun s => bind_congr (Kind.read_blank .text m.value.blank_before s)
      have hkey : (do let k ← PrivateKey.read; pure { p with privateKey := some k } :
          Reader Parts).Yields (m.value.before ++ m.value.core)
          ((PrivateKey.parse (String.ofList m.value.core)).map fun k =>
            { p with privateKey := some k }) :=
        hread.map fun k => { p with privateKey := some k }
      exact hkey.colon
  · -- any other member is kept as the value that it is
    rw [if_neg hk, if_neg hk]
    have hblank : ∀ s, value depth (m.value.before ++ s) = value depth s :=
      fun s => bind_congr (lead_blank m.value.blank_before s)
    have hread := (settles_value hm.value depth).blank hblank
    have hother : (do let v ← value depth; pure { p with others := (key, v) :: p.others } :
        Reader Parts).Yields (m.value.before ++ m.value.core)
        (((value depth).outcome m.value.core).map
          fun v => { p with others := (key, v) :: p.others }) :=
      hread.map fun v => { p with others := (key, v) :: p.others }
    exact hother.colon

/-- **A text that is an object** comes to what its parts make. -/
theorem parse_object {text : String} {members : List Member} (h : IsObjectOf members text) :
    parse text = members.foldlM Parts.take ⟨none, []⟩ >>= Parts.complete := by
  obtain ⟨hm, before, blanks, after, hbefore, hb, hafter, rfl⟩ := h
  have hy : read.Yields (objectText blanks members)
      (members.foldlM Parts.take ⟨none, []⟩ >>= Parts.complete) := by
    intro rest _
    -- behind the brace nothing is read any more, so that the parts decide
    have hwallet : ∀ parts : Parts, (do
        let wallet ← Kind.accept parts.complete
        closeObject
        pure wallet : Reader CreatedWallet).Comes ('\x7d' :: rest) parts.complete rest :=
      fun parts => (comes_accept parts.complete _).followed fun wallet =>
        bind_of_ok (closeObject_brace rest)
    rw [objectText_append]
    refine Comes.of_eq ?_ (bind_lead_object rfl _)
    exact comes_gathered (fun m h p => Parts.yields_take (hm m h) p) hb _ hwallet
  unfold parse
  rw [String.toList_ofList]
  exact hy.run_eq (fun t => bind_congr (lead_blank hbefore t)) hafter

/-! ### What has been taken in -/

/-- The members under the key of the private key. -/
def keyMembers (members : List Member) : List Member :=
  members.filter (·.isNamed keyName)

/-- The members other than these are kept as the given values. -/
inductive Kept : List Member → List (String × Value) → Prop
  | nil : Kept [] []
  | key {m : Member} {ms : List Member} {ws : List (String × Value)} (name : m.name = .ok keyName)
      (more : Kept ms ws) : Kept (m :: ms) ws
  | other {m : Member} {ms : List Member} {ws : List (String × Value)} {key : String} {w : Value}
      (name : m.name = .ok key) (other : key ≠ keyName)
      (kept : (value depth).outcome m.value.core = .ok w) (more : Kept ms ws) :
      Kept (m :: ms) ((key, w) :: ws)

/-- What becomes of the private key: nothing, or it is the one member that has it. -/
inductive Found : Option PrivateKey → List Member → Option PrivateKey → Prop
  | nothing (key : Option PrivateKey) : Found key [] key
  | one {m : Member} {k : PrivateKey}
      (key : PrivateKey.parse (String.ofList m.value.core) = .ok k) : Found none [m] (some k)

/-- A member for the key is one of these. -/
theorem keyMembers_key {m : Member} (h : m.name = .ok keyName) (ms : List Member) :
    keyMembers (m :: ms) = m :: keyMembers ms :=
  List.filter_cons_of_pos (Member.isNamed_iff.mpr h)

/-- A member with another key is none of these. -/
theorem keyMembers_other {m : Member} {key : String} (h : m.name = .ok key) (hk : key ≠ keyName)
    (ms : List Member) : keyMembers (m :: ms) = keyMembers ms := by
  refine List.filter_cons_of_neg fun hm => hk ?_
  have hname := Member.isNamed_iff.mp hm
  rw [h] at hname
  exact Except.ok.inj hname

/-- **What members have been taken in** if none of them was at fault. -/
theorem kept_of_foldlM {members : List Member} {p q : Parts}
    (h : members.foldlM Parts.take p = .ok q) :
    ∃ ws, Kept members ws ∧ q.others = ws.reverse ++ p.others ∧
      Found p.privateKey (keyMembers members) q.privateKey := by
  induction members generalizing p with
  | nil =>
    cases h
    exact ⟨[], .nil, rfl, .nothing _⟩
  | cons m members ih =>
    rw [List.foldlM_cons] at h
    -- the first member was taken in without an error, and the others after it
    obtain ⟨next, hnext, hmore⟩ := exists_of_bind h
    obtain ⟨ws, hws, hothers, hfound⟩ := ih hmore
    obtain ⟨key, hkey, -⟩ := exists_of_bind hnext
    by_cases hk : key = keyName
    · -- the key: there was none before, since a second one is an error
      subst hk
      rw [Parts.take_key hkey] at hnext
      cases hp : p.privateKey with
      | some k => rw [hp] at hnext; cases hnext
      | none =>
        rw [hp] at hnext
        cases hparse : PrivateKey.parse (String.ofList m.value.core) with
        | error e => rw [hparse] at hnext; cases hnext
        | ok k =>
          rw [hparse] at hnext
          cases hnext
          refine ⟨ws, .key hkey hws, hothers, ?_⟩
          -- from here on the key is there, and no other member may have it
          rw [keyMembers_key hkey]
          generalize keyMembers members = others, q.privateKey = key at hfound
          cases hfound
          exact .one hparse
    · -- another member: it is put in front of those that were kept
      rw [Parts.take_other hkey hk] at hnext
      cases hvalue : (value depth).outcome m.value.core with
      | error e => rw [hvalue] at hnext; cases hnext
      | ok w =>
        rw [hvalue] at hnext
        cases hnext
        refine ⟨(key, w) :: ws, .other hkey hk hvalue hws, ?_, ?_⟩
        · rw [hothers, List.reverse_cons, List.append_assoc]
          rfl
        · rw [keyMembers_other hkey hk]
          exact hfound

/-- Members that can be kept are taken in, with their key. -/
theorem foldlM_of_kept {members : List Member} {ws : List (String × Value)}
    (h : Kept members ws) {p : Parts} {k : Option PrivateKey}
    (hf : Found p.privateKey (keyMembers members) k) :
    members.foldlM Parts.take p = .ok ⟨k, ws.reverse ++ p.others⟩ := by
  induction h generalizing p with
  | nil =>
    obtain ⟨key, others⟩ := p
    cases hf
    rfl
  | @key m ms ws name more ih =>
    rw [keyMembers_key name] at hf
    obtain ⟨key, others⟩ := p
    -- only one member may have the key, so that none is left behind this one
    cases hkeys : keyMembers ms with
    | cons n rest =>
      rw [hkeys] at hf
      cases hf
    | nil =>
      rw [hkeys] at hf
      cases hf with
      | one hparse =>
      rename_i k
      have htake : Parts.take ⟨none, others⟩ m = .ok ⟨some k, others⟩ := by
        rw [Parts.take_key name, hparse]
        rfl
      rw [List.foldlM_cons, htake]
      exact ih (p := ⟨some k, others⟩) (by rw [hkeys]; exact .nothing _)
  | @other m ms ws key w name other kept more ih =>
    have htake : p.take m = .ok { p with others := (key, w) :: p.others } := by
      rw [Parts.take_other name other, kept]
      rfl
    rw [keyMembers_other name other] at hf
    rw [List.foldlM_cons, htake]
    -- p.others }) hf).trans ?_
    refine (ih (p := { p with others := (key, w) :: p.others }) hf).trans ?_
    rw [List.reverse_cons, List.append_assoc]
    rfl

/-! ### Read in both ways -/

/-- No address among the members is written as a list. -/
def PlainAddresses (members : List Member) : Prop :=
  ∀ m ∈ members, m.name = .ok "address" → m.value.core.head? ≠ some '['

/-- An address that is no list keeps its place in the text. -/
theorem PlainAddresses.keepsPlace {members : List Member} (ha : PlainAddresses members) :
    ∀ m ∈ members, WalletRecord.schema.KeepsPlace m := by
  intro m hm f hf hk hname
  rw [WalletRecord.name_of_address hf hk] at hname
  exact .other (ha m hm hname)

/-- An address is looked at no further than what it begins with. -/
theorem PlainAddresses.lead_ne_list {members : List Member} (ha : PlainAddresses members)
    {m : Member} (hm : m ∈ members) (hv : IsValue m.value.core) {key : String}
    (hname : m.name = .ok key) {f : Field} (hf : f ∈ WalletRecord.schema.fields)
    (hk : f.kind = .address) (hkey : key = f.name) : lead.outcome m.value.core ≠ .ok .list := by
  rw [hkey, WalletRecord.name_of_address hf hk] at hname
  exact outcome_lead_ne_list hv (ha m hm hname)

/-- **Members that were kept** are taken into a wallet as from the text, and the key is not. -/
theorem foldlM_take_of_kept {members : List Member} {ws : List (String × Value)}
    (h : Kept members ws) (hm : ∀ m ∈ members, m.WellFormed) (ha : PlainAddresses members)
    (draft : Draft WalletRecord.schema.fields) :
    members.foldlM WalletRecord.schema.take draft
      = ws.foldlM (fun draft (key, v) => Draft.insert WalletRecord.schema.fields draft key v)
          draft := by
  induction h generalizing draft with
  | nil => rfl
  | @key m ms ws name more ih =>
    obtain ⟨hwell, hms⟩ := List.forall_mem_cons.mp hm
    -- a wallet has no member for the key, so that reading the text passes over it too
    rw [List.foldlM_cons, (WalletRecord.foreign_key hwell name).take_eq]
    exact ih hms (fun n hn => ha n (List.mem_cons_of_mem m hn)) draft
  | @other m ms ws key w name other kept more ih =>
    obtain ⟨hwell, hms⟩ := List.forall_mem_cons.mp hm
    -- the text of the member and the value that was kept of it are read alike
    have htake : WalletRecord.schema.take draft m
        = Draft.insert WalletRecord.schema.fields draft key w := by
      unfold Schema.take
      rw [name]
      exact Draft.put_of_kept hwell.value (fun f hf hk hkey =>
        ha.lead_ne_list List.mem_cons_self hwell.value name hf hk hkey) kept draft
    rw [List.foldlM_cons, List.foldlM_cons, htake]
    exact congrArg (_ >>= ·) (funext (ih hms fun n hn => ha n (List.mem_cons_of_mem m hn)))

/-- **A wallet is found among the members** that were kept as it is in the text. -/
theorem ofMembers_of_kept {text : String} {members : List Member} {ws : List (String × Value)}
    (h : IsObjectOf members text) (ha : PlainAddresses members) (hk : Kept members ws) :
    WalletRecord.schema.ofMembers ws = WalletRecord.schema.parse text := by
  rw [Schema.parse_object h ha.keepsPlace]
  unfold Schema.ofMembers Schema.drafted
  rw [foldlM_take_of_kept hk h.1 ha]
  -- the drafts agree, and so does what becomes of a draft
  refine congrArg (_ >>= ·) (funext fun draft => ?_)
  unfold Schema.ofDraft
  cases Draft.complete WalletRecord.schema.fields draft <;> rfl

/-- **What is read as a created wallet** has one key, has nothing beside it that cannot be kept, and
is read as a wallet. -/
theorem parse_eq_ok_iff {text : String} {members : List Member} (h : IsObjectOf members text)
    (ha : PlainAddresses members) {c : CreatedWallet} :
    parse text = .ok c ↔
      Found none (keyMembers members) (some c.privateKey) ∧ (∃ ws, Kept members ws) ∧
        WalletRecord.schema.parse text = .ok c.record := by
  rw [parse_object h]
  constructor
  · intro hc
    -- the members were taken in, and the parts are complete
    obtain ⟨⟨key, others⟩, hparts, hcomplete⟩ := exists_of_bind hc
    obtain ⟨ws, hws, rfl, hfound⟩ := kept_of_foldlM hparts
    cases key with
    | none => cases hcomplete
    | some k =>
      obtain ⟨record, hrecord, hpair⟩ := exists_of_bind hcomplete
      cases hpair
      rw [List.append_nil, List.reverse_reverse, ofMembers_of_kept h ha hws] at hrecord
      exact ⟨hfound, ⟨ws, hws⟩, hrecord⟩
  · rintro ⟨hfound, ⟨ws, hws⟩, hrecord⟩
    -- the wallet is made of what was kept, in the order of the text
    rw [← ofMembers_of_kept h ha hws] at hrecord
    rw [foldlM_of_kept hws hfound]
    change (do
      let record ← WalletRecord.schema.ofMembers (ws.reverse ++ []).reverse
      .ok ⟨record, c.privateKey⟩ : Except Error CreatedWallet) = .ok c
    rw [List.append_nil, List.reverse_reverse, hrecord]
    rfl

/-! ### What can be kept -/

/-- A member that can be kept, or the key. -/
def Keepable (m : Member) : Prop :=
  ∃ key, m.name = .ok key ∧ (key ≠ keyName → ∃ w, (value depth).outcome m.value.core = .ok w)

/-- Members can be kept together if each of them can be kept by itself. -/
theorem exists_kept_iff {members : List Member} :
    (∃ ws, Kept members ws) ↔ ∀ m ∈ members, Keepable m := by
  constructor
  · -- what is kept is a row of members that can be kept
    rintro ⟨ws, hws⟩
    induction hws with
    | nil => exact List.forall_mem_nil _
    | key name more ih =>
      exact List.forall_mem_cons.mpr ⟨⟨_, name, fun hne => absurd rfl hne⟩, ih⟩
    | other name other kept more ih =>
      exact List.forall_mem_cons.mpr ⟨⟨_, name, fun _ => ⟨_, kept⟩⟩, ih⟩
  · -- and the row is built member by member
    intro h
    induction members with
    | nil => exact ⟨[], .nil⟩
    | cons m members ih =>
      obtain ⟨⟨key, name, hvalue⟩, hmore⟩ := List.forall_mem_cons.mp h
      obtain ⟨ws, hws⟩ := ih hmore
      by_cases hk : key = keyName
      · exact ⟨ws, .key (hk ▸ name) hws⟩
      · obtain ⟨w, hw⟩ := hvalue hk
        exact ⟨(key, w) :: ws, .other name hk hw hws⟩

/-- **The members of a wallet** can be kept if it is read as one. -/
theorem keepable_of_parse {text : String} {members : List Member} (h : IsObjectOf members text)
    (ha : PlainAddresses members) {r : WalletRecord} (hr : WalletRecord.schema.parse text = .ok r)
    {m : Member} (hm : m ∈ members) {key : String} (name : m.name = .ok key)
    (hkey : key = keyName ∨ ∃ f ∈ WalletRecord.schema.fields, key = f.name) : Keepable m := by
  refine ⟨key, name, fun hne => ?_⟩
  rw [Schema.parse_object h ha.keepsPlace] at hr
  obtain ⟨draft, hdraft, -⟩ := exists_of_bind hr
  -- a member of the wallet was read as its kind, which is more than keeping it
  obtain ⟨before, after, htake⟩ := exists_step_of_foldlM hdraft hm
  unfold Schema.take at htake
  rw [name] at htake
  obtain ⟨f, hf, hkf, a, hread⟩ := Draft.exists_read_of_put htake (hkey.resolve_left hne)
  have hv := (h.1 m hm).value
  exact f.kind.exists_kept_of_read hv (fun hk => ha.lead_ne_list hm hv name hf hk hkf) hread depth

/-- **The order of members** does not matter to a created wallet. -/
theorem parse_perm {text text' : String} {members members' : List Member}
    (h : IsObjectOf members text) (h' : IsObjectOf members' text') (hl : members.Perm members')
    (ha : PlainAddresses members) {c : CreatedWallet} (hc : parse text = .ok c) :
    parse text' = .ok c := by
  have ha' : PlainAddresses members' := fun m hm => ha m (hl.mem_iff.mpr hm)
  obtain ⟨hfound, hkept, hrecord⟩ := (parse_eq_ok_iff h ha).mp hc
  refine (parse_eq_ok_iff h' ha').mpr
    ⟨?_, ?_, Schema.parse_perm h h' hl ha.keepsPlace hrecord⟩
  · -- one member for the key, in whatever order
    have hkeys : (keyMembers members).Perm (keyMembers members') := hl.filter _
    generalize keyMembers members = ks, keyMembers members' = ks' at hkeys hfound
    cases hfound with
    | one hparse =>
    rw [← List.singleton_perm.mp hkeys]
    exact .one hparse
  · -- whether members can be kept does not depend on their order
    rw [exists_kept_iff] at hkept ⊢
    exact fun m hm => hkept m (hl.mem_iff.mpr hm)

/-- **Both ways of reading agree.** Take any object in which no address is written as a list. If it
is read as a created wallet, it has one member for the key, which is read as the key, and the object
is read as the same wallet. The other way round, if it is read as a wallet, has one member for the
key, which is read as a key, and has no other members than a wallet and its key have, then it is
read as a created wallet, of this wallet and this key. And what an object is read as, in either way,
does not depend on the order of its members. -/
theorem reads_as_record {text : String} {members : List Member} (h : IsObjectOf members text)
    (ha : PlainAddresses members) :
    (∀ c, parse text = .ok c →
      (∃ m, keyMembers members = [m] ∧
        PrivateKey.parse (String.ofList m.value.core) = .ok c.privateKey) ∧
      WalletRecord.schema.parse text = .ok c.record) ∧
    (∀ m k r, keyMembers members = [m] → PrivateKey.parse (String.ofList m.value.core) = .ok k →
      (∀ n ∈ members, ∃ key, n.name = .ok key ∧
        (key = keyName ∨ ∃ f ∈ WalletRecord.schema.fields, key = f.name)) →
      WalletRecord.schema.parse text = .ok r → parse text = .ok ⟨r, k⟩) ∧
    ∀ members' text', IsObjectOf members' text' → members.Perm members' →
      (∀ r, WalletRecord.schema.parse text' = .ok r ↔ WalletRecord.schema.parse text = .ok r) ∧
      ∀ c, parse text' = .ok c ↔ parse text = .ok c := by
  refine ⟨fun c hc => ?_, fun m k r hkeys hk honly hr => ?_, fun members' text' h' hl => ?_⟩
  · -- from the created wallet to the record
    obtain ⟨hfound, -, hrecord⟩ := (parse_eq_ok_iff h ha).mp hc
    refine ⟨?_, hrecord⟩
    generalize keyMembers members = keys at hfound
    cases hfound with
    | one hparse => exact ⟨_, rfl, hparse⟩
  · -- and back, if there are no other members
    refine (parse_eq_ok_iff h ha).mpr ⟨?_, exists_kept_iff.mpr fun n hn => ?_, hr⟩
    · rw [hkeys]
      exact .one hk
    · obtain ⟨key, name, hkey⟩ := honly n hn
      exact keepable_of_parse h ha hr hn name hkey
  · -- the order of the members
    have ha' : PlainAddresses members' := fun m hm => ha m (hl.mem_iff.mpr hm)
    exact ⟨fun r => ⟨Schema.parse_perm h' h hl.symm ha'.keepsPlace,
        Schema.parse_perm h h' hl ha.keepsPlace⟩,
      fun c => ⟨parse_perm h' h hl.symm ha', parse_perm h h' hl ha⟩⟩

/-! ### A wallet with its key -/

/-- The member for a private key. -/
def keyMember : Member := .bare WalletRecord.echoedName (quotedText ['k'])

/-- The member for the key is a text under its key. -/
theorem wellFormed_keyMember : keyMember.WellFormed :=
  ⟨isInner_of_plain (by decide), .scalar (.text (isInner_of_plain (by decide)))⟩

/-- The members of a wallet with its key, the key before them. -/
def createdMembers : List Member := keyMember :: WalletRecord.sentMembers

theorem createdKey_read_as_record :
    ∃ r, WalletRecord.schema.parse (String.ofList (objectText [] createdMembers)) = .ok r ∧
      parse (String.ofList (objectText [] createdMembers)) = .ok ⟨r, ⟨"k"⟩⟩ ∧
      parse (String.ofList (objectText [] createdMembers.reverse)) = .ok ⟨r, ⟨"k"⟩⟩ ∧
      ∃ m, keyMembers createdMembers = [m] ∧
        PrivateKey.parse (String.ofList m.value.core) = .ok ⟨"k"⟩ := by
  have hwell : ∀ m ∈ createdMembers, m.WellFormed :=
    List.forall_mem_cons.mpr ⟨wellFormed_keyMember, WalletRecord.wellFormed_sentMembers⟩
  have hplain : PlainAddresses createdMembers := by
    have hhead : ∀ m ∈ createdMembers, m.value.core.head? ≠ some '[' := by decide
    exact fun m hm _ => hhead m hm
  have honly : ∀ n ∈ createdMembers, ∃ key, n.name = .ok key ∧
      (key = keyName ∨ ∃ f ∈ WalletRecord.schema.fields, key = f.name) := by
    have hname : ∃ f ∈ WalletRecord.schema.fields, "name" = f.name :=
      ⟨_, WalletRecord.mem_fields_iff.mpr (Or.inl rfl), rfl⟩
    have haddress : ∃ f ∈ WalletRecord.schema.fields, "address" = f.name :=
      ⟨_, WalletRecord.mem_fields_iff.mpr (Or.inr (Or.inl rfl)), rfl⟩
    refine List.forall_mem_cons.mpr ⟨⟨_, rfl, Or.inl rfl⟩, ?_⟩
    refine List.forall_mem_cons.mpr ⟨⟨_, rfl, Or.inr hname⟩, ?_⟩
    exact List.forall_mem_singleton.mpr ⟨_, rfl, Or.inr haddress⟩
  -- the record is read, whatever its address and its time come to
  have hread : (WalletRecord.schema.parse
      (String.ofList (objectText [] createdMembers))).toOption.isSome := by decide +kernel
  obtain ⟨r, hr⟩ : ∃ r, WalletRecord.schema.parse
      (String.ofList (objectText [] createdMembers)) = .ok r := by
    revert hread
    cases WalletRecord.schema.parse (String.ofList (objectText [] createdMembers)) with
    | error e => exact nofun
    | ok r => exact fun _ => ⟨r, rfl⟩
  have hobject := isObjectOf_bare hwell
  have hreverse := isObjectOf_bare fun m hm => hwell m (List.mem_reverse.mp hm)
  obtain ⟨hboth, hback, horder⟩ := reads_as_record hobject hplain
  -- one member alone has the key
  have hkeys : keyMembers createdMembers = [keyMember] := by
    have hname : (Member.bare ['n', 'a', 'm', 'e'] (quotedText ['a'])).name = .ok "name" := rfl
    have haddress : (Member.bare ['a', 'd', 'd', 'r', 'e', 's', 's']
        (quotedText (List.replicate 40 '0'))).name = .ok "address" := rfl
    unfold createdMembers WalletRecord.sentMembers
    rw [keyMembers_key rfl, keyMembers_other hname (by decide),
      keyMembers_other haddress (by decide)]
    rfl
  have hcreated := hback keyMember ⟨"k"⟩ r hkeys (by decide +kernel) honly hr
  have hlast := (horder _ _ hreverse createdMembers.reverse_perm.symm).2 ⟨r, ⟨"k"⟩⟩
  exact ⟨r, hr, hcreated, hlast.mpr hcreated, (hboth _ hcreated).1⟩

end CreatedWallet

end WalletPanel
