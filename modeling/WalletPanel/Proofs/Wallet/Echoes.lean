import Mathlib.Data.List.Forall2
import WalletPanel.Proofs.Wire.Readings
import WalletPanel.Wallet.Created

/-!
# Members that a record does not have

A backend may send more with a record than the record has, and above all the private key. Such a
member is passed over, whatever its value is and wherever it stands: the members that are gathered
are the same without it (`Schema.Extended.drafted_eq`), and so is the record, or the error
(`WalletRecord.echoes_are_dropped`). This holds for every element of a list of wallets as well. What
is written of a record has its own members only.

The place where an inserted member stands is found by those that have read what is before it, so
that each of them has to stop where its value ends. There is one that does not (`KeepsPlace`), and
with it a member that is inserted behind may be met in the middle of another
(`WalletRecord.brokenText_misplaces_echo`).
-/

namespace WalletPanel

namespace Wire

open Reader

variable {α : Type} {s : Schema α}

/-! ### Extended objects -/

variable (s) in
/-- A member, with any value, whose key is a text that no member of the record has for its key. -/
def Schema.Foreign (m : Member) : Prop :=
  m.WellFormed ∧ ∃ key, m.name = .ok key ∧ ∀ f ∈ s.fields, key ≠ f.name

variable (s) in
/-- The second row of members is the first one with foreign ones inserted. -/
inductive Schema.Extended : List Member → List Member → Prop
  | nil : Extended [] []
  | keep (m : Member) {ms ms' : List Member} (more : Extended ms ms') :
      Extended (m :: ms) (m :: ms')
  | insert {m : Member} {ms ms' : List Member} (foreign : s.Foreign m) (more : Extended ms ms') :
      Extended ms (m :: ms')

namespace Schema

/-- A member of an extended row was there before, or is foreign. -/
theorem Extended.mem_or {ms ms' : List Member} (h : s.Extended ms ms') {n : Member} (hn : n ∈ ms') :
    n ∈ ms ∨ s.Foreign n := by
  -- a member was kept or has been inserted
  induction h with
  | nil => exact Or.inl hn
  | keep m more ih =>
    rcases List.mem_cons.mp hn with rfl | hn
    · exact Or.inl List.mem_cons_self
    · exact (ih hn).imp (List.mem_cons_of_mem m) id
  | insert foreign more ih =>
    rcases List.mem_cons.mp hn with rfl | hn
    · exact Or.inr foreign
    · exact ih hn

/-- A foreign member is well-formed, so that an extended row is if the row is. -/
theorem Extended.wellFormed {ms ms' : List Member} (h : s.Extended ms ms')
    (hm : ∀ m ∈ ms, m.WellFormed) : ∀ m ∈ ms', m.WellFormed :=
  fun n hn => (h.mem_or hn).elim (hm n) And.left

/-- What is foreign to a record is no address of it. -/
theorem Foreign.keepsPlace {m : Member} (h : s.Foreign m) : s.KeepsPlace m := by
  obtain ⟨-, key, hkey, hne⟩ := h
  intro f hf _ hname
  rw [hkey] at hname
  exact absurd (Except.ok.inj hname) (hne f hf)

/-- An address keeps its place in the extended row, since every address was there before. -/
theorem Extended.keepsPlace {ms ms' : List Member} (h : s.Extended ms ms')
    (hp : ∀ m ∈ ms, s.KeepsPlace m) : ∀ m ∈ ms', s.KeepsPlace m :=
  fun n hn => (h.mem_or hn).elim (hp n) Foreign.keepsPlace

/-- **A foreign member** leaves what has been gathered as it is. -/
theorem Foreign.take_eq {m : Member} (h : s.Foreign m) (draft : Draft s.fields) :
    s.take draft m = .ok draft := by
  obtain ⟨-, key, hkey, hne⟩ := h
  unfold take
  rw [hkey]
  exact Draft.put_of_foreign hne draft m.value.core

/-- **Inserted members** leave the draft of an object as it is, and the first error that there is.
-/
theorem Extended.foldlM_take {ms ms' : List Member} (h : s.Extended ms ms')
    (draft : Draft s.fields) : ms'.foldlM s.take draft = ms.foldlM s.take draft := by
  induction h generalizing draft with
  | nil => rfl
  | keep m more ih =>
    -- both sides take in the same member, and go on from the same draft
    rw [List.foldlM_cons, List.foldlM_cons]
    exact congrArg (s.take draft m >>= ·) (funext ih)
  | insert foreign more ih =>
    -- the inserted member changes nothing, so that the left side goes on from `draft`
    rw [List.foldlM_cons, foreign.take_eq]
    exact ih draft

/-- An object is gathered into the same draft as the one it is an extension of. -/
theorem Extended.drafted_eq {ms ms' : List Member} (h : s.Extended ms ms') :
    s.drafted ms' = s.drafted ms :=
  h.foldlM_take (Draft.empty s.fields)

/-- **A text that is an object** is read as the object that it is an extension of. -/
theorem Extended.parse_eq {ms ms' : List Member} (h : s.Extended ms ms') {text text' : String}
    (ht : IsObjectOf ms text) (ht' : IsObjectOf ms' text') (hp : ∀ m ∈ ms, s.KeepsPlace m) :
    s.parse text' = s.parse text := by
  calc s.parse text'
      = s.drafted ms' >>= s.ofDraft := parse_object ht' (h.keepsPlace hp)
    _ = s.drafted ms >>= s.ofDraft := by rw [h.drafted_eq]
    _ = s.parse text := (parse_object ht hp).symm

/-- A foreign member that is inserted between others. -/
theorem Extended.between {m : Member} (hf : s.Foreign m) (before after : List Member) :
    s.Extended (before ++ after) (before ++ m :: after) := by
  -- every row is an extension of itself, which is what comes behind the inserted member
  have hsame : ∀ ms, s.Extended ms ms := by
    intro ms
    induction ms with
    | nil => exact .nil
    | cons m ms ih => exact .keep m ih
  induction before with
  | nil => exact .insert hf (hsame after)
  | cons n before ih => exact .keep n ih

/-- **Objects that differ in a foreign member** are read alike. -/
theorem parse_eq_of_foreign {before after : List Member} {m m' : Member} {text text' : String}
    (h : IsObjectOf (before ++ m :: after) text) (h' : IsObjectOf (before ++ m' :: after) text')
    (hf : s.Foreign m) (hf' : s.Foreign m') (hp : ∀ n ∈ before ++ after, s.KeepsPlace n) :
    s.parse text = s.parse text' := by
  -- both objects are extensions of the one that has neither member
  have hext := Extended.between hf before after
  have hext' := Extended.between hf' before after
  rw [parse_object h (hext.keepsPlace hp), parse_object h' (hext'.keepsPlace hp), hext.drafted_eq,
    hext'.drafted_eq]

/-! ### Extended values -/

variable (s) in
/-- The second value is the first one, or an extension of it if it is an object. -/
inductive Echoed : List Char → List Char → Prop
  | same {v : List Char} (steady : s.Steady v) : Echoed v v
  | object {blanks blanks' : List Char} {ms ms' : List Member} (blank : IsBlank blanks)
      (blank' : IsBlank blanks') (wellFormed : ∀ m ∈ ms, m.WellFormed)
      (keeps : ∀ m ∈ ms, s.KeepsPlace m) (extended : s.Extended ms ms') :
      Echoed (objectText blanks ms) (objectText blanks' ms')

/-- **A value** is read as a record as the value that it is an extension of. -/
theorem Echoed.reads {v v' : List Char} (h : s.Echoed v v') :
    s.read.Settles v ∧ s.read.Settles v' ∧ s.read.outcome v' = s.read.outcome v := by
  cases h with
  | same steady => exact ⟨steady.settles, steady.settles, rfl⟩
  | object blank blank' wellFormed keeps extended =>
    -- each of the objects is read up to its brace, so that what is read is settled by the drafts
    have hy := yields_object blank wellFormed keeps
    have hy' := yields_object blank' (extended.wellFormed wellFormed) (extended.keepsPlace keeps)
    refine ⟨hy.settles, hy'.settles, ?_⟩
    rw [hy.outcome_eq, hy'.outcome_eq, extended.drafted_eq]

/-- **The elements of a list** that are extended, each by itself. -/
theorem Echoed.reads_all {items items' : List Padded}
    (h : List.Forall₂ (fun i i' => s.Echoed i.core i'.core) items items') :
    (∀ i ∈ items, s.read.Settles i.core) ∧ (∀ i' ∈ items', s.read.Settles i'.core) ∧
      (items'.mapM fun i => s.read.outcome i.core) = items.mapM fun i => s.read.outcome i.core := by
  induction h with
  | nil => exact ⟨List.forall_mem_nil _, List.forall_mem_nil _, rfl⟩
  | @cons i i' items items' echoed more ih =>
    obtain ⟨hi, hi', heq⟩ := echoed.reads
    obtain ⟨hmore, hmore', heqs⟩ := ih
    refine ⟨List.forall_mem_cons.mpr ⟨hi, hmore⟩, List.forall_mem_cons.mpr ⟨hi', hmore'⟩, ?_⟩
    -- the elements are read from the left, and the first error is the same on both sides
    rw [List.mapM_cons, List.mapM_cons, heq, heqs]

end Schema

end Wire

namespace WalletRecord

open Wire

/-- **A text that is a list of wallets.** -/
theorem parseList_list {text : String} {items : List Padded} (h : IsListOf items text)
    (hs : ∀ i ∈ items, schema.read.Settles i.core) :
    parseList text = items.mapM fun i => schema.read.outcome i.core := by
  obtain ⟨hi, before, blanks, after, hbefore, hb, hafter, rfl⟩ := h
  -- behind the bracket come the elements, each of which stops where its value ends
  have hy : readList.Yields (listText blanks items)
      (items.mapM fun i => schema.read.outcome i.core) := by
    intro rest _
    have hlist := Reader.comes_listOf (fun i h => ⟨hi i h, hs i h⟩) hb rest
    rw [listText_append]
    exact hlist.of_eq (Reader.bind_lead_list rfl _)
  unfold parseList
  rw [String.toList_ofList]
  exact hy.run_eq (fun t => Reader.bind_congr (Reader.lead_blank hbefore t)) hafter

/-- A private key is no member of a wallet. -/
theorem foreign_key {m : Member} (hm : m.WellFormed) (name : m.name = .ok CreatedWallet.keyName) :
    schema.Foreign m :=
  ⟨hm, CreatedWallet.keyName, name, fun _ hf => (CreatedWallet.name_ne_keyName hf).symm⟩

/-- What is written of a wallet has no member for a private key. -/
theorem keyName_not_written (r : WalletRecord) :
    ∀ p ∈ rowValues schema.fields (schema.toRow r), p.1 ≠ CreatedWallet.keyName := by
  intro p hp
  obtain ⟨f, hf, hname⟩ := List.mem_map.mp (key_mem_rowValues hp)
  rw [← hname]
  exact CreatedWallet.name_ne_keyName hf

/-- **Echoes are dropped.** Take any object, and insert members with other keys than a wallet has,
with any well-formed values and in any places: it is read as the same wallet, or comes to the same
error. Take any list, and insert such members into elements of it: it is read as the same wallets,
or comes to the same error. And what is written of a wallet has no member for a key, whoever reads
it. An address has to keep its place in the text, which is all but certain. -/
theorem echoes_are_dropped {ms ms' : List Member} {text text' : String} (ht : IsObjectOf ms text)
    (ht' : IsObjectOf ms' text') (hext : schema.Extended ms ms')
    (hp : ∀ m ∈ ms, schema.KeepsPlace m) {items items' : List Padded} {list list' : String}
    (hl : IsListOf items list) (hl' : IsListOf items' list')
    (hechoed : List.Forall₂ (fun i i' => schema.Echoed i.core i'.core) items items') :
    schema.parse text' = schema.parse text ∧ parseList list' = parseList list ∧
    ∀ (r : WalletRecord) (depth : Nat), ∃ members,
      (Reader.value (depth + 1)).run (schema.write r) = .ok (.object members) ∧
        ∀ p ∈ members, p.1 ≠ CreatedWallet.keyName := by
  refine ⟨hext.parse_eq ht ht' hp, ?_,
    fun r depth => ⟨_, schema.value_write r depth, r.keyName_not_written⟩⟩
  obtain ⟨hread, hread', heq⟩ := Schema.Echoed.reads_all hechoed
  calc parseList list'
      = items'.mapM fun i => schema.read.outcome i.core := parseList_list hl' hread'
    _ = items.mapM fun i => schema.read.outcome i.core := heq
    _ = parseList list := (parseList_list hl hread).symm

/-! ### A key that is echoed -/

/-- The members of a wallet as a backend sends it. -/
def sentMembers : List Member :=
  [.bare ['n', 'a', 'm', 'e'] (quotedText ['a']),
    .bare ['a', 'd', 'd', 'r', 'e', 's', 's'] (quotedText (List.replicate 40 '0'))]

/-- The key of the member that echoes a private key. -/
def echoedName : List Char := ['p', 'r', 'i', 'v', 'a', 't', 'e', '_', 'k', 'e', 'y']

/-- A private key that is sent as a number that is too large, with half a character beside it. -/
def echoedMember : Member :=
  .bare echoedName (listText []
    [.bare ['1', 'e', '9', '9', '9'], .bare (quotedText ['\\', 'u', 'd', '8', '0', '0'])])

/-- A name of one letter, as it is sent. -/
theorem wellFormed_name : (Member.bare ['n', 'a', 'm', 'e'] (quotedText ['a'])).WellFormed :=
  ⟨isInner_of_plain (by decide), .scalar (.text (isInner_of_plain (by decide)))⟩

/-- The members that are sent are well-formed. -/
theorem wellFormed_sentMembers : ∀ m ∈ sentMembers, m.WellFormed := by
  have haddress : (Member.bare ['a', 'd', 'd', 'r', 'e', 's', 's']
      (quotedText (List.replicate 40 '0'))).WellFormed :=
    ⟨isInner_of_plain (by decide), .scalar (.text (isInner_of_plain (by decide)))⟩
  exact List.forall_mem_cons.mpr ⟨wellFormed_name, List.forall_mem_singleton.mpr haddress⟩

/-- The address that is sent is a text, which is always read to its end. -/
theorem keepsPlace_sentMembers : ∀ m ∈ sentMembers, schema.KeepsPlace m := by
  have hhead : ∀ m ∈ sentMembers, m.value.core.head? ≠ some '[' := by decide
  exact fun m hm _ _ _ _ => .other (hhead m hm)

/-- The echoed key is foreign to a wallet, although its value cannot be read as anything. -/
theorem foreign_echoedMember : schema.Foreign echoedMember := by
  -- a number beyond every limit is still a numeral of the grammar
  have hlarge : IsValue ['1', 'e', '9', '9', '9'] := by
    have hwhole : IsWhole ['1'] := .digits (by decide) (by decide)
    have hexponent : IsExponent ('e' :: ([] ++ ['9', '9', '9'])) :=
      .digits (Or.inl rfl) (Or.inl rfl) (by decide)
    exact .scalar (.numeral (.positive (.mk hwhole .none hexponent)))
  -- half a character is an escape of four digits, as far as the grammar goes
  have hhalf : IsValue (quotedText ['\\', 'u', 'd', '8', '0', '0']) := by
    have hnumber : IsInner ('\\' :: 'u' :: (['d', '8', '0', '0'] ++ [])) :=
      .number rfl (forall_mem_of_all (by decide)) .nil
    exact .scalar (.text hnumber)
  have hvalue : IsValue echoedMember.value.core :=
    .list isBlank_nil (List.forall_mem_cons.mpr ⟨hlarge, List.forall_mem_singleton.mpr hhalf⟩)
  exact foreign_key ⟨isInner_of_plain (by decide), hvalue⟩ rfl

/-- A wallet is read from an object with an echoed key as from the one without it, by itself and as
the element of a list. -/
theorem echoedKey_is_dropped :
    schema.parse (String.ofList (objectText [] (echoedMember :: sentMembers)))
      = schema.parse (String.ofList (objectText [] sentMembers)) ∧
    parseList (String.ofList (listText [] [.bare (objectText [] (echoedMember :: sentMembers))]))
      = parseList (String.ofList (listText [] [.bare (objectText [] sentMembers)])) ∧
    (schema.parse (String.ofList (objectText [] sentMembers))).toOption.map (·.name)
      = some "a" := by
  have hextended : schema.Extended sentMembers (echoedMember :: sentMembers) :=
    .insert foreign_echoedMember (.keep _ (.keep _ .nil))
  have hextendedForm := hextended.wellFormed wellFormed_sentMembers
  have hechoed : schema.Echoed (objectText [] sentMembers)
      (objectText [] (echoedMember :: sentMembers)) :=
    .object isBlank_nil isBlank_nil wellFormed_sentMembers keepsPlace_sentMembers hextended
  -- a list of one element, with no blanks anywhere
  have hlist : ∀ v, IsValue v → IsListOf [.bare v] (String.ofList (listText [] [.bare v])) := by
    intro v hv
    exact ⟨List.forall_mem_singleton.mpr hv, [], [], [], isBlank_nil, isBlank_nil, isBlank_nil,
      by rw [List.append_nil]; rfl⟩
  have hobject : IsValue (objectText [] sentMembers) :=
    .object isBlank_nil (fun m hm => (wellFormed_sentMembers m hm).key)
      fun m hm => (wellFormed_sentMembers m hm).value
  have hobject' : IsValue (objectText [] (echoedMember :: sentMembers)) :=
    .object isBlank_nil (fun m hm => (hextendedForm m hm).key)
      fun m hm => (hextendedForm m hm).value
  obtain ⟨hread, hreadList, -⟩ := echoes_are_dropped (isObjectOf_bare wellFormed_sentMembers)
    (isObjectOf_bare hextendedForm) hextended keepsPlace_sentMembers (hlist _ hobject)
    (hlist _ hobject') (.cons hechoed .nil)
  exact ⟨hread, hreadList, by decide +kernel⟩

/-- A list of twenty octets with a text behind them that begins with the second half of a
character. -/
def brokenAddress : List Char :=
  listText [] (List.replicate 20 (.bare ['1']) ++
    [.bare (quotedText ['\\', 'u', 'd', 'c', '0', '0', ']', ','])])

/-- The members of a wallet with this address. -/
def brokenMembers : List Member :=
  [.bare ['n', 'a', 'm', 'e'] (quotedText ['a']),
    .bare ['a', 'd', 'd', 'r', 'e', 's', 's'] brokenAddress]

/-- **Where a place is lost**, an inserted member makes a difference: reading goes on in the middle
of the text that stands for nothing, and from there on texts and what is between them are mistaken
for each other. -/
theorem brokenText_misplaces_echo :
    ∃ ms ms' text text', IsObjectOf ms text ∧ IsObjectOf ms' text' ∧ schema.Extended ms ms' ∧
      schema.parse text = .error .endInText ∧ schema.parse text' = .error .missingColon := by
  -- twenty ones, and the text, which the grammar takes although it stands for nothing
  have hbroken : IsValue brokenAddress := by
    refine .list isBlank_nil fun i hi => ?_
    rcases List.mem_append.mp hi with hi | hi
    · have hone : IsUnsigned (['1'] ++ ([] ++ [])) :=
        .mk (.digits (by decide) (by decide)) .none .none
      rw [List.eq_of_mem_replicate hi]
      exact .scalar (.numeral (.positive hone))
    · rw [List.mem_singleton.mp hi]
      have hnumber : IsInner ('\\' :: 'u' :: (['d', 'c', '0', '0'] ++ [']', ','])) :=
        .number rfl (forall_mem_of_all (by decide)) (isInner_of_plain (by decide))
      exact .scalar (.text hnumber)
  have haddress : (Member.bare ['a', 'd', 'd', 'r', 'e', 's', 's'] brokenAddress).WellFormed :=
    ⟨isInner_of_plain (by decide), hbroken⟩
  have hecho : schema.Foreign (.bare echoedName (quotedText ['k'])) :=
    foreign_key ⟨isInner_of_plain (by decide), .scalar (.text (isInner_of_plain (by decide)))⟩ rfl
  have hm : ∀ m ∈ brokenMembers, m.WellFormed :=
    List.forall_mem_cons.mpr ⟨wellFormed_name, List.forall_mem_singleton.mpr haddress⟩
  -- the echo stands behind the address, where reading has lost its place
  have hextended : schema.Extended brokenMembers
      (brokenMembers ++ [.bare echoedName (quotedText ['k'])]) :=
    .keep _ (.keep _ (.insert hecho .nil))
  exact ⟨_, _, _, _, isObjectOf_bare hm, isObjectOf_bare (hextended.wellFormed hm), hextended,
    by decide +kernel, by decide +kernel⟩

end WalletRecord

end WalletPanel
