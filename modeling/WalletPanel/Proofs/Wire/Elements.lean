import WalletPanel.Proofs.Wire.LocalRecords
import WalletPanel.Proofs.Wallet.Echoes

/-!
# Lists and their elements

A list is read exactly if its text is laid out as elements with commas between them, each of which
is read by itself (`WalletRecord.parseList_eq_ok_iff`). The one direction puts the elements together
again, the other one finds them: a reader of records stops behind a closing bracket, so that what it
has read can be cut off there, and read alone, with the same value (`Reader.Closed`).

A text may be laid out in one way only if it is well-formed and no address in it loses its place.
The elements are then those of the grammar (`WalletRecord.listedBy_iff`).
-/

namespace WalletPanel

namespace Wire

namespace Reader

variable {α β : Type}

/-! ### Readers that stop behind a mark -/

/-- What the reader has read for a value can be read alone, and more text behind it changes
nothing. -/
structure Closed (r : Reader α) : Prop where
  restrict {s rest : List Char} {a : α} : r s = .ok a rest →
    ∃ u, u ≠ [] ∧ s = u ++ rest ∧ r u = .ok a []
  extend {s rest : List Char} {a : α} : r s = .ok a rest → ∀ t, r (s ++ t) = .ok a (rest ++ t)

/-- What readers pass over as blanks are the blanks of the grammar. -/
theorem isBlank_of_isSpace {b : List Char} (h : ∀ c ∈ b, isSpace c = true) : IsBlank b := by
  intro c hc
  have hs := h c hc
  simpa only [isSpace, Bool.or_eq_true, decide_eq_true_eq, or_assoc] using hs

/-- What stands before the first mark. -/
theorem exists_blank (s : List Char) : ∃ b, IsBlank b ∧ s = b ++ s.dropWhile isSpace := by
  refine ⟨s.takeWhile isSpace, isBlank_of_isSpace fun c hc => ?_,
    List.takeWhile_append_dropWhile.symm⟩
  exact List.all_eq_true.mp List.all_takeWhile c hc

/-- Behind the blanks there is no blank. -/
theorem isSpace_head_dropWhile {s t : List Char} {c : Char} (h : s.dropWhile isSpace = c :: t) :
    isSpace c = false := by
  have hc := List.head?_dropWhile_not isSpace s
  rw [h] at hc
  exact hc

/-- **A mark** that has to come next. -/
theorem closed_mark {f : Option Char → Reader Unit} (close : Char) (hspace : isSpace close = false)
    (hsize : close.utf8Size = 1) (hmark : f (some close) = advance)
    (hf : ∀ o s rest, f o s = .ok () rest → o = some close) : Closed (peek >>= f) := by
  -- behind blanks the mark is passed, and this is the only way to pass
  have hpass : ∀ {s rest}, s.dropWhile isSpace = close :: rest → (peek >>= f) s = .ok () rest := by
    intro s rest hs
    have hpeek : peek s = .ok (some close) (close :: rest) := by
      unfold peek
      rw [hs]
      rfl
    rw [bind_of_ok hpeek, hmark, advance_cons hsize]
  have hstop : ∀ {s rest}, (peek >>= f) s = .ok () rest → s.dropWhile isSpace = close :: rest := by
    intro s rest hr
    obtain ⟨o, next, hpeek, hr⟩ := ok_of_bind hr
    have hhead := head_of_peek hpeek
    cases hf o next rest hr
    obtain ⟨t, rfl⟩ := List.head?_eq_some_iff.mp hhead
    rw [hmark, advance_cons hsize] at hr
    cases hr
    exact (EStateM.Result.ok.inj hpeek).2
  -- what was read is blanks and the mark
  refine ⟨fun {s rest _} hr => ?_, fun {s rest _} hr t => hpass ?_⟩
  · obtain ⟨b, hb, hsb⟩ := exists_blank s
    rw [hstop hr] at hsb
    refine ⟨b ++ [close], List.append_ne_nil_of_right_ne_nil b (List.cons_ne_nil _ _), ?_,
      hpass ?_⟩
    · rw [hsb, List.append_assoc]
      rfl
    · rw [List.dropWhile_append_of_pos fun c hc => isSpace_of_isBlank hb hc]
      exact List.dropWhile_cons_of_neg (Bool.not_eq_true _ ▸ hspace)
  · rw [(dropWhile_append isSpace s t).1 (hstop hr ▸ List.cons_ne_nil _ _), hstop hr]
    rfl

/-- **What is local** may stand before. -/
theorem Local.closed {r : Reader α} {f : α → Reader β} (h : Local r) (hf : ∀ a, Closed (f a)) :
    Closed (r >>= f) where
  restrict := by
    intro s rest b hb
    obtain ⟨a, next, hr, hfa⟩ := ok_of_bind hb
    obtain ⟨u, hu, rfl, hfu⟩ := (hf a).restrict hfa
    have hsuffix := h.onward s
    rw [left_of_ok hr] at hsuffix
    obtain ⟨w, rfl⟩ := hsuffix
    -- `r` has read `w`, and `f` all of `u`: with `rest` cut off nothing changes for `r`
    rw [← List.append_assoc] at hr ⊢
    have hsame := h.same (w ++ u) rest
    have hne : left r (w ++ u) ≠ [] := by
      -- what is left would be too much for `rest`
      intro hnil
      have hle := (hsame.beyond hnil).length_le
      rw [left_of_ok hr, List.length_append] at hle
      exact hu (List.eq_nil_of_length_eq_zero (by omega))
    have hwithin := hsame.within hne
    rw [hr] at hwithin
    have hru : r (w ++ u) = .ok a u := by
      cases hw : r (w ++ u) with
      | error e last =>
        rw [hw] at hwithin
        cases hwithin
      | ok a' last =>
        rw [hw] at hwithin
        obtain ⟨ha, hlast⟩ := EStateM.Result.ok.inj hwithin
        rw [ha, List.append_cancel_right hlast]
    refine ⟨w ++ u, List.append_ne_nil_of_right_ne_nil w hu, rfl, ?_⟩
    rw [bind_of_ok hru, hfu]
  extend := by
    intro s rest b hb t
    obtain ⟨a, next, hr, hfa⟩ := ok_of_bind hb
    obtain ⟨u, hu, rfl, -⟩ := (hf a).restrict hfa
    have hne : left r s ≠ [] := by
      rw [left_of_ok hr]
      exact List.append_ne_nil_of_left_ne_nil hu rest
    have hrt := (h.same s t).within hne
    rw [hr] at hrt
    -- the mark that `f` stops at is in `u`, so that `r` has stopped before it
    calc (r >>= f) (s ++ t)
        = f a (u ++ rest ++ t) := bind_of_ok hrt
      _ = .ok b (rest ++ t) := (hf a).extend hfa t

/-- What is done with a value afterwards. -/
theorem Closed.map {r : Reader α} (h : Closed r) (f : α → β) :
    Closed (do let a ← r; pure (f a)) where
  restrict := by
    intro s rest b hb
    obtain ⟨a, next, hr, hfa⟩ := ok_of_bind hb
    cases hfa
    obtain ⟨u, hu, hs, hru⟩ := h.restrict hr
    exact ⟨u, hu, hs, bind_of_ok hru⟩
  extend := by
    intro s rest b hb t
    obtain ⟨a, next, hr, hfa⟩ := ok_of_bind hb
    cases hfa
    exact bind_of_ok (h.extend hr t)

/-- A reader that only fails is closed: there is no value that it reads. -/
theorem closed_throw (e : Error) : Closed (throw e : Reader α) := ⟨nofun, nofun⟩

/-- The bracket of a list is such a mark. -/
theorem closed_closeList : Closed closeList := by
  refine closed_mark ']' rfl rfl rfl fun o s rest h => ?_
  split at h
  · cases h
  · rfl
  · obtain ⟨_, last, -, h⟩ := ok_of_bind h
    obtain ⟨o, last, -, h⟩ := ok_of_bind h
    split at h <;> cases h
  · cases h

/-- The bracket of an object is one as well. -/
theorem closed_closeObject : Closed closeObject := by
  refine closed_mark '\x7d' rfl rfl rfl fun o s rest h => ?_
  split at h
  · cases h
  · rfl
  · cases h
  · cases h

end Reader

open Reader

variable {α : Type} {s : Schema α}

/-! ### Records -/

/-- An object ends with its bracket, and what is done with its members takes nothing more. -/
theorem Schema.closed_readObject (s : Schema α) : Closed s.readObject := by
  have hmembers := (turns_membersFrom local_text (Draft.local_member s.fields) true
    (Draft.empty s.fields)).local
  -- what comes behind the members ends with the bracket
  have hrest : ∀ draft : Draft s.fields, Closed (do
      let row ← Kind.accept (Draft.complete s.fields draft)
      closeObject
      pure (s.ofRow row)) := fun draft =>
    (local_accept _).closed fun row => closed_closeObject.map fun _ => s.ofRow row
  have hclosed := hmembers.closed hrest
  rw [bind_assoc] at hclosed
  exact hclosed

/-- A record that is written as a list ends with the bracket of the list. -/
theorem Schema.closed_readList (s : Schema α) : Closed s.readList :=
  (local_readRow s.name s.fields.length s.fields 0).closed fun row =>
    closed_closeList.map fun _ => s.ofRow row

/-- **A record** ends with a bracket, whichever way it is written. -/
theorem Schema.closed_read (s : Schema α) : Closed s.read := by
  refine local_lead.closed fun l => ?_
  -- an object or a list; any other lead is an error
  split
  · exact local_advance.closed fun _ => s.closed_readObject
  · exact local_advance.closed fun _ => s.closed_readList
  · exact closed_throw _

/-! ### Where an element begins -/

/-- Where a lead is found, a value begins behind blanks. -/
theorem Reader.exists_head_lead {s rest : List Char} {l : Lead} (h : lead s = .ok l rest) :
    ∃ b c t, IsBlank b ∧ s = b ++ c :: t ∧ BeginsValue c := by
  obtain ⟨b, hb, hs⟩ := exists_blank s
  -- nothing but blanks is an error, and so are the marks between values
  cases hw : s.dropWhile isSpace with
  | nil =>
    rw [hw, List.append_nil] at hs
    have hlead : lead s = .error .endInValue [] := by
      have hblank := lead_blank hb []
      rw [List.append_nil] at hblank
      rw [hs, hblank]
      rfl
    rw [hlead] at h
    cases h
  | cons c t =>
    rw [hw] at hs
    refine ⟨b, c, t, hb, hs, isSpace_head_dropWhile hw, ?_⟩
    rw [hs, lead_blank hb] at h
    refine ⟨?_, ?_, ?_⟩ <;> (rintro rfl; cases h)

/-- A list is found at its bracket only, which is left in place. -/
theorem Reader.of_leadFrom_list {c : Char} {s rest : List Char}
    (h : leadFrom c s = .ok .list rest) : c = '[' ∧ rest = s := by
  obtain ⟨r, hr, hrow⟩ := leadRow c
  rw [hr] at h
  -- a row that ends with a scalar does not end with a list
  cases hrow with
  | word _ _ hscalar =>
    obtain ⟨_, _, -, h⟩ := ok_of_bind h
    obtain ⟨_, _, -, h⟩ := ok_of_bind h
    cases h
    obtain h | ⟨b, h⟩ := hscalar <;> cases h
  | negative =>
    obtain ⟨_, _, -, h⟩ := ok_of_bind h
    obtain ⟨_, _, -, h⟩ := ok_of_bind h
    cases h
  | natural =>
    obtain ⟨_, _, -, h⟩ := ok_of_bind h
    cases h
  | text =>
    obtain ⟨_, _, -, h⟩ := ok_of_bind h
    obtain ⟨_, _, -, h⟩ := ok_of_bind h
    cases h
  | list =>
    cases h
    exact ⟨rfl, rfl⟩
  | object => cases h
  | noValue => cases h

/-- A list is found behind blanks, and its bracket is what comes next. -/
theorem Reader.exists_of_lead_list {s rest : List Char} (h : lead s = .ok .list rest) :
    ∃ b t, IsBlank b ∧ s = b ++ '[' :: t ∧ rest = '[' :: t := by
  obtain ⟨b, c, t, hb, rfl, hc⟩ := exists_head_lead h
  rw [lead_blank hb, lead_cons hc.1] at h
  obtain ⟨rfl, rfl⟩ := of_leadFrom_list h
  exact ⟨b, t, hb, rfl, rfl⟩

/-! ### Rows of elements -/

namespace Reader

/-- Where a row is over or goes on: before its bracket, or behind the comma and blanks. -/
theorem exists_of_anotherItem {first isMore : Bool} {s next : List Char}
    (h : anotherItem first s = .ok isMore next) :
    (isMore = false ∧ ∃ b t, IsBlank b ∧ s = b ++ ']' :: t ∧ next = ']' :: t) ∨
    (isMore = true ∧ ∃ b b', IsBlank b ∧ IsBlank b' ∧
      s = (if first then [] else b ++ [',']) ++ (b' ++ next)) := by
  obtain ⟨b, hb, hs⟩ := exists_blank s
  obtain ⟨o, w, hpeek, h⟩ := ok_of_bind h
  have hhead := head_of_peek hpeek
  rw [(EStateM.Result.ok.inj hpeek).2] at hs
  -- the end of the text, the bracket, and anything else
  split at h
  · cases h
  · obtain ⟨t, rfl⟩ := List.head?_eq_some_iff.mp hhead
    cases h
    exact Or.inl ⟨rfl, b, t, hb, hs, rfl⟩
  · obtain ⟨t, rfl⟩ := List.head?_eq_some_iff.mp hhead
    split at h
    · next hfirst =>
      cases h
      refine Or.inr ⟨rfl, b, b, hb, hb, ?_⟩
      rw [if_pos hfirst]
      exact hs
    · next hfirst =>
      split at h
      · next hcomma =>
        subst hcomma
        obtain ⟨_, v, hadvance, h⟩ := ok_of_bind h
        rw [advance_cons rfl] at hadvance
        cases hadvance
        obtain ⟨b', hb', ht⟩ := exists_blank t
        obtain ⟨o, w', hpeek, h⟩ := ok_of_bind h
        rw [(EStateM.Result.ok.inj hpeek).2] at ht
        split at h
        · cases h
        · cases h
        · cases h
          refine Or.inr ⟨rfl, b, b', hb, hb', ?_⟩
          rw [if_neg hfirst, hs, ← ht, List.append_assoc]
          rfl
      · cases h

variable {α : Type} {item : Reader α}

/-- **Items that have been read** are laid out in a row, and each of them is read by itself. -/
theorem exists_items (hi : Closed item) {fuel : Nat} {first : Bool} {done as : List α}
    {s rest : List Char} (h : itemsFrom item fuel first done s = .ok as rest) :
    ∃ b items rs t, IsBlank b ∧ s = rowFrom first b items ++ ']' :: t ∧ rest = ']' :: t ∧
      as = done.reverse ++ rs ∧ List.Forall₂ (fun i r => item i.core = .ok r []) items rs := by
  -- over the turns: each reads one item, and the last one finds the bracket
  induction fuel generalizing first done s with
  | zero => cases h
  | succ fuel ih =>
    obtain ⟨isMore, next, hmore, h⟩ := ok_of_bind h
    rcases exists_of_anotherItem hmore with ⟨rfl, b, t, hb, hs, hnext⟩ | ⟨rfl, b, b', hb, hb', hs⟩
    · cases h
      exact ⟨b, [], [], t, hb, by rw [rowFrom_nil]; exact hs, hnext, (List.append_nil _).symm, .nil⟩
    · obtain ⟨r, last, hitem, hlast⟩ := ok_of_bind h
      -- the item is cut off behind its last mark, and blanks go to what follows
      obtain ⟨u, -, rfl, hu⟩ := hi.restrict hitem
      obtain ⟨b'', items, rs, t, hb'', rfl, hrest, has, hall⟩ := ih hlast
      refine ⟨b, ⟨b', u, b'', hb', hb''⟩ :: items, r :: rs, t, hb, ?_, hrest, ?_, .cons hu hall⟩
      · rw [hs, rowFrom_cons]
        simp only [List.append_assoc]
      · rw [has, List.reverse_cons, List.append_assoc]
        rfl

/-- **A row of items** that are read one by one is read. -/
theorem itemsFrom_row (hi : Closed item) {items : List Padded} {rs : List α}
    (h : List.Forall₂ (fun i r => (∃ c t, i.core = c :: t ∧ BeginsValue c) ∧ item i.core = .ok r [])
      items rs) {fuel : Nat} (hf : items.length < fuel) (first : Bool) {b : List Char}
    (hb : IsBlank b) (done : List α) (rest : List Char) :
    itemsFrom item fuel first done (rowFrom first b items ++ ']' :: rest)
      = .ok (done.reverse ++ rs) (']' :: rest) := by
  -- over the items with their values, each of which takes one turn
  induction h generalizing fuel first b done with
  | nil =>
    obtain ⟨fuel, rfl, -⟩ := exists_turn hf
    have hnone := anotherItem_nil first hb rest
    rw [List.append_nil]
    exact bind_of_ok hnone
  | @cons i r items rs hitem more ih =>
    obtain ⟨fuel, rfl, hle⟩ := exists_turn hf
    obtain ⟨⟨c, t, hct, hc⟩, hr⟩ := hitem
    have hdone : done.reverse ++ r :: rs = (r :: done).reverse ++ rs := by simp
    -- the item was read alone, and what follows it changes nothing
    have hread := hi.extend hr (rowFrom false i.after items ++ ']' :: rest)
    rw [hdone]
    calc itemsFrom item (fuel + 1) first done (rowFrom first b (i :: items) ++ ']' :: rest)
        = (item >>= _) _ := bind_of_ok (anotherItem_cons first hb hct hc items rest)
      _ = itemsFrom item fuel false (r :: done) _ := bind_of_ok hread
      _ = .ok ((r :: done).reverse ++ rs) (']' :: rest) := ih hle false i.blank_after (r :: done)

end Reader

/-! ### Texts that are laid out -/

/-- A text that is laid out as a list of these items, with blanks around it, whatever the items
are. -/
def IsLaidOut (items : List Padded) (text : String) : Prop :=
  ∃ before blanks after, IsBlank before ∧ IsBlank blanks ∧ IsBlank after ∧
    text = String.ofList (before ++ (listText blanks items ++ after))

/-- A row is no more than the texts of its items. -/
theorem rowText_congr {items items' : List Padded}
    (h : List.Forall₂ (fun i i' => i'.text = i.text) items items') (blanks : List Char) :
    rowText blanks items' = rowText blanks items := by
  -- the items behind the first one
  have hmore : ∀ {items items' : List Padded},
      List.Forall₂ (fun i i' => i'.text = i.text) items items' →
      following items' = following items := by
    intro items items' h
    induction h with
    | nil => rfl
    | cons htext _ ih => exact congrArg₂ (fun v w => ',' :: v ++ w) htext ih
  cases h with
  | nil => rfl
  | cons htext more => exact congrArg₂ (· ++ ·) htext (hmore more)

/-- A text is all of what is read if nothing but blanks is left of it. -/
theorem Reader.run_eq_ok_iff {r : Reader α} {t : List Char} {a : α} :
    r.run t = .ok a ↔ ∃ rest, r t = .ok a rest ∧ IsBlank rest := by
  unfold run
  -- what `run` looks at is the value, and that nothing but blanks is left
  constructor
  · intro h
    split at h
    · next a' last hrun =>
      cases h
      obtain ⟨a', rest, hr, hfinish⟩ := ok_of_bind hrun
      obtain ⟨_, last, hend, hpure⟩ := ok_of_bind hfinish
      cases hpure
      refine ⟨rest, hr, ?_⟩
      obtain ⟨b, hb, hrest⟩ := exists_blank rest
      obtain ⟨o, w, hpeek, hend⟩ := ok_of_bind hend
      have hhead := head_of_peek hpeek
      rw [(EStateM.Result.ok.inj hpeek).2] at hrest
      split at hend
      · rw [List.head?_eq_none_iff.mp hhead, List.append_nil] at hrest
        exact hrest ▸ hb
      · cases hend
    · cases h
  · rintro ⟨rest, hr, hb⟩
    have hrun : (do let a ← r; finish; pure a : Reader α) t = .ok a [] :=
      calc (do let a ← r; finish; pure a : Reader α) t
          = (finish >>= _) rest := bind_of_ok hr
        _ = .ok a [] := bind_of_ok (finish_blank hb)
    rw [hrun]

/-- A part that is read by itself up to its end. -/
theorem Schema.parse_of_read {v : List Char} {a : α} (h : s.read v = .ok a []) :
    s.parse (String.ofList v) = .ok a := by
  refine run_eq_ok_iff.mpr ⟨[], ?_, isBlank_nil⟩
  rw [String.toList_ofList]
  exact h

/-- What is read by itself stands between blanks: they may be counted with those around the item. -/
theorem Schema.exists_tight {i : Padded} {a : α} (h : s.parse (String.ofList i.core) = .ok a) :
    ∃ j : Padded, j.text = i.text ∧ (∃ c t, j.core = c :: t ∧ BeginsValue c) ∧
      s.read j.core = .ok a [] := by
  obtain ⟨rest, hr, hrest⟩ := run_eq_ok_iff.mp h
  rw [String.toList_ofList] at hr
  obtain ⟨u, -, hcore, hu⟩ := s.closed_read.restrict hr
  obtain ⟨l, next, hlead, -⟩ := ok_of_bind hu
  -- the blanks in front and behind are moved out of the element
  obtain ⟨b, c, t, hb, rfl, hc⟩ := exists_head_lead hlead
  rw [read_blank hb] at hu
  have hbefore : IsBlank (i.before ++ b) := List.forall_mem_append.mpr ⟨i.blank_before, hb⟩
  have hafter : IsBlank (rest ++ i.after) := List.forall_mem_append.mpr ⟨hrest, i.blank_after⟩
  refine ⟨⟨i.before ++ b, c :: t, rest ++ i.after, hbefore, hafter⟩, ?_, ⟨c, t, rfl, hc⟩, hu⟩
  unfold Padded.text
  rw [hcore]
  simp only [List.append_assoc]

/-- The same for all items of a row at once. -/
theorem Schema.exists_tight_row {items : List Padded} {as : List α}
    (h : List.Forall₂ (fun i a => s.parse (String.ofList i.core) = .ok a) items as) :
    ∃ items' : List Padded, List.Forall₂ (fun i i' => i'.text = i.text) items items' ∧
      List.Forall₂ (fun i a => (∃ c t, i.core = c :: t ∧ BeginsValue c) ∧ s.read i.core = .ok a [])
        items' as := by
  -- item by item
  induction h with
  | nil => exact ⟨[], .nil, .nil⟩
  | cons ha _ ih =>
    obtain ⟨j, htext, hcore, hread⟩ := exists_tight ha
    obtain ⟨items', htexts, hall⟩ := ih
    exact ⟨j :: items', .cons htext htexts, .cons ⟨hcore, hread⟩ hall⟩

end Wire

namespace WalletRecord

open Wire Reader

variable {text : String} {records : List WalletRecord}

/-- The text is laid out as a list of elements, each of which is read by itself as the wallet at its
place. -/
def ListedBy (text : String) (records : List WalletRecord) : Prop :=
  ∃ items, IsLaidOut items text ∧
    List.Forall₂ (fun i r => schema.parse (String.ofList i.core) = .ok r) items records

/-- **A list is read exactly if its elements are**, and then as their wallets in the same order. -/
theorem parseList_eq_ok_iff : parseList text = .ok records ↔ ListedBy text records := by
  unfold parseList
  rw [run_eq_ok_iff]
  constructor
  · rintro ⟨after, h, hafter⟩
    obtain ⟨l, next, hlead, h⟩ := ok_of_bind h
    -- only a list gets past its lead
    split at h
    · obtain ⟨before, t, hbefore, htext, rfl⟩ := exists_of_lead_list hlead
      obtain ⟨_, last, hadvance, h⟩ := ok_of_bind h
      rw [advance_cons rfl] at hadvance
      cases hadvance
      obtain ⟨_, _, hget, h⟩ := ok_of_bind h
      cases hget
      obtain ⟨rs, last, hitems, h⟩ := ok_of_bind h
      obtain ⟨blanks, items, rs, t, hb, rfl, rfl, rfl, hall⟩ :=
        exists_items schema.closed_read hitems
      rw [bind_of_ok (closeList_bracket t)] at h
      cases h
      refine ⟨items, ⟨before, blanks, after, hbefore, hb, hafter, ?_⟩, hall.imp fun _ _ => ?_⟩
      · rw [listText_append, ← String.ofList_toList (s := text)]
        exact congrArg String.ofList htext
      · exact Schema.parse_of_read
    · cases h
  · rintro ⟨items, ⟨before, blanks, after, hbefore, hb, hafter, rfl⟩, hall⟩
    -- each item is read up to its end only if the blanks in it are counted with those around it
    obtain ⟨items', htexts, hread⟩ := Schema.exists_tight_row hall
    have hfuel : items'.length < (rowText blanks items' ++ ']' :: after).length + 1 := by
      have := length_le_row blanks items'
      rw [List.length_append, List.length_cons]
      omega
    have hitems := itemsFrom_row schema.closed_read hread hfuel true hb [] after
    have hlist : (listOf schema.read) (rowText blanks items' ++ ']' :: after) = .ok records after :=
      calc (listOf schema.read) (rowText blanks items' ++ ']' :: after)
          = (itemsFrom schema.read _ true [] >>= _) _ := bind_get _
        _ = (closeList >>= _) (']' :: after) := bind_of_ok hitems
        _ = .ok records after := bind_of_ok (closeList_bracket after)
    refine ⟨after, ?_, hafter⟩
    rw [String.toList_ofList, listText_append, ← rowText_congr htexts]
    calc (lead >>= _) (before ++ '[' :: (rowText blanks items' ++ ']' :: after))
        = (lead >>= _) ('[' :: (rowText blanks items' ++ ']' :: after)) :=
          bind_congr (lead_blank hbefore _)
      _ = (listOf schema.read) (rowText blanks items' ++ ']' :: after) := bind_lead_list rfl _
      _ = .ok records after := hlist

/-! ### Elements of a well-formed list -/

/-- What a row of elements comes to. -/
theorem mapM_eq_ok_iff {ε α β : Type} {f : α → Except ε β} {l : List α} {bs : List β} :
    l.mapM f = .ok bs ↔ List.Forall₂ (fun a b => f a = .ok b) l bs := by
  -- over the row, whose first element decides first
  induction l generalizing bs with
  | nil =>
    rw [List.mapM_nil, List.forall₂_nil_left_iff]
    exact ⟨fun h => (Except.ok.inj h).symm, fun h => h ▸ rfl⟩
  | cons a l ih =>
    rw [List.mapM_cons, List.forall₂_cons_left_iff]
    constructor
    · intro h
      obtain ⟨b, hb, h⟩ := exists_of_bind h
      obtain ⟨bs', hbs, h⟩ := exists_of_bind h
      cases h
      exact ⟨b, bs', hb, ih.mp hbs, rfl⟩
    · rintro ⟨b, bs', hb, hbs, rfl⟩
      rw [hb, ih.mpr hbs]
      rfl

/-- **The elements of a well-formed list** are those of the grammar, as long as no address in them
loses its place. -/
theorem listedBy_iff {items : List Padded} (h : IsListOf items text)
    (hs : ∀ i ∈ items, schema.Steady i.core) : ListedBy text records ↔
      List.Forall₂ (fun i r => schema.parse (String.ofList i.core) = .ok r) items records := by
  -- an element that is steady comes to the same alone and in its place
  have hparse : ∀ i ∈ items, schema.parse (String.ofList i.core) = schema.read.outcome i.core := by
    intro i hi
    have hrun : schema.read.run ([] ++ (i.core ++ [])) = schema.read.outcome i.core :=
      Yields.run_eq (fun _ => rfl) (hs i hi).settles isBlank_nil
    rw [List.nil_append, List.append_nil] at hrun
    unfold Schema.parse
    rw [String.toList_ofList]
    exact hrun
  rw [← parseList_eq_ok_iff, parseList_list h fun i hi => (hs i hi).settles, mapM_eq_ok_iff]
  constructor
  · intro hall
    refine ((List.forall₂_and_left _ _).mpr ⟨hparse, hall⟩).imp fun i r hr => ?_
    exact hr.1.trans hr.2
  · intro hall
    refine ((List.forall₂_and_left _ _).mpr ⟨hparse, hall⟩).imp fun i r hr => ?_
    exact hr.1.symm.trans hr.2

end WalletRecord

end WalletPanel
