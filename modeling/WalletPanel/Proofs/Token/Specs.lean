import Mathlib.Algebra.Ring.Nat
import WalletPanel.Form.TokenForm
import WalletPanel.Proofs.Text.Grammar

/-!
# Which token a form describes

The law of the token form, said without its checks: which token a form describes is a matter of its
four texts and of the grammar of numerals (`TokenForm.Describes`), and so is what is wrong with it
(`TokenForm.demands`, `FirstUnmet`). A form describes at most one token, and either it describes one
or there is a first thing wrong with it, never both; so it is enough to see that each way through
`TokenForm.spec` ends at the one or the other (`TokenForm.spec_cases`).

The preview reads the same texts by itself. It has a placeholder for each that it can make nothing
of, and none of them is shown where the form describes a token.
-/

namespace WalletPanel

/-! ### Demands in order -/

/-- The demand that a row of demands fails at: those before it are met. -/
inductive FirstUnmet {α : Type} : List (α × Prop) → α → Prop where
  | here {e : α} {p : Prop} {demands : List (α × Prop)} (h : ¬ p) :
      FirstUnmet ((e, p) :: demands) e
  | later {e e' : α} {p : Prop} {demands : List (α × Prop)} (h : p)
      (hrest : FirstUnmet demands e') : FirstUnmet ((e, p) :: demands) e'

namespace FirstUnmet

variable {α : Type} {demands : List (α × Prop)} {e e' : α}

/-- A row of demands fails at one of them first. -/
theorem unique (h : FirstUnmet demands e) (h' : FirstUnmet demands e') : e = e' := by
  induction h with
  | here hp =>
    cases h' with
    | here _ => rfl
    | later hp' _ => exact absurd hp' hp
  | later hp _ ih =>
    cases h' with
    | here hp' => exact absurd hp hp'
    | later _ hrest => exact ih hrest

/-- It fails at one that is not met. -/
theorem exists_unmet (h : FirstUnmet demands e) : ∃ demand ∈ demands, ¬ demand.2 := by
  induction h with
  | here hp => exact ⟨_, List.mem_cons_self, hp⟩
  | later _ _ ih =>
    obtain ⟨demand, hmem, hunmet⟩ := ih
    exact ⟨demand, List.mem_cons_of_mem _ hmem, hunmet⟩

end FirstUnmet

namespace TokenForm

open Text (Spells trimBlank)

variable {f : TokenForm}

/-! ### What a form says -/

/-- A form with something in each field that has to have something. -/
def Complete (f : TokenForm) : Prop :=
  trimBlank f.name ≠ "" ∧ f.symbol ≠ "" ∧ trimBlank f.totalSupply ≠ ""

/-- What a form has to meet, with what is wrong with it otherwise, in the order in which the user is
told. -/
def demands (f : TokenForm) : List (ValidationError × Prop) :=
  [(.missingTokenFields, f.Complete),
    (.invalidTotalSupply, ∃ v < 2 ^ 64, Spells f.totalSupply v),
    (.zeroTotalSupply, ¬ Spells f.totalSupply 0),
    (.invalidDecimals, ∃ d < 2 ^ 8, Spells f.decimals d)]

/-- The token that a form describes. -/
structure Describes (f : TokenForm) (token : TokenSpec) : Prop where
  complete : f.Complete
  name : token.name = f.name
  symbol : token.symbol = f.symbol
  /-- The supply is the number that the form spells, and no other. -/
  supply : ∀ v, Spells f.totalSupply v ↔ v = token.totalSupply.toNat
  positive : 0 < token.totalSupply.toNat
  /-- The decimal places are the number that the form spells, and no other. -/
  decimals : ∀ d, Spells f.decimals d ↔ d = token.decimals.toNat

/-- A form describes one token at most. -/
theorem Describes.unique {token token' : TokenSpec} (h : f.Describes token)
    (h' : f.Describes token') : token = token' := by
  have hsupply := (h'.supply _).mp ((h.supply _).mpr rfl)
  have hdecimals := (h'.decimals _).mp ((h.decimals _).mpr rfl)
  cases token
  cases token'
  rw [TokenSpec.mk.injEq]
  exact ⟨h.name.trans h'.name.symm, h.symbol.trans h'.symbol.symm, UInt64.toNat_inj.mp hsupply,
    UInt8.toNat_inj.mp hdecimals⟩

/-- Numbers that fit are kept as they are. -/
theorem describes_of_spells {v d : Nat} (hc : f.Complete) (hv : Spells f.totalSupply v)
    (hpos : 0 < v) (hfits : v < 2 ^ 64) (hd : Spells f.decimals d) (hfits' : d < 2 ^ 8) :
    f.Describes ⟨f.name, f.symbol, v.toUInt64, d.toUInt8⟩ := by
  have hsupply : v.toUInt64.toNat = v := UInt64.toNat_ofNat_of_lt' hfits
  have hdecimals : d.toUInt8.toNat = d := UInt8.toNat_ofNat_of_lt' hfits'
  refine ⟨hc, rfl, rfl, fun v' => ?_, hsupply.symm ▸ hpos, fun d' => ?_⟩
  · rw [hsupply]
    exact ⟨fun hv' => hv'.unique hv, fun h => h ▸ hv⟩
  · rw [hdecimals]
    exact ⟨fun hd' => hd'.unique hd, fun h => h ▸ hd⟩

/-- A form that describes a token meets what is demanded. -/
theorem Describes.not_firstUnmet {token : TokenSpec} (h : f.Describes token)
    (e : ValidationError) : ¬ FirstUnmet f.demands e := by
  intro hfirst
  obtain ⟨demand, hmem, hunmet⟩ := hfirst.exists_unmet
  -- every demand is met by what the token says of the texts
  have hmet : ∀ demand ∈ f.demands, demand.2 := by
    unfold demands
    simp only [List.forall_mem_cons]
    refine ⟨h.complete, ?_, ?_, ?_, nofun⟩
    -- the supply of a token is a word, so that it fits
    · exact ⟨_, token.totalSupply.toNat_lt, (h.supply _).mpr rfl⟩
    · intro hzero
      exact absurd ((h.supply 0).mp hzero) (Nat.ne_of_lt h.positive)
    · exact ⟨_, token.decimals.toNat_lt, (h.decimals _).mpr rfl⟩
  exact hunmet (hmet demand hmem)

/-! ### What is read off a form -/

/-- A supply is read off a form if it spells a number that fits into 64 bits. -/
theorem supply?_eq_some_iff (f : TokenForm) (v : Nat) :
    f.supply? = some v ↔ Spells f.totalSupply v ∧ v < 2 ^ 64 := by
  unfold Spells
  rw [Text.toList_trimBlank]
  exact Text.numeralBelow?_eq_some_iff _ _ v

/-- Decimal places are read off a form if they spell a number that fits into 8 bits. -/
theorem decimals?_eq_some_iff (f : TokenForm) (d : Nat) :
    f.decimals? = some d ↔ Spells f.decimals d ∧ d < 2 ^ 8 := by
  unfold Spells
  rw [Text.toList_trimBlank]
  exact Text.numeralBelow?_eq_some_iff _ _ d

/-- A form is checked for what is missing by the texts as they are. -/
theorem complete_iff (f : TokenForm) :
    f.Complete ↔
      ¬ (Text.allBlank f.name = true ∨ f.symbol = "" ∨ Text.allBlank f.totalSupply = true) := by
  unfold Complete
  rw [not_or, not_or, ne_eq, ne_eq, ne_eq, Text.trimBlank_eq_empty_iff, Text.trimBlank_eq_empty_iff]

/-- Each way through the checks ends at what is wrong first or at the token. The cases are those of
the checks, one after the other. -/
theorem spec_cases (f : TokenForm) :
    (∃ e, f.spec = .error e ∧ FirstUnmet f.demands e) ∨
      ∃ token, f.spec = .ok token ∧ f.Describes token := by
  unfold spec demands
  split
  · rename_i hmissing
    exact .inl ⟨_, rfl, .here fun hc => (complete_iff f).mp hc hmissing⟩
  rename_i hthere
  have hc : f.Complete := (complete_iff f).mpr hthere
  cases hs : f.supply? with
  | none =>
    -- a supply that is spelled and fits would have been read
    refine .inl ⟨_, rfl, .later hc (.here ?_)⟩
    rintro ⟨v, hfits, hv⟩
    rw [(supply?_eq_some_iff f v).mpr ⟨hv, hfits⟩] at hs
    cases hs
  | some v =>
    obtain ⟨hv, hfits⟩ := (supply?_eq_some_iff f v).mp hs
    cases v with
    | zero => exact .inl ⟨_, rfl, .later hc (.later ⟨0, hfits, hv⟩ (.here (not_not_intro hv)))⟩
    | succ v =>
      -- a text that spells this number does not spell zero as well
      have hnonzero : ¬ Spells f.totalSupply 0 := fun hzero => by cases hzero.unique hv
      cases hd : f.decimals? with
      | none =>
        refine .inl ⟨_, rfl, .later hc (.later ⟨_, hfits, hv⟩ (.later hnonzero (.here ?_)))⟩
        rintro ⟨d, hfits', hd'⟩
        rw [(decimals?_eq_some_iff f d).mpr ⟨hd', hfits'⟩] at hd
        cases hd
      | some d =>
        obtain ⟨hd', hfits'⟩ := (decimals?_eq_some_iff f d).mp hd
        exact .inr ⟨_, rfl, describes_of_spells hc hv v.succ_pos hfits hd' hfits'⟩

/-- A form has a token for its `spec` exactly if it describes the token. -/
theorem spec_eq_ok_iff (f : TokenForm) (token : TokenSpec) :
    f.spec = .ok token ↔ f.Describes token := by
  rcases spec_cases f with ⟨e, hspec, hfirst⟩ | ⟨token', hspec, hdescribes⟩ <;> rw [hspec]
  · exact ⟨nofun, fun h => absurd hfirst (h.not_firstUnmet e)⟩
  · rw [Except.ok.injEq]
    exact ⟨fun h => h ▸ hdescribes, fun h => hdescribes.unique h⟩

/-- A form is refused for the first demand that it does not meet. -/
theorem spec_eq_error_iff (f : TokenForm) (e : ValidationError) :
    f.spec = .error e ↔ FirstUnmet f.demands e := by
  rcases spec_cases f with ⟨e', hspec, hfirst⟩ | ⟨token, hspec, hdescribes⟩ <;> rw [hspec]
  · rw [Except.error.injEq]
    exact ⟨fun h => h ▸ hfirst, fun h => hfirst.unique h⟩
  · exact ⟨nofun, fun h => absurd h (hdescribes.not_firstUnmet e)⟩

/-! ### What is shown -/

/-- Only the supply zero is shown as a zero. -/
theorem formatSupply_ne_zero {supply : UInt64} (h : 0 < supply.toNat) :
    formatSupply supply ≠ "0" := by
  intro hzero
  have hgroups : Text.grouped (Text.decimal supply.toNat) = ['0'] := String.ofList_inj.mp hzero
  -- without the commas there is a zero left, which is the number zero
  have hdigits : Text.decimal supply.toNat = ['0'] := by
    rw [← Text.filter_grouped_decimal, hgroups]
    rfl
  have hvalue : supply.toNat = 0 := by
    rw [← Text.digitsValue_decimal supply.toNat, hdigits]
    rfl
  omega

/-- The preview of a form that describes a token shows the token. -/
theorem Describes.preview_eq {token : TokenSpec} (h : f.Describes token) :
    f.preview = ⟨trimBlank token.name, token.symbol, formatSupply token.totalSupply⟩ := by
  obtain ⟨hname, hsymbol, -⟩ := h.complete
  have hsupply : f.supply? = some token.totalSupply.toNat :=
    (supply?_eq_some_iff f _).mpr ⟨(h.supply _).mpr rfl, token.totalSupply.toNat_lt⟩
  have hlegible : ¬ Text.allBlank f.name = true := mt (Text.trimBlank_eq_empty_iff f.name).mpr hname
  unfold preview
  rw [if_neg hlegible, if_neg hsymbol, hsupply, h.name, h.symbol]
  -- the number that was read is the word that it came from
  exact congrArg (TokenPreview.mk _ _ <| formatSupply ·) token.totalSupply.ofNat_toNat

end TokenForm

/-- **The token form reads its grammar.** A form describes a token if none of the texts that it
needs is blank or empty, its supply spells a number that is not zero and fits into 64 bits, and its
decimal places spell one that fits into 8. The token has the name and the symbol as they are, and
the numbers that are spelled. Any other form is refused for the first of its faults. What the
preview shows of a form that describes a token is that token, and no placeholder. -/
theorem TokenForm.spec_follows_grammar (f : TokenForm) :
    ((∃ token, f.spec = .ok token) ↔
      f.Complete ∧ (∃ v, Text.Spells f.totalSupply v ∧ 0 < v ∧ v < 2 ^ 64) ∧
        ∃ d, Text.Spells f.decimals d ∧ d < 2 ^ 8) ∧
    (∀ token, f.spec = .ok token ↔ f.Describes token) ∧
    (∀ e, f.spec = .error e ↔ FirstUnmet f.demands e) ∧
    ∀ token, f.spec = .ok token →
      f.preview = ⟨Text.trimBlank token.name, token.symbol, formatSupply token.totalSupply⟩ ∧
      Text.trimBlank token.name ≠ "" ∧ token.symbol ≠ "" ∧
      formatSupply token.totalSupply ≠ "0" := by
  refine ⟨⟨?_, ?_⟩, spec_eq_ok_iff f, spec_eq_error_iff f, ?_⟩
  · -- what the token says of the form
    rintro ⟨token, htoken⟩
    have h := (spec_eq_ok_iff f token).mp htoken
    exact ⟨h.complete, ⟨_, (h.supply _).mpr rfl, h.positive, token.totalSupply.toNat_lt⟩,
      _, (h.decimals _).mpr rfl, token.decimals.toNat_lt⟩
  · -- the token that the form describes
    rintro ⟨hc, ⟨v, hv, hpos, hfits⟩, d, hd, hfits'⟩
    exact ⟨_, (spec_eq_ok_iff f _).mpr (describes_of_spells hc hv hpos hfits hd hfits')⟩
  · -- the preview beside the token
    intro token htoken
    have h := (spec_eq_ok_iff f token).mp htoken
    refine ⟨h.preview_eq, ?_, ?_, formatSupply_ne_zero h.positive⟩
    · rw [h.name]
      exact h.complete.1
    · rw [h.symbol]
      exact h.complete.2.1

/-- A form with blanks around its texts, signs and leading zeros, and the largest numbers. -/
def TokenForm.roomy : TokenForm :=
  ⟨" Demo ", "DMX", "\u00a0+0018446744073709551615 ", "+0255\n", .start⟩

/-- The name goes out with its blanks and is shown without them. -/
theorem TokenForm.roomy_is_shown :
    roomy.spec = .ok ⟨" Demo ", "DMX", 18446744073709551615, 255⟩ ∧
    roomy.preview = ⟨"Demo", "DMX", "18,446,744,073,709,551,615"⟩ := by
  have h : roomy.spec = .ok ⟨" Demo ", "DMX", 18446744073709551615, 255⟩ := by
    decide +kernel
  obtain ⟨hshown, -⟩ := (spec_follows_grammar roomy).2.2.2 _ h
  refine ⟨h, ?_⟩
  rw [hshown]
  decide +kernel

end WalletPanel
