import WalletPanel.Proofs.Panel.Alone
import WalletPanel.Proofs.Panel.Submissions
import WalletPanel.Proofs.Text.Capitals

/-!
# Typing a symbol comes to the same as pasting it

A symbol is put into its form on every edit, so that what a user types is put into it again and
again, each time with a little more behind it. That this comes to the same as putting the whole text
into it once is `normalizeSymbol_append`. The cut to five characters may fall into the spelling of
one character; what is left of it is in upper case by itself (`Text.upperCase_take`), which is all
that is needed.

From this follows that a text is a symbol if it is short and in upper case (`isSymbol_iff`), that
each form has a symbol whatever is done to it (`isSymbol_run`), and that nobody is shown or sent
another one (`SymbolKept`).
-/

namespace WalletPanel

namespace Token

/-! ### Texts that are symbols -/

/-- What is behind a symbol can be put in with the symbol or with the text that it is of. -/
theorem symbolChars_append (s t : List Char) :
    symbolChars (symbolChars s ++ t) = symbolChars (s ++ t) := by
  unfold symbolChars
  rw [Text.upperCase_append, Text.upperCase_append, Text.upperCase_take, List.take_append,
    List.take_append, List.take_take, Nat.min_self, List.length_take]
  -- what is behind a full symbol is cut off, and what is behind a shorter one is not cut more
  have hroom : ∀ n : Nat, maxSymbolLength - min maxSymbolLength n = maxSymbolLength - n := by
    intro n
    omega
  rw [hroom]

/-- What is typed behind a symbol is as if it were typed behind the text that the symbol is of. -/
theorem normalizeSymbol_append (a b : String) :
    normalizeSymbol (normalizeSymbol a ++ b) = normalizeSymbol (a ++ b) := by
  unfold normalizeSymbol
  rw [String.toList_append, String.toList_append, String.toList_ofList, symbolChars_append]

/-- A text is a symbol if it stays as it is when it is put into the form of symbols. -/
def IsSymbol (s : String) : Prop := normalizeSymbol s = s

/-- A symbol stays as it is. -/
theorem isSymbol_normalizeSymbol (s : String) : IsSymbol (normalizeSymbol s) := by
  have h := normalizeSymbol_append s ""
  rwa [String.append_empty, String.append_empty] at h

/-- Nothing is a symbol. -/
theorem isSymbol_empty : IsSymbol "" := rfl

/-- A text is a symbol if it has five characters at most and is in upper case. -/
theorem isSymbol_iff (s : String) :
    IsSymbol s ↔ s.length ≤ maxSymbolLength ∧ Text.upperCase s.toList = s.toList := by
  unfold IsSymbol
  rw [← String.toList_inj, toList_normalizeSymbol, ← String.length_toList]
  constructor
  · intro h
    -- both hold of what is cut, and a symbol is its own cut
    refine ⟨?_, ?_⟩
    · rw [← h]
      exact length_symbolChars_le _
    · rw [← h]
      exact Text.upperCase_take _ _
  · rintro ⟨hshort, hupper⟩
    rw [symbolChars, hupper, List.take_of_length_le hshort]

end Token

namespace TokenForm

open Token (IsSymbol normalizeSymbol)

/-! ### The symbol of a form -/

/-- What is put into the field is put into the form of symbols. -/
@[simp] theorem symbol_setSymbol (f : TokenForm) (raw : String) :
    (f.setSymbol raw).symbol = normalizeSymbol raw := rfl

/-- Only the last text that was put in is there. -/
theorem setSymbol_setSymbol (f : TokenForm) (raw raw' : String) :
    (f.setSymbol raw).setSymbol raw' = f.setSymbol raw' := rfl

/-- To put texts into the symbol's field one behind the other is to put them in together. -/
theorem foldl_setSymbol {f : TokenForm} (h : IsSymbol f.symbol) (pieces : List String) :
    pieces.foldl (fun g piece => g.setSymbol (g.symbol ++ piece)) f
      = f.setSymbol (f.symbol ++ String.join pieces) := by
  induction pieces generalizing f with
  | nil =>
    have hnone : f.symbol ++ String.join [] = f.symbol := String.append_empty
    rw [List.foldl_nil, hnone, setSymbol, h]
  | cons piece pieces ih =>
    -- the first piece leaves a symbol, behind which the others are typed
    have hset : IsSymbol (f.setSymbol (f.symbol ++ piece)).symbol := by
      rw [symbol_setSymbol]
      exact Token.isSymbol_normalizeSymbol _
    rw [List.foldl_cons, ih hset, symbol_setSymbol, setSymbol_setSymbol, String.join_cons,
      ← String.append_assoc]
    unfold setSymbol
    rw [Token.normalizeSymbol_append]

/-- A request for a token has the symbol of the form, which is not empty. -/
theorem symbol_of_submit {f : TokenForm} {d : Dispatch} (h : f.submit.value.2 = some d) :
    d.call.symbol? = some f.symbol ∧ f.symbol ≠ "" := by
  have hsubmit : f.submit.value.2
      = (submitCall .tokenCreator f.workflow (f.spec.map .createToken)).value.2 := rfl
  rw [hsubmit] at h
  rcases value_submitCall .tokenCreator f.workflow (f.spec.map .createToken) with
    ⟨c, hc, -, hv⟩ | ⟨-, hv⟩
  · rw [hv] at h
    cases h
    -- the call asks for the token that the form describes
    cases hs : f.spec with
    | error e => rw [hs] at hc; cases hc
    | ok token =>
      rw [hs] at hc
      cases hc
      have hdescribes := (spec_eq_ok_iff f token).mp hs
      exact ⟨congrArg some hdescribes.symbol, hdescribes.complete.2.1⟩
  · rw [hv] at h
    cases h

/-- A command keeps a form's symbol a symbol: only an edit of its field puts another one in its
place, and a reset empties the field. -/
theorem isSymbol_obey (f : TokenForm) (c : Command .tokenCreator) (h : IsSymbol f.symbol) :
    IsSymbol (TokenForm.symbol (c.obey f).1) := by
  cases c with
  | submit => exact h
  | complete ticket result => exact h
  | reset => exact Token.isSymbol_empty
  | edit field text =>
    cases field with
    | tokenSymbol => exact Token.isSymbol_normalizeSymbol text
    | _ => exact h

/-- Whatever is done to a form, its symbol is a symbol. -/
theorem isSymbol_run (cs : List (Command .tokenCreator)) :
    IsSymbol (TokenForm.symbol (Command.run WorkflowId.tokenCreator.newForm cs).1) := by
  have hstart : IsSymbol start.symbol := Token.isSymbol_empty
  exact Command.run_keeps (w := .tokenCreator) (P := fun f => IsSymbol (TokenForm.symbol f))
    isSymbol_obey hstart cs

/-! ### What is kept, shown and sent -/

/-- The symbol of a form is one, and it is the same wherever it can be seen. -/
structure SymbolKept (f : TokenForm) : Prop where
  short : f.symbol.length ≤ 5
  upper : Text.upperCase f.symbol.toList = f.symbol.toList
  fixed : normalizeSymbol f.symbol = f.symbol
  /-- To put the symbol in again changes nothing. -/
  retyped : f.setSymbol f.symbol = f
  /-- To type a text behind the symbol bit by bit is to paste it there. -/
  typed : ∀ pieces : List String,
    pieces.foldl (fun g piece => g.setSymbol (g.symbol ++ piece)) f
      = f.setSymbol (f.symbol ++ String.join pieces)
  previewed : f.symbol ≠ "" → f.preview.symbol = f.symbol
  requested : ∀ d, f.submit.value.2 = some d →
    d.call.symbol? = some f.symbol ∧ f.preview.symbol = f.symbol

/-- The preview shows the symbol, if there is one. -/
theorem preview_symbol {f : TokenForm} (h : f.symbol ≠ "") : f.preview.symbol = f.symbol :=
  if_neg h

/-- A form with a symbol keeps it. -/
theorem symbolKept_of_isSymbol {f : TokenForm} (h : IsSymbol f.symbol) : f.SymbolKept := by
  obtain ⟨hshort, hupper⟩ := (Token.isSymbol_iff f.symbol).mp h
  refine ⟨hshort, hupper, h, ?_, foldl_setSymbol h, preview_symbol, fun d hd => ?_⟩
  · rw [setSymbol, h]
  · obtain ⟨hsent, hthere⟩ := symbol_of_submit hd
    exact ⟨hsent, preview_symbol hthere⟩

end TokenForm

/-- **Typing is pasting.** A symbol with a text behind it has the same symbol as the text that it is
of with that text behind it. So a symbol stays as it is when it is put into its form again. Any form
has such a symbol, whatever commands it was given, alone or in a panel: it has five characters at
most and is in upper case, and it is what the preview shows and what a request asks for. -/
theorem typing_is_pasting :
    (∀ a b, Token.normalizeSymbol (Token.normalizeSymbol a ++ b) = Token.normalizeSymbol (a ++ b)) ∧
    (∀ a, Token.normalizeSymbol (Token.normalizeSymbol a) = Token.normalizeSymbol a) ∧
    (∀ cs, TokenForm.SymbolKept (Command.run WorkflowId.tokenCreator.newForm cs).1) ∧
    ∀ ops, (Panel.start.after ops).tokenCreator.SymbolKept := by
  have hrun : ∀ cs, TokenForm.SymbolKept (Command.run WorkflowId.tokenCreator.newForm cs).1 :=
    fun cs => TokenForm.symbolKept_of_isSymbol (TokenForm.isSymbol_run cs)
  refine ⟨Token.normalizeSymbol_append, Token.isSymbol_normalizeSymbol, hrun, fun ops => ?_⟩
  -- in a panel the form is given the commands that the operations have for it
  have hform : (Panel.start.after ops).tokenCreator
      = (Command.run WorkflowId.tokenCreator.newForm
          (Panel.commands .dashboard .tokenCreator ops)).1 :=
    (Panel.run_agrees Panel.start ops .tokenCreator).1
  rw [hform]
  exact hrun _

/-- The cut falls into the spelling of the last character: of its three characters one is kept, and
what is typed behind it is cut off. -/
example : Token.normalizeSymbol (Token.normalizeSymbol "ßabﬃ" ++ "z") = "SSABF" := by
  decide +kernel

end WalletPanel
