import Mathlib.Logic.Function.Basic
import WalletPanel.Panel.Description
import WalletPanel.Proofs.Panel.Censored
import WalletPanel.Proofs.Text.Quotes

/-!
# What descriptions say of keys

Where a key is held as a `PrivateKey`, or as the text of a copy, a description says the same
whatever the key is: to censor a value does not change how it is described (`description_censored`,
for each kind of value), so that values with the same censored form are described alike.

The form that imports a wallet is the exception. It holds the key as the text that was typed, and
its description has this text between quotes. As quotes tell texts apart, two descriptions of that
form are the same only if the keys are (`ImportForm.description_withKey`).
-/

namespace WalletPanel

open Text.Described

/-! ### Censored values -/

/-- A request to import a wallet with a placeholder for its key. -/
def ImportWalletRequest.censored (r : ImportWalletRequest) : ImportWalletRequest :=
  { r with privateKey := .placeholder }

/-- A new wallet is described without its key. -/
theorem CreatedWallet.description_censored (w : CreatedWallet) :
    w.censored.description = w.description := rfl

/-- A request to import a wallet is described without its key. -/
theorem ImportWalletRequest.description_censored (r : ImportWalletRequest) :
    r.censored.description = r.description := rfl

/-- So is every call, since only one of them has a key. -/
theorem RemoteCall.description_censored (c : RemoteCall) :
    c.censored.description = c.description := by
  cases c <;> rfl

/-- A reply is described without the key in it. -/
theorem RemoteReply.description_censored (r : RemoteReply) :
    r.censored.description = r.description := by
  cases r with
  -- the only reply with a key
  | createdWallet result => cases result <;> rfl
  | _ => rfl

/-- So is a call on its way. -/
theorem Dispatch.description_censored (d : Dispatch) :
    d.censored.description = d.description := by
  unfold Dispatch.description Dispatch.censored
  rw [d.call.description_censored]

/-- So is what comes back for it. -/
theorem Completion.description_censored (c : Completion) :
    c.censored.description = c.description := by
  unfold Completion.description Completion.censored
  rw [c.reply.description_censored]

/-- Where values are described alike after a change, so are the workflows that hold them. -/
theorem Workflow.description_map {describe : β → String} {f : α → β} (label : String)
    (w : Workflow α) :
    (w.map f).description label describe = w.description label (describe ∘ f) := by
  unfold Workflow.description Workflow.map
  cases w.state <;> rfl

/-- The form that creates wallets is described without the key that it holds. -/
theorem CreateForm.description_censored (log : NoticeLog) (f : CreateForm) :
    f.censored.description log = f.description log := by
  unfold CreateForm.description CreateForm.censored
  rw [Workflow.description_map]
  rfl

/-- Where censoring a value does not change how it is described, a description says no more of it
than its censored form. -/
theorem factorsThrough_of_censored {describe : α → String} {censor : α → α}
    (h : ∀ a, describe (censor a) = describe a) : describe.FactorsThrough censor := by
  intro a b hab
  rw [← h a, hab, h b]

/-! ### The key that is being typed -/

/-- Joined texts that differ at one place differ there. -/
theorem intercalate_inj {separator x y : String} (before after : List String)
    (h : separator.intercalate (before ++ x :: after)
      = separator.intercalate (before ++ y :: after)) : x = y := by
  -- what stands before is the same on both sides and is taken off text by text
  induction before with
  | nil =>
    cases after with
    | nil => exact h
    | cons z after =>
      rw [List.nil_append, List.nil_append, String.intercalate_cons_cons,
        String.intercalate_cons_cons, String.append_left_inj, String.append_left_inj] at h
      exact h
  | cons z before ih =>
    have hne : ∀ w : String, before ++ w :: after ≠ [] := fun w => by simp
    rw [List.cons_append, List.cons_append, String.intercalate_cons_of_ne_nil (hne x),
      String.intercalate_cons_of_ne_nil (hne y), String.append_right_inj] at h
    exact ih h

/-- Records that differ in one field are described differently, if the values in it are. -/
theorem withFields_inj {name field value value' : String} (before after : List (String × String))
    (h : withFields name (before ++ (field, value) :: after)
      = withFields name (before ++ (field, value') :: after)) : value = value' := by
  unfold withFields at h
  rw [List.map_append, List.map_append, List.map_cons, List.map_cons] at h
  have hinside := (String.append_right_inj _).mp ((String.append_left_inj _).mp h)
  exact (String.append_right_inj _).mp (intercalate_inj _ _ hinside)

/-- The description of the form tells keys apart, every two of them. -/
theorem ImportForm.description_withKey (log : NoticeLog) (f : ImportForm) (key : String) :
    { f with key := key }.description log = f.description log ↔ key = f.key := by
  constructor
  · intro h
    exact Text.quoted_injective (withFields_inj [_] [_, _] h)
  · rintro rfl
    rfl

/-! ### All kinds of values -/

/-- **Descriptions hide keys, but for the one that is being typed.** The description of a key does
not depend on the key, and what holds keys is described by what is left of it when the keys in it
are censored; a copy is described by what is copied, and not by the text. The form that imports a
wallet shows the key in its input: it is described alike for two keys only if they are the same. -/
theorem descriptions_hide_keys (label : String) (log : NoticeLog) (f : ImportForm) (key : String) :
    (∀ k k' : PrivateKey, k.description = k'.description) ∧
    CreatedWallet.description.FactorsThrough CreatedWallet.censored ∧
    ImportWalletRequest.description.FactorsThrough ImportWalletRequest.censored ∧
    RemoteCall.description.FactorsThrough RemoteCall.censored ∧
    RemoteReply.description.FactorsThrough RemoteReply.censored ∧
    Dispatch.description.FactorsThrough Dispatch.censored ∧
    Completion.description.FactorsThrough Completion.censored ∧
    CopyJob.description.FactorsThrough CopyJob.target ∧
    (Workflow.description label CreatedWallet.description).FactorsThrough
      (Workflow.map CreatedWallet.censored) ∧
    (CreateForm.description log).FactorsThrough CreateForm.censored ∧
    ({ f with key := key }.description log = f.description log ↔ key = f.key) := by
  refine ⟨fun _ _ => rfl, factorsThrough_of_censored CreatedWallet.description_censored,
    factorsThrough_of_censored ImportWalletRequest.description_censored,
    factorsThrough_of_censored RemoteCall.description_censored,
    factorsThrough_of_censored RemoteReply.description_censored,
    factorsThrough_of_censored Dispatch.description_censored,
    factorsThrough_of_censored Completion.description_censored, fun j j' h => ?_,
    factorsThrough_of_censored (Workflow.description_map label),
    factorsThrough_of_censored (CreateForm.description_censored log),
    f.description_withKey log key⟩
  -- a job is described by its target alone
  unfold CopyJob.description
  rw [h]

/-- Two wallets with different keys are described alike. -/
theorem created_described_alike :
    CreatedWallet.censored ⟨⟨"w", ⟨.replicate 20 0⟩, none⟩, ⟨"a"⟩⟩
      = CreatedWallet.censored ⟨⟨"w", ⟨.replicate 20 0⟩, none⟩, ⟨"b"⟩⟩ ∧
    CreatedWallet.description ⟨⟨"w", ⟨.replicate 20 0⟩, none⟩, ⟨"a"⟩⟩
      = CreatedWallet.description ⟨⟨"w", ⟨.replicate 20 0⟩, none⟩, ⟨"b"⟩⟩ :=
  ⟨rfl, (descriptions_hide_keys "create_wallet" .empty .start "a").2.1 rfl⟩

/-- Two forms that differ in nothing but the key that has been typed, and not alike to look at. -/
theorem typed_described_apart :
    ImportForm.censored { ImportForm.start with key := "a" }
      = ImportForm.censored { ImportForm.start with key := "b" } ∧
    ImportForm.description .empty { ImportForm.start with key := "a" }
      ≠ ImportForm.description .empty { ImportForm.start with key := "b" } := by
  constructor
  · decide +kernel
  · decide +kernel

end WalletPanel
