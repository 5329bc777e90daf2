import WalletPanel.Proofs.Panel.Alone

/-!
# The parity of the mask

Whether a key is shown is kept in a flag beside the workflow that holds the wallet, and four
commands write to the one or the other. This module says that the flag has no memory beyond the
wallet: it is set if the mask has been turned an odd number of times since the completion that
brought the wallet, and whatever was done before has no part in it.

A command can do one of three things to the wallet and its mask (`CreateForm.Turn`): bring a new
wallet, masked; keep what is there, where only a toggle turns the mask, and only if there is a
wallet; or give up the wallet together with the flag. Two things follow by induction on the
commands: the flag is not set where there is no wallet (`CreateForm.held_of_revealed`), and where
there is one it counts the toggles since the wallet came (`CreateForm.parity_run`).
-/

namespace WalletPanel

namespace Command

/-- Whether a command turns the mask. -/
def isToggle : Command .createWallet → Bool
  | toggleReveal => true
  | _ => false

/-- How often a row of commands turns the mask. -/
def toggles (cs : List (Command .createWallet)) : Nat := cs.countP isToggle

/-- One more command turns the mask once more if it is a toggle. -/
theorem toggles_concat (cs : List (Command .createWallet)) (c : Command .createWallet) :
    toggles (cs ++ [c]) = toggles cs + if c.isToggle then 1 else 0 := by
  unfold toggles
  rw [List.countP_append, List.countP_singleton]

end Command

namespace CreateForm

variable {f : CreateForm} {wallet : CreatedWallet}

/-! ### The wallet and its mask -/

/-- The wallet that a form holds. -/
def held? (f : CreateForm) : Option CreatedWallet := f.workflow.state.value?

/-- A wallet is held after a success. -/
theorem held?_eq_some_iff : f.held? = some wallet ↔ f.workflow.state = .succeeded wallet :=
  f.workflow.state.value?_eq_some_iff wallet

/-- No wallet is held in any other state. -/
theorem held?_eq_none_iff : f.held? = none ↔ ∀ wallet, f.workflow.state ≠ .succeeded wallet := by
  rw [Option.eq_none_iff_forall_ne_some]
  exact forall_congr' fun wallet => not_congr held?_eq_some_iff

/-- The key is shown as the mask has it. -/
theorem keyDisplay?_eq (f : CreateForm) :
    f.keyDisplay? = f.held?.map fun wallet =>
      if f.revealed then wallet.privateKey.expose else PrivateKey.mask := by
  unfold keyDisplay? privateKey? held?
  rw [Option.map_map]
  rfl

/-- A key is shown just when a wallet is held. -/
theorem keyDisplay?_eq_none_iff : f.keyDisplay? = none ↔ f.held? = none := by
  rw [keyDisplay?_eq, Option.map_eq_none_iff]

/-- Where there is a wallet, a toggle turns its mask. -/
theorem toggleReveal_of_held (h : f.held? = some wallet) :
    f.toggleReveal = { f with revealed := !f.revealed } := by
  have hkey : f.privateKey? = some wallet.privateKey := congrArg (Option.map _) h
  rw [toggleReveal, hkey]
  rfl

/-- Without a wallet there is nothing to unmask. -/
theorem toggleReveal_of_not_held (h : f.held? = none) : f.toggleReveal = f := by
  have hkey : f.privateKey? = none := congrArg (Option.map _) h
  rw [toggleReveal, hkey]
  rfl

/-! ### What a command does to them -/

/-- What a command can do to the wallet of a form and to its mask, where `g` is the form after it
and `answer` what the form answers. -/
inductive Turn (f : CreateForm) (c : Command .createWallet) (g : CreateForm)
    (answer : Panel.Answer) : Prop where
  /-- A completion brings a wallet. -/
  | brings (ticket : UInt64) (wallet : CreatedWallet) (command : c = .complete ticket (.ok wallet))
      (taken : answer = .resolution .succeeded) (held : g.held? = some wallet)
      (masked : g.revealed = false)
  /-- The wallet stays, if there is one; only a toggle turns its mask. -/
  | keeps (untaken : answer ≠ .resolution .succeeded) (held : g.held? = f.held?)
      (mask : g.revealed = (f.revealed ^^ (c.isToggle && f.held?.isSome)))
  /-- The wallet is given up. -/
  | drops (untaken : answer ≠ .resolution .succeeded) (held : g.held? = none)
      (masked : g.revealed = false)

/-- A submission that goes out finds no wallet, and any other leaves the form as it is. -/
theorem turn_submit (f : CreateForm) :
    f.Turn .submit f.submit.value.1 (.dispatch f.submit.value.2) := by
  have hvalue : f.submit.value.1
      = { f with workflow := (submitCall .createWallet f.workflow f.call).value.1 } := rfl
  refine .keeps nofun ?_ ?_
  · rw [hvalue]
    rcases value_submitCall .createWallet f.workflow f.call with ⟨c, -, hready, hv⟩ | ⟨-, hv⟩
    · have hnone : f.held? = none := by
        rw [held?_eq_none_iff]
        intro wallet hstate
        -- after a success the form has to be reset first
        have hphase : f.workflow.phase = .succeeded := congrArg WorkflowState.phase hstate
        rcases hready with h | h <;> rw [hphase] at h <;> cases h
      rw [hnone, hv]
      rfl
    · rw [hv]
  · rw [hvalue]
    exact (Bool.xor_false f.revealed).symm

/-- Only a wallet that was waited for is brought. -/
theorem turn_complete (f : CreateForm) (ticket : UInt64)
    (result : Except RemoteError CreatedWallet) :
    f.Turn (.complete ticket result) (f.complete ticket result).value.1
      (.resolution (f.complete ticket result).value.2) := by
  have hvalue : (f.complete ticket result).value
      = ({ f with
            workflow := f.workflow.settled ticket result
            revealed := f.revealed && f.workflow.resolution ticket result != .succeeded },
          f.workflow.resolution ticket result) := by
    unfold complete
    rw [Traced.value_bind, value_settle]
    rfl
  rw [hvalue]
  by_cases hwaits : f.workflow.Awaits ticket
  · rw [Workflow.settled, Workflow.resolution, if_pos hwaits, if_pos hwaits]
    cases result with
    | ok wallet => exact .brings ticket wallet rfl rfl rfl (Bool.and_false f.revealed)
    | error e =>
      -- a request is under way, so that there is no wallet before or after
      have hnone : f.held? = none := by
        unfold held?
        rw [hwaits.2]
        rfl
      refine .keeps (fun htaken => by cases htaken) hnone.symm ?_
      rw [hnone]
      cases f.revealed <;> rfl
  · rw [Workflow.settled_of_not_awaits hwaits,
      (f.workflow.resolution_eq_stale_iff ticket result).mpr hwaits]
    refine .keeps (fun htaken => by cases htaken) rfl ?_
    cases f.revealed <;> rfl

/-- **What a command does.** -/
theorem turn_obey (f : CreateForm) (c : Command .createWallet) :
    f.Turn c (c.obey f).1 (c.obey f).2 := by
  cases c with
  | submit => exact f.turn_submit
  | complete ticket result => exact f.turn_complete ticket result
  | reset => exact .drops nofun rfl rfl
  | edit field text =>
    -- an edit can change the name of the wallet and nothing else
    have hname : ∃ name, (Command.edit field text : Command .createWallet).obey f
        = ({ f with name := name }, .none) := by
      cases field with
      | createName => exact ⟨text, rfl⟩
      | _ => exact ⟨f.name, rfl⟩
    obtain ⟨name, hname⟩ := hname
    rw [hname]
    exact .keeps nofun rfl (Bool.xor_false f.revealed).symm
  | toggleReveal =>
    change f.Turn .toggleReveal f.toggleReveal (.flag f.toggleReveal.revealed)
    -- without a key there is nothing to show
    cases hheld : f.held? with
    | some wallet =>
      rw [toggleReveal_of_held hheld]
      refine .keeps nofun rfl ?_
      rw [hheld]
      exact (Bool.xor_true f.revealed).symm
    | none =>
      rw [toggleReveal_of_not_held hheld]
      refine .keeps nofun rfl ?_
      rw [hheld]
      exact (Bool.xor_false f.revealed).symm

/-! ### What a row of commands does to them -/

section

variable {c : Command .createWallet} {g : CreateForm} {answer : Panel.Answer}

/-- The mask is off only where there is a wallet. -/
theorem Turn.held_of_revealed (ht : f.Turn c g answer)
    (h : f.revealed = true → f.held?.isSome = true) (hr : g.revealed = true) :
    g.held?.isSome = true := by
  cases ht with
  | brings _ _ _ _ _ hmasked => exact absurd hr (Bool.eq_false_iff.mp hmasked)
  | keeps _ hheld hmask =>
    rw [hheld]
    cases hthere : f.held?.isSome with
    | true => rfl
    | false =>
      -- without a wallet nothing turns the mask, so that it was off before
      rw [hmask, hthere, Bool.and_false, Bool.xor_false] at hr
      exact hthere.symm.trans (h hr)
  | drops _ _ hmasked => exact absurd hr (Bool.eq_false_iff.mp hmasked)

/-- Whatever is done to a form, the mask is off only where there is a wallet. -/
theorem held_of_revealed (cs : List (Command .createWallet)) :
    let f : CreateForm := (Command.run WorkflowId.createWallet.newForm cs).1
    f.revealed = true → f.held?.isSome = true := by
  have hstart : start.revealed = false := rfl
  exact Command.run_keeps (w := .createWallet)
    (P := fun f : CreateForm => f.revealed = true → f.held?.isSome = true)
    (fun f c h => (turn_obey f c).held_of_revealed h)
    (fun hr => absurd hr (Bool.eq_false_iff.mp hstart)) cs

/-- What a row of commands says about the wallet of a form that was given them: it is from the last
completion that was taken as a success, and its mask has been turned by the commands after that. -/
def Parity (cs : List (Command .createWallet)) (f : CreateForm) : Prop :=
  ∀ wallet, f.held? = some wallet → ∃ before ticket since answers,
    cs = before ++ .complete ticket (.ok wallet) :: since ∧
    (Command.run WorkflowId.createWallet.newForm cs).2
      = (Command.run WorkflowId.createWallet.newForm before).2
        ++ .resolution .succeeded :: answers ∧
    .resolution .succeeded ∉ answers ∧ f.revealed = decide (Command.toggles since % 2 = 1)

/-- One more makes odd what was even. -/
theorem decide_odd_succ (n : Nat) : decide ((n + 1) % 2 = 1) = !decide (n % 2 = 1) := by
  rw [← decide_not, decide_eq_decide]
  omega

/-- One more command keeps the parity. -/
theorem Turn.parity {cs : List (Command .createWallet)} (ht : f.Turn c g answer)
    (h : Parity cs f)
    (hanswers : (Command.run WorkflowId.createWallet.newForm (cs ++ [c])).2
      = (Command.run WorkflowId.createWallet.newForm cs).2 ++ [answer]) :
    Parity (cs ++ [c]) g := by
  intro wallet hw
  cases ht with
  | brings ticket wallet' hc htaken hheld hmasked =>
    -- the row is split at its last command, and nothing has come since
    obtain rfl : wallet' = wallet := Option.some_inj.mp (hheld.symm.trans hw)
    subst hc
    rw [hanswers, htaken]
    exact ⟨cs, ticket, [], [], rfl, rfl, List.not_mem_nil, hmasked⟩
  | keeps huntaken hheld hmask =>
    rw [hheld] at hw
    -- the row stays split where it was, and the command is one more since then
    obtain ⟨before, ticket, since, answers, rfl, hrun, hlast, hparity⟩ := h wallet hw
    refine ⟨before, ticket, since ++ [c], answers ++ [answer], ?_, ?_, ?_, ?_⟩
    · rw [List.append_assoc, List.cons_append]
    · rw [hanswers, hrun, List.append_assoc, List.cons_append]
    · rw [List.mem_append, List.mem_singleton, not_or]
      exact ⟨hlast, huntaken.symm⟩
    · rw [hmask, hparity, hw, Option.isSome_some, Bool.and_true, Command.toggles_concat]
      cases c.isToggle with
      | false => exact Bool.xor_false _
      | true =>
        rw [Bool.xor_true]
        exact (decide_odd_succ _).symm
  | drops _ hheld _ =>
    rw [hheld] at hw
    cases hw

/-- **Any row of commands** says where the wallet is from and how often its mask has been turned
since. -/
theorem parity_run (cs : List (Command .createWallet)) :
    Parity cs (Command.run WorkflowId.createWallet.newForm cs).1 := by
  -- from the last command, since the wallet may have come at any of them
  induction cs using List.reverseRecOn with
  | nil =>
    have hnone : start.held? = none := rfl
    exact fun wallet hw => absurd (hnone.symm.trans hw) nofun
  | append_singleton cs c ih =>
    have hrun := Command.run_concat WorkflowId.createWallet.newForm cs c
    rw [hrun]
    exact (turn_obey _ c).parity ih (congrArg Prod.snd hrun)

end

/-- **The parity of the mask.** Whatever is done to a form that creates wallets, it is unmasked only
where it shows a success, and it shows a key just when it holds a wallet. The key is that of the
wallet from the last completion that was taken as a success, in clear if the mask was turned an odd
number of times since then, and masked if it was an even number. So a new wallet is masked, and to
turn the mask where there is no wallet does nothing. -/
theorem keys_show_by_parity (cs : List (Command .createWallet)) :
    let f : CreateForm := (Command.run WorkflowId.createWallet.newForm cs).1
    (f.revealed = true → f.workflow.phase = .succeeded) ∧
    (f.keyDisplay? = none ↔ ∀ wallet, f.workflow.state ≠ .succeeded wallet) ∧
    (∀ wallet, f.workflow.state = .succeeded wallet → ∃ before ticket since answers,
      cs = before ++ .complete ticket (.ok wallet) :: since ∧
      (Command.run WorkflowId.createWallet.newForm cs).2
        = (Command.run WorkflowId.createWallet.newForm before).2
          ++ .resolution .succeeded :: answers ∧
      .resolution .succeeded ∉ answers ∧
      f.keyDisplay? = some (if Command.toggles since % 2 = 1 then wallet.privateKey.expose
        else PrivateKey.mask)) ∧
    (∀ ticket result, (f.complete ticket result).value.2 = .succeeded →
      (f.complete ticket result).value.1.keyDisplay? = some PrivateKey.mask) ∧
    ((∀ wallet, f.workflow.state ≠ .succeeded wallet) → f.toggleReveal = f) := by
  intro f
  refine ⟨fun hr => ?_, ?_, fun wallet hstate => ?_, fun ticket result hsucceeded => ?_,
    fun hnone => ?_⟩
  · -- what is shown is held
    obtain ⟨wallet, hw⟩ := Option.isSome_iff_exists.mp (held_of_revealed cs hr)
    exact congrArg WorkflowState.phase (held?_eq_some_iff.mp hw)
  · rw [keyDisplay?_eq_none_iff, held?_eq_none_iff]
  · have hw : f.held? = some wallet := held?_eq_some_iff.mpr hstate
    obtain ⟨before, ticket, since, answers, hcs, hrun, hlast, hparity⟩ :=
      parity_run cs wallet hw
    refine ⟨before, ticket, since, answers, hcs, hrun, hlast, ?_⟩
    rw [keyDisplay?_eq, hw, hparity]
    simp only [Option.map_some, decide_eq_true_eq]
  · -- a new wallet starts masked
    cases f.turn_complete ticket result with
    | brings _ wallet _ _ hheld hmasked =>
      rw [keyDisplay?_eq, hheld, hmasked]
      rfl
    | keeps huntaken => exact absurd (congrArg Panel.Answer.resolution hsucceeded) huntaken
    | drops huntaken => exact absurd (congrArg Panel.Answer.resolution hsucceeded) huntaken
  · exact toggleReveal_of_not_held (held?_eq_none_iff.mpr hnone)

/-- The key of a second wallet is masked, though that of the first one was shown when it was given
up, and a toggle came in between. -/
example :
    let wallet (key : String) : CreatedWallet := ⟨⟨"Main", ⟨Vector.replicate 20 0⟩, none⟩, ⟨key⟩⟩
    keyDisplay? (Command.run WorkflowId.createWallet.newForm
      [.submit, .complete 1 (.ok (wallet "first")), .toggleReveal, .reset, .toggleReveal, .submit,
        .complete 3 (.ok (wallet "second"))]).1 = some PrivateKey.mask := by
  decide +kernel

end CreateForm

end WalletPanel
