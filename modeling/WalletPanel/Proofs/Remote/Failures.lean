import WalletPanel.Proofs.Remote.Requests
import WalletPanel.Proofs.Wallet.Flattened

/-!
# What the error of a failed call says of a key

A backend that creates or imports a wallet may answer with its key, and if the answer is not what it
should be, an error comes of it that is shown and written to the journal. The error is made of what
the reader of the answer found, so the question is whether that may be the key.

An imported wallet has no member for a key: whatever stands under it is passed over, and the whole
reply is the same. In a created wallet the key comes in at one place (`CreatedWallet.parse_at_key`):
an error that is met before does not depend on it, and once it has been read as a text, no error
depends on which text that was. What is left are keys that are no texts. A message names a list, an
object and `null` by their sort only, but it has numbers and truth values in it
(`RemoteCall.number_shows_in_error`), and a text or a numeral that stands for nothing has an error
of its own. So two errors differ only by what is said of the value in place of the key
(`RemoteCall.failures_hide_keys`).
-/

namespace WalletPanel

open Wire Wire.Reader

variable {α β γ δ : Type}

/-! ### Results that agree -/

/-- The same error, or related values. -/
inductive Wire.Agree (R : α → β → Prop) : Except Error α → Except Error β → Prop
  | error (e : Error) : Agree R (.error e) (.error e)
  | ok {a : α} {b : β} (related : R a b) : Agree R (.ok a) (.ok b)

/-- What goes on from agreeing results agrees if it does for related values. -/
theorem Wire.Agree.bind {R : α → β → Prop} {S : γ → δ → Prop} {x : Except Error α}
    {y : Except Error β} {f : α → Except Error γ} {g : β → Except Error δ} (h : Agree R x y)
    (hf : ∀ a b, R a b → Agree S (f a) (g b)) : Agree S (x >>= f) (y >>= g) := by
  cases h with
  | error e => exact .error e
  | ok related => exact hf _ _ related

/-- Where one result is an error, the other one is the same error. -/
theorem Wire.Agree.eq_error {R : α → β → Prop} {x : Except Error α} {y : Except Error β}
    (h : Agree R x y) {e : Error} (hx : x = .error e) : y = .error e := by
  cases h with
  | error e' => cases hx; rfl
  | ok related => cases hx

namespace CreatedWallet

/-! ### Where the key comes in -/

/-- The same members but for which key has been found. -/
structure Parts.Alike (p q : Parts) : Prop where
  others : p.others = q.others
  found : p.privateKey.isSome = q.privateKey.isSome

/-- A member is taken into both, or is at fault in both; a second key is an error whichever the
first one was. -/
theorem Parts.Alike.take {p q : Parts} (h : p.Alike q) (m : Member) :
    Agree Alike (p.take m) (q.take m) := by
  obtain ⟨k, others⟩ := p
  obtain ⟨k', others'⟩ := q
  obtain ⟨hothers, hfound⟩ := h
  cases hothers
  -- a key that is no text is at fault on either side
  cases hm : m.name with
  | error e =>
    unfold Parts.take
    rw [hm]
    exact .error e
  | ok key =>
    by_cases hk : key = keyName
    · subst hk
      rw [Parts.take_key hm, Parts.take_key hm]
      cases k with
      | some _ =>
        cases k' with
        | some _ => exact .error _
        | none => cases hfound
      | none =>
        cases k' with
        | some _ => cases hfound
        | none =>
          dsimp only
          cases PrivateKey.parse (String.ofList m.value.core) with
          | error e => exact .error e
          | ok k => exact .ok ⟨rfl, rfl⟩
    · -- the value of another member is kept without a look at the key
      rw [Parts.take_other hm hk, Parts.take_other hm hk]
      cases (value depth).outcome m.value.core with
      | error e => exact .error e
      | ok v => exact .ok ⟨rfl, hfound⟩

/-- All members are taken into both, or one of them is at fault in both. -/
theorem Parts.Alike.foldlM {p q : Parts} (h : p.Alike q) (members : List Member) :
    Agree Alike (members.foldlM Parts.take p) (members.foldlM Parts.take q) := by
  induction members generalizing p q with
  | nil => exact .ok h
  | cons m members ih =>
    rw [List.foldlM_cons, List.foldlM_cons]
    exact (h.take m).bind fun p q hpq => ih hpq

/-- Both are completed to the same wallet, or lack the same. -/
theorem Parts.Alike.complete {p q : Parts} (h : p.Alike q) :
    Agree (fun c d : CreatedWallet => c.record = d.record) p.complete q.complete := by
  obtain ⟨k, others⟩ := p
  obtain ⟨k', others'⟩ := q
  obtain ⟨hothers, hfound⟩ := h
  cases hothers
  cases k with
  | none =>
    cases k' with
    | none => exact .error _
    | some _ => cases hfound
  | some k =>
    cases k' with
    | none => cases hfound
    | some k' =>
      -- the wallet is made of what was kept, and the key is put beside it
      have hcomplete : ∀ k : PrivateKey, Parts.complete ⟨some k, others⟩
          = WalletRecord.schema.ofMembers others.reverse >>= fun r => .ok ⟨r, k⟩ := fun _ => rfl
      rw [hcomplete, hcomplete]
      cases WalletRecord.schema.ofMembers others.reverse with
      | error e => exact .error e
      | ok r => exact .ok rfl

/-- **The key comes in at one place.** Objects that have a member for it between the same others
come to one error before that, or go on with what it is read as; and where they go on, an error does
not depend on the key. -/
theorem parse_at_key (before after : List Member) :
    (∃ e, ∀ m text, m.name = .ok keyName → IsObjectOf (before ++ m :: after) text →
      parse text = .error e) ∨
    ∃ next : PrivateKey → Except Error CreatedWallet,
      (∀ k k', Agree (fun c d => c.record = d.record) (next k) (next k')) ∧
      ∀ m text, m.name = .ok keyName → IsObjectOf (before ++ m :: after) text →
        parse text = PrivateKey.parse (String.ofList m.value.core) >>= next := by
  -- what is before the key, the key, and what is behind it
  have hparse : ∀ m text, IsObjectOf (before ++ m :: after) text →
      parse text = before.foldlM Parts.take ⟨none, []⟩ >>= fun p =>
        p.take m >>= fun q => after.foldlM Parts.take q >>= Parts.complete := by
    intro m text h
    rw [parse_object h, List.foldlM_append, bind_assoc]
    refine congrArg (_ >>= ·) (funext fun p => ?_)
    rw [List.foldlM_cons, bind_assoc]
  -- an error comes first, or a key, or neither
  cases hp : before.foldlM Parts.take ⟨none, []⟩ with
  | error e =>
    refine Or.inl ⟨e, fun m text _ h => ?_⟩
    rw [hparse m text h, hp]
    rfl
  | ok p =>
    obtain ⟨key, others⟩ := p
    cases key with
    | some k =>
      refine Or.inl ⟨.duplicateMember keyName, fun m text hm h => ?_⟩
      rw [hparse m text h, hp]
      change (Parts.take ⟨some k, others⟩ m >>= _) = _
      rw [Parts.take_key hm]
      rfl
    | none =>
      refine Or.inr ⟨fun k => after.foldlM Parts.take ⟨some k, others⟩ >>= Parts.complete,
        fun k k' => ?_, fun m text hm h => ?_⟩
      · have hparts : Parts.Alike ⟨some k, others⟩ ⟨some k', others⟩ := ⟨rfl, rfl⟩
        exact (hparts.foldlM after).bind fun p q hpq => hpq.complete
      · rw [hparse m text h, hp]
        change (Parts.take ⟨none, others⟩ m >>= _) = _
        rw [Parts.take_key hm]
        cases PrivateKey.parse (String.ofList m.value.core) <;> rfl

/-! ### Values that are not told apart -/

/-- Two values of one sort, of which an error says no more than the sort: two texts that stand for
something, two lists, two objects, or `null`. -/
inductive SameSort : List Char → List Char → Prop
  | nulls : SameSort ['n', 'u', 'l', 'l'] ['n', 'u', 'l', 'l']
  | texts {s s' : List Char} {t t' : String} (inner : IsInner s) (inner' : IsInner s')
      (stands : text.outcome (s ++ ['"']) = .ok t) (stands' : text.outcome (s' ++ ['"']) = .ok t') :
      SameSort (quotedText s) (quotedText s')
  | lists (blanks blanks' : List Char) (items items' : List Padded) :
      SameSort (listText blanks items) (listText blanks' items')
  | objects (blanks blanks' : List Char) (members members' : List Member) :
      SameSort (objectText blanks members) (objectText blanks' members')

/-- What a key is read as is what it begins with, if that is a text. -/
theorem parse_key {v : List Char} (h : IsValue v) :
    PrivateKey.parse (String.ofList v)
      = ((lead.outcome v >>= Kind.textOf).map PrivateKey.mk) := by
  -- the same value is read in two ways, so that they come to the same
  have hkey := (PrivateKey.yields_read h).outcome_eq
  have hread : PrivateKey.read.Yields v ((lead.outcome v >>= Kind.textOf).map PrivateKey.mk) :=
    (Kind.yields_read .text h nofun).map PrivateKey.mk
  exact hkey.symm.trans hread.outcome_eq

/-- Values of one sort are both taken for a key, or refused with one error. -/
theorem SameSort.agree {v v' : List Char} (h : SameSort v v') (hv : IsValue v) (hv' : IsValue v') :
    Agree (fun _ _ => True) (PrivateKey.parse (String.ofList v))
      (PrivateKey.parse (String.ofList v')) := by
  rw [parse_key hv, parse_key hv']
  -- values of one sort that are no texts have the same error
  cases h with
  | nulls =>
    have hnull : lead.outcome ['n', 'u', 'l', 'l'] = .ok .null := rfl
    rw [hnull]
    exact .error _
  | texts inner inner' stands stands' =>
    rw [(yields_lead_text inner).outcome_eq, (yields_lead_text inner').outcome_eq, stands, stands']
    exact .ok trivial
  | lists =>
    rw [outcome_lead_list, outcome_lead_list]
    exact .error _
  | objects =>
    rw [outcome_lead_object, outcome_lead_object]
    exact .error _

/-- **Objects agree if their keys do**: on one error, or on the wallet. -/
theorem parse_agree {text text' : String} {before after : List Member} {m m' : Member}
    (h : IsObjectOf (before ++ m :: after) text) (h' : IsObjectOf (before ++ m' :: after) text')
    (hm : m.name = .ok keyName) (hm' : m'.name = .ok keyName)
    (hk : Agree (fun _ _ => True) (PrivateKey.parse (String.ofList m.value.core))
      (PrivateKey.parse (String.ofList m'.value.core))) :
    Agree (fun c d => c.record = d.record) (parse text) (parse text') := by
  rcases parse_at_key before after with ⟨e, he⟩ | ⟨next, hnext, hparse⟩
  · -- an error before the key
    rw [he m text hm h, he m' text' hm' h']
    exact .error e
  · -- on from the key
    rw [hparse m text hm h, hparse m' text' hm' h']
    exact hk.bind fun k k' _ => hnext k k'

/-- Two errors are the same, or one of them is what was said of the key itself. -/
theorem error_eq_or {text text' : String} {before after : List Member} {m m' : Member}
    (h : IsObjectOf (before ++ m :: after) text) (h' : IsObjectOf (before ++ m' :: after) text')
    (hm : m.name = .ok keyName) (hm' : m'.name = .ok keyName) {e e' : Error}
    (he : parse text = .error e) (he' : parse text' = .error e') :
    e = e' ∨ PrivateKey.parse (String.ofList m.value.core) = .error e ∨
      PrivateKey.parse (String.ofList m'.value.core) = .error e' := by
  rcases parse_at_key before after with ⟨c, hc⟩ | ⟨next, hnext, hparse⟩
  · -- the error that both meet before the key
    have hsame := (hc m text hm h).symm.trans he
    have hsame' := (hc m' text' hm' h').symm.trans he'
    exact Or.inl (Except.error.inj (hsame.symm.trans hsame'))
  · rw [hparse m text hm h] at he
    rw [hparse m' text' hm' h'] at he'
    cases hk : PrivateKey.parse (String.ofList m.value.core) with
    | error c =>
      rw [hk] at he
      cases he
      exact Or.inr (Or.inl rfl)
    | ok k =>
      cases hk' : PrivateKey.parse (String.ofList m'.value.core) with
      | error c =>
        rw [hk'] at he'
        cases he'
        exact Or.inr (Or.inr rfl)
      | ok k' =>
        rw [hk] at he
        rw [hk'] at he'
        exact Or.inl (Except.error.inj (((hnext k k').eq_error he).symm.trans he'))

end CreatedWallet

/-! ### Answers -/

/-- A response that means success and has this text for its body. -/
structure Http.Response.Brings (r : Http.Response) (text : String) : Prop where
  success : Http.isSuccess r.status = true
  body : r.text = .ok text

/-- What such a response brings is what its text is read as. -/
theorem Http.Response.Brings.value {r : Http.Response} {text : String} (h : r.Brings text)
    (parse : String → Except Wire.Error α) :
    r.value parse = (parse text).mapError RequestFault.misshapen := by
  unfold Http.Response.value
  rw [if_pos h.success, h.body]
  dsimp only
  cases parse text <;> rfl

namespace RemoteCall

/-- What is sent, shown and noted if a call is answered with this response, or if its request cannot
be sent. -/
def answered (call : RemoteCall) (b : Backend) (refusal : String) (r : Http.Response) :
    List Http.Request × Traced RemoteReply :=
  (call.execute b.gateway).answer (fun _ => .response r) refusal

/-- A call gets the reply to the one request that is made for it. -/
theorem answered_eq {call : RemoteCall} {b : Backend} {request : Http.Request}
    (h : b.request? call.operation call.body? = some request) (refusal : String)
    (r : Http.Response) :
    call.answered b refusal r = ([request], call.replyTo (.response r)) := by
  unfold answered
  rw [call.execute_gateway b, h]
  rfl

/-- Nothing of a response matters but what is read from it. -/
theorem answered_congr (call : RemoteCall) {r r' : Http.Response} {text text' : String}
    (hr : r.Brings text) (hr' : r'.Brings text')
    (h : call.operation.parse text = call.operation.parse text') (b : Backend)
    (refusal : String) : call.answered b refusal r = call.answered b refusal r' := by
  cases hb : b.request? call.operation call.body? with
  | none =>
    -- the responses are never sent
    unfold answered
    rw [call.execute_gateway b, hb]
    rfl
  | some request =>
    -- the body is the same value, or the same error, after reading
    have hreply : call.replyTo (.response r) = call.replyTo (.response r') := by
      have hvalue : r.value call.operation.parse = r'.value call.operation.parse := by
        rw [hr.value, hr'.value, h]
      unfold replyTo Http.Arrival.value
      dsimp only
      rw [hvalue]
    rw [answered_eq hb, answered_eq hb, hreply]

/-- A call whose answer is refused gets the error that is said of the answer. -/
theorem answered_error {call : RemoteCall} {b : Backend} {request : Http.Request}
    (hb : b.request? call.operation call.body? = some request) (refusal : String)
    {r : Http.Response} {text : String} (hr : r.Brings text) {e : Wire.Error}
    (he : call.operation.parse text = .error e) :
    (call.answered b refusal r).2.value
      = call.operation.reply (.error (call.operation.error (.misshapen e))) := by
  have hvalue : r.value call.operation.parse = .error (.misshapen e) := by
    rw [hr.value, he]
    rfl
  rw [answered_eq hb]
  unfold replyTo Http.Arrival.value
  dsimp only
  rw [hvalue]
  rfl

/-- **The error of a failed call does not have the key in it.** Take two responses that mean
success, whose bodies are objects with the same members, but for the value of one that has the key
of a private key for its name. If they are answers to an import, nothing tells them apart. If they
are answers to a creation and one of them is refused, then so is the other one, with the same error,
if these values are of one sort. In any case both are refused with the same error, or one of the
errors is what is said of the value itself. -/
theorem failures_hide_keys (b : Backend) (refusal : String) {r r' : Http.Response}
    {text text' : String} {before after : List Member} {m m' : Member} (hr : r.Brings text)
    (hr' : r'.Brings text')
    (h : IsObjectOf (before ++ m :: after) text) (h' : IsObjectOf (before ++ m' :: after) text')
    (hm : m.name = .ok CreatedWallet.keyName) (hm' : m'.name = .ok CreatedWallet.keyName) :
    (∀ request, (∀ n ∈ before ++ after, WalletRecord.schema.KeepsPlace n) →
      (importWallet request).answered b refusal r = (importWallet request).answered b refusal r') ∧
    (∀ request e, CreatedWallet.SameSort m.value.core m'.value.core →
      CreatedWallet.parse text = .error e → CreatedWallet.parse text' = .error e ∧
        (createWallet request).answered b refusal r
          = (createWallet request).answered b refusal r') ∧
    ∀ request e e', CreatedWallet.parse text = .error e → CreatedWallet.parse text' = .error e' →
      e = e' ∧ (createWallet request).answered b refusal r
          = (createWallet request).answered b refusal r' ∨
        PrivateKey.parse (String.ofList m.value.core) = .error e ∨
        PrivateKey.parse (String.ofList m'.value.core) = .error e' := by
  have hmember : m ∈ before ++ m :: after := List.mem_append_right before List.mem_cons_self
  have hmember' : m' ∈ before ++ m' :: after := List.mem_append_right before List.mem_cons_self
  refine ⟨fun request hp => ?_, fun request e hsort he => ?_, fun request e e' he he' => ?_⟩
  · -- the member is dropped in both cases
    have hforeign := WalletRecord.foreign_key (h.1 m hmember) hm
    have hforeign' := WalletRecord.foreign_key (h'.1 m' hmember') hm'
    exact answered_congr (importWallet request) hr hr'
      (Schema.parse_eq_of_foreign h h' hforeign hforeign' hp) b refusal
  · -- the keys agree, and so do the objects
    have hagree := hsort.agree (h.1 m hmember).value (h'.1 m' hmember').value
    have he' := (CreatedWallet.parse_agree h h' hm hm' hagree).eq_error he
    exact ⟨he', answered_congr (createWallet request) hr hr' (he.trans he'.symm) b refusal⟩
  · -- if the errors are the same, so is the whole answer
    refine (CreatedWallet.error_eq_or h h' hm hm' he he').imp (fun heq => ?_) id
    subst heq
    exact ⟨rfl, answered_congr (createWallet request) hr hr' (he.trans he'.symm) b refusal⟩

/-- A response whose body is an object with one member, a value in place of a private key. -/
def keyResponse (v : List Char) : Http.Response :=
  ⟨200, (objectText [] [.bare WalletRecord.echoedName v]).map (·.toNat.toUInt8), none⟩

/-- The text of this body. -/
def keyBody (v : List Char) : String :=
  String.ofList (objectText [] [.bare WalletRecord.echoedName v])

/-- It is an object of the one member. -/
theorem isObjectOf_keyBody {v : List Char} (h : IsValue v) :
    IsObjectOf [.bare WalletRecord.echoedName v] (keyBody v) := by
  have hkey : IsInner WalletRecord.echoedName := isInner_of_plain (by decide)
  exact isObjectOf_bare (List.forall_mem_singleton.mpr ⟨hkey, h⟩)

/-- Two texts in place of a key: the import gives nothing away, and the creation is refused with an
error that has neither of them. -/
theorem failures_hide_two_keys :
    (importWallet ⟨⟨"s"⟩, "n"⟩).answered .standard "" (keyResponse (quotedText ['k']))
      = (importWallet ⟨⟨"s"⟩, "n"⟩).answered .standard "" (keyResponse (quotedText ['q'])) ∧
    CreatedWallet.parse (keyBody (quotedText ['q'])) = .error (.missingMember "name") ∧
    (createWallet ⟨"n"⟩).answered .standard "" (keyResponse (quotedText ['k']))
      = (createWallet ⟨"n"⟩).answered .standard "" (keyResponse (quotedText ['q'])) := by
  have hk : IsInner ['k'] := isInner_of_plain (by decide)
  have hq : IsInner ['q'] := isInner_of_plain (by decide)
  have hbrings : (keyResponse (quotedText ['k'])).Brings (keyBody (quotedText ['k'])) :=
    ⟨by decide, by decide +kernel⟩
  have hbrings' : (keyResponse (quotedText ['q'])).Brings (keyBody (quotedText ['q'])) :=
    ⟨by decide, by decide +kernel⟩
  -- the first of the two bodies is refused, and so is the second
  have hrefused : CreatedWallet.parse (keyBody (quotedText ['k']))
      = .error (.missingMember "name") := by decide +kernel
  have hobject : IsObjectOf ([] ++ Member.bare WalletRecord.echoedName (quotedText ['k']) :: [])
      (keyBody (quotedText ['k'])) := isObjectOf_keyBody (.scalar (.text hk))
  have hobject' : IsObjectOf ([] ++ Member.bare WalletRecord.echoedName (quotedText ['q']) :: [])
      (keyBody (quotedText ['q'])) := isObjectOf_keyBody (.scalar (.text hq))
  obtain ⟨himport, hcreate, -⟩ :=
    failures_hide_keys .standard "" hbrings hbrings' hobject hobject' rfl rfl
  obtain ⟨hrefused', hsame⟩ := hcreate ⟨"n"⟩ _ (.texts hk hq rfl rfl) hrefused
  exact ⟨himport _ (List.forall_mem_nil _), hrefused', hsame⟩

/-- A number that was sent in place of a key has its value in the error. -/
theorem number_shows_in_error :
    ∃ v v' : List Char, IsNumeral v ∧ IsNumeral v' ∧
      (keyResponse v).Brings (keyBody v) ∧ (keyResponse v').Brings (keyBody v') ∧
      ((createWallet ⟨"n"⟩).answered .standard "" (keyResponse v)).2.value = .createdWallet (.error
        ⟨"/wallet/create: unexpected response shape: invalid type: integer `5`, expected a string"⟩) ∧
      ((createWallet ⟨"n"⟩).answered .standard "" (keyResponse v')).2.value = .createdWallet (.error
        ⟨"/wallet/create: unexpected response shape: invalid type: integer `6`, expected a string"⟩) := by
  have hnumeral : ∀ c, IsWhole [c] → IsNumeral [c] := fun c h => .positive (.mk h .none .none)
  -- the URL of the standard backend names a server, so that there is a request to answer
  have hsent : (Backend.standard.request? (createWallet ⟨"n"⟩).operation
      (createWallet ⟨"n"⟩).body?).isSome = true := by decide +kernel
  obtain ⟨request, hrequest⟩ := Option.isSome_iff_exists.mp hsent
  have hbrings : (keyResponse ['5']).Brings (keyBody ['5']) := ⟨by decide, by decide +kernel⟩
  have hbrings' : (keyResponse ['6']).Brings (keyBody ['6']) := ⟨by decide, by decide +kernel⟩
  have hparse : CreatedWallet.parse (keyBody ['5'])
      = .error (.wrongType (.number (.natural 5)) .text) := by decide +kernel
  have hparse' : CreatedWallet.parse (keyBody ['6'])
      = .error (.wrongType (.number (.natural 6)) .text) := by decide +kernel
  refine ⟨['5'], ['6'], hnumeral _ (.digits (by decide) (by decide)),
    hnumeral _ (.digits (by decide) (by decide)), hbrings, hbrings', ?_, ?_⟩
  · refine (answered_error hrequest "" hbrings hparse).trans ?_
    exact congrArg (fun e => RemoteReply.createdWallet (.error e)) (by decide +kernel)
  · refine (answered_error hrequest "" hbrings' hparse').trans ?_
    exact congrArg (fun e => RemoteReply.createdWallet (.error e)) (by decide +kernel)

end RemoteCall

end WalletPanel
