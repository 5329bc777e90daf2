import WalletPanel.Panel.Panel
import WalletPanel.Proofs.Wire.Records

/-!
# Values that are read back from what was written

For every type that travels over the wire, and for a private key by itself, reading comes back to
the value that was written (`decode_encode`). So to write what was read gives a form that reading
and writing leave alone from then on (`ReadsBack.normal`).

An address is shown and copied in another form than the one that it is written in. That form is read
as the same address, in a record as well as by itself.
-/

namespace WalletPanel

namespace Wire

/-- Whatever was written is read back. -/
def ReadsBack {α : Type} (write : α → List Char) (parse : String → Except Error α) : Prop :=
  ∀ a, parse (String.ofList (write a)) = .ok a

/-- To read, to write and to read again is to read. -/
theorem ReadsBack.normal {α : Type} {write : α → List Char} {parse : String → Except Error α}
    (h : ReadsBack write parse) (text : String) :
    ((parse text).bind fun a => parse (String.ofList (write a))) = parse text := by
  cases parse text with
  | error e => rfl
  | ok a => exact h a

/-- A schema without a key that comes twice reads back what it writes. -/
theorem Schema.readsBack {α : Type} {s : Schema α} (hd : (s.fields.map (·.name)).Nodup) :
    ReadsBack s.write s.parse :=
  fun a => s.parse_write hd a

/-- An address is read from any text that is one of its forms. -/
theorem Kind.read_address {a : Address} {text : String} (h : Address.parse text = .ok a)
    (rest : List Char) : Kind.read .address (writeText text ++ rest) = .ok a rest := by
  have ho : ofLead .address (.text text) = .ok a := by
    change (Address.parse text).mapError Error.badAddress = .ok a
    rw [h]
    rfl
  have hlead := Reader.lead_text text rest
  rw [Kind.read, Kind.readAddress, Reader.bind_of_ok hlead]
  exact accept_ok ho rest

end Wire

open Wire

/-- A private key is read back as well, from the text that it is. -/
theorem PrivateKey.readsBack : ReadsBack PrivateKey.write PrivateKey.parse := by
  intro k
  have hread : PrivateKey.read (writeText k.expose) = .ok k [] := by
    have h := Kind.read_write (k := .text) (v := k.expose) rfl endsNumber_nil
    rw [List.append_nil] at h
    exact Reader.bind_of_ok h
  unfold PrivateKey.parse
  rw [String.toList_ofList]
  exact Reader.run_of_ok hread

namespace Panel

/-- A copied address is read as the address of the record that is shown. -/
theorem parse_copyText (p : Panel) :
    (p.copyText? .createdAddress).map Address.parse
      = p.createWallet.created?.map (fun r => .ok r.address) ∧
    (p.copyText? .importedAddress).map Address.parse
      = p.importWallet.imported?.map (fun r => .ok r.address) ∧
    ∀ i, (p.copyText? (.listedAddress i)).map Address.parse
      = p.walletList.wallets[i]?.map fun r => .ok r.address := by
  -- each of the three texts is the mixed-case form of an address
  have h : ∀ record : Option WalletRecord,
      (record.map (·.address.checksummed)).map Address.parse
        = record.map fun r => .ok r.address := by
    intro record
    cases record with
    | none => rfl
    | some r => exact congrArg some r.address.parse_checksummed
  exact ⟨h _, h _, fun i => h _⟩

end Panel

/-- **Reading undoes writing.** Each type of the wire form reads back what it writes: any texts, any
numbers, any address and any timestamp or none. A record that is written anew after it was read is
read as it was before. And the mixed-case form of an address, whatever hash it is made with, is read
as that address, by itself and in a record; this is the form in which addresses are copied. -/
theorem decode_encode :
    ReadsBack TokenSpec.schema.write TokenSpec.schema.parse ∧
    ReadsBack GeneratedToken.schema.write GeneratedToken.schema.parse ∧
    ReadsBack ContractRequest.schema.write ContractRequest.schema.parse ∧
    ReadsBack GeneratedContract.schema.write GeneratedContract.schema.parse ∧
    ReadsBack PrivateKey.write PrivateKey.parse ∧
    ReadsBack WalletRecord.schema.write WalletRecord.schema.parse ∧
    (∀ text, ((WalletRecord.schema.parse text).bind fun r =>
        WalletRecord.schema.parse (String.ofList (WalletRecord.schema.write r)))
      = WalletRecord.schema.parse text) ∧
    (∀ (hash : List UInt8 → Vector UInt8 32) (a : Address),
      Address.parse (a.checksummedBy hash) = .ok a ∧
      (Kind.read .address).run (writeText (a.checksummedBy hash)) = .ok a) ∧
    (∀ a : Address, Address.parse a.checksummed = .ok a) ∧
    ∀ p : Panel,
      (p.copyText? .createdAddress).map Address.parse
        = p.createWallet.created?.map (fun r => .ok r.address) ∧
      (p.copyText? .importedAddress).map Address.parse
        = p.importWallet.imported?.map (fun r => .ok r.address) ∧
      ∀ i, (p.copyText? (.listedAddress i)).map Address.parse
        = p.walletList.wallets[i]?.map fun r => .ok r.address := by
  -- no type of the wire form has two members with the same key
  have hwallet : ReadsBack WalletRecord.schema.write WalletRecord.schema.parse :=
    Schema.readsBack (by decide)
  refine ⟨Schema.readsBack (by decide), Schema.readsBack (by decide), Schema.readsBack (by decide),
    Schema.readsBack (by decide), PrivateKey.readsBack, hwallet, hwallet.normal,
    fun hash a => ⟨a.parse_checksummedBy hash, ?_⟩, Address.parse_checksummed,
    Panel.parse_copyText⟩
  have h := Kind.read_address (a.parse_checksummedBy hash) []
  rw [List.append_nil] at h
  exact Reader.run_of_ok h

end WalletPanel
