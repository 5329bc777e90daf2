import WalletPanel.Wallet.Address

/-!
# Addresses that are read back

The two forms of an address differ in the case of their letters only, and reading does not look at
the case. So any row of numbers whatever may decide it (`parse_mixCase`): the form with a checksum
is read back as the address that it is of, whichever hash the checksum is from, and the lower-case
form is the one in which no number is eight or more.
-/

namespace WalletPanel.Address

/-! ### Digits of either case -/

/-- A digit whose case a number decides. -/
def cased (n : Nat) (d : Char) : Char := if 8 ≤ n then d.toUpper else d

/-- The case of a digit has no part in what it stands for. -/
theorem hexValue?_cased {v : Nat} (hv : v < 16) (n : Nat) :
    Text.hexValue? (cased n (Text.hexDigit v)) = some v := by
  -- the sixteen capitals are gone through one by one
  have hupper : ∀ v < 16, Text.hexValue? (Text.hexDigit v).toUpper = some v := by decide
  unfold cased
  split
  · exact hupper v hv
  · exact Text.hexValue?_hexDigit v hv

/-- A digit is one octet, which is its number. -/
theorem octets_cased {v : Nat} (hv : v < 16) (n : Nat) (s : List Char) :
    Text.octets (cased n (Text.hexDigit v) :: s)
      = (cased n (Text.hexDigit v)).toNat.toUInt8 :: Text.octets s ∧
    (cased n (Text.hexDigit v)).toNat.toUInt8.toNat = (cased n (Text.hexDigit v)).toNat := by
  -- both alphabets are gone through, since no digit is beyond a single octet
  have hlower : ∀ v < 16, String.utf8EncodeChar (Text.hexDigit v)
      = [(Text.hexDigit v).toNat.toUInt8] ∧
      (Text.hexDigit v).toNat.toUInt8.toNat = (Text.hexDigit v).toNat := by decide
  have hupper : ∀ v < 16, String.utf8EncodeChar (Text.hexDigit v).toUpper
      = [(Text.hexDigit v).toUpper.toNat.toUInt8] ∧
      (Text.hexDigit v).toUpper.toNat.toUInt8.toNat = (Text.hexDigit v).toUpper.toNat := by decide
  have h : String.utf8EncodeChar (cased n (Text.hexDigit v))
      = [(cased n (Text.hexDigit v)).toNat.toUInt8] ∧
      (cased n (Text.hexDigit v)).toNat.toUInt8.toNat = (cased n (Text.hexDigit v)).toNat := by
    unfold cased
    split
    · exact hupper v hv
    · exact hlower v hv
  refine ⟨?_, h.2⟩
  unfold Text.octets
  rw [List.flatMap_cons, h.1]
  rfl

/-! ### Rows of octets -/

/-- The digits of octets, with a number for the case of each of them. -/
theorem mixCase_cons {m n : Nat} {numbers : List Nat} (b : UInt8) (bs : List UInt8) :
    mixCase (m :: n :: numbers) ((b :: bs).flatMap Text.hexOctet)
      = cased m (Text.hexDigit (b.toNat / 16)) :: cased n (Text.hexDigit (b.toNat % 16)) ::
        mixCase numbers (bs.flatMap Text.hexOctet) := rfl

/-- Octets are read back from their digits, whatever decides the case of these. -/
theorem readOctets_mixCase (bs : List UInt8) {numbers : List Nat}
    (h : 2 * bs.length ≤ numbers.length) (position : Nat) :
    (Text.octets (mixCase numbers (bs.flatMap Text.hexOctet))).length = 2 * bs.length ∧
    readOctets position (Text.octets (mixCase numbers (bs.flatMap Text.hexOctet))) = .ok bs := by
  -- two digits and two numbers for their case at a time; the place is needed for errors only
  induction bs generalizing numbers position with
  | nil =>
    have hnil : mixCase numbers ([].flatMap Text.hexOctet) = [] := List.zipWith_nil_right
    rw [hnil]
    exact ⟨rfl, rfl⟩
  | cons b bs ih =>
    obtain ⟨m, n, numbers, rfl⟩ : ∃ m n rest, numbers = m :: n :: rest := by
      match numbers, h with
      | m :: n :: rest, _ => exact ⟨m, n, rest, rfl⟩
      | [_], h => simp at h; omega
      | [], h => simp at h
    have hb : b.toNat < 256 := b.toNat_lt
    have hhigh : b.toNat / 16 < 16 := by omega
    have hlow : b.toNat % 16 < 16 := by omega
    have hlen : 2 * bs.length ≤ numbers.length := by
      rw [List.length_cons, List.length_cons, List.length_cons] at h
      omega
    obtain ⟨ihl, ihr⟩ := ih hlen (position + 2)
    obtain ⟨ho, hhn⟩ := octets_cased hhigh m
      (cased n (Text.hexDigit (b.toNat % 16)) :: mixCase numbers (bs.flatMap Text.hexOctet))
    obtain ⟨hp, hln⟩ := octets_cased hlow n (mixCase numbers (bs.flatMap Text.hexOctet))
    rw [mixCase_cons, ho, hp]
    refine ⟨?_, ?_⟩
    · rw [List.length_cons, List.length_cons, ihl, List.length_cons]
      omega
    · have hvalue : (16 * (b.toNat / 16) + b.toNat % 16).toUInt8 = b := by
        have hd : 16 * (b.toNat / 16) + b.toNat % 16 = b.toNat := Nat.div_add_mod _ _
        rw [hd]
        exact UInt8.ofNat_toNat
      -- the digits are looked at as octets, which are the numbers of their characters
      unfold readOctets
      rw [hhn, hln, Char.ofNat_toNat, Char.ofNat_toNat, hexValue?_cased hhigh,
        hexValue?_cased hlow]
      simp only [ihr, hvalue]
      rfl

/-! ### Addresses -/

/-- **An address is read back** from its digits with `0x` in front, whatever numbers decide the case
of the digits. -/
theorem parse_mixCase (a : Address) {numbers : List Nat} (h : 40 ≤ numbers.length) :
    parse (String.ofList ('0' :: 'x' :: mixCase numbers a.digits)) = .ok a := by
  have hlen : a.octets.toList.length = 20 := a.octets.length_toList
  have hn : 2 * a.octets.toList.length ≤ numbers.length := by omega
  obtain ⟨hl, hr⟩ := readOctets_mixCase a.octets.toList hn 0
  have hd : a.octets.toList.flatMap Text.hexOctet = a.digits := rfl
  rw [hd] at hl hr
  rw [hlen] at hl
  have ho : Text.octets (String.ofList ('0' :: 'x' :: mixCase numbers a.digits)).toList
      = 0x30 :: 0x78 :: Text.octets (mixCase numbers a.digits) := by
    rw [String.toList_ofList]
    rfl
  have ha : ofOctets? a.octets.toList = some a := by
    unfold ofOctets?
    rw [dif_pos hlen]
    rfl
  unfold parse
  simp only [ho]
  -- the `0x` has been passed over, and both lengths are right
  rw [hl, if_neg (by decide), if_neg (by decide), hr]
  change Except.bind (.ok a.octets.toList) _ = .ok a
  unfold Except.bind
  dsimp only
  rw [ha]
  rfl

/-- Two numbers for each octet. -/
theorem length_flatMap_two {α : Type} {f : UInt8 → List α} (hf : ∀ b, (f b).length = 2)
    (bs : List UInt8) : (bs.flatMap f).length = 2 * bs.length := by
  induction bs with
  | nil => rfl
  | cons b bs ih =>
    rw [List.flatMap_cons, List.length_append, hf, ih, List.length_cons]
    omega

/-- The lower-case form is read back. -/
theorem parse_plain (a : Address) : parse a.plain = .ok a := by
  -- with no number of eight or more, no digit becomes a capital
  have hlower : ∀ ds : List Char, mixCase (List.replicate ds.length 0) ds = ds := by
    intro ds
    induction ds with
    | nil => rfl
    | cons d ds ih => exact congrArg (d :: ·) ih
  have hlen : a.digits.length = 40 := by
    have h := length_flatMap_two (f := Text.hexOctet) (fun _ => rfl) a.octets.toList
    rw [a.octets.length_toList] at h
    exact h
  have hplain : a.plain
      = String.ofList ('0' :: 'x' :: mixCase (List.replicate a.digits.length 0) a.digits) := by
    rw [hlower]
    rfl
  rw [hplain]
  refine a.parse_mixCase (Nat.le_of_eq ?_)
  rw [List.length_replicate, hlen]

/-- The mixed-case form, made with any hash. -/
def checksummedBy (hash : List UInt8 → Vector UInt8 32) (a : Address) : String :=
  String.ofList ('0' :: 'x' :: mixCase (nibbles (hash (Text.octets a.digits)).toList) a.digits)

/-- **The mixed-case form is read back**, whatever the hash that decides the case. -/
theorem parse_checksummedBy (hash : List UInt8 → Vector UInt8 32) (a : Address) :
    parse (a.checksummedBy hash) = .ok a := by
  refine a.parse_mixCase ?_
  -- two numbers from each octet of the hash, which are more than there are digits
  have h : (nibbles (hash (Text.octets a.digits)).toList).length
      = 2 * (hash (Text.octets a.digits)).toList.length :=
    length_flatMap_two (fun _ => rfl) _
  rw [h, Vector.length_toList]
  decide

/-- The hash that the panel uses has thirty-two octets. -/
theorem length_hash256 (message : List UInt8) : (Hash.Keccak.hash256 message).length = 32 := by
  rfl

/-- The mixed-case form that the panel shows is read back. -/
theorem parse_checksummed (a : Address) : parse a.checksummed = .ok a :=
  a.parse_checksummedBy fun message => ⟨(Hash.Keccak.hash256 message).toArray, by
    rw [List.size_toArray, length_hash256]⟩

end WalletPanel.Address
