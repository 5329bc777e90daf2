/-!
# UTF-8

Octets as characters. The reader goes through the octets once and keeps the character it is in the
middle of (`Pending`). An octet that cannot continue that character ends it as ill-formed and is
looked at again as a first octet, so that each longest prefix of a character that breaks off counts
once. `lossy` writes the replacement character for each of those; `decode?` refuses the whole.
-/

namespace WalletPanel.Text

/-- A character some of whose octets have been read: how many more it needs (`owed + 1`), between
which bounds the next one lies, and the bits read so far. -/
structure Pending where
  /-- Octets needed after the next one. -/
  owed : Nat
  /-- The least next octet. -/
  low : Nat
  /-- The greatest next octet. -/
  high : Nat
  bits : Nat
deriving DecidableEq, Repr

/-- What a first octet means: a character of its own, the beginning of a longer one, or nothing. -/
inductive FirstOctet where
  | whole (c : Char)
  | opens (p : Pending)
  | illFormed

/-- Reads an octet as the first of a character. The bounds on the second octet leave out overlong
forms, surrogates and what lies above the last code point. -/
def firstOctet (b : Nat) : FirstOctet :=
  if b ≤ 0x7F then .whole (Char.ofNat b)
  else if 0xC2 ≤ b ∧ b ≤ 0xDF then .opens ⟨0, 0x80, 0xBF, b - 0xC0⟩
  else if b = 0xE0 then .opens ⟨1, 0xA0, 0xBF, 0⟩
  else if b = 0xED then .opens ⟨1, 0x80, 0x9F, 0xD⟩
  else if 0xE1 ≤ b ∧ b ≤ 0xEF then .opens ⟨1, 0x80, 0xBF, b - 0xE0⟩
  else if b = 0xF0 then .opens ⟨2, 0x90, 0xBF, 0⟩
  else if 0xF1 ≤ b ∧ b ≤ 0xF3 then .opens ⟨2, 0x80, 0xBF, b - 0xF0⟩
  else if b = 0xF4 then .opens ⟨2, 0x80, 0x8F, 4⟩
  else .illFormed

/-- The characters of `octets`, with `none` for each ill-formed run, from the middle of the
character `pending` if there is one. -/
def decodeFrom : Option Pending → List UInt8 → List (Option Char)
  | none, [] => []
  -- the octets end in the middle of a character
  | some _, [] => [none]
  | pending, b :: rest =>
    let n := b.toNat
    let afresh : List (Option Char) :=
      match firstOctet n with
      | .whole c => some c :: decodeFrom none rest
      | .opens p => decodeFrom (some p) rest
      | .illFormed => none :: decodeFrom none rest
    match pending with
    | none => afresh
    | some p =>
      if p.low ≤ n ∧ n ≤ p.high then
        -- six bits of each octet belong to the number
        let bits := p.bits * 64 + (n - 0x80)
        match p.owed with
        | 0 => some (Char.ofNat bits) :: decodeFrom none rest
        | owed + 1 => decodeFrom (some ⟨owed, 0x80, 0xBF, bits⟩) rest
      -- the character breaks off before this octet, which is read again as a first one
      else none :: afresh

/-- The octets as text, each ill-formed run as one replacement character. -/
def lossy (octets : List UInt8) : String :=
  String.ofList ((decodeFrom none octets).map (·.getD '\uFFFD'))

/-- The characters that the octets stand for, if they are well-formed throughout. -/
def characters? (octets : List UInt8) : Option (List Char) := (decodeFrom none octets).mapM id

/-- The octets as text, if they are well-formed throughout. -/
def decode? (octets : List UInt8) : Option String := (characters? octets).map String.ofList

def octets (s : List Char) : List UInt8 := s.flatMap String.utf8EncodeChar

def octetCount : List Char → Nat
  | [] => 0
  | c :: s => c.utf8Size + octetCount s

/-- A row in which something may be missing comes to a row of values exactly if nothing is. -/
theorem mapM_id_eq_some_iff {α : Type} (xs : List (Option α)) (ys : List α) :
    xs.mapM id = some ys ↔ xs = ys.map some := by
  induction xs generalizing ys with
  | nil =>
    rw [List.mapM_nil, eq_comm (a := ([] : List (Option α))), List.map_eq_nil_iff]
    exact ⟨fun h => (Option.some.inj h).symm, fun h => congrArg some h.symm⟩
  | cons x xs ih =>
    cases x with
    | none =>
      rw [List.mapM_cons]
      cases ys <;> exact ⟨nofun, nofun⟩
    | some a =>
      have hread : (some a :: xs).mapM id = (xs.mapM id).map (a :: ·) := by
        rw [List.mapM_cons]
        cases xs.mapM id <;> rfl
      rw [hread, Option.map_eq_some_iff]
      constructor
      · rintro ⟨zs, hzs, rfl⟩
        rw [(ih zs).mp hzs]
        rfl
      · intro h
        cases ys with
        | nil => cases h
        | cons b ys =>
          obtain ⟨hab, hxs⟩ := List.cons.inj h
          obtain rfl := Option.some.inj hab
          exact ⟨ys, (ih ys).mpr hxs, rfl⟩

/-- Octets are read in full if nothing ill-formed is read. -/
theorem characters?_eq_some_iff_decodeFrom (octets : List UInt8) (s : List Char) :
    characters? octets = some s ↔ decodeFrom none octets = s.map some :=
  mapM_id_eq_some_iff _ s

end WalletPanel.Text
