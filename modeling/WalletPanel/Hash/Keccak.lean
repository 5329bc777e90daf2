/-!
# Keccak-256

The hash behind the mixed-case form of addresses: the permutation Keccak-f[1600] on twenty-five
lanes of sixty-four bits, and a sponge of rate 136 octets over it. The padding is Keccak's own, one
`1` bit, zeros and a final `1` bit, and not that of the later standard.

Lane `(x, y)` stands at index `x + 5 * y`.
-/

namespace WalletPanel.Hash.Keccak

/-- The state of the permutation: twenty-five lanes, row by row. -/
abbrev Lanes := Vector UInt64 25

/-- The lane at column `x` and row `y`, both taken modulo five. -/
def Lanes.at (a : Lanes) (x y : Nat) : UInt64 :=
  a.get ⟨x % 5 + 5 * (y % 5), by omega⟩

/-- The state whose lane at column `x` and row `y` is `f x y`. -/
def Lanes.ofFn (f : Nat → Nat → UInt64) : Lanes :=
  Vector.ofFn fun i => f (i.val % 5) (i.val / 5)

def rotateLeft (w : UInt64) (n : Nat) : UInt64 :=
  let n := n % 64
  if n = 0 then w else (w <<< n.toUInt64) ||| (w >>> (64 - n).toUInt64)

/-- How far each lane is turned, row by row. -/
def offsets : Vector Nat 25 := #v[
  0, 1, 62, 28, 27,
  36, 44, 6, 55, 20,
  3, 10, 43, 25, 39,
  41, 45, 15, 21, 8,
  18, 2, 61, 56, 14]

/-- The constants that tell the rounds apart. -/
def roundConstants : List UInt64 := [
  0x0000000000000001, 0x0000000000008082, 0x800000000000808A, 0x8000000080008000,
  0x000000000000808B, 0x0000000080000001, 0x8000000080008081, 0x8000000000008009,
  0x000000000000008A, 0x0000000000000088, 0x0000000080008009, 0x000000008000000A,
  0x000000008000808B, 0x800000000000008B, 0x8000000000008089, 0x8000000000008003,
  0x8000000000008002, 0x8000000000000080, 0x000000000000800A, 0x800000008000000A,
  0x8000000080008081, 0x8000000000008080, 0x0000000080000001, 0x8000000080008008]

/-- Mixes the parity of two neighbouring columns into every lane. -/
def theta (a : Lanes) : Lanes :=
  let c : Vector UInt64 5 := Vector.ofFn fun x =>
    a.at x 0 ^^^ a.at x 1 ^^^ a.at x 2 ^^^ a.at x 3 ^^^ a.at x 4
  -- the column before, and the next one turned by one bit
  let d : Vector UInt64 5 := Vector.ofFn fun x =>
    c.get ⟨(x.val + 4) % 5, by omega⟩ ^^^ rotateLeft (c.get ⟨(x.val + 1) % 5, by omega⟩) 1
  Lanes.ofFn fun x y => a.at x y ^^^ d.get ⟨x % 5, by omega⟩

/-- Turns every lane by its offset and moves it to its new place: the lane at `(x, y)` comes from
column `x + 3 * y` and row `x`. -/
def rhoPi (a : Lanes) : Lanes :=
  Lanes.ofFn fun x y =>
    rotateLeft (a.at (x + 3 * y) x) (offsets.get ⟨(x + 3 * y) % 5 + 5 * (x % 5), by omega⟩)

/-- Combines each lane with its two neighbours in the row. -/
def chi (a : Lanes) : Lanes :=
  Lanes.ofFn fun x y => a.at x y ^^^ (~~~ a.at (x + 1) y &&& a.at (x + 2) y)

/-- Breaks the symmetry of the rounds. -/
def iota (constant : UInt64) (a : Lanes) : Lanes := a.set 0 (a[0] ^^^ constant)

/-- The permutation: twenty-four rounds. -/
def permute (a : Lanes) : Lanes :=
  roundConstants.foldl (fun a constant => iota constant (chi (rhoPi (theta a)))) a

/-- How many octets a block has. -/
def rate : Nat := 136

/-- The eight octets from place `i` as a word, the least first. -/
def wordAt (block : List UInt8) (i : Nat) : UInt64 :=
  ((block.drop i).take 8).foldr (fun b w => (w <<< 8) ||| b.toUInt64) 0

def absorb (a : Lanes) (block : List UInt8) : Lanes :=
  permute (Lanes.ofFn fun x y => a.at x y ^^^ wordAt block (8 * (x + 5 * y)))

/-- A message filled up to whole blocks. -/
def pad (message : List UInt8) : List UInt8 :=
  let missing := rate - message.length % rate
  -- where one octet is missing it takes both bits of the padding
  if missing = 1 then message ++ [0x81]
  -- the first bit and the last bit of the padding are in different octets
  else message ++ 0x01 :: List.replicate (missing - 2) 0x00 ++ [0x80]

def octetsOfWord (w : UInt64) : List UInt8 :=
  (List.range 8).map fun i => (w >>> (8 * i).toUInt64).toUInt8

/-- The hash of a message: thirty-two octets. -/
def hash256 (message : List UInt8) : List UInt8 :=
  let padded := pad message
  let blocks := (List.range (padded.length / rate)).map fun i => (padded.drop (i * rate)).take rate
  let lanes := blocks.foldl absorb (Vector.replicate 25 0)
  -- of the state that is left four lanes are taken
  (List.range 4).flatMap fun x => octetsOfWord (lanes.at x 0)

/-- A filled-up message is a whole number of blocks. -/
theorem length_pad (message : List UInt8) : (pad message).length % rate = 0 := by
  have h : message.length % rate < rate := Nat.mod_lt _ (by decide)
  have hd := Nat.div_add_mod message.length rate
  unfold pad
  simp only
  split
  · rename_i h1
    simp only [List.length_append, List.length_cons, List.length_nil, rate] at *
    omega
  · rename_i h1
    simp only [List.length_append, List.length_cons, List.length_nil, List.length_replicate,
      rate] at *
    omega

end WalletPanel.Hash.Keccak
