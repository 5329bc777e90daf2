import WalletPanel.Wire.Kind
import WalletPanel.Wire.Skip

/-!
# Records

A record type travels as an object that has its members in the order of declaration. It is read
from an object with the members in any order among others, which are passed over, or from a list
with the members in order. A `Schema` says which members a type has and how it is put together from
a row of their values; writing and reading are defined once for all schemas.

While an object is read, the members met so far are kept in a `Draft`. A member that comes twice is
refused where it comes again, before anything after its key is looked at; a missing one is found at
the end, and of several the one declared first is named.
-/

namespace WalletPanel.Wire

/-- A member: its key and its kind. -/
structure Field where
  name : String
  kind : Kind
deriving DecidableEq, Repr

/-- One value for each member. -/
@[reducible] def Row : List Field → Type
  | [] => Unit
  | f :: fs => f.kind.Carrier × Row fs

/-- A value for some of the members. -/
@[reducible] def Draft : List Field → Type
  | [] => Unit
  | f :: fs => Option f.kind.Carrier × Draft fs

/-- The members of a record type. -/
structure Schema (α : Type) where
  /-- The name of the type in messages. -/
  name : String
  /-- The members in the order of declaration. -/
  fields : List Field
  /-- The values of the members. -/
  toRow : α → Row fields
  /-- The record with these values. -/
  ofRow : Row fields → α
  ofRow_toRow : ∀ a, ofRow (toRow a) = a

/-! ### Writing -/

/-- The members of a row that are not left out, each with its key. -/
def writeMembers : (fs : List Field) → Row fs → List (List Char)
  | [], _ => []
  | f :: fs, (v, row) =>
    match f.kind.write v with
    | some written => (writeText f.name ++ ':' :: written) :: writeMembers fs row
    -- a member that is left out leaves no comma behind
    | none => writeMembers fs row

/-- Pieces with commas between them. -/
def joined : List (List Char) → List Char
  | [] => []
  | [piece] => piece
  | piece :: more => piece ++ ',' :: joined more

/-- The wire form of a record. -/
def Schema.write (s : Schema α) (a : α) : List Char :=
  '\x7b' :: joined (writeMembers s.fields (s.toRow a)) ++ ['\x7d']

/-! ### Drafts -/

namespace Draft

/-- The draft that has nothing. -/
def empty : (fs : List Field) → Draft fs
  | [] => ()
  | _ :: fs => (none, empty fs)

/-- Reads the colon and the value after `key` into the draft, or passes over them if no member has
that key. -/
def member : (fs : List Field) → Draft fs → String → Reader (Draft fs)
  | [], _, _ => do
    Reader.colon
    Reader.skip
  | f :: fs, (slot, draft), key =>
    if key = f.name then
      match slot with
      -- refused before it is known whether a colon and a value follow
      | some _ => throw (.duplicateMember f.name)
      | none => do
        Reader.colon
        let v ← f.kind.read
        pure (some v, draft)
    -- the key may be that of a member further on
    else do
      let draft ← member fs draft key
      pure (slot, draft)

/-- Takes the value `v` under `key` into the draft; without effect if no member has that key. -/
def insert : (fs : List Field) → Draft fs → String → Value → Except Error (Draft fs)
  | [], _, _, _ => .ok ()
  | f :: fs, (slot, draft), key, v =>
    if key = f.name then
      match slot with
      | some _ => .error (.duplicateMember f.name)
      | none => do
        let w ← f.kind.ofValue v
        .ok (some w, draft)
    else do
      let draft ← insert fs draft key v
      .ok (slot, draft)

/-- The row of a draft that misses nothing that has to be there. -/
def complete : (fs : List Field) → Draft fs → Except Error (Row fs)
  | [], _ => .ok ()
  | f :: fs, (slot, draft) => do
    -- the members are gone through as declared, so that the first one that is missing is named
    let v ← match slot with
      | some v => .ok v
      | none =>
        match f.kind.absent with
        | some v => .ok v
        | none => .error (.missingMember f.name)
    let row ← complete fs draft
    .ok (v, row)

end Draft

/-! ### Reading -/

/-- Reads the values of a list into a row, after `done` of them. Members at the end may be left out
if they may be missing; `total` is the whole number of members of the type `name`. -/
def readRow (name : String) (total : Nat) : (fs : List Field) → Nat → Reader (Row fs)
  | [], _ => pure ()
  | f :: fs, done => do
    let v ←
      -- a list may end early, if all that is missing may be
      if ← Reader.anotherItem (done = 0) then f.kind.read
      else
        match f.kind.absent with
        | some v => pure v
        | none => throw (.wrongLength done (.recordOf name total))
    let row ← readRow name total fs (done + 1)
    pure (v, row)

namespace Schema

/-- Reads the members of an object whose opening bracket has been passed. -/
def readObject (s : Schema α) : Reader α := do
  let draft ← Reader.membersFrom Reader.text (Draft.member s.fields) ((← get).length + 1) true
    (Draft.empty s.fields)
  -- a missing member is found before a comma that nothing follows
  let row ← Kind.accept (Draft.complete s.fields draft)
  Reader.closeObject
  pure (s.ofRow row)

/-- Reads the items of a list whose opening bracket has been passed. -/
def readList (s : Schema α) : Reader α := do
  let row ← readRow s.name s.fields.length s.fields 0
  Reader.closeList
  pure (s.ofRow row)

def read (s : Schema α) : Reader α := do
  match ← Reader.lead with
  -- either way of writing a record is taken
  | .object => do Reader.advance; s.readObject
  | .list => do Reader.advance; s.readList
  | found => throw (.wrongType found (.record s.name))

/-- The record whose members are among those that were kept, in the order in which they came. -/
def ofMembers (s : Schema α) (members : List (String × Value)) : Except Error α := do
  let draft ← members.foldlM (fun draft (key, v) => Draft.insert s.fields draft key v)
    (Draft.empty s.fields)
  let row ← Draft.complete s.fields draft
  .ok (s.ofRow row)

def parse (s : Schema α) (text : String) : Except Error α := s.read.run text.toList

end Schema

end WalletPanel.Wire
