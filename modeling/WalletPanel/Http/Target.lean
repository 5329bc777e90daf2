import WalletPanel.Http.Host
import WalletPanel.Text.Trim

/-!
# Request targets

What is sent of the URL of a server on the web: its path and its query. `target?` takes a URL apart,
refuses one that names no server, and brings the path into its normal form: the steps `.` and `..`
are carried out, and characters that may not stand in a request are written as percent signs with
the numbers of their octets. Repeated slashes stay as they are. What names a server is told by
`isHost`; nothing of it is sent.
-/

namespace WalletPanel.Http

/-! ### Characters -/

def percentOctet (b : UInt8) : List Char := '%' :: (Text.hexOctet b).map Char.toUpper

/-- A text with each character that `p` holds of written by the numbers of its octets. -/
def percentEncode (p : Char → Bool) (s : List Char) : List Char :=
  s.flatMap fun c => if p c then (Text.octets [c]).flatMap percentOctet else [c]

/-- The characters outside visible ASCII. -/
def isUnprintable (c : Char) : Bool := c.toNat ≤ 0x20 || 0x7F ≤ c.toNat

/-- The characters that are not sent as they are in a path. -/
def isEncodedInPath (c : Char) : Bool :=
  isUnprintable c || ['"', '#', '<', '>', '?', '`', '\x7b', '\x7d'].contains c

/-- The characters that are not sent as they are in a query. -/
def isEncodedInQuery (c : Char) : Bool :=
  isUnprintable c || ['"', '#', '<', '>', '\x27'].contains c

/-! ### Paths -/

def isSlash (c : Char) : Bool := c == '/' || c == '\\'

/-- How many dots a piece consists of, either of which may be written by its number. -/
def dots? : List Char → Option Nat
  | [] => some 0
  | '.' :: s => (dots? s).map (· + 1)
  | '%' :: '2' :: 'e' :: s => (dots? s).map (· + 1)
  | '%' :: '2' :: 'E' :: s => (dots? s).map (· + 1)
  | _ => none

/-- Whether a piece names a drive: a letter and a colon or a bar. -/
def isDrive : List Char → Bool
  | [letter, mark] => letter.isAlpha && (mark == ':' || mark == '|')
  | _ => false

/-- The pieces before a place after going back from it, the last one first. Nothing goes back over
a drive. -/
def back (done : List (List Char)) : List (List Char) :=
  if done.head?.any isDrive then done else done.tail

/-- Carries out the pieces that are steps: one dot stays, two dots go back. `done` holds the pieces
before, the last one first. A step at the end leaves the end open. -/
def walk (done : List (List Char)) : List (List Char) → List (List Char)
  | [] => done.reverse
  | piece :: rest =>
    let after :=
      if dots? piece = some 1 then done
      else if dots? piece = some 2 then back done
      else piece :: done
    let isStep := dots? piece = some 1 ∨ dots? piece = some 2
    -- the path ends in a slash where its last piece is a step
    walk (if rest = [] ∧ isStep then [] :: after else after) rest

/-- The path of a URL in its normal form. -/
def path (s : List Char) : List Char :=
  -- the slash in front divides nothing
  let inside := match s with
    | [] => []
    | _ :: rest => rest
  (walk [] (Text.pieces isSlash (percentEncode isEncodedInPath inside))).flatMap ('/' :: ·)

/-! ### URLs -/

/-- Whether the digits after a server's colon, perhaps none, are a number of sixteen bits. -/
def isServerNumber (digits : List Char) : Bool :=
  digits.all Char.isDigit && Text.digitsValue digits < Nat.pow 2 16

/-- A text up to the colon before the server's number, and the rest. A colon in brackets belongs to
an address. -/
def atNumber (inBrackets : Bool) : List Char → List Char × List Char
  | [] => ([], [])
  | c :: s =>
    if c == ':' && !inBrackets then ([], c :: s)
    else
      -- a bracket opens an address, and the next closing one ends it
      let (host, rest) := atNumber (c == '[' || (inBrackets && c != ']')) s
      (c :: host, rest)

/-- Whether a text says where a server is: its name and perhaps a number, with perhaps something
that ends in `@` before them. -/
def isAuthority (s : List Char) : Bool :=
  -- what stands before the last `@` says who asks, and not where
  let (host, rest) := atNumber false (s.reverse.takeWhile (· != '@')).reverse
  isHost host && isServerNumber rest.tail

/-- The schemes of servers on the web. -/
def isWebScheme (scheme : List Char) : Bool :=
  let lower := scheme.map Char.toLower
  lower == "http".toList || lower == "https".toList

/-- What is sent of a URL, unless the URL names no server on the web. -/
def target? (url : String) : Option String :=
  let plain := (Text.strip (·.toNat ≤ 0x20) url.toList).filter
    fun c => c != '\t' && c != '\n' && c != '\r'
  let scheme := plain.takeWhile (· != ':')
  -- any number of slashes of either kind may follow the colon
  let afterScheme := ((plain.dropWhile (· != ':')).tail).dropWhile isSlash
  let endsAuthority (c : Char) : Bool := isSlash c || c == '?' || c == '#'
  let authority := afterScheme.takeWhile (!endsAuthority ·)
  -- what follows the first `#` stays on this side
  let sent := (afterScheme.dropWhile (!endsAuthority ·)).takeWhile (· != '#')
  if isWebScheme scheme && isAuthority authority then
    let query := sent.dropWhile (· != '?')
    some (String.ofList
      (path (sent.takeWhile (· != '?')) ++ percentEncode isEncodedInQuery query))
  else none

end WalletPanel.Http
