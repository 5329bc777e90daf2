import WalletPanel.Domain.Name
import WalletPanel.Http.Host.Ipv4
import WalletPanel.Http.Host.Ipv6
import WalletPanel.Text.Utf8

/-!
# Hosts

Whether a text names a server (`isHost`): by an address in brackets, by a dotted address or by a
domain name. Characters outside brackets may be written by the numbers of their octets.
-/

namespace WalletPanel.Http

/-- The octets of a text in which an octet may be written as a percent sign and two digits. -/
def percentDecode : List Char → List UInt8
  | [] => []
  | '%' :: a :: b :: s =>
    match Text.hexValue? a, Text.hexValue? b with
    | some m, some n => (16 * m + n).toUInt8 :: percentDecode s
    -- a percent sign that begins no number stands for itself
    | _, _ => Text.octets ['%'] ++ percentDecode (a :: b :: s)
  | c :: s => Text.octets [c] ++ percentDecode s

/-- The characters of ASCII that are in no name of a server. -/
def isForbiddenInHost (c : Char) : Bool :=
  c.toNat ≤ 0x20 || c.toNat == 0x7F ||
    ['#', '/', ':', '<', '>', '?', '@', '[', '\\', ']', '^', '|', '%'].contains c

/-- Whether a text without brackets names a server. -/
def isNamedHost (s : List Char) : Bool :=
  match (Text.characters? (percentDecode s)).bind Domain.Name.labels? with
  | none => false
  | some labels =>
    -- what was written by numbers may have brought in characters that are in no name
    labels ≠ [[]] && !labels.any (·.any isForbiddenInHost) &&
      (!Ipv4.isMeant labels || Ipv4.isValid labels)

def isHost : List Char → Bool
  | '[' :: s => s.getLast? == some ']' && Ipv6.isValid s.dropLast
  | s => isNamedHost s

end WalletPanel.Http
