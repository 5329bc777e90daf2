import WalletPanel.Text.Trim
import WalletPanel.Text.Utf8

/-!
# Where the backend is

The backend has a URL and a prefix that all its paths share. The three parts of a full URL are put
together with one slash at each joint, however many slashes the parts have there (`Backend.urlOf`).
The URL can be set from outside (`Backend.ofSetting`); the prefix cannot.
-/

namespace WalletPanel

/-- Where the backend is. -/
structure Backend where
  url : String
  /-- What its paths begin with. -/
  apiPrefix : String
deriving DecidableEq, Repr

namespace Backend

/-- The backend of this machine. -/
def standard : Backend := ⟨"http://127.0.0.1:8001", "/api"⟩

/-- The name of the setting that says where the backend is. -/
def settingName : String := "OBSIDIAN_FORGE_BACKEND_URL"

/-- The backend of the default prefix at `url`. -/
def atUrl (url : String) : Backend := { standard with url := url }

/-- The backend that a setting names: its text without the blanks around it. A setting that is
missing, no text or blank leaves the standard one. -/
def ofSetting (setting : Option (List UInt8)) : Backend :=
  match setting.bind Text.decode? with
  | some text => if Text.allBlank text then standard else atUrl (Text.trimBlank text)
  -- also where the octets are no text
  | none => standard

def isSlash (c : Char) : Bool := c == '/'

/-- Three parts of a URL with one slash at each joint; a middle part of nothing but slashes is left
out. -/
def join (base middle path : List Char) : List Char :=
  let base := Text.dropEnd isSlash base
  let middle := Text.strip isSlash middle
  let path := path.dropWhile isSlash
  -- without a middle there is one joint
  if middle = [] then base ++ '/' :: path else base ++ '/' :: middle ++ '/' :: path

def urlOf (b : Backend) (path : String) : String :=
  String.ofList (join b.url.toList b.apiPrefix.toList path.toList)

end Backend

end WalletPanel
