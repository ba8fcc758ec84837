import QueryGateway.Source.Basic
import QueryGateway.Text.Hex
import QueryGateway.Text.Utf8

/-!
# Addresses

The address that a driver connects to, and its text.  Names and passwords are
percent-encoded, so no character of them is taken for a separator.
-/

namespace QueryGateway

/-- The address of a database. -/
structure Address where
  driver : String
  username : Option String
  password : Option String
  host : String
  port : Option Int
  database : String
  query : List (String × String)
  deriving Repr, DecidableEq

namespace Address

/-- Whether a character stands for itself in every part of an address. -/
def isUnreserved (c : Char) : Bool :=
  c.isAlphanum || c = '_' || c = '.' || c = '-' || c = '~'

/-- The escape of one byte. -/
def byteEscape (byte : UInt8) : List Char :=
  '%' :: (Text.hexDigits 2 byte.toNat).map Char.toUpper

/-- A character as it is if it is safe, else the escapes of its bytes. -/
def encodeChar (safe : Char → Bool) (c : Char) : List Char :=
  if isUnreserved c || safe c then [c] else (Text.utf8 [c]).flatMap byteEscape

/-- A text with its unsafe characters escaped. -/
def encode (safe : Char → Bool) (text : String) : String :=
  String.ofList (text.toList.flatMap (encodeChar safe))

/-- A user name or a password; blanks and plus signs are kept. -/
def encodeLogin : String → String :=
  encode fun c => c = ' ' || c = '+'

/-- The name of a database; slashes are kept too. -/
def encodeDatabase : String → String :=
  encode fun c => c = ' ' || c = '+' || c = '/'

/-- A name or a value of the query; a blank becomes a plus sign. -/
def encodeQuery (text : String) : String :=
  String.ofList (text.toList.flatMap fun c => if c = ' ' then ['+'] else encodeChar (fun _ => false) c)

/-- What is shown of a password in an address. -/
def hiddenPassword : String := "***"

/-- The login part of an address.  A password without a user name is left out. -/
def loginText (address : Address) (hidePassword : Bool) : String :=
  match address.username with
  | none => ""
  | some username =>
      let shown (password : String) := if hidePassword then hiddenPassword else encodeLogin password
      encodeLogin username ++ ((address.password.map fun password => ":" ++ shown password).getD "")
        ++ "@"

/-- The host part of an address; a host with a colon in it stands in brackets. -/
def hostText (address : Address) : String :=
  if address.host.toList.contains ':' then "[" ++ address.host ++ "]" else address.host

/-- The query part of an address, in alphabetical order. -/
def queryText (address : Address) : String :=
  match address.query.mergeSort fun left right => left.1 ≤ right.1 with
  | [] => ""
  | query =>
      "?" ++ "&".intercalate (query.map fun (name, value) =>
        encodeQuery name ++ "=" ++ encodeQuery value)

/-- The text of an address. -/
def text (address : Address) (hidePassword : Bool) : String :=
  address.driver ++ "://" ++ address.loginText hidePassword ++ address.hostText
    ++ ((address.port.map fun port => ":" ++ Numeral.ofInt port).getD "")
    ++ "/" ++ encodeDatabase address.database ++ address.queryText

/-- The text of an address, unless its port is too long to be written. -/
def text? (address : Address) (hidePassword : Bool) : Option String :=
  if (address.port.map Numeral.isWritable).getD true then some (address.text hidePassword) else none

end Address

/-- The address of a source for a driver.  An empty password counts as none. -/
def DataSource.address
    (source : DataSource)
    (driver : String)
    (defaultPort : Option Int) :
    Address :=
  { driver
    username := source.username
    password := source.password.filter fun password => !password.isEmpty
    host := source.host
    port := source.chosenPort.or defaultPort
    database := source.database
    query := source.options.map fun (name, value) => (name, value.plainText) }

end QueryGateway
