import Devnet.Url.Path

namespace Devnet

/-- A user name and a password, with escapes. -/
@[ext] structure Credentials where
  name : List Char
  password : Option (List Char)
  deriving DecidableEq

@[ext] structure Url where
  scheme : List Char
  credentials : Credentials
  /-- `none` where the scheme is followed by a path without an authority. -/
  host : Option (List Char)
  port : Option Nat
  path : List Char
  query : Option (List Char)
  fragment : Option (List Char)
  deriving DecidableEq

namespace Credentials

def none : Credentials := ⟨[], Option.none⟩

/-- The characters escaped in both parts, beside the controls. -/
def escaped : List Char :=
  [' ', '"', '<', '>', '`', '#', '?', '\x7b', '\x7d', '/', ':', ';', '=', '@', '[', '\\', ']', '^',
    '|']

/-- Reads what stands before the last at sign; without characters behind the colon there is no
password. -/
def ofText (cs : List Char) : Credentials :=
  let password := match cs.dropWhile (· ≠ ':') with
    | _ :: c :: rest => some (Url.percentEncode escaped (c :: rest))
    | _ => Option.none
  ⟨Url.percentEncode escaped (cs.takeWhile (· ≠ ':')), password⟩

def chars (c : Credentials) : List Char :=
  let password := match c.password with
    | some p => ':' :: p
    | Option.none => []
  if c = none then [] else c.name ++ password ++ ['@']

/-- Whether they can be sent apart from the URL: the name is text, and it is not empty or there is
a password that is text. -/
def areSent (c : Credentials) : Bool :=
  let isText (cs : List Char) : Bool := (Text.decodeUtf8? (Url.percentDecode cs)).isSome
  isText c.name && (!c.name.isEmpty || c.password.any isText)

end Credentials

namespace Url

inductive SchemeKind where
  | file
  /-- A host must follow; the default port is left out. -/
  | web (defaultPort : Nat)
  | other
  deriving DecidableEq

def kindOf (scheme : List Char) : SchemeKind :=
  match String.ofList scheme with
  | "file" => .file
  | "http" | "ws" => .web 80
  | "https" | "wss" => .web 443
  | "ftp" => .web 21
  | _ => .other

/-- Whether a backslash counts as a slash. -/
def SchemeKind.isSpecial : SchemeKind → Bool
  | .other => false
  | _ => true

def isSchemeChar (c : Char) : Bool := c.isAlphanum || c = '+' || c = '-' || c = '.'

/-- The scheme in lower case and what follows its colon. -/
def splitScheme? (cs : List Char) : Option (List Char × List Char) :=
  let name := cs.takeWhile isSchemeChar
  match cs.drop name.length with
  | ':' :: rest =>
    if (name.head?.map Char.isAlpha).getD false then some (name.map Char.toLower, rest) else none
  | _ => none

def isSlash (special : Bool) (c : Char) : Bool := c = '/' || (special && c = '\\')

def endsAuthority (special : Bool) (c : Char) : Bool := isSlash special c || c = '?' || c = '#'

/-- The part before the first character that satisfies `p`, and the rest from it on. -/
def cut (p : Char → Bool) (cs : List Char) : List Char × List Char :=
  (cs.takeWhile (!p ·), cs.dropWhile (!p ·))

/-- What stands before the last at sign, if there is one, and what stands behind it. -/
def splitUser (authority : List Char) : Option (List Char) × List Char :=
  if authority.contains '@' then
    let place := (authority.reverse.takeWhile (· ≠ '@')).reverse
    (some (authority.take (authority.length - place.length - 1)), place)
  else (none, authority)

/-- Splits a host from the colon of its port; colons in brackets belong to the host. -/
def splitPort : (inBrackets : Bool) → List Char → List Char × Option (List Char)
  | _, [] => ([], none)
  | b, c :: cs =>
    if c = ':' ∧ b = false then ([], some cs)
    else
      let (h, p) := splitPort (if c = '[' then true else if c = ']' then false else b) cs
      (c :: h, p)

/-- A port of at most 16 bits, and what a backslash behind it leaves for the path. No digits stand
for none, like the scheme's own port. -/
def readPort (kind : SchemeKind) : Option (List Char) → Except Fault (Option Nat × List Char)
  | none => .ok (none, [])
  | some cs =>
    let (rest, digits) := (cs.dropWhile Char.isDigit, cs.takeWhile Char.isDigit)
    let n := digits.foldl (fun n c => 10 * n + (c.toNat - '0'.toNat)) 0
    if 65535 < n ∨ rest.head?.any (· ≠ '\\') then .error .badPort
    else .ok (if digits.isEmpty ∨ kind = .web n then none else some n, rest)

/-- The characters escaped in the last parts, beside the controls. -/
def escapedInQuery (special : Bool) : List Char :=
  [' ', '"', '#', '<', '>'] ++ (if special then ['\''] else [])

def escapedInFragment : List Char := [' ', '"', '<', '>', '`']

/-- The text before a query and a fragment, and these two. -/
def splitTail (special : Bool) (cs : List Char) :
    List Char × Option (List Char) × Option (List Char) :=
  let (before, hash) := cut (· = '#') cs
  let (path, mark) := cut (· = '?') before
  let query := match mark with
    | [] => none
    | _ :: q => some (percentEncode (escapedInQuery special) q)
  let fragment := match hash with
    | [] => none
    | _ :: f => some (percentEncode escapedInFragment f)
  (path, query, fragment)

/-- The parts after the two slashes in front of an authority. -/
def readAuthority (scheme : List Char) (kind : SchemeKind) (cs : List Char) : Except Fault Url := do
  let special := kind.isSpecial
  let (authority, rest) := cut (endsAuthority special) cs
  let (user, place) := splitUser authority
  if user = some [] ∧ place.isEmpty ∧ !rest.isEmpty then throw .emptyHost
  let credentials := Credentials.ofText (user.getD [])
  let (hostText, portText) := splitPort false place
  if special ∧ hostText.isEmpty then throw .emptyHost
  let host ← if special then readHost hostText else readOpaqueHost hostText
  if host.isEmpty ∧ portText.isSome then throw .emptyHost
  let (port, left) ← readPort kind portText
  if host.isEmpty ∧ credentials ≠ .none then throw .emptyHost
  let (pathText, query, fragment) := splitTail special (left ++ rest)
  let path := if pathText.isEmpty ∧ !special then [] else readPath special pathText
  return ⟨scheme, credentials, some host, port, path, query, fragment⟩

/-- The host of a file, if it is on another machine, and the text of its path. A drive in the place
of a host belongs to the path. -/
def readFileHost (cs : List Char) : Except Fault (Option (List Char) × List Char) :=
  match cs with
  | a :: b :: rest =>
    if isSlash true a ∧ isSlash true b then
      let (hostText, path) := cut (endsAuthority true) rest
      if isDrive hostText then .ok (none, rest)
      else if hostText.isEmpty then .ok (none, path)
      else do
        let host ← readHost hostText
        return if String.ofList host = "localhost" then (none, path)
          else (some host, dropSlash true path)
    else .ok (none, dropSlash true cs)
  | cs => .ok (none, dropSlash true cs)

def readFile (scheme cs : List Char) : Except Fault Url := do
  let (host, rest) ← readFileHost cs
  let (pathText, query, fragment) := splitTail true rest
  let path := readFilePath pathText
  let host := if path.hasDrive then [] else host.getD []
  return ⟨scheme, .none, some host, none, path.chars, query, fragment⟩

/-- The parts of a URL of any other scheme. A path that would be taken for an authority has a dot in
front. -/
def readOther (scheme cs : List Char) : Except Fault Url :=
  match cs with
  | '/' :: '/' :: r => readAuthority scheme .other r
  | cs =>
    let (pathText, query, fragment) := splitTail false cs
    let path := if cs.head? = some '/' then readPath false pathText else percentEncode [] pathText
    let path := match path with
      | '/' :: '/' :: r => '/' :: '.' :: '/' :: '/' :: r
      | path => path
    .ok ⟨scheme, .none, none, none, path, query, fragment⟩

/-- Without controls and spaces around it, and without line breaks and tabs. -/
def cleaned (raw : String) : List Char :=
  let isEdge (c : Char) : Bool := c.toNat ≤ 0x20
  let cs := ((raw.toList.dropWhile isEdge).reverse.dropWhile isEdge).reverse
  cs.filter fun c => !(c = '\t' || c = '\n' || c = '\r')

def parse (raw : String) : Except Fault Url :=
  match splitScheme? (cleaned raw) with
  | none => .error .relative
  | some (scheme, rest) =>
    match kindOf scheme with
    | .file => readFile scheme rest
    | .web p => readAuthority scheme (.web p) (rest.dropWhile (isSlash true))
    | .other => readOther scheme rest

def text (u : Url) : String :=
  let authority := match u.host with
    | none => []
    | some h => '/' :: '/' :: u.credentials.chars ++ h ++ (match u.port with
      | none => []
      | some p => ':' :: Nat.toDigits 10 p)
  let query := match u.query with
    | none => []
    | some q => '?' :: q
  let fragment := match u.fragment with
    | none => []
    | some f => '#' :: f
  String.ofList (u.scheme ++ ':' :: authority ++ u.path ++ query ++ fragment)

/-- The URL of a request; credentials that are sent apart are taken out. -/
def requested (u : Url) : Url :=
  if u.credentials.areSent then { u with credentials := .none } else u

def hasRequests (u : Url) : Bool := String.ofList u.scheme ∈ ["http", "https"]

def requestLimit : Nat := 65534

/-- Whether its host and its length are allowed in a request. -/
def isRequestable (u : Url) : Bool :=
  !u.host.any (·.any fun c => c ∈ ['"', '`', '\x7b', '\x7d']) &&
    decide (u.text.utf8ByteSize ≤ requestLimit)

end Url

end Devnet
