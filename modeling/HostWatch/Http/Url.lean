import HostWatch.Http.Host
/-!
# Addresses on the web

An address has a scheme, a host and maybe a port, a path and a query.  Read leniently, it has one
written form: backslashes count as slashes, steps up and down the path are taken, and what cannot
stand for itself is put behind percent signs.
-/

namespace HostWatch

/-- What stands before a host. -/
inductive Login where
  /-- Nothing. -/
  | nobody
  /-- A name and maybe a password. -/
  | named (name : String) (password : Option String)
  /-- What cannot be read as a name and a password, in its written form. -/
  | unread (text : String)
  deriving DecidableEq, Repr

/-- An address. -/
structure Url where
  /-- Requests are encrypted. -/
  secure : Bool
  /-- What stands before the host. -/
  login : Login
  /-- The host in its written form. -/
  host : String
  /-- The port, unless it is the usual one of the scheme. -/
  port : Option Nat
  /-- The path in its written form. -/
  path : String
  /-- The query in its written form. -/
  query : Option String
  deriving Repr

namespace Url

/-- The name of the scheme. -/
def scheme (u : Url) : String := if u.secure then "https" else "http"

/-- The usual port of the scheme. -/
def usualPort (secure : Bool) : Nat := if secure then 443 else 80

/-- The written form, without a name and a password before the host. -/
def text (u : Url) : String :=
  let login := match u.login with
    | .unread text => text ++ "@"
    | _ => ""
  let port := match u.port with
    | some port => ":" ++ .ofList (decimalDigits port)
    | none => ""
  let query := match u.query with
    | some query => "?" ++ query
    | none => ""
  u.scheme ++ "://" ++ login ++ u.host ++ port ++ u.path ++ query

/-- The most bytes of an address that can be asked for. -/
def sizeLimit : Nat := 65534

/-- A request can be made: the address is not too long, and its host has only characters that a
request can carry. -/
def isAskable (u : Url) : Bool :=
  u.text.utf8ByteSize ≤ sizeLimit && u.host.toList.all fun c ↦ !"\"`\x7b\x7d".toList.contains c

/-- The address with fields added to its query. -/
def addFields (u : Url) (fields : List (String × String)) : Url :=
  let added : String := .ofList (Percent.form fields)
  let query := match u.query with
    | none => added
    | some "" => added
    | some query => query ++ "&" ++ added
  { u with query := if query = "" then none else some query }

/-! ## Reading -/

/-- Either slash. -/
def isSlash (c : Char) : Bool := c = '/' || c = '\\'

/-- The scheme before the first colon, in small letters, and what follows the colon. -/
def splitScheme? (s : List Char) : Option (String × List Char) :=
  match splitFirst ':' s with
  | some (name@(first :: rest), after) =>
    if first.isAlpha ∧ rest.all fun c ↦ c.isAlphanum || c = '+' || c = '-' || c = '.' then
      some (.ofList (name.map Char.toLower), after)
    else none
  | _ => none

/-- The parts before and after the last at sign; without one there is nothing before. -/
def splitLogin (s : List Char) : Option (List Char) × List Char :=
  match splitFirst '@' s.reverse with
  | some (after, before) => (some before.reverse, after.reverse)
  | none => (none, s)

/-- The text of bytes, if they are text. -/
def textOfBytes? (bs : List UInt8) : Option String := String.fromUTF8? bs.toByteArray

/-- A character that is put behind a percent sign before a host. -/
def isLoginSpecial (c : Char) : Bool := " \"#<>?`\x7b\x7d/:;=@[\\]^|".toList.contains c

/-- The written form of a name and a password that is not empty. -/
def loginText (name : List Char) (password : Option (List Char)) : List Char :=
  Percent.encode isLoginSpecial name ++ match password with
    | some password => ':' :: Percent.encode isLoginSpecial password
    | none => []

/-- The name and the password before a host.  An empty password counts as missing, and so does one
that is no text if there is a name. -/
def readLogin (s : List Char) : Login :=
  let (name, password) := match splitFirst ':' s with
    | some (name, password) => (name, if password = [] then none else some password)
    | none => (s, none)
  let read := password.bind fun p ↦ textOfBytes? (Percent.decode p)
  match textOfBytes? (Percent.decode name) with
  | none => .unread (.ofList (loginText name password))
  | some "" =>
    match read, password with
    | some _, _ => .named "" read
    | none, some _ => .unread (.ofList (loginText name password))
    | none, none => .nobody
  | some name => .named name read

/-- The host and the port after it; colons within brackets belong to the host. -/
def splitPort (bracketed : Bool) : List Char → List Char × Option (List Char)
  | [] => ([], none)
  | c :: s =>
    if c = ':' ∧ !bracketed then ([], some s)
    else
      let r := splitPort (if c = '[' then true else if c = ']' then false else bracketed) s
      (c :: r.1, r.2)

/-- Read a port; the usual one and an empty one count as missing. -/
def readPort? (secure : Bool) : Option (List Char) → Option (Option Nat)
  | none => some none
  | some digits =>
    if digits.all Char.isDigit then
      let port := digitsValue 0 digits
      if digits = [] ∨ port = usualPort secure then some none
      else if port < 65536 then some (some port)
      else none
    else none

/-- A character that is put behind a percent sign in a path. -/
def isPathSpecial (c : Char) : Bool := " \"#<>?`\x7b\x7d".toList.contains c

/-- A character that is put behind a percent sign in a query. -/
def isQuerySpecial (c : Char) : Bool := " \"#<>'".toList.contains c

/-- A part of a path that means to stay. -/
def staysHere (part : List Char) : Bool :=
  let part := part.map Char.toLower
  part = ['.'] || part = "%2e".toList

/-- A part of a path that means to go up. -/
def goesUp (part : List Char) : Bool :=
  let part := part.map Char.toLower
  part = "..".toList || part = ".%2e".toList || part = "%2e.".toList || part = "%2e%2e".toList

/-- The parts of a path after the given ones, with the steps up and down taken. -/
def walk (done : List (List Char)) : List (List Char) → List (List Char)
  | [] => done
  | [last] =>
    if goesUp last then done.dropLast ++ [[]]
    else if staysHere last then done ++ [[]]
    else done ++ [last]
  | part :: rest =>
    if goesUp part then walk done.dropLast rest
    else if staysHere part then walk done rest
    else walk (done ++ [part]) rest

/-- The written form of a path. -/
def pathText (s : List Char) : List Char :=
  let s := s.map fun c ↦ if c = '\\' then '/' else c
  let s := match s with
    | '/' :: rest => rest
    | _ => s
  (walk [] ((splitAtPiece ['/'] s).map (Percent.encode isPathSpecial))).flatMap ('/' :: ·)

/-- The text without what surrounds it and without line ends and tabs. -/
def clean (s : List Char) : List Char :=
  let dull (c : Char) : Bool := c.toNat ≤ 0x20
  let s := ((s.dropWhile dull).reverse.dropWhile dull).reverse
  s.filter fun c ↦ c ≠ '\t' && c ≠ '\n' && c ≠ '\r'

/-- Read what follows the scheme and its slashes. -/
def readRest? (secure : Bool) (s : List Char) : Option Url := do
  let isEnd (c : Char) : Bool := isSlash c || c = '?' || c = '#'
  let authority := s.takeWhile fun c ↦ !isEnd c
  let rest := (s.dropWhile fun c ↦ !isEnd c).takeWhile (· ≠ '#')
  let (login, address) := splitLogin authority
  let (host, port) := splitPort false address
  let host ← Host.read? host
  let port ← readPort? secure port
  let (path, query) := match splitFirst '?' rest with
    | some (path, query) => (path, some query)
    | none => (rest, none)
  return {
    secure, port
    login := (login.map readLogin).getD .nobody
    host := .ofList host
    path := .ofList (pathText path)
    query := query.map fun q ↦ .ofList (Percent.encode isQuerySpecial q) }

/-- Read an address. -/
def read? (s : String) : Option Url :=
  match splitScheme? (clean s.toList) with
  | some (scheme, rest) =>
    if scheme = "http" then readRest? false (rest.dropWhile isSlash)
    else if scheme = "https" then readRest? true (rest.dropWhile isSlash)
    else none
  | none => none

end Url

end HostWatch
