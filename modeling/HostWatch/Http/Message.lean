import HostWatch.Http.Url
import HostWatch.Text.Blank
/-!
# Requests and responses

What is sent to an address and what comes back.  Names of headers are in small letters; a request
is only made to an address and with headers that can be sent, and a response is one only if its
status can end an exchange.
-/

namespace HostWatch

/-- What a request wants. -/
inductive Method where
  | get | post
  deriving DecidableEq, Repr

namespace Method

/-- The method's name. -/
def name : Method → String
  | get => "GET"
  | post => "POST"

/-- All methods. -/
def all : List Method := [get, post]

end Method

/-- A request. -/
structure Request where
  /-- What it wants. -/
  method : Method
  /-- Where it goes. -/
  url : Url
  /-- Its headers, without those of the connection. -/
  headers : List (String × String)
  /-- What it carries. -/
  body : String
  deriving Repr

/-- A response. -/
structure Response where
  /-- Its status. -/
  status : Nat
  /-- What it carries. -/
  body : String
  deriving Repr

namespace Response

/-- An empty success. -/
def success : Response := ⟨200, ""⟩

/-- A status that can end an exchange: it has three digits and does not only announce another. -/
def isFinal (status : Nat) : Bool := status = 101 || (200 ≤ status && status < 1000)

/-- Statuses whose responses carry nothing. -/
def carriesNothing (status : Nat) : Bool := status = 101 || status = 204 || status = 304

/-- The text that a response carries, without a mark of byte order. -/
def text (r : Response) : String :=
  if carriesNothing r.status then ""
  else match r.body.toList with
    | '\ufeff' :: rest => .ofList rest
    | _ => r.body

end Response

namespace Header

/-- A character of the names of headers. -/
def isNameChar (c : Char) : Bool :=
  c.isAlphanum || "!#$%&'*+-.^_`|~".toList.contains c

/-- A name that a header can have, in small letters. -/
def name? (s : String) : Option String :=
  if s ≠ "" ∧ s.toList.all isNameChar then some (.ofList (s.toList.map Char.toLower)) else none

/-- A character that a header can carry: no control but the tab. -/
def isValueChar (c : Char) : Bool := c = '\t' || (0x20 ≤ c.toNat && c.toNat ≠ 0x7f)

/-- A space or a tab. -/
def isSpace (c : Char) : Bool := c = ' ' || c = '\t'

/-- A value that a header can have, without the spaces around it. -/
def value? (s : String) : Option String :=
  if s.toList.all isValueChar then
    some (.ofList ((s.toList.dropWhile isSpace).reverse.dropWhile isSpace).reverse)
  else none

/-- A header, if it can be sent. -/
def make? (name value : String) : Option (String × String) :=
  match name? name, value? value with
  | some name, some value => some (name, value)
  | _, _ => none

/-- The digits to the base of 64. -/
def base64Digit (n : Nat) : Char :=
  if n < 26 then Char.ofNat (65 + n)
  else if n < 52 then Char.ofNat (71 + n)
  else if n < 62 then Char.ofNat (n - 4)
  else if n = 62 then '+'
  else '/'

/-- Bytes to the base of 64: four digits for three bytes, filled up with equality signs. -/
def base64 : List UInt8 → List Char
  | [] => []
  | [a] =>
    let n := a.toNat * 16
    [base64Digit (n / 64), base64Digit (n % 64), '=', '=']
  | [a, b] =>
    let n := (a.toNat * 256 + b.toNat) * 4
    [base64Digit (n / 4096), base64Digit (n / 64 % 64), base64Digit (n % 64), '=']
  | a :: b :: c :: rest =>
    let n := (a.toNat * 256 + b.toNat) * 256 + c.toNat
    base64Digit (n / 262144) :: base64Digit (n / 4096 % 64) :: base64Digit (n / 64 % 64) ::
      base64Digit (n % 64) :: base64 rest

/-- The header of a name and a password. -/
def ofLogin (name : String) (password : Option String) : String × String :=
  ("authorization",
    "Basic " ++ .ofList (base64 (encodeBytes (name ++ ":" ++ password.getD "").toList)))

/-! ## How much is carried -/

/-- The header that says how the body is coded on the way. -/
def coding : String := "transfer-encoding"

/-- The header that says how long the body is. -/
def length : String := "content-length"

/-- The value shows on a screen. -/
def isVisible (value : String) : Bool := value.toList.all fun c ↦ isValueChar c && c.toNat < 127

/-- The last coding of a value is that in chunks. -/
def endsInChunks (value : String) : Bool :=
  isVisible value &&
    match (splitAtPiece [','] value.toList).getLast? with
    | some last => (trim last).map Char.toLower = "chunked".toList
    | none => false

/-- A length in digits. -/
def readLength? (s : List Char) : Option Nat :=
  let s := trim s
  if s ≠ [] ∧ s.all Char.isDigit ∧ digitsValue 0 s < 18446744073709551616 then
    some (digitsValue 0 s)
  else none

/-- The length that all values agree on. -/
def lengthOf? (values : List String) : Option Nat :=
  let parts := values.flatMap fun v ↦ splitAtPiece [','] v.toList
  match parts.mapM readLength? with
  | some (n :: rest) => if values.all isVisible ∧ rest.all (· = n) then some n else none
  | _ => none

end Header

namespace Request

/-- The values of a header. -/
def values (name : String) (headers : List (String × String)) : List String :=
  (headers.filter fun h ↦ h.1 = name).map (·.2)

/-- A body in one chunk. -/
def inChunks (body : String) : String :=
  .ofList (Nat.toDigits 16 body.utf8ByteSize) ++ "\r\n" ++ body ++ "\r\n0\r\n\r\n"

/-- Headers with the last value of a name replaced by one that depends on it. -/
def modifyLast (name : String) (f : String → String) (headers : List (String × String)) :
    List (String × String) :=
  let after := headers.reverse.takeWhile fun h ↦ h.1 ≠ name
  match headers.reverse.dropWhile fun h ↦ h.1 ≠ name with
  | [] => headers
  | (name, value) :: before => before.reverse ++ (name, f value) :: after.reverse

/-- A request as it is sent.  With no body there is no coding of it.  A body goes in one chunk if
its coding is given, and else as far as its length is given; a length beyond its end is an error. -/
def carry? (r : Request) : Option Request :=
  if r.body = "" then
    some { r with headers := r.headers.filter fun h ↦ h.1 ≠ Header.coding }
  else match (values Header.coding r.headers).getLast? with
    | some _ =>
      let complete (value : String) : String :=
        if Header.endsInChunks value then value else value ++ ", chunked"
      some { r with
        headers := modifyLast Header.coding complete r.headers
        body := inChunks r.body }
    | none =>
      match Header.lengthOf? (values Header.length r.headers) with
      | none => some r
      | some n =>
        let bytes := encodeBytes r.body.toList
        if n ≤ bytes.length then some { r with body := .ofList (decodeBytes (bytes.take n)) }
        else none

/-- A request to an address with the given headers after those that the address asks for, if the
address can be used and all headers can be sent. -/
def make? (method : Method) (url : String) (headers : List (String × String)) (body : String) :
    Option Request := do
  let url ← Url.read? url
  guard url.isAskable
  let headers ← headers.mapM fun h ↦ Header.make? h.1 h.2
  let login := match url.login with
    | .named name password => [Header.ofLogin name password]
    | _ => []
  carry? ⟨method, url, login ++ headers, body⟩

end Request

end HostWatch
