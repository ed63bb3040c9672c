import HostWatch.Credential.Certificate
import HostWatch.Credential.PrivateKey
import HostWatch.Files.Tree
import HostWatch.Http.SocketAddress
import HostWatch.Text.Armor
import HostWatch.Text.Encoding
import HostWatch.Text.Quoted
/-!
# The endpoint of the status page

The page is served at an address, a host and a port with a colon between them.  Only an address of
the machine itself can be served.  With a certificate and its key the page is served encrypted, and
both files are read before the address.
-/

namespace HostWatch

/-- Where the page is served. -/
structure Endpoint where
  /-- The address. -/
  addr : String
  /-- The files of the certificate and its key, to serve encrypted. -/
  tls : Option (String × String)
  deriving DecidableEq, Repr

namespace Endpoint

/-- Why an endpoint cannot be opened. -/
inductive Failure where
  /-- The address cannot be served. -/
  | listen (addr : String)
  /-- The certificate or its key cannot be used. -/
  | certificate (crt key : String)
  /-- The address means no host, or no port. -/
  | resolve (addr : String)
  /-- The address cannot be served encrypted. -/
  | encrypted
  deriving DecidableEq, Repr

namespace Failure

/-- The reason in words. -/
def message : Failure → String
  | listen addr => "Failed to listen on " ++ addr
  | certificate crt key =>
    "Failed to load TLS certificate " ++ quoted crt ++ " and key " ++ quoted key
  | resolve addr => "Failed to resolve " ++ addr
  | encrypted => "HTTPS server failed"

end Failure

/-! ## Addresses -/

/-- Where an address leads. -/
inductive Reach where
  | nowhere | elsewhere | here
  deriving DecidableEq, Repr

/-- A socket can be opened at a short number: none of its bytes is set, the first one is 127, or it
stands for several machines. -/
def opensShort (n : Nat) : Bool :=
  n = 0 || n = 4294967295 || match (Host.shortBytes n).head? with
    | some first => first = 127 || (224 ≤ first && first < 240)
    | none => false

/-- The short number that a long one stands for. -/
def shortOf? : List Nat → Option Nat
  | [0, 0, 0, 0, 0, 0xffff, high, low] => some (high * 65536 + low)
  | _ => none

/-- Where a number leads.  Machines have long numbers only as far as they stand for any machine or
for short numbers. -/
def ipReach : Ip → Reach
  | .short n => if opensShort n then .here else .elsewhere
  | .long groups =>
    if groups = List.replicate 8 0 ∨ (shortOf? groups).any opensShort then .here else .elsewhere

/-- A part of a short number in a name: a sign of another base has digits after it. -/
def isPart (s : List Char) : Bool :=
  match s with
  | ['0', 'x'] | ['0', 'X'] => false
  | _ => (Host.readPart? s).isSome

/-- Where a host leads that is not written in the form of its number. -/
def hostReach (host : List Char) : Reach :=
  let parts := splitAtPiece ['.'] host
  match Ip.readScoped? host, parts.mapM Host.readPart? with
  | some groups, _ => ipReach (.long groups)
  | none, some numbers =>
    match Host.joinParts? 4 0 numbers with
    | some n => if parts.all isPart then ipReach (.short n) else .nowhere
    | none => .nowhere
  | none, none => if host.map Char.toLower = "localhost".toList then .here else .nowhere

/-- The host and the port of an address: what is before and after the last colon. -/
def splitAddr? (addr : List Char) : Option (List Char × List Char) :=
  (splitFirst ':' addr.reverse).map fun p ↦ (p.2.reverse, p.1.reverse)

/-- Where an address leads. -/
def reach (addr : String) : Reach :=
  match SocketAddress.read? addr.toList, splitAddr? addr.toList with
  | some socket, _ => ipReach socket.ip
  | none, some (host, port) =>
    match readUnsigned? port with
    | some port => if port < 65536 then hostReach host else .nowhere
    | none => .nowhere
  | none, none => .nowhere

/-! ## Certificates -/

/-- The labels of keys. -/
def keyLabels : List (List Char) :=
  ["PRIVATE KEY".toList, "EC PRIVATE KEY".toList, "RSA PRIVATE KEY".toList]

/-- The label of certificates. -/
def certificateLabel : List Char := "CERTIFICATE".toList

/-- The sections of a file, if there is such a file. -/
def fileSections? (l : Location) (t : FileTree) : Option (List (Option Armor.Section)) :=
  (t.read? l).map fun content ↦ Armor.read content.toList

/-- The public key that the first certificate is for, among sections that are all well formed.  The
certificates after it only say why to trust it. -/
def certifiedKey? (sections : List (Option Armor.Section)) : Option (List UInt8) :=
  (sections.mapM id).bind fun sections ↦
    (sections.find? fun s ↦ s.label = certificateLabel).bind fun s ↦
      Certificate.publicKey? s.content

/-- The public key that belongs to the one key among the well-formed sections. -/
def ownKey? (sections : List (Option Armor.Section)) : Option PublicKey :=
  match (sections.filterMap id).filter fun s ↦ keyLabels.contains s.label with
  | [key] => PrivateKey.publicKey? key.content
  | _ => none

/-- The files of a certificate and its key can be used: they belong together. -/
def areUsable (crt key : Location) (t : FileTree) : Bool :=
  match (fileSections? crt t).bind certifiedKey?, (fileSections? key t).bind ownKey? with
  | some certified, some own => own.encode = certified
  | _, _ => false

/-- Whether an endpoint can be opened; files are named within a directory. -/
def check (e : Endpoint) (directory : Path) (t : FileTree) : Except Failure Unit :=
  match e.tls with
  | none => if reach e.addr = .here then .ok () else .error (.listen e.addr)
  | some (crt, key) =>
    if areUsable ⟨crt, directory⟩ ⟨key, directory⟩ t then
      match reach e.addr with
      | .here => .ok ()
      | .elsewhere => .error .encrypted
      | .nowhere => .error (.resolve e.addr)
    else .error (.certificate crt key)

end Endpoint

end HostWatch
