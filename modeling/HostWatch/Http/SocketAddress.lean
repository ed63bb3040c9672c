import HostWatch.Http.Host
/-!
# Addresses of sockets

A socket has the number of its machine, in one of two lengths, and a port.  A long number is written
in brackets, so that its colons are told from the one before the port.
-/

namespace HostWatch

/-- The number of a machine. -/
inductive Ip where
  /-- A short number. -/
  | short (n : Nat)
  /-- The groups of a long number. -/
  | long (groups : List Nat)
  deriving DecidableEq, Repr

namespace Ip

/-- The short number that stands for no machine. -/
def unspecified : Ip := short 0

/-- Read a short number in its written form. -/
def readShort? (s : List Char) : Option Nat :=
  match (splitAtPiece ['.'] s).mapM Host.readByte? with
  | some [a, b, c, d] => some (((a * 256 + b) * 256 + c) * 256 + d)
  | _ => none

/-- A number within 32 bits, in decimal. -/
def readScope? (s : List Char) : Option Nat :=
  if s ≠ [] ∧ s.all Char.isDigit ∧ digitsValue 0 s < 4294967296 then some (digitsValue 0 s)
  else none

/-- Read a long number, maybe with the number of its network. -/
def readScoped? (s : List Char) : Option (List Nat) :=
  match splitFirst '%' s with
  | some (number, scope) => (readScope? scope).bind fun _ ↦ Host.readLong? number
  | none => Host.readLong? s

end Ip

/-- The address of a socket. -/
structure SocketAddress where
  /-- The machine. -/
  ip : Ip
  /-- The port. -/
  port : Nat
  deriving DecidableEq, Repr

namespace SocketAddress

/-- Read a port. -/
def readPort? (s : List Char) : Option Nat :=
  if s ≠ [] ∧ s.all Char.isDigit ∧ digitsValue 0 s < 65536 then some (digitsValue 0 s) else none

/-- Read the address of a socket. -/
def read? (s : List Char) : Option SocketAddress :=
  match s with
  | '[' :: rest =>
    (splitFirst ']' rest).bind fun (inner, after) ↦
      match after with
      | ':' :: port =>
        (Ip.readScoped? inner).bind fun groups ↦ (readPort? port).map (⟨.long groups, ·⟩)
      | _ => none
  | _ =>
    (splitFirst ':' s).bind fun (host, port) ↦
      (Ip.readShort? host).bind fun n ↦ (readPort? port).map (⟨.short n, ·⟩)

end SocketAddress

end HostWatch
