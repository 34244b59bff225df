import SipGateway.Infra.Bytes

/-!
# Addresses and sockets

`Net.cpp` and the parts of the socket interface it wraps. What the operating system answers is
not computed here: a `SocketAttempt` holds the answers for one port.
-/

namespace SipGateway

open Infra

/-- `sockaddr_in`, in host byte order. -/
structure SockAddr where
  addr : UInt32 := 0
  port : UInt16 := 0
deriving DecidableEq, Repr

/-- A datagram and where it came from. -/
abbrev Datagram := Bytes × SockAddr

/-- One number of a dotted quad: digits without a leading zero, at most 255. -/
def octet (part : Bytes) : Option Nat :=
  if part ≠ [] ∧ part.all isDigit ∧ (part.length = 1 ∨ part.head? ≠ some 48) ∧
      digitsValue part ≤ 255
  then some (digitsValue part) else none

/-- `inet_pton(AF_INET, text.c_str(), ..)`. -/
def inetPton (text : Bytes) : Option UInt32 :=
  match ((cStr text).splitOn 46).map octet with
  | [some a, some b, some c, some d] =>
    some (UInt32.ofNat (((a * 256 + b) * 256 + c) * 256 + d))
  | _ => none

/--
What the system answers while a port is being opened: the result of `createUdpSocket`,
of `bindSocket` and of `epoll_ctl(.., EPOLL_CTL_ADD, ..)`.
-/
structure SocketAttempt where
  fd : Int
  bound : Bool
  added : Bool
deriving DecidableEq, Repr

/-- All three calls succeed. -/
def SocketAttempt.Ok (a : SocketAttempt) : Prop := 0 ≤ a.fd ∧ a.bound = true ∧ a.added = true

instance (a : SocketAttempt) : Decidable a.Ok :=
  inferInstanceAs (Decidable (0 ≤ a.fd ∧ a.bound = true ∧ a.added = true))

end SipGateway
