import PlayServer.Net.Address

/-!
# Listening

Binding an address with a port gives the address at which to listen. An address can be bound
exactly when the host has it and nobody holds one that it meets: one with the same port, whose
address is the same or stands for every address. An IPv4 address and the IPv6 address that it is
mapped to are the same. Port 0 asks for any free port.

What a host refuses to bind, and whom it reaches, differs from host to host. The host here has no
network: nobody reaches it, not even from itself. It lets every IPv4 address be bound, but of the
IPv6 addresses only those that stand for every address or for an IPv4 address.
-/

namespace PlayServer

/-- A refusal by the operating system. -/
structure OsError where
  code : Nat
  name : String
  text : String
  deriving DecidableEq, Repr, Inhabited

namespace OsError

/-- There is no such file, or no directory for it. -/
def notFound : OsError := ⟨2, "NotFound", "No such file or directory"⟩

/-- The address is held by somebody else. -/
def addressInUse : OsError := ⟨98, "AddrInUse", "Address already in use"⟩

/-- The host does not have the address. -/
def addressNotAvailable : OsError := ⟨99, "AddrNotAvailable", "Cannot assign requested address"⟩

/-- An address of this kind cannot be bound. -/
def invalidArgument : OsError := ⟨22, "InvalidInput", "Invalid argument"⟩

/-- There is no way to the network of an address. -/
def networkUnreachable : OsError := ⟨101, "NetworkUnreachable", "Network is unreachable"⟩

/-- The wording of a refusal. -/
def message (e : OsError) : String := e.text ++ s!" (os error {e.code})"

/-- A refusal in full, for those who look into it. -/
def describe (e : OsError) : String :=
  s!"Os \x7b code: {e.code}, kind: " ++ e.name ++ ", message: \"" ++ e.text ++ "\" \x7d"

end OsError

namespace IpAddress

/-- The IPv4 address that an address is or is mapped from. -/
def v4Part? : IpAddress → Option (UInt8 × UInt8 × UInt8 × UInt8)
  | .v4 a b c d => some (a, b, c, d)
  | .v6 groups =>
    match groups.toList with
    | [0, 0, 0, 0, 0, 0xFFFF, high, low] =>
      some ((high >>> 8).toUInt8, high.toUInt8, (low >>> 8).toUInt8, low.toUInt8)
    | _ => none

/-- Whether an address is the IPv6 address of zero groups alone, which stands for every address. -/
def isAny : IpAddress → Bool
  | .v4 .. => false
  | .v6 groups => groups.toList.all (· == 0)

/-- Whether what listens at one address is reached at another. -/
def covers (a b : IpAddress) : Bool :=
  a == b || a.isAny ||
    match a.v4Part?, b.v4Part? with
    | some a, some b => a == (0, 0, 0, 0) || a == b
    | _, _ => false

/-- Why this host lets nobody bind an address: it has no IPv6 address of its own, and none is ever
bound that is for many hosts or is meant in a zone that is not told. A host with IPv6 addresses
would not refuse these. -/
def refusal? (ip : IpAddress) (zone : UInt32) : Option OsError :=
  match ip with
  | .v4 .. => none
  | .v6 groups =>
    if ip.isAny || ip.v4Part?.isSome then none
    else if groups[0].toNat / 256 = 0xFF then some .invalidArgument
    else if groups[0].toNat / 64 = 0x3FA && zone = 0 then some .invalidArgument
    else some .addressNotAvailable

end IpAddress

namespace SocketAddress

/-- Whether two addresses cannot be listened at by two at once. -/
def meets (a b : SocketAddress) : Bool :=
  a.port == b.port && (a.ip.covers b.ip || b.ip.covers a.ip)

end SocketAddress

/-- The first port that is given out when any will do. -/
def firstFreePort : Nat := 32768

/-- A port at which nobody holds an address. Of one port more than addresses are held, one is
free. -/
def freePort (held : List SocketAddress) : UInt16 :=
  ((List.range (held.length + 1)).map fun n => UInt16.ofNat (firstFreePort + n)).find?
    (fun port => held.all (·.port != port)) |>.getD 0

/-- Binds an address, given the addresses that are held. -/
def bindAddress (held : List SocketAddress) (address : SocketAddress) :
    Except OsError SocketAddress :=
  match address.ip.refusal? address.zone with
  | some refusal => .error refusal
  | none =>
    if address.port = 0 then .ok { address with port := freePort held }
    else if held.any address.meets then .error .addressInUse
    else .ok address

/-- What comes of dialling an address at this host, which has no network. -/
def dial (_ : SocketAddress) : OsError := .networkUnreachable

end PlayServer
