import PlayServer.Bytes

/-!
# Packets

A packet is a fixed header of twelve bytes, which names a service, a method, a correlation id
and the length of the body, followed by the body. A peer may declare a body of at most 64 KiB.

Every client request travels under one of the services below; only authentication and the
housekeeping of the connection itself are open to a peer that has not logged in.
-/

namespace PlayServer

/-- The size of an encoded header. -/
def headerSize : Nat := 12

/-- The largest body a peer may declare. -/
def maxBodySize : Nat := 65536

/-- The fixed part of a packet. -/
structure Header where
  service : UInt16
  method : UInt16
  correlation : UInt32
  bodyLength : UInt32
  deriving DecidableEq, Repr, Inhabited

namespace Header

/-- The twelve bytes of a header. -/
def encode (h : Header) : Bytes :=
  BigEndian.encode 2 h.service.toNat ++ BigEndian.encode 2 h.method.toNat ++
    BigEndian.encode 4 h.correlation.toNat ++ BigEndian.encode 4 h.bodyLength.toNat

/-- Reads a header off the first twelve bytes. -/
def decode (bs : Bytes) : Header where
  service := UInt16.ofNat (BigEndian.decode (bs.take 2))
  method := UInt16.ofNat (BigEndian.decode ((bs.drop 2).take 2))
  correlation := UInt32.ofNat (BigEndian.decode ((bs.drop 4).take 4))
  bodyLength := UInt32.ofNat (BigEndian.decode ((bs.drop 8).take 4))

/-- Whether the declared body is one that a peer may send. -/
def withinLimit (h : Header) : Bool := h.bodyLength.toNat ≤ maxBodySize

/-- An encoded header has the header size. -/
@[simp] theorem length_encode (h : Header) : h.encode.length = headerSize := by
  simp [encode, headerSize]

/-- A written header reads back, whatever follows it. -/
theorem decode_encode (h : Header) (rest : Bytes) : decode (h.encode ++ rest) = h := by
  have number (width n : Nat) (after : Bytes) :
      (BigEndian.encode width n ++ after).take width = BigEndian.encode width n ∧
        (BigEndian.encode width n ++ after).drop width = after := by simp
  have hs : BigEndian.decode (BigEndian.encode 2 h.service.toNat) = h.service.toNat :=
    BigEndian.decode_encode h.service.toNat_lt
  have hm : BigEndian.decode (BigEndian.encode 2 h.method.toNat) = h.method.toNat :=
    BigEndian.decode_encode h.method.toNat_lt
  have hc : BigEndian.decode (BigEndian.encode 4 h.correlation.toNat) = h.correlation.toNat :=
    BigEndian.decode_encode h.correlation.toNat_lt
  have hl : BigEndian.decode (BigEndian.encode 4 h.bodyLength.toNat) = h.bodyLength.toNat :=
    BigEndian.decode_encode h.bodyLength.toNat_lt
  simp only [decode, encode, List.append_assoc]
  rw [(number 2 _ _).1, (number 2 _ _).2, (number 2 _ _).1]
  rw [show (8 : Nat) = 2 + 2 + 4 from rfl, ← List.drop_drop, ← List.drop_drop, (number 2 _ _).2,
    (number 2 _ _).2, (number 4 _ _).2, (number 4 _ _).1]
  rw [show (4 : Nat) = 2 + 2 from rfl, ← List.drop_drop, (number 2 _ _).2, (number 2 _ _).2]
  rw [show (2 + 2 : Nat) = 4 from rfl, (number 4 _ _).1, hs, hm, hc, hl]
  simp

end Header

/-- A packet: where it goes, what it answers, and its body. -/
structure Packet where
  service : UInt16
  method : UInt16
  correlation : UInt32
  body : Bytes
  deriving DecidableEq, Repr, Inhabited

namespace Packet

/-- The header that announces a packet. -/
def header (p : Packet) : Header where
  service := p.service
  method := p.method
  correlation := p.correlation
  bodyLength := UInt32.ofNat p.body.length

/-- The bytes of a packet on the wire. -/
def encode (p : Packet) : Bytes := p.header.encode ++ p.body

/-- An answer to a packet, on its service and under its correlation id. -/
def reply (p : Packet) (method : UInt16) (body : Bytes) : Packet :=
  { p with method, body }

/-- A packet takes its header and its body on the wire. -/
@[simp] theorem length_encode (p : Packet) : p.encode.length = headerSize + p.body.length := by
  simp [encode]

end Packet

namespace Service

/-- Log-in. -/
def authentication : UInt16 := 1

/-- Housekeeping of the connection. -/
def connection : UInt16 := 2

/-- The friends list, which no handler serves. -/
def friends : UInt16 := 3

/-- Characters and play sessions. -/
def game : UInt16 := 4

/-- Whether a peer must have logged in to use a service. -/
def requiresLogin (service : UInt16) : Bool :=
  !(service == authentication || service == connection)

end Service

namespace Method

/-! Methods of the authentication service. -/

def challengeRequest : UInt16 := 1
def challengeResponse : UInt16 := 2
def loginRequest : UInt16 := 3
def loginResponse : UInt16 := 4

/-! Methods of the connection service. -/

def ping : UInt16 := 1
def pong : UInt16 := 2

/-! Methods of the game service. -/

def characterListRequest : UInt16 := 1
def characterListResponse : UInt16 := 2
def createSession : UInt16 := 3
def joinSession : UInt16 := 4
def leaveSession : UInt16 := 5
def sessionChat : UInt16 := 6
def setSessionOptions : UInt16 := 7
def sessionResponse : UInt16 := 0x10
def playerJoined : UInt16 := 0x11
def playerLeft : UInt16 := 0x12
def chatMessage : UInt16 := 0x13

end Method

namespace MessageType

/-! The first byte of the bodies that begin with a message type. -/

def loginRequest : UInt8 := 1
def loginResponse : UInt8 := 2
def ping : UInt8 := 3
def pong : UInt8 := 4

end MessageType

end PlayServer
