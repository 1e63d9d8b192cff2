import PlayServer.IoFault
import PlayServer.Wire.Packet

/-!
# Packets over byte streams

A stream delivers its bytes in pieces of any size, may raise a fault, and ends. `readPacket`
takes one packet off it: a header, and then exactly the body that the header announces. A header
that announces too large a body is refused before any byte of the body is taken. A stream that
ends within a packet reads as closed by the peer.

`Sink` is the other direction: a writer that takes bytes up to a limit and then fails.
-/

namespace PlayServer

/-- What a stream delivers next. -/
inductive Arrival where
  /-- Some bytes. An empty piece delivers nothing: it is no read of zero bytes, which would be the
  end of the stream. -/
  | bytes (bs : Bytes)
  /-- A fault, raised once. -/
  | fault (kind : IoFault)
  /-- Nothing, until the reader is told that the connection was closed on this side. -/
  | closedHere
  deriving DecidableEq, Repr

/-- A stream: what it delivers, in order, before it ends. -/
abbrev Stream := List Arrival

/-- Why no packet could be read. -/
inductive ReadError where
  | connectionClosed
  | bodyTooLarge (size : Nat)
  | io (kind : IoFault)
  /-- The wait for bytes was given up, because the connection was closed on this side. -/
  | closedHere
  deriving DecidableEq, Repr

namespace ReadError

/-- The wording of a read error. -/
def message : ReadError → String
  | connectionClosed => "Connection closed"
  | bodyTooLarge size => s!"Body too large: {size} bytes (max {maxBodySize})"
  | io kind => "IO error: " ++ kind.message
  | closedHere => "Connection closed"

/-- Whether the error is an ordinary disconnect and no fault. -/
def isDisconnect : ReadError → Bool
  | connectionClosed => true
  | bodyTooLarge _ => false
  | io kind => kind.isDisconnect
  | closedHere => true

/-- The read error for a fault of the stream; an unexpected end is a close. -/
def ofFault : IoFault → ReadError
  | .unexpectedEof => connectionClosed
  | kind => io kind

end ReadError

/-- What reading from a stream gave: the result, how many bytes it took, and what is left. -/
structure Taken (α : Type) where
  result : Except ReadError α
  consumed : Nat
  rest : Stream
  deriving Repr

namespace Stream

/-- Takes exactly `n` bytes. Bytes taken before an error count as consumed. -/
def take (n : Nat) : Stream → Taken Bytes
  | [] => if n = 0 then ⟨.ok [], 0, []⟩ else ⟨.error .connectionClosed, 0, []⟩
  | .bytes bs :: rest =>
    let got := bs.take n
    if got.length = n then ⟨.ok got, n, .bytes (bs.drop n) :: rest⟩
    else
      let more := take (n - got.length) rest
      ⟨more.result.map (got ++ ·), got.length + more.consumed, more.rest⟩
  | .fault kind :: rest =>
    if n = 0 then ⟨.ok [], 0, .fault kind :: rest⟩ else ⟨.error (.ofFault kind), 0, rest⟩
  | .closedHere :: rest =>
    if n = 0 then ⟨.ok [], 0, .closedHere :: rest⟩ else ⟨.error .closedHere, 0, rest⟩

/-- Takes one packet. -/
def readPacket (s : Stream) : Taken Packet :=
  let head := s.take headerSize
  match head.result with
  | .error e => ⟨.error e, head.consumed, head.rest⟩
  | .ok bs =>
    let h := Header.decode bs
    if !h.withinLimit then ⟨.error (.bodyTooLarge h.bodyLength.toNat), head.consumed, head.rest⟩
    else
      let body := head.rest.take h.bodyLength.toNat
      ⟨body.result.map fun bs => ⟨h.service, h.method, h.correlation, bs⟩,
        head.consumed + body.consumed, body.rest⟩

/-- The number of bytes a stream still has to deliver. -/
def size : Stream → Nat
  | [] => 0
  | .bytes bs :: rest => bs.length + size rest
  | _ :: rest => size rest

/-- Takes packets until the first error, each result with the number of bytes taken so far. Each
packet takes at least one byte, so `fuel` above the size of the stream reaches the error. -/
def readPacketsFrom : (fuel : Nat) → (consumed : Nat) → Stream →
    List (Except ReadError Packet × Nat)
  | 0, _, _ => []
  | fuel + 1, consumed, s =>
    let taken := s.readPacket
    let consumed := consumed + taken.consumed
    (taken.result, consumed) ::
      match taken.result with
      | .ok _ => readPacketsFrom fuel consumed taken.rest
      | .error _ => []

/-- Takes packets until the first error, each result with the number of bytes taken so far. -/
def readPackets (s : Stream) : List (Except ReadError Packet × Nat) :=
  readPacketsFrom (s.size + 1) 0 s

end Stream

/-- A writer, what it has taken, and how it fails: after a number of bytes in all, with a
fault. -/
structure Sink where
  taken : Bytes := []
  failure : Option (Nat × IoFault) := none
  deriving Repr

namespace Sink

/-- Writes bytes; a writer that fails within them has taken those before the failure. -/
def write (s : Sink) (bs : Bytes) : Except ReadError Unit × Sink :=
  match s.failure with
  | none => (.ok (), { s with taken := s.taken ++ bs })
  | some (limit, kind) =>
    let room := limit - s.taken.length
    let s' := { s with taken := s.taken ++ bs.take room }
    if bs.length ≤ room then (.ok (), s') else (.error (.io kind), s')

/-- Writes one packet, unless its body is larger than a peer accepts. -/
def writePacket (s : Sink) (p : Packet) : Except ReadError Unit × Sink :=
  if p.body.length > maxBodySize then (.error (.bodyTooLarge p.body.length), s)
  else s.write p.encode

end Sink

end PlayServer
