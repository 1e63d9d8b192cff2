import PlayServer.Connection.Line
import PlayServer.Wire.Packet

/-!
# What a peer receives

The far end of a line. A peer takes packets off the bytes that have arrived and keeps those of a
packet that has not arrived in full. Bytes that begin with a header over the limit are no packet;
the peer sets them aside.
-/

namespace PlayServer

/-- What a peer makes of the bytes it has received. -/
inductive Receipt where
  | packet (p : Packet)
  /-- Bytes that begin with a header over the limit. -/
  | oversized (bs : Bytes)
  deriving DecidableEq, Repr

/-- The far end of a line: how many of the pieces that the line took it has seen, and the bytes of
a packet that has not arrived in full. -/
structure Peer where
  seen : Nat := 0
  waiting : Bytes := []
  deriving DecidableEq, Repr, Inhabited

namespace Peer

/-- Takes packets off some bytes; gives the bytes left over. Each packet takes at least one byte,
so `fuel` above the number of bytes is never used up. -/
def takeOff : (fuel : Nat) → Bytes → List Receipt × Bytes
  | 0, bs => ([], bs)
  | fuel + 1, bs =>
    if bs.length < headerSize then ([], bs)
    else
      let h := Header.decode bs
      let size := headerSize + h.bodyLength.toNat
      if !h.withinLimit then ([.oversized bs], [])
      else if bs.length < size then ([], bs)
      else
        let body := (bs.take size).drop headerSize
        let (later, rest) := takeOff fuel (bs.drop size)
        (.packet ⟨h.service, h.method, h.correlation, body⟩ :: later, rest)

/-- Receives what a line has taken since the peer last looked. -/
def receive (p : Peer) (l : Line) : List Receipt × Peer :=
  let bs := p.waiting ++ (l.pieces.drop p.seen).flatten
  let (receipts, waiting) := takeOff (bs.length + 1) bs
  (receipts, { seen := l.pieces.length, waiting })

end Peer

end PlayServer
