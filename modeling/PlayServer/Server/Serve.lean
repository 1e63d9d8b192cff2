import PlayServer.Game.Play
import PlayServer.Wire.Stream

/-!
# Serving a connection

A front end admits connections, reads packets from each one and hands them on, one after the
other, until the connection is closed or its stream ends, breaks off or breaks the limits of
framing. Then the connection is closed, and `retire` ends its service: it leaves its session and the
registry and is no longer counted as active. A front end that shuts down ends the service of all its
connections in the same way.

`readLoop` is the loop. Each packet takes at least a header off the stream, so the size of the
stream bounds the number of rounds.
-/

namespace PlayServer

/-- Why the reading of a connection ended. -/
inductive EndReason where
  /-- The connection was closed on this side. -/
  | closed
  /-- The peer went away. -/
  | peerClosed
  /-- The peer declared a body that is too large. -/
  | protocolFault
  /-- The stream failed. -/
  | error
  deriving DecidableEq, Repr, Inhabited

/-- The name of a reason. -/
def EndReason.name : EndReason → String
  | closed => "Closed"
  | peerClosed => "PeerClosed"
  | protocolFault => "ProtocolFault"
  | error => "Error"

/-- What serving a connection came to: why it ended, how many packets were handed on, how many
bytes were taken off the stream, and whether the connection was still registered. -/
structure Served where
  reason : EndReason
  dispatched : Nat := 0
  consumed : Nat := 0
  removed : Bool := false
  deriving DecidableEq, Repr, Inhabited

namespace ServerState

/-- Handles a packet that comes in at a front end. -/
def handle (s : ServerState) (front : Front) (h : Handle) (p : Packet) : ServerState :=
  match front with
  | .gateway => s.handleAtGateway h p
  | .game => s.handleAtGame h p

/-- What a front end does once the reading of a connection has ended. -/
def onDisconnect (s : ServerState) (front : Front) (h : Handle) : ServerState :=
  match front with
  | .gateway => s
  | .game => s.leaveOnDisconnect h

/-- Counts a packet that was read. -/
def countReceived (s : ServerState) (h : Handle) (p : Packet) : ServerState :=
  let size := headerSize + p.body.length
  let s := s.updateConnection h (·.countReceived size)
  { s with metrics := s.metrics.packetReceived size }

/-- Handles a packet that was read, and lets the writers run. -/
def dispatch (s : ServerState) (front : Front) (h : Handle) (p : Packet) : ServerState :=
  ((s.countReceived h p).handle front h p).settle

/-- Judges an error that ends the reading. -/
def endReading (s : ServerState) : ReadError → EndReason × ServerState
  | .closedHere => (.closed, s)
  | .bodyTooLarge _ =>
    let s := s.warn "Declared body length exceeds limit, closing"
    (.protocolFault, { s with metrics := s.metrics.protocolFault })
  | e =>
    if e.isDisconnect then (.peerClosed, s)
    else (.error, s.logError ("Read error: " ++ e.message))

/-- Reads and handles packets until the reading ends. `fuel` above the number of bytes in the
stream is never used up. -/
def readLoop (front : Front) (h : Handle) : (fuel : Nat) → Stream → ServerState →
    Served × ServerState
  | 0, _, s => ({ reason := .closed }, s)
  | fuel + 1, stream, s =>
    if !(s.connection h).isOpen then ({ reason := .closed }, s)
    else
      let taken := stream.readPacket
      match taken.result with
      | .error e =>
        let (reason, s) := s.endReading e
        ({ reason, consumed := taken.consumed }, s)
      | .ok p =>
        let (later, s) := readLoop front h fuel taken.rest (s.dispatch front h p)
        ({ later with
            dispatched := later.dispatched + 1
            consumed := taken.consumed + later.consumed },
          s)

/-- Removes a connection from the registry of a front end; tells whether it was there. -/
def unregister (s : ServerState) (front : Front) (id : ConnectionId) : Bool × ServerState :=
  let r := s.registry front
  ((r.get? id).isSome, s.setRegistry front (r.remove id))

/-- Ends the service of a connection whose reading has ended: it leaves its session, is removed from
the registry of `home` and is no longer counted as active. Tells whether it was registered. -/
def retire (s : ServerState) (front home : Front) (h : Handle) : Bool × ServerState :=
  let s := s.onDisconnect front h
  let (removed, s) := s.unregister home (s.connection h).id
  (removed, { s with metrics := s.metrics.connectionClosed })

/-- Serves a connection at a front end from its first packet to its end. It is removed from the
registry of `home`. -/
def serve (s : ServerState) (front home : Front) (h : Handle) (stream : Stream) :
    Served × ServerState :=
  let (served, s) := readLoop front h (stream.size + 1) stream s
  let (removed, s) := (s.close h).settle.retire front home h
  ({ served with removed }, s)

/-- Opens a connection under an id and registers it at a front end. One that is refused is
closed. -/
def openWithId (s : ServerState) (front : Front) (id : ConnectionId) (address : SocketAddress) :
    Except RegistryError Handle × ServerState :=
  let h := s.lobby.connections.size
  let s := s.updateConnection h fun _ => { id, address }
  match (s.registry front).register s.lobby.connections h with
  | .ok r => (.ok h, s.setRegistry front r)
  | .error e => (.error e, s.close h)

/-- Opens a connection under the next id. -/
def openConnection (s : ServerState) (front : Front) (address : SocketAddress) :
    Except RegistryError Handle × ServerState :=
  { s with nextConnection := s.nextConnection + 1 }.openWithId front ⟨s.nextConnection⟩ address

/-- Admits a client to a front end. One that is refused is logged, counted and audited. -/
def accept (s : ServerState) (front : Front) (address : SocketAddress) : ServerState :=
  match s.openConnection front address with
  | (.ok _, s) => { s with metrics := s.metrics.connectionOpened }
  | (.error e, s) =>
    let s := s.warn ("Connection refused: " ++ e.message)
    let s := { s with metrics := s.metrics.connectionRejected }
    s.record
      { actor := AuditRecord.unknownActor
        source := address.print
        category := .network
        description := "Connection refused"
        outcome := .unauthorized
        details := front.name ++ ": " ++ e.message }

end ServerState

end PlayServer
