import PlayServer.Connection.Line
import PlayServer.Net.Address
import PlayServer.Session.Options
import PlayServer.Wire.Packet

/-!
# Connections

A connection has an identity, a state of authentication, at most one session it belongs to, and a
queue of payloads on their way to its peer. `send` and `sendBytes` only queue; `runWriter` is the
writer that later takes the queue to the line, one payload after the other. Closing drops what is
queued at once; a write that waits is given up when the writer runs next.

`Connections` holds all connections under their handles, and remembers in which order writers were
given work.
-/

namespace PlayServer

/-- The number a connection is known by in a registry and in a session. -/
structure ConnectionId where
  value : Nat
  deriving DecidableEq, Repr, Inhabited

/-- The text of a connection id. -/
def ConnectionId.print (id : ConnectionId) : String := s!"conn-{id.value}"

/-- Where a connection stands with its log-in. -/
inductive AuthState where
  | notAuthenticated
  | inProgress
  | authenticated
  | failed
  deriving DecidableEq, Repr, Inhabited

/-- The name of a state of authentication. -/
def AuthState.name : AuthState → String
  | notAuthenticated => "NotAuthenticated"
  | inProgress => "InProgress"
  | authenticated => "Authenticated"
  | failed => "AuthFailed"

/-- What has gone over a connection: whole packets, and their bytes. The counters of one connection
have 64 bits. They are plain numbers here, since no connection lives to carry 2 ^ 64 bytes; the
counters of a server, over all its connections, wrap. -/
structure Traffic where
  packetsSent : Nat := 0
  bytesSent : Nat := 0
  packetsReceived : Nat := 0
  bytesReceived : Nat := 0
  deriving DecidableEq, Repr, Inhabited

/-- What is on its way to the peer: the queue, whether a writer has it in hand, and the payload
in the middle of which that writer waits. -/
structure Outbox where
  queue : List Bytes := []
  writing : Bool := false
  current : Option InFlight := none
  deriving DecidableEq, Repr, Inhabited

/-- One client connection. -/
structure Connection where
  id : ConnectionId
  address : SocketAddress
  isOpen : Bool := true
  auth : AuthState := .notAuthenticated
  login : Option String := none
  session : Option SessionId := none
  outbox : Outbox := {}
  line : Line := {}
  /-- Whether there is anything that could run a writer. -/
  hasWriter : Bool := true
  traffic : Traffic := {}
  deriving DecidableEq, Repr, Inhabited

/-- Why nothing was queued. -/
inductive SendError where
  | closed
  | tooLarge (size : Nat)
  | noWriter
  deriving DecidableEq, Repr

/-- The wording of a send error. -/
def SendError.message : SendError → String
  | closed => "connection closed"
  | tooLarge size => s!"outbound body too large: {size} bytes (max {maxBodySize})"
  | noWriter => "no runtime available to drive the write"

namespace Connection

/-- Whether the peer has logged in. -/
def isAuthenticated (c : Connection) : Bool := c.auth == .authenticated

/-- Whether a log-in may begin: not while one is under way, and not after one has succeeded. -/
def mayBeginAuth (c : Connection) : Bool :=
  c.auth == .notAuthenticated || c.auth == .failed

/-- Begins a log-in, if one may begin. -/
def beginAuth (c : Connection) : Connection :=
  if c.mayBeginAuth then { c with auth := .inProgress } else c

/-- Ends a log-in with success. -/
def completeAuth (c : Connection) (login : String) : Connection :=
  { c with auth := .authenticated, login := some login }

/-- Ends a log-in without success. -/
def failAuth (c : Connection) : Connection := { c with auth := .failed, login := none }

/-- Takes a place in a session, if the connection belongs to none. -/
def claimSession (c : Connection) (id : SessionId) : Option Connection :=
  match c.session with
  | none => some { c with session := some id }
  | some _ => none

/-- Gives up the place in a session, if the connection still belongs to that one. -/
def releaseSession (c : Connection) (id : SessionId) : Connection :=
  if c.session = some id then { c with session := none } else c

/-- Queues a payload that is encoded already. -/
def sendBytes (c : Connection) (payload : Bytes) : Except SendError Unit × Connection :=
  if !c.isOpen then (.error .closed, c)
  else if c.outbox.writing then
    (.ok (), { c with outbox.queue := c.outbox.queue ++ [payload] })
  else if !c.hasWriter then
    (.error .noWriter, { c with outbox.queue := [], outbox.writing := false })
  else
    (.ok (), { c with outbox.queue := c.outbox.queue ++ [payload], outbox.writing := true })

/-- Queues a packet, unless its body is larger than a peer accepts. -/
def send (c : Connection) (p : Packet) : Except SendError Unit × Connection :=
  if maxBodySize < p.body.length then (.error (.tooLarge p.body.length), c)
  else c.sendBytes p.encode

/-- Closes the connection and drops what is queued. -/
def close (c : Connection) : Connection :=
  if c.isOpen then { c with isOpen := false, outbox.queue := [] } else c

/-- Counts a payload that was written in full. -/
def countSent (c : Connection) (size : Nat) : Connection :=
  { c with
    traffic.packetsSent := c.traffic.packetsSent + 1
    traffic.bytesSent := c.traffic.bytesSent + size }

/-- Counts a packet that came in. -/
def countReceived (c : Connection) (size : Nat) : Connection :=
  { c with
    traffic.packetsReceived := c.traffic.packetsReceived + 1
    traffic.bytesReceived := c.traffic.bytesReceived + size }

/-- What a run of the writer came to: the connection, the lengths of the payloads it wrote in
full, and the fault that ended it. -/
structure WriterRun where
  connection : Connection
  written : List Nat := []
  fault : Option IoFault := none

/-- The payloads a writer has before it: the one it waits in, and then the queue. -/
def pending (c : Connection) : List InFlight :=
  c.outbox.current.toList ++ c.outbox.queue.map fun p => ⟨p.length, p⟩

/-- Lets the writer go on, whether or not it waits. A fault of the line drops the queue and closes
the connection. -/
def resumeWriter (c : Connection) : WriterRun :=
  let run := c.line.pump c.pending
  let c := run.written.foldl countSent { c with line := run.line }
  match run.outcome with
  | .drained => { connection := { c with outbox := {} }, written := run.written }
  | .waits current queue =>
    { connection := { c with outbox := ⟨queue, true, some current⟩ }, written := run.written }
  | .fails kind =>
    { connection := { c with outbox := {} }.close, written := run.written, fault := some kind }

/-- Runs the writer as far as it gets. On a closed connection it gives up what it has in hand, and
the line is shut down. A write that waits goes on waiting. -/
def runWriter (c : Connection) : WriterRun :=
  let run : WriterRun :=
    if c.isOpen && c.outbox.writing && c.outbox.current.isNone then c.resumeWriter
    else { connection := c }
  let c := run.connection
  if c.isOpen then run
  else { run with connection := { c with outbox := {}, line.isShut := true } }

/-- From now on the line takes a number of bytes and then lets a write wait. -/
def stall (c : Connection) (room : Nat) : Connection := { c with line.stallRoom := some room }

/-- From now on the line takes a number of bytes and then fails every write. -/
def failWrites (c : Connection) (room : Nat) (kind : IoFault) : Connection :=
  { c with line.failRoom := some (room, kind) }

/-- Lets the line take bytes again, and a write that waits go on. -/
def unstall (c : Connection) : WriterRun :=
  let c := { c with line.stallRoom := none }
  if c.isOpen && c.outbox.current.isSome then c.resumeWriter else { connection := c }

/-- A short description for operators. -/
def describe (c : Connection) : String :=
  "Connection \x7b id: ConnectionId(" ++ toString c.id.value ++ "), remote_addr: " ++
    c.address.print ++ ", connected: " ++ toString c.isOpen ++ ", auth_state: " ++ c.auth.name ++
    " \x7d"

/-- A connection that is closed and was never used. -/
def unused (id : ConnectionId) : Connection where
  id
  address := default
  isOpen := false

end Connection

/-- Stands for a connection, whatever its id: its place in the order of opening. -/
abbrev Handle := Nat

/-- All connections that were ever opened. A handle that was given to none stands for a closed
connection that was never used. -/
structure Connections where
  opened : List Connection := []
  /-- The handles whose idle writers have been given work, in the order of this, until the writers
  are run. -/
  started : List Handle := []
  deriving Repr, Inhabited

namespace Connections

/-- The connection that stands for a handle never given. -/
def vacant (h : Handle) : Connection := Connection.unused ⟨h + 1⟩

/-- The connection under a handle. -/
def get (cs : Connections) (h : Handle) : Connection := cs.opened.getD h (vacant h)

/-- The started writers once a connection stands under a handle. -/
def startedWith (cs : Connections) (h : Handle) (c : Connection) : List Handle :=
  if c.outbox.writing && !(cs.get h).outbox.writing then cs.started ++ [h] else cs.started

/-- Puts a connection under a handle. -/
def set (cs : Connections) (h : Handle) (c : Connection) : Connections :=
  if h < cs.opened.length then ⟨cs.opened.set h c, cs.startedWith h c⟩
  else
    let gap := (List.range (h - cs.opened.length)).map fun i => vacant (cs.opened.length + i)
    ⟨cs.opened ++ gap ++ [c], cs.startedWith h c⟩

/-- Changes the connection under a handle. -/
def update (cs : Connections) (h : Handle) (change : Connection → Connection) : Connections :=
  cs.set h (change (cs.get h))

/-- The number of connections opened so far, which is the next handle. -/
def size (cs : Connections) : Nat := cs.opened.length

/-- The handles given so far. -/
def handles (cs : Connections) : List Handle := List.range cs.size

/-- What stands under a handle after a connection was put somewhere. -/
theorem get_set (cs : Connections) (h h' : Nat) (c : Connection) :
    (cs.set h c).get h' = if h' = h then c else cs.get h' := by
  unfold set get
  by_cases hlt : h < cs.opened.length
  · simp only [hlt, if_true, List.getD_eq_getElem?_getD, List.getElem?_set]
    by_cases he : h = h'
    · subst he; simp
    · simp [he, Ne.symm he]
  · simp only [hlt, if_false, List.getD_eq_getElem?_getD, List.append_assoc]
    by_cases hs : h' < cs.opened.length
    · have : h' ≠ h := by omega
      simp [List.getElem?_append_left hs, this]
    · rw [List.getElem?_append_right (Nat.le_of_not_lt hs),
        List.getElem?_eq_none (Nat.le_of_not_lt hs)]
      by_cases he : h' = h
      · subst he
        rw [List.getElem?_append_right (by simp)]
        simp
      · simp only [he, if_false, Option.getD_none]
        by_cases hm : h' < h
        · have hr : h' - cs.opened.length < h - cs.opened.length := by omega
          rw [List.getElem?_append_left (by simpa using hr), List.getElem?_map,
            List.getElem?_range hr]
          have : cs.opened.length + (h' - cs.opened.length) = h' := by omega
          simp [this]
        · rw [List.getElem?_eq_none (by simp; omega)]
          rfl

/-- Changing one connection leaves the others alone. -/
theorem get_update (cs : Connections) (h h' : Nat) (change : Connection → Connection) :
    (cs.update h change).get h' = if h' = h then change (cs.get h) else cs.get h' :=
  get_set ..

end Connections

end PlayServer
