import PlayServer.Proofs.Server.Effect

/-!
# Runs of a server

An event is a packet that comes in at one of the front ends, the end of a connection, a pass of the
scheduler, a change of the accounts, or something that happens by itself: a connection closes,
writers run, or tables that have no order of their own are found in another order than before.

A run is a list of events, one after the other, in any order and for any connections. Whatever is
going to come in between while a request waits for the store is announced by an event too.
-/

namespace PlayServer.ServerState

/-- What happens to a server. -/
inductive Event where
  /-- A packet comes in at a front end. -/
  | packet (front : Front) (h : Handle) (p : Packet)
  /-- A connection closes. -/
  | close (h : Handle)
  /-- The reading of a connection has ended at a front end. -/
  | disconnect (front : Front) (h : Handle)
  /-- Time passes in the sessions. -/
  | tick (delta : Duration)
  /-- Sessions without members are reclaimed. -/
  | sweep
  /-- The writers run. -/
  | settle
  /-- An account is opened. -/
  | createAccount (login email password : String) (salt : Vector UInt8 16)
  /-- An account is banned, or its ban lifted. -/
  | setBanned (login : String) (banned : Bool)
  /-- An account gets a character. -/
  | addCharacter (login name : String) (classId level : UInt8)
  /-- An outage of the store starts or ends. -/
  | setAvailable (available : Bool)
  /-- Something that can happen is going to come in between at the next call of a kind. -/
  | announce (call : StoreCall) (d : Disturbance) (genuine : d.isGenuine = true)
  /-- From now on the sessions are enumerated in this order, if it is one of theirs. -/
  | reorder (sessions : List Session)
  /-- From now on the members of a session are enumerated in this order, if it is one of theirs. -/
  | reorderMembers (id : SessionId) (members : List Member)

/-- One event happens. -/
def step (s : ServerState) : Event → ServerState
  | .packet front h p => s.handle front h p
  | .close h => s.close h
  | .disconnect front h => s.onDisconnect front h
  | .tick delta => (s.tick delta).2
  | .sweep => s.sweep
  | .settle => s.settle
  | .createAccount login email password salt =>
    { s with store := (s.store.createAccount login email password salt).2 }
  | .setBanned login banned => { s with store := (s.store.setBanned login banned).2 }
  | .addCharacter login name classId level =>
    { s with store := (s.store.addCharacter login name classId level).2 }
  | .setAvailable available => { s with store := s.store.setAvailable available }
  | .announce call d _ => { s with disturbances := s.disturbances ++ [(call, d)] }
  | .reorder sessions => { s with lobby := s.lobby.reorder sessions }
  | .reorderMembers id members => { s with lobby := s.lobby.reorderMembers id members }

/-- Events happen one after the other. -/
def run (s : ServerState) (events : List Event) : ServerState := events.foldl step s

/-- A run goes on where it was. -/
theorem run_append (s : ServerState) (earlier later : List Event) :
    s.run (earlier ++ later) = (s.run earlier).run later :=
  List.foldl_append

/-- The last event of a run comes after all others. -/
theorem run_concat (s : ServerState) (events : List Event) (e : Event) :
    s.run (events ++ [e]) = (s.run events).step e :=
  run_append s events [e]

/-- What an event queues to a connection: all that then stands in its queue behind what stood there
before. -/
def queuedBy (s : ServerState) (e : Event) (k : Handle) : List Bytes :=
  ((s.step e).connection k).outbox.queue.drop (s.connection k).outbox.queue.length

/-- What a run queues to a connection. -/
def queuedIn (s : ServerState) : List Event → Handle → List Bytes
  | [], _ => []
  | e :: rest, k => s.queuedBy e k ++ (s.step e).queuedIn rest k

/-- What a run queues last is queued by its last event. -/
theorem queuedIn_concat (s : ServerState) (events : List Event) (e : Event) (k : Handle) :
    s.queuedIn (events ++ [e]) k = s.queuedIn events k ++ (s.run events).queuedBy e k := by
  induction events generalizing s with
  | nil => exact List.append_nil _
  | cons first rest ih =>
    change s.queuedBy first k ++ (s.step first).queuedIn (rest ++ [e]) k = _
    rw [ih, ← List.append_assoc]
    rfl

end PlayServer.ServerState
