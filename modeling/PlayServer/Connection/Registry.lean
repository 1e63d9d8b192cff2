import PlayServer.Connection.Basic
import PlayServer.Number.Duration

/-!
# The registry of connections

A front end keeps the connections it serves under their ids. A connection is registered unless
its id is taken or its address has as many open connections registered as it may have. Entries of
closed connections stay until they are removed or swept out.
-/

namespace PlayServer

/-- The connections of a front end under their ids, and the cap on open ones per address. -/
structure Registry where
  maxPerAddress : Nat
  entries : List (ConnectionId × Handle) := []
  deriving DecidableEq, Repr, Inhabited

/-- Why a connection is not registered. -/
inductive RegistryError where
  | addressLimit (address : IpAddress) (limit : Nat)
  | duplicate (id : ConnectionId)
  deriving DecidableEq, Repr

/-- The wording of a refusal. -/
def RegistryError.message : RegistryError → String
  | addressLimit address limit =>
    "too many connections from " ++ address.print ++ s!" (limit {limit})"
  | duplicate id => "duplicate connection id " ++ id.print

namespace Registry

/-- The connection registered under an id. -/
def get? (r : Registry) (id : ConnectionId) : Option Handle :=
  (r.entries.find? (·.1 == id)).map (·.2)

/-- The number of connections registered. -/
def count (r : Registry) : Nat := r.entries.length

/-- The ids registered. -/
def ids (r : Registry) : List ConnectionId := r.entries.map (·.1)

/-- The number of open connections registered from an address. -/
def countFor (r : Registry) (cs : Connections) (address : IpAddress) : Nat :=
  (r.entries.filter fun (_, h) => (cs.get h).isOpen && (cs.get h).address.ip == address).length

/-- Whether one more connection from an address would be accepted. -/
def checkAddress (r : Registry) (cs : Connections) (address : IpAddress) :
    Except RegistryError Unit :=
  if r.maxPerAddress ≤ r.countFor cs address then
    .error (.addressLimit address r.maxPerAddress)
  else .ok ()

/-- Registers a connection. -/
def register (r : Registry) (cs : Connections) (h : Handle) : Except RegistryError Registry :=
  let c := cs.get h
  if (r.get? c.id).isSome then .error (.duplicate c.id)
  else match r.checkAddress cs c.address.ip with
    | .error e => .error e
    | .ok () => .ok { r with entries := r.entries ++ [(c.id, h)] }

/-- Removes the entry under an id. -/
def remove (r : Registry) (id : ConnectionId) : Registry :=
  { r with entries := r.entries.filter (·.1 != id) }

/-- Removes the entries of closed connections; gives their ids. -/
def sweep (r : Registry) (cs : Connections) : List ConnectionId × Registry :=
  (((r.entries.filter fun (_, h) => !(cs.get h).isOpen).map (·.1)),
    { r with entries := r.entries.filter fun (_, h) => (cs.get h).isOpen })

/-- Closes those of some connections that are open; gives the ids of these. -/
def closeEach (cs : Connections) : List Handle → List ConnectionId × Connections
  | [] => ([], cs)
  | h :: rest =>
    let (closed, cs') := closeEach (cs.update h Connection.close) rest
    (if (cs.get h).isOpen then (cs.get h).id :: closed else closed, cs')

/-- Closes the open connections that have been idle for longer than a time, given how long each
has been; gives their ids. -/
def closeIdle (r : Registry) (cs : Connections) (timeout : Duration) (idle : Handle → Duration) :
    List ConnectionId × Connections :=
  closeEach cs
    ((r.entries.filter fun (_, h) =>
      (cs.get h).isOpen && timeout.nanos < (idle h).nanos).map (·.2))

/-- Closes all connections registered; gives how many were open. -/
def closeAll (r : Registry) (cs : Connections) : Nat × Connections :=
  let (closed, cs) := closeEach cs (r.entries.map (·.2))
  (closed.length, cs)

end Registry

end PlayServer
