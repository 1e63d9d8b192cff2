import PlayServer.Server.Error

/-!
# Starting and stopping the admin endpoint

Like a front end, the admin endpoint is initialized, run and shut down, and only the first
shutdown acts. It may be initialized at any time; whether it has a task decides whether it may be
run.
-/

namespace PlayServer

/-- The admin endpoint: the listener it has bound and not yet run, the listener in its task, its
address once it has one, whether it was told to stop, and whether it has a task. -/
structure AdminEndpoint where
  listener : Option SocketAddress := none
  accepting : Option SocketAddress := none
  address : Option SocketAddress := none
  isStopping : Bool := false
  hasTask : Bool := false
  deriving DecidableEq, Repr, Inhabited

namespace AdminEndpoint

/-- The name of the admin endpoint. -/
def name : String := "admin"

/-- The addresses that the admin endpoint holds. -/
def held (a : AdminEndpoint) : List SocketAddress := a.listener.toList ++ a.accepting.toList

/-- Binds the address of the admin endpoint, given the addresses that are held. -/
def init (a : AdminEndpoint) (held : List SocketAddress) (address : SocketAddress) :
    Except ServerError SocketAddress × AdminEndpoint :=
  match bindService name held address with
  | .error e => (.error e, a)
  | .ok bound => (.ok bound, { a with listener := some bound, address := some bound })

/-- Starts the task of the admin endpoint. -/
def run (a : AdminEndpoint) : Except ServerError Unit × AdminEndpoint :=
  if a.hasTask then (.error (.alreadyRunning name), a)
  else match a.listener with
    | none => (.error (.notInitialized name), a)
    | some listener =>
      (.ok (),
        { a with
          listener := none
          accepting := if a.isStopping then none else some listener
          hasTask := true })

/-- Stops the admin endpoint and waits for its task. -/
def shutdown (a : AdminEndpoint) : AdminEndpoint :=
  if a.isStopping then a
  else { a with listener := none, accepting := none, isStopping := true, hasTask := false }

end AdminEndpoint

end PlayServer
