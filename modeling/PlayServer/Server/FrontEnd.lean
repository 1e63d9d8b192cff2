import PlayServer.Server.Error

/-!
# Starting and stopping a front end

A front end is initialized, which binds its address, then run, and at last shut down. Only the
first shutdown acts. The address stays known after it.

A front end that is run holds its listener in its accepting task, one of two that it starts. Tasks
that are started after the shutdown end at once, and let go of the listener.
-/

namespace PlayServer

/-- A front end: the listener it has bound and not yet run, the listener in its accepting task,
its address once it has one, whether it was told to stop, whether it counts as running, and how
many of its tasks have not been waited for. -/
structure FrontEnd where
  name : String
  listener : Option SocketAddress := none
  accepting : Option SocketAddress := none
  address : Option SocketAddress := none
  isStopping : Bool := false
  isRunning : Bool := false
  tasks : Nat := 0
  deriving DecidableEq, Repr, Inhabited

namespace FrontEnd

/-- The addresses that a front end holds. -/
def held (f : FrontEnd) : List SocketAddress := f.listener.toList ++ f.accepting.toList

/-- How many tasks a run starts: one that accepts clients and the scheduler. -/
def tasksPerRun : Nat := 2

/-- Binds the address of the front end, given the addresses that are held. -/
def init (f : FrontEnd) (held : List SocketAddress) (address : SocketAddress) :
    Except ServerError SocketAddress × FrontEnd :=
  if f.isRunning then (.error (.alreadyRunning f.name), f)
  else match bindService f.name held address with
    | .error e => (.error e, f)
    | .ok bound => (.ok bound, { f with listener := some bound, address := some bound })

/-- Starts the tasks of the front end. -/
def run (f : FrontEnd) : Except ServerError Unit × FrontEnd :=
  if f.isRunning then (.error (.alreadyRunning f.name), f)
  else match f.listener with
    | none => (.error (.notInitialized f.name), f)
    | some listener =>
      (.ok (),
        { f with
          listener := none
          accepting := if f.isStopping then none else some listener
          isRunning := true
          tasks := f.tasks + tasksPerRun })

/-- Stops the front end and waits for its tasks. -/
def shutdown (f : FrontEnd) : FrontEnd :=
  if f.isStopping then f
  else
    { f with
      listener := none
      accepting := none
      isStopping := true
      isRunning := false
      tasks := 0 }

end FrontEnd

end PlayServer
