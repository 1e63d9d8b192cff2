import PlayServer.Account.Store
import PlayServer.Net.Listen

/-!
# Errors of a server

What can go wrong in building, initializing and running a server or one of its services, and the
binding of a service's address, whose failure is the commonest of these.
-/

namespace PlayServer

/-- Why a server or one of its services cannot be built, initialized or run. -/
inductive ServerError where
  | bind (service : String) (address : SocketAddress) (cause : OsError)
  | notInitialized (service : String)
  | alreadyRunning (service : String)
  | config (reason : String)
  | store (cause : StoreError)
  deriving DecidableEq, Repr

/-- The wording of a server error. -/
def ServerError.message : ServerError → String
  | bind service address cause =>
    service ++ ": failed to bind " ++ address.print ++ ": " ++ cause.message
  | notInitialized service => service ++ " has not been initialized"
  | alreadyRunning service => service ++ " is already running"
  | config reason => "invalid configuration: " ++ reason
  | store cause => cause.message

/-- Binds the address of a service. -/
def bindService (service : String) (held : List SocketAddress) (address : SocketAddress) :
    Except ServerError SocketAddress :=
  (bindAddress held address).mapError (ServerError.bind service address)

end PlayServer
