/-!
# Faults of a byte stream

What can go wrong below the packet layer, with the wording of each fault. Five of them only say
that the peer has gone away and count as an ordinary disconnect.
-/

namespace PlayServer

/-- A fault raised by a transport. -/
inductive IoFault where
  | unexpectedEof
  | connectionReset
  | connectionAborted
  | brokenPipe
  | notConnected
  | connectionRefused
  | permissionDenied
  | timedOut
  | writeZero
  | invalidData
  | addrInUse
  | other
  deriving DecidableEq, Repr, Inhabited

namespace IoFault

/-- The wording of a fault. -/
def message : IoFault → String
  | unexpectedEof => "unexpected end of file"
  | connectionReset => "connection reset"
  | connectionAborted => "connection aborted"
  | brokenPipe => "broken pipe"
  | notConnected => "not connected"
  | connectionRefused => "connection refused"
  | permissionDenied => "permission denied"
  | timedOut => "timed out"
  | writeZero => "write zero"
  | invalidData => "invalid data"
  | addrInUse => "address in use"
  | other => "other error"

/-- Whether a fault says no more than that the peer has gone away. -/
def isDisconnect : IoFault → Bool
  | unexpectedEof | connectionReset | connectionAborted | brokenPipe | notConnected => true
  | _ => false

end IoFault

end PlayServer
