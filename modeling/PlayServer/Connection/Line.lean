import PlayServer.Bytes
import PlayServer.IoFault

/-!
# The line to a peer

The outgoing half of a transport. A line takes bytes in order. It may have room for a number of
bytes only, after which a write waits, or fails. `Line.write` writes one payload as far as the
line lets it; `Line.pump` writes a queue of payloads until the queue is empty, a write waits or a
write fails.
-/

namespace PlayServer

/-- The outgoing half of a transport: the pieces of bytes it has taken, the room left before a
write waits, the room left before a write fails, and whether it has been shut down. -/
structure Line where
  pieces : List Bytes := []
  stallRoom : Option Nat := none
  failRoom : Option (Nat × IoFault) := none
  isShut : Bool := false
  deriving DecidableEq, Repr, Inhabited

/-- A payload that waits in the middle of being written. -/
structure InFlight where
  /-- The length of the whole payload. -/
  size : Nat
  /-- The bytes not taken yet. -/
  rest : Bytes
  deriving DecidableEq, Repr

/-- How a write ends. -/
inductive WriteEnd where
  | done
  | waits (rest : Bytes)
  | fails (kind : IoFault)
  deriving DecidableEq, Repr

namespace Line

/-- All bytes the line has taken, in order. -/
def taken (l : Line) : Bytes := l.pieces.flatten

/-- The bytes the line takes before a write waits or fails, if there is such a limit. -/
def room (l : Line) : Option Nat :=
  match l.stallRoom, l.failRoom with
  | none, none => none
  | some n, none => some n
  | none, some (n, _) => some n
  | some m, some (n, _) => some (min m n)

/-- The line after it has taken some bytes. -/
def accept (l : Line) (bs : Bytes) : Line :=
  { l with
    pieces := l.pieces ++ [bs]
    stallRoom := l.stallRoom.map (· - bs.length)
    failRoom := l.failRoom.map fun (n, kind) => (n - bs.length, kind) }

/-- Writes one payload as far as there is room. -/
def write (l : Line) (bs : Bytes) : WriteEnd × Line :=
  match l.room with
  | none => (.done, l.accept bs)
  | some n =>
    if bs.length ≤ n then (.done, l.accept bs)
    else
      let l := l.accept (bs.take n)
      match l.failRoom with
      | some (0, kind) => (.fails kind, l)
      | _ => (.waits (bs.drop n), l)

/-- How the writing of a queue ends. -/
inductive PumpEnd where
  | drained
  | waits (current : InFlight) (queue : List Bytes)
  | fails (kind : IoFault)
  deriving DecidableEq, Repr

/-- What the writing of a queue came to: the lengths of the payloads written in full, and how it
ended. -/
structure Pumped where
  written : List Nat
  outcome : PumpEnd
  line : Line
  deriving DecidableEq, Repr

/-- Writes payloads in order until none is left, one waits or one fails. Each payload comes with
the length it had before any of it was written. -/
def pump (l : Line) : List InFlight → Pumped
  | [] => ⟨[], .drained, l⟩
  | p :: queue =>
    match l.write p.rest with
    | (.done, l) =>
      let later := pump l queue
      { later with written := p.size :: later.written }
    | (.waits rest, l) => ⟨[], .waits ⟨p.size, rest⟩ (queue.map InFlight.rest), l⟩
    | (.fails kind, l) => ⟨[], .fails kind, l⟩

end Line

end PlayServer
