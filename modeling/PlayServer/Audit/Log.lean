import PlayServer.Audit.Record

/-!
# The audit log

The log keeps the newest records in a ring and, if it has a file, hands every record to a writer
that appends it there. The writer takes records from a queue of bounded length: a record that
finds the queue full is dropped from the file and counted. After a shutdown there is no writer any
more, and records go to the ring alone.
-/

namespace PlayServer

/-- An audit log. -/
structure AuditLog where
  /-- How many records the ring keeps; at least one is kept in any case. -/
  capacity : Nat
  ring : List AuditRecord := []
  /-- The number of records made, as a 64-bit counter holds it. -/
  recorded : UInt64 := 0
  /-- The number of records that found the queue of the writer full. -/
  dropped : UInt64 := 0
  /-- What is in the file, if there is one. -/
  file : Option (List AuditRecord) := none
  /-- What waits for the writer, while there is one. -/
  queue : Option (List AuditRecord) := none
  deriving Repr, Inhabited

namespace AuditLog

/-- The size of the ring that a log has by default. -/
def defaultCapacity : Nat := 1000

/-- How many records may wait for the writer. -/
def queueCapacity : Nat := 4096

/-- A log without a file. -/
def inMemory (capacity : Nat) : AuditLog := { capacity }

/-- A log with an empty file. -/
def withFile (capacity : Nat) : AuditLog := { capacity, file := some [], queue := some [] }

/-- How many records the ring holds at most. -/
def ringSize (l : AuditLog) : Nat := max l.capacity 1

/-- Makes a record. There is a queue exactly as long as there is a writer: that a writer breaks down
before it is stopped, after which every record would count as dropped, is left out. -/
def record (l : AuditLog) (r : AuditRecord) : AuditLog :=
  let ring := if l.ringSize ≤ l.ring.length then l.ring.drop 1 else l.ring
  let l := { l with ring := ring ++ [r], recorded := l.recorded + 1 }
  match l.queue with
  | none => l
  | some queue =>
    if queue.length < queueCapacity then { l with queue := some (queue ++ [r]) }
    else { l with dropped := l.dropped + 1 }

/-- Lets the writer append to the file all that waits for it. That a write to the file fails, after
which the writer goes on with the next record, is left out. -/
def runWriter (l : AuditLog) : AuditLog :=
  match l.queue, l.file with
  | some queue, some file => { l with queue := some [], file := some (file ++ queue) }
  | _, _ => l

/-- The newest records, at most `count` of them, oldest first. -/
def recent (l : AuditLog) (count : Nat) : List AuditRecord := l.ring.drop (l.ring.length - count)

/-- Stops the writer once it has written what waits for it. -/
def shutdown (l : AuditLog) : AuditLog := { l.runWriter with queue := none }

end AuditLog

end PlayServer
