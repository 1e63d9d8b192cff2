import Mathlib.Algebra.Order.Ring.Nat
import PlayServer.Audit.Log
import PlayServer.Proofs.Audit.Line
import PlayServer.Proofs.Newest

/-!
# What an audit log keeps

Records are made and the log is shut down, in any order, and in between the writer appends to the
file some of what waits for it, now and then. Each record meets one of three fates: it is queued for
the writer, it finds the queue full, or it comes when there is no writer any more. `met` collects
the records of a run that met a fate.

The ring holds the newest of the records that were made, `ring_run`, whatever their fate. What is in
the file and what waits for it are the records that were queued, in the order in which they were
made, `written_run`. So if the queue never fills, the file has all records made before the first
shutdown: `keeps_of_run`.
-/

namespace PlayServer.AuditLog

/-- What happens to an audit log. -/
inductive Event where
  /-- A record is made. -/
  | record (r : AuditRecord)
  /-- The log is shut down. -/
  | shutdown
  /-- The writer appends so many of the records that wait for it to the file. -/
  | write (count : Nat)
  deriving DecidableEq, Repr

/-- The writer appends some of the records that wait for it to the file. -/
def write (l : AuditLog) (count : Nat) : AuditLog :=
  match l.queue, l.file with
  | some queue, some file =>
    { l with queue := some (queue.drop count), file := some (file ++ queue.take count) }
  | _, _ => l

/-- One event happens. -/
def perform (l : AuditLog) : Event → AuditLog
  | .record r => l.record r
  | .shutdown => l.shutdown
  | .write count => l.write count

/-- Events happen one after the other. -/
def run (l : AuditLog) (events : List Event) : AuditLog := events.foldl perform l

/-- The record that is made, if one is. -/
def Event.record? : Event → Option AuditRecord
  | .record r => some r
  | _ => none

/-- The records that are made, in order. -/
def made (events : List Event) : List AuditRecord := events.filterMap Event.record?

/-- What comes before the first shutdown. -/
def beforeShutdown (events : List Event) : List Event := events.takeWhile (· ≠ .shutdown)

/-- What comes after the first shutdown. -/
def afterShutdown (events : List Event) : List Event := events.dropWhile (· ≠ .shutdown)

/-- What becomes of a record on its way to the file. -/
inductive Fate where
  /-- It is queued for the writer. -/
  | queued
  /-- It finds the queue full. -/
  | full
  /-- There is no writer. -/
  | closed
  deriving DecidableEq, Repr

/-- What becomes of a record that is made now. -/
def fate (l : AuditLog) : Fate :=
  match l.queue with
  | none => .closed
  | some queue => if queue.length < queueCapacity then .queued else .full

/-- The ring with a record more, for which the oldest one makes room if the ring is full. -/
def pushed (l : AuditLog) (r : AuditRecord) : List AuditRecord :=
  (if l.ringSize ≤ l.ring.length then l.ring.drop 1 else l.ring) ++ [r]

/-- The records of a run that meet a fate, in order. -/
def met (fate : Fate) (l : AuditLog) : List Event → List AuditRecord
  | [] => []
  | e :: rest => (if l.fate = fate then e.record?.toList else []) ++ met fate (l.perform e) rest

/-- A log with a queue has a file, on which the writer works. -/
def HasFile (l : AuditLog) : Prop := l.queue.isSome = true → l.file.isSome = true

/-- All that has reached the file or is still waiting for it. -/
def written (l : AuditLog) : List AuditRecord := l.file.getD [] ++ l.queue.getD []

/-- What is made first comes first. -/
theorem made_cons (e : Event) (rest : List Event) :
    made (e :: rest) = e.record?.toList ++ made rest := by
  unfold made
  cases h : e.record? <;> simp [h]

variable {l : AuditLog}

/-- To write all that waits is to write as many records as wait. -/
theorem runWriter_eq_write (l : AuditLog) : l.runWriter = l.write (l.queue.getD []).length := by
  unfold runWriter write
  cases l.queue <;> cases l.file <;> simp

/-- Nothing gets lost between the queue and the file. -/
theorem written_write (l : AuditLog) (count : Nat) : (l.write count).written = l.written := by
  unfold write
  split
  · next queue file hqueue hfile => simp [written, hqueue, hfile]
  · rfl

/-- A shutdown writes all that waits. -/
theorem written_shutdown (h : l.HasFile) : l.shutdown.written = l.written := by
  unfold shutdown runWriter
  cases hqueue : l.queue with
  | none => simp [written, hqueue]
  | some queue =>
    obtain ⟨file, hfile⟩ := Option.isSome_iff_exists.mp (h (by rw [hqueue]; rfl))
    simp [written, hqueue, hfile]

/-- A record comes to the ring in any case; whether it is queued or counted as dropped is its fate. -/
theorem record_eq (l : AuditLog) (r : AuditRecord) :
    l.record r = { l with
      ring := l.pushed r
      recorded := l.recorded + 1
      queue := if l.fate = .queued then l.queue.map (· ++ [r]) else l.queue
      dropped := if l.fate = .full then l.dropped + 1 else l.dropped } := by
  unfold record fate pushed
  dsimp only
  cases l.queue with
  | none => simp
  | some queue =>
    dsimp only
    split <;> simp

/-- A record is written if it is queued. -/
theorem written_record (l : AuditLog) (r : AuditRecord) :
    (l.record r).written = l.written ++ if l.fate = .queued then [r] else [] := by
  rw [record_eq]
  unfold written
  by_cases hqueued : l.fate = .queued
  · obtain ⟨queue, hqueue⟩ : ∃ queue, l.queue = some queue := by
      cases hqueue : l.queue with
      | none => simp [fate, hqueue] at hqueued
      | some queue => exact ⟨queue, rfl⟩
    simp [hqueued, hqueue]
  · simp [hqueued]

/-- What an event does to the ring and to the counters; the queue and the file are a matter of
`written_perform`. -/
theorem perform_eq (l : AuditLog) (e : Event) :
    l.perform e = { l with
      ring := (e.record?.map l.pushed).getD l.ring
      recorded := l.recorded + UInt64.ofNat e.record?.toList.length
      dropped := l.dropped + UInt64.ofNat (if l.fate = .full then e.record?.toList else []).length
      queue := (l.perform e).queue
      file := (l.perform e).file } := by
  cases e with
  | record r =>
    simp only [perform, Event.record?]
    rw [record_eq]
    by_cases hfull : l.fate = .full <;> simp [hfull]
  | shutdown =>
    change l.shutdown = _
    unfold perform shutdown runWriter
    split <;> simp [Event.record?]
  | write count =>
    change l.write count = _
    unfold perform write
    split <;> simp [Event.record?]

/-- Where there is no writer there is none later. -/
theorem queue_perform_of_none (closed : l.queue = none) (e : Event) :
    (l.perform e).queue = none := by
  cases e with
  | record r =>
    change (l.record r).queue = none
    rw [record_eq]
    simp [closed]
  | shutdown => rfl
  | write count => simp [perform, write, closed]

/-- The writer stays until the log is shut down. -/
theorem isSome_queue_perform (isOpen : l.queue.isSome = true) {e : Event} (he : e ≠ .shutdown) :
    (l.perform e).queue.isSome = true := by
  cases e with
  | record r =>
    change (l.record r).queue.isSome = true
    rw [record_eq]
    dsimp only
    split <;> simpa using isOpen
  | shutdown => exact absurd rfl he
  | write count =>
    change (l.write count).queue.isSome = true
    unfold write
    split
    · rfl
    · exact isOpen

/-- A log has a file or not, whatever happens. -/
theorem isSome_file_perform (l : AuditLog) (e : Event) :
    (l.perform e).file.isSome = l.file.isSome := by
  cases e with
  | record r =>
    change (l.record r).file.isSome = _
    rw [record_eq]
  | shutdown =>
    change l.runWriter.file.isSome = _
    unfold runWriter
    split
    · next hfile => simp [hfile]
    · rfl
  | write count =>
    change (l.write count).file.isSome = _
    unfold write
    split
    · next hfile => simp [hfile]
    · rfl

/-- What has a file keeps it. -/
theorem HasFile.perform (h : l.HasFile) (e : Event) : (l.perform e).HasFile := by
  intro hqueue
  rw [isSome_file_perform]
  apply h
  cases hnone : l.queue with
  | none => rw [queue_perform_of_none hnone] at hqueue; exact hqueue
  | some queue => rfl

/-- An event writes what it records if that is queued. -/
theorem written_perform (h : l.HasFile) (e : Event) :
    (l.perform e).written = l.written ++ if l.fate = .queued then e.record?.toList else [] := by
  cases e with
  | record r => exact l.written_record r
  | shutdown => simpa [perform, Event.record?] using written_shutdown h
  | write count => simpa [perform, Event.record?] using l.written_write count

/-- What is written in a run are the records that were queued. -/
theorem written_run (h : l.HasFile) (events : List Event) :
    (l.run events).written = l.written ++ l.met .queued events := by
  induction events generalizing l with
  | nil => exact (List.append_nil _).symm
  | cons e rest ih =>
    change ((l.perform e).run rest).written = _
    rw [ih (h.perform e), written_perform h, List.append_assoc]
    rfl

/-- A record comes too late exactly when there is no writer. -/
theorem fate_eq_closed_iff : l.fate = .closed ↔ l.queue = none := by
  unfold fate
  cases l.queue with
  | none => simp
  | some queue =>
    dsimp only
    split <;> simp

/-- What does not come too late finds the queue with or without room. -/
theorem fate_eq_queued (isOpen : l.queue.isSome = true) (room : l.fate ≠ .full) :
    l.fate = .queued := by
  cases hfate : l.fate with
  | queued => rfl
  | full => exact absurd hfate room
  | closed => rw [fate_eq_closed_iff.mp hfate] at isOpen; cases isOpen

/-- Without a writer all records come too late. -/
theorem met_of_none (closed : l.queue = none) (fate : Fate) (events : List Event) :
    l.met fate events = if fate = .closed then made events else [] := by
  induction events generalizing l with
  | nil => exact (ite_self _).symm
  | cons e rest ih =>
    rw [met, ih (queue_perform_of_none closed e), fate_eq_closed_iff.mpr closed, made_cons]
    cases fate <;> rfl

/-- The records that come too late are those made after the first shutdown. -/
theorem met_closed (isOpen : l.queue.isSome = true) (events : List Event) :
    l.met .closed events = made (afterShutdown events) := by
  induction events generalizing l with
  | nil => rfl
  | cons e rest ih =>
    have hfate : l.fate ≠ .closed := fun hclosed => by
      rw [fate_eq_closed_iff.mp hclosed] at isOpen
      cases isOpen
    rw [met, if_neg hfate, List.nil_append]
    by_cases he : e = .shutdown
    · subst he
      rw [met_of_none rfl]
      rfl
    · rw [ih (isSome_queue_perform isOpen he)]
      simp [afterShutdown, he]

/-- If the queue never fills, the records that are queued are those made before the first
shutdown. -/
theorem met_queued (isOpen : l.queue.isSome = true) {events : List Event}
    (room : l.met .full events = []) : l.met .queued events = made (beforeShutdown events) := by
  induction events generalizing l with
  | nil => rfl
  | cons e rest ih =>
    obtain ⟨hfirst, hrest⟩ := List.append_eq_nil_iff.mp room
    by_cases he : e = .shutdown
    · subst he
      rw [met, met_of_none rfl]
      simp [beforeShutdown, made, Event.record?]
    · have hbefore : beforeShutdown (e :: rest) = e :: beforeShutdown rest := by
        simp [beforeShutdown, he]
      rw [met, ih (isSome_queue_perform isOpen he) hrest, hbefore, made_cons]
      congr 1
      -- What is no record is no part of either side, and a record has found room.
      cases hrecord : e.record? with
      | none => simp
      | some r =>
        refine if_pos (fate_eq_queued isOpen fun hfull => ?_)
        simp [hfull, hrecord] at hfirst

/-- Where there is no writer there is none at the end. -/
theorem queue_run_of_none (closed : l.queue = none) (events : List Event) :
    (l.run events).queue = none := by
  induction events generalizing l with
  | nil => exact closed
  | cons e rest ih => exact ih (queue_perform_of_none closed e)

/-- A log that has been shut down has no writer. -/
theorem queue_run_of_mem {events : List Event} (h : Event.shutdown ∈ events) :
    (l.run events).queue = none := by
  obtain ⟨before, after, rfl⟩ := List.append_of_mem h
  rw [run, List.foldl_append]
  exact queue_run_of_none rfl after

/-- A log has a file at the end if it has one at the start. -/
theorem isSome_file_run (l : AuditLog) (events : List Event) :
    (l.run events).file.isSome = l.file.isSome := by
  induction events generalizing l with
  | nil => rfl
  | cons e rest ih => exact (ih (l.perform e)).trans (l.isSome_file_perform e)

/-- Once a log has been shut down, its file has what it had at the start, what waited for it then
and all records that were queued. -/
theorem file_run {held waiting : List AuditRecord} {events : List Event}
    (hfile : l.file = some held) (hqueue : l.queue = some waiting) (h : Event.shutdown ∈ events) :
    (l.run events).file = some (held ++ waiting ++ l.met .queued events) := by
  obtain ⟨kept, hkept⟩ := Option.isSome_iff_exists.mp
    ((l.isSome_file_run events).trans (by rw [hfile]; rfl))
  have hwritten := written_run (l := l) (fun _ => by rw [hfile]; rfl) events
  rw [written, written, hkept, queue_run_of_mem h, hfile, hqueue] at hwritten
  rw [hkept]
  simpa using hwritten

/-- The ring with a record more is the end of what it held and the record. -/
theorem pushed_eq_rtake (few : l.ring.length ≤ l.ringSize) (r : AuditRecord) :
    l.pushed r = (l.ring ++ [r]).rtake l.ringSize := by
  have hpos : 0 < l.ringSize := Nat.lt_of_lt_of_le Nat.one_pos (Nat.le_max_right _ _)
  rw [pushed, List.rtake, List.length_append, List.length_singleton]
  split
  · have hlost : l.ring.length + 1 - l.ringSize = 1 := by omega
    rw [hlost, List.drop_append_of_le_length (by omega)]
  · have hlost : l.ring.length + 1 - l.ringSize = 0 := by omega
    rw [hlost, List.drop_zero]

/-- A ring that is not full is its own end. -/
theorem rtake_ringSize (few : l.ring.length ≤ l.ringSize) :
    (l.ring ++ []).rtake l.ringSize = l.ring := by
  rw [List.append_nil, rtake_of_length_le few]

/-- Only a record comes to the ring. -/
theorem ring_perform (few : l.ring.length ≤ l.ringSize) (e : Event) :
    (l.perform e).ring = (l.ring ++ e.record?.toList).rtake l.ringSize := by
  rw [perform_eq]
  cases e with
  | record r => exact pushed_eq_rtake few r
  | shutdown | write _ => exact (rtake_ringSize few).symm

/-- The size of the ring stays as it is. -/
theorem ringSize_perform (l : AuditLog) (e : Event) : (l.perform e).ringSize = l.ringSize := by
  rw [perform_eq]
  rfl

/-- The ring never holds more than its size. -/
theorem length_ring_perform (few : l.ring.length ≤ l.ringSize) (e : Event) :
    (l.perform e).ring.length ≤ (l.perform e).ringSize := by
  rw [ringSize_perform, ring_perform few, length_rtake]
  exact Nat.min_le_left _ _

/-- The ring holds the end of what it held and of the records that are made. -/
theorem ring_run (few : l.ring.length ≤ l.ringSize) (events : List Event) :
    (l.run events).ring = (l.ring ++ made events).rtake l.ringSize := by
  induction events generalizing l with
  | nil => exact (rtake_ringSize few).symm
  | cons e rest ih =>
    change ((l.perform e).run rest).ring = _
    rw [ih (length_ring_perform few e), ringSize_perform, ring_perform few, rtake_append_rtake,
      made_cons, List.append_assoc]

/-- All records that are made are counted. -/
theorem recorded_run (l : AuditLog) (events : List Event) :
    (l.run events).recorded = l.recorded + UInt64.ofNat (made events).length := by
  induction events generalizing l with
  | nil => exact (UInt64.add_zero _).symm
  | cons e rest ih =>
    change ((l.perform e).run rest).recorded = _
    rw [ih, perform_eq, made_cons, List.length_append, UInt64.ofNat_add, ← UInt64.add_assoc]

/-- A log that is opened on a file that holds something already, to which it appends. -/
def onFile (capacity : Nat) (held : List AuditRecord) : AuditLog :=
  { withFile capacity with file := some held }

/-- A log that has just been opened: without a file, or on a file that may hold something. -/
inductive Opened (capacity : Nat) : AuditLog → Prop where
  | inMemory : Opened capacity (.inMemory capacity)
  | onFile (held : List AuditRecord) : Opened capacity (.onFile capacity held)

/-- Nothing has been recorded yet in a log that has just been opened. -/
theorem Opened.fresh {capacity : Nat} (h : Opened capacity l) :
    l.ring = [] ∧ l.recorded = 0 ∧ l.ringSize = max capacity 1 := by
  cases h <;> exact ⟨rfl, rfl, rfl⟩

/-- The newest records of a log are the end of all that have been made, as far as the ring holds
them. -/
theorem recent_run {capacity : Nat} (h : Opened capacity l) (events : List Event) (count : Nat) :
    (l.run events).recent count =
      (made events).rtake (min count (min (max capacity 1) (made events).length)) := by
  obtain ⟨hring, -, hsize⟩ := h.fresh
  have hend : (l.run events).ring = (made events).rtake (max capacity 1) := by
    rw [ring_run (by simp [hring]), hring, hsize, List.nil_append]
  change (l.run events).ring.rtake count = _
  rw [hend, rtake_rtake]
  unfold List.rtake
  congr 1
  omega

/-- The newest records of a log are the end of all that have been made, as far as the ring holds
them, and the counter tells how many have been made, as far as 64 bits do. If the log has a new
file, the queue of the writer never fills and the log is shut down, then the file holds the records
made before the first shutdown, one line for each, in the order in which they were made. -/
theorem keeps_of_run (capacity : Nat) (events : List Event) :
    (∀ l, Opened capacity l →
      (∀ count, (l.run events).recent count =
        (made events).rtake (min count (min (max capacity 1) (made events).length))) ∧
      (l.run events).recorded.toNat = (made events).length % 2 ^ 64) ∧
    (Event.shutdown ∈ events → (withFile capacity).met .full events = [] →
      ∃ records, ((withFile capacity).run events).file = some records ∧
        records = made (beforeShutdown events) ∧
        ∀ instant : Nat → String, Text.splitAtChar '\n' (fileText records instant) =
          records.mapIdx (fun i r => (r.toJson (instant i)).line) ++ [""]) := by
  constructor
  · intro l hopened
    refine ⟨recent_run hopened events, ?_⟩
    rw [recorded_run, hopened.fresh.2.1, UInt64.zero_add, UInt64.toNat_ofNat']
  · intro hshutdown room
    refine ⟨_, ?_, rfl, fun instant => splitAtChar_fileText _ instant⟩
    rw [file_run rfl rfl hshutdown, met_queued rfl room]
    rfl

/-- Four records are made, the last of them after the shutdown, and the ring has room for two. -/
theorem keeps_of_run_lateRecord :
    let r (actor : String) : AuditRecord :=
      ⟨actor, "127.0.0.1:5000", .authentication, "login", .success, ""⟩
    let events := [.record (r "alice"), .record (r "bob"), .write 1, .record (r "carol"), .shutdown,
      .record (r "dave")]
    ((withFile 2).run events).recent 10 = [r "carol", r "dave"] ∧
      ((withFile 2).run events).recorded.toNat = 4 ∧
      ((withFile 2).run events).file = some [r "alice", r "bob", r "carol"] := by
  intro r events
  obtain ⟨hkept, hfile⟩ := keeps_of_run 2 events
  obtain ⟨hrecent, hrecorded⟩ := hkept _ (.onFile [])
  obtain ⟨records, hrecords, rfl, -⟩ := hfile (by decide) (by decide)
  exact ⟨hrecent 10, hrecorded, hrecords⟩

end PlayServer.AuditLog
