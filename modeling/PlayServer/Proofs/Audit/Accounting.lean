import PlayServer.Proofs.Audit.Retention

/-!
# Which records an audit log accounts for

Each record that is made is queued for the writer, finds the queue full or comes after the shutdown,
`length_made`. The first reach the file and the second are counted as dropped; the last are in
neither place. So when nothing waits any more, the records made are those in the file, those dropped
and those made after the first shutdown: `recorded_eq_of_run`.
-/

namespace PlayServer.AuditLog

variable {l : AuditLog}

/-- Every record meets one of the three fates. -/
theorem length_made (l : AuditLog) (events : List Event) :
    (l.met .queued events).length + (l.met .full events).length + (l.met .closed events).length =
      (made events).length := by
  induction events generalizing l with
  | nil => rfl
  | cons e rest ih =>
    rw [met, met, met, made_cons]
    simp only [List.length_append]
    rw [← ih (l.perform e)]
    cases hfate : l.fate <;> simp <;> omega

/-- The records that found the queue full are counted as dropped. -/
theorem dropped_run (l : AuditLog) (events : List Event) :
    (l.run events).dropped = l.dropped + UInt64.ofNat (l.met .full events).length := by
  induction events generalizing l with
  | nil => exact (UInt64.add_zero _).symm
  | cons e rest ih =>
    change ((l.perform e).run rest).dropped = _
    rw [ih, met, List.length_append, UInt64.ofNat_add, ← UInt64.add_assoc]
    congr 1
    rw [perform_eq]

/-- Once the writer has nothing left to do, the file has all that was written. -/
theorem file_runWriter (h : l.file.isSome = true) : l.runWriter.file = some l.written := by
  obtain ⟨file, hfile⟩ := Option.isSome_iff_exists.mp h
  unfold runWriter written
  cases hqueue : l.queue <;> simp [hfile]

/-- The writer does not count. -/
theorem counters_runWriter (l : AuditLog) :
    l.runWriter.recorded = l.recorded ∧ l.runWriter.dropped = l.dropped := by
  have hevent : l.runWriter = l.perform (.write (l.queue.getD []).length) := l.runWriter_eq_write
  rw [hevent, perform_eq]
  simp [Event.record?]

/-- The records that were made are those that have been added to the file, those that were dropped
and those made after the first shutdown, which are neither in the file nor counted as dropped. So
the counters agree with the file exactly if none were made after the shutdown, or so many that 64
bits do not tell. -/
theorem recorded_eq_of_run (capacity : Nat) (held : List AuditRecord) (events : List Event) :
    let l := ((onFile capacity held).run events).runWriter
    ∃ added, l.file = some (held ++ added) ∧
      l.recorded = UInt64.ofNat added.length + l.dropped +
        UInt64.ofNat (made (afterShutdown events)).length ∧
      (l.recorded = UInt64.ofNat added.length + l.dropped ↔
        2 ^ 64 ∣ (made (afterShutdown events)).length) := by
  intro l
  let start := onFile capacity held
  obtain ⟨hrecorded, hdropped⟩ := (start.run events).counters_runWriter
  have hfile : l.file = some (held ++ start.met .queued events) := by
    have hstart : start.written = held := List.append_nil held
    rw [file_runWriter ((isSome_file_run start events).trans rfl), written_run (fun _ => rfl), hstart]
  have hcount : l.recorded = UInt64.ofNat (made events).length := by
    rw [hrecorded, recorded_run]
    exact UInt64.zero_add _
  have hlost : l.dropped = UInt64.ofNat (start.met .full events).length := by
    rw [hdropped, dropped_run]
    exact UInt64.zero_add _
  have hsum : l.recorded = UInt64.ofNat (start.met .queued events).length + l.dropped +
      UInt64.ofNat (made (afterShutdown events)).length := by
    rw [hcount, hlost, ← length_made start events, met_closed rfl, UInt64.ofNat_add,
      UInt64.ofNat_add]
  refine ⟨_, hfile, hsum, ?_⟩
  rw [hsum, UInt64.add_eq_left, UInt64.ofNat_eq_iff_mod_eq_toNat]
  exact Nat.dvd_iff_mod_eq_zero.symm

/-- A record that is made after the shutdown is in the file as little as among the dropped ones. -/
theorem recorded_ne_afterShutdown :
    let r : AuditRecord := ⟨"alice", "127.0.0.1:5000", .authentication, "login", .warning, ""⟩
    let l := ((withFile 10).run [.shutdown, .record r]).runWriter
    ¬ ∃ lines, l.file = some lines ∧ l.recorded = UInt64.ofNat lines.length + l.dropped := by
  intro r l
  rintro ⟨lines, hlines, hsum⟩
  obtain rfl : lines = [] := (Option.some.inj hlines).symm
  exact absurd hsum (by decide)

end PlayServer.AuditLog
