import PlayServer.Audit.Log

/-!
# The trail of an audit log

A log keeps only its newest records, and counts all of them. What has been recorded since an earlier
state of a log is read off the counters, as far as the ring still holds it: `AuditLog.since`. One
record is always held, and of more than one at most some of the first are lost.
-/

namespace PlayServer.AuditLog

/-- Makes some records, one after the other. -/
def recordAll (l : AuditLog) (rs : List AuditRecord) : AuditLog := rs.foldl record l

/-- What has been recorded since an earlier state of the log, as far as it is still held. -/
def since (l' l : AuditLog) : List AuditRecord := l'.recent (l'.recorded - l.recorded).toNat

/-- A record comes to stand behind what is kept of the ring. -/
theorem exists_ring_record (l : AuditLog) (r : AuditRecord) :
    ∃ kept, kept <:+ l.ring ∧ (l.record r).ring = kept ++ [r] := by
  refine ⟨if l.ringSize ≤ l.ring.length then l.ring.drop 1 else l.ring, ?_, ?_⟩
  · split
    · exact List.drop_suffix 1 l.ring
    · exact List.suffix_rfl
  · unfold record
    dsimp only
    split
    · rfl
    · split <;> rfl

/-- A record is counted. -/
theorem recorded_record (l : AuditLog) (r : AuditRecord) :
    (l.record r).recorded = l.recorded + 1 := by
  unfold record
  dsimp only
  split
  · rfl
  · split <;> rfl

/-- The ring holds the end of what it held and of what has been recorded. -/
theorem ring_recordAll_suffix (l : AuditLog) (rs : List AuditRecord) :
    (l.recordAll rs).ring <:+ l.ring ++ rs := by
  induction rs generalizing l with
  | nil => simp [recordAll]
  | cons r rest ih =>
    obtain ⟨kept, hkept, hring⟩ := l.exists_ring_record r
    have hrest : ((l.record r).recordAll rest).ring <:+ (kept ++ [r]) ++ rest := hring ▸ ih _
    obtain ⟨lost, hlost⟩ := hkept
    refine hrest.trans ⟨lost, ?_⟩
    rw [← hlost]
    simp

/-- All records are counted. -/
theorem recorded_recordAll (l : AuditLog) (rs : List AuditRecord) :
    (l.recordAll rs).recorded = l.recorded + UInt64.ofNat rs.length := by
  induction rs generalizing l with
  | nil => simp [recordAll]
  | cons r rest ih =>
    change ((l.record r).recordAll rest).recorded = _
    rw [ih, recorded_record, List.length_cons, UInt64.ofNat_add, UInt64.add_assoc,
      UInt64.add_comm 1]
    rfl

/-- The records made since then are as many as the counter tells. -/
theorem since_recordAll {rs : List AuditRecord} (few : rs.length < UInt64.size) (l : AuditLog) :
    (l.recordAll rs).since l = (l.recordAll rs).recent rs.length := by
  have hcount : ((l.recordAll rs).recorded - l.recorded).toNat = rs.length := by
    rw [recorded_recordAll, UInt64.add_comm, UInt64.add_sub_cancel, UInt64.toNat_ofNat',
      Nat.mod_eq_of_lt few]
  rw [since, hcount]

/-- What has been recorded since then is the end of the records made. -/
theorem since_recordAll_suffix {rs : List AuditRecord} (few : rs.length < UInt64.size) (l : AuditLog) :
    (l.recordAll rs).since l <:+ rs := by
  have hend : (l.recordAll rs).recent rs.length <:+ l.ring ++ rs :=
    (List.drop_suffix _ _).trans (l.ring_recordAll_suffix rs)
  have hlength : ((l.recordAll rs).recent rs.length).length ≤ rs.length := by
    rw [recent, List.length_drop]
    omega
  rw [since_recordAll few]
  exact List.suffix_of_suffix_length_le hend (List.suffix_append _ _) hlength

/-- One record is what has been recorded since. -/
theorem since_record (l : AuditLog) (r : AuditRecord) : (l.record r).since l = [r] := by
  obtain ⟨kept, -, hring⟩ := l.exists_ring_record r
  rw [show l.record r = l.recordAll [r] from rfl, since_recordAll (by simp [UInt64.size])]
  change (l.record r).recent 1 = [r]
  rw [recent, hring]
  simp

/-- Nothing has been recorded since now. -/
theorem since_self (l : AuditLog) : l.since l = [] := by
  simp [since, recent]

end PlayServer.AuditLog
