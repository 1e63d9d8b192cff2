import PlayServer.Admin.Answer
import PlayServer.Proofs.Audit.Retention
import PlayServer.Proofs.Text.Numeral
import PlayServer.Proofs.Text.Pieces

/-!
# Asking for audit records

A query is read part by part. A part that sets the limit overrides those before it, or spoils the
whole query if it sets the limit to what is no number; any other part leaves the limit as it is. So
the last part that sets it decides, `limitOf_append`, and the parts that do not can be left out,
`limitOf_filter`.

What the limit selects is the end of the ring, which is the end of all records that were made.
-/

namespace PlayServer.AuditQuery

/-- The target that asks for audit records, with a query or without one. -/
def target : Option String → String
  | none => "/api/audit"
  | some query => "/api/audit?" ++ query

/-- The parts of a query, between which the ampersands stand. Without a query there are none. -/
inductive Parts : Option String → List String → Prop where
  | none : Parts none []
  | some (parts : List String) (hne : parts ≠ []) (plain : ∀ part ∈ parts, '&' ∉ part.toList) :
    Parts (some ("&".intercalate parts)) parts

/-- A part sets the limit. -/
def IsLimit (part : String) : Prop := ∃ value, part = "limit=" ++ value

/-- A text spells a number of 64 bits. -/
def Spells (value : String) (n : Nat) : Prop := Text.Numeral value.toList n ∧ n < 2 ^ 64

/-- A part sets the limit to what is no number of 64 bits. -/
def Malformed (part : String) : Prop := ∃ value, part = "limit=" ++ value ∧ ∀ n, ¬Spells value n

/-- Parts of a query ask for so many records. -/
inductive Asks : List String → Nat → Prop where
  /-- No part sets the limit. -/
  | default (parts : List String) (h : ∀ part ∈ parts, ¬IsLimit part) : Asks parts 100
  /-- This is the last part that sets it. -/
  | last (before : List String) (value : String) (after : List String) (n : Nat)
    (spelled : Spells value n) (h : ∀ part ∈ after, ¬IsLimit part) :
    Asks (before ++ ("limit=" ++ value) :: after) n

/-- The answer that shows some records. -/
def shown (times : Times) (records : List AuditRecord) : AdminAnswer where
  status := 200
  contentType := "application/json"
  body := (Json.array (records.mapIdx fun i r => r.toJson (times.recorded i))).indented

/-- Every query has parts. -/
theorem exists_parts (query : Option String) : ∃ parts, Parts query parts := by
  cases query with
  | none => exact ⟨[], .none⟩
  | some query =>
    obtain ⟨hne, plain, hquery⟩ := Text.splitAtChar_eq_iff.mp (Eq.refl (Text.splitAtChar '&' query))
    rw [hquery]
    exact ⟨_, .some _ hne plain⟩

/-- A part sets the limit exactly if something follows the beginning that tells so. -/
theorem isLimit_iff {part : String} : IsLimit part ↔ (Text.after? "limit=" part).isSome = true := by
  simp only [IsLimit, Option.isSome_iff_exists, Text.after?_eq_some_iff]

instance (part : String) : Decidable (IsLimit part) := decidable_of_iff _ isLimit_iff.symm

/-- The texts of 64-bit numbers are those that are read as such. -/
theorem spells_iff {value : String} {n : Nat} :
    Spells value n ↔ Text.unsigned? UInt64.size value = some n :=
  Text.unsigned?_eq_some_iff.symm

/-- A text that is not read spells no number. -/
theorem not_spells_iff {value : String} :
    (∀ n, ¬Spells value n) ↔ Text.unsigned? UInt64.size value = none := by
  simp only [spells_iff, Option.eq_none_iff_forall_ne_some, ne_eq]

/-- A part is malformed if what it sets the limit to is not read. -/
theorem malformed_iff {part : String} : Malformed part ↔
    ∃ value, Text.after? "limit=" part = some value ∧ Text.unsigned? UInt64.size value = none := by
  simp only [Malformed, Text.after?_eq_some_iff, not_spells_iff]

/-- What the parts of a query make of the limit. -/
def limitOf (parts : List String) : Option Nat :=
  (parts.filterMap (Text.after? "limit=")).foldlM
    (fun _ value => Text.unsigned? UInt64.size value) defaultAuditLimit

/-- The limit is read from the parts of a query. -/
theorem auditLimit?_eq {query : Option String} {parts : List String} (h : Parts query parts) :
    auditLimit? (query.getD "") = limitOf parts := by
  cases h with
  | none => rfl
  | some _ hne plain =>
    have hsplit : Text.splitAtChar '&' ("&".intercalate parts) = parts :=
      Text.splitAtChar_eq_iff.mpr ⟨hne, plain, rfl⟩
    rw [auditLimit?, Option.getD_some, hsplit, limitOf]

/-- A part more leaves the limit as it is, or sets it again. -/
theorem limitOf_append (parts : List String) (part : String) :
    limitOf (parts ++ [part]) = (limitOf parts).bind fun n =>
      match Text.after? "limit=" part with
      | none => some n
      | some value => Text.unsigned? UInt64.size value := by
  rw [limitOf, List.filterMap_append, List.foldlM_append]
  cases hpart : Text.after? "limit=" part with
  | none => simp [limitOf, hpart]
  | some value => simp [limitOf, hpart]

/-- The parts that do not set the limit can be left out. -/
theorem limitOf_filter (parts : List String) : limitOf (parts.filter IsLimit) = limitOf parts := by
  have hsets : (parts.filter IsLimit).filterMap (Text.after? "limit=") =
      parts.filterMap (Text.after? "limit=") := by
    rw [List.filterMap_filter]
    refine List.filterMap_congr fun part _ => ?_
    cases hpart : Text.after? "limit=" part <;> simp [isLimit_iff, hpart]
  rw [limitOf, hsets, limitOf]

/-- A query is refused exactly if one of its parts is malformed. -/
theorem limitOf_eq_none_iff {parts : List String} :
    limitOf parts = none ↔ ∃ part ∈ parts, Malformed part := by
  -- From the end: what a part does to the limit does not depend on those before it.
  induction parts using List.reverseRecOn with
  | nil => simp [limitOf]
  | append_singleton parts part ih =>
    have hmore : (∃ other ∈ parts ++ [part], Malformed other) ↔
        limitOf parts = none ∨ Malformed part := by
      simp [ih, or_and_right, exists_or]
    rw [limitOf_append, hmore, malformed_iff]
    cases Text.after? "limit=" part with
    | none => simp
    | some value => cases limitOf parts <;> simp

/-- A part more that does not set the limit asks for nothing else. -/
theorem Asks.append {parts : List String} {n : Nat} (h : Asks parts n) {part : String}
    (hother : ¬IsLimit part) : Asks (parts ++ [part]) n := by
  have hmore {others : List String} (hothers : ∀ other ∈ others, ¬IsLimit other) :
      ∀ other ∈ others ++ [part], ¬IsLimit other := by
    simpa [or_imp, forall_and] using ⟨hothers, hother⟩
  cases h with
  | default _ hothers => exact .default _ (hmore hothers)
  | last before value after _ spelled hafter =>
    rw [List.append_assoc, List.cons_append]
    exact .last before value _ n spelled (hmore hafter)

/-- A query that is not refused asks for as many records as its limit says. -/
theorem asks_of_limitOf {parts : List String} {n : Nat} (h : limitOf parts = some n) :
    Asks parts n := by
  induction parts using List.reverseRecOn generalizing n with
  | nil =>
    cases h
    exact .default [] (by simp)
  | append_singleton parts part ih =>
    rw [limitOf_append] at h
    obtain ⟨earlier, hearlier, hlast⟩ := Option.bind_eq_some_iff.mp h
    cases hpart : Text.after? "limit=" part with
    | none =>
      have hother : ¬IsLimit part := by simp [isLimit_iff, hpart]
      rw [hpart] at hlast
      cases hlast
      exact (ih hearlier).append hother
    | some value =>
      rw [hpart] at hlast
      rw [Text.after?_eq_some_iff.mp hpart]
      exact .last parts value [] n (spells_iff.mpr hlast) (by simp)

/-- The number that is read is the one that is asked for. -/
theorem Asks.eq_of_limitOf {parts : List String} {n limit : Nat} (h : Asks parts n)
    (hlimit : limitOf parts = some limit) : n = limit := by
  rw [← limitOf_filter] at hlimit
  have hnone {others : List String} (hothers : ∀ other ∈ others, ¬IsLimit other) :
      others.filter IsLimit = [] :=
    List.filter_eq_nil_iff.mpr fun other hother => by simpa using hothers other hother
  cases h with
  | default _ hothers =>
    rw [hnone hothers] at hlimit
    cases hlimit
    rfl
  | last before value after _ spelled hafter =>
    have hset : IsLimit ("limit=" ++ value) := ⟨value, rfl⟩
    have hvalue : Text.after? "limit=" ("limit=" ++ value) = some value :=
      Text.after?_eq_some_iff.mpr rfl
    rw [List.filter_append, List.filter_cons_of_pos (by simpa using hset), hnone hafter,
      limitOf_append, hvalue, Option.bind_eq_some_iff] at hlimit
    obtain ⟨_, _, hread⟩ := hlimit
    exact Option.some_inj.mp ((spells_iff.mp spelled).symm.trans hread)

/-- The target falls apart into the path and the query. -/
theorem splitTarget_target (query : Option String) :
    ServerState.splitTarget (target query) = ("/api/audit", query.getD "") := by
  cases query with
  | none => rfl
  | some query =>
    have htarget : target (some query) = "/api/audit" ++ (String.singleton '?' ++ query) :=
      String.toList_inj.mp (by simp [target])
    rw [ServerState.splitTarget, htarget, Text.splitOnce?_append query (by decide)]
    rfl

/-- The answer is a matter of the limit that is read from the parts of the query. -/
theorem answer_target (s : ServerState) (times : Times) {query : Option String}
    {parts : List String} (h : Parts query parts) :
    s.answer times "GET" (target query) =
      match limitOf parts with
      | some limit => .json (s.auditReport times limit)
      | none => .refusal 400 := by
  rw [ServerState.answer, splitTarget_target, ← auditLimit?_eq h, if_neg (not_not_intro rfl)]
  rfl

/-- A query for audit records is refused exactly if one of its parts sets the limit to what is no
number of 64 bits. If none does, the answer shows the newest of the records that have been made, as
many as the query asks for and the ring holds, oldest first. The parts that do not set the limit
make no difference. -/
theorem answer_audit {capacity : Nat} {l : AuditLog} (hopened : AuditLog.Opened capacity l)
    (events : List AuditLog.Event) {s : ServerState} (haudit : s.audit = l.run events)
    (times : Times) (query : Option String) :
    (∃ parts, Parts query parts) ∧ ∀ parts, Parts query parts →
      ((s.answer times "GET" (target query)).status = 400 ↔ ∃ part ∈ parts, Malformed part) ∧
      ((∀ part ∈ parts, ¬Malformed part) → (∃ n, Asks parts n) ∧ ∀ n, Asks parts n →
        s.answer times "GET" (target query) =
          shown times ((AuditLog.made events).rtake
            (min n (min (max capacity 1) (AuditLog.made events).length)))) ∧
      ∀ other otherParts, Parts other otherParts →
        otherParts.filter IsLimit = parts.filter IsLimit →
          s.answer times "GET" (target other) = s.answer times "GET" (target query) := by
  refine ⟨exists_parts query, fun parts hparts => ⟨?_, fun hsound => ?_, ?_⟩⟩
  · rw [answer_target s times hparts, ← limitOf_eq_none_iff]
    cases limitOf parts with
    | none => simp [AdminAnswer.refusal]
    | some limit => simp [AdminAnswer.json, AdminAnswer.ok]
  · obtain ⟨limit, hlimit⟩ : ∃ limit, limitOf parts = some limit := by
      rw [← Option.ne_none_iff_exists', ne_eq, limitOf_eq_none_iff]
      simpa using hsound
    refine ⟨⟨limit, asks_of_limitOf hlimit⟩, fun n hn => ?_⟩
    obtain rfl := hn.eq_of_limitOf hlimit
    rw [answer_target s times hparts, hlimit]
    dsimp only
    rw [ServerState.auditReport, haudit, AuditLog.recent_run hopened]
    rfl
  · intro other otherParts hother hsame
    rw [answer_target s times hother, answer_target s times hparts, ← limitOf_filter otherParts,
      hsame, limitOf_filter]

/-- Of the two limits of the query the last one counts, and of three records the ring has room for
two. -/
theorem answer_audit_twoLimits :
    let r (actor : String) : AuditRecord :=
      ⟨actor, "127.0.0.1:5000", .authentication, "login", .success, ""⟩
    let made := [r "alice", r "bob", r "carol"]
    let s : ServerState :=
      { (default : ServerState) with audit := (AuditLog.inMemory 2).run (made.map .record) }
    let times : Times := ⟨"0", fun _ => "", fun _ => ""⟩
    s.answer times "GET" "/api/audit?limit=1&page=x&limit=+05&" =
      shown times [r "bob", r "carol"] := by
  intro r made s times
  let parts := ["limit=1", "page=x", "limit=+05", ""]
  have hparts : Parts (some "limit=1&page=x&limit=+05&") parts :=
    .some parts (by decide) (by decide)
  have hlimit : limitOf parts = some 5 := by decide
  have hsound : ∀ part ∈ parts, ¬Malformed part := by
    intro part hpart hmalformed
    rw [limitOf_eq_none_iff.mpr ⟨part, hpart, hmalformed⟩] at hlimit
    cases hlimit
  obtain ⟨-, hanswer⟩ := answer_audit .inMemory (made.map .record) (s := s) rfl times _
  exact ((hanswer parts hparts).2.1 hsound).2 5 (asks_of_limitOf hlimit)

end PlayServer.AuditQuery
