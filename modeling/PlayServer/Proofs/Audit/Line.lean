import PlayServer.Audit.Record
import PlayServer.Proofs.Text.Pieces

/-!
# The lines of an audit file

A record is printed with a line feed behind it. Within it there is none, whatever its texts are,
since a line feed in a text is escaped. So the lines of a file are the records in it, one line for
each: `splitAtChar_fileText`.
-/

namespace PlayServer

namespace Json

/-- No character is printed as a line feed. -/
theorem lineFeed_notMem_escapeChar (c : Char) : '\n' ∉ escapeChar c := by
  have hcode : ∀ n < 32, '\n' ∉ (hexNumeral 4 n).toList := by decide
  unfold escapeChar
  repeat' split
  any_goals decide
  -- The last two cases depend on the character: a number for it, or the character itself.
  · next hlow => simpa using hcode c.toNat hlow
  · simpa [eq_comm] using ‹¬c = '\n'›

/-- A text is printed without a line feed. -/
theorem lineFeed_notMem_quote (s : String) : '\n' ∉ (quote s).toList := by
  have hbody : '\n' ∉ s.toList.flatMap escapeChar := by
    simpa using fun c _ => lineFeed_notMem_escapeChar c
  simpa [quote] using hbody

/-- What is between separators is in one of the parts. -/
theorem notMem_intercalate {c : Char} {separator : List Char} {parts : List (List Char)}
    (hseparator : c ∉ separator) (hparts : ∀ part ∈ parts, c ∉ part) :
    c ∉ separator.intercalate parts := by
  induction parts with
  | nil => simp [List.intercalate]
  | cons part rest ih =>
    obtain ⟨hpart, hrest⟩ := List.forall_mem_cons.mp hparts
    cases rest with
    | nil => simpa [List.intercalate] using hpart
    | cons next rest =>
      rw [List.intercalate_cons_cons]
      simp [hseparator, hpart, ih hrest]

/-- Fields are printed without a line feed if their values are. -/
theorem lineFeed_notMem_lineFields {fields : List (String × Json)}
    (h : ∀ f ∈ fields, '\n' ∉ f.2.line.toList) :
    ∀ part ∈ lineFields fields, '\n' ∉ part.toList := by
  induction fields with
  | nil => simp [lineFields]
  | cons field rest ih =>
    obtain ⟨hfield, hrest⟩ := List.forall_mem_cons.mp h
    rw [lineFields]
    refine List.forall_mem_cons.mpr ⟨?_, ih hrest⟩
    simpa [lineFeed_notMem_quote] using hfield

/-- An object is printed on one line if the values of its fields are. -/
theorem lineFeed_notMem_line_object {fields : List (String × Json)}
    (h : ∀ f ∈ fields, '\n' ∉ f.2.line.toList) : '\n' ∉ (object fields).line.toList := by
  have hbody : '\n' ∉ ((",").intercalate (lineFields fields)).toList := by
    rw [String.toList_intercalate]
    refine notMem_intercalate (by decide) ?_
    simpa using lineFeed_notMem_lineFields h
  simpa [line] using hbody

end Json

namespace AuditRecord

/-- A record takes one line, whatever its texts are. -/
theorem lineFeed_notMem_line (r : AuditRecord) (instant : String) :
    '\n' ∉ (r.toJson instant).line.toList := by
  have hstring (s : String) : '\n' ∉ (Json.string s).line.toList := by
    rw [Json.line]
    exact Json.lineFeed_notMem_quote s
  apply Json.lineFeed_notMem_line_object
  by_cases hdetails : r.details.isEmpty = true <;> simp [hdetails, hstring]

end AuditRecord

namespace AuditLog

/-- Some records as they are printed, for the texts of their instants. -/
def printed (records : List AuditRecord) (instant : Nat → String) : List String :=
  records.mapIdx fun i r => (r.toJson (instant i)).line

/-- The text of a file with some records: each as it is printed, with a line feed behind it. -/
def fileText (records : List AuditRecord) (instant : Nat → String) : String :=
  String.ofList ((printed records instant).flatMap fun line => line.toList ++ ['\n'])

/-- The lines of a file are its records, one line for each. -/
theorem splitAtChar_fileText (records : List AuditRecord) (instant : Nat → String) :
    Text.splitAtChar '\n' (fileText records instant) = printed records instant ++ [""] := by
  have hplain : ∀ line ∈ printed records instant, '\n' ∉ line.toList := by
    intro line hline
    obtain ⟨i, hi, rfl⟩ := List.mem_mapIdx.mp hline
    exact records[i].lineFeed_notMem_line (instant i)
  exact Text.splitAtChar_terminated hplain

end AuditLog

end PlayServer
