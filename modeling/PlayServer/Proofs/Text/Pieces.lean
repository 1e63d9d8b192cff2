import Mathlib.Data.List.TakeDrop
import PlayServer.Text.Blank

/-!
# Texts and the pieces they are split into

Splitting a text at a character loses nothing: with the character put back between them, the pieces
are the text, and none of them holds it. These two things settle what the pieces are,
`splitAtChar_eq_iff`, so that to split a text is to say how it is put together.
-/

namespace PlayServer.Text

section Pieces

variable {isSeparator : Char → Bool}

/-- What has no separator in it is one piece. -/
theorem pieces_of_forall {cs : List Char} (h : ∀ c ∈ cs, isSeparator c = false) :
    pieces isSeparator cs = [cs] := by
  induction cs with
  | nil => rfl
  | cons c cs ih =>
    obtain ⟨hc, hcs⟩ := List.forall_mem_cons.mp h
    simp [pieces, hc, ih hcs]

/-- A piece ends at the first separator. -/
theorem pieces_append_cons {piece : List Char} {separator : Char} (rest : List Char)
    (h : ∀ c ∈ piece, isSeparator c = false) (hseparator : isSeparator separator = true) :
    pieces isSeparator (piece ++ separator :: rest) = piece :: pieces isSeparator rest := by
  induction piece with
  | nil => simp [pieces, hseparator]
  | cons c piece ih =>
    obtain ⟨hc, hpiece⟩ := List.forall_mem_cons.mp h
    simp [pieces, hc, ih hpiece]

/-- There is always a piece. -/
theorem pieces_ne_nil (cs : List Char) : pieces isSeparator cs ≠ [] := by
  cases cs with
  | nil => simp [pieces]
  | cons c cs =>
    unfold pieces
    split
    · simp
    · split <;> simp

/-- No piece has a separator in it. -/
theorem eq_false_of_mem_pieces {cs piece : List Char} (h : piece ∈ pieces isSeparator cs) :
    ∀ c ∈ piece, isSeparator c = false := by
  induction cs generalizing piece with
  | nil =>
    obtain rfl : piece = [] := by simpa [pieces] using h
    simp
  | cons c cs ih =>
    unfold pieces at h
    split at h
    · rcases List.mem_cons.mp h with rfl | hmem
      · simp
      · exact ih hmem
    · next hc =>
      have hplain : isSeparator c = false := by simpa using hc
      split at h
      · next hnone => exact absurd hnone (pieces_ne_nil cs)
      · next first others hpieces =>
        rw [hpieces] at ih
        rcases List.mem_cons.mp h with rfl | hmem
        · exact List.forall_mem_cons.mpr ⟨hplain, ih List.mem_cons_self⟩
        · exact ih (List.mem_cons_of_mem _ hmem)

end Pieces

/-- With the separator put back between them, the pieces are what was split. -/
theorem intercalate_pieces (separator : Char) (cs : List Char) :
    [separator].intercalate (pieces (· == separator) cs) = cs := by
  induction cs with
  | nil => rfl
  | cons c cs ih =>
    have hne : pieces (· == separator) cs ≠ [] := pieces_ne_nil cs
    obtain ⟨first, others, hpieces⟩ := List.exists_cons_of_ne_nil hne
    rw [hpieces] at ih
    unfold pieces
    rw [hpieces]
    split
    · next hc =>
      obtain rfl : c = separator := by simpa using hc
      rw [List.intercalate_cons_cons, ih]
      rfl
    · dsimp only
      cases others with
      | nil =>
        rw [← ih]
        simp [List.intercalate]
      | cons second others =>
        rw [List.intercalate_cons_cons] at ih ⊢
        rw [← ih]
        rfl

/-- A piece without the separator has no character that is it. -/
theorem beq_eq_false_of_notMem {separator : Char} {piece : List Char} (h : separator ∉ piece) :
    ∀ c ∈ piece, (c == separator) = false := by
  intro c hc
  simpa using fun hcs : c = separator => h (hcs ▸ hc)

/-- Pieces without the separator are found again when it is put between them. -/
theorem pieces_intercalate {separator : Char} {ps : List (List Char)} (hne : ps ≠ [])
    (h : ∀ p ∈ ps, separator ∉ p) :
    pieces (· == separator) ([separator].intercalate ps) = ps := by
  induction ps with
  | nil => exact absurd rfl hne
  | cons p rest ih =>
    obtain ⟨hp, hrest⟩ := List.forall_mem_cons.mp h
    cases rest with
    | nil => simpa [List.intercalate] using pieces_of_forall (beq_eq_false_of_notMem hp)
    | cons q rest =>
      rw [List.intercalate_cons_cons, List.append_assoc, List.singleton_append,
        pieces_append_cons _ (beq_eq_false_of_notMem hp) (beq_self_eq_true separator),
        ih (by simp) hrest]

/-- A text is split into some parts exactly when none of them holds the separator and the text is
these parts with the separator between them. -/
theorem splitAtChar_eq_iff {separator : Char} {s : String} {parts : List String} :
    splitAtChar separator s = parts ↔
      parts ≠ [] ∧ (∀ part ∈ parts, separator ∉ part.toList) ∧
        s = (String.singleton separator).intercalate parts := by
  have hjoin (parts : List String) :
      ((String.singleton separator).intercalate parts).toList =
        [separator].intercalate (parts.map String.toList) := by
    rw [String.toList_intercalate, String.toList_singleton]
  have hback (pieces : List (List Char)) :
      (pieces.map String.ofList).map String.toList = pieces := by
    simp [Function.comp_def]
  constructor
  · rintro rfl
    refine ⟨by simp [splitAtChar, pieces_ne_nil], ?_, ?_⟩
    · intro part hpart
      obtain ⟨piece, hpiece, rfl⟩ := List.mem_map.mp hpart
      intro hmem
      have hplain := eq_false_of_mem_pieces hpiece separator (by simpa using hmem)
      simp at hplain
    · apply String.toList_inj.mp
      rw [hjoin, splitAtChar, hback, intercalate_pieces]
  · rintro ⟨hne, hplain, rfl⟩
    rw [splitAtChar, hjoin, pieces_intercalate (by simpa using hne)]
    · simp [Function.comp_def]
    · intro p hp
      obtain ⟨part, hpart, rfl⟩ := List.mem_map.mp hp
      exact hplain part hpart

/-- What stands before a separator is a part, and the parts of what stands behind it follow. -/
theorem splitAtChar_append {separator : Char} {part : String} (rest : String)
    (h : separator ∉ part.toList) :
    splitAtChar separator (part ++ (String.singleton separator ++ rest)) =
      part :: splitAtChar separator rest := by
  rw [splitAtChar, String.toList_append, String.toList_append, String.toList_singleton,
    List.singleton_append, pieces_append_cons _ (beq_eq_false_of_notMem h) (beq_self_eq_true _),
    List.map_cons, String.ofList_toList, splitAtChar]

/-- A text of lines, each with the separator behind it, is split into these lines and an empty
rest. -/
theorem splitAtChar_terminated {separator : Char} {lines : List String}
    (h : ∀ line ∈ lines, separator ∉ line.toList) :
    splitAtChar separator (String.ofList (lines.flatMap fun line => line.toList ++ [separator])) =
      lines ++ [""] := by
  rw [splitAtChar, String.toList_ofList]
  induction lines with
  | nil => rfl
  | cons line rest ih =>
    obtain ⟨hline, hrest⟩ := List.forall_mem_cons.mp h
    rw [List.flatMap_cons, List.append_assoc, List.singleton_append,
      pieces_append_cons _ (beq_eq_false_of_notMem hline) (beq_self_eq_true _), List.map_cons,
      ih hrest, String.ofList_toList]
    rfl

/-- A text falls apart at the first separator. -/
theorem splitOnce?_append {separator : Char} {before : String} (after : String)
    (h : separator ∉ before.toList) :
    splitOnce? separator (before ++ (String.singleton separator ++ after)) =
      some (before, after) := by
  have hbefore : ∀ c ∈ before.toList, (c != separator) = true := fun c hc => by
    simpa using beq_eq_false_of_notMem h c hc
  rw [splitOnce?, String.toList_append, String.toList_append, String.toList_singleton,
    List.singleton_append, List.span_eq_takeWhile_dropWhile, List.takeWhile_append_of_pos hbefore,
    List.dropWhile_append_of_pos hbefore, List.dropWhile_cons_of_neg (by simp)]
  simp

/-- What follows a beginning is what the text has behind it. -/
theorem after?_eq_some_iff {start s rest : String} :
    after? start s = some rest ↔ s = start ++ rest := by
  unfold after?
  constructor
  · intro h
    obtain ⟨hstart, hrest⟩ := Option.ite_none_right_eq_some.mp h
    cases hrest
    obtain ⟨tail, htail⟩ := List.isPrefixOf_iff_prefix.mp hstart
    exact String.toList_inj.mp (by simp [← htail])
  · rintro rfl
    simp

end PlayServer.Text
