import PlayServer.Proofs.Text.Numeral
import PlayServer.Text.Blank

/-!
# Texts with white space around them

To trim a text is to take away white space at both ends, `padded_trim`, until there is none, so that
what has no white space in it is found again wherever it is put: `toList_trim_of_padded`. A number
is read from a trimmed text exactly if the text is a numeral of it with white space around.
-/

namespace PlayServer.Text

/-- A text with white space around it, or with none. -/
inductive Padded (inner : List Char) : List Char → Prop where
  | mk (before after : List Char) (hbefore : ∀ c ∈ before, isBlank c = true)
    (hafter : ∀ c ∈ after, isBlank c = true) : Padded inner (before ++ (inner ++ after))

/-- What is taken away from a text is white space. -/
theorem padded_trim (s : String) : Padded (trim s).toList s.toList := by
  rw [trim, String.toList_ofList]
  generalize hleft : s.toList.dropWhile isBlank = left
  have hbefore : ∀ c ∈ s.toList.takeWhile isBlank, isBlank c = true :=
    fun c hc => List.all_eq_true.mp List.all_takeWhile c hc
  have hafter : ∀ c ∈ (left.reverse.takeWhile isBlank).reverse, isBlank c = true :=
    fun c hc => List.all_eq_true.mp List.all_takeWhile c (List.mem_reverse.mp hc)
  have hsplit : s.toList = s.toList.takeWhile isBlank ++
      ((left.reverse.dropWhile isBlank).reverse ++ (left.reverse.takeWhile isBlank).reverse) := by
    rw [← List.reverse_append, List.takeWhile_append_dropWhile, List.reverse_reverse, ← hleft,
      List.takeWhile_append_dropWhile]
  rw [hsplit]
  exact .mk _ _ hbefore hafter

/-- White space before something else is dropped, and no more. -/
theorem dropWhile_isBlank_append {before inner : List Char} (rest : List Char)
    (hbefore : ∀ c ∈ before, isBlank c = true) (plain : ∀ c ∈ inner, isBlank c = false)
    (hne : inner ≠ []) : (before ++ (inner ++ rest)).dropWhile isBlank = inner ++ rest := by
  obtain ⟨c, others, rfl⟩ := List.exists_cons_of_ne_nil hne
  rw [List.dropWhile_append_of_pos hbefore, List.cons_append, List.dropWhile_cons_of_neg]
  simpa using plain c List.mem_cons_self

/-- What has no white space in it is all that is left of a text around it. -/
theorem toList_trim_of_padded {s : String} {inner : List Char} (h : Padded inner s.toList)
    (plain : ∀ c ∈ inner, isBlank c = false) (hne : inner ≠ []) : (trim s).toList = inner := by
  rw [trim, String.toList_ofList]
  generalize s.toList = outer at h
  obtain ⟨before, after, hbefore, hafter⟩ := h
  have hbehind : ∀ c ∈ after.reverse, isBlank c = true := by simpa using hafter
  have hplain : ∀ c ∈ inner.reverse, isBlank c = false := by simpa using plain
  have hback := dropWhile_isBlank_append [] hbehind hplain (by simpa using hne)
  rw [dropWhile_isBlank_append after hbefore plain hne, List.reverse_append,
    ← List.append_nil inner.reverse, hback, List.append_nil, List.reverse_reverse]

/-- No character of a numeral is white space. -/
theorem Numeral.isBlank_eq_false {cs : List Char} {n : Nat} (h : Numeral cs n) :
    ∀ c ∈ cs, isBlank c = false := by
  have hdigit : ∀ code : Fin 58, 48 ≤ code.val → isBlank (Char.ofNat code) = false := by decide
  intro c hc
  rcases h.forall_mem c hc with rfl | hc
  · rfl
  · have hrange : 48 ≤ c.toNat ∧ c.toNat ≤ 57 := by
      simpa [Char.isDigit, UInt32.le_iff_toNat_le] using hc
    have hplain := hdigit ⟨c.toNat, by omega⟩ hrange.1
    rwa [Char.ofNat_toNat] at hplain

/-- A numeral is not empty. -/
theorem Numeral.ne_nil {cs : List Char} {n : Nat} (h : Numeral cs n) : cs ≠ [] := by
  cases h with
  | plain _ _ hdigits => exact hdigits.spec.1
  | plus _ _ _ => exact List.cons_ne_nil _ _

/-- A number is read from a trimmed text exactly if the text is a numeral of it with white space
around, or with none, and the number lies below the bound. -/
theorem unsigned?_trim_eq_some_iff {bound n : Nat} {s : String} :
    unsigned? bound (trim s) = some n ↔
      (∃ numeral, Numeral numeral n ∧ Padded numeral s.toList) ∧ n < bound := by
  rw [unsigned?_eq_some_iff]
  refine and_congr_left' ⟨fun h => ⟨_, h, padded_trim s⟩, ?_⟩
  rintro ⟨numeral, hnumeral, hpadded⟩
  rwa [toList_trim_of_padded hpadded hnumeral.isBlank_eq_false hnumeral.ne_nil]

end PlayServer.Text
