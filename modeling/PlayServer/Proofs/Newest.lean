import Mathlib.Data.List.DropRight

/-!
# The newest of a history

Of a history that grows at its end a window of bounded size shows the newest part. It does not
matter whether the window is taken of the whole history or moved along item by item, since what has
left the window never comes back: `rtake_append_rtake`.
-/

namespace PlayServer

variable {α : Type}

/-- The end of a list with more behind it is found in the end of the list. -/
theorem rtake_append_rtake (xs ys : List α) (n : Nat) :
    (xs.rtake n ++ ys).rtake n = (xs ++ ys).rtake n := by
  simp only [List.rtake_eq_reverse_take_reverse, List.reverse_append, List.reverse_reverse,
    List.take_append, List.take_take]
  simp

/-- The end of the end of a list. -/
theorem rtake_rtake (xs : List α) (m n : Nat) : (xs.rtake m).rtake n = xs.rtake (min n m) := by
  simp only [List.rtake_eq_reverse_take_reverse, List.reverse_reverse, List.take_take]

/-- A list that is no longer than that is its own end. -/
theorem rtake_of_length_le {xs : List α} {n : Nat} (few : xs.length ≤ n) : xs.rtake n = xs := by
  rw [List.rtake, Nat.sub_eq_zero_of_le few, List.drop_zero]

/-- The end of a list has its length, or the whole list if that is shorter. -/
theorem length_rtake (xs : List α) (n : Nat) : (xs.rtake n).length = min n xs.length := by
  rw [List.rtake, List.length_drop]
  omega

/-- The end of what the items are turned into. -/
theorem rtake_map {β : Type} (f : α → β) (xs : List α) (n : Nat) :
    (xs.map f).rtake n = (xs.rtake n).map f := by
  rw [List.rtake, List.rtake, List.length_map, List.map_drop]

end PlayServer
