import Mathlib.Algebra.Order.Ring.Nat
import Mathlib.Data.List.Forall2
import Mathlib.Data.List.ReduceOption
import PlayServer.Proofs.Wire.Cursor

/-!
# Bodies that are written and read

A body is read in the kinds of its fields, one after the other. Over what was written, each read
gives its field back, a short text as much of it as fits, and passes exactly its bytes, so that the
next read begins where the next field does: `field_encode`, and from it by induction on the fields
`readEach_encodeAll`.

Over any other bytes nothing is lost either. A read takes the next bytes if there are as many as it
wants, and else leaves everything as it is (`read_between`); so what has been taken and what is left
are the body at every time: `readEach_read`.
-/

namespace PlayServer

/-- The kind of a field: what must be known to read it. -/
inductive FieldKind where
  | u8
  | u16
  | u32
  | u64
  | shortText
  | raw (length : Nat)
  deriving DecidableEq, Repr

namespace Field

/-- The kind that a field is of. -/
def kind : Field → FieldKind
  | u8 _ => .u8
  | u16 _ => .u16
  | u32 _ => .u32
  | u64 _ => .u64
  | shortText _ => .shortText
  | raw value => .raw value.length

/-- What a field that was written should be read as: itself, but for the end of a text that is too
long. -/
inductive ReadsAs : Field → Field → Prop where
  | u8 (value : UInt8) : ReadsAs (u8 value) (u8 value)
  | u16 (value : UInt16) : ReadsAs (u16 value) (u16 value)
  | u32 (value : UInt32) : ReadsAs (u32 value) (u32 value)
  | u64 (value : UInt64) : ReadsAs (u64 value) (u64 value)
  | shortText (value front : String) (longest : Text.IsLongestPrefix 255 value front) :
    ReadsAs (shortText value) (shortText front)
  | raw (value : Bytes) : ReadsAs (raw value) (raw value)

end Field

namespace Cursor

/-- Reads a field of a kind. A text goes by a name in case it cannot be read. -/
def field (name : String) : FieldKind → Cursor → Option Field × Cursor
  | .u8, c => let (value, c) := c.u8; (value.map .u8, c)
  | .u16, c => let (value, c) := c.u16; (value.map .u16, c)
  | .u32, c => let (value, c) := c.u32; (value.map .u32, c)
  | .u64, c => let (value, c) := c.u64; (value.map .u64, c)
  | .shortText, c => let (text, c) := c.shortText name; (text.toOption.map .shortText, c)
  | .raw length, c => let (bs, c) := c.read length; (bs.map .raw, c)

/-- Reads one thing after the other. -/
def readEach {κ α : Type} (readOne : κ → Cursor → Option α × Cursor) :
    List κ → Cursor → List (Option α) × Cursor
  | [], c => ([], c)
  | wanted :: rest, c =>
    let (result, c) := readOne wanted c
    let (results, c) := readEach readOne rest c
    (result :: results, c)

/-- A field that was written is read. -/
theorem field_encode (name : String) (passed : Bytes) (f : Field) (left : Bytes) :
    ∃ value, f.ReadsAs value ∧ (between passed (f.encode ++ left)).field name f.kind =
      (some value, between (passed ++ f.encode) left) := by
  cases f with
  | u8 value =>
    refine ⟨_, .u8 value, ?_⟩
    rw [Field.encode_u8, List.singleton_append, Field.kind, field, u8_cons]
    rfl
  | u16 value =>
    refine ⟨_, .u16 value, ?_⟩
    rw [Field.encode, Field.kind, field, u16_encode]
    rfl
  | u32 value =>
    refine ⟨_, .u32 value, ?_⟩
    rw [Field.encode, Field.kind, field, u32_encode]
    rfl
  | u64 value =>
    refine ⟨_, .u64 value, ?_⟩
    rw [Field.encode, Field.kind, field, u64_encode]
    rfl
  | shortText value =>
    refine ⟨_, .shortText value _ (Text.isLongestPrefix_clipped maxShortText value), ?_⟩
    rw [Field.encode, Field.kind, field, shortText_encodeShortText]
    rfl
  | raw value =>
    refine ⟨_, .raw value, ?_⟩
    rw [Field.encode, Field.kind, field, read_append]
    rfl

/-- Fields that were written are read. -/
theorem readEach_encodeAll (name : String) (passed : Bytes) (fields : List Field) (left : Bytes) :
    ∃ values, List.Forall₂ Field.ReadsAs fields values ∧
      readEach (field name) (fields.map Field.kind)
          (between passed (Field.encodeAll fields ++ left)) =
        (values.map some, between (passed ++ Field.encodeAll fields) left) := by
  induction fields generalizing passed with
  | nil => exact ⟨[], .nil, by simp [readEach, Field.encodeAll]⟩
  | cons f rest ih =>
    obtain ⟨value, hvalue, hfirst⟩ := field_encode name passed f (Field.encodeAll rest ++ left)
    obtain ⟨values, hvalues, hrest⟩ := ih (passed ++ f.encode)
    refine ⟨value :: values, .cons hvalue hvalues, ?_⟩
    rw [Field.encodeAll_cons, List.append_assoc, List.map_cons, readEach, hfirst]
    dsimp only
    rw [hrest, List.map_cons, List.append_assoc]

/-- A read takes as much as it wants if as much is left, and else nothing. -/
theorem read_between (passed left : Bytes) (n : Nat) :
    (between passed left).read n =
      if n ≤ left.length then (some (left.take n), between (passed ++ left.take n) (left.drop n))
      else (none, between passed left) := by
  split
  · next room =>
    have hread := read_append passed (left.take n) (left.drop n)
    rwa [List.take_append_drop, List.length_take_of_le room] at hread
  · next short => exact read_of_lt passed (Nat.lt_of_not_le short)

/-- What has been taken by some reads is behind the cursor, and the others have moved nothing. -/
theorem readEach_read (passed left : Bytes) (sizes : List Nat) :
    ∃ taken left', left = taken.reduceOption.flatten ++ left' ∧
      readEach read sizes (between passed left) =
        (taken, between (passed ++ taken.reduceOption.flatten) left') := by
  induction sizes generalizing passed left with
  | nil => exact ⟨[], left, rfl, by simp [readEach]⟩
  | cons n rest ih =>
    rw [readEach, read_between]
    by_cases room : n ≤ left.length
    · obtain ⟨taken, left', hleft, hrest⟩ := ih (passed ++ left.take n) (left.drop n)
      refine ⟨some (left.take n) :: taken, left', ?_, ?_⟩
      · rw [List.reduceOption_cons_of_some, List.flatten_cons, List.append_assoc, ← hleft,
          List.take_append_drop]
      · rw [if_pos room]
        dsimp only
        rw [hrest, List.reduceOption_cons_of_some, List.flatten_cons, List.append_assoc]
    · obtain ⟨taken, left', hleft, hrest⟩ := ih passed left
      refine ⟨none :: taken, left', hleft, ?_⟩
      rw [if_neg room]
      dsimp only
      rw [hrest, List.reduceOption_cons_of_none]

/-- The read with a position and a size of 64 bits, which takes nothing if their sum has more. -/
def readWord (n : UInt64) (c : Cursor) : Option Bytes × Cursor :=
  let position := UInt64.ofNat c.position
  let stop? := if position.toNat + n.toNat < UInt64.size then some (position + n) else none
  match stop? with
  | none => (none, c)
  | some stop =>
    if c.data.length < stop.toNat then (none, c)
    else (some ((c.data.take stop.toNat).drop c.position), { c with position := stop.toNat })

/-- A size for which the sum would have more than 64 bits is larger than what is left, so that it
makes no difference that the sum is checked. -/
theorem readWord_eq {c : Cursor} (within : c.position ≤ c.data.length)
    (small : c.data.length < UInt64.size) (n : UInt64) : c.readWord n = c.read n.toNat := by
  have hposition : (UInt64.ofNat c.position).toNat = c.position :=
    UInt64.toNat_ofNat_of_lt' (Nat.lt_of_le_of_lt within small)
  unfold readWord read
  dsimp only
  rw [hposition]
  by_cases hsum : c.position + n.toNat < UInt64.size
  · -- The sum does not wrap around, so it is where the read stops.
    have hstop : (UInt64.ofNat c.position + n).toNat = c.position + n.toNat := by
      rw [UInt64.toNat_add, hposition]
      exact Nat.mod_eq_of_lt hsum
    rw [if_pos hsum]
    dsimp only
    rw [hstop]
    by_cases hroom : c.position + n.toNat ≤ c.data.length
    · rw [if_neg (Nat.not_lt.mpr hroom), if_pos hroom, remaining, List.drop_take,
        Nat.add_sub_cancel_left]
    · rw [if_pos (Nat.lt_of_not_le hroom), if_neg hroom]
  · rw [if_neg hsum, if_neg (by omega)]

/-- What is read of a body that was written are its fields, with as much of each text as fits, and
then the body ends. Whatever a body is and whatever is asked of it, the position lies within it, the
next read takes something exactly if enough is left and else moves nothing, and nothing of the body
is lost or read twice. A position of 64 bits is enough for a body whose length has no more. -/
theorem readEach_lossless :
    (∀ (name : String) (fields : List Field), ∃ values,
      List.Forall₂ Field.ReadsAs fields values ∧
      readEach (field name) (fields.map Field.kind) ⟨Field.encodeAll fields, 0⟩ =
        (values.map some, ⟨Field.encodeAll fields, (Field.encodeAll fields).length⟩)) ∧
    ∀ (data : Bytes) (sizes : List Nat), ∃ taken c, readEach read sizes ⟨data, 0⟩ = (taken, c) ∧
      c.data = data ∧ c.position ≤ data.length ∧
      taken.reduceOption.flatten ++ c.remaining = data ∧
      (∀ n, (c.read n).1.isSome = true ↔ n ≤ c.remaining.length) ∧
      (∀ n, (c.read n).1 = none → (c.read n).2 = c) ∧
      (data.length < 2 ^ 64 → ∀ n : UInt64, c.readWord n = c.read n.toNat) := by
  constructor
  · intro name fields
    obtain ⟨values, hvalues, hread⟩ := readEach_encodeAll name [] fields []
    rw [List.append_nil, List.nil_append] at hread
    refine ⟨values, hvalues, ?_⟩
    rw [mk_zero, hread, between, List.append_nil]
  · intro data sizes
    obtain ⟨taken, left, hdata, hread⟩ := readEach_read [] data sizes
    rw [List.nil_append] at hread
    have hwithin : (between taken.reduceOption.flatten left).data = data := hdata.symm
    have hposition : (between taken.reduceOption.flatten left).position ≤ data.length := by
      rw [hdata, List.length_append]
      exact Nat.le_add_right _ _
    refine ⟨taken, _, hread, hwithin, hposition, ?_, fun n => ?_, fun n => ?_, fun small n => ?_⟩
    · rw [remaining_between, hdata]
    · rw [read_between, remaining_between]
      by_cases room : n ≤ left.length <;> simp [room]
    · rw [read_between]
      split
      · exact fun hnone => by cases hnone
      · exact fun _ => rfl
    · exact readWord_eq (by rwa [hwithin]) (by rwa [hwithin]) n

end Cursor

end PlayServer
