import Mathlib.Data.List.Basic
import Mathlib.Data.UInt
import Mathlib.Tactic.Common

/-! # Go byte slices and the FlatBuffers table reader

A Go slice sees the first `len` bytes of a backing array that may be longer. Indexing and the
lower bound of `b[i:]` are checked against the length, the upper bound of `b[i:j]` against the
capacity. An operation that panics gives `none`.

`Table` is the reader of `github.com/google/flatbuffers/go`: little-endian integers at offsets
computed in wrapping 32-bit arithmetic, no validation.

Nothing here refers to a particular message format. -/

namespace Flatbuffers

abbrev Bytes := List UInt8

/-- A Go `[]byte` that is not nil: `array` is the backing array from the slice's first element to
its capacity. -/
structure Slice where
  array : Bytes
  len : Nat
  len_le : len ≤ array.length
deriving DecidableEq

namespace Slice

/-- The bytes a slice sees. -/
def bytes (s : Slice) : Bytes := s.array.take s.len

/-- A slice without spare capacity. -/
def ofBytes (b : Bytes) : Slice := ⟨b, b.length, Nat.le_refl _⟩

/-- `s[i]` -/
def index (s : Slice) (i : Nat) : Option UInt8 := if i < s.len then s.array[i]? else none

/-- `s[i:]` -/
def drop (s : Slice) (i : Nat) : Option Slice :=
  if i ≤ s.len then
    some ⟨s.array.drop i, s.len - i, by
      rw [List.length_drop]; exact Nat.sub_le_sub_right s.len_le i⟩
  else none

/-- `s[i:j]`, whose upper bound is the capacity. -/
def range (s : Slice) (i j : Nat) : Option Slice :=
  if h : i ≤ j ∧ j ≤ s.array.length then
    some ⟨s.array.drop i, j - i, by
      rw [List.length_drop]; exact Nat.sub_le_sub_right h.2 i⟩
  else none

end Slice

/-- The little-endian integer of four bytes. -/
def le32 (b₀ b₁ b₂ b₃ : UInt8) : UInt32 :=
  b₀.toUInt32 ||| (b₁.toUInt32 <<< 8) ||| (b₂.toUInt32 <<< 16) ||| (b₃.toUInt32 <<< 24)

/-- The little-endian integer of two bytes. -/
def le16 (b₀ b₁ : UInt8) : UInt16 := b₀.toUInt16 ||| (b₁.toUInt16 <<< 8)

/-- `GetUint32`, also `GetUOffsetT` and the bits of `GetSOffsetT`. -/
def getUint32 (buf : Slice) : Option UInt32 := do
  let b₃ ← buf.index 3
  let b₀ ← buf.index 0
  let b₁ ← buf.index 1
  let b₂ ← buf.index 2
  pure (le32 b₀ b₁ b₂ b₃)

/-- `GetUint16`, also `GetVOffsetT`. -/
def getUint16 (buf : Slice) : Option UInt16 := do
  let b₁ ← buf.index 1
  let b₀ ← buf.index 0
  pure (le16 b₀ b₁)

/-- `GetByte` -/
def getByte (buf : Slice) : Option UInt8 := buf.index 0

/-- A table of a FlatBuffers message: the whole buffer and the position of the table in it. -/
structure Table where
  bytes : Slice
  pos : UInt32
deriving DecidableEq

namespace Table
variable (t : Table)

def getUint32 (off : UInt32) : Option UInt32 := do Flatbuffers.getUint32 (← t.bytes.drop off.toNat)
def getUint16 (off : UInt32) : Option UInt16 := do Flatbuffers.getUint16 (← t.bytes.drop off.toNat)
def getByte (off : UInt32) : Option UInt8 := do Flatbuffers.getByte (← t.bytes.drop off.toNat)

/-- `GetBool`: exactly the byte `1` is true. -/
def getBool (off : UInt32) : Option Bool := do pure ((← t.getByte off) == 1)

/-- `Offset`: the entry of a field in the table's vtable, `0` when the vtable is too short. The
subtraction of signed 32-bit offsets is the wrapping subtraction of their bits. -/
def offset (vtableOffset : UInt16) : Option UInt16 := do
  let vtable := t.pos - (← t.getUint32 t.pos)
  if vtableOffset < (← t.getUint16 vtable) then t.getUint16 (vtable + vtableOffset.toUInt32)
  else pure 0

/-- `ByteVector` -/
def byteVector (off : UInt32) : Option Slice := do
  let off := off + (← t.getUint32 off)
  let start := off + 4
  let length ← t.getUint32 off
  t.bytes.range start.toNat (start + length).toNat

/-- `Union` -/
def union (off : UInt32) : Option Table := do
  let off := off + t.pos
  pure ⟨t.bytes, off + (← t.getUint32 off)⟩

/-- A generated accessor of the field at `slot`: `read` at the field's position if the field is
present, else `default`. -/
def field (slot : UInt16) (read : UInt32 → Option α) (default : α) : Option α := do
  let o := (← t.offset slot).toUInt32
  if o ≠ 0 then read (o + t.pos) else pure default

/-- A generated accessor of a byte vector: nil when the field is absent. -/
def bytesField (slot : UInt16) : Option (Option Slice) :=
  t.field slot (fun off => (t.byteVector off).map some) none

end Table

/-- A generated `GetRootAs…` with offset `0`. -/
def getRoot (buf : Slice) : Option Table := do
  pure ⟨buf, (← getUint32 (← buf.drop 0)) + 0⟩

/-! ## Which reads are in range -/

/-- The `n` bytes at `off` lie inside the slice. -/
def InRange (buf : Slice) (off : UInt32) (n : Nat) : Prop := off.toNat + n ≤ buf.len

instance (buf : Slice) (off : UInt32) (n : Nat) : Decidable (InRange buf off n) :=
  inferInstanceAs (Decidable (_ ≤ _))

/-- The 32-bit integer at `off`, reading `0` past the end. -/
def u32At (buf : Slice) (off : UInt32) : UInt32 :=
  le32 (buf.array.getD off.toNat 0) (buf.array.getD (off.toNat + 1) 0)
    (buf.array.getD (off.toNat + 2) 0) (buf.array.getD (off.toNat + 3) 0)

/-- The 16-bit integer at `off`, reading `0` past the end. -/
def u16At (buf : Slice) (off : UInt32) : UInt16 :=
  le16 (buf.array.getD off.toNat 0) (buf.array.getD (off.toNat + 1) 0)

/-- The byte at `off`, reading `0` past the end. -/
def byteAt (buf : Slice) (off : UInt32) : UInt8 := buf.array.getD off.toNat 0

theorem Slice.index_drop {s s' : Slice} {i j : Nat} (h : s.drop i = some s') :
    s'.index j = s.index (i + j) := by
  unfold Slice.drop at h
  split at h
  · next hi =>
    cases h
    unfold Slice.index
    have : j < s.len - i ↔ i + j < s.len := by omega
    simp [this]
  · cases h

theorem Slice.lt_of_drop_eq_none {s : Slice} {i : Nat} (h : s.drop i = none) : s.len < i := by
  unfold Slice.drop at h
  split at h
  · cases h
  · omega

theorem Slice.index_of_lt {s : Slice} {i : Nat} (h : i < s.len) :
    s.index i = some (s.array.getD i 0) := by
  have : i < s.array.length := Nat.lt_of_lt_of_le h s.len_le
  simp [Slice.index, h, this]

theorem Slice.index_of_le {s : Slice} {i : Nat} (h : s.len ≤ i) : s.index i = none :=
  if_neg (Nat.not_lt.mpr h)

/-- `s` is `buf[i:j]` for a `j` that is bounded by the length of `buf`, not only by its capacity. -/
def Slice.Within (s buf : Slice) : Prop := ∃ i j, j ≤ buf.len ∧ buf.range i j = some s

theorem Slice.range_eq_some {buf s : Slice} {i j : Nat} (h : buf.range i j = some s) :
    (i ≤ j ∧ j ≤ buf.array.length) ∧ s.array = buf.array.drop i ∧ s.len = j - i := by
  unfold Slice.range at h
  split at h
  · next hij => cases h; exact ⟨hij, rfl, rfl⟩
  · cases h

/-- A part of a slice has its place: no other bounds give it. -/
theorem Slice.range_inj {buf s : Slice} {i j i' j' : Nat} (h : buf.range i j = some s)
    (h' : buf.range i' j' = some s) : i = i' ∧ j = j' := by
  obtain ⟨hij, harray, hlen⟩ := Slice.range_eq_some h
  obtain ⟨hij', harray', hlen'⟩ := Slice.range_eq_some h'
  have hlength := congrArg List.length (harray.symm.trans harray')
  rw [List.length_drop, List.length_drop] at hlength
  omega

theorem Slice.within_iff {buf s : Slice} {i j : Nat} (h : buf.range i j = some s) :
    s.Within buf ↔ j ≤ buf.len := by
  constructor
  · rintro ⟨i', j', hj', h'⟩
    obtain ⟨-, rfl⟩ := Slice.range_inj h h'
    exact hj'
  · exact fun hj => ⟨i, j, hj, h⟩

theorem Slice.Within.bytes_isInfix {buf s : Slice} (h : s.Within buf) : s.bytes <:+: buf.bytes := by
  obtain ⟨i, j, hj, h⟩ := h
  obtain ⟨-, harray, hlen⟩ := Slice.range_eq_some h
  unfold Slice.bytes
  rw [harray, hlen, ← List.drop_take]
  exact (List.drop_suffix i _).isInfix.trans (List.take_prefix_take_left hj).isInfix

namespace Table
variable {t : Table} {off : UInt32} {slot : UInt16}

theorem getUint32_eq :
    t.getUint32 off = if InRange t.bytes off 4 then some (u32At t.bytes off) else none := by
  unfold Table.getUint32
  cases hd : t.bytes.drop off.toNat with
  | none =>
    have hlt := Slice.lt_of_drop_eq_none hd
    rw [if_neg fun h => by unfold InRange at h; omega]; rfl
  | some s =>
    simp only [Option.bind_eq_bind, Option.bind_some, Flatbuffers.getUint32, Slice.index_drop hd]
    split <;> rename_i h <;> unfold InRange at h
    · rw [Slice.index_of_lt (by omega), Slice.index_of_lt (by omega),
        Slice.index_of_lt (by omega), Slice.index_of_lt (by omega)]; rfl
    · rw [Slice.index_of_le (by omega)]; rfl

theorem getUint16_eq :
    t.getUint16 off = if InRange t.bytes off 2 then some (u16At t.bytes off) else none := by
  unfold Table.getUint16
  cases hd : t.bytes.drop off.toNat with
  | none =>
    have hlt := Slice.lt_of_drop_eq_none hd
    rw [if_neg fun h => by unfold InRange at h; omega]; rfl
  | some s =>
    simp only [Option.bind_eq_bind, Option.bind_some, Flatbuffers.getUint16, Slice.index_drop hd]
    split <;> rename_i h <;> unfold InRange at h
    · rw [Slice.index_of_lt (by omega), Slice.index_of_lt (by omega)]; rfl
    · rw [Slice.index_of_le (by omega)]; rfl

theorem getByte_eq :
    t.getByte off = if InRange t.bytes off 1 then some (byteAt t.bytes off) else none := by
  unfold Table.getByte
  cases hd : t.bytes.drop off.toNat with
  | none =>
    have hlt := Slice.lt_of_drop_eq_none hd
    rw [if_neg fun h => by unfold InRange at h; omega]; rfl
  | some s =>
    simp only [Option.bind_eq_bind, Option.bind_some, Flatbuffers.getByte, Slice.index_drop hd]
    split <;> rename_i h <;> unfold InRange at h
    · rw [Slice.index_of_lt (by omega)]; rfl
    · rw [Slice.index_of_le (by omega)]

/-! ## Which accessors complete -/

/-- Where the vtable of the table at `pos` starts. -/
def vtable (t : Table) : UInt32 := t.pos - u32At t.bytes t.pos

/-- The position of a field relative to its table; `0` when the field is absent. -/
def fieldOffset (t : Table) (slot : UInt16) : UInt32 :=
  if slot < u16At t.bytes t.vtable then (u16At t.bytes (t.vtable + slot.toUInt32)).toUInt32 else 0

/-- Looking a field up stays in range: the reference to the vtable, the size of the vtable and,
if the vtable is long enough, the entry of the field. -/
def SlotInRange (t : Table) (slot : UInt16) : Prop :=
  InRange t.bytes t.pos 4 ∧ InRange t.bytes t.vtable 2 ∧
    (slot < u16At t.bytes t.vtable → InRange t.bytes (t.vtable + slot.toUInt32) 2)

/-- A field is looked up in range and, if present, `ok` holds of its position. -/
def FieldInRange (t : Table) (slot : UInt16) (ok : UInt32 → Prop) : Prop :=
  t.SlotInRange slot ∧ (t.fieldOffset slot ≠ 0 → ok (t.fieldOffset slot + t.pos))

/-- A byte vector at `off` stays in range: its reference, its length and its bytes, whose end is
bounded by the capacity. -/
def VectorInRange (t : Table) (off : UInt32) : Prop :=
  let vec := off + u32At t.bytes off
  InRange t.bytes off 4 ∧ InRange t.bytes vec 4 ∧
    (vec + 4).toNat ≤ (vec + 4 + u32At t.bytes vec).toNat ∧
    (vec + 4 + u32At t.bytes vec).toNat ≤ t.bytes.array.length

instance : Decidable (t.SlotInRange slot) := inferInstanceAs (Decidable (_ ∧ _))
instance {ok : UInt32 → Prop} [DecidablePred ok] : Decidable (t.FieldInRange slot ok) :=
  inferInstanceAs (Decidable (_ ∧ _))
instance : Decidable (t.VectorInRange off) := inferInstanceAs (Decidable (_ ∧ _))

theorem offset_eq : t.offset slot = if InRange t.bytes t.pos 4 ∧ InRange t.bytes t.vtable 2 then
    (if slot < u16At t.bytes t.vtable then t.getUint16 (t.vtable + slot.toUInt32) else some 0)
    else none := by
  unfold offset
  rw [getUint32_eq]
  by_cases h₁ : InRange t.bytes t.pos 4
  · simp only [Option.bind_eq_bind, h₁, true_and]
    change (t.getUint16 t.vtable).bind _ = _
    rw [getUint16_eq]
    by_cases h₂ : InRange t.bytes t.vtable 2
    · simp only [if_pos h₂, Option.bind_some]; rfl
    · simp only [if_neg h₂, Option.bind_none]
  · simp [h₁]

theorem offset_isSome : (t.offset slot).isSome ↔ t.SlotInRange slot := by
  rw [offset_eq, SlotInRange, ← and_assoc]
  by_cases h : InRange t.bytes t.pos 4 ∧ InRange t.bytes t.vtable 2
  · rw [if_pos h, getUint16_eq]
    by_cases hs : slot < u16At t.bytes t.vtable
    · rw [if_pos hs]; split <;> simp_all
    · rw [if_neg hs]; simp [h, hs]
  · rw [if_neg h]; simp [h]

theorem offset_of_slotInRange (h : t.SlotInRange slot) :
    (t.offset slot).map (·.toUInt32) = some (t.fieldOffset slot) := by
  obtain ⟨h₁, h₂, h₃⟩ := h
  rw [offset_eq, if_pos ⟨h₁, h₂⟩, fieldOffset]
  by_cases hs : slot < u16At t.bytes t.vtable
  · rw [if_pos hs, if_pos hs, getUint16_eq, if_pos (h₃ hs)]; rfl
  · rw [if_neg hs, if_neg hs]; rfl

theorem field_isSome {read : UInt32 → Option α} {dflt : α} :
    (t.field slot read dflt).isSome ↔ t.FieldInRange slot fun off => (read off).isSome := by
  unfold field FieldInRange
  by_cases h : t.SlotInRange slot
  · have ho := offset_of_slotInRange h
    cases hoff : t.offset slot with
    | none => simp [hoff] at ho
    | some o =>
      simp only [hoff, Option.map_some, Option.some.injEq] at ho
      simp only [Option.bind_eq_bind, Option.bind_some, ho, h, true_and]
      split <;> simp_all
  · have := mt offset_isSome.mp h
    simp_all

/-- The value of a field that is read in range: what `value` gives at its position if the field is
present, else `dflt`. -/
def fieldValue (t : Table) (slot : UInt16) (value : UInt32 → α) (dflt : α) : α :=
  if t.fieldOffset slot ≠ 0 then value (t.fieldOffset slot + t.pos) else dflt

theorem field_eq {read : UInt32 → Option α} {dflt : α} {p : UInt32 → Prop} [DecidablePred p]
    {v : UInt32 → α} (hread : ∀ off, read off = if p off then some (v off) else none) :
    t.field slot read dflt =
      if t.FieldInRange slot p then some (t.fieldValue slot v dflt) else none := by
  unfold field FieldInRange fieldValue
  by_cases h : t.SlotInRange slot
  · have ho := offset_of_slotInRange h
    cases hoff : t.offset slot with
    | none => simp [hoff] at ho
    | some o =>
      simp only [hoff, Option.map_some, Option.some.injEq] at ho
      simp only [Option.bind_eq_bind, Option.bind_some, ho, h, true_and]
      by_cases hz : t.fieldOffset slot = 0
      · simp [hz]
      · simp [hz, hread]
  · have hnone : t.offset slot = none := by
      have := mt offset_isSome.mp h
      simpa using this
    simp [hnone, h]

theorem byteVector_isSome : (t.byteVector off).isSome ↔ t.VectorInRange off := by
  simp only [byteVector, VectorInRange, getUint32_eq, Slice.range]
  by_cases h₁ : InRange t.bytes off 4
  · simp only [if_pos h₁, Option.bind_eq_bind, Option.bind_some]
    by_cases h₂ : InRange t.bytes (off + u32At t.bytes off) 4
    · simp only [h₁, h₂, true_and]
      split <;> simp_all
    · simp [h₂]
  · simp [h₁]

theorem bytesField_isSome :
    (t.bytesField slot).isSome ↔ t.FieldInRange slot t.VectorInRange := by
  rw [bytesField, field_isSome]
  simp only [Option.isSome_map, byteVector_isSome]

/-- Where the byte vector referred to at `off` ends. -/
def vectorEnd (t : Table) (off : UInt32) : Nat :=
  let vec := off + u32At t.bytes off
  (vec + 4 + u32At t.bytes vec).toNat

theorem byteVector_within {s : Slice} (h : t.byteVector off = some s) :
    s.Within t.bytes ↔ t.vectorEnd off ≤ t.bytes.len := by
  simp only [byteVector, getUint32_eq, Option.bind_eq_bind, Option.bind_eq_some_iff,
    Option.ite_none_right_eq_some, Option.some.injEq] at h
  obtain ⟨_, ⟨-, rfl⟩, _, ⟨-, rfl⟩, h⟩ := h
  exact Slice.within_iff h

theorem bytesField_eq_some {v : Option Slice} (h : t.bytesField slot = some v) :
    v = none ∧ t.fieldOffset slot = 0 ∨
      ∃ s, v = some s ∧ t.fieldOffset slot ≠ 0 ∧
        t.byteVector (t.fieldOffset slot + t.pos) = some s := by
  have hslot := (bytesField_isSome.mp (Option.isSome_of_eq_some h)).1
  obtain ⟨o, hoff, ho⟩ := Option.map_eq_some_iff.mp (offset_of_slotInRange hslot)
  simp only [bytesField, field, hoff, Option.bind_eq_bind, Option.bind_some, ho] at h
  split at h
  · next hne =>
    obtain ⟨s, hs, rfl⟩ := Option.map_eq_some_iff.mp h
    exact .inr ⟨s, rfl, hne, hs⟩
  · next hzero =>
    cases h
    exact .inl ⟨rfl, not_not.mp hzero⟩

end Table

theorem getRoot_eq (buf : Slice) : getRoot buf =
    if InRange buf 0 4 then some ⟨buf, u32At buf 0⟩ else none := by
  have h := @Table.getUint32_eq ⟨buf, 0⟩ 0
  unfold Table.getUint32 at h
  unfold getRoot
  simp only [Option.bind_eq_bind, UInt32.toNat_zero] at h ⊢
  cases hd : buf.drop 0 with
  | none => rw [hd] at h; simp only [Option.bind_none] at h ⊢; split at h <;> simp_all
  | some s =>
    rw [hd] at h
    simp only [Option.bind_some] at h ⊢
    rw [h]
    split <;> simp

end Flatbuffers
