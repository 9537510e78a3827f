import Spanreed.Lib.Flatbuffers
import Mathlib.Data.List.Enum

/-! # The FlatBuffers format

What a finished FlatBuffer is, independent of who wrote it and of how it is laid out: the reference
to the root table at its start, a table with the reference to its vtable, and for each field either
an empty entry of the vtable or the place of the field. The table reader finds in such a buffer what
it holds (`TableAt.field_present`, `TableAt.field_absent`).

Positions are natural numbers here; a buffer is shorter than `2 ^ 31` bytes.

Nothing here refers to a particular message format. -/

namespace Flatbuffers

/-- The little-endian 32-bit integer at a position. -/
def Bytes.uint32 (buf : Bytes) (p : Nat) : UInt32 :=
  le32 (buf.getD p 0) (buf.getD (p + 1) 0) (buf.getD (p + 2) 0) (buf.getD (p + 3) 0)

/-- The little-endian 16-bit integer at a position. -/
def Bytes.uint16 (buf : Bytes) (p : Nat) : UInt16 := le16 (buf.getD p 0) (buf.getD (p + 1) 0)

/-- A field of a struct. -/
inductive Scalar
  | byte (b : UInt8)
  | uint32 (v : UInt32)
deriving DecidableEq

def Scalar.At (buf : Bytes) (p : Nat) : Scalar → Prop
  | .byte b => p < buf.length ∧ buf.getD p 0 = b
  | .uint32 v => p + 4 ≤ buf.length ∧ buf.uint32 p = v

instance (buf : Bytes) (p : Nat) : ∀ x : Scalar, Decidable (x.At buf p)
  | .byte _ | .uint32 _ => inferInstanceAs (Decidable (_ ∧ _))

/-- A field of a table without further tables. Of the structs of a vector, which have all the same
`size`, each is given by its fields and where in it they are. -/
inductive Leaf
  | byte (b : UInt8)
  | uint32 (v : UInt32)
  | bytes (b : Bytes)
  | structs (size : Nat) (items : List (List (Nat × Scalar)))
deriving DecidableEq

/-- The field is at position `p`; a vector is referred to from there. -/
def Leaf.At (buf : Bytes) (p : Nat) : Leaf → Prop
  | .byte b => p < buf.length ∧ buf.getD p 0 = b
  | .uint32 v => p + 4 ≤ buf.length ∧ buf.uint32 p = v
  | .bytes b =>
    let vec := p + (buf.uint32 p).toNat
    p + 4 ≤ buf.length ∧ vec + 4 ≤ buf.length ∧ (buf.uint32 vec).toNat = b.length ∧
      vec + 4 + b.length ≤ buf.length ∧ (buf.drop (vec + 4)).take b.length = b
  | .structs size items =>
    let vec := p + (buf.uint32 p).toNat
    p + 4 ≤ buf.length ∧ vec + 4 ≤ buf.length ∧ (buf.uint32 vec).toNat = items.length ∧
      ∀ item ∈ items.zipIdx, ∀ field ∈ item.1,
        field.2.At buf (vec + 4 + size * item.2 + field.1)

instance (buf : Bytes) (p : Nat) : ∀ l : Leaf, Decidable (l.At buf p)
  | .byte _ | .uint32 _ | .bytes _ => inferInstanceAs (Decidable (_ ∧ _))
  | .structs .. => inferInstanceAs (Decidable (_ ∧ _ ∧ _ ∧ ∀ _ ∈ _, ∀ _ ∈ _, _))

/-! A scalar field with its default need not be stored. -/

def IsByte (dflt b : UInt8) (o : Option Leaf) : Prop := o = some (.byte b) ∨ o = none ∧ b = dflt

def IsUint32 (dflt v : UInt32) (o : Option Leaf) : Prop :=
  o = some (.uint32 v) ∨ o = none ∧ v = dflt

def IsBool (dflt b : Bool) (o : Option Leaf) : Prop :=
  o = some (.byte (if b then 1 else 0)) ∨ o = none ∧ b = dflt

/-- The entry of field `i` in the vtable at `vt`; a vtable may be too short for it. -/
def vtableEntry (buf : Bytes) (vt i : Nat) : UInt16 :=
  if 4 + 2 * i < (buf.uint16 vt).toNat then buf.uint16 (vt + (4 + 2 * i)) else 0

/-- What an entry of the vtable means: the place of the field, or none. -/
def EntryAt {α : Type*} (At : Nat → α → Prop) (pos : Nat) (entry : UInt16) : Option α → Prop
  | none => entry = 0
  | some x => entry ≠ 0 ∧ At (pos + entry.toNat) x

instance {α : Type*} {At : Nat → α → Prop} [∀ p x, Decidable (At p x)] (pos : Nat)
    (entry : UInt16) : ∀ x : Option α, Decidable (EntryAt At pos entry x)
  | none => inferInstanceAs (Decidable (_ = _))
  | some _ => inferInstanceAs (Decidable (_ ∧ _))

/-- The vtable of the table at position `pos`. The reference to it is signed: it may be on either
side of the table. -/
def vtableOf (buf : Bytes) (pos : Nat) : Nat := (UInt32.ofNat pos - buf.uint32 pos).toNat

/-- The table at position `pos` has the given fields, in the order of the schema. -/
structure TableAt {α : Type*} (At : Nat → α → Prop) (buf : Bytes) (pos : Nat)
    (fields : List (Option α)) : Prop where
  short : buf.length < 2 ^ 31
  inside : pos + 4 ≤ buf.length
  vtable_inside : vtableOf buf pos + 4 ≤ buf.length
  entries_inside : vtableOf buf pos + (buf.uint16 (vtableOf buf pos)).toNat ≤ buf.length
  size_even : (buf.uint16 (vtableOf buf pos)).toNat % 2 = 0
  entries : ∀ f ∈ fields.zipIdx, EntryAt At pos (vtableEntry buf (vtableOf buf pos) f.2) f.1

instance {α : Type*} {At : Nat → α → Prop} [∀ p x, Decidable (At p x)] (buf : Bytes) (pos : Nat)
    (fields : List (Option α)) : Decidable (TableAt At buf pos fields) :=
  decidable_of_iff (buf.length < 2 ^ 31 ∧ pos + 4 ≤ buf.length ∧
      vtableOf buf pos + 4 ≤ buf.length ∧
      vtableOf buf pos + (buf.uint16 (vtableOf buf pos)).toNat ≤ buf.length ∧
      (buf.uint16 (vtableOf buf pos)).toNat % 2 = 0 ∧
      ∀ f ∈ fields.zipIdx, EntryAt At pos (vtableEntry buf (vtableOf buf pos) f.2) f.1)
    ⟨fun ⟨h₁, h₂, h₃, h₄, h₅, h₆⟩ => ⟨h₁, h₂, h₃, h₄, h₅, h₆⟩,
      fun h => ⟨h.1, h.2, h.3, h.4, h.5, h.6⟩⟩

/-- A field of a table: a leaf or a table of leaves. -/
inductive Cell
  | leaf (l : Leaf)
  | table (fields : List (Option Leaf))
deriving DecidableEq

def Cell.At (buf : Bytes) (p : Nat) : Cell → Prop
  | .leaf l => l.At buf p
  | .table fields => p + 4 ≤ buf.length ∧
    TableAt (Leaf.At buf) buf (p + (buf.uint32 p).toNat) fields

instance (buf : Bytes) (p : Nat) : ∀ c : Cell, Decidable (c.At buf p)
  | .leaf l => inferInstanceAs (Decidable (l.At buf p))
  | .table _ => inferInstanceAs (Decidable (_ ∧ _))

/-- A finished buffer whose root table has the given fields. -/
def Finished (buf : Bytes) (fields : List (Option Cell)) : Prop :=
  4 ≤ buf.length ∧ TableAt (Cell.At buf) buf (buf.uint32 0).toNat fields

instance (buf : Bytes) (fields : List (Option Cell)) : Decidable (Finished buf fields) :=
  inferInstanceAs (Decidable (_ ∧ _))

/-! ## Reading -/

section
variable {s : Slice} {buf : Bytes} {p : Nat}

theorem Slice.len_of_bytes (hs : s.bytes = buf) : s.len = buf.length := by
  rw [← hs, Slice.bytes, List.length_take, Nat.min_eq_left s.len_le]

theorem Slice.getD_of_bytes (hs : s.bytes = buf) (hp : p < buf.length) :
    s.array.getD p 0 = buf.getD p 0 := by
  have hlen := Slice.len_of_bytes hs
  rw [← hs, Slice.bytes, List.getD_eq_getElem?_getD, List.getD_eq_getElem?_getD,
    List.getElem?_take_of_lt (by omega)]

theorem toNat_ofNat (h : p < 2 ^ 31) : (UInt32.ofNat p).toNat = p := by
  rw [UInt32.toNat_ofNat']
  exact Nat.mod_eq_of_lt (by omega)

theorem u32At_of_bytes (hs : s.bytes = buf) (hshort : buf.length < 2 ^ 31)
    (hp : p + 4 ≤ buf.length) : u32At s (UInt32.ofNat p) = buf.uint32 p := by
  unfold u32At Bytes.uint32
  rw [toNat_ofNat (by omega), Slice.getD_of_bytes hs (by omega), Slice.getD_of_bytes hs (by omega),
    Slice.getD_of_bytes hs (by omega), Slice.getD_of_bytes hs (by omega)]

theorem u16At_of_bytes (hs : s.bytes = buf) (hshort : buf.length < 2 ^ 31)
    (hp : p + 2 ≤ buf.length) : u16At s (UInt32.ofNat p) = buf.uint16 p := by
  unfold u16At Bytes.uint16
  rw [toNat_ofNat (by omega), Slice.getD_of_bytes hs (by omega), Slice.getD_of_bytes hs (by omega)]

theorem inRange_of_bytes {n : Nat} (hs : s.bytes = buf) (hshort : buf.length < 2 ^ 31)
    (hp : p + n ≤ buf.length) : InRange s (UInt32.ofNat p) n := by
  unfold InRange
  rw [toNat_ofNat (by omega), Slice.len_of_bytes hs]
  exact hp

variable {t : Table} {off : UInt32}

theorem Table.getUint32_of_bytes (hs : t.bytes.bytes = buf) (hshort : buf.length < 2 ^ 31)
    (hp : p + 4 ≤ buf.length) : t.getUint32 (UInt32.ofNat p) = some (buf.uint32 p) := by
  rw [Table.getUint32_eq, if_pos (inRange_of_bytes hs hshort hp), u32At_of_bytes hs hshort hp]

theorem Table.getByte_of_bytes (hs : t.bytes.bytes = buf) (hshort : buf.length < 2 ^ 31)
    (hp : p < buf.length) : t.getByte (UInt32.ofNat p) = some (buf.getD p 0) := by
  rw [Table.getByte_eq, if_pos (inRange_of_bytes hs hshort hp), byteAt,
    toNat_ofNat (by omega), Slice.getD_of_bytes hs hp]

theorem ofNat_add_toNat (p : Nat) (x : UInt32) :
    UInt32.ofNat p + x = UInt32.ofNat (p + x.toNat) := by
  rw [UInt32.ofNat_add, UInt32.ofNat_toNat]

/-- A part of a slice inside the bytes it sees. -/
theorem Slice.range_of_bytes {i n : Nat} (hs : s.bytes = buf) (h : i + n ≤ buf.length) :
    ∃ v, s.range i (i + n) = some v ∧ v.bytes = (buf.drop i).take n := by
  subst hs
  rw [← Slice.len_of_bytes rfl] at h
  have hle := s.len_le
  refine ⟨⟨s.array.drop i, i + n - i, by rw [List.length_drop]; omega⟩, ?_, ?_⟩
  · rw [Slice.range, dif_pos (by omega)]
  · change (s.array.drop i).take (i + n - i) = _
    rw [Slice.bytes, List.drop_take, List.take_take, Nat.min_eq_left (by omega),
      Nat.add_sub_cancel_left]

/-- A vector is read as the bytes it has, whatever follows it. -/
theorem Table.byteVector_of_at {b : Bytes} (hs : t.bytes.bytes = buf)
    (hshort : buf.length < 2 ^ 31) (h : (Leaf.bytes b).At buf p) :
    ∃ v, t.byteVector (UInt32.ofNat p) = some v ∧ v.bytes = b := by
  obtain ⟨hp, hvec, hlen, hend, hb⟩ := h
  obtain ⟨v, hv, hvb⟩ := Slice.range_of_bytes hs hend
  refine ⟨v, ?_, hvb.trans hb⟩
  rw [Table.byteVector, Table.getUint32_of_bytes hs hshort hp]
  simp only [Option.bind_eq_bind, Option.bind_some, ofNat_add_toNat]
  rw [Table.getUint32_of_bytes hs hshort hvec, Option.bind_some, show UInt32.toNat 4 = 4 from rfl,
    hlen, toNat_ofNat (by omega), toNat_ofNat (by omega)]
  exact hv

/-- `VectorLen` -/
def Table.vectorLen (t : Table) (off : UInt32) : Option UInt32 := do
  t.getUint32 (off + (← t.getUint32 off))

/-- `Vector`: the position of the first item -/
def Table.vector (t : Table) (off : UInt32) : Option UInt32 := do
  pure (off + (← t.getUint32 off) + 4)

/-- A field of a struct is read at its place. -/
theorem Table.getUint32_of_at {v : UInt32} (hs : t.bytes.bytes = buf)
    (hshort : buf.length < 2 ^ 31) (h : (Scalar.uint32 v).At buf p) :
    t.getUint32 (UInt32.ofNat p) = some v := by
  rw [Table.getUint32_of_bytes hs hshort h.1, h.2]

theorem Table.getByte_of_at {b : UInt8} (hs : t.bytes.bytes = buf) (hshort : buf.length < 2 ^ 31)
    (h : (Scalar.byte b).At buf p) : t.getByte (UInt32.ofNat p) = some b := by
  rw [Table.getByte_of_bytes hs hshort h.1, h.2]

/-! ## Tables -/

namespace TableAt
variable {α : Type*} {At : Nat → α → Prop} {fields : List (Option α)} {pos i : Nat} {x : α}

/-- The position of field `i` in the vtable, as a generated accessor has it. -/
def slot (i : Nat) : UInt16 := UInt16.ofNat (4 + 2 * i)

/-- The table of a buffer that sees the bytes of a finished one. -/
def read (s : Slice) (pos : Nat) : Table := ⟨s, UInt32.ofNat pos⟩

theorem toNat_slot (hi : i < 1000) : (slot i).toNat = 4 + 2 * i := by
  rw [slot, UInt16.toNat_ofNat']
  exact Nat.mod_eq_of_lt (by omega)

/-- A field is looked up where the vtable says. -/
theorem entry (h : TableAt At buf pos fields) (hs : s.bytes = buf) (hi : i < 1000)
    {o : Option α} (ho : fields[i]? = some o) :
    ∃ e, (read s pos).offset (slot i) = some e ∧ EntryAt At pos e o := by
  obtain ⟨hshort, hinside, hvt, hsize, heven, hentries⟩ := h
  have hs' : (read s pos).bytes.bytes = buf := hs
  have hat := hentries (o, i) (List.mk_mem_zipIdx_iff_getElem?.mpr ho)
  have hpos : (read s pos).vtable = UInt32.ofNat (vtableOf buf pos) := by
    rw [Table.vtable, read, u32At_of_bytes hs hshort hinside, vtableOf, UInt32.ofNat_toNat]
  generalize vtableOf buf pos = vt at *
  refine ⟨vtableEntry buf vt i, ?_, hat⟩
  have hlt : slot i < buf.uint16 vt ↔ 4 + 2 * i < (buf.uint16 vt).toNat := by
    rw [UInt16.lt_iff_toNat_lt, toNat_slot hi]
  rw [Table.offset_eq, hpos, if_pos ⟨inRange_of_bytes hs' hshort hinside,
    inRange_of_bytes hs' hshort (by omega)⟩, u16At_of_bytes hs' hshort (by omega), vtableEntry]
  by_cases hin : 4 + 2 * i < (buf.uint16 vt).toNat
  · rw [if_pos (hlt.mpr hin), if_pos hin, ofNat_add_toNat, UInt16.toNat_toUInt32, toNat_slot hi,
      Table.getUint16_eq, if_pos (inRange_of_bytes hs' hshort (by omega)),
      u16At_of_bytes hs' hshort (by omega)]
  · rw [if_neg (mt hlt.mp hin), if_neg hin]

/-- A field that is there is read from its place ... -/
theorem field_present {β : Type} {get : UInt32 → Option β} {dflt : β}
    (h : TableAt At buf pos fields) (hs : s.bytes = buf) (hi : i < 1000)
    (hx : fields[i]? = some (some x)) :
    ∃ p, At p x ∧ (read s pos).field (slot i) get dflt = get (UInt32.ofNat p) := by
  obtain ⟨e, hoff, hne, hat⟩ := h.entry hs hi hx
  have hne' : e.toUInt32 ≠ 0 := fun h0 => hne (UInt16.toUInt32_inj.mp h0)
  have hplace : e.toUInt32 + (read s pos).pos = UInt32.ofNat (pos + e.toNat) := by
    rw [add_comm, read, ofNat_add_toNat, UInt16.toNat_toUInt32]
  exact ⟨pos + e.toNat, hat, by simp [Table.field, hoff, hne', hplace]⟩

/-- ... and one that is not has its default. -/
theorem field_absent {β : Type} {get : UInt32 → Option β} {dflt : β}
    (h : TableAt At buf pos fields) (hs : s.bytes = buf) (hi : i < 1000)
    (hx : fields[i]? = some none) : (read s pos).field (slot i) get dflt = some dflt := by
  obtain ⟨e, hoff, hzero⟩ := h.entry hs hi hx
  obtain rfl : e = 0 := hzero
  simp [Table.field, hoff]

section
variable {leaf : Leaf → α} {o : Option Leaf}

/-- A table whose fields at `i` are leaves: how each kind is read. -/
theorem uint32_field {dflt v : UInt32} (h : TableAt At buf pos fields) (hs : s.bytes = buf)
    (hi : i < 1000) (hleaf : ∀ p l, At p (leaf l) → l.At buf p)
    (ho : fields[i]? = some (o.map leaf)) (hv : IsUint32 dflt v o) :
    (read s pos).field (slot i) (read s pos).getUint32 dflt = some v := by
  rcases hv with rfl | ⟨rfl, rfl⟩
  · obtain ⟨p, hat, hget⟩ := h.field_present hs hi ho
    obtain ⟨hp, hv⟩ := hleaf p _ hat
    rw [hget, Table.getUint32_of_bytes hs h.short hp, hv]
  · exact h.field_absent hs hi ho

theorem byte_field {dflt b : UInt8} (h : TableAt At buf pos fields) (hs : s.bytes = buf)
    (hi : i < 1000) (hleaf : ∀ p l, At p (leaf l) → l.At buf p)
    (ho : fields[i]? = some (o.map leaf)) (hb : IsByte dflt b o) :
    (read s pos).field (slot i) (read s pos).getByte dflt = some b := by
  rcases hb with rfl | ⟨rfl, rfl⟩
  · obtain ⟨p, hat, hget⟩ := h.field_present hs hi ho
    obtain ⟨hp, hb⟩ := hleaf p _ hat
    rw [hget, Table.getByte_of_bytes hs h.short hp, hb]
  · exact h.field_absent hs hi ho

theorem bool_field {dflt b : Bool} (h : TableAt At buf pos fields) (hs : s.bytes = buf)
    (hi : i < 1000) (hleaf : ∀ p l, At p (leaf l) → l.At buf p)
    (ho : fields[i]? = some (o.map leaf)) (hb : IsBool dflt b o) :
    (read s pos).field (slot i) (read s pos).getBool dflt = some b := by
  rcases hb with rfl | ⟨rfl, rfl⟩
  · obtain ⟨p, hat, hget⟩ := h.field_present hs hi ho
    obtain ⟨hp, hb⟩ := hleaf p _ hat
    rw [hget, Table.getBool, Table.getByte_of_bytes hs h.short hp, hb]
    cases b <;> rfl
  · exact h.field_absent hs hi ho

theorem bytes_field {b : Option Bytes} (h : TableAt At buf pos fields) (hs : s.bytes = buf)
    (hi : i < 1000) (hleaf : ∀ p l, At p (leaf l) → l.At buf p)
    (ho : fields[i]? = some ((b.map Leaf.bytes).map leaf)) :
    ∃ v, (read s pos).bytesField (slot i) = some v ∧ v.map Slice.bytes = b := by
  cases b with
  | none => exact ⟨none, h.field_absent hs hi ho, rfl⟩
  | some b =>
    obtain ⟨p, hat, hget⟩ := h.field_present hs hi ho
    obtain ⟨v, hv, hvb⟩ := Table.byteVector_of_at (t := read s pos) hs h.short (hleaf p _ hat)
    refine ⟨some v, ?_, by rw [Option.map_some, hvb]⟩
    rw [Table.bytesField, hget, hv]
    rfl

/-- A vector of structs: how many they are, and where the fields of each are. -/
theorem structs_field {size : Nat} {items : List (List (Nat × Scalar))}
    (h : TableAt At buf pos fields) (hs : s.bytes = buf) (hi : i < 1000)
    (hleaf : ∀ p l, At p (leaf l) → l.At buf p)
    (ho : fields[i]? = some (some (leaf (.structs size items)))) :
    (∃ n, (read s pos).field (slot i) (read s pos).vectorLen 0 = some n ∧
      n.toNat = items.length) ∧
    ∃ vec, (∀ {β : Type} (f : UInt32 → β) dflt, (read s pos).field (slot i)
        (fun off => ((read s pos).vector off).map f) dflt = some (f (UInt32.ofNat vec))) ∧
      ∀ item ∈ items.zipIdx, ∀ field ∈ item.1,
        field.2.At buf (vec + size * item.2 + field.1) := by
  have hs' : (read s pos).bytes.bytes = buf := hs
  constructor
  · obtain ⟨p, hat, hget⟩ := h.field_present hs hi ho
    obtain ⟨hp, hvec, hlen, -⟩ := hleaf p _ hat
    refine ⟨_, ?_, hlen⟩
    rw [hget, Table.vectorLen, Table.getUint32_of_bytes hs' h.short hp, Option.bind_eq_bind,
      Option.bind_some, ofNat_add_toNat, Table.getUint32_of_bytes hs' h.short hvec]
  · obtain ⟨e, hoff, hne, hat⟩ := h.entry hs hi ho
    obtain ⟨hp, hvec, hlen, hitems⟩ := hleaf _ _ hat
    refine ⟨_, fun f dflt => ?_, hitems⟩
    have hne' : e.toUInt32 ≠ 0 := fun h0 => hne (UInt16.toUInt32_inj.mp h0)
    have hplace : e.toUInt32 + (read s pos).pos = UInt32.ofNat (pos + e.toNat) := by
      rw [add_comm, read, ofNat_add_toNat, UInt16.toNat_toUInt32]
    simp only [Table.field, hoff, Option.bind_eq_bind, Option.bind_some, ne_eq, hne',
      not_false_eq_true, if_true, hplace, Table.vector,
      Table.getUint32_of_bytes hs' h.short hp, ofNat_add_toNat, Option.pure_def, Option.map_some]
    rfl

end

/-- The place of a table that is referred to by a field. -/
theorem union_field {x : List (Option Leaf)} {fields : List (Option Cell)}
    (h : TableAt (Cell.At buf) buf pos fields) (hs : s.bytes = buf) (hi : i < 1000)
    (hx : fields[i]? = some (some (.table x))) :
    ∃ e pos', (read s pos).offset (slot i) = some e ∧ e.toUInt32 ≠ 0 ∧
      (read s pos).union e.toUInt32 = some (read s pos') ∧
      TableAt (Leaf.At buf) buf pos' x := by
  obtain ⟨e, hoff, hne, hp, hat⟩ := h.entry hs hi hx
  refine ⟨e, _, hoff, fun h0 => hne (UInt16.toUInt32_inj.mp h0), ?_, hat⟩
  have hplace : e.toUInt32 + (read s pos).pos = UInt32.ofNat (pos + e.toNat) := by
    rw [add_comm, read, ofNat_add_toNat, UInt16.toNat_toUInt32]
  rw [Table.union, hplace, Table.getUint32_of_bytes hs h.short hp]
  simp only [Option.bind_eq_bind, Option.bind_some, ofNat_add_toNat]
  rfl

end TableAt

theorem Finished.getRoot {fields : List (Option Cell)} (h : Finished buf fields)
    (hs : s.bytes = buf) : ∃ pos, getRoot s = some (TableAt.read s pos) ∧
      TableAt (Cell.At buf) buf pos fields := by
  have hshort := h.2.short
  refine ⟨_, ?_, h.2⟩
  have hin : InRange s 0 4 := inRange_of_bytes hs hshort (p := 0) h.1
  have hroot : u32At s 0 = buf.uint32 0 := u32At_of_bytes hs hshort (p := 0) h.1
  rw [getRoot_eq, if_pos hin, hroot, TableAt.read, UInt32.ofNat_toNat]

end
end Flatbuffers
