import Mathlib.Data.Nat.Notation

/-!
# Memory behind a pointer

What a pointer points to, as the bytes at the offsets from it on. How many of them belong to the buffer is not part of it: a
program that reads or writes past the end of a buffer is described by the same functions, and its accesses say so.
-/

/-- The bytes from a pointer on. -/
abbrev Mem := Nat → UInt8

namespace Mem

/-- The `len` bytes from offset `off` on. -/
def read (m : Mem) (off len : Nat) : List UInt8 := (List.range len).map fun i => m (off + i)

/-- The memory once `bs` is stored from offset `off` on. -/
def write (m : Mem) (off : Nat) (bs : List UInt8) : Mem := fun i =>
  if off ≤ i then (bs[i - off]?).getD (m i) else m i

/-- The 32-bit integer stored at offset `off`, least byte first. -/
def readU32 (m : Mem) (off : Nat) : UInt32 :=
  (m off).toUInt32 ||| (m (off + 1)).toUInt32 <<< 8 ||| (m (off + 2)).toUInt32 <<< 16 ||| (m (off + 3)).toUInt32 <<< 24

/-- The four bytes of a 32-bit integer, least byte first. -/
def bytesOfU32 (x : UInt32) : List UInt8 := [x.toUInt8, (x >>> 8).toUInt8, (x >>> 16).toUInt8, (x >>> 24).toUInt8]

/-- The memory once a 32-bit integer is stored at offset `off`. -/
def writeU32 (m : Mem) (off : Nat) (x : UInt32) : Mem := m.write off (bytesOfU32 x)

@[simp] theorem length_bytesOfU32 (x : UInt32) : (bytesOfU32 x).length = 4 := rfl

/-- The four bytes give the integer. -/
theorem bytesOfU32_injective {x y : UInt32} (h : bytesOfU32 x = bytesOfU32 y) : x = y := by
  have hx := x.toNat_lt
  have hy := y.toNat_lt
  simp only [bytesOfU32, List.cons.injEq, and_true, ← UInt8.toNat_inj, UInt32.toNat_toUInt8, UInt32.toNat_shiftRight,
    UInt32.toNat_ofNat, Nat.shiftRight_eq_div_pow, Nat.reduceMod, Nat.reducePow] at h
  apply UInt32.toNat_inj.1
  omega

@[simp] theorem length_read (m : Mem) (off len : Nat) : (m.read off len).length = len := by
  simp [read]

theorem getElem_read (m : Mem) (off len i : Nat) (h : i < (m.read off len).length) : (m.read off len)[i] = m (off + i) := by
  simp [read]

/-- The first bytes of a run. -/
theorem take_read (m : Mem) (off : Nat) {len k : Nat} (h : k ≤ len) : (m.read off len).take k = m.read off k := by
  simp [read, ← List.map_take, List.take_range, Nat.min_eq_left h]

/-- Memories that agree on a run of bytes read the same there. -/
theorem read_congr {m m' : Mem} {off off' len : Nat} (h : ∀ i < len, m (off + i) = m' (off' + i)) :
    m.read off len = m'.read off' len := by
  refine List.map_congr_left fun i hi => ?_
  exact h i (List.mem_range.1 hi)

/-- A run of bytes is read in two parts. -/
theorem read_add (m : Mem) (off a b : Nat) : m.read off (a + b) = m.read off a ++ m.read (off + a) b := by
  simp [read, List.range_add, Nat.add_assoc]

/-- What was stored is read. -/
theorem read_write (m : Mem) (off : Nat) (bs : List UInt8) : (m.write off bs).read off bs.length = bs := by
  refine List.ext_getElem (length_read _ _ _) fun i h _ => ?_
  rw [length_read] at h
  rw [getElem_read]
  simp [write, h]

theorem write_zero_of_lt (m : Mem) {bs : List UInt8} {i : Nat} (h : i < bs.length) : m.write 0 bs i = bs[i] := by
  simp [write, h]

theorem write_zero_of_le (m : Mem) {bs : List UInt8} {i : Nat} (h : bs.length ≤ i) : m.write 0 bs i = m i := by
  simp [write, h]

@[simp] theorem write_nil (m : Mem) (off : Nat) : m.write off [] = m := by
  funext i
  simp [write]

/-- A store is one of its first byte, and one of the others behind it. -/
theorem write_cons (m : Mem) (off : Nat) (b : UInt8) (bs : List UInt8) :
    m.write off (b :: bs) = (m.write off [b]).write (off + 1) bs := by
  funext i
  unfold write
  rcases Nat.lt_trichotomy i off with h | rfl | h
  · rw [if_neg (by omega), if_neg (by omega), if_neg (by omega)]
  · have hi : ¬i + 1 ≤ i := by omega
    simp [hi]
  · obtain ⟨k, rfl⟩ : ∃ k, i = off + 1 + k := ⟨i - (off + 1), by omega⟩
    have hk : off + 1 + k - off = k + 1 := by omega
    simp [hk, show off ≤ off + 1 + k by omega]

/-- Of two stores at the same place the last one counts, if it is no shorter. -/
theorem write_write_of_le (m : Mem) (off : Nat) {bs cs : List UInt8} (h : bs.length ≤ cs.length) :
    (m.write off bs).write off cs = m.write off cs := by
  funext i
  unfold write
  by_cases hi : off ≤ i
  · rw [if_pos hi, if_pos hi, if_pos hi]
    by_cases hc : i - off < cs.length
    · simp [hc]
    · have hb : bs.length ≤ i - off := by omega
      simp [hc, hb]
  · rw [if_neg hi, if_neg hi, if_neg hi]

/-- The last of two stores of the same length at the same place counts. -/
theorem write_write (m : Mem) (off : Nat) {bs cs : List UInt8} (h : bs.length = cs.length) :
    (m.write off bs).write off cs = m.write off cs := m.write_write_of_le off (Nat.le_of_eq h)

/-- Storing what is there changes nothing. -/
theorem write_self (m : Mem) (off : Nat) {b : UInt8} (h : m off = b) : m.write off [b] = m := by
  funext i
  unfold write
  by_cases hi : i = off
  · subst hi
    simp [h]
  · by_cases hle : off ≤ i
    · have hlt : [b].length ≤ i - off := by
        simp only [List.length_singleton]
        omega
      rw [if_pos hle, List.getElem?_eq_none hlt, Option.getD_none]
    · rw [if_neg hle]

end Mem
