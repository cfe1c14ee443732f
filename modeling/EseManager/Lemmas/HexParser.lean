import EseManager.DemoClient
import EseManager.Lib.Hex

/-!
# What hexchar_to_byte does

The loop takes two characters a time, and looks for the NUL only at the first of them. Over a string of even length it gives the byte
that each pair of characters makes (`hexPairs`); over one of odd length it steps over the NUL.
-/

namespace EseManager

/-! ## char_to_byte -/

/-- A digit gives its value. -/
theorem charToByte_digit {v : ℕ} {c : UInt8} (h : Hex.Digit v c) : (charToByte c).toNat = v := by
  have hlower : Hex.lowerDigits.map (fun c => (charToByte c).toNat) = List.range 16 := by decide
  have hupper : Hex.upperDigits.map (fun c => (charToByte c).toNat) = List.range 16 := by decide
  exact h.value hlower hupper

/-- The digits of a byte give the byte. -/
theorem hexPair_digits {b c d : UInt8} (hc : Hex.Digit (b.toNat / 16) c) (hd : Hex.Digit (b.toNat % 16) d) : hexPair c d = b := by
  have hlow : b.toNat % 16 < 2 ^ 4 := Nat.mod_lt _ (by decide)
  have hor : (b.toNat / 16) <<< 4 ||| b.toNat % 16 = b.toNat := by
    rw [← Nat.shiftLeft_add_eq_or_of_lt hlow, Nat.shiftLeft_eq]
    omega
  rw [hexPair, charToByte_digit hc, charToByte_digit hd, hor]
  exact UInt8.ofNat_toNat

/-! ## The loop -/

/-- The bytes that are made of a string, one of every two characters. -/
def hexPairs : List UInt8 → List UInt8
  | [] => []
  | [_] => []
  | c :: d :: s => hexPair c d :: hexPairs s

/-- The accesses of the loop until it finds the NUL, from position `i` and `byte[j]` on. -/
def hexEvents (i j : ℕ) : List UInt8 → List DemoEvent
  | [] => [.readArg i]
  | b :: bs => .readArg i :: .readArg i :: .readArg (i + 1) :: .storeByte j b :: hexEvents (i + 2) (j + 1) bs

/-- One byte comes of every two characters. -/
theorem length_hexPairs (s : List UInt8) : (hexPairs s).length = s.length / 2 := by
  induction s using hexPairs.induct with
  | case1 => rfl
  | case2 => simp [hexPairs]
  | case3 c d s ih =>
    simp only [hexPairs, List.length_cons, ih]
    omega

/-- The pairs of what renders bytes are those bytes. -/
theorem hexPairs_renders {bs s : List UInt8} (h : Hex.Renders bs s) : hexPairs s = bs := by
  induction h with
  | nil => rfl
  | cons hc hd _ ih => rw [hexPairs, hexPair_digits hc hd, ih]

/-- One round: two characters are read and one byte is stored. -/
theorem hexLoop_step {c : UInt8} (hc : c ≠ 0) (i j : ℕ) (byte : Mem) (d : UInt8) (rest : List UInt8) :
    hexLoop i j byte (c :: d :: rest) =
      { hexLoop (i + 2) (j + 1) (byte.write j [hexPair c d]) rest with
        events := .readArg i :: .readArg i :: .readArg (i + 1) :: .storeByte j (hexPair c d) ::
          (hexLoop (i + 2) (j + 1) (byte.write j [hexPair c d]) rest).events } := by
  rw [hexLoop, if_neg hc]
  rfl

/-- At the NUL the loop ends. -/
theorem hexLoop_nul (i j : ℕ) (byte : Mem) (tail : List UInt8) :
    hexLoop i j byte (0 :: tail) = ⟨some j, byte, [.readArg i]⟩ := by
  cases tail with
  | nil => rfl
  | cons => rfl

/-- A string of even length is read up to its NUL. -/
theorem hexLoop_even {s : List UInt8} (h0 : 0 ∉ s) (heven : s.length % 2 = 0) (i j : ℕ) (byte : Mem) (tail : List UInt8) :
    hexLoop i j byte (s ++ 0 :: tail) =
      ⟨some (j + (hexPairs s).length), byte.write j (hexPairs s), hexEvents i j (hexPairs s)⟩ := by
  induction s using hexPairs.induct generalizing i j byte with
  | case1 => simp [hexLoop_nul, hexPairs, hexEvents]
  | case2 => simp at heven
  | case3 c d s ih =>
    have hc : c ≠ 0 := fun h => h0 (by simp [h])
    have hrest : s.length % 2 = 0 := by
      simp only [List.length_cons] at heven
      omega
    have hlen : j + 1 + (hexPairs s).length = j + (hexPairs (c :: d :: s)).length := by
      rw [hexPairs, List.length_cons]
      omega
    have hwrite := byte.write_cons j (hexPair c d) (hexPairs s)
    rw [List.cons_append, List.cons_append, hexLoop_step hc, ih (fun h => h0 (by simp [h])) hrest, ← hlen, ← hwrite, hexPairs,
      hexEvents]

/-- In a string of odd length the NUL is passed over, and what is behind it is read. -/
theorem hexLoop_odd {s : List UInt8} (h0 : 0 ∉ s) (hodd : s.length % 2 = 1) (i j : ℕ) (byte : Mem) (tail : List UInt8) :
    .readArg (i + s.length + 1) ∈ (hexLoop i j byte (s ++ 0 :: tail)).events := by
  induction s using hexPairs.induct generalizing i j byte with
  | case1 => simp at hodd
  | case2 c =>
    have hc : c ≠ 0 := fun h => h0 (by simp [h])
    -- the round after the last character starts behind the NUL
    have hnext (j : ℕ) (byte : Mem) : .readArg (i + 2) ∈ (hexLoop (i + 2) j byte tail).events := by
      unfold hexLoop
      split
      · simp
      · split_ifs
        all_goals simp
      · split_ifs
        all_goals simp
    rw [List.singleton_append, hexLoop_step hc]
    simp [hnext]
  | case3 c d s ih =>
    have hc : c ≠ 0 := fun h => h0 (by simp [h])
    have hrest : s.length % 2 = 1 := by
      simp only [List.length_cons] at hodd
      omega
    have hbehind := ih (fun h => h0 (by simp [h])) hrest (i + 2) (j + 1) (byte.write j [hexPair c d])
    have hpos : i + (c :: d :: s).length + 1 = i + 2 + s.length + 1 := by
      simp only [List.length_cons]
      omega
    rw [hpos, List.cons_append, List.cons_append, hexLoop_step hc]
    simp [hbehind]

/-- The parser calls nothing of the TEE. -/
theorem tee_notMem_hexEvents (i j : ℕ) (bs : List UInt8) (e : TeeEvent) : .tee e ∉ hexEvents i j bs := by
  induction bs generalizing i j with
  | nil => simp [hexEvents]
  | cons b bs ih => simp [hexEvents, ih]

/-- What is read is not past the NUL. -/
theorem readArg_mem_hexEvents {pos i j : ℕ} {bs : List UInt8} (h : .readArg pos ∈ hexEvents i j bs) : pos ≤ i + 2 * bs.length := by
  induction bs generalizing i j with
  | nil =>
    simp only [hexEvents, List.mem_singleton, DemoEvent.readArg.injEq] at h
    omega
  | cons b bs ih =>
    simp only [hexEvents, List.mem_cons, DemoEvent.readArg.injEq, reduceCtorEq, false_or, List.length_cons] at h ⊢
    rcases h with rfl | rfl | rfl | h
    · omega
    · omega
    · omega
    · have := ih h
      omega

/-- What is stored are the bytes, one behind the other. -/
theorem storeByte_mem_hexEvents {off i j : ℕ} {b : UInt8} {bs : List UInt8} (h : .storeByte off b ∈ hexEvents i j bs) :
    off < j + bs.length := by
  induction bs generalizing i j with
  | nil => simp [hexEvents] at h
  | cons b' bs ih =>
    simp only [hexEvents, List.mem_cons, DemoEvent.storeByte.injEq, reduceCtorEq, false_or, List.length_cons] at h ⊢
    rcases h with ⟨rfl, -⟩ | h
    · omega
    · have := ih h
      omega

end EseManager
