import Mathlib.Data.List.Induction
import Mathlib.Data.Nat.Notation

/-!
# Bytes in hexadecimal

A byte is two digits, the high half first, and each digit is in lower or in upper case. `Renders` says which strings a list of bytes
can be written as; these are the strings of the `Grammar`.
-/

namespace Hex

/-- The digits in lower case, each at its value. -/
def lowerDigits : List UInt8 := "0123456789abcdef".toList.map Char.toUInt8

/-- The digits in upper case, each at its value. -/
def upperDigits : List UInt8 := "0123456789ABCDEF".toList.map Char.toUInt8

/-- The character is a digit of this value. -/
def Digit (v : ℕ) (c : UInt8) : Prop := lowerDigits[v]? = some c ∨ upperDigits[v]? = some c

/-- The character is a digit. -/
def IsDigit (c : UInt8) : Prop := c ∈ lowerDigits ∨ c ∈ upperDigits

/-- An even number of digits. -/
def Grammar (s : List UInt8) : Prop := s.length % 2 = 0 ∧ ∀ c ∈ s, IsDigit c

/-- The bytes can be written as the string. -/
inductive Renders : List UInt8 → List UInt8 → Prop where
  | nil : Renders [] []
  | cons {b c d : UInt8} {bs s : List UInt8} (hc : Digit (b.toNat / 16) c) (hd : Digit (b.toNat % 16) d) (h : Renders bs s) :
      Renders (b :: bs) (c :: d :: s)

instance (v : ℕ) (c : UInt8) : Decidable (Digit v c) := inferInstanceAs (Decidable (_ ∨ _))

instance (c : UInt8) : Decidable (IsDigit c) := inferInstanceAs (Decidable (_ ∨ _))

instance (s : List UInt8) : Decidable (Grammar s) :=
  have := List.decidableBAll IsDigit s
  inferInstanceAs (Decidable (_ ∧ _))

/-! ## Digits -/

/-- The value of a digit is less than 16. -/
theorem Digit.lt {v : ℕ} {c : UInt8} (h : Digit v c) : v < 16 := by
  rcases h with h | h
  · exact (List.getElem?_eq_some_iff.1 h).1
  · exact (List.getElem?_eq_some_iff.1 h).1

/-- What gives every digit of the two lists its value gives it to every digit. -/
theorem Digit.value {f : UInt8 → ℕ} (hl : lowerDigits.map f = List.range 16) (hu : upperDigits.map f = List.range 16) {v : ℕ}
    {c : UInt8} (h : Digit v c) : f c = v := by
  have hv : (List.range 16)[v]? = some v := List.getElem?_range h.lt
  rcases h with h | h
  · rw [← hl, List.getElem?_map, h] at hv
    exact Option.some.inj hv
  · rw [← hu, List.getElem?_map, h] at hv
    exact Option.some.inj hv

/-- A character that has a value is a digit. -/
theorem Digit.isDigit {v : ℕ} {c : UInt8} (h : Digit v c) : IsDigit c := by
  rcases h with h | h
  · exact Or.inl (List.mem_of_getElem? h)
  · exact Or.inr (List.mem_of_getElem? h)

/-- Every digit has a value. -/
theorem IsDigit.exists_digit {c : UInt8} (h : IsDigit c) : ∃ v, Digit v c := by
  rcases h with h | h
  · obtain ⟨v, hv⟩ := List.mem_iff_getElem?.1 h
    exact ⟨v, Or.inl hv⟩
  · obtain ⟨v, hv⟩ := List.mem_iff_getElem?.1 h
    exact ⟨v, Or.inr hv⟩

/-- The NUL is no digit. -/
theorem not_isDigit_zero : ¬IsDigit 0 := by decide

/-- The digit of a value, in upper case. -/
def upperDigit (v : ℕ) : UInt8 := (upperDigits[v]?).getD 0

/-- The digit that is printed for a value has that value. -/
theorem digit_upperDigit {v : ℕ} (h : v < 16) : Digit v (upperDigit v) := by
  right
  have hlen : v < upperDigits.length := h
  simp [upperDigit, hlen]

/-- A byte with given halves. -/
theorem exists_byte {v w : ℕ} (hv : v < 16) (hw : w < 16) : ∃ b : UInt8, b.toNat / 16 = v ∧ b.toNat % 16 = w := by
  have hlt : 16 * v + w < 2 ^ 8 := by omega
  have hb : (UInt8.ofNat (16 * v + w)).toNat = 16 * v + w := UInt8.toNat_ofNat_of_lt' hlt
  refine ⟨UInt8.ofNat (16 * v + w), ?_, ?_⟩
  · omega
  · omega

/-! ## Strings -/

/-- A byte takes two digits. -/
theorem Renders.length {bs s : List UInt8} (h : Renders bs s) : s.length = 2 * bs.length := by
  induction h with
  | nil => rfl
  | cons _ _ _ ih =>
    simp only [List.length_cons, ih]
    omega

/-- What renders bytes consists of digits. -/
theorem Renders.isDigit {bs s : List UInt8} (h : Renders bs s) : ∀ c ∈ s, IsDigit c := by
  induction h with
  | nil => simp
  | cons hc hd _ ih =>
    intro x hx
    rcases List.mem_cons.1 hx with rfl | hx
    · exact hc.isDigit
    · rcases List.mem_cons.1 hx with rfl | hx
      · exact hd.isDigit
      · exact ih x hx

/-- The grammar is the strings that some bytes can be written as. -/
theorem grammar_iff_renders (s : List UInt8) : Grammar s ↔ ∃ bs, Renders bs s := by
  constructor
  · rintro ⟨heven, hdigits⟩
    induction s using List.twoStepInduction with
    | nil => exact ⟨[], .nil⟩
    | singleton c => simp at heven
    | cons_cons c d s ih _ =>
      obtain ⟨v, hc⟩ := (hdigits c (by simp)).exists_digit
      obtain ⟨w, hd⟩ := (hdigits d (by simp)).exists_digit
      obtain ⟨b, hv, hw⟩ := exists_byte hc.lt hd.lt
      have hrest : s.length % 2 = 0 := by
        simp only [List.length_cons] at heven
        omega
      obtain ⟨bs, h⟩ := ih hrest fun x hx => hdigits x (by simp [hx])
      exact ⟨b :: bs, .cons (hv.symm ▸ hc) (hw.symm ▸ hd) h⟩
  · rintro ⟨bs, h⟩
    refine ⟨?_, h.isDigit⟩
    rw [h.length]
    omega

/-- There is no NUL in a string of the grammar. -/
theorem Grammar.zero_notMem {s : List UInt8} (h : Grammar s) : 0 ∉ s := fun h0 => not_isDigit_zero (h.2 0 h0)

end Hex
