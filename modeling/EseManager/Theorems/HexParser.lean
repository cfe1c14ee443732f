import EseManager.Lemmas.DemoClient
import EseManager.Lemmas.HexParser

/-!
# The argument of `-i`

`hexchar_to_byte` reads back what bytes were written as in hexadecimal. It tells no caller that a string is not that: every character
makes some byte, and over a string of odd length it reads on behind the NUL. Whenever it ends, an APDU is sent.
-/

namespace EseManager

/-- A string of C: its characters, none of which is NUL. -/
structure CString where
  chars : List UInt8
  zero_notMem : 0 ∉ chars

def CString.strlen (s : CString) : ℕ := s.chars.length

/-- The memory from a string on: its characters, the NUL, and what is behind it. -/
def CString.memory (s : CString) (tail : List UInt8) : List UInt8 := s.chars ++ 0 :: tail

/-- The loop has ended, and has read no position behind the NUL. -/
def ReadsOnly (s : CString) (r : HexReturned) : Prop :=
  r.byteLen.isSome ∧ ∀ pos, .readArg pos ∈ r.events → pos ≤ s.strlen

/-- The argument is read up to its NUL, and nothing is sent for it if it is not in the grammar. -/
def ParsesGrammar (s : CString) (tail : List UInt8) (d : DemoState) (a : TaAnswer) : Prop :=
  ReadsOnly s (hexcharToByte (s.memory tail) d.halCmd) ∧
    (¬Hex.Grammar s.chars → ¬ApduSent (d.serve (.i (s.memory tail) a)).2)

/-- A string of even length is what is read within its bounds. -/
theorem readsOnly_iff (s : CString) (tail : List UInt8) (byte : Mem) :
    ReadsOnly s (hexcharToByte (s.memory tail) byte) ↔ s.strlen % 2 = 0 := by
  rcases Nat.mod_two_eq_zero_or_one s.strlen with heven | hodd
  · refine iff_of_true ?_ heven
    have hloop := hexLoop_even s.zero_notMem heven 0 0 byte tail
    rw [ReadsOnly, hexcharToByte, CString.memory, hloop]
    refine ⟨rfl, fun pos hpos => ?_⟩
    have hle := readArg_mem_hexEvents hpos
    rw [length_hexPairs] at hle
    unfold CString.strlen
    omega
  · refine iff_of_false (fun h => ?_) (by omega)
    have hle := h.2 _ (hexLoop_odd s.zero_notMem hodd 0 0 byte tail)
    unfold CString.strlen at hle
    omega

/-- For every string, whatever is behind it in the memory: `hexchar_to_byte` ends without reading behind the NUL exactly when the
length is even; and it also keeps what is not in the grammar from being sent exactly when the string is in the grammar. -/
theorem hex_parser_accepts_iff (s : CString) (tail : List UInt8) (d : DemoState) (a : TaAnswer) :
    (ReadsOnly s (hexcharToByte (s.memory tail) d.halCmd) ↔ s.strlen % 2 = 0) ∧
      (ParsesGrammar s tail d a ↔ Hex.Grammar s.chars) := by
  have hreads := readsOnly_iff s tail d.halCmd
  refine ⟨hreads, ?_⟩
  constructor
  · intro h
    obtain ⟨hread, hrefuses⟩ := h
    by_contra hg
    exact hrefuses hg (apduSent_of_parsed hread.1 a)
  · intro hg
    exact ⟨hreads.2 hg.1, fun hnot => absurd hg hnot⟩

/-- An argument of three digits. -/
def threeDigits : CString := ⟨"00a".toList.map Char.toUInt8, by decide⟩

/-- An argument of two characters that are no digits. -/
def noDigits : CString := ⟨"zz".toList.map Char.toUInt8, by decide⟩

/-- The argument `00a` is read behind its NUL, and the argument `zz` is sent. -/
theorem hex_parser_accepts_others :
    ¬ParsesGrammar threeDigits [] ⟨initialOperation, fun _ => 0⟩ ⟨0, 2, fun _ => 0x90, true⟩ ∧
      ¬ParsesGrammar noDigits [] ⟨initialOperation, fun _ => 0⟩ ⟨0, 2, fun _ => 0x90, true⟩ := by
  constructor
  · rintro ⟨hread, -⟩
    exact absurd ((readsOnly_iff _ _ _).1 hread) (by decide)
  · rintro ⟨hread, hrefuses⟩
    exact hrefuses (by decide) (apduSent_of_parsed hread.1 _)

/-! ## Reading back -/

/-- For every list of bytes, and every string of hexadecimal digits that it can be written as: `hexchar_to_byte` gives the number of
the bytes, has stored them from the start of `byte` on, and has stored nothing behind them. -/
theorem hexcharToByte_renders {bs s : List UInt8} (h : Hex.Renders bs s) (tail : List UInt8) (byte : Mem) :
    (hexcharToByte (s ++ 0 :: tail) byte).byteLen = some bs.length ∧
      (hexcharToByte (s ++ 0 :: tail) byte).byte.read 0 bs.length = bs ∧
      (∀ off, bs.length ≤ off → (hexcharToByte (s ++ 0 :: tail) byte).byte off = byte off) ∧
      ∀ off b, .storeByte off b ∈ (hexcharToByte (s ++ 0 :: tail) byte).events → off < bs.length := by
  have hgrammar := (Hex.grammar_iff_renders s).2 ⟨bs, h⟩
  have hloop := hexLoop_even hgrammar.zero_notMem hgrammar.1 0 0 byte tail
  rw [hexPairs_renders h, Nat.zero_add] at hloop
  rw [hexcharToByte, hloop]
  refine ⟨rfl, byte.read_write 0 bs, fun off => byte.write_zero_of_le, fun off b hmem => ?_⟩
  have hlt := storeByte_mem_hexEvents hmem
  omega

/-- Two bytes in mixed case. -/
theorem hexcharToByte_renders_mixed :
    (hexcharToByte ("a5Fc".toList.map Char.toUInt8 ++ [0]) fun _ => 0).byteLen = some 2 ∧
      (hexcharToByte ("a5Fc".toList.map Char.toUInt8 ++ [0]) fun _ => 0).byte.read 0 2 = [0xA5, 0xFC] := by
  have hrenders : Hex.Renders [0xA5, 0xFC] ("a5Fc".toList.map Char.toUInt8) :=
    .cons (by decide) (by decide) (.cons (by decide) (by decide) .nil)
  obtain ⟨hlen, hread, -⟩ := hexcharToByte_renders hrenders [] fun _ => 0
  exact ⟨hlen, hread⟩

end EseManager
