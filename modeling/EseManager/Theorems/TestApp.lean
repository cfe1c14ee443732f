import EseManager.TestApp
import EseManager.Theorems.ChipLegality
import EseManager.Theorems.FpTest
import EseManager.Theorems.NativeMethods
import EseManager.Theorems.Transcript

/-!
# The screen can be trusted

What the user reads on the screen is what the chip has answered, through all that lies between: and where both exchanges with the chip go
the same way, the verdict is the one that the digits above it deserve.
-/

namespace EseManager

open Ipc

/-! ## Reading the screen -/

/-- The end of a line. -/
def newline : UInt8 := '\n'.toUInt8

/-- The bytes whose digits are on the first line, behind its first six characters. -/
def shownBytes (text : List UInt8) : List UInt8 :=
  hexPairs (((text.drop 6).takeWhile fun c => decide (c ≠ newline)).filter fun c => decide (Hex.IsDigit c))

/-- What is on the second line behind its first seventeen characters. -/
def shownStatus (text : List UInt8) : List UInt8 :=
  ((text.dropWhile fun c => decide (c ≠ newline)).drop 18).takeWhile fun c => decide (c ≠ newline)

/-- Whether the text ends with `true`. -/
def shownVerdict (text : List UInt8) : Bool := decide (chars "true" <:+ text)

/-- The first part of a text, up to the first newline. -/
theorem takeWhile_line {line : List UInt8} (h : newline ∉ line) (rest : List UInt8) :
    (line ++ newline :: rest).takeWhile (fun c => decide (c ≠ newline)) = line := by
  have hall : ∀ c ∈ line, decide (c ≠ newline) = true := by
    intro c hc
    rw [decide_eq_true_iff]
    rintro rfl
    exact h hc
  rw [List.takeWhile_append_of_pos hall]
  simp

/-- And what is behind it. -/
theorem dropWhile_line {line : List UInt8} (h : newline ∉ line) (rest : List UInt8) :
    (line ++ newline :: rest).dropWhile (fun c => decide (c ≠ newline)) = newline :: rest := by
  have hall : ∀ c ∈ line, decide (c ≠ newline) = true := by
    intro c hc
    rw [decide_eq_true_iff]
    rintro rfl
    exact h hc
  rw [List.dropWhile_append_of_pos hall]
  simp

/-- The digits of an array, or `null`. -/
def hexText (bytes : Option (List UInt8)) : List UInt8 := (bytesToHexString bytes).getD (chars "null")

theorem hexText_eq (bytes : Option (List UInt8)) :
    hexText bytes = if bytes.getD [] = [] then chars "null" else spaced (bytes.getD []) := by
  match bytes with
  | none => rfl
  | some [] => rfl
  | some (b :: bs) => rfl

theorem newline_notMem_spaced (bs : List UInt8) : newline ∉ spaced bs := by
  intro h
  obtain ⟨b, -, hb⟩ := List.mem_flatMap.1 h
  obtain ⟨hhigh, hlow⟩ := halves_lt b
  have hnot : ¬Hex.IsDigit newline := by decide
  simp only [List.mem_cons, List.not_mem_nil, or_false] at hb
  rcases hb with hb | hb | hb
  · exact hnot (hb ▸ isDigit_upperDigit hhigh)
  · exact hnot (hb ▸ isDigit_upperDigit hlow)
  · exact absurd hb (by decide)

theorem newline_notMem_hexText (bytes : Option (List UInt8)) : newline ∉ hexText bytes := by
  rw [hexText_eq]
  split_ifs
  · decide
  · exact newline_notMem_spaced _

theorem newline_notMem_decimal (n : Int) : newline ∉ decimal n := by
  intro h
  unfold decimal at h
  rcases List.mem_append.1 h with h | h
  · split_ifs at h
    · exact absurd h (by decide)
    · cases h
  · obtain ⟨hle, -⟩ := toNat_of_mem_toDigits h
    exact absurd hle (by decide)

/-- The digits on the first line are those of the array. -/
theorem hexPairs_hexText (bytes : Option (List UInt8)) :
    hexPairs ((hexText bytes).filter fun c => decide (Hex.IsDigit c)) = bytes.getD [] := by
  rw [hexText_eq]
  split_ifs with h
  · rw [h]
    rfl
  · rw [filter_spaced]
    exact hexPairs_renders (renders_digits _)

/-- All three can be read. -/
theorem screenText_readable (cplcByte : Option (List UInt8)) (bindingStatus : Int) (isValid : Bool) :
    let text := screenText cplcByte bindingStatus isValid
    shownBytes text = cplcByte.getD [] ∧ shownStatus text = decimal bindingStatus ∧ shownVerdict text = isValid := by
  intro text
  let verdict := chars "eseValidateChipLegality " ++ chars (if isValid then "true" else "false")
  have hlines : text = (chars "CPLC: " ++ hexText cplcByte) ++ newline :: (chars "eSEBindingStatus " ++
      (decimal bindingStatus ++ newline :: verdict)) := by
    have hnewline : chars "\n" = [newline] := rfl
    simp [text, verdict, screenText, hexText, hnewline]
  have hfirst : newline ∉ chars "CPLC: " ++ hexText cplcByte := by
    rw [List.mem_append]
    rintro (h | h)
    · exact absurd h (by decide)
    · exact newline_notMem_hexText _ h
  refine ⟨?_, ?_, ?_⟩
  · have hdrop : text.drop 6 = hexText cplcByte ++ newline :: (chars "eSEBindingStatus " ++
        (decimal bindingStatus ++ newline :: verdict)) := by
      rw [hlines]
      rfl
    rw [shownBytes, hdrop, takeWhile_line (newline_notMem_hexText _)]
    exact hexPairs_hexText cplcByte
  · have hdrop : (newline :: (chars "eSEBindingStatus " ++ (decimal bindingStatus ++ newline :: verdict))).drop 18 =
        decimal bindingStatus ++ newline :: verdict := rfl
    rw [shownStatus, hlines, dropWhile_line hfirst, hdrop, takeWhile_line (newline_notMem_decimal _)]
  · cases isValid with
    | true =>
      have hsuffix : chars "true" <:+ text := by
        refine List.IsSuffix.trans ?_ (List.suffix_append _ _)
        exact List.suffix_refl _
      simp [shownVerdict, hsuffix]
    | false =>
      have hsuffix : ¬chars "true" <:+ text := by
        intro h
        have hfalse : chars "false" <:+ text := List.suffix_append _ _
        have hlen : (chars "true").length ≤ (chars "false").length := by decide
        exact absurd (List.suffix_of_suffix_length_le h hfalse hlen) (by decide)
      simp [shownVerdict, hsuffix]

/-! ## What is on it -/

/-- For every three states of the power daemon, all answers of the TEE with responses of at most 100 bytes, and whatever the parcels and
the stack hold, when all arrays can be made: the activity shows a text from which the array of `native_eseGetCplc`, the result of the
fingerprint client and the verdict can be read; the verdict is that on the array of the last exchange, and so, when both exchanges give
the same array, on the bytes that are shown. -/
theorem screen_agrees (mem : Allocator) (hmem : ∀ n, mem.grows n = true) (first second third : PowerMethod → Int32)
    (powerBase : BBinder Binder) (t t' t'' : TeeAnswers) (hfits : t'.result = teecSuccess → t'.outSize ≤ 100)
    (hfits' : t''.result = teecSuccess → t''.outSize ≤ 100) (fp : FpClient) (uid : Int) (myParam : Int32)
    (managerBase : BBinder Empty) (cb : Binder) (stack stack' stack'' : Mem) :
    let c := fun impl t stack => connected mem impl powerBase (eseManagerService t fp uid myParam) managerBase cb stack fun _ => true
    let received := fun (impl : PowerMethod → Int32) t => cplcReceived (impl (.powerOn (some cb))) t fun _ => true
    ∃ text, onResume (c first t stack) (c second t' stack') (c third t'' stack'') = some text ∧
      shownBytes text = (received second t').getD [] ∧
      shownStatus text = decimal (bindingDelivered mem fp uid getEseBinddingStatus []).1 ∧
      (shownVerdict text = true ↔ ∃ array, received third t'' = some array ∧ Genuine array) ∧
      (received second t' = received third t'' → (shownVerdict text = true ↔ Genuine (shownBytes text))) := by
  intro c received
  have hreached : ∀ buffer : Mem, reached uid ((c first t stack).eseSendCommandEx getEseBinddingStatus buffer 0) =
      bindingDelivered mem fp uid getEseBinddingStatus [] := by
    intro buffer
    have hlen : ([] : List UInt8).length ≤ int32Max := Nat.zero_le _
    have hnone : buffer.read 0 ([] : List UInt8).length = [] := rfl
    have hsent := reached_eseSendCommandEx hmem first powerBase t fp uid myParam managerBase cb stack (fun _ => true)
      getEseBinddingStatus hlen hnone
    exact hsent
  have hbinding : (nativeEseSendCommandEx (c first t stack) 1096 none).1 =
      (bindingDelivered mem fp uid getEseBinddingStatus []).1 := congrArg Prod.fst (hreached _)
  have hcplc : (nativeEseGetCplc (c second t' stack')).value = some (received second t') :=
    nativeEseGetCplc_value hmem second powerBase t' hfits fp uid myParam managerBase cb stack' fun _ => true
  obtain ⟨verdict, hvalue, hverdict⟩ := nativeEseValidateChipLegality_value hmem third powerBase t'' hfits' fp uid myParam managerBase cb
    stack'' (fun _ => true) fun _ => rfl
  have hshown : onResume (c first t stack) (c second t' stack') (c third t'' stack'') = some (screenText (received second t')
      (bindingDelivered mem fp uid getEseBinddingStatus []).1 verdict) := by
    rw [onResume, hbinding, hcplc]
    dsimp only
    rw [show (nativeEseValidateChipLegality (c third t'' stack'')).value = some verdict from hvalue]
  obtain ⟨hbytes, hstatus, hshows⟩ := screenText_readable (received second t')
    (bindingDelivered mem fp uid getEseBinddingStatus []).1 verdict
  refine ⟨_, hshown, hbytes, hstatus, ?_, fun hsame => ?_⟩
  · rw [hshows]
    exact hverdict
  · rw [hshows, hbytes, hverdict]
    have hsame' : cplcReceived (third (.powerOn (some cb))) t'' (fun _ => true) = received second t' := hsame.symm
    rw [hsame']
    cases received second t' with
    | none => simp [Genuine]
    | some array => simp

/-- A genuine chip that answers twice, and a user other than system and radio. -/
theorem screen_agrees_genuine : ∃ text,
    onResume (connected .endless (fun _ => 0) .refusing (eseManagerService genuineChip ⟨3, 0, fun _ _ => 0⟩ 10057 0) .refusing 1
        (fun _ => 0xff) fun _ => true)
      (connected .endless (fun _ => 0) .refusing (eseManagerService genuineChip ⟨3, 0, fun _ _ => 0⟩ 10057 0) .refusing 1
        (fun _ => 0xff) fun _ => true)
      (connected .endless (fun _ => 0) .refusing (eseManagerService genuineChip ⟨3, 0, fun _ _ => 0⟩ 10057 0) .refusing 1
        (fun _ => 0xff) fun _ => true) = some text ∧
    shownVerdict text = true ∧ shownStatus text = chars "-1" := by
  obtain ⟨text, htext, -, hstatus, hverdict, -⟩ := screen_agrees .endless (fun _ => rfl) (fun _ => 0) (fun _ => 0) (fun _ => 0) .refusing
    genuineChip genuineChip genuineChip (fun _ => by decide) (fun _ => by decide) ⟨3, 0, fun _ _ => 0⟩ 10057 0 .refusing 1
    (fun _ => 0xff) (fun _ => 0xff) fun _ => 0xff
  refine ⟨text, htext, hverdict.2 ?_, hstatus.trans (by decide)⟩
  refine ⟨genuineChip.outBuffer.read 0 47, rfl, ?_⟩
  exact ⟨by simp, rfl, rfl⟩

end EseManager
