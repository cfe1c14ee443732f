import EseManager.Lemmas.DemoClient
import EseManager.Lemmas.HexParser

/-!
# The buffers of a raw APDU

An argument of `-i` goes into `hal_cmd` and the input memory, both of 256 bytes, and the response from the output memory into the 100
bytes of `resp`. No length is compared with any of these: what does not fit is written past the end.
-/

namespace EseManager

/-- The sizes of `hal_cmd` and of the input memory. -/
def halCmdSize : ℕ := 256
def inputShmSize : ℕ := bigIntLength.toNat

/-- The access is no write, or it is within the buffer. -/
def DemoEvent.InBounds : DemoEvent → Prop
  | .storeByte off _ => off < halCmdSize
  | .tee (.storeShm .input off len) => off + len ≤ inputShmSize
  | .tee (.storeRsp off bytes) => off + bytes.length ≤ respSize
  | _ => True

/-- A response is taken. -/
def TakesResponse (events : List DemoEvent) : Prop := ∃ off bytes, .tee (.storeRsp off bytes) ∈ events

/-- All writes are within their buffers; an argument of more bytes than `hal_cmd` has is not sent, and a response of more bytes than
`resp` has is not taken. -/
structure StaysInside (digits : List UInt8) (a : TaAnswer) (events : List DemoEvent) : Prop where
  inBounds : ∀ e ∈ events, e.InBounds
  argument : halCmdSize < digits.length / 2 → ¬ApduSent events
  response : respSize < a.outSize.toNat → ¬TakesResponse events

/-- What is done for an argument in the grammar. -/
theorem serve_i_grammar {s : List UInt8} (h : Hex.Grammar s) (tail : List UInt8) (d : DemoState) (a : TaAnswer) :
    ∃ input, (d.serve (.i (s ++ 0 :: tail) a)).2 = hexEvents 0 0 (hexPairs s) ++ (apduEvents (s.length / 2) input a).map .tee := by
  have hloop := hexLoop_even h.zero_notMem h.1 0 0 d.halCmd tail
  rw [length_hexPairs, Nat.zero_add] at hloop
  have hexit := serve_i_exit d (s ++ 0 :: tail) a
  generalize d.serve (.i (s ++ 0 :: tail) a) = r at hexit ⊢
  have hparsed : hexcharToByte (s ++ 0 :: tail) d.halCmd = _ := hloop
  cases hexit with
  | died hn =>
    rw [hparsed] at hn
    cases hn
  | sent halCmdLen hlen _ _ input =>
    rw [hparsed] at hlen ⊢
    cases hlen
    exact ⟨input, rfl⟩

/-- The response to an APDU that succeeds is taken, of whatever size. -/
theorem takesResponse_grammar {s : List UInt8} (h : Hex.Grammar s) (tail : List UInt8) (d : DemoState) (a : TaAnswer) :
    TakesResponse (d.serve (.i (s ++ 0 :: tail) a)).2 ↔ a.ret = teecSuccess := by
  obtain ⟨input, hevents⟩ := serve_i_grammar h tail d a
  rw [hevents]
  constructor
  · rintro ⟨off, bytes, hmem⟩
    rcases List.mem_append.1 hmem with hmem | hmem
    · exact absurd hmem (tee_notMem_hexEvents _ _ _ _)
    · obtain ⟨event, hevent, heq⟩ := List.mem_map.1 hmem
      cases heq
      rcases mem_apduEvents.1 hevent with heq | heq | ⟨hret, -⟩
      · cases heq
      · cases heq
      · exact hret
  · intro hret
    refine ⟨0, a.response, List.mem_append_right _ (List.mem_map_of_mem ?_)⟩
    exact mem_apduEvents.2 (Or.inr (Or.inr ⟨hret, by simp [received]⟩))

/-- The writes for an argument in the grammar are within their buffers exactly when it fits, and the response that is taken does. -/
theorem inBounds_grammar {s : List UInt8} (h : Hex.Grammar s) (tail : List UInt8) (d : DemoState) (a : TaAnswer) :
    (∀ e ∈ (d.serve (.i (s ++ 0 :: tail) a)).2, e.InBounds) ↔
      s.length / 2 ≤ halCmdSize ∧ (a.ret = teecSuccess → a.outSize.toNat ≤ respSize) := by
  have hstored : DemoEvent.InBounds (.tee (.storeShm .input 0 (s.length / 2))) ↔ s.length / 2 ≤ halCmdSize := by
    show 0 + s.length / 2 ≤ halCmdSize ↔ _
    rw [Nat.zero_add]
  have htaken : DemoEvent.InBounds (.tee (.storeRsp 0 a.response)) ↔ a.outSize.toNat ≤ respSize := by
    show 0 + a.response.length ≤ respSize ↔ _
    rw [Nat.zero_add, TaAnswer.response, Mem.length_read]
  obtain ⟨input, hevents⟩ := serve_i_grammar h tail d a
  rw [hevents]
  constructor
  · intro hin
    have hsent (e : TeeEvent) (he : e ∈ apduEvents (s.length / 2) input a) : DemoEvent.InBounds (.tee e) :=
      hin _ (List.mem_append_right _ (List.mem_map_of_mem he))
    refine ⟨hstored.1 (hsent _ (mem_apduEvents.2 (Or.inl rfl))), fun hret => htaken.1 (hsent _ ?_)⟩
    exact mem_apduEvents.2 (Or.inr (Or.inr ⟨hret, by simp [received]⟩))
  · rintro ⟨hargument, hresponse⟩ e he
    rcases List.mem_append.1 he with he | he
    · cases e with
      | readArg => trivial
      | storeByte off byte =>
        have hlt := storeByte_mem_hexEvents he
        rw [length_hexPairs, Nat.zero_add] at hlt
        exact Nat.lt_of_lt_of_le hlt hargument
      | tee => exact absurd he (tee_notMem_hexEvents _ _ _ _)
    · obtain ⟨event, hevent, rfl⟩ := List.mem_map.1 he
      rcases mem_apduEvents.1 hevent with rfl | rfl | ⟨hret, hreceived⟩
      · exact hstored.2 hargument
      · trivial
      · simp only [received, List.mem_cons, List.not_mem_nil, or_false] at hreceived
        rcases hreceived with rfl | rfl
        · trivial
        · exact htaken.2 (hresponse hret)

/-- For every argument in the grammar, of any length, and every response, of any size: all writes are within their buffers, and what
does not fit is refused, exactly when the argument has at most 256 bytes and the response, if there is one, at most 100. -/
theorem raw_apdu_stays_inside_iff {s : List UInt8} (h : Hex.Grammar s) (tail : List UInt8) (d : DemoState) (a : TaAnswer) :
    StaysInside s a (d.serve (.i (s ++ 0 :: tail) a)).2 ↔
      s.length / 2 ≤ halCmdSize ∧ (a.ret = teecSuccess → a.outSize.toNat ≤ respSize) := by
  have hin := inBounds_grammar h tail d a
  constructor
  · exact fun hinside => hin.1 hinside.inBounds
  · intro hfits
    obtain ⟨hargument, hresponse⟩ := hfits
    refine ⟨hin.2 ⟨hargument, hresponse⟩, ?_, ?_⟩
    · intro hlong
      exact absurd hargument (Nat.not_le_of_lt hlong)
    · intro hlong htakes
      have hret := (takesResponse_grammar h tail d a).1 htakes
      exact absurd (hresponse hret) (Nat.not_le_of_lt hlong)

/-- GET CPLC as an argument, and a response of 47 bytes. -/
theorem raw_apdu_stays_inside_cplc :
    StaysInside ("80ca9f7f00".toList.map Char.toUInt8) ⟨teecSuccess, 47, fun _ => 0x9f, true⟩
      ((DemoState.mk initialOperation fun _ => 0).serve
        (.i ("80ca9f7f00".toList.map Char.toUInt8 ++ [0]) ⟨teecSuccess, 47, fun _ => 0x9f, true⟩)).2 :=
  (raw_apdu_stays_inside_iff (by decide) [] _ _).2 (by decide)

/-- The response has 256 bytes, all that the output memory holds. -/
def fullResponse : TaAnswer := ⟨teecSuccess, bigIntLength, fun _ => 0x90, true⟩

/-- The argument has 257 bytes. -/
def longArgument : List UInt8 := List.replicate 514 '0'.toUInt8

theorem length_longArgument : longArgument.length = 514 := List.length_replicate

theorem grammar_longArgument : Hex.Grammar longArgument := by
  refine ⟨by rw [length_longArgument], fun c hc => ?_⟩
  rw [List.eq_of_mem_replicate hc]
  decide

/-- A response of 256 bytes is written past the end of `resp`, and an argument of 257 bytes past the ends of `hal_cmd` and of the input
memory. -/
theorem raw_apdu_overflows :
    ¬StaysInside ("80ca9f7f00".toList.map Char.toUInt8) fullResponse
        ((DemoState.mk initialOperation fun _ => 0).serve (.i ("80ca9f7f00".toList.map Char.toUInt8 ++ [0]) fullResponse)).2 ∧
      ¬StaysInside longArgument ⟨teecSuccess, 2, fun _ => 0x90, true⟩
        ((DemoState.mk initialOperation fun _ => 0).serve (.i (longArgument ++ [0]) ⟨teecSuccess, 2, fun _ => 0x90, true⟩)).2 := by
  constructor
  · intro h
    have hfits := (inBounds_grammar (by decide) [] _ _).1 h.inBounds
    exact absurd (hfits.2 rfl) (by decide)
  · intro h
    have hfits := (inBounds_grammar grammar_longArgument [] _ _).1 h.inBounds
    rw [length_longArgument] at hfits
    exact absurd hfits.1 (by decide)

end EseManager
