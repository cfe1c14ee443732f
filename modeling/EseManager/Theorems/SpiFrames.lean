import EseManager.Lib.Frames
import EseManager.SpiFrames
import Mathlib.Data.List.Forall2
import Mathlib.Tactic.SplitIfs

/-!
# Commands and responses stay in step

On a line where every command is answered by some other bytes and a frame, the tests get the response to each of their commands exactly
as long as a response does not come too late: `ese_read_data` gives up after a thousand bytes, and leaves the frame on the line for the
next command.
-/

namespace EseManager

open Frames

/-! ## The line -/

/-- A response of the eSE: its control byte, its length, and as many bytes and one more. The last one is the checksum, which the reader
does not look at. -/
structure EseResponse where
  pcb : UInt8
  len : UInt8
  body : List UInt8
  length_body : body.length = len.toNat + 1

/-- Its frame. -/
def EseResponse.frame (r : EseResponse) : List UInt8 := eseSof :: r.pcb :: r.len :: r.body

theorem EseResponse.length_frame (r : EseResponse) : r.frame.length = 1 + 2 + (r.len.toNat + 1) := by
  rw [← r.length_body, frame]
  simp only [List.length_cons]
  omega

/-- What the eSE makes of a command: bytes among which no frame begins, and then the response. -/
structure EseAnswer where
  idle : List UInt8
  noSof : eseSof ∉ idle
  response : EseResponse

/-- What comes over the line. -/
def EseAnswer.bytes (a : EseAnswer) : List UInt8 := a.idle ++ a.response.frame

/-- A line to the eSE: what can be read from it, and the answers to the next commands. -/
structure Line where
  pending : List UInt8
  answers : List EseAnswer

/-- A read takes what is there, and a write makes the eSE answer. -/
def line : Port Line where
  read l n := (some (l.pending.take n), { l with pending := l.pending.drop n })
  write l data :=
    match l.answers with
    | [] => (some data.length, l)
    | a :: answers => (some data.length, ⟨l.pending ++ a.bytes, answers⟩)

/-- The exclusive or of all bytes. -/
def checksum (bytes : List UInt8) : UInt8 := bytes.foldl (· ^^^ ·) 0

/-- A frame: its mark, a control byte, a length, as many bytes, and a checksum over all behind the mark. -/
def Framed (mark : UInt8) : List UInt8 → Prop
  | sof :: pcb :: len :: body => sof = mark ∧ body.length = len.toNat + 1 ∧ checksum (pcb :: len :: body) = 0
  | _ => False

instance (mark : UInt8) (frame : List UInt8) : Decidable (Framed mark frame) := by
  unfold Framed
  split <;> infer_instance

/-- All commands are frames but one, which has the checksum of the class byte in the comment above it. -/
example :
    (∀ cmd ∈ [resetCmd, selectIsd, cplcCmdLogic1, clsoeLogic1, selectIsdLogic0, cplcCmdLogic0, cplcCmd],
      Framed 0x5A cmd ↔ cmd ≠ selectIsdLogic0) ∧ Framed 0x5A (selectIsdLogic0.set 3 0x00) := by
  decide

/-- The reader returns with the frame, from inside its buffer of 256 bytes. -/
structure Gets (r : EseResponse) (x : Port.EseRead Line) : Prop where
  ret : x.ret = r.frame.length
  frame : x.left.recvData.read 0 r.frame.length = r.frame
  inside : ∀ a ∈ x.left.accesses, a.1 + a.2 ≤ 256

/-! ## Reading one response -/

theorem fill_line (x : Port.Reading Line) (off len : ℕ) :
    Port.Reading.fill line x off len = ⟨x.recvData.write off (x.port.pending.take len), x.accesses ++ [(off, len)],
      { x.port with pending := x.port.pending.drop len }⟩ := by
  simp [Port.Reading.fill, line, List.take_take]

/-- One more round when the byte that is read is not the start of a frame. -/
theorem sofLoop_next {x : Port.Reading Line} {b : UInt8} {pending : List UInt8} (hpending : x.port.pending = b :: pending)
    (hb : b ≠ eseSof) (n : ℕ) : line.sofLoop x (n + 1) =
      line.sofLoop ⟨x.recvData.write 0 [b], x.accesses ++ [(0, 1)], ⟨pending, x.port.answers⟩⟩ n := by
  have hfill : Port.Reading.fill line x 0 1 =
      ⟨x.recvData.write 0 [b], x.accesses ++ [(0, 1)], ⟨pending, x.port.answers⟩⟩ := by
    rw [fill_line, hpending]
    rfl
  have hread : x.recvData.write 0 [b] 0 = b := Mem.write_zero_of_lt _ (Nat.zero_lt_one)
  rw [Port.sofLoop, hfill]
  exact if_pos (hread.symm ▸ hb)

/-- The last round, when it is. -/
theorem sofLoop_sof {x : Port.Reading Line} {pending : List UInt8} (hpending : x.port.pending = eseSof :: pending) (n : ℕ) :
    line.sofLoop x n = ⟨x.recvData.write 0 [eseSof], x.accesses ++ [(0, 1)], ⟨pending, x.port.answers⟩⟩ := by
  have hfill : Port.Reading.fill line x 0 1 =
      ⟨x.recvData.write 0 [eseSof], x.accesses ++ [(0, 1)], ⟨pending, x.port.answers⟩⟩ := by
    rw [fill_line, hpending]
    rfl
  have hread : x.recvData.write 0 [eseSof] 0 = eseSof := Mem.write_zero_of_lt _ (Nat.zero_lt_one)
  cases n with
  | zero => exact hfill
  | succ n =>
    rw [Port.sofLoop, hfill]
    exact if_neg (not_not.2 hread)

/-- The loop reads up to the start of a frame, when there is one among the bytes it reads. -/
theorem sofLoop_found {x : Port.Reading Line} {n : ℕ} {rest : List UInt8} (h : find eseSof (n + 1) x.port.pending = some rest) :
    ∃ accesses, line.sofLoop x n = ⟨x.recvData.write 0 [eseSof], x.accesses ++ accesses, ⟨rest, x.port.answers⟩⟩ ∧
      ∀ a ∈ accesses, a = (0, 1) := by
  induction n generalizing x with
  | zero =>
    cases hpending : x.port.pending with
    | nil => simp [hpending, find] at h
    | cons b pending =>
      rw [hpending, find, find] at h
      split_ifs at h with hb
      subst hb
      obtain rfl := Option.some.inj h
      exact ⟨[(0, 1)], sofLoop_sof hpending 0, by simp⟩
  | succ n ih =>
    cases hpending : x.port.pending with
    | nil => simp [hpending, find] at h
    | cons b pending =>
      rw [hpending, find] at h
      split_ifs at h with hb
      · subst hb
        obtain rfl := Option.some.inj h
        exact ⟨[(0, 1)], sofLoop_sof hpending (n + 1), by simp⟩
      · obtain ⟨accesses, hloop, hall⟩ := ih (x := ⟨x.recvData.write 0 [b], x.accesses ++ [(0, 1)], ⟨pending, x.port.answers⟩⟩) h
        refine ⟨(0, 1) :: accesses, ?_, by simpa using hall⟩
        have hwrite : (x.recvData.write 0 [b]).write 0 [eseSof] = x.recvData.write 0 [eseSof] := Mem.write_write _ _ rfl
        rw [sofLoop_next hpending hb, hloop, hwrite, List.append_assoc]
        rfl

/-- Otherwise it ends without one. -/
theorem sofLoop_missed {x : Port.Reading Line} {n : ℕ} (hx : x.recvData 0 ≠ eseSof)
    (h : find eseSof (n + 1) x.port.pending = none) : (line.sofLoop x n).recvData 0 ≠ eseSof := by
  induction n generalizing x with
  | zero =>
    rw [Port.sofLoop, fill_line]
    cases hpending : x.port.pending with
    | nil => simpa using hx
    | cons b pending =>
      rw [hpending, find] at h
      split_ifs at h with hb
      have hread : x.recvData.write 0 [b] 0 = b := Mem.write_zero_of_lt _ Nat.zero_lt_one
      exact hread ▸ hb
  | succ n ih =>
    cases hpending : x.port.pending with
    | nil =>
      have hfill : Port.Reading.fill line x 0 1 = ⟨x.recvData, x.accesses ++ [(0, 1)], x.port⟩ := by
        have hport : x.port = ⟨[], x.port.answers⟩ := by rw [← hpending]
        rw [fill_line, hport]
        simp
      rw [Port.sofLoop, hfill, if_pos hx]
      refine ih hx ?_
      rw [hpending]
      exact find_nil
    | cons b pending =>
      rw [hpending, find] at h
      split_ifs at h with hb
      have hread : x.recvData.write 0 [b] 0 = b := Mem.write_zero_of_lt _ Nat.zero_lt_one
      rw [sofLoop_next hpending hb]
      exact ih (hread.symm ▸ hb) h

/-- A response that begins among the next thousand bytes is read, and nothing behind it; the reader stays inside its buffer when the
length is at most 252. -/
theorem eseReadData_line {a : EseAnswer} (h : a.idle.length < 1000) (rest : List UInt8) (answers : List EseAnswer) :
    let x := line.eseReadData ⟨a.bytes ++ rest, answers⟩
    x.ret = a.response.frame.length ∧ x.left.recvData.read 0 a.response.frame.length = a.response.frame ∧
      x.left.port = ⟨rest, answers⟩ ∧ ((∀ c ∈ x.left.accesses, c.1 + c.2 ≤ 256) ↔ a.response.len ≤ 252) := by
  intro x
  have hfind : find eseSof 1000 (a.bytes ++ rest) = some (a.response.pcb :: a.response.len :: (a.response.body ++ rest)) := by
    have hfound := find_of_lt a.noSof h (a.response.pcb :: a.response.len :: (a.response.body ++ rest))
    simpa [EseAnswer.bytes, EseResponse.frame] using hfound
  obtain ⟨accesses, hloop, hall⟩ := sofLoop_found (x := ⟨fun _ => 0, [(0, 256)], ⟨a.bytes ++ rest, answers⟩⟩) hfind
  have hbody := a.response.length_body
  have hframe := a.response.length_frame
  -- the variables after the mark, the two bytes behind it, and the rest of the frame
  let x₁ : Port.Reading Line := ⟨Mem.write (fun _ => 0) 0 [eseSof], [(0, 256)] ++ accesses,
    ⟨a.response.pcb :: a.response.len :: (a.response.body ++ rest), answers⟩⟩
  let x₂ : Port.Reading Line := ⟨x₁.recvData.write 1 [a.response.pcb, a.response.len], x₁.accesses ++ [(1, 2)],
    ⟨a.response.body ++ rest, answers⟩⟩
  let x₃ : Port.Reading Line := ⟨x₂.recvData.write 3 a.response.body, x₂.accesses ++ [(3, a.response.len.toNat + 1)], ⟨rest, answers⟩⟩
  have h₁ : line.sofLoop ⟨fun _ => 0, [(0, 256)], ⟨a.bytes ++ rest, answers⟩⟩ 999 = x₁ := hloop
  have h₂ : Port.Reading.fill line x₁ 1 2 = x₂ := fill_line x₁ 1 2
  have h₃ : Port.Reading.fill line x₂ 3 (a.response.len.toNat + 1) = x₃ := by
    rw [fill_line, ← hbody]
    simp [x₂, x₃, hbody]
  have hsof : x₁.recvData 0 = eseSof := rfl
  have hlen : x₂.recvData 2 = a.response.len := rfl
  have hx : x = ⟨(a.response.frame.length : ℕ),
      { x₃ with accesses := x₃.accesses ++ (List.range a.response.frame.length).map fun i => (i, 1) }⟩ := by
    have hread : x = line.eseReadData ⟨a.bytes ++ rest, answers⟩ := rfl
    rw [hread, Port.eseReadData, h₁]
    dsimp only
    rw [if_neg (not_not.2 hsof), h₂, hlen, h₃, hframe]
  have hmemory : x₃.recvData = Mem.write (fun _ => 0) 0 a.response.frame := by
    rw [EseResponse.frame, Mem.write_cons, Mem.write_cons _ (0 + 1), Mem.write_cons _ (0 + 1 + 1)]
    show ((Mem.write (fun _ => 0) 0 [eseSof]).write 1 [a.response.pcb, a.response.len]).write 3 a.response.body = _
    rw [Mem.write_cons _ 1]
  rw [hx]
  refine ⟨rfl, ?_, rfl, ?_⟩
  · show x₃.recvData.read 0 _ = _
    rw [hmemory]
    exact Mem.read_write _ _ _
  · have hmem : ∀ c : ℕ × ℕ, c ∈ x₃.accesses ++ (List.range a.response.frame.length).map (fun i => (i, 1)) ↔
        c = (0, 256) ∨ c ∈ accesses ∨ c = (1, 2) ∨ c = (3, a.response.len.toNat + 1) ∨
          ∃ i < a.response.frame.length, (i, 1) = c := by
      intro c
      simp [x₁, x₂, x₃]
    have hle : a.response.len ≤ 252 ↔ a.response.len.toNat ≤ 252 := UInt8.le_iff_toNat_le
    rw [hle]
    constructor
    · intro hinside
      have hlast := hinside _ ((hmem _).2 (.inr (.inr (.inr (.inl rfl)))))
      dsimp only at hlast
      omega
    · intro hshort c hc
      rcases (hmem c).1 hc with rfl | hc | rfl | rfl | ⟨i, hi, rfl⟩
      · exact Nat.le_refl 256
      · rw [hall c hc]
        decide
      · decide
      · show 3 + (a.response.len.toNat + 1) ≤ 256
        omega
      · show i + 1 ≤ 256
        omega

/-- A response that begins later is missed. -/
theorem eseReadData_late {a : EseAnswer} (h : 1000 ≤ a.idle.length) (rest : List UInt8) (answers : List EseAnswer) :
    (line.eseReadData ⟨a.bytes ++ rest, answers⟩).ret = negEtime := by
  have hfind : find eseSof 1000 (a.bytes ++ rest) = none := by
    rw [EseAnswer.bytes, List.append_assoc]
    exact find_of_le a.noSof h _
  have hzero : (0 : UInt8) ≠ eseSof := by decide
  have hmissed := sofLoop_missed (x := ⟨fun _ => 0, [(0, 256)], ⟨a.bytes ++ rest, answers⟩⟩) hzero hfind
  rw [Port.eseReadData]
  dsimp only
  rw [if_pos hmissed]

/-! ## The tests -/

/-- The response is not late, and fits into the buffer. -/
def EseAnswer.Timely (a : EseAnswer) : Prop := a.idle.length < 1000 ∧ a.response.len ≤ 252

/-- One command on a line on which nothing is left. -/
theorem exchanged_gets_iff (cmd : List UInt8) (a : EseAnswer) (answers : List EseAnswer) :
    Gets a.response (line.exchanged ⟨[], a :: answers⟩ cmd) ↔ a.Timely := by
  have hsend : line.exchanged ⟨[], a :: answers⟩ cmd = line.eseReadData ⟨a.bytes ++ [], answers⟩ := by
    rw [List.append_nil]
    rfl
  rw [hsend]
  by_cases h : a.idle.length < 1000
  · obtain ⟨hret, hframe, -, hinside⟩ := eseReadData_line h [] answers
    constructor
    · intro hgets
      exact ⟨h, hinside.1 hgets.inside⟩
    · intro htimely
      exact ⟨hret, hframe, hinside.2 htimely.2⟩
  · refine iff_of_false (fun hgets => ?_) fun htimely => h htimely.1
    have hlate := eseReadData_late (Nat.not_lt.1 h) [] answers
    have hret := hgets.ret
    rw [hlate] at hret
    exact absurd hret (by unfold negEtime; omega)

/-- After a response that is not late, nothing is left on the line. -/
theorem exchanged_port {a : EseAnswer} (h : a.idle.length < 1000) (cmd : List UInt8) (answers : List EseAnswer) :
    (line.exchanged ⟨[], a :: answers⟩ cmd).left.port = ⟨[], answers⟩ := by
  have hsend : line.exchanged ⟨[], a :: answers⟩ cmd = line.eseReadData ⟨a.bytes ++ [], answers⟩ := by
    rw [List.append_nil]
    rfl
  rw [hsend]
  exact (eseReadData_line h [] answers).2.2.1

/-- What `ese_common_cmd_test` returns with: the first response in eleven whose length is not 0, or the last of them. -/
theorem retryLoop_gets (pcmd : List UInt8) {skipped : List EseAnswer} (hskipped : ∀ b ∈ skipped, b.idle.length < 1000 ∧ b.response.len = 0)
    {a : EseAnswer} (ha : a.Timely) (rest : List EseAnswer) {n : ℕ} (hn : skipped.length ≤ n)
    (hlast : a.response.len ≠ 0 ∨ skipped.length = n) :
    Gets a.response (line.retryLoop ⟨[], skipped ++ a :: rest⟩ pcmd n) ∧
      (line.retryLoop ⟨[], skipped ++ a :: rest⟩ pcmd n).left.port = ⟨[], rest⟩ := by
  induction skipped generalizing n with
  | nil =>
    have hgets := (exchanged_gets_iff pcmd a rest).2 ha
    have hport := exchanged_port ha.1 pcmd rest
    cases n with
    | zero => exact ⟨hgets, hport⟩
    | succ n =>
      have hlen : a.response.len ≠ 0 := hlast.resolve_right (by simp)
      have hpos : a.response.len.toNat ≠ 0 := fun h => hlen (UInt8.toNat_inj.1 h)
      have hlong : ¬(line.exchanged ⟨[], a :: rest⟩ pcmd).ret ≤ 4 := by
        rw [hgets.ret, a.response.length_frame]
        omega
      have hloop : line.retryLoop ⟨[], a :: rest⟩ pcmd (n + 1) = line.exchanged ⟨[], a :: rest⟩ pcmd := by
        rw [Port.retryLoop]
        exact if_neg hlong
      rw [List.nil_append, hloop]
      exact ⟨hgets, hport⟩
  | cons b skipped ih =>
    obtain ⟨⟨hidle, hempty⟩, hskipped⟩ := List.forall_mem_cons.1 hskipped
    have hgets := (exchanged_gets_iff pcmd b (skipped ++ a :: rest)).2 ⟨hidle, by rw [hempty]; decide⟩
    have hport := exchanged_port hidle pcmd (skipped ++ a :: rest)
    have hshort : (line.exchanged ⟨[], b :: (skipped ++ a :: rest)⟩ pcmd).ret ≤ 4 := by
      rw [hgets.ret, b.response.length_frame, hempty]
      decide
    cases n with
    | zero => exact absurd hn (by simp)
    | succ n =>
      have hloop : line.retryLoop ⟨[], b :: (skipped ++ a :: rest)⟩ pcmd (n + 1) = line.retryLoop ⟨[], skipped ++ a :: rest⟩ pcmd n := by
        rw [Port.retryLoop, ← hport]
        exact if_pos hshort
      rw [List.cons_append, hloop]
      exact ih hskipped (Nat.le_of_succ_le_succ hn) (hlast.imp_right fun h => Nat.succ.inj h)

theorem eseCommonCmdTest_gets (pcmd : List UInt8) {skipped : List EseAnswer}
    (hskipped : ∀ b ∈ skipped, b.idle.length < 1000 ∧ b.response.len = 0) {a : EseAnswer} (ha : a.Timely) (rest : List EseAnswer)
    (hn : skipped.length ≤ 10) (hlast : a.response.len ≠ 0 ∨ skipped.length = 10) :
    Gets a.response (line.eseCommonCmdTest ⟨[], skipped ++ a :: rest⟩ pcmd) ∧
      (line.eseCommonCmdTest ⟨[], skipped ++ a :: rest⟩ pcmd).left.port = ⟨[], rest⟩ :=
  retryLoop_gets pcmd hskipped ha rest hn hlast

/-- Every command gets its own response, from inside the buffer. -/
def GetEach (answers : List EseAnswer) (reads : List (Port.EseRead Line)) : Prop :=
  List.Forall₂ (fun a x => Gets a.response x) answers reads

/-- Commands on a line on which nothing is left. -/
theorem exchanges_get_each_iff (cmds : List (List UInt8)) (answers : List EseAnswer) (h : cmds.length = answers.length) :
    GetEach answers (line.exchanges ⟨[], answers⟩ cmds) ↔ ∀ a ∈ answers, a.Timely := by
  unfold GetEach
  induction cmds generalizing answers with
  | nil =>
    obtain rfl := List.length_eq_zero_iff.1 h.symm
    exact iff_of_true .nil (by simp)
  | cons cmd cmds ih =>
    cases answers with
    | nil => cases h
    | cons a answers =>
      have hfirst := exchanged_gets_iff cmd a answers
      rw [Port.exchanges, List.forall₂_cons, List.forall_mem_cons, hfirst]
      refine and_congr_right fun htimely => ?_
      rw [exchanged_port htimely.1]
      exact ih answers (Nat.succ.inj h)

/-- For every list of commands, each with the answer of the eSE to it, every command gets its own response, from inside the buffer,
exactly when every response begins within a thousand bytes and has a length of at most 252; and so it is in the three tests. -/
theorem exchanges_in_step_iff :
    (∀ rounds : List (List UInt8 × EseAnswer), let answers := rounds.map Prod.snd
      GetEach answers (line.exchanges ⟨[], answers⟩ (rounds.map Prod.fst)) ↔ ∀ a ∈ answers, a.Timely) ∧
    (∀ a b c d : EseAnswer,
      GetEach [a, b, c, d] (line.cplcTest80tLogicCh1 ⟨[], [a, b, c, d]⟩) ↔ ∀ x ∈ [a, b, c, d], x.Timely) ∧
    (∀ a b c : EseAnswer, GetEach [a, b, c] (line.cplcTest80tLogicCh0 ⟨[], [a, b, c]⟩) ↔ ∀ x ∈ [a, b, c], x.Timely) ∧
    ∀ a b : EseAnswer, GetEach [a, b] (line.cplcTest80tBasiCh0 ⟨[], [a, b]⟩) ↔ ∀ x ∈ [a, b], x.Timely := by
  refine ⟨fun rounds => ?_, fun a b c d => ?_, fun a b c => ?_, fun a b => ?_⟩
  · exact exchanges_get_each_iff _ _ (by simp)
  · exact exchanges_get_each_iff _ _ rfl
  · exact exchanges_get_each_iff _ _ rfl
  · exact exchanges_get_each_iff _ _ rfl

end EseManager
