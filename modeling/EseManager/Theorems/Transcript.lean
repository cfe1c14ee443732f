import EseManager.Lemmas.DemoClient
import EseManager.Lemmas.HexParser
import EseManager.Transcript

/-!
# A transcript can be replayed

What the client prints is exact: the packets of the SEND lines are the commands that have succeeded and whose response was taken, but
for the self test and the closing of the channel, and their digits, given to `-i` again, make the client give these commands.
-/

namespace EseManager

/-! ## The buffer -/

/-- The text of a packet. -/
def spaced (bs : List UInt8) : List UInt8 :=
  bs.flatMap fun b => [Hex.upperDigit (b.toNat / 16), Hex.upperDigit (b.toNat % 16), ' '.toUInt8]

/-- The digits of a packet. -/
def digits (bs : List UInt8) : List UInt8 := bs.flatMap fun b => [Hex.upperDigit (b.toNat / 16), Hex.upperDigit (b.toNat % 16)]

theorem spaced_cons (b : UInt8) (bs : List UInt8) :
    spaced (b :: bs) = Hex.upperDigit (b.toNat / 16) :: Hex.upperDigit (b.toNat % 16) :: ' '.toUInt8 :: spaced bs := rfl

theorem digits_cons (b : UInt8) (bs : List UInt8) :
    digits (b :: bs) = Hex.upperDigit (b.toNat / 16) :: Hex.upperDigit (b.toNat % 16) :: digits bs := rfl

theorem length_spaced (bs : List UInt8) : (spaced bs).length = bs.length * 3 := by
  induction bs with
  | nil => rfl
  | cons b bs ih =>
    simp only [spaced_cons, List.length_cons, ih]
    omega

theorem isDigit_upperDigit {v : ℕ} (h : v < 16) : Hex.IsDigit (Hex.upperDigit v) := (Hex.digit_upperDigit h).isDigit

/-- The two halves of a byte. -/
theorem halves_lt (b : UInt8) : b.toNat / 16 < 16 ∧ b.toNat % 16 < 16 := by
  have hb := b.toNat_lt
  omega

/-- The digits of a packet are a way to write it. -/
theorem renders_digits (bs : List UInt8) : Hex.Renders bs (digits bs) := by
  induction bs with
  | nil => exact .nil
  | cons b bs ih =>
    obtain ⟨hhigh, hlow⟩ := halves_lt b
    exact .cons (Hex.digit_upperDigit hhigh) (Hex.digit_upperDigit hlow) ih

theorem not_isDigit_blank : ¬Hex.IsDigit ' '.toUInt8 := by decide

/-- They are what the text leaves without its blanks. -/
theorem filter_spaced (bs : List UInt8) : (spaced bs).filter (fun c => decide (Hex.IsDigit c)) = digits bs := by
  induction bs with
  | nil => rfl
  | cons b bs ih =>
    obtain ⟨hhigh, hlow⟩ := halves_lt b
    rw [spaced_cons, digits_cons, ← ih]
    simp [isDigit_upperDigit hhigh, isDigit_upperDigit hlow, not_isDigit_blank]

/-- There is no NUL in the text. -/
theorem zero_notMem_spaced (bs : List UInt8) : 0 ∉ spaced bs := by
  intro h
  obtain ⟨b, -, hb⟩ := List.mem_flatMap.1 h
  obtain ⟨hhigh, hlow⟩ := halves_lt b
  simp only [List.mem_cons, List.not_mem_nil, or_false] at hb
  rcases hb with hb | hb | hb
  · exact Hex.not_isDigit_zero (hb ▸ isDigit_upperDigit hhigh)
  · exact Hex.not_isDigit_zero (hb ▸ isDigit_upperDigit hlow)
  · exact absurd hb (by decide)

/-- From a NUL on, the loop stores the text of the bytes and a NUL. -/
theorem printLoop_memory (pData : Mem) (n i : ℕ) (printBuffer : Mem) (h : printBuffer (i * 3) = 0) :
    (printLoop pData i printBuffer n).memory = printBuffer.write (i * 3) (spaced (pData.read i n) ++ [0]) := by
  induction n generalizing i printBuffer with
  | zero => exact (printBuffer.write_self _ h).symm
  | succ n ih =>
    have hnul : printBuffer.write (i * 3) (snprintfByte (pData i)) ((i + 1) * 3) = 0 := by
      have hoff : (i + 1) * 3 - i * 3 = 3 := by omega
      have hle : i * 3 ≤ (i + 1) * 3 := by omega
      simp [Mem.write, hoff, hle, snprintfByte]
    have hread : pData.read i (n + 1) = pData i :: pData.read (i + 1) n := by
      rw [Nat.add_comm, Mem.read_add]
      rfl
    have hoff : (i + 1) * 3 = i * 3 + 1 + 1 + 1 := by omega
    have hlen : [(0 : UInt8)].length ≤ (spaced (pData.read (i + 1) n) ++ [0]).length := by simp
    show (printLoop pData (i + 1) (printBuffer.write (i * 3) (snprintfByte (pData i))) n).memory = _
    -- the first of the bytes behind overwrites the NUL
    rw [ih _ _ hnul, hread, hoff, spaced_cons, snprintfByte, Mem.write_cons, Mem.write_cons _ (i * 3 + 1),
      Mem.write_cons _ (i * 3 + 1 + 1), Mem.write_write_of_le _ _ hlen, ← Mem.write_cons, ← Mem.write_cons, ← Mem.write_cons]
    rfl

/-- The loop goes to the bytes of its packet and to its part of the buffer. -/
theorem printLoop_accesses (pData : Mem) (n i : ℕ) (printBuffer : Mem) :
    ∀ off len, .storeBuffer off len ∈ (printLoop pData i printBuffer n).accesses → off + len ≤ (i + n) * 3 + 1 := by
  induction n generalizing i printBuffer with
  | zero => simp [printLoop]
  | succ n ih =>
    intro off len h
    simp only [printLoop, List.mem_cons, reduceCtorEq, false_or, PrintAccess.storeBuffer.injEq] at h
    rcases h with ⟨rfl, rfl⟩ | h
    · omega
    · have := ih _ _ off len h
      omega

/-! ## The lines -/

/-- The packet is printed from inside the buffer. -/
def PrintedPacket.Inside (p : PrintedPacket) : Prop :=
  p.line.isSome ∧ ∀ off len, .storeBuffer off len ∈ p.accesses → off + len ≤ p.size

/-- A SEND line. -/
def sendLine (bs : List UInt8) : List UInt8 := chars "SEND:len = " ++ decimal3 bs.length ++ chars " > " ++ spaced bs ++ chars " \n"

/-- A RECV line. -/
def recvLine (bs : List UInt8) : List UInt8 := chars "RECV:len = " ++ decimal3 bs.length ++ chars " < " ++ spaced bs ++ chars " \n"

/-- The buffer holds the text of the packet and a NUL behind it. -/
theorem printPacket_buffer (stack pData : Mem) (len : ℕ) :
    (printLoop pData 0 (stack.write 0 (List.replicate (len * 3 + 1) 0)) len).memory.read 0 (len * 3 + 1) =
      spaced (pData.read 0 len) ++ [0] := by
  have hnul : stack.write 0 (List.replicate (len * 3 + 1) 0) (0 * 3) = 0 := by simp [Mem.write]
  have hsize : (spaced (pData.read 0 len) ++ [0]).length = len * 3 + 1 := by
    rw [List.length_append, length_spaced, Mem.length_read]
    rfl
  rw [printLoop_memory _ _ _ _ hnul, ← hsize]
  exact Mem.read_write _ _ _

/-- What is printed of the buffer. -/
theorem printPacket_text (stack pData : Mem) (len : ℕ) :
    let inBuffer := (printLoop pData 0 (stack.write 0 (List.replicate (len * 3 + 1) 0)) len).memory.read 0 (len * 3 + 1)
    (if 0 ∈ inBuffer then some (inBuffer.takeWhile (· ≠ 0)) else none) = some (spaced (pData.read 0 len)) := by
  intro inBuffer
  have hbuffer : inBuffer = spaced (pData.read 0 len) ++ [0] := printPacket_buffer stack pData len
  have hnot : ∀ c ∈ spaced (pData.read 0 len), decide (c ≠ 0) = true := by
    intro c hc
    rw [decide_eq_true_iff]
    rintro rfl
    exact zero_notMem_spaced _ hc
  rw [hbuffer, if_pos (by simp), List.takeWhile_append_of_pos hnot]
  simp

/-- What is printed for SEND and for RECV. -/
theorem printPacket_line (stack pData : Mem) (len : UInt16) :
    (printPacket stack (chars "SEND") pData len).line = some (sendLine (pData.read 0 len.toNat)) ∧
      (printPacket stack (chars "RECV") pData len).line = some (recvLine (pData.read 0 len.toNat)) := by
  have htext := printPacket_text stack pData len.toNat
  have hsend : (chars "SEND").take 4 = chars "SEND" := by decide
  have hrecv : (chars "RECV").take 4 = chars "RECV" := by decide
  have hne : chars "RECV" ≠ chars "SEND" := by decide
  constructor
  · simp only [printPacket, hsend, if_true, htext, Option.map_some, sendLine, Mem.length_read]
  · simp only [printPacket, hrecv, hne, if_true, if_false, htext, Option.map_some, recvLine, Mem.length_read]

/-- Every packet is printed from inside the buffer. -/
theorem printPacket_inside (stack pData : Mem) (len : UInt16) :
    (printPacket stack (chars "SEND") pData len).Inside ∧ (printPacket stack (chars "RECV") pData len).Inside := by
  obtain ⟨hsend, hrecv⟩ := printPacket_line stack pData len
  have hstores : ∀ pString off n, .storeBuffer off n ∈ (printPacket stack pString pData len).accesses →
      off + n ≤ (printPacket stack pString pData len).size := by
    intro pString off n h
    rcases List.mem_cons.1 h with h | h
    · cases h
      show 0 + (len.toNat * 3 + 1) ≤ len.toNat * 3 + 1
      omega
    · have hle := printLoop_accesses _ _ _ _ off n h
      show off + n ≤ len.toNat * 3 + 1
      omega
  exact ⟨⟨by rw [hsend]; rfl, hstores _⟩, ⟨by rw [hrecv]; rfl, hstores _⟩⟩

/-- So are those of a command and its response. -/
theorem printExchange_inside (stack cmd : Mem) (cmdLen : ℕ) (resp : Mem) (respLen : UInt32) :
    ∀ p ∈ printExchange stack cmd cmdLen resp respLen, p.Inside := by
  intro p hp
  simp only [printExchange, List.mem_cons, List.not_mem_nil, or_false] at hp
  rcases hp with rfl | rfl
  · exact (printPacket_inside stack cmd _).1
  · exact (printPacket_inside stack resp _).2

/-- What is printed after a command, if its response is taken. -/
def linesOr (a : TaAnswer) (printed : List PrintedPacket) : List PrintedPacket :=
  if a.ret ≠ teecSuccess then [] else if ¬a.Copied then [] else printed

theorem linesOr_of_taken {a : TaAnswer} (h : a.Taken) (printed : List PrintedPacket) : linesOr a printed = printed := by
  rw [linesOr, if_neg (not_not.2 h.ret), if_neg (not_not.2 h.copied)]

theorem linesOr_of_not_taken {a : TaAnswer} (h : ¬a.Taken) (printed : List PrintedPacket) : linesOr a printed = [] := by
  unfold linesOr
  rcases TaAnswer.kills_or_of_not_taken h with hk | hret
  · rw [if_neg (not_not.2 hk.ret), if_pos hk.not_copied]
  · rw [if_pos hret]

theorem mem_of_mem_linesOr {a : TaAnswer} {printed : List PrintedPacket} {p : PrintedPacket} (h : p ∈ linesOr a printed) :
    p ∈ printed := by
  by_cases htaken : a.Taken
  · rw [linesOr_of_taken htaken] at h
    exact h
  · rw [linesOr_of_not_taken htaken] at h
    cases h

/-- And those of every option. -/
theorem lines_inside (stack : Mem) (s : DemoState) (o : DemoOption) : ∀ p ∈ s.lines stack o, p.Inside := by
  have hcmd : ∀ cmd resp b, ∀ p ∈ printCommand stack cmd resp b, p.Inside := fun cmd resp b => printExchange_inside _ _ _ _ _
  intro p hp
  cases o with
  | c a =>
    have hrest : ∀ (b : TaAnswer) (cmd : List UInt8) (resp : Mem) (qs : List PrintedPacket),
        (∀ q ∈ qs, q.Inside) → ∀ q ∈ linesOr b (printCommand stack cmd resp b ++ qs), q.Inside := by
      intro b cmd resp qs hqs q hq
      rcases List.mem_append.1 (mem_of_mem_linesOr hq) with hq | hq
      · exact hcmd _ _ _ q hq
      · exact hqs q hq
    exact hrest _ _ _ _ (hrest _ _ _ _ (hrest _ _ _ _ fun q hq => hcmd _ _ _ q (mem_of_mem_linesOr hq))) p hp
  | t a => cases hp
  | unknown => cases hp
  | i optarg a =>
    simp only [DemoState.lines] at hp
    split at hp
    · cases hp
    · exact printExchange_inside _ _ _ _ _ p (mem_of_mem_linesOr hp)

/-! ## Reading a transcript -/

/-- The line is one of a command. -/
def IsSend (line : List UInt8) : Prop := line.take 4 = chars "SEND"

instance (line : List UInt8) : Decidable (IsSend line) := inferInstanceAs (Decidable (_ = _))

/-- The digits behind the arrow of a line. -/
def digitsOf (line : List UInt8) : List UInt8 :=
  (line.dropWhile fun c => decide (c ≠ '>'.toUInt8)).filter fun c => decide (Hex.IsDigit c)

theorem isSend_sendLine (bs : List UInt8) : IsSend (sendLine bs) := rfl

theorem not_isSend_recvLine (bs : List UInt8) : ¬IsSend (recvLine bs) := by
  have htake : (recvLine bs).take 4 = chars "RECV" := rfl
  rw [IsSend, htake]
  decide

/-- Decimal digits are between `0` and `9`. -/
theorem toNat_of_mem_toDigits {b : UInt8} {n : ℕ} (h : b ∈ (Nat.toDigits 10 n).map Char.toUInt8) : 48 ≤ b.toNat ∧ b.toNat ≤ 57 := by
  obtain ⟨c, hc, rfl⟩ := List.mem_map.1 h
  have hdigit := Nat.isDigit_of_mem_toDigits (by decide) (by decide) hc
  obtain ⟨hlow, hhigh⟩ : '0'.val ≤ c.val ∧ c.val ≤ '9'.val := by simpa [Char.isDigit] using hdigit
  rw [UInt32.le_iff_toNat_le] at hlow hhigh
  have hc8 : c.toUInt8.toNat = c.val.toNat % 256 := UInt32.toNat_toUInt8 _
  have h0 : '0'.val.toNat = 48 := rfl
  have h9 : '9'.val.toNat = 57 := rfl
  omega

/-- There is no arrow in a length. -/
theorem arrow_notMem_decimal3 (n : ℕ) : '>'.toUInt8 ∉ decimal3 n := by
  intro h
  unfold decimal3 at h
  rcases List.mem_append.1 h with h | h
  · exact absurd (List.eq_of_mem_replicate h) (by decide)
  · obtain ⟨-, hle⟩ := toNat_of_mem_toDigits h
    exact absurd hle (by decide)

/-- The digits of a SEND line are those of its packet. -/
theorem digitsOf_sendLine (bs : List UInt8) : digitsOf (sendLine bs) = digits bs := by
  have hpre : ∀ c ∈ chars "SEND:len = " ++ decimal3 bs.length ++ [' '.toUInt8], decide (c ≠ '>'.toUInt8) = true := by
    intro c hc
    rw [decide_eq_true_iff]
    rintro rfl
    simp only [List.mem_append, List.mem_singleton] at hc
    rcases hc with (hc | hc) | hc
    · exact absurd hc (by decide)
    · exact arrow_notMem_decimal3 _ hc
    · exact absurd hc (by decide)
  have hsplit : sendLine bs = (chars "SEND:len = " ++ decimal3 bs.length ++ [' '.toUInt8]) ++
      ('>'.toUInt8 :: ' '.toUInt8 :: (spaced bs ++ chars " \n")) := by
    simp [sendLine, chars]
  have hend : (chars " \n").filter (fun c => decide (Hex.IsDigit c)) = [] := by decide
  have harrow : ¬Hex.IsDigit '>'.toUInt8 := by decide
  rw [digitsOf, hsplit, List.dropWhile_append_of_pos hpre, List.dropWhile_cons_of_neg (by simp)]
  simp [harrow, not_isDigit_blank, hend, filter_spaced]

/-- The SEND lines of what is printed. -/
def sendLines (printed : List PrintedPacket) : List (List UInt8) := (printed.filterMap PrintedPacket.line).filter fun l => decide (IsSend l)

/-- What the trusted application is given, command by command. -/
def commandsGiven (events : List DemoEvent) : List (List UInt8) :=
  events.filterMap fun e =>
    match e with
    | .tee (.invokeCommand _ input _ _) => some input
    | _ => none

/-- The commands that have succeeded, but for the self test and the closing of the channel. -/
def commandsLogged (events : List DemoEvent) : List (List UInt8) :=
  events.filterMap fun e =>
    match e with
    | .tee (.invokeCommand id input _ ret) =>
      if ret = teecSuccess ∧ id ≠ esespiTest ∧ id ≠ closeChannel then some input else none
    | _ => none

theorem sendLines_append (ps qs : List PrintedPacket) : sendLines (ps ++ qs) = sendLines ps ++ sendLines qs := by
  simp [sendLines]

theorem commandsLogged_append (es fs : List DemoEvent) : commandsLogged (es ++ fs) = commandsLogged es ++ commandsLogged fs := by
  simp [commandsLogged]

theorem commandsGiven_append (es fs : List DemoEvent) : commandsGiven (es ++ fs) = commandsGiven es ++ commandsGiven fs := by
  simp [commandsGiven]

/-- The two lines after a command. -/
theorem sendLines_exchange (stack cmd resp : Mem) {cmdLen : ℕ} (h : cmdLen < 2 ^ 16) (respLen : UInt32) :
    sendLines (printExchange stack cmd cmdLen resp respLen) = [sendLine (cmd.read 0 cmdLen)] := by
  have hlen : (UInt16.ofNat cmdLen).toNat = cmdLen := UInt16.toNat_ofNat_of_lt' h
  obtain ⟨hsend, -⟩ := printPacket_line stack cmd (.ofNat cmdLen)
  obtain ⟨-, hrecv⟩ := printPacket_line stack resp respLen.toUInt16
  simp only [sendLines, printExchange, List.filterMap_cons, hsend, hrecv, List.filterMap_nil, hlen]
  rw [List.filter_cons_of_pos (by simp [isSend_sendLine]), List.filter_cons_of_neg (by simp [not_isSend_recvLine])]
  rfl

/-- Nothing is logged of a response. -/
theorem commandsLogged_received (a : TaAnswer) : commandsLogged ((received a).map .tee) = [] := rfl

/-- A command to the channel is logged when it has succeeded. -/
theorem commandsLogged_commanded {id : UInt32} (hid : id ≠ esespiTest ∧ id ≠ closeChannel) (cmd : List UInt8) (size : UInt32)
    (a : TaAnswer) : commandsLogged ((commanded id cmd size a).map .tee) = if a.ret = teecSuccess then [cmd] else [] := by
  unfold commandsLogged commanded
  by_cases h : a.ret = teecSuccess
  · simp [h, hid]
  · simp [h]

/-- So is one that is sent through it after a response. -/
theorem commandsLogged_transmitted (b : TaAnswer) (cmd : List UInt8) (size : UInt32) (a : TaAnswer) :
    commandsLogged ((received b ++ commanded channelTransmit cmd size a).map .tee) = if a.ret = teecSuccess then [cmd] else [] := by
  rw [List.map_append, commandsLogged_append, commandsLogged_received, List.nil_append]
  exact commandsLogged_commanded ⟨by decide, by decide⟩ cmd size a

/-- The closing of the channel is not. -/
theorem commandsLogged_closing (a : CrsAnswers) : commandsLogged ((closing a).map .tee) = [] := by
  rw [closing, List.map_append, commandsLogged_append, commandsLogged_received]
  simp [commandsLogged]

/-- Of the commands of an option that have succeeded, those whose response was taken: all of them, or all but the last one, when that
has ended the process. -/
def commandsTaken (alive : Bool) (cmds : List (List UInt8)) : List (List UInt8) := if alive = true then cmds else cmds.dropLast

/-- The client as it goes through its options, with the commands that have succeeded and whose response it has taken, but for the self
test and the closing of the channel. -/
def logging : Machine (Option DemoState) DemoOption (List (List UInt8)) where
  next := demo.next
  out s o := commandsTaken (demo.next s o).isSome (commandsLogged (demo.out s o))

/-- The SEND lines are those of the commands, and these can be sent again. -/
structure Logs (printed : List PrintedPacket) (cmds : List (List UInt8)) : Prop where
  lines : sendLines printed = cmds.map sendLine
  short : ∀ cmd ∈ cmds, cmd.length < 2 ^ 16

theorem Logs.nil : Logs [] [] := ⟨rfl, by simp⟩

theorem Logs.append {ps qs : List PrintedPacket} {cmds cmds' : List (List UInt8)} (h : Logs ps cmds) (h' : Logs qs cmds') :
    Logs (ps ++ qs) (cmds ++ cmds') := by
  constructor
  · rw [sendLines_append, List.map_append, h.lines, h'.lines]
  · intro cmd hcmd
    exact (List.mem_append.1 hcmd).elim (h.short cmd) (h'.short cmd)

/-- The two lines after a command of `invoke_transmit`. -/
theorem logs_printCommand (stack : Mem) {cmd : List UInt8} (h : cmd.length < 2 ^ 16) (resp : Mem) (a : TaAnswer) :
    Logs (printCommand stack cmd resp a) [cmd] := by
  have hread : (commandMem cmd).read 0 cmd.length = cmd := Mem.read_write _ 0 cmd
  refine ⟨?_, fun c hc => List.mem_singleton.1 hc ▸ h⟩
  rw [printCommand, sendLines_exchange stack _ _ h, hread]
  rfl

/-- A command at which `invoke_transmit` stops is not among them: it has failed, or ended the process. -/
theorem commandsTaken_stopped (a : TaAnswer) (cmds : List (List UInt8)) (cmd : List UInt8) :
    commandsTaken a.stopValue.isSome (cmds ++ if a.ret = teecSuccess then [cmd] else []) = cmds := by
  unfold commandsTaken TaAnswer.stopValue
  by_cases hret : a.ret = teecSuccess
  · simp [hret]
  · simp [hret]

/-- The lines of `-c`. -/
theorem logs_transmit (stack : Mem) (op : Operation) (a : CrsAnswers) :
    Logs (transmitLines stack a)
      (commandsTaken (invokeTransmit op a).1.isSome (commandsLogged ((invokeTransmit op a).2.events.map .tee))) := by
  have hopening : commandsLogged ((opening op a).map .tee) = if a.openChannel.ret = teecSuccess then [crsAid] else [] :=
    commandsLogged_commanded ⟨by decide, by decide⟩ _ _ _
  have hasking : commandsLogged ((asking a).map .tee) = if a.getStatus.ret = teecSuccess then [getStatusDeactive] else [] :=
    commandsLogged_transmitted a.openChannel _ _ _
  have htoggling : commandsLogged ((toggling a).map .tee) = if a.setStatus.ret = teecSuccess then [a.toggle] else [] :=
    commandsLogged_transmitted a.getStatus _ _ _
  have hagain : commandsLogged ((askingAgain a).map .tee) =
      if a.getStatusAgain.ret = teecSuccess then [getStatusDeactive] else [] := commandsLogged_transmitted a.setStatus _ _ _
  have hstopped : ∀ b, commandsLogged ((stopped b).map .tee) = [] := by
    intro b
    unfold stopped
    split_ifs
    · exact commandsLogged_received b
    · rfl
  have hcrs : ∀ resp, Logs (printCommand stack crsAid resp a.openChannel) [crsAid] :=
    fun resp => logs_printCommand stack (by decide) resp _
  have hget : ∀ resp b, Logs (printCommand stack getStatusDeactive resp b) [getStatusDeactive] :=
    fun resp b => logs_printCommand stack (by decide) resp b
  have hset : ∀ resp, Logs (printCommand stack a.toggle resp a.setStatus) [a.toggle] :=
    fun resp => logs_printCommand stack (by simp [length_toggle]) resp _
  -- `resp` after each of the responses
  let r₁ := respAfter (fun _ => 0) a.openChannel
  let r₂ := respAfter r₁ a.getStatus
  let r₃ := respAfter r₂ a.setStatus
  let r₄ := respAfter r₃ a.getStatusAgain
  have hlines : transmitLines stack a =
      linesOr a.openChannel (printCommand stack crsAid r₁ a.openChannel ++
        linesOr a.getStatus (printCommand stack getStatusDeactive r₂ a.getStatus ++
          linesOr a.setStatus (printCommand stack a.toggle r₃ a.setStatus ++
            linesOr a.getStatusAgain (printCommand stack getStatusDeactive r₄ a.getStatusAgain)))) := rfl
  rw [hlines]
  have hexit := invokeTransmit_exit op a
  generalize (invokeTransmit op a).1 = ret at hexit ⊢
  generalize (invokeTransmit op a).2.events = events at hexit ⊢
  cases hexit with
  | notOpened h =>
    have htaken := commandsTaken_stopped a.openChannel [] crsAid
    rw [List.nil_append] at htaken
    rw [List.map_append, commandsLogged_append, hopening, hstopped, List.append_nil, linesOr_of_not_taken h, htaken]
    exact .nil
  | notAsked ho h =>
    have htaken := commandsTaken_stopped a.getStatus [crsAid] getStatusDeactive
    simp only [List.map_append, commandsLogged_append, hopening, hasking, hstopped, ho.ret, if_true, List.append_nil, htaken,
      linesOr_of_taken ho, linesOr_of_not_taken h]
    exact hcrs r₁
  | notToggled ho hg h =>
    have htaken := commandsTaken_stopped a.setStatus ([crsAid] ++ [getStatusDeactive]) a.toggle
    simp only [List.map_append, commandsLogged_append, hopening, hasking, htoggling, hstopped, ho.ret, hg.ret, if_true,
      List.append_nil, htaken, linesOr_of_taken ho, linesOr_of_taken hg, linesOr_of_not_taken h]
    exact (hcrs r₁).append (hget r₂ _)
  | notAskedAgain ho hg hs h =>
    have htaken := commandsTaken_stopped a.getStatusAgain ([crsAid] ++ [getStatusDeactive] ++ [a.toggle]) getStatusDeactive
    simp only [List.map_append, commandsLogged_append, hopening, hasking, htoggling, hagain, hstopped, ho.ret, hg.ret, hs.ret,
      if_true, List.append_nil, htaken, linesOr_of_taken ho, linesOr_of_taken hg, linesOr_of_taken hs, linesOr_of_not_taken h]
    rw [List.append_assoc]
    exact (hcrs r₁).append ((hget r₂ _).append (hset r₃))
  | closed ho hg hs ha =>
    simp only [List.map_append, commandsLogged_append, hopening, hasking, htoggling, hagain, commandsLogged_closing, ho.ret, hg.ret,
      hs.ret, ha.ret, if_true, List.append_nil, linesOr_of_taken ho, linesOr_of_taken hg, linesOr_of_taken hs, linesOr_of_taken ha]
    rw [commandsTaken, if_pos Option.isSome_some, List.append_assoc, List.append_assoc]
    exact (hcrs r₁).append ((hget r₂ _).append ((hset r₃).append (hget r₄ _)))

/-- The argument of `-i` makes fewer than 2^16 bytes. -/
def DemoOption.Short : DemoOption → Prop
  | .i optarg _ => ∀ byte n, (hexcharToByte optarg byte).byteLen = some n → n < 2 ^ 16
  | _ => True

/-- Two characters are read for each byte. -/
theorem byteLen_hexLoop_le (i j : ℕ) (byte : Mem) (hexstring : List UInt8) {n : ℕ} (h : (hexLoop i j byte hexstring).byteLen = some n) :
    2 * n ≤ 2 * j + hexstring.length := by
  induction i, j, byte, hexstring using hexLoop.induct with
  | case1 => cases h
  | case2 i j byte =>
    have hn : j = n := by simpa [hexLoop] using h
    omega
  | case3 i j byte c hc => simp [hexLoop, hc] at h
  | case4 i j byte d hexstring =>
    have hn : j = n := by simpa [hexLoop] using h
    omega
  | case5 i j byte c d hexstring hc ih =>
    rw [hexLoop_step hc] at h
    have hle := ih h
    rw [List.length_cons, List.length_cons]
    omega

/-- An argument of fewer than 2^17 characters does. -/
theorem short_of_length {optarg : List UInt8} (h : optarg.length < 2 ^ 17) (a : TaAnswer) : (DemoOption.i optarg a).Short := by
  intro byte n hn
  have hle := byteLen_hexLoop_le 0 0 byte optarg hn
  omega

/-- The accesses to an argument are no commands. -/
theorem commandsLogged_onArg {events : List DemoEvent} (h : ∀ e ∈ events, e.OnArg) : commandsLogged events = [] := by
  refine List.filterMap_eq_nil_iff.2 fun e he => ?_
  have harg := h e he
  cases e with
  | readArg => rfl
  | storeByte => rfl
  | tee => exact harg.elim

/-- The bytes of an APDU are what is offered. -/
theorem offered_eq (op : Operation) (halCmd : Mem) {halCmdLen : ℕ} (h : halCmdLen < 2 ^ 32) :
    offered op halCmd halCmdLen = halCmd.read 0 halCmdLen :=
  Transmission.input_putCommand _ (by rw [Mem.length_read]; exact h)

/-- An APDU is logged when it has succeeded. -/
theorem commandsLogged_apdu (halCmdLen : ℕ) (input : List UInt8) (a : TaAnswer) :
    commandsLogged ((apduEvents halCmdLen input a).map .tee) = if a.ret = teecSuccess then [input] else [] := by
  have hid : halTransmit ≠ esespiTest ∧ halTransmit ≠ closeChannel := ⟨by decide, by decide⟩
  by_cases hret : a.ret = teecSuccess
  · simp [apduEvents, received, commandsLogged, hret, hid]
  · simp [apduEvents, commandsLogged, hret]

/-- The lines of an option. -/
theorem logs_option (stack : Mem) (s : DemoState) {o : DemoOption} (h : o.Short) :
    Logs (s.lines stack o) (commandsTaken (s.serve o).1.isSome (commandsLogged (s.serve o).2)) := by
  cases o with
  | c a =>
    simp only [DemoState.serve, Option.isSome_map]
    exact logs_transmit stack s.operation a
  | t a =>
    have hlogged : commandsLogged (s.serve (.t a)).2 = [] := by
      simp [DemoState.serve, commandsLogged, Transmission.invoke, Transmission.start]
    rw [hlogged]
    exact .nil
  | unknown => exact .nil
  | i optarg a =>
    have hread : commandsLogged (hexcharToByte optarg s.halCmd).events = [] := commandsLogged_onArg (hexLoop_onArg 0 0 s.halCmd optarg)
    simp only [DemoState.lines, DemoState.serve]
    cases hlen : (hexcharToByte optarg s.halCmd).byteLen with
    | none =>
      rw [hread]
      exact .nil
    | some halCmdLen =>
      have hshort := h s.halCmd halCmdLen hlen
      have hoffered := offered_eq s.operation (hexcharToByte optarg s.halCmd).byte (show halCmdLen < 2 ^ 32 by omega)
      obtain ⟨hlives, hevents⟩ := invokeHalTransmit_eq s.operation (hexcharToByte optarg s.halCmd).byte halCmdLen a
      dsimp only
      rw [hevents, hoffered, Option.isSome_map, commandsLogged_append, hread, List.nil_append, commandsLogged_apdu]
      by_cases htaken : a.Taken
      · rw [hlives.2 htaken.not_kills, if_pos htaken.ret]
        have hlines : halTransmitLines stack s.operation (hexcharToByte optarg s.halCmd).byte halCmdLen a = _ :=
          linesOr_of_taken htaken _
        rw [hlines]
        refine ⟨sendLines_exchange stack _ _ hshort _, fun cmd hcmd => ?_⟩
        rw [List.mem_singleton.1 hcmd, Mem.length_read]
        exact hshort
      · have hlines : halTransmitLines stack s.operation (hexcharToByte optarg s.halCmd).byte halCmdLen a = [] :=
          linesOr_of_not_taken htaken _
        rw [hlines]
        rcases TaAnswer.kills_or_of_not_taken htaken with hk | hret
        · have hdead := mt hlives.1 (not_not.2 hk)
          rw [Bool.not_eq_true] at hdead
          rw [hdead, if_pos hk.ret]
          exact .nil
        · rw [if_neg hret]
          simpa [commandsTaken] using Logs.nil

/-- The lines of a run. -/
theorem logs_run (stack : Mem) (d : Option DemoState) {options : List DemoOption} (h : ∀ o ∈ options, o.Short) :
    Logs ((printing stack).outs d options).flatten (logging.outs d options).flatten := by
  induction options generalizing d with
  | nil => exact .nil
  | cons o options ih =>
    have hone : Logs ((printing stack).out d o) (logging.out d o) := by
      cases d with
      | none => exact .nil
      | some s => exact logs_option stack s (h o List.mem_cons_self)
    exact hone.append (ih (demo.next d o) fun p hp => h p (List.mem_cons_of_mem o hp))

/-! ## Replaying a transcript -/

/-- The digits of every SEND line as an argument of `-i`, with the answers to them. -/
def replay (printed : List PrintedPacket) (answers : List TaAnswer) : List DemoOption :=
  List.zipWith (fun l a => .i (digitsOf l ++ [0]) a) (sendLines printed) answers

/-- The digits of a packet, given to `-i`, send the packet. -/
theorem serve_digits (d : DemoState) {bs : List UInt8} (h : bs.length < 2 ^ 16) {a : TaAnswer} (ha : ¬a.Kills) :
    commandsGiven (d.serve (.i (digits bs ++ [0]) a)).2 = [bs] ∧ (d.serve (.i (digits bs ++ [0]) a)).1.isSome := by
  have hrenders := renders_digits bs
  have hgrammar := (Hex.grammar_iff_renders _).2 ⟨bs, hrenders⟩
  have hloop := hexLoop_even hgrammar.zero_notMem hgrammar.1 0 0 d.halCmd []
  rw [hexPairs_renders hrenders, Nat.zero_add] at hloop
  have hparsed : hexcharToByte (digits bs ++ [0]) d.halCmd = ⟨some bs.length, d.halCmd.write 0 bs, hexEvents 0 0 bs⟩ := hloop
  have hoffered := offered_eq d.operation (d.halCmd.write 0 bs) (show bs.length < 2 ^ 32 by omega)
  rw [Mem.read_write] at hoffered
  obtain ⟨hlives, hevents⟩ := invokeHalTransmit_eq d.operation (d.halCmd.write 0 bs) bs.length a
  have hread : commandsGiven (hexEvents 0 0 bs) = [] := by
    refine List.filterMap_eq_nil_iff.2 fun e he => ?_
    cases e with
    | readArg => rfl
    | storeByte => rfl
    | tee e => exact absurd he (tee_notMem_hexEvents 0 0 bs e)
  simp only [DemoState.serve, hparsed, hevents, hoffered, Option.isSome_map]
  refine ⟨?_, hlives.2 ha⟩
  rw [commandsGiven_append, hread]
  by_cases hret : a.ret = teecSuccess
  · simp [apduEvents, received, commandsGiven, hret]
  · simp [apduEvents, commandsGiven, hret]

/-- So do the digits of several packets, one after the other. -/
theorem outs_digits {cmds : List (List UInt8)} (h : ∀ cmd ∈ cmds, cmd.length < 2 ^ 16) {answers : List TaAnswer}
    (ha : ∀ a ∈ answers, ¬a.Kills) (hlen : cmds.length ≤ answers.length) (d : DemoState) :
    commandsGiven (demo.outs (some d) (List.zipWith (fun cmd a => .i (digits cmd ++ [0]) a) cmds answers)).flatten = cmds := by
  induction cmds generalizing d answers with
  | nil => rfl
  | cons cmd cmds ih =>
    cases answers with
    | nil => cases hlen
    | cons a answers =>
      obtain ⟨hgiven, hsome⟩ := serve_digits d (h cmd List.mem_cons_self) (ha a List.mem_cons_self)
      obtain ⟨d', hd'⟩ := Option.isSome_iff_exists.1 hsome
      have hrest := ih (fun c hc => h c (List.mem_cons_of_mem cmd hc)) (fun b hb => ha b (List.mem_cons_of_mem a hb))
        (Nat.le_of_succ_le_succ hlen) d'
      have hnext : demo.next (some d) (.i (digits cmd ++ [0]) a) = some d' := hd'
      have hout : demo.out (some d) (.i (digits cmd ++ [0]) a) = (d.serve (.i (digits cmd ++ [0]) a)).2 := rfl
      rw [List.zipWith_cons_cons, Machine.outs, List.flatten_cons, commandsGiven_append, hnext, hout, hgiven, hrest]
      rfl

/-- For every run of the client in which no argument of `-i` makes 2^16 bytes, whatever the trusted application answers: every packet is
printed from inside its buffer, and when the digits of the SEND lines are given to `-i` again, to a client in any state, with answers of
its own to each of them that the process outlives, it gives the commands that have succeeded in the run and whose response was taken, in
order, but for the self test and the closing of the channel. -/
theorem transcript_replays (stack : Mem) (d : DemoState) (options : List DemoOption) (h : ∀ o ∈ options, o.Short) (d' : DemoState)
    (answers : List TaAnswer) (ha : ∀ a ∈ answers, ¬a.Kills) :
    let printed := ((printing stack).outs (some d) options).flatten
    (∀ p ∈ printed, p.Inside) ∧ ((sendLines printed).length ≤ answers.length →
      commandsGiven (demo.outs (some d') (replay printed answers)).flatten = (logging.outs (some d) options).flatten) := by
  intro printed
  obtain ⟨hlines, hshort⟩ := logs_run stack (some d) h
  refine ⟨?_, fun hlen => ?_⟩
  · refine ((printing stack).forall_mem_flatten_outs _ _).2 (Machine.along_of_forall_mem _ (fun o _ t => ?_) _)
    cases t with
    | none => simp [printing]
    | some s => exact lines_inside stack s o
  · have hreplay : replay printed answers =
        List.zipWith (fun cmd a => .i (digits cmd ++ [0]) a) (logging.outs (some d) options).flatten answers := by
      rw [replay, hlines, List.zipWith_map_left]
      simp only [digitsOf_sendLine]
    rw [hlines, List.length_map] at hlen
    rw [hreplay]
    exact outs_digits hshort ha hlen d'

/-- GET CPLC, written in capitals and small letters, an APDU that the chip refuses, and SELECT, with a response that the process does
not outlive. -/
def cplcAndRefused : List DemoOption :=
  [.i (chars "80cA9f7F00" ++ [0]) ⟨0, 2, fun _ => 0x90, true⟩, .i (chars "00A4" ++ [0]) ⟨teecErrorGeneric, 0, fun _ => 0, true⟩,
    .i (chars "00A4" ++ [0]) ⟨0, 0x80000000, fun _ => 0, true⟩]

/-- Of these three the first is printed, and sent when its line is given to the client again. -/
theorem transcript_replays_cplc :
    let printed := ((printing fun _ => 0xAA).outs (some ⟨initialOperation, fun _ => 0⟩) cplcAndRefused).flatten
    (∀ p ∈ printed, p.Inside) ∧
      commandsGiven (demo.outs (some ⟨initialOperation, fun _ => 0⟩) (replay printed [⟨0, 2, fun _ => 0x90, true⟩])).flatten =
        [[0x80, 0xCA, 0x9F, 0x7F, 0x00]] := by
  intro printed
  have hshort : ∀ o ∈ cplcAndRefused, o.Short := by
    intro o ho
    simp only [cplcAndRefused, List.mem_cons, List.not_mem_nil, or_false] at ho
    rcases ho with rfl | rfl | rfl
    · exact short_of_length (by decide) _
    · exact short_of_length (by decide) _
    · exact short_of_length (by decide) _
  have hlives : ∀ a ∈ [(⟨0, 2, fun _ => 0x90, true⟩ : TaAnswer)], ¬a.Kills := by
    intro a ha hk
    rw [List.mem_singleton.1 ha] at hk
    exact hk.not_copied (by decide)
  obtain ⟨hinside, hreplayed⟩ := transcript_replays (fun _ => 0xAA) ⟨initialOperation, fun _ => 0⟩ cplcAndRefused hshort
    ⟨initialOperation, fun _ => 0⟩ _ hlives
  have hlogged : (logging.outs (some ⟨initialOperation, fun _ => 0⟩) cplcAndRefused).flatten = [[0x80, 0xCA, 0x9F, 0x7F, 0x00]] := rfl
  have hlines := (logs_run (fun _ => 0xAA) (some ⟨initialOperation, fun _ => 0⟩) hshort).lines
  refine ⟨hinside, (hreplayed ?_).trans hlogged⟩
  rw [hlines, hlogged]
  exact Nat.le_refl 1

end EseManager
