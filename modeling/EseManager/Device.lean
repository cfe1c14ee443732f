import EseManager.PowerManager
import EseManager.Lemmas.Handlers

/-!
# The device under the daemon

The eSE as the daemon drives it through `/dev/p73`: a status word, whose SPI bit `P61_SET_SPM_PWR` sets and clears when the
ioctl succeeds. `plant` is the daemon with the device, when nobody else changes the status word: the word that the daemon reads
is the one its own calls have left.
-/

namespace EseManager

/-! ## Bits of the status word -/

theorem has_or (w m k : BitVec 32) : has w (m ||| k) = (has w m || has w k) := by
  rw [Bool.eq_iff_iff]
  simp only [has, bne_iff_ne, ne_eq, Bool.or_eq_true, BitVec.and_or_distrib_left, BitVec.or_eq_zero_iff]
  tauto

/-- Setting a bit does not touch the others. -/
theorem has_set_of_disjoint {w m k : BitVec 32} (h : m &&& k = 0#32) : has (w ||| m) k = has w k := by
  have : (w ||| m) &&& k = w &&& k := by
    rw [BitVec.and_comm, BitVec.and_or_distrib_left, BitVec.and_comm k w, BitVec.and_comm k m, h, BitVec.or_zero]
  simp only [has, this]

/-- Clearing a bit does not touch the others. -/
theorem has_clear_of_disjoint {w m k : BitVec 32} (h : m &&& k = 0#32) : has (w &&& ~~~m) k = has w k := by
  have : (w &&& ~~~m) &&& k = w &&& k := by
    ext i hi
    have hb := congrArg (fun x => x.getLsbD i) h
    simp only [BitVec.getLsbD_and, BitVec.getLsbD_zero] at hb
    simp only [BitVec.getElem_and, BitVec.getElem_not]
    rw [← BitVec.getLsbD_eq_getElem, ← BitVec.getLsbD_eq_getElem, ← BitVec.getLsbD_eq_getElem]
    cases hm : m.getLsbD i
    · simp
    · simp only [hm, Bool.true_and] at hb
      simp [hb]
  simp only [has, this]

/-- A set bit is set. -/
theorem has_set_self {w m : BitVec 32} (h : m ≠ 0#32) : has (w ||| m) m = true := by
  have : (w ||| m) &&& m = m := by
    ext i hi
    simp only [BitVec.getElem_and, BitVec.getElem_or]
    cases m[i] <;> simp
  simp only [has, this, bne_iff_ne]
  exact h

/-- A cleared bit is clear. -/
theorem has_clear_self (w m : BitVec 32) : has (w &&& ~~~m) m = false := by
  have : (w &&& ~~~m) &&& m = 0#32 := by
    ext i hi
    simp
  simp [has, this]

/-! ## The power of the eSE -/

/-- The status word after a call: a successful `P61_SET_SPM_PWR` sets or clears the SPI bit, other calls leave it. -/
def wordAfter (word : BitVec 32) : Call → BitVec 32
  | .ioctl _ (.setSpmPwr level) ret =>
    if ret < 0 then word else if level = 0 then word &&& ~~~p61StateSpi else word ||| p61StateSpi
  | _ => word

/-- The status word after the calls of a handler. -/
def wordAfterAll (word : BitVec 32) (calls : List Call) : BitVec 32 := calls.foldl wordAfter word

/-- The eSE has SPI power. -/
def SpiPower (word : BitVec 32) : Prop := has word p61StateSpi = true

instance (word : BitVec 32) : Decidable (SpiPower word) := by
  unfold SpiPower
  infer_instance

/-- A power-on that the device grants sets the bit. -/
theorem wordAfter_on (fd : Int) {ret : Int} (h : 0 ≤ ret) (word : BitVec 32) :
    wordAfter word (.ioctl fd (.setSpmPwr 1) ret) = word ||| p61StateSpi := by
  simp [wordAfter, Int.not_lt.2 h]

/-- A power-off that it grants clears the bit. -/
theorem wordAfter_off (fd : Int) {ret : Int} (h : 0 ≤ ret) (word : BitVec 32) :
    wordAfter word (.ioctl fd (.setSpmPwr 0) ret) = word &&& ~~~p61StateSpi := by
  simp [wordAfter, Int.not_lt.2 h]

theorem spiPower_set (word : BitVec 32) : SpiPower (word ||| p61StateSpi) := has_set_self (by decide)

theorem not_spiPower_clear (word : BitVec 32) : ¬SpiPower (word &&& ~~~p61StateSpi) := by
  unfold SpiPower
  rw [has_clear_self]
  exact Bool.false_ne_true

/-- No access on priority and no firmware download is in progress. -/
def NoConflict (word : BitVec 32) : Prop := has word p61StateSpiPrio = false ∧ has word p61StateDwnld = false

/-- Switching on begins no conflict. -/
theorem NoConflict.set {word : BitVec 32} (h : NoConflict word) : NoConflict (word ||| p61StateSpi) := by
  obtain ⟨hp, hd⟩ := h
  exact ⟨by rw [has_set_of_disjoint (by decide), hp], by rw [has_set_of_disjoint (by decide), hd]⟩

/-- Nor does switching off. -/
theorem NoConflict.clear {word : BitVec 32} (h : NoConflict word) : NoConflict (word &&& ~~~p61StateSpi) := by
  obtain ⟨hp, hd⟩ := h
  exact ⟨by rw [has_clear_of_disjoint (by decide), hp], by rw [has_clear_of_disjoint (by decide), hd]⟩

/-- Other calls leave the word as it is. -/
theorem wordAfter_of_not_power {c : Call} (h : c.isPower = false) (word : BitVec 32) : wordAfter word c = word := by
  unfold Call.isPower at h
  unfold wordAfter
  split
  · simp at h
  · rfl

/-- Calls that switch no power leave the status word. -/
theorem wordAfterAll_of_quiet {calls : List Call} (h : Quiet calls) (word : BitVec 32) :
    wordAfterAll word calls = word := by
  induction calls generalizing word with
  | nil => rfl
  | cons c cs ih =>
    have hc : wordAfter word c = word := wordAfter_of_not_power (h c (by simp)) word
    have ih' := ih (fun d hd => h d (List.mem_cons_of_mem _ hd)) word
    simpa [wordAfterAll, hc] using ih'

/-- The word after calls one after the other. -/
theorem wordAfterAll_append (word : BitVec 32) (cs ds : List Call) :
    wordAfterAll word (cs ++ ds) = wordAfterAll (wordAfterAll word cs) ds := by
  simp [wordAfterAll, List.foldl_append]

/-- Quiet calls in front make no difference to the status word. -/
theorem wordAfterAll_quiet_append {cs : List Call} (h : Quiet cs) (word : BitVec 32) (ds : List Call) :
    wordAfterAll word (cs ++ ds) = wordAfterAll word ds := by
  rw [wordAfterAll_append, wordAfterAll_of_quiet h]

/-! ## The daemon with its device -/

/-- The daemon and the status word of the device. -/
structure Plant where
  daemon : State
  word : BitVec 32

/-- The daemon with its device: the status word is what the daemon's own calls have left. -/
def plant : Machine Plant (Request × Answers) (Int × List Call) where
  next p x :=
    let o := handle p.daemon x.1 { x.2 with word := p.word }
    { daemon := o.state, word := wordAfterAll p.word o.calls }
  out p x :=
    let o := handle p.daemon x.1 { x.2 with word := p.word }
    (o.ret, o.calls)

/-- Every call to the device and to Binder succeeds. -/
structure Answers.Succeeds (a : Answers) : Prop where
  opens : ∃ fd, a.openFd = some fd
  status : 0 ≤ a.statusRet
  scheme : 0 ≤ a.schemeRet
  pwrOn : 0 ≤ a.pwrOnRet
  pwrOff : 0 ≤ a.pwrOffRet
  closes : a.closeRet = 0
  links : a.linkRet = noError

/-- The status word is no call. -/
theorem Answers.Succeeds.with_word {a : Answers} (h : a.Succeeds) (word : BitVec 32) :
    Answers.Succeeds { a with word := word } :=
  ⟨h.opens, h.status, h.scheme, h.pwrOn, h.pwrOff, h.closes, h.links⟩

/-- When every call succeeds, the node is open after `open_node`. -/
theorem nodeAfterOpen_nonneg {s : State} {a : Answers} (ha : a.Succeeds) : 0 ≤ nodeAfterOpen s a := by
  obtain ⟨fd, hfd⟩ := ha.opens
  unfold nodeAfterOpen openRet
  rw [hfd]
  split
  · exact Int.natCast_nonneg fd
  · omega

/-- An authorised, accepted `powerOn` with a notifier registers its caller when every call succeeds and nothing else is going on. -/
theorem powerOn_succeeds {s : State} {uid : Int} {a : Answers} (ha : a.Succeeds) (hi : NoConflict a.word)
    (hu : uidAllowed uid = true) (hb : BindingAccepted s a) (pid : Pid) (cb : Binder) :
    (powerOn s uid pid (some cb) a).ret = 1 ∧
      (powerOn s uid pid (some cb) a).state = registered (admittedState s a) pid cb := by
  have heq := powerOn_admitted ⟨hb, hu, nodeAfterOpen_nonneg ha⟩ pid (some cb)
  have hexit := powerOnNode_exit (admittedState s a) pid (some cb) a
  rw [heq, Outcome.after_ret, Outcome.after_state]
  generalize powerOnNode (admittedState s a) pid (some cb) a = o at hexit
  cases hexit with
  | statusFailed hst =>
    have := ha.status
    omega
  | switchFailed _ ret switched hs =>
    cases hs with
    | downloading _ hd =>
      rw [hi.2] at hd
      cases hd
    | schemeFailed _ _ h =>
      have := ha.scheme
      omega
    | powerFailed _ _ _ h =>
      have := ha.pwrOn
      omega
  | on _ switched hs o hr =>
    cases hr with
    | shared hn => cases hn
    | undoFailed hn => cases hn
    | undone hn => cases hn
    | linkFailed _ _ hl => exact absurd ha.links hl
    | registered cb' hn hl =>
      rw [Option.some.injEq] at hn
      subst hn
      exact ⟨rfl, rfl⟩

/-- The world when everything works: `/dev/p73` opens as descriptor 3, and every call succeeds. -/
def working : Answers :=
  { bindStatus := eseBindingRight, openFd := some 3, statusRet := 0, word := 0#32, schemeRet := 0, pwrOnRet := 0,
    pwrOffRet := 0, closeRet := 0, linkRet := noError }

theorem working_succeeds : working.Succeeds :=
  ⟨⟨3, rfl⟩, by decide, by decide, by decide, by decide, rfl, rfl⟩

end EseManager
