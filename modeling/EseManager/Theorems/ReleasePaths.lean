import EseManager.Registrations
import EseManager.Theorems.OpenNode

/-!
# The two release paths

A client gives up its holds one by one, with `powerOff`, or all at once, when it dies and `binderDied` is run for it. Both end by
erasing its pid and, when nobody else is registered, by switching the eSE off. Then `powerOff` closes the node, and `binderDied` leaves
it open.
-/

namespace EseManager

/-- The same pids are registered with the same data, the node is the same, and the eSE has SPI power in both or in neither. -/
structure SameRelease (p q : Plant) : Prop where
  pidsMap : p.daemon.pidsMap = q.daemon.pidsMap
  node : p.daemon.nqNode = q.daemon.nqNode
  power : SpiPower p.word ↔ SpiPower q.word

/-- `powerOff` requests of one process, each with the uid of its caller and the answers to it. -/
def powerOffs (pid : Pid) (offs : List (Int × Answers)) : List (Request × Answers) :=
  offs.map fun x => (.powerOff x.1 pid, x.2)

/-- What a release leaves: the registrations without the pid, the node, and the eSE without SPI power if nobody is left. -/
structure Unregistered (s : State) (pid : Pid) (word : BitVec 32) (node : Int) (q : Plant) : Prop where
  pidsMap : q.daemon.pidsMap = s.pidsMap.erase pid
  node : q.daemon.nqNode = node
  word : q.word = if (s.pidsMap.erase pid).isEmpty = true then word &&& ~~~p61StateSpi else word

/-- The node after the last of the `powerOff` requests. -/
def nodeAfterOffs (s : State) (pid : Pid) : Int := if (s.pidsMap.erase pid).isEmpty = true then -1 else s.nqNode

/-- Two releases of the same pid differ in the node at most. -/
theorem Unregistered.sameRelease_iff {s : State} {pid : Pid} {word : BitVec 32} {m n : Int} {p q : Plant}
    (hp : Unregistered s pid word m p) (hq : Unregistered s pid word n q) : SameRelease p q ↔ m = n := by
  constructor
  · rintro ⟨-, hnode, -⟩
    rw [← hp.node, ← hq.node, hnode]
  · intro h
    refine ⟨?_, ?_, ?_⟩
    · rw [hp.pidsMap, hq.pidsMap]
    · rw [hp.node, hq.node, h]
    · rw [hp.word, hq.word]

theorem unregistered_binderDied {s : State} (hn : 0 ≤ s.nqNode) (pid : Pid) (word : BitVec 32) {a : Answers}
    (ha : a.Succeeds) : Unregistered s pid word s.nqNode (plant.next ⟨s, word⟩ (.binderDied pid, a)) := by
  simp only [plant, handle_binderDied, binderDied_eq]
  refine ⟨rfl, rfl, ?_⟩
  by_cases he : (s.pidsMap.erase pid).isEmpty = true
  · rw [if_pos ⟨he, hn⟩, if_pos he]
    exact wordAfter_off s.nqNode ha.pwrOff word
  · rw [if_neg fun hc => he hc.1, if_neg he]
    rfl

/-- The last hold of a pid goes: its registration is erased, and the eSE is switched off if nobody else is registered. -/
theorem unregistered_last {s : State} (hn : 0 ≤ s.nqNode) {pid : Pid} {word : BitVec 32}
    (hw : has word p61StateDwnld = false) {d : ServiceData} (hm : s.pidsMap[pid]? = some d) (hd : d.count = (1 : Nat))
    {uid : Int} (hu : uidAllowed uid = true) {a : Answers} (ha : a.Succeeds) :
    Unregistered s pid word (nodeAfterOffs s pid) (plant.next ⟨s, word⟩ (.powerOff uid pid, a)) := by
  have ha' := ha.with_word word
  have hexit := powerOff_exit s uid pid { a with word := word }
  simp only [plant, handle_powerOff]
  generalize powerOff s uid pid { a with word := word } = o at hexit
  unfold nodeAfterOffs
  cases hexit with
  | refused hu' =>
    rw [hu] at hu'
    cases hu'
  | unregistered _ hm' =>
    rw [hm] at hm'
    cases hm'
  | kept _ d' hm' hc =>
    rw [hm, Option.some.injEq] at hm'
    subst hm'
    rw [countedDown_pos_iff hd Nat.one_pos] at hc
    omega
  | shared _ d' _ _ he =>
    rw [wordAfterAll_of_quiet (unlink_quiet s d')]
    refine ⟨rfl, ?_, ?_⟩
    · simp [released, he]
    · simp [he]
  | closed _ _ _ _ _ hneg => omega
  | last _ d' _ _ he _ o ho =>
    rw [Outcome.after_state, Outcome.after_calls, wordAfterAll_quiet_append (unlink_quiet s d')]
    cases ho with
    | busy hdl =>
      rw [has_eseCurrentState_dwnld] at hdl
      rcases hdl with hst | hdl
      · have := ha'.status
        omega
      · rw [hw] at hdl
        cases hdl
    | offFailed _ hr =>
      have := ha'.pwrOff
      omega
    | off _ hr node hnode =>
      have hcloses : a.closeRet = 0 := ha.closes
      have hclose : node = -1 := by simpa [hcloses] using hnode
      refine ⟨rfl, ?_, ?_⟩
      · simp [he, hclose]
      · rw [if_pos he]
        exact wordAfter_off s.nqNode hr word

/-- One of several holds goes: the thread count is counted down, and no power is switched. -/
theorem plant_countedDown (word : BitVec 32) {s : State} {pid : Pid} {d : ServiceData} {n : Nat}
    (hm : s.pidsMap[pid]? = some d) (hd : d.count = n) (hn : 1 < n) {uid : Int} (hu : uidAllowed uid = true) (a : Answers) :
    plant.next ⟨s, word⟩ (.powerOff uid pid, a) = ⟨countedDown s pid d, word⟩ := by
  have hexit := powerOff_exit s uid pid { a with word := word }
  simp only [plant, handle_powerOff]
  generalize powerOff s uid pid { a with word := word } = o at hexit
  have hpos : ∀ d', s.pidsMap[pid]? = some d' → d'.clientThreadCount - 1 > 0 := by
    intro d' hm'
    rw [hm, Option.some.injEq] at hm'
    subst hm'
    exact (countedDown_pos_iff hd (by omega)).2 hn
  cases hexit with
  | refused hu' =>
    rw [hu] at hu'
    cases hu'
  | unregistered _ hm' =>
    rw [hm] at hm'
    cases hm'
  | kept _ d' hm' _ =>
    rw [hm, Option.some.injEq] at hm'
    subst hm'
    rw [wordAfterAll_of_quiet (unlink_quiet s d)]
  | shared _ d' hm' hc => exact absurd (hpos d' hm') hc
  | closed _ d' hm' hc => exact absurd (hpos d' hm') hc
  | last _ d' hm' hc => exact absurd (hpos d' hm') hc

/-- As many `powerOff` requests as there are holds release the pid. -/
theorem unregistered_powerOffs {pid : Pid} {word : BitVec 32} (hw : has word p61StateDwnld = false)
    {offs : List (Int × Answers)} (hoffs : ∀ x ∈ offs, uidAllowed x.1 = true ∧ x.2.Succeeds) {s : State} {d : ServiceData}
    (hn : 0 ≤ s.nqNode) (hm : s.pidsMap[pid]? = some d) (hd : d.count = offs.length) (hpos : 0 < offs.length) :
    Unregistered s pid word (nodeAfterOffs s pid) (plant.run ⟨s, word⟩ (powerOffs pid offs)) := by
  induction offs generalizing s d with
  | nil => cases hpos
  | cons x offs ih =>
    obtain ⟨hu, ha⟩ := hoffs x (by simp)
    have hrest : ∀ y ∈ offs, uidAllowed y.1 = true ∧ y.2.Succeeds := fun y hy => hoffs y (List.mem_cons_of_mem x hy)
    by_cases hone : offs.length = 0
    · have hnil := List.length_eq_zero_iff.1 hone
      subst hnil
      exact unregistered_last hn hw hm hd hu ha
    · have hmany : 1 < (x :: offs).length := by
        rw [List.length_cons]
        omega
      have hnext := plant_countedDown word hm hd hmany hu x.2
      have hcount : ServiceData.count { d with clientThreadCount := d.clientThreadCount - 1 } = offs.length :=
        toInt_sub_one hd hpos
      have herase : (countedDown s pid d).pidsMap.erase pid = s.pidsMap.erase pid := erase_insert_self _ _ _
      have hrun := ih hrest (s := countedDown s pid d) hn (by simp [countedDown]) hcount (by omega)
      have hstep : plant.run ⟨s, word⟩ (powerOffs pid (x :: offs)) =
          plant.run ⟨countedDown s pid d, word⟩ (powerOffs pid offs) := by
        simp only [powerOffs, List.map_cons, Machine.run_cons, hnext]
      rw [hstep]
      refine ⟨?_, ?_, ?_⟩
      · rw [hrun.pidsMap, herase]
      · rw [hrun.node, nodeAfterOffs, herase]
        rfl
      · rw [hrun.word, herase]

/-- With the node open, the two release paths leave the same state exactly when somebody else is registered. -/
theorem sameRelease_iff {s : State} (hn : 0 ≤ s.nqNode) {pid : Pid} {d : ServiceData} (hm : s.pidsMap[pid]? = some d)
    {word : BitVec 32} (hw : has word p61StateDwnld = false) {a : Answers} (ha : a.Succeeds) {offs : List (Int × Answers)}
    (hoffs : ∀ x ∈ offs, uidAllowed x.1 = true ∧ x.2.Succeeds) (hd : d.count = offs.length) (hpos : 0 < offs.length) :
    SameRelease (plant.next ⟨s, word⟩ (.binderDied pid, a)) (plant.run ⟨s, word⟩ (powerOffs pid offs)) ↔
      ∃ q ∈ s.pidsMap, q ≠ pid := by
  rw [(unregistered_binderDied hn pid word ha).sameRelease_iff (unregistered_powerOffs hw hoffs hn hm hd hpos)]
  have hother : (∃ q ∈ s.pidsMap, q ≠ pid) ↔ (s.pidsMap.erase pid).isEmpty = false := by
    rw [Std.ExtTreeMap.isEmpty_eq_false_iff, Std.ExtTreeMap.eq_empty_iff_forall_not_mem, not_forall]
    refine exists_congr fun q => ?_
    rw [not_not, Std.ExtTreeMap.mem_erase, and_comm, ne_eq, ne_eq, Std.compare_eq_iff_eq, eq_comm]
  rw [hother]
  unfold nodeAfterOffs
  cases he : (s.pidsMap.erase pid).isEmpty with
  | false => simp
  | true =>
    simp only [if_true, Bool.true_eq_false, iff_false]
    omega

/-- In every reachable state in which a pid is registered with at least one hold, while no firmware download is running and every
device call succeeds: its death and as many authorised `powerOff` requests as it has holds leave the same registrations, node and SPI
power exactly when somebody else is registered too. -/
theorem release_paths_agree_iff (xs : List (Request × Answers)) (pid : Pid) (d : ServiceData)
    (hm : (daemon.run State.init xs).pidsMap[pid]? = some d) (hpos : 1 ≤ d.clientThreadCount.toInt) (word : BitVec 32)
    (hw : has word p61StateDwnld = false) (a : Answers) (ha : a.Succeeds) (offs : List (Int × Answers))
    (hlen : d.clientThreadCount.toInt = offs.length) (hoffs : ∀ x ∈ offs, uidAllowed x.1 = true ∧ x.2.Succeeds) :
    SameRelease (plant.next ⟨daemon.run State.init xs, word⟩ (.binderDied pid, a))
        (plant.run ⟨daemon.run State.init xs, word⟩ (powerOffs pid offs)) ↔
      ∃ q ∈ (daemon.run State.init xs).pidsMap, q ≠ pid := by
  have hopen := nodeOpen_run xs (isEmpty_eq_false_of_getElem? hm)
  exact sameRelease_iff hopen hm hw ha hoffs hlen (by omega)

/-- Pid 5 with two holds, while pid 6 has one. -/
def twoClients : List (Request × Answers) :=
  [(.powerOn 1000 5 (some 1), working), (.powerOn 1000 6 (some 2), working), (.powerOn 1000 5 (some 3), working)]

/-- With pid 6 registered, the death of pid 5 and its two `powerOff` requests leave the same state. -/
theorem release_paths_agree_twoClients :
    SameRelease (plant.next ⟨daemon.run State.init twoClients, 0x400#32⟩ (.binderDied 5, working))
      (plant.run ⟨daemon.run State.init twoClients, 0x400#32⟩ (powerOffs 5 [(1000, working), (0, working)])) := by
  have hm : (daemon.run State.init twoClients).pidsMap[(5 : Pid)]? =
      some ⟨some 1, some ⟨0, 5⟩, 2⟩ := by decide
  have hoffs : ∀ x ∈ [((1000 : Int), working), (0, working)], uidAllowed x.1 = true ∧ x.2.Succeeds := by
    intro x hx
    simp only [List.mem_cons, List.not_mem_nil, or_false] at hx
    rcases hx with rfl | rfl
    · exact ⟨by decide, working_succeeds⟩
    · exact ⟨by decide, working_succeeds⟩
  exact (release_paths_agree_iff twoClients 5 _ hm (by decide) 0x400#32 (by decide) working working_succeeds _ rfl hoffs).2
    ⟨6, by decide, by decide⟩

/-- The only client has one hold: `powerOff` closes the node, and `binderDied` leaves it open. -/
theorem release_paths_differ :
    let s := daemon.run State.init [(.powerOn 1000 5 (some 1), working)]
    s.pidsMap[(5 : Pid)]? = some ⟨some 1, some ⟨0, 5⟩, 1⟩ ∧
      (plant.next ⟨s, 0x400#32⟩ (.binderDied 5, working)).daemon.nqNode = 3 ∧
      (plant.run ⟨s, 0x400#32⟩ (powerOffs 5 [(1000, working)])).daemon.nqNode = -1 ∧
      ¬SameRelease (plant.next ⟨s, 0x400#32⟩ (.binderDied 5, working)) (plant.run ⟨s, 0x400#32⟩ (powerOffs 5 [(1000, working)])) := by
  intro s
  have hdied : (plant.next ⟨s, 0x400#32⟩ (.binderDied 5, working)).daemon.nqNode = 3 := by decide
  have hoff : (plant.run ⟨s, 0x400#32⟩ (powerOffs 5 [(1000, working)])).daemon.nqNode = -1 := by decide
  refine ⟨by decide, hdied, hoff, fun h => ?_⟩
  have hnode := h.node
  rw [hdied, hoff] at hnode
  cases hnode

end EseManager
