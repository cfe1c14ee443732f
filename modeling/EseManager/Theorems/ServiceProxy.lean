import EseManager.ServiceProxy

/-!
# When the cached proxy gets stuck on a dead daemon

A proxy in the variable is harmless as long as its daemon is alive or the notice of its death is still to come. Two things spoil it: a
daemon that dies without a death link, since nobody looks at what `linkToDeath` returns; and a notice that is delivered while the
client is about to store the very proxy that it is to clear. `proxy_unstuck` says that nothing else does, and that each of these
leaves the client with a dead proxy if it goes on undisturbed.
-/

namespace EseManager

namespace ProxyState

/-- The proxy in the variable is of a live instance, or the notice of its death is on its way. -/
def Unstuck (s : ProxyState) : Prop := s.place = .outside → ∀ i, s.proxy = some i → s.Alive i ∨ s.Pending i

/-- The client is about to store the proxy of the instance. -/
def Stores (s : ProxyState) (i : Instance) : Prop := s.place = .storing (some i) ∨ s.place = .storingBack (some i)

instance (s : ProxyState) (i : Instance) : Decidable (s.Stores i) := inferInstanceAs (Decidable (_ ∨ _))

/-- The client has the proxy of the instance: in the variable, or about to be stored there. -/
def Carries (s : ProxyState) (i : Instance) : Prop := s.proxy = some i ∨ s.Stores i

/-- The instance is alive or its death link is there. -/
def Watched (s : ProxyState) (i : Instance) : Prop := s.Alive i ∨ i ∈ s.links

end ProxyState

/-- The step does not lose a death: no instance whose proxy the client has dies without a link, no link fails to a dead instance,
and no last notice of an instance is delivered while the client is about to store its proxy. -/
def KeepsWatch (name : String) (s : ProxyState) : ProxyStep → Prop
  | .die n => n = name → ∀ i, s.Alive i → s.Carries i → i ∈ s.links
  | .linkToDeath ok => ∀ i, s.place = .linking i → ok = true ∨ s.Watched i
  | .notice i => s.Pending i → s.Stores i → 2 ≤ s.links.count i
  | _ => True

/-- Every `linkToDeath` succeeds. -/
def LinksSucceed (_ : ProxyState) (e : ProxyStep) : Prop := e ≠ .linkToDeath false

/-- No notice of an instance is delivered while the client is about to store its proxy. -/
def NoticesWait (s : ProxyState) (e : ProxyStep) : Prop := ∀ i, e = .notice i → ¬s.Stores i

/-! ## Steps of the client -/

/-- What a step of the client makes of its state. -/
inductive ClientExit (s : ProxyState) : ProxyStep → ProxyState → Prop where
  | idle (e : ProxyStep) : ClientExit s e s
  | called (h : s.place = .outside) : ClientExit s .call { s with place := if s.proxy = none then .looking else .calling }
  | notFound (h : s.place = .looking) : ClientExit s (.getService none) { s with place := .storing none }
  | found (i : Instance) (h : s.place = .looking) (hi : i < s.started) :
      ClientExit s (.getService (some i)) { s with place := .linking i }
  | linked (i : Instance) (h : s.place = .linking i) :
      ClientExit s (.linkToDeath true) { s with links := i :: s.links, place := .storing (some i) }
  | notLinked (i : Instance) (h : s.place = .linking i) :
      ClientExit s (.linkToDeath false) { s with place := .storing (some i) }
  | stored (v : Option Instance) (h : s.place = .storing v) : ClientExit s .store { s with proxy := v, place := .stored }
  | returned (h : s.place = .stored) : ClientExit s .returnProxy { s with place := .storingBack s.proxy }
  | storedBack (v : Option Instance) (h : s.place = .storingBack v) :
      ClientExit s .storeBack { s with proxy := v, place := .calling }
  | finished (h : s.place = .calling) : ClientExit s .finish { s with place := .outside }

theorem client_exit (s : ProxyState) (e : ProxyStep) : ClientExit s e (s.client e) := by
  unfold ProxyState.client
  split
  · exact .called ‹_›
  · exact .notFound ‹_›
  · split
    · exact .found _ ‹_› ‹_›
    · exact .idle _
  · rename_i i ok h
    cases ok
    · exact .notLinked i h
    · exact .linked i h
  · exact .stored _ ‹_›
  · exact .returned ‹_›
  · exact .storedBack _ ‹_›
  · exact .finished ‹_›
  · exact .idle _

/-- The client changes nothing of the daemon, and drops no death link. -/
theorem client_frame (s : ProxyState) (e : ProxyStep) :
    (∀ i, (s.client e).Alive i ↔ s.Alive i) ∧ ∀ i ∈ s.links, i ∈ (s.client e).links := by
  have hexit := client_exit s e
  generalize s.client e = s' at hexit ⊢
  cases hexit with
  | linked i => exact ⟨fun _ => Iff.rfl, fun _ => List.mem_cons_of_mem i⟩
  | idle | called | notFound | found | notLinked | stored | returned | storedBack | finished =>
    exact ⟨fun _ => Iff.rfl, fun _ => id⟩

/-- A proxy comes into the client's hands when it has just asked for a death link, and its link is there if that has succeeded. -/
theorem carries_client {s : ProxyState} {e : ProxyStep} {i : Instance} (h : (s.client e).Carries i) :
    s.Carries i ∨ s.place = .linking i ∧ (e = .linkToDeath false ∨ i ∈ (s.client e).links) := by
  have hexit := client_exit s e
  generalize s.client e = s' at hexit h ⊢
  cases hexit with
  | idle => exact Or.inl h
  | called =>
    rcases h with hp | hst
    · exact Or.inl (Or.inl hp)
    · simp only [ProxyState.Stores] at hst
      split at hst <;> simp at hst
  | notFound | found | finished =>
    rcases h with hp | hst
    · exact Or.inl (Or.inl hp)
    · simp [ProxyState.Stores] at hst
  | linked j hj =>
    rcases h with hp | hst
    · exact Or.inl (Or.inl hp)
    · simp only [ProxyState.Stores, Place.storing.injEq, Option.some.injEq, reduceCtorEq, or_false] at hst
      subst hst
      exact Or.inr ⟨hj, Or.inr List.mem_cons_self⟩
  | notLinked j hj =>
    rcases h with hp | hst
    · exact Or.inl (Or.inl hp)
    · simp only [ProxyState.Stores, Place.storing.injEq, Option.some.injEq, reduceCtorEq, or_false] at hst
      subst hst
      exact Or.inr ⟨hj, Or.inl rfl⟩
  | stored v hv =>
    rcases h with hp | hst
    · exact Or.inl (Or.inr (Or.inl (hp ▸ hv)))
    · simp [ProxyState.Stores] at hst
  | returned =>
    rcases h with hp | hst
    · exact Or.inl (Or.inl hp)
    · simp only [ProxyState.Stores, Place.storingBack.injEq, reduceCtorEq, false_or] at hst
      exact Or.inl (Or.inl hst)
  | storedBack v hv =>
    rcases h with hp | hst
    · exact Or.inl (Or.inr (Or.inr (hp ▸ hv)))
    · simp [ProxyState.Stores] at hst

/-- What the daemon, the kernel and the client do, each to its part of the state. -/
inductive StepExit (name : String) (s : ProxyState) : ProxyStep → ProxyState → Prop where
  | idle (e : ProxyStep) : StepExit name s e s
  | published (h : s.up = false) : StepExit name s (.publish name) { s with started := s.started + 1, up := true }
  | died : StepExit name s (.die name) { s with up := false }
  | noticed (i : Instance) (h : s.Pending i) :
      StepExit name s (.notice i) { s with links := s.links.erase i, proxy := none }
  | client (e : ProxyStep) : StepExit name s e (s.client e)

theorem step_exit (name : String) (s : ProxyState) (e : ProxyStep) : StepExit name s e ((serviceClient name).next s e) := by
  cases e with
  | publish n =>
    simp only [serviceClient]
    split
    · rename_i h
      obtain ⟨rfl, hup⟩ := h
      exact .published hup
    · exact .idle _
  | die n =>
    simp only [serviceClient]
    split
    · rename_i h
      subst h
      exact .died
    · exact .idle _
  | notice i =>
    simp only [serviceClient]
    split
    · exact .noticed i ‹_›
    · exact .idle _
  | call | getService | linkToDeath | store | returnProxy | storeBack | finish => exact .client _

/-! ## The proxies that the client has are watched -/

/-- Every instance whose proxy the client has is watched. -/
def AllWatched (s : ProxyState) : Prop := ∀ i, s.Carries i → s.Watched i

theorem AllWatched.unstuck {s : ProxyState} (h : AllWatched s) : s.Unstuck := by
  intro _ i hi
  by_cases ha : s.Alive i
  · exact Or.inl ha
  · exact Or.inr ⟨(h i (Or.inl hi)).resolve_left ha, ha⟩

/-- A step that keeps watch leaves all proxies watched. -/
theorem allWatched_step {name : String} {s : ProxyState} {e : ProxyStep} (h : AllWatched s) (hk : KeepsWatch name s e) :
    AllWatched ((serviceClient name).next s e) := by
  intro i hi
  have hexit := step_exit name s e
  generalize (serviceClient name).next s e = s' at hexit hi ⊢
  cases hexit with
  | idle => exact h i hi
  | published hup =>
    rcases h i hi with ha | hl
    · rw [ha.1] at hup
      cases hup
    · exact Or.inr hl
  | died =>
    rcases h i hi with ha | hl
    · exact Or.inr (hk rfl i ha hi)
    · exact Or.inr hl
  | noticed j hj =>
    rcases hi with hp | hst
    · cases hp
    · refine (h i (Or.inr hst)).imp_right fun hl => ?_
      by_cases hij : i = j
      · subst hij
        have hcount := hk hj hst
        exact List.count_pos_iff.1 (by rw [List.count_erase_self]; omega)
      · exact (List.mem_erase_of_ne hij).2 hl
  | client =>
    obtain ⟨halive, hlinks⟩ := client_frame s e
    rcases carries_client hi with hc | ⟨hplace, rfl | hl⟩
    · exact (h i hc).imp (halive i).2 (hlinks i)
    · exact ((hk i hplace).resolve_left Bool.false_ne_true).imp (halive i).2 (hlinks i)
    · exact Or.inr hl

/-- Every instance whose proxy the client has is linked. -/
def AllLinked (s : ProxyState) : Prop := ∀ i, s.Carries i → i ∈ s.links

/-- When links succeed and notices wait, all proxies stay linked, and no step loses a death. -/
theorem allLinked_step {name : String} {s : ProxyState} {e : ProxyStep} (h : AllLinked s) (hl : LinksSucceed s e)
    (hw : NoticesWait s e) : AllLinked ((serviceClient name).next s e) ∧ KeepsWatch name s e := by
  constructor
  · intro i hi
    have hexit := step_exit name s e
    generalize (serviceClient name).next s e = s' at hexit hi ⊢
    cases hexit with
    | idle => exact h i hi
    | published => exact h i hi
    | died => exact h i hi
    | noticed j hj =>
      rcases hi with hp | hst
      · cases hp
      · have hij : i ≠ j := by
          rintro rfl
          exact hw i rfl hst
        exact (List.mem_erase_of_ne hij).2 (h i (Or.inr hst))
    | client =>
      rcases carries_client hi with hc | ⟨_, rfl | hlink⟩
      · exact (client_frame s e).2 i (h i hc)
      · exact absurd rfl hl
      · exact hlink
  · cases e with
    | die n => exact fun _ i _ hc => h i hc
    | linkToDeath ok =>
      cases ok with
      | false => exact absurd rfl hl
      | true => exact fun _ _ => Or.inl rfl
    | notice j => exact fun _ hst => absurd hst (hw j rfl)
    | publish | call | getService | store | returnProxy | storeBack | finish => trivial

/-! ## A lost death leaves the client stuck -/

/-- What the client knows of its variable: during a lookup it is empty, and after it nobody has put another proxy there. -/
structure Consistent (s : ProxyState) : Prop where
  empty : s.place = .looking ∨ (∃ i, s.place = .linking i) ∨ (∃ v, s.place = .storing v) → s.proxy = none
  copied : ∀ v, s.place = .storingBack v → s.proxy = none ∨ s.proxy = v

theorem consistent_client {s : ProxyState} (h : Consistent s) (e : ProxyStep) : Consistent (s.client e) := by
  have hexit := client_exit s e
  generalize s.client e = s' at hexit ⊢
  cases hexit with
  | idle => exact h
  | called =>
    by_cases hp : s.proxy = none
    · exact ⟨fun _ => hp, fun _ _ => Or.inl hp⟩
    · constructor <;> simp [hp]
  | notFound hl => exact ⟨fun _ => h.empty (Or.inl hl), by simp⟩
  | found i hl => exact ⟨fun _ => h.empty (Or.inl hl), by simp⟩
  | linked i hl => exact ⟨fun _ => h.empty (Or.inr (Or.inl ⟨i, hl⟩)), by simp⟩
  | notLinked i hl => exact ⟨fun _ => h.empty (Or.inr (Or.inl ⟨i, hl⟩)), by simp⟩
  | stored v => constructor <;> simp
  | returned =>
    refine ⟨by simp, fun v hv => Or.inr ?_⟩
    simp only [Place.storingBack.injEq] at hv
    exact hv
  | storedBack v => constructor <;> simp
  | finished => constructor <;> simp

theorem consistent_step {name : String} {s : ProxyState} (h : Consistent s) (e : ProxyStep) :
    Consistent ((serviceClient name).next s e) := by
  have hexit := step_exit name s e
  generalize (serviceClient name).next s e = s' at hexit ⊢
  cases hexit with
  | idle => exact h
  | published => exact ⟨h.empty, h.copied⟩
  | died => exact ⟨h.empty, h.copied⟩
  | noticed => exact ⟨fun _ => rfl, fun _ _ => Or.inl rfl⟩
  | client => exact consistent_client h e

/-- The steps that take the client from its place to the end of the call, but for the lookup. -/
def Place.toOutside : Place → List ProxyStep
  | .storing _ => [.store, .returnProxy, .storeBack, .finish]
  | .stored => [.returnProxy, .storeBack, .finish]
  | .storingBack _ => [.storeBack, .finish]
  | .calling => [.finish]
  | _ => []

/-- In a place without a proxy that is yet to be stored, the client has what is in its variable. -/
theorem proxy_of_carries {s : ProxyState} {i : Instance} (hc : s.Carries i) (hn : ¬s.Stores i) : s.proxy = some i :=
  Or.resolve_right hc hn

/-- Before a proxy is got, the client has none. -/
theorem Consistent.not_carries {s : ProxyState} (h : Consistent s) (hp : s.place = .looking ∨ ∃ j, s.place = .linking j)
    (i : Instance) : ¬s.Carries i := by
  intro hc
  have hempty : s.proxy = none := h.empty (hp.imp_right Or.inl)
  have hn : ¬s.Stores i := by
    rcases hp with hp | ⟨j, hp⟩
    · simp [ProxyState.Stores, hp]
    · simp [ProxyState.Stores, hp]
  have hsome := proxy_of_carries hc hn
  rw [hempty] at hsome
  cases hsome

/-- A proxy that the client has is in its variable when the call is over, if nothing intervenes. -/
theorem proxy_at_end {name : String} {s : ProxyState} {i : Instance} (h : Consistent s) (hc : s.Carries i) :
    (serviceClient name).run s s.place.toOutside = { s with proxy := some i, place := .outside } := by
  obtain ⟨started, up, links, proxy, place⟩ := s
  cases place with
  | outside =>
    have hp : proxy = some i := proxy_of_carries hc (by simp [ProxyState.Stores])
    subst hp
    rfl
  | looking => exact absurd hc (h.not_carries (Or.inl rfl) i)
  | linking j => exact absurd hc (h.not_carries (Or.inr ⟨j, rfl⟩) i)
  | storing v =>
    have hp := h.empty (Or.inr (Or.inr ⟨v, rfl⟩))
    rcases hc with hp' | hst | hst
    · rw [hp] at hp'
      cases hp'
    · cases hst
      rfl
    · cases hst
  | stored =>
    have hp : proxy = some i := proxy_of_carries hc (by simp [ProxyState.Stores])
    subst hp
    rfl
  | storingBack v =>
    rcases hc with hp | hst | hst
    · rcases h.copied v rfl with hn | hv
      · rw [hn] at hp
        cases hp
      · rw [hv] at hp
        subst hp
        rfl
    · cases hst
    · cases hst
      rfl
  | calling =>
    have hp : proxy = some i := proxy_of_carries hc (by simp [ProxyState.Stores])
    subst hp
    rfl

/-- A step that does not keep watch leaves the client with the proxy of a dead instance whose notice will never come. -/
theorem carries_unwatched {name : String} {s : ProxyState} {e : ProxyStep} (h : ¬KeepsWatch name s e) :
    ∃ i, ((serviceClient name).next s e).Carries i ∧ ¬((serviceClient name).next s e).Watched i := by
  cases e with
  | die n =>
    simp only [KeepsWatch, not_forall] at h
    obtain ⟨rfl, i, ha, hc, hl⟩ := h
    have hnext : (serviceClient n).next s (.die n) = { s with up := false } := if_pos rfl
    rw [hnext]
    exact ⟨i, hc, fun hw => hw.elim (fun ha' => Bool.false_ne_true ha'.1) hl⟩
  | linkToDeath ok =>
    simp only [KeepsWatch, not_forall, not_or, Bool.not_eq_true] at h
    obtain ⟨i, hplace, rfl, hw⟩ := h
    have hnext : (serviceClient name).next s (.linkToDeath false) = { s with place := .storing (some i) } := by
      simp [serviceClient, ProxyState.client, hplace]
    rw [hnext]
    exact ⟨i, Or.inr (Or.inl rfl), hw⟩
  | notice i =>
    simp only [KeepsWatch, not_forall, Nat.not_le] at h
    obtain ⟨hp, hst, hcount⟩ := h
    have hnext : (serviceClient name).next s (.notice i) = { s with links := s.links.erase i, proxy := none } := if_pos hp
    rw [hnext]
    refine ⟨i, Or.inr hst, fun hw => hw.elim hp.2 fun hl => ?_⟩
    have hpos := List.count_pos_iff.2 hl
    rw [List.count_erase_self] at hpos
    omega
  | publish | call | getService | store | returnProxy | storeBack | finish => exact absurd trivial h

/-- Over every run of a client of a service: as long as every step keeps watch, the proxy in the variable is, between calls, that of a
live instance or of one whose death notice is on its way; and after the first step that does not, the client need only finish its
call to be stuck. Every step keeps watch when all links succeed and no notice of an instance is delivered while the client is about
to store its proxy. -/
theorem proxy_unstuck (name : String) (es : List ProxyStep) :
    ((serviceClient name).Along (KeepsWatch name) .init es → (serviceClient name).Always ProxyState.Unstuck .init es) ∧
      (∀ e, ¬KeepsWatch name ((serviceClient name).run .init es) e →
        ∃ more, ¬(serviceClient name).Always ProxyState.Unstuck .init (es ++ e :: more)) ∧
      ((serviceClient name).Along (fun s e => LinksSucceed s e ∧ NoticesWait s e) .init es →
        (serviceClient name).Along (KeepsWatch name) .init es) := by
  have hnone : ∀ i, ¬ProxyState.init.Carries i := by
    rintro i (hp | hst | hst)
    · cases hp
    · cases hst
    · cases hst
  refine ⟨fun h => ?_, fun e he => ?_, fun h => ?_⟩
  · have hinv := Machine.always_inv (fun s e hs hk => allWatched_step hs hk) (fun i hi => absurd hi (hnone i)) h
    exact fun pre hpre => (hinv pre hpre).unstuck
  · have hinit : Consistent .init := by
      constructor <;> simp [ProxyState.init]
    have hrun := Machine.run_keeps (M := serviceClient name) (I := Consistent) (fun _ e hs => consistent_step hs e) hinit es
    have hcons : Consistent ((serviceClient name).next _ e) := consistent_step hrun e
    obtain ⟨i, hc, hw⟩ := carries_unwatched he
    refine ⟨((serviceClient name).next ((serviceClient name).run .init es) e).place.toOutside, fun hall => ?_⟩
    have hlast := hall _ (List.prefix_refl _)
    rw [Machine.run_append, Machine.run_cons, proxy_at_end hcons hc] at hlast
    rcases hlast rfl i rfl with ha | hp
    · exact hw (Or.inl ha)
    · exact hw (Or.inr hp.1)
  · exact Machine.along_of_inv (I := AllLinked) (fun s e hs hp => allLinked_step hs hp.1 hp.2)
      (fun i hi => absurd hi (hnone i)) h

/-- The daemon is published, the client looks it up and asks for a death link. -/
def lookedUp (ok : Bool) : List ProxyStep :=
  [.publish "eSEPowerManagerService", .call, .getService (some 0), .linkToDeath ok]

/-- The client finishes its call, the daemon dies, and the notice is delivered then. -/
def noticedLater : List ProxyStep :=
  lookedUp true ++ [.store, .returnProxy, .storeBack, .finish, .die "eSEPowerManagerService", .notice 0]

/-- `proxy_unstuck` for a daemon that dies once the client has its proxy. -/
theorem proxy_unstuck_notified : esePMServiceClient.Always ProxyState.Unstuck .init noticedLater := by
  obtain ⟨hunstuck, -, hnatural⟩ := proxy_unstuck "eSEPowerManagerService" noticedLater
  have hlinks : ∀ e ∈ noticedLater, e ≠ .linkToDeath false := by decide
  refine hunstuck (hnatural (Machine.along_and.2 ⟨?_, ?_⟩))
  · exact Machine.along_of_forall_mem _ (fun e he _ => hlinks e he) _
  · refine ⟨nofun, nofun, nofun, nofun, nofun, nofun, nofun, nofun, nofun, fun i hi => ?_, trivial⟩
    cases hi
    decide

/-- The link has failed, and the daemon dies later. -/
def linkFailed : List ProxyStep :=
  lookedUp false ++ [.store, .returnProxy, .storeBack, .finish, .die "eSEPowerManagerService"]

/-- The notice is delivered before the proxy is stored. -/
def noticedBeforeStore : List ProxyStep :=
  lookedUp true ++ [.die "eSEPowerManagerService", .notice 0, .store, .returnProxy, .storeBack, .finish]

/-- The notice is delivered between the two stores. -/
def noticedBetweenStores : List ProxyStep :=
  lookedUp true ++ [.store, .returnProxy, .die "eSEPowerManagerService", .notice 0, .storeBack, .finish]

/-- Between calls, the client has the proxy of a dead daemon, and no notice is to come. -/
def stuck : ProxyState := { started := 1, up := false, links := [], proxy := some 0, place := .outside }

theorem not_always_of_stuck {es : List ProxyStep} (h : esePMServiceClient.run .init es = stuck) :
    ¬esePMServiceClient.Always ProxyState.Unstuck .init es := by
  intro hall
  have hlast := hall es (List.prefix_refl _)
  rw [h] at hlast
  rcases hlast rfl 0 rfl with ha | hp
  · cases ha.1
  · cases hp.1

/-- Three runs after which the client of the power manager is stuck. -/
theorem proxy_stuck :
    ¬esePMServiceClient.Always ProxyState.Unstuck .init linkFailed ∧
      ¬esePMServiceClient.Always ProxyState.Unstuck .init noticedBeforeStore ∧
      ¬esePMServiceClient.Always ProxyState.Unstuck .init noticedBetweenStores :=
  ⟨not_always_of_stuck (by decide), not_always_of_stuck (by decide), not_always_of_stuck (by decide)⟩

end EseManager
