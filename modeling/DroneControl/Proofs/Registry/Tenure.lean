import DroneControl.Proofs.Registry.Attending

/-!
# The tenure of a registry

A registry is founded with something that it keeps for whoever is going to destroy it.  While it serves
it announces devices.  The first time it is destroyed it gives back what it kept, and from then on it
holds nothing, takes nothing on and announces nothing, whatever still refers to it.
-/

set_option synthInstance.maxSize 2048

namespace DroneControl

variable {σ : Type} {r r' : RegistryId} {w w' : World σ} {env : Env σ}

/-- A stage in the life of a registry. -/
inductive Stage where
  | founded (token : Option Token)
  /-- The listener was told of a device. -/
  | announced
  | dissolved (token : Option Token)
  deriving DecidableEq, Repr

def Occurrence.stage? (r : RegistryId) : Occurrence → Option Stage
  | .founded r' token => if r' = r then some (.founded token) else none
  | .announced r' _ _ => if r' = r then some .announced else none
  | .dissolved r' token => if r' = r then some (.dissolved token) else none
  | _ => none

/-- The life of a registry, in order. -/
def tenure (r : RegistryId) (past : List Happening) : List Stage :=
  past.filterMap (·.what.stage? r)

/-- The registry keeps what it was founded with, and has done nothing since but announce devices. -/
def Serving (token : Option Token) (stages : List Stage) : Prop :=
  ∃ n, stages = .founded token :: List.replicate n .announced

/-- The registry gave back what it was founded with, and has announced nothing and given nothing back
since. -/
def Dissolved (stages : List Stage) : Prop :=
  ∃ token n m, stages = .founded token :: List.replicate n .announced ++
    .dissolved token :: List.replicate m (.dissolved none)

/-- The life of a registry that may not have begun or not have ended yet. -/
def Lifelong (stages : List Stage) : Prop :=
  stages = [] ∨ (∃ token, Serving token stages) ∨ Dissolved stages

section Stages

variable {token : Option Token} {stages : List Stage}

theorem Serving.founded : Serving token [.founded token] := ⟨0, rfl⟩

theorem Serving.announced (serving : Serving token stages) :
    Serving token (stages ++ [.announced]) := by
  obtain ⟨n, rfl⟩ := serving
  exact ⟨n + 1, by rw [List.replicate_succ', List.cons_append]⟩

theorem Serving.dissolved (serving : Serving token stages) : Dissolved (stages ++ [.dissolved token]) := by
  obtain ⟨n, rfl⟩ := serving
  exact ⟨token, n, 0, rfl⟩

theorem Dissolved.dissolved (ended : Dissolved stages) : Dissolved (stages ++ [.dissolved none]) := by
  obtain ⟨token, n, m, rfl⟩ := ended
  exact ⟨token, n, m + 1, by rw [List.replicate_succ', List.append_assoc]; rfl⟩

theorem Serving.undissolved (serving : Serving token stages) :
    ¬∃ token, Stage.dissolved token ∈ stages := by
  obtain ⟨n, rfl⟩ := serving
  simp [List.mem_replicate]

theorem Dissolved.mem (ended : Dissolved stages) : ∃ token, Stage.dissolved token ∈ stages := by
  obtain ⟨token, n, m, rfl⟩ := ended
  exact ⟨token, by simp⟩

end Stages

/-- A registry has no devices, no registrations and nothing to give back. -/
structure Registry.Bare (x : Registry) : Prop where
  devices : x.devices = {}
  backends : x.backends = []
  discoveries : x.discoveries = []
  token : x.token = none

theorem Registry.Bare.later {x x' : Registry} (bare : x.Bare) (shut : x.closed = true)
    (goes : x.GoesTo x') : x'.Bare where
  devices := goes.devices.trans bare.devices
  backends := List.subset_nil.mp (bare.backends ▸ goes.backends shut)
  discoveries := List.subset_nil.mp (bare.discoveries ▸ goes.discoveries shut)
  token := goes.token.trans bare.token

namespace World

def tenure (w : World σ) (r : RegistryId) : List Stage := DroneControl.tenure r w.chronicle

theorem tenure_congr (history : w'.history = w.history) : w'.tenure r = w.tenure r := by
  simp only [tenure, chronicle, history]

theorem tenure_mark (w : World σ) (o : Occurrence) :
    (w.mark o).tenure r = w.tenure r ++ (o.stage? r).toList :=
  read_mark _ w o

/-- The row of a registry agrees with its life. -/
structure Tenured (w : World σ) (r : RegistryId) : Prop where
  lifelong : Lifelong (w.tenure r)
  serving : ∀ x, w.registries.find? r = some x → x.closed = false → Serving x.token (w.tenure r)
  ended : ∀ x, w.registries.find? r = some x → x.closed = true → x.Bare ∧ Dissolved (w.tenure r)
  fresh : w.registries.next ≤ r.number → w.tenure r = []

end World

/-- The history grows, and a registry goes on with its life. -/
structure Endures (r : RegistryId) (w w' : World σ) : Prop where
  grown : w.history <:+ w'.history
  tenured : w.Tenured r → w'.Tenured r

namespace Endures

theorem of_rows (grown : w.history <:+ w'.history) (tenure : w'.tenure r = w.tenure r)
    (next : w.registries.next ≤ w'.registries.next)
    (rows : ∀ x', w'.registries.find? r = some x' → ∃ x, w.registries.find? r = some x ∧
      x'.closed = x.closed ∧ x'.token = x.token ∧ (x.closed = true → x.Bare → x'.Bare)) :
    Endures r w w' := by
  refine ⟨grown, fun tenured => ⟨tenure ▸ tenured.lifelong, ?_, ?_, fun new => ?_⟩⟩
  · intro x' found serving
    obtain ⟨x, here, closed, token, -⟩ := rows x' found
    rw [tenure, token]
    exact tenured.serving x here (closed ▸ serving)
  · intro x' found shut
    obtain ⟨x, here, closed, -, bare⟩ := rows x' found
    obtain ⟨empty, ended⟩ := tenured.ended x here (closed ▸ shut)
    exact ⟨bare (closed ▸ shut) empty, tenure ▸ ended⟩
  · rw [tenure]
    exact tenured.fresh (Nat.le_trans next new)

theorem of_same (history : w'.history = w.history) (registries : w'.registries = w.registries) :
    Endures r w w' :=
  of_rows (history ▸ List.suffix_rfl) (World.tenure_congr history) (registries ▸ Nat.le_refl _)
    fun x' found => ⟨x', registries ▸ found, rfl, rfl, fun _ => id⟩

theorem update (w : World σ) {f : Registry → Registry}
    (same : ∀ x, w.registries.find? r' = some x → (f x).closed = x.closed ∧ (f x).token = x.token ∧
      (x.closed = true → x.Bare → (f x).Bare)) : Endures r w (w.updateRegistry r' f) := by
  refine of_rows List.suffix_rfl rfl (Nat.le_of_eq (Table.next_update _ _ _).symm) fun x' found => ?_
  simp only [World.updateRegistry, Table.find?_update] at found
  split at found
  · next here =>
    subst here
    obtain ⟨x, known, rfl⟩ := Option.map_eq_some_iff.mp found
    exact ⟨x, known, same x known⟩
  · exact ⟨x', found, rfl, rfl, fun _ => id⟩

end Endures

namespace World.Tenured

theorem announce {h : DeviceHandle} {there : Bool} (announces : w.Announces w' r' h there)
    (tenured : w.Tenured r) : w'.Tenured r := by
  obtain ⟨x, x', known, registries, turns⟩ := announces.row
  have stages : w'.tenure r = w.tenure r ++ ((Occurrence.announced r' h there).stage? r).toList :=
    announces.read fun o aside => by cases o <;> first | rfl | exact absurd rfl aside
  have row : ∀ y', w'.registries.find? r = some y' →
      if r' = r then y' = x' else w.registries.find? r = some y' := by
    intro y' found
    rw [registries, Table.find?_update, known] at found
    split at found <;> simp_all
  by_cases here : r' = r
  · subst here
    have serves : x.closed = false := by
      rw [← Bool.not_eq_true]
      intro shut
      have gone : x.device? h = none := by
        simp [Registry.device?, (tenured.ended x known shut).1.devices]
      cases there with
      | true => simp [turns.serving rfl] at shut
      | false => simpa [gone] using turns.before
    have serving : Serving x.token (w'.tenure r') := by
      rw [stages]
      simpa [Occurrence.stage?] using (tenured.serving x known serves).announced
    refine ⟨.inr (.inl ⟨_, serving⟩), fun y' found _ => ?_, fun y' found shut => ?_, fun new => ?_⟩
    · obtain rfl := by simpa using row y' found
      rwa [turns.token]
    · obtain rfl := by simpa using row y' found
      simp [turns.closed, serves] at shut
    · rw [registries, Table.next_update] at new
      have := Table.lt_next known
      omega
  · refine (Endures.of_rows ?_ ?_ ?_ fun y' found => ?_ : Endures r w w').tenured tenured
    · obtain ⟨t, earlier, grown, -⟩ := announces.history
      exact ⟨⟨t, .announced r' h there⟩ :: earlier, grown.symm⟩
    · simpa [Occurrence.stage?, here] using stages
    · exact Nat.le_of_eq (by rw [registries, Table.next_update])
    · exact ⟨y', by simpa [here] using row y' found, rfl, rfl, fun _ => id⟩

theorem found {x : Registry} (open' : x.closed = false) (tenured : w.Tenured r) :
    (w.found x).Tenured r := by
  have stages : (w.found x).tenure r =
      w.tenure r ++ ((Occurrence.founded ⟨w.registries.next⟩ x.token).stage? r).toList :=
    tenure_mark _ _
  by_cases here : r.number = w.registries.next
  · obtain rfl : r = ⟨w.registries.next⟩ := by rw [← here]
    have serving : Serving x.token ((w.found x).tenure ⟨w.registries.next⟩) := by
      rw [stages, tenured.fresh (Nat.le_refl _)]
      simpa [Occurrence.stage?] using Serving.founded
    have only : ∀ x', (w.registries.add x).2.find? ⟨w.registries.next⟩ = some x' → x' = x := by
      intro x' found
      rw [Table.find?_add, if_pos rfl] at found
      exact (Option.some.inj found).symm
    refine ⟨.inr (.inl ⟨_, serving⟩), fun x' found _ => ?_, fun x' found shut => ?_, fun new => ?_⟩
    · rwa [only x' found]
    · rw [only x' found, open'] at shut
      cases shut
    · change (w.registries.add x).2.next ≤ _ at new
      rw [Table.next_add] at new
      exact absurd new (Nat.not_succ_le_self _)
  · have other : (⟨w.registries.next⟩ : RegistryId) ≠ r := by
      rintro rfl
      exact here rfl
    refine (Endures.of_rows (List.suffix_cons _ _) ?_ ?_ fun x' found => ?_ :
      Endures r w (w.found x)).tenured tenured
    · simpa [Occurrence.stage?, other] using stages
    · change _ ≤ (w.registries.add x).2.next
      rw [Table.next_add]
      exact Nat.le_succ _
    · change (w.registries.add x).2.find? r = some x' at found
      rw [Table.find?_add, if_neg other] at found
      exact ⟨x', found, rfl, rfl, fun _ => id⟩

theorem dissolve (r' : RegistryId) (tenured : w.Tenured r) : (w.dissolve r').Tenured r := by
  cases known : w.registries.find? r' with
  | none => rwa [dissolve_of_none known]
  | some x =>
    rw [dissolve_of_some known]
    have stages : ((w.updateRegistry r' Registry.emptied).mark (.dissolved r' x.token)).tenure r =
        w.tenure r ++ ((Occurrence.dissolved r' x.token).stage? r).toList := tenure_mark _ _
    by_cases here : r' = r
    · subst here
      have ended : Dissolved (w.tenure r' ++ [.dissolved x.token]) := by
        cases shut : x.closed with
        | false => exact (tenured.serving x known shut).dissolved
        | true =>
          obtain ⟨bare, ended⟩ := tenured.ended x known shut
          rw [bare.token]
          exact ended.dissolved
      have row : ∀ x', (w.updateRegistry r' Registry.emptied).registries.find? r' = some x' →
          x' = x.emptied := by
        intro x' found
        simp only [updateRegistry, Table.find?_update, if_true, known, Option.map_some] at found
        exact (Option.some.inj found).symm
      have told : ((w.updateRegistry r' Registry.emptied).mark
          (.dissolved r' x.token)).tenure r' = w.tenure r' ++ [.dissolved x.token] := by
        simpa [Occurrence.stage?] using stages
      rw [← told] at ended
      refine ⟨.inr (.inr ended), fun x' found serving => ?_, fun x' found _ => ?_, fun new => ?_⟩
      · rw [row x' found] at serving
        cases serving
      · rw [row x' found]
        exact ⟨⟨rfl, rfl, rfl, rfl⟩, ended⟩
      · change (w.registries.update _ _).next ≤ _ at new
        rw [Table.next_update] at new
        have := Table.lt_next known
        omega
    · refine (Endures.of_rows (List.suffix_cons _ _) ?_ ?_ fun x' found => ?_ :
        Endures r w _).tenured tenured
      · simpa [Occurrence.stage?, here] using stages
      · exact Nat.le_of_eq (Table.next_update _ _ _).symm
      · change (w.registries.update _ _).find? r = some x' at found
        rw [Table.find?_update, if_neg here] at found
        exact ⟨x', found, rfl, rfl, fun _ => id⟩

theorem empty (host : σ) (verbosity : Option Severity) (r : RegistryId) :
    ({ host, verbosity } : World σ).Tenured r :=
  have unknown := World.find?_empty (α := Registry) r
  ⟨.inl rfl, fun _ found => absurd (unknown.symm.trans found) nofun,
    fun _ found => absurd (unknown.symm.trans found) nofun, fun _ => rfl⟩

end World.Tenured

instance Endures.attends : Attends (σ := σ) (Endures r) where
  trans first second := ⟨first.grown.trans second.grown, second.tenured ∘ first.tenured⟩
  same := .of_same
  mark w o aside := by
    refine .of_rows (List.suffix_cons _ _) ?_ (Nat.le_refl _) fun x found => ⟨x, found, rfl, rfl, fun _ => id⟩
    rw [World.tenure_mark]
    cases o <;> first | exact List.append_nil _ | exact absurd rfl aside
  update w _ _ goes := .update w fun x _ =>
    ⟨(goes x).closed, (goes x).token, fun shut bare => bare.later shut (goes x)⟩
  erase w r' := by
    refine .of_rows List.suffix_rfl rfl (Nat.le_refl _) fun x' found => ?_
    simp only [World.erase, Table.find?_erase] at found
    split at found
    · cases found
    · exact ⟨x', found, rfl, rfl, fun _ => id⟩
  rewrite {w r' h d} hd e _ := by
    refine .update w fun x known => ⟨rfl, rfl, fun _ bare => ?_⟩
    rw [World.registry_of_find? known, Registry.device?, bare.devices] at hd
    simp at hd
  announce {w w' r' h there} announces := by
    refine ⟨?_, fun tenured => tenured.announce announces⟩
    obtain ⟨t, earlier, grown, -⟩ := announces.history
    exact ⟨⟨t, .announced r' h there⟩ :: earlier, grown.symm⟩
  found _ _ _ open' _ := ⟨List.suffix_cons _ _, fun tenured => tenured.found open'⟩
  dissolve w r' := by
    refine ⟨?_, fun tenured => tenured.dissolve r'⟩
    cases known : w.registries.find? r' with
    | none =>
      simpa only [World.dissolve_of_none known] using List.suffix_rfl
    | some x =>
      rw [World.dissolve_of_some known]
      exact List.suffix_cons _ _

/-! ## What destroying does -/

namespace Registry

theorem mem_handles {x : Registry} {h : DeviceHandle} {d : Device} (hd : x.device? h = some d) :
    h ∈ x.handles := by
  refine List.mem_map.mpr ⟨h.raw.toNat, ?_, by simp⟩
  rw [Std.TreeMap.mem_keys, Std.TreeMap.mem_iff_isSome_getElem?]
  exact Option.isSome_of_eq_some hd

theorem busyDevice?_eq_none (x : Registry) :
    busyDevice? x = none ↔ ∀ h d, x.device? h = some d → d.connection = none := by
  have blank : busyDevice? x = none ↔ busyDevices x = [] := by
    unfold busyDevice?
    cases busyDevices x <;> simp
  rw [blank, busyDevices, List.filter_eq_nil_iff]
  constructor
  · intro idle h d hd
    simpa [hd] using idle h (mem_handles hd)
  · intro idle h _
    cases hd : x.device? h with
    | none => simp
    | some d => simp [idle h d hd]

end Registry

/-- Nothing can be registered with the registry, and no device added, and trying changes nothing. -/
structure World.Refuses (w : World σ) (r : RegistryId) : Prop where
  addDevice : ∀ env info b,
    (Registry.addDevice env r info b).run.run w = (.error Registry.closedFault, w)
  registerBackend : ∀ b, (Registry.registerBackend r b).run.run w = (.error Registry.closedFault, w)
  registerDiscovery : ∀ d,
    (Registry.registerDiscovery r d).run.run w = (.error Registry.closedFault, w)
  createDiscovery : ∀ name b,
    (Discovery.create r name b).run.run w = (.error (Registry.unknownBackend b), w)

theorem World.refuses_of_bare {x : Registry} (known : w.registries.find? r = some x)
    (shut : x.closed = true) (bare : x.Bare) : w.Refuses r := by
  have row := registry_of_find? known
  refine ⟨fun env info b => ?_, fun b => ?_, fun d => ?_, fun name b => ?_⟩
  · unfold Registry.addDevice
    rw [run_lookThen]
    dsimp only
    rw [row, if_pos shut, run_throwThen]
  · unfold Registry.registerBackend
    rw [run_lookThen]
    dsimp only
    rw [row, if_pos shut, run_throwThen]
  · unfold Registry.registerDiscovery
    rw [run_lookThen]
    dsimp only
    rw [row, if_pos shut, run_throwThen]
  · have unknown : Registry.backendKind? w r b = none := by
      simp [Registry.backendKind?, row, bare.backends]
    unfold Discovery.create
    rw [run_lookThen, unknown]
    rfl

theorem Registry.run_destroy_of_busy (env : Env σ) {h : DeviceHandle}
    (busy : busyDevice? (w.registry r) = some h) :
    (destroy env r).run.run w =
      (.error (.busy ("device " ++ h.label ++ " still connected")),
        w.log .warn "Registry destroyed while a device is connected" [("device", h.label)]) := by
  unfold destroy
  rw [run_lookThen]
  dsimp only
  rw [busy]
  rfl

theorem Registry.run_destroy_of_idle [Upheld (Keeps (Endures r)) env] {x : Registry}
    (known : w.registries.find? r = some x) (idle : busyDevice? x = none) :
    ((destroy env r).run.run w).1 = .ok x.token ∧
      ∃ more, ((destroy env r).run.run w).2.tenure r = w.tenure r ++ .dissolved x.token :: more := by
  have row := World.registry_of_find? known
  have rest : Holds (Keeps (Endures r)) (do
      act (letGo env (w.registry r))
      act (log .info "Registry destroyed" [])
      return (w.registry r).token : Try σ (Option Token)).run := inferInstance
  have later := rest.holds (w.dissolve r)
  have ran : (destroy env r).run.run w = (do
      act (letGo env (w.registry r))
      act (log .info "Registry destroyed" [])
      return (w.registry r).token : Try σ (Option Token)).run.run (w.dissolve r) := by
    unfold destroy
    rw [run_lookThen]
    dsimp only
    rw [row, idle]
    dsimp only
    rw [← row, run_actThen, run_modify, run_actThen]
    rfl
  rw [ran]
  refine ⟨by rw [run_actThen, run_actThen, run_tryPure, row], ?_⟩
  obtain ⟨more, grown⟩ := later.grown
  refine ⟨tenure r more.reverse, ?_⟩
  rw [World.tenure, World.chronicle, ← grown, List.reverse_append, World.dissolve_of_some known]
  change DroneControl.tenure r ((World.mark _ _).chronicle ++ _) = _
  rw [DroneControl.tenure, List.filterMap_append, World.read_mark]
  simp [Occurrence.stage?, World.tenure, DroneControl.tenure, World.chronicle, World.updateRegistry]

/-- The life of a registry goes from its founding over the devices that it announces to the first time
that it is destroyed, which gives back what it was founded with; it announces nothing afterwards, and
destroying it again gives nothing back.  Between calls a registry that was destroyed holds nothing and
takes nothing on.  As long as a device has a connection, destroying is refused as busy and nothing
changes, but for the record that is kept of the refusal. -/
theorem Reached.tenure_ends (reached : Reached w) (r : RegistryId) :
    Lifelong (tenure r w.chronicle) ∧
    ∀ x, w.registries.find? r = some x →
      (x.closed = false → Serving x.token (tenure r w.chronicle)) ∧
      ((∃ token, .dissolved token ∈ tenure r w.chronicle) → x.closed = true) ∧
      (x.closed = true → Dissolved (tenure r w.chronicle) ∧ x.Bare ∧ w.Refuses r) ∧
      ∀ env : Env σ, Hosted env →
        ((∃ h d, x.device? h = some d ∧ d.connection.isSome) →
          ∃ h, (Registry.destroy env r).run.run w =
            (.error (.busy ("device " ++ DeviceHandle.label h ++ " still connected")),
              w.log .warn "Registry destroyed while a device is connected"
                [("device", h.label)])) ∧
        ((∀ h d, x.device? h = some d → d.connection = none) →
          ((Registry.destroy env r).run.run w).1 = .ok x.token ∧
          ∃ more, tenure r ((Registry.destroy env r).run.run w).2.chronicle =
            tenure r w.chronicle ++ .dissolved x.token :: more) := by
  obtain ⟨host, verbosity, endures⟩ :=
    reached.related (R := Endures r) fun _ _ quiet => Attends.together quiet
  have tenured := endures.tenured (.empty host verbosity r)
  refine ⟨tenured.lifelong, fun x known => ⟨tenured.serving x known, fun dissolved => ?_,
    fun shut => ?_, fun env hosted => ⟨fun busy => ?_, fun idle => ?_⟩⟩⟩
  · rw [← Bool.not_eq_false]
    exact fun serving => (tenured.serving x known serving).undissolved dissolved
  · obtain ⟨bare, ended⟩ := tenured.ended x known shut
    exact ⟨ended, bare, World.refuses_of_bare known shut bare⟩
  · obtain ⟨h, d, hd, connected⟩ := busy
    cases named : Registry.busyDevice? x with
    | none => simp [(Registry.busyDevice?_eq_none x).mp named h d hd] at connected
    | some h =>
      rw [← World.registry_of_find? known] at named
      exact ⟨h, Registry.run_destroy_of_busy env named⟩
  · have := hosted.together (Q := Keeps (Endures r)) fun _ _ quiet => Attends.together quiet
    exact Registry.run_destroy_of_idle known ((Registry.busyDevice?_eq_none x).mpr idle)

def service : Act Unit (Except Fault DeviceHandle) := do
  let r ← Registry.create {} ⟨1⟩ (some "mine")
  let _ ← (Backend.createNet silentHost r ⟨1⟩ 0 none).run
  let _ ← (Registry.addDevice silentHost r default ⟨1⟩).run
  let _ ← (Controller.create r ⟨1⟩ ⟨2⟩ none).run
  let _ ← (Controller.connect silentHost ⟨1⟩).run
  let _ ← (Registry.destroy silentHost r).run
  let _ ← (Connection.disconnected silentHost ⟨1⟩).run
  let _ ← (Registry.destroy silentHost r).run
  let _ ← (Registry.destroy silentHost r).run
  (Registry.addDevice silentHost r default ⟨1⟩).run

theorem service_reached : Reached (service.run { host := () }).2 := by
  refine ⟨silentHost, (), none, _, service, silentHost_hosted, ?_, rfl⟩
  refine .bind (.basic (.inr (.createRegistry _ _ _))) fun r => ?_
  refine .bind (.basic (.inr (.createNet _ _ _ _))) fun _ => ?_
  refine .bind (.basic (.inr (.addDevice _ _ _))) fun _ => ?_
  refine .bind (.basic (.inr (.createController _ _ _ _))) fun _ => ?_
  refine .bind (.basic (.inr (.connect _))) fun _ => ?_
  refine .bind (.basic (.inr (.destroyRegistry _))) fun _ => ?_
  refine .bind (.basic (.inr (.disconnected _))) fun _ => ?_
  refine .bind (.basic (.inr (.destroyRegistry _))) fun _ => ?_
  refine .bind (.basic (.inr (.destroyRegistry _))) fun _ => ?_
  exact .basic (.inr (.addDevice _ _ _))

theorem service_tenure_ends :
    (Lifelong (tenure ⟨1⟩ (service.run { host := () }).2.chronicle) ∧
      tenure ⟨1⟩ (service.run { host := () }).2.chronicle =
        [.founded (some "mine"), .announced, .dissolved (some "mine"), .dissolved none] ∧
      ∃ x, (service.run { host := () }).2.registries.find? ⟨1⟩ = some x ∧
        x.closed = true ∧ x.Bare ∧ (service.run { host := () }).2.Refuses ⟨1⟩) ∧
    ∃ h, (Registry.destroy silentHost ⟨1⟩).run.run (visit.run { host := () }).2 =
      (.error (.busy ("device " ++ DeviceHandle.label h ++ " still connected")),
        (visit.run { host := () }).2.log .warn "Registry destroyed while a device is connected"
          [("device", h.label)]) := by
  have stages : tenure ⟨1⟩ (service.run { host := () }).2.chronicle =
      [.founded (some "mine"), .announced, .dissolved (some "mine"), .dissolved none] := by
    decide +kernel
  constructor
  · have there : ((service.run { host := () }).2.registries.find? ⟨1⟩).isSome := by decide +kernel
    obtain ⟨x, known⟩ := Option.isSome_iff_exists.mp there
    obtain ⟨lifelong, rows⟩ := service_reached.tenure_ends ⟨1⟩
    obtain ⟨-, closes, ends, -⟩ := rows x known
    have shut := closes ⟨none, by rw [stages]; decide⟩
    exact ⟨lifelong, stages, x, known, shut, (ends shut).2⟩
  · have connected : (((visit.run { host := () }).2.registries.find? ⟨1⟩).bind
        (·.device? ⟨1⟩)).map (·.connection.isSome) = some true := by decide +kernel
    obtain ⟨d, entry, busy⟩ := Option.map_eq_some_iff.mp connected
    obtain ⟨x, known, hd⟩ := Option.bind_eq_some_iff.mp entry
    obtain ⟨-, rows⟩ := visit_reached.tenure_ends ⟨1⟩
    obtain ⟨-, -, -, destroys⟩ := rows x known
    exact (destroys silentHost silentHost_hosted).1 ⟨⟨1⟩, d, hd, busy⟩

end DroneControl
