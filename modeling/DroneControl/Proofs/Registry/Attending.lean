import DroneControl.Proofs.Registry.Rewriting

/-!
# What attends to registries

Some relations between worlds are about the registries and what is noted of them, and about nothing
else.  For such a relation the whole library comes down to a handful of steps: a registry is founded,
changes without its devices, announces that a device comes or goes, and is dissolved or gone.
-/

set_option synthInstance.maxSize 2048

namespace DroneControl

variable {σ α : Type} {r : RegistryId} {h : DeviceHandle} {w w' : World σ} {env : Env σ}

/-- The table of a registry is changed at one handle, where a device comes or goes. -/
structure Registry.Turns (h : DeviceHandle) (there : Bool) (x x' : Registry) : Prop where
  before : (x.device? h).isSome = !there
  serving : there = true → x.closed = false
  closed : x'.closed = x.closed
  token : x'.token = x.token
  after : ∀ h', (x'.device? h').isSome = if h = h' then there else (x.device? h').isSome
  taken : there = true → ∃ y, x.allocate = some (h, y) ∧ x'.cursor = y.cursor
  kept : there = false → x'.cursor = x.cursor

/-- A registry changes and announces of a device that it comes or goes, and nothing else is noted of
registries. -/
structure World.Announces (w w' : World σ) (r : RegistryId) (h : DeviceHandle) (there : Bool) :
    Prop where
  row : ∃ x x', w.registries.find? r = some x ∧
    w'.registries = w.registries.update r (fun _ => x') ∧ x.Turns h there x'
  history : ∃ t earlier, w'.history = ⟨t, .announced r h there⟩ :: (earlier ++ w.history) ∧
    ∀ e ∈ earlier, e.what.topic ≠ .registry

section Reading

variable {β : Type} (f : Occurrence → Option β)

theorem World.read_mark (w : World σ) (o : Occurrence) :
    (w.mark o).chronicle.filterMap (f ·.what) =
      w.chronicle.filterMap (f ·.what) ++ (f o).toList := by
  rw [chronicle_mark, List.filterMap_append, List.filterMap_cons, List.filterMap_nil]
  cases f o <;> rfl

variable {f}

theorem World.Announces.read {there : Bool} (announces : w.Announces w' r h there)
    (aside : ∀ o, o.topic ≠ .registry → f o = none) :
    w'.chronicle.filterMap (f ·.what) =
      w.chronicle.filterMap (f ·.what) ++ (f (.announced r h there)).toList := by
  obtain ⟨t, earlier, grown, others⟩ := announces.history
  have silent : earlier.filterMap (f ·.what) = [] :=
    List.filterMap_eq_nil_iff.mpr fun e among => aside _ (others e among)
  rw [chronicle, grown, List.reverse_cons, List.reverse_append, List.filterMap_append,
    List.filterMap_append, List.filterMap_reverse, List.filterMap_reverse, silent, chronicle,
    List.filterMap_reverse, List.filterMap_cons, List.filterMap_nil, List.reverse_nil,
    List.append_nil]
  cases f (.announced r h there) <;> rfl

end Reading

/-- A registry that holds nothing any longer. -/
def Registry.emptied (x : Registry) : Registry :=
  { x with closed := true, discoveries := [], token := none, backends := [], devices := {} }

/-- A registry has come to be. -/
def World.found (w : World σ) (x : Registry) : World σ :=
  World.mark { w with registries := (w.registries.add x).2 }
    (.founded (w.registries.add x).1 x.token)

def World.dissolve (w : World σ) (r : RegistryId) : World σ :=
  ((Registry.noteEnd r (w.registry r).token).run (w.updateRegistry r Registry.emptied)).2

theorem World.dissolve_of_none (gone : w.registries.find? r = none) : w.dissolve r = w := by
  have idle : w.updateRegistry r Registry.emptied = w := by
    simp only [updateRegistry, Table.update, gone]
  unfold dissolve Registry.noteEnd
  rw [idle, run_bind, run_get, if_neg (by simp [isKept, item?, gone]), run_pure]

theorem World.dissolve_of_some {x : Registry} (known : w.registries.find? r = some x) :
    w.dissolve r = (w.updateRegistry r Registry.emptied).mark (.dissolved r x.token) := by
  have kept : (w.updateRegistry r Registry.emptied).isKept (.registry r) := by
    simp [isKept, item?, updateRegistry, Table.find?_update, known]
  unfold dissolve Registry.noteEnd
  rw [registry_of_find? known, run_bind, run_get, if_pos kept, run_mark]

class Attends (R : World σ → World σ → Prop) : Prop where
  trans : ∀ {w₁ w₂ w₃}, R w₁ w₂ → R w₂ w₃ → R w₁ w₃
  same : ∀ {w w'}, w'.history = w.history → w'.registries = w.registries → R w w'
  mark : ∀ w {o : Occurrence}, o.topic ≠ .registry → R w (w.mark o)
  update : ∀ w r {f}, (∀ x : Registry, x.GoesTo (f x)) → R w (w.updateRegistry r f)
  erase : ∀ w r, R w (w.erase (.registry r))
  rewrite : ∀ {w} {r h} {d : Device}, (w.registry r).device? h = some d → ∀ e, d.Alike e →
    R w (w.updateRegistry r (·.setDevice h e))
  announce : ∀ {w w'} {r h there}, World.Announces w w' r h there → R w w'
  found : ∀ w (x : Registry), x.devices = {} → x.closed = false → x.cursor = 1 → R w (w.found x)
  dissolve : ∀ w r, R w (w.dissolve r)

namespace Attends

variable {R : World σ → World σ → Prop} [a : Attends R]

theorem refl (w : World σ) : R w w := a.same rfl rfl

/-! ## What registries do not notice -/

theorem share (w : World σ) (f : Nat → Nat) (k : Kept) : R w (w.reshare f k) := by
  cases k with
  | registry r => exact a.update w r fun x => { Registry.GoesTo.refl x with }
  | _ => exact a.same rfl rfl

theorem eraseKept (w : World σ) (k : Kept) : R w (w.erase k) := by
  cases k with
  | registry r => exact a.erase w r
  | _ => exact a.same rfl rfl

instance heeds : Heeds R ⟨[.history, .registries], [.registry]⟩ where
  trans := a.trans
  aside same := a.same (same .history (by decide)) (same .registries (by decide))
  mark w _ other := a.mark w fun about => other (by simp [about])

instance footing : Footing (Keeps R) :=
  Heeds.footing_of_registry fun w r _ goes => a.update w r goes

instance base : Base (Keeps R) := Heeds.base_of_kept share eraseKept

instance ground : Ground (Keeps R) := Heeds.ground

instance overlooksProxies : OverlooksProxies (Keeps R) := Heeds.overlooksProxies

instance overlooks (i : InterfaceId) : Overlooks (Keeps R) i := Heeds.overlooks i

instance interfaceLives : InterfaceLives (Keeps R) := Heeds.interfaceLives

instance overlooksLoop : OverlooksLoop (Keeps R) := Heeds.overlooksLoop

instance overlooksConnection (c : ConnectionId) : OverlooksConnection (Keeps R) c :=
  Heeds.overlooksConnection c

instance connectionLives : ConnectionLives (Keeps R) := Heeds.connectionLives

instance connectionNotes : ConnectionNotes (Keeps R) := Connection.notes_of_overlooks

instance rewrites : Rewrites Device.Alike R where
  trans := a.trans
  rewrite hd e alike := a.rewrite hd e alike
  mark w _ about := a.mark w fun other => by simp [other] at about

/-! ## What registries do -/

theorem create_holds (options : RegistryOptions) (l : ListenerId) (token : Option Token) :
    Holds (Keeps R) (Registry.create options l token) := by
  refine ⟨fun w => ?_⟩
  have logged : Holds (Keeps R) (log .info "Registry created"
    [("controller_type", options.agent.type), ("controller_name", options.agent.name)]) := inferInstance
  have before := logged.holds w
  unfold Registry.create
  rw [run_bind, run_bind]
  generalize ((log .info "Registry created" [("controller_type", options.agent.type),
    ("controller_name", options.agent.name)] : Act σ Unit).run w).2 = w₁ at before ⊢
  let w₂ : World σ := { w₁ with traceCells := (w₁.traceCells.add options.traceLevel).2 }
  have added : R w₁ w₂ := a.same rfl rfl
  exact a.trans before (a.trans added (a.found w₂ _ rfl rfl rfl))

instance registryLives : RegistryLives (Keeps R) where
  createRegistry := create_holds
  createDeviceInterface _ _ _ := inferInstance
  createController r h l token := by
    have added : ∀ x, Holds (Keeps R) (modifyGet fun w =>
        let (k, controllers) := w.controllers.add x
        (k, { w with controllers })) := fun _ => ⟨fun _ => a.same rfl rfl⟩
    have appointed : ∀ k, Holds (Keeps R) (DroneControl.mark (.appointed k r h)) :=
      fun _ => ⟨fun w => a.mark w nofun⟩
    unfold Controller.create
    infer_instance

instance alone : Alone (Keeps R) where

variable [Upheld (Keeps R) env]

theorem addDevice_holds (r : RegistryId) (info : DeviceInfo) (b : BackendId) :
    Holds (Keeps R) (Registry.addDevice env r info b).run := by
  refine ⟨fun w => ?_⟩
  unfold Registry.addDevice
  rw [run_lookThen]
  dsimp only
  split
  · exact refl w
  next serves =>
  split
  · exact refl w
  next registered =>
  rw [Decidable.not_not] at registered
  cases taken : (w.registry r).allocate with
  | none => exact refl w
  | some allocated =>
    obtain ⟨h, x⟩ := allocated
    obtain ⟨unused, cursor, rfl⟩ := Registry.allocate_eq_some taken
    dsimp only
    rw [run_actThen, run_modify, run_actThen, run_log, run_actThen, run_mark]
    have rest : Holds (Keeps R) (do
        act (env.tell (w.registry r).listener (.deviceAdded h info))
        return h : Try σ DeviceHandle).run := inferInstance
    generalize announced : World.mark _ _ = w₁
    have added : w.Announces w₁ r h true := by
      let x' := { w.registry r with cursor }.setDevice h { info, backend := b }
      refine ⟨⟨_, x', Registry.known_of_backend registered, ?_, ?_⟩, ?_⟩
      · rw [← announced]
        exact World.log_registries _ _ _ _
      · refine ⟨by rw [unused]; rfl, fun _ => by simpa using serves, rfl, rfl, fun h' => ?_,
          fun _ => ⟨_, taken, rfl⟩, nofun⟩
        rw [Registry.device?_setDevice]
        split <;> rfl
      · refine ⟨w₁.loop.clock, [], ?_, by simp⟩
        rw [← announced, World.mark, World.log_history]
        rfl
    exact a.trans (a.announce added) (rest.holds w₁)

theorem finishRemoval_holds (quiet : Quiet env) (r : RegistryId) (h : DeviceHandle) :
    Holds (Keeps R) (Registry.finishRemoval env r h) := by
  refine ⟨fun w => ?_⟩
  unfold Registry.finishRemoval
  rw [run_bind, run_get]
  dsimp only
  cases hd : (w.registry r).device? h with
  | none => exact refl w
  | some d =>
    dsimp only
    rw [run_bind, run_modify, run_bind, run_mark, run_bind, run_log, run_bind]
    generalize marked : (w.updateRegistry r (·.eraseDevice h)).mark (.removed r h) = w₁
    generalize logged : w₁.log .info "Device removed" [("device", h.label), ("id", d.info.id)] = w₂
    -- Nobody else acts between the change of the table and the word to the listener.
    obtain ⟨interfaces, host, journal, loop, same⟩ : ∃ interfaces host journal loop,
        ((release? env (d.interface.map .interface)).run w₂).2 =
          { w₂ with interfaces, host, journal, loop } := by
      cases d.interface with
      | none => exact ⟨_, _, _, _, rfl⟩
      | some i =>
        obtain ⟨interfaces, host, journal, t, same⟩ := quiet.run_release_interface i w₂
        exact ⟨interfaces, host, journal, _, same⟩
    rw [same, run_bind, run_mark]
    generalize kept : { w₂ with interfaces, host, journal, loop } = w₃
    have registries : w₃.registries = w₂.registries := by rw [← kept]
    have history : w₃.history = w₂.history := by rw [← kept]
    have removed : w.Announces (w₃.mark (.announced r h false)) r h false := by
      have known := World.find?_of_entry hd
      refine ⟨⟨_, (w.registry r).eraseDevice h, known, ?_, ?_⟩, ?_⟩
      · change w₃.registries = _
        rw [registries, ← logged, World.log_registries, ← marked]
        change w.registries.update _ _ = _
        simp only [Table.update, known]
      · refine ⟨by rw [hd]; rfl, fun added => absurd added Bool.false_ne_true, rfl, rfl, fun h' => ?_,
          fun added => absurd added Bool.false_ne_true, fun _ => rfl⟩
        rw [Registry.device?_eraseDevice]
        split <;> rfl
      · refine ⟨w₃.loop.clock, [⟨w.loop.clock, .removed r h⟩], ?_, by simp [Occurrence.topic]⟩
        rw [World.mark, history, ← logged, World.log_history, ← marked]
        rfl
    exact a.trans (a.announce removed) (Served.tell (Q := Keeps R) _ _ _)

theorem destroy_holds (r : RegistryId) : Holds (Keeps R) (Registry.destroy env r).run := by
  refine ⟨fun w => ?_⟩
  unfold Registry.destroy
  rw [run_lookThen]
  dsimp only
  cases Registry.busyDevice? (w.registry r) with
  | some h =>
    have warned : Holds (Keeps R) (do
        act (log .warn "Registry destroyed while a device is connected" [("device", h.label)])
        throw (.busy ("device " ++ h.label ++ " still connected")) :
          Try σ (Option Token)).run := inferInstance
    exact warned.holds w
  | none =>
    rw [run_actThen, run_modify, run_actThen]
    have rest : Holds (Keeps R) (do
        act (Registry.letGo env (w.registry r))
        act (log .info "Registry destroyed" [])
        return (w.registry r).token : Try σ (Option Token)).run := inferInstance
    exact a.trans (a.dissolve w r) (rest.holds _)

theorem together (quiet : Quiet env) : Together (Keeps R) env := by
  have := finishRemoval_holds (R := R) quiet
  have : EntryCalls (Keeps R) env := Entry.calls_of_rewrites
  have : ConnectionCalls (Keeps R) env := Connection.calls_of_tells
  have : GivesUp (Keeps R) env := ⟨fun _ => Connection.giveUp_overlooked⟩
  have : RegistryCalls (Keeps R) env :=
    ⟨addDevice_holds, fun r h => Registry.removeDevice_holds r h, fun k => Registry.connect_holds k,
      destroy_holds, fun b h info agent l => ConnectionStarts.start b h info agent (.listener l)⟩
  have : InterfaceCalls (Keeps R) env := Interface.calls_of_steps
  have : InterfaceRetries (Keeps R) env := Interface.retries_of_steps
  have : LoopCalls (Keeps R) env := Loop.calls_of_steps
  have : CommandCalls (Keeps R) env := Heeds.commandCalls
  exact {}

end Attends

end DroneControl
