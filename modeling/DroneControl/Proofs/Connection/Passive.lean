import DroneControl.Proofs.Run.Calls

/-!
# Sinks that do not call back

A sink is a listener, or the entry of a device, which passes on what it is told to listeners.  If
none of them calls back, telling the sink of a connection touches nothing but entries, controllers
and command interfaces: connections, the states of their pipes and backends are the same afterwards,
and nothing else was told of a connection.
-/

set_option synthInstance.maxSize 2048

namespace DroneControl

variable {σ : Type} {c : ConnectionId} {w w' w'' : World σ} {env : Env σ}

/-! ## What the sink of a connection is told -/

def Occurrence.told? (c : ConnectionId) : Occurrence → Option ConnectionEvent
  | .told c' event => if c' = c then some event else none
  | _ => none

theorem Occurrence.told?_eq_none {c : ConnectionId} {o : Occurrence}
    (other : o.topic ≠ .connection) : o.told? c = none := by
  cases o <;> first | rfl | exact absurd rfl other

/-- What the sink of a connection has been told of it, in order. -/
def World.heard (w : World σ) (c : ConnectionId) : List ConnectionEvent :=
  w.chronicle.filterMap (·.what.told? c)

theorem World.heard_congr (history : w'.history = w.history) (c : ConnectionId) :
    w'.heard c = w.heard c := by
  simp [heard, chronicle, history]

theorem World.heard_mark (w : World σ) (c : ConnectionId) (o : Occurrence) :
    (w.mark o).heard c = w.heard c ++ (o.told? c).toList := by
  rw [heard, chronicle_mark, List.filterMap_append]
  cases h : o.told? c <;> simp [heard, h]

/-! ## Listeners that do not call back -/

/-- The listener thinks about what it is told, and does nothing else about it. -/
def Env.Thinks (env : Env σ) (l : ListenerId) : Prop :=
  ∀ event, Program Thought Unit (env.tell l event)

def Env.ReapsQuietly (env : Env σ) : Prop :=
  ∀ (x : Interface) (w : World σ), ∃ host journal,
    ((env.reap (.interface x)).run w).2 = { w with host, journal }

/-- Nobody calls back who may be told of something through the sink. -/
def Sink.Passive (env : Env σ) (w : World σ) : Sink → Prop
  | .listener l => env.Thinks l
  | .entry r _ => env.Thinks (w.registry r).listener ∧
      ∀ k x, w.controllers.find? k = some x → env.Thinks x.listener

/-- Connections, the states of pipes and backends are the same, nothing is told of a connection, and
as many keep each registry and each controller, which goes on telling the same listener. -/
structure Passes (w w' : World σ) : Prop where
  connections : w'.connections = w.connections
  backends : w'.backends = w.backends
  heard : ∀ c, w'.heard c = w.heard c
  pipes : ∀ p, (w'.pipe p).state = (w.pipe p).state
  registries : ∀ r, (w'.registries.find? r).map (fun x => (x.sharers, x.listener)) =
    (w.registries.find? r).map fun x => (x.sharers, x.listener)
  controllers : ∀ k, (w'.controllers.find? k).map (fun x => (x.sharers, x.listener)) =
    (w.controllers.find? k).map fun x => (x.sharers, x.listener)

namespace Passes

theorem refl (w : World σ) : Passes w w :=
  ⟨rfl, rfl, fun _ => rfl, fun _ => rfl, fun _ => rfl, fun _ => rfl⟩

theorem trans (first : Passes w w') (second : Passes w' w'') : Passes w w'' where
  connections := second.connections.trans first.connections
  backends := second.backends.trans first.backends
  heard c := (second.heard c).trans (first.heard c)
  pipes p := (second.pipes p).trans (first.pipes p)
  registries r := (second.registries r).trans (first.registries r)
  controllers k := (second.controllers k).trans (first.controllers k)

instance closed : Closed (Keeps (σ := σ) Passes) := Keeps.closed .refl .trans

theorem of_same (connections : w'.connections = w.connections) (backends : w'.backends = w.backends)
    (history : w'.history = w.history) (pipes : w'.pipes = w.pipes)
    (registries : w'.registries = w.registries) (controllers : w'.controllers = w.controllers) :
    Passes w w' :=
  ⟨connections, backends, World.heard_congr history,
    fun p => by rw [World.pipe, pipes, ← World.pipe], fun r => by rw [registries], fun k => by rw [controllers]⟩

/-! ## Steps -/

theorem mark (w : World σ) {o : Occurrence} (untold : ∀ c, o.told? c = none) :
    Passes w (w.mark o) :=
  ⟨rfl, rfl, fun c => by simp [World.heard_mark, untold], fun _ => rfl, fun _ => rfl, fun _ => rfl⟩

instance log_passes (s : Severity) (message : String) (fields : List (String × String)) :
    Holds (Keeps (σ := σ) Passes) (log s message fields) := by
  refine ⟨fun w => ?_⟩
  rw [run_log]
  unfold World.log
  split <;> exact .of_same rfl rfl rfl rfl rfl rfl

instance cancelTimer?_passes (t : Option TimerId) :
    Holds (Keeps (σ := σ) Passes) (cancelTimer? t) := by
  cases t <;> exact ⟨fun _ => .of_same rfl rfl rfl rfl rfl rfl⟩

instance updateInterface_passes (i : InterfaceId) (f : Interface → Interface) :
    Holds (Keeps (σ := σ) Passes) (modify (·.updateInterface i f)) :=
  ⟨fun _ => .of_same rfl rfl rfl rfl rfl rfl⟩

theorem updatePipe {p : PipeId} {f : Pipe → Pipe} (same : ∀ x, (f x).state = x.state) :
    Holds (Keeps (σ := σ) Passes) (modify (·.updatePipe p f)) := by
  refine ⟨fun w => ⟨rfl, rfl, fun _ => rfl, fun p' => ?_, fun _ => rfl, fun _ => rfl⟩⟩
  simp only [run_modify, World.pipe, World.updatePipe, Table.get, Table.find?_update]
  split
  · next here =>
      subst here
      cases w.pipes.find? p <;> simp [same]
  · rfl

theorem find?_update_of_same {e : Entity} {α β : Type} {t : Table e α} {i : Id e} {f : α → α}
    {view : α → β} (same : ∀ x, view (f x) = view x) (j : Id e) :
    ((t.update i f).find? j).map view = (t.find? j).map view := by
  rw [Table.find?_update]
  split
  · next here =>
      subst here
      cases t.find? i <;> simp [same]
  · rfl

theorem updateRegistry {r : RegistryId} {f : Registry → Registry}
    (same : ∀ x, (f x).sharers = x.sharers ∧ (f x).listener = x.listener) :
    Holds (Keeps (σ := σ) Passes) (modify (·.updateRegistry r f)) :=
  ⟨fun _ => ⟨rfl, rfl, fun _ => rfl, fun _ => rfl,
    find?_update_of_same fun x => by rw [(same x).1, (same x).2], fun _ => rfl⟩⟩

theorem updateController {k : ControllerId} {f : Controller → Controller}
    (same : ∀ x, (f x).sharers = x.sharers ∧ (f x).listener = x.listener) :
    Holds (Keeps (σ := σ) Passes) (modify (·.updateController k f)) :=
  ⟨fun _ => ⟨rfl, rfl, fun _ => rfl, fun _ => rfl, fun _ => rfl,
    find?_update_of_same fun x => by rw [(same x).1, (same x).2]⟩⟩

theorem thinks {l : ListenerId} (thinks : env.Thinks l) (event : Event) :
    Holds (Keeps Passes) (env.tell l event) := by
  refine ⟨fun w => ?_⟩
  obtain ⟨host, journal, same⟩ := Thought.program_quiet (thinks event) w
  rw [same]
  exact .of_same rfl rfl rfl rfl rfl rfl

theorem find?_shared {e : Entity} {α β : Type} {t t' : Table e α} {i : Id e} {up down : α → α}
    {view : α → Nat × β} (ups : ∀ x, view (up x) = ((view x).1 + 1, (view x).2))
    (downs : ∀ x, view (down x) = ((view x).1 - 1, (view x).2))
    (same : ∀ j, (t'.find? j).map view = ((t.update i up).find? j).map view) (j : Id e) :
    ((t'.update i down).find? j).map view = (t.find? j).map view := by
  have row := same j
  rw [Table.find?_update] at row ⊢
  split
  · next here =>
      subst here
      rw [if_pos rfl] at row
      cases known : t.find? i with
      | none =>
          rw [known, Option.map_none, Option.map_none, Option.map_eq_none_iff] at row
          rw [row]
          rfl
      | some x =>
          rw [known, Option.map_some, Option.map_some, ups] at row
          obtain ⟨x', known', view'⟩ := Option.map_eq_some_iff.mp row
          simp [known', downs, view']
  · next other => simpa [other] using row

theorem keeping_registry {α : Type} {r : RegistryId} {a : Act σ α}
    (known : w.isKept (.registry r))
    (passes : Passes (w.reshare (· + 1) (.registry r))
      (a.run (w.reshare (· + 1) (.registry r))).2) :
    Passes w ((keeping env (.registry r) a).run w).2 := by
  rw [run_keeping]
  generalize (a.run (w.reshare (· + 1) (.registry r))).2 = w' at passes
  obtain ⟨x, found⟩ : ∃ x, w.registries.find? r = some x := by
    simpa [World.isKept, World.item?, Option.isSome_iff_exists] using known
  have row := passes.registries r
  simp only [World.reshare, World.updateRegistry, Table.find?_update, found, if_true,
    Option.map_some] at row
  obtain ⟨x', found', same⟩ := Option.map_eq_some_iff.mp row
  have shares : x'.sharers = x.sharers + 1 := (Prod.mk.inj same).1
  have item : w'.item? (.registry r) = some (.registry x') := by simp [World.item?, found']
  rw [run_release item (by simp [Item.sharers, shares])]
  exact ⟨passes.connections, passes.backends, passes.heard, passes.pipes,
    find?_shared (fun _ => rfl) (fun _ => rfl) passes.registries, passes.controllers⟩

theorem keeping_controller {α : Type} {k : ControllerId} {a : Act σ α}
    (known : w.isKept (.controller k))
    (passes : Passes (w.reshare (· + 1) (.controller k))
      (a.run (w.reshare (· + 1) (.controller k))).2) :
    Passes w ((keeping env (.controller k) a).run w).2 := by
  rw [run_keeping]
  generalize (a.run (w.reshare (· + 1) (.controller k))).2 = w' at passes
  obtain ⟨x, found⟩ : ∃ x, w.controllers.find? k = some x := by
    simpa [World.isKept, World.item?, Option.isSome_iff_exists] using known
  have row := passes.controllers k
  simp only [World.reshare, World.updateController, Table.find?_update, found, if_true,
    Option.map_some] at row
  obtain ⟨x', found', same⟩ := Option.map_eq_some_iff.mp row
  have shares : x'.sharers = x.sharers + 1 := (Prod.mk.inj same).1
  have item : w'.item? (.controller k) = some (.controller x') := by simp [World.item?, found']
  rw [run_release item (by simp [Item.sharers, shares])]
  exact ⟨passes.connections, passes.backends, passes.heard, passes.pipes, passes.registries,
    find?_shared (fun _ => rfl) (fun _ => rfl) passes.controllers⟩

theorem release_interface (reaps : env.ReapsQuietly) (i : InterfaceId) :
    Holds (Keeps Passes) (release env (.interface i)) := by
  refine ⟨fun w => ?_⟩
  unfold release
  rw [run_bind, run_get]
  cases found : w.item? (.interface i) with
  | none => exact .refl w
  | some item =>
      obtain ⟨x, -, rfl⟩ := Option.map_eq_some_iff.mp found
      dsimp only
      split
      · obtain ⟨host, journal, same⟩ := reaps x (w.retire (.interface i))
        rw [run_bind, run_modify, same]
        exact .of_same rfl rfl rfl rfl rfl rfl
      · exact .of_same rfl rfl rfl rfl rfl rfl

end Passes

/-! ## Entries and controllers -/

def PassesWith (env : Env σ) (r : RegistryId) (w w' : World σ) : Prop :=
  (Sink.entry r default).Passive env w → Passes w w'

theorem Sink.Passive.listeners
    (registries : ∀ r, (w'.registries.find? r).map Registry.listener =
      (w.registries.find? r).map Registry.listener)
    (controllers : ∀ k, (w'.controllers.find? k).map Controller.listener =
      (w.controllers.find? k).map Controller.listener) {sink : Sink} :
    sink.Passive env w → sink.Passive env w' := by
  cases sink with
  | listener l => exact id
  | entry r h =>
      rintro ⟨registry, controller⟩
      constructor
      · have same : (w'.registry r).listener = (w.registry r).listener := by
          have row := registries r
          unfold World.registry Table.get
          cases found : w.registries.find? r with
          | none =>
              rw [found] at row
              rw [Option.map_eq_none_iff.mp row]
          | some x =>
              rw [found] at row
              obtain ⟨x', found', same⟩ := Option.map_eq_some_iff.mp row
              rw [found']
              exact same
        rwa [same]
      · intro k x' found'
        have row := controllers k
        rw [found'] at row
        obtain ⟨x, found, same⟩ := Option.map_eq_some_iff.mp row.symm
        rw [← same]
        exact controller k x found

theorem Passes.passive (passes : Passes w w') {sink : Sink} :
    sink.Passive env w → sink.Passive env w' :=
  Sink.Passive.listeners
    (fun r => by
      simpa [Function.comp_def] using congrArg (·.map Prod.snd) (passes.registries r))
    fun k => by simpa [Function.comp_def] using congrArg (·.map Prod.snd) (passes.controllers k)

theorem Sink.Passive.shared {sink : Sink} (passive : sink.Passive env w) (f : Nat → Nat)
    (k : Kept) : sink.Passive env (w.reshare f k) := by
  refine passive.listeners (fun r => ?_) fun k' => ?_
  · cases k with
    | registry r' =>
        exact Passes.find?_update_of_same
          (f := fun x : Registry => { x with sharers := f x.sharers }) (fun _ => rfl) r
    | _ => rfl
  · cases k with
    | controller k =>
        exact Passes.find?_update_of_same
          (f := fun x : Controller => { x with sharers := f x.sharers }) (fun _ => rfl) k'
    | _ => rfl

namespace PassesWith

variable {r : RegistryId}

instance closed : Closed (Keeps (PassesWith env r)) :=
  Keeps.closed (fun w _ => .refl w) fun first second passive =>
    (first passive).trans (second ((first passive).passive passive))

instance of_passes {α : Type} {a : Act σ α} [passes : Holds (Keeps Passes) a] :
    Holds (Keeps (PassesWith env r)) a :=
  ⟨fun w _ => passes.holds w⟩

instance ifKept_registry {α : Type} {otherwise : α} {a : Act σ α}
    [inside : Holds (Keeps (PassesWith env r)) a] (r' : RegistryId) :
    Holds (Keeps (PassesWith env r)) (ifKept env (.registry r') otherwise a) := by
  refine ⟨fun w passive => ?_⟩
  rw [run_ifKept]
  split
  · next kept => exact .keeping_registry kept (inside.holds _ (passive.shared _ _))
  · exact .refl w

end PassesWith

/-! ## What an entry does about an event -/

namespace Passes

instance setReceiver_passes (p : PipeId) (receiver : Receiver) :
    Holds (Keeps (σ := σ) Passes) (Pipe.setReceiver p receiver) :=
  updatePipe fun _ => rfl

instance clearReceiver_passes (p : PipeId) : Holds (Keeps (σ := σ) Passes) (Pipe.clearReceiver p) :=
  updatePipe fun _ => rfl

instance close_passes (i : InterfaceId) : Holds (Keeps (σ := σ) Passes) (Interface.close i) := by
  have closed : Holds (Keeps (σ := σ) Passes) (DroneControl.mark (.closed i)) :=
    ⟨fun w => .mark w fun _ => rfl⟩
  unfold Interface.close Interface.clearFlight Interface.setTimer
  infer_instance

instance setDevice_passes (r : RegistryId) (h : DeviceHandle) (d : Device) :
    Holds (Keeps (σ := σ) Passes) (modify (·.updateRegistry r (·.setDevice h d))) :=
  updateRegistry fun _ => ⟨rfl, rfl⟩

instance claim_passes (complaint : String) (r : RegistryId) (h : DeviceHandle) (c : ConnectionId)
    (event : ConnectionEvent) :
    Holds (Keeps (σ := σ) Passes) (Entry.claim complaint r h c event) := by
  have heeded : ∀ observer interface,
      Holds (Keeps (σ := σ) Passes) (DroneControl.mark (.heeded r h c event observer interface)) :=
    fun _ _ => ⟨fun w => .mark w fun _ => rfl⟩
  have ignored : Holds (Keeps (σ := σ) Passes) (DroneControl.mark (.ignored r h c event)) :=
    ⟨fun w => .mark w fun _ => rfl⟩
  unfold Entry.claim
  refine Holds.bind (h := fun w => ?_)
  split
  · infer_instance
  · split <;> infer_instance

instance stopTimer_passes (k : ControllerId) :
    Holds (Keeps (σ := σ) Passes) (Controller.stopTimer k) := by
  have cleared : Holds (Keeps (σ := σ) Passes)
      (modify (·.updateController k fun x => { x with timer := none })) :=
    updateController fun _ => ⟨rfl, rfl⟩
  have canceled : ∀ t, Holds (Keeps (σ := σ) Passes) (cancelTimer t) :=
    fun t => cancelTimer?_passes (some t)
  have stilled : Holds (Keeps (σ := σ) Passes) (DroneControl.mark (.stilled k)) :=
    ⟨fun w => .mark w fun _ => rfl⟩
  unfold Controller.stopTimer
  refine Holds.bind (h := fun _ => Holds.bind (h := fun w => ?_))
  dsimp only
  split <;> infer_instance

instance createInterface_passes (r : RegistryId) (h : DeviceHandle) (sink : CommandSink) :
    Holds (Keeps (σ := σ) Passes) (Registry.createInterface r h sink).run := by
  have added : ∀ x, Holds (Keeps (σ := σ) Passes) (modifyGet fun w =>
      let (i, interfaces) := w.interfaces.add x
      (i, { w with interfaces })) :=
    fun _ => ⟨fun _ => .of_same rfl rfl rfl rfl rfl rfl⟩
  have created : ∀ p cell, Holds (Keeps (σ := σ) Passes) (Interface.create h p sink cell) := by
    intro p cell
    unfold Interface.create
    infer_instance
  have given : ∀ i, Holds (Keeps (σ := σ) Passes) (modify (·.updateRegistry r
      (·.updateDevice h fun d => { d with interface := some i }))) := by
    refine fun i => updateRegistry fun x => ?_
    unfold Registry.updateDevice
    split <;> exact ⟨rfl, rfl⟩
  have retained : ∀ i, Holds (Keeps (σ := σ) Passes) (retain (.interface i)) :=
    fun _ => ⟨fun _ => .of_same rfl rfl rfl rfl rfl rfl⟩
  have found : Holds (Keeps (σ := σ) Passes) (Registry.device r h).run := by
    unfold Registry.device
    refine Holds.tryBind (h := fun w => ?_)
    split <;> infer_instance
  unfold Registry.createInterface
  refine Holds.tryBind (h := fun d => ?_)
  dsimp only
  cases d.pipe <;> infer_instance

theorem prepare_passes (reaps : env.ReapsQuietly) (k : ControllerId) (event : DeviceEvent) :
    Holds (Keeps Passes) (Controller.prepare env k event) := by
  have released := release_interface reaps
  have opened : Holds (Keeps Passes) (Controller.openInterface env k) := by
    unfold Controller.openInterface
    infer_instance
  unfold Controller.prepare
  split <;> infer_instance

theorem dropInterface_passes (reaps : env.ReapsQuietly) (d : Device) :
    Holds (Keeps Passes) (Entry.dropInterface env d) := by
  have released := release_interface reaps
  unfold Entry.dropInterface
  cases d.interface <;> infer_instance

end Passes

namespace PassesWith

variable {r : RegistryId}

theorem notify_passes (reaps : env.ReapsQuietly) (k : ControllerId) (c : ConnectionId)
    (event : DeviceEvent) : Holds (Keeps (PassesWith env r)) (Controller.notify env k c event) := by
  refine ⟨fun w passive => ?_⟩
  unfold Controller.notify
  rw [run_ifKept]
  split
  · next kept =>
      refine .keeping_controller kept ?_
      have passive := passive.shared (· + 1) (.controller k)
      obtain ⟨x, found⟩ :
          ∃ x, (w.reshare (· + 1) (.controller k)).controllers.find? k = some x := by
        obtain ⟨x, found⟩ : ∃ x, w.controllers.find? k = some x := by
          simpa [World.isKept, World.item?, Option.isSome_iff_exists] using kept
        exact ⟨{ x with sharers := x.sharers + 1 }, by
          simp [World.reshare, World.updateController, Table.find?_update, found]⟩
      generalize w.reshare (· + 1) (.controller k) = w₁ at passive found
      have prepared := (Passes.prepare_passes reaps k event).holds w₁
      rw [run_bind, run_bind, run_get, run_bind, run_mark, run_bind, run_get]
      dsimp only
      generalize ((Controller.prepare env k event).run w₁).2 = w₂ at prepared
      have marked : Passes w₁ (w₂.mark (.noticed k c event (Controller.isReady w₂ k))) :=
        prepared.trans (.mark w₂ fun _ => rfl)
      generalize w₂.mark (.noticed k c event (Controller.isReady w₂ k)) = w₃ at marked
      have row := marked.controllers k
      rw [found] at row
      obtain ⟨x', found', -⟩ := Option.map_eq_some_iff.mp row
      have here : w₃.controller k = x' := World.controller_of_find? found'
      rw [here]
      exact marked.trans ((Passes.thinks ((marked.passive passive).2 k x' found') _).holds w₃)
  · exact .refl w

theorem finishRemoval_passes (reaps : env.ReapsQuietly) (h : DeviceHandle) :
    Holds (Keeps (PassesWith env r)) (Registry.finishRemoval env r h) := by
  have released := Passes.release_interface reaps
  have erased : Holds (Keeps (σ := σ) Passes) (modify (·.updateRegistry r (·.eraseDevice h))) :=
    Passes.updateRegistry fun _ => ⟨rfl, rfl⟩
  have marked : ∀ o : Occurrence, (∀ c, o.told? c = none) →
      Holds (Keeps (σ := σ) Passes) (mark o) :=
    fun _ untold => ⟨fun w => .mark w untold⟩
  have removed := marked (.removed r h) fun _ => rfl
  have announced := marked (.announced r h false) fun _ => rfl
  refine ⟨fun w passive => ?_⟩
  have told := Passes.thinks passive.1 (.deviceRemoved h)
  unfold Registry.finishRemoval
  rw [run_bind, run_get]
  dsimp only
  split
  · exact .refl w
  · next d _ =>
      have dropped : Holds (Keeps Passes) (release? env (d.interface.map .interface)) := by
        cases d.interface with
        | none => exact Holds.pure ()
        | some i => exact released i
      exact Holds.holds (Q := Keeps Passes) w

theorem follow_passes (reaps : env.ReapsQuietly) (h : DeviceHandle) (c : ConnectionId)
    (event : ConnectionEvent) :
    Holds (Keeps (PassesWith env r)) (Entry.follow env r h c event) := by
  have noticed := notify_passes (r := r) reaps
  have dropped := Passes.dropInterface_passes reaps
  have finished := finishRemoval_passes (r := r) reaps h
  have told : ∀ k event, Holds (Keeps (PassesWith env r)) (Controller.notify? env k c event) := by
    intro k event
    cases k with
    | none => exact Holds.pure ()
    | some k => exact noticed k c event
  have passed : ∀ event passed,
      Holds (Keeps (PassesWith env r)) (Entry.pass env r h c event passed) := by
    intro event passed
    unfold Entry.pass
    infer_instance
  have closed : ∀ event passed,
      Holds (Keeps (PassesWith env r)) (Entry.closed env r h c event passed) := by
    intro event passed
    have missed : Holds (Keeps (σ := σ) Passes) (Entry.noteMissing r h) := by
      unfold Entry.noteMissing
      infer_instance
    have cleared : ∀ d, Holds (Keeps (PassesWith env r)) (Entry.clear env r h c passed d) := by
      intro d
      unfold Entry.clear
      dsimp only
      infer_instance
    unfold Entry.closed
    refine @ifKept_registry _ _ _ _ _ _ (Holds.bind (h := fun _ => Holds.bind (h := fun d => ?_))) r
    cases d <;> infer_instance
  unfold Entry.follow
  cases event with
  | connected pipe api =>
      have established : ∀ d, Holds (Keeps (PassesWith env r))
          (Entry.establish env r h c pipe api d) := by
        intro d
        unfold Entry.establish
        infer_instance
      refine @ifKept_registry _ _ _ _ _ _ (Holds.bind (h := fun d => ?_)) r
      cases d <;> infer_instance
  | _ => infer_instance

end PassesWith

theorem Connection.tell_passes (reaps : env.ReapsQuietly)
    (passive : (w.connection c).sink.Passive env w) (event : ConnectionEvent) :
    Passes (w.mark (.told c event)) ((Connection.tell env c event).run w).2 := by
  unfold Connection.tell
  rw [run_bind, run_mark, run_bind, run_get]
  dsimp only
  have same : ((w.mark (.told c event)).connection c).sink = (w.connection c).sink := rfl
  rw [same]
  cases sink : (w.connection c).sink with
  | listener l =>
      rw [sink] at passive
      exact (Passes.thinks passive _).holds _
  | entry r h =>
      rw [sink] at passive
      exact (PassesWith.follow_passes reaps h c event).holds _ passive

end DroneControl
