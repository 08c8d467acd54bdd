import DroneControl.Proofs.Run.Interfaces
import DroneControl.Proofs.Run.Steps
import DroneControl.Registry.Entry

/-!
# Closed properties of registries and their entries

Most of what is done to a registry leaves its devices as they are.  What does change them is covered
here for properties that do not look into devices and controllers at all.
-/

set_option synthInstance.maxSize 2048

namespace DroneControl

variable {σ : Type}

class OverlooksEntries (Q : (α : Type) → Act σ α → Prop) : Prop where
  registries : ∀ {α : Type} (f : World σ → α × Table .registry Registry),
    Q α (modifyGet fun w => ((f w).1, { w with registries := (f w).2 }))
  markDevice : ∀ o : Occurrence, o.topic ∈ [Topic.registry, .device, .command] → Q Unit (mark o)

class OverlooksRegistries (Q : (α : Type) → Act σ α → Prop) : Prop extends OverlooksEntries Q where
  markHearing : ∀ o : Occurrence, o.topic ∈ [Topic.hearing, .notice] → Q Unit (mark o)

class OverlooksDevices (Q : (α : Type) → Act σ α → Prop) : Prop extends
    OverlooksRegistries Q where
  controllers : ∀ {α : Type} (f : World σ → α × Table .controller Controller),
    Q α (modifyGet fun w => ((f w).1, { w with controllers := (f w).2 }))

class Device.Retains (f : Device → Device) : Prop where
  same : ∀ d, (f d).info = d.info ∧ (f d).backend = d.backend

instance Device.retains_rest (state : Device → DeviceState)
    (connection : Device → Option ConnectionId) (pipe : Device → Option PipeId)
    (interface : Device → Option InterfaceId) (observer : Device → Option ControllerId) :
    Retains fun d => { d with
      state := state d, connection := connection d, pipe := pipe d, interface := interface d
      observer := observer d } :=
  ⟨fun _ => ⟨rfl, rfl⟩⟩

class EntryNotes (Q : (α : Type) → Act σ α → Prop) : Prop where
  updateDevice : ∀ (r : RegistryId) (h : DeviceHandle) (f : Device → Device) [Device.Retains f],
    Holds Q (modify (·.updateRegistry r (·.updateDevice h f)) : Act σ Unit)
  leaving : ∀ (r : RegistryId) (h : DeviceHandle) (c : ConnectionId) (o : Option ControllerId),
    Holds Q (mark (.leaving r h c o) : Act σ Unit)

class InterfaceNotes (Q : (α : Type) → Act σ α → Prop) : Prop where
  giveInterface : ∀ (r : RegistryId) (h : DeviceHandle) (i : InterfaceId),
    Holds Q (modify (·.updateRegistry r (·.updateDevice h fun d =>
      { d with interface := some i })) : Act σ Unit)

class Hears (Q : (α : Type) → Act σ α → Prop) (c : ConnectionId) (event : ConnectionEvent) :
    Prop where
  heeded : ∀ (r : RegistryId) (h : DeviceHandle) (o : Option ControllerId) (i : Option InterfaceId),
    Holds Q (mark (.heeded r h c event o i) : Act σ Unit)
  ignored : ∀ (r : RegistryId) (h : DeviceHandle), Holds Q (mark (.ignored r h c event) : Act σ Unit)

class Notices (Q : (α : Type) → Act σ α → Prop) (c : ConnectionId) (event : DeviceEvent) :
    Prop where
  noticed : ∀ (k : ControllerId) (ready : Bool),
    Holds Q (mark (.noticed k c event ready) : Act σ Unit)

class Notifies (Q : (α : Type) → Act σ α → Prop) (env : Env σ) (c : ConnectionId)
    (event : DeviceEvent) : Prop where
  notify : ∀ k : ControllerId, Holds Q (Controller.notify env k c event)

class TimerLives (Q : (α : Type) → Act σ α → Prop) : Prop where
  stopTimer : ∀ k : ControllerId, Holds Q (Controller.stopTimer k : Act σ Bool)
  scheduleCall : ∀ (delay : Nat) (l : ListenerId),
    Holds Q (schedule delay (.call l) : Act σ TimerId)
  scheduleCalls : ∀ (period : Nat) (l : ListenerId),
    Holds Q (schedulePeriodic period (.call l) : Act σ TimerId)
  deferCall : ∀ l : ListenerId, Holds Q (defer (.call l) : Act σ Unit)
  deferEstablish : ∀ (c : ConnectionId) (channel : ChannelId) (api : DeviceApi),
    Holds Q (defer (.establish c channel api) : Act σ Unit)
  dropToken : ∀ k : ControllerId,
    Holds Q (modify (·.updateController k fun x => { x with token := none }) : Act σ Unit)

class TickNotes (Q : (α : Type) → Act σ α → Prop) : Prop where
  noteTick : ∀ k : ControllerId, Holds Q (modify (·.updateController k (·.noteTick)) : Act σ Unit)
  ticked : ∀ k : ControllerId, Holds Q (mark (.ticked k) : Act σ Unit)

class EntryCalls (Q : (α : Type) → Act σ α → Prop) (env : Env σ) : Prop where
  follow : ∀ (r : RegistryId) (h : DeviceHandle) (c : ConnectionId) (event : ConnectionEvent),
    Holds Q (Entry.follow env r h c event)

attribute [instance] EntryNotes.updateDevice EntryNotes.leaving InterfaceNotes.giveInterface
  Hears.heeded Hears.ignored Notices.noticed Notifies.notify EntryCalls.follow
  TimerLives.stopTimer TimerLives.scheduleCall TimerLives.scheduleCalls TimerLives.deferCall
  TimerLives.deferEstablish TimerLives.dropToken
  TickNotes.noteTick TickNotes.ticked

variable {Q : (α : Type) → Act σ α → Prop} {env : Env σ} [g : Base Q]

namespace Registry

instance setAgent_holds (r : RegistryId) (agent : Agent) :
    Holds Q (setAgent r agent : Act σ Unit) := by
  have : Holds Q (modify (·.updateRegistry r fun x => { x with agent }) : Act σ Unit) :=
    ⟨g.registry r _ fun x => { Registry.GoesTo.refl x with }⟩
  unfold setAgent
  infer_instance

instance setVideoDecoding_holds (r : RegistryId) (enabled : Bool) :
    Holds Q (setVideoDecoding r enabled : Act σ Unit) :=
  ⟨g.registry r _ fun x => { Registry.GoesTo.refl x with }⟩

instance setTraceLevel_holds (r : RegistryId) (level : TraceLevel) :
    Holds Q (setTraceLevel r level : Act σ Unit) :=
  ⟨g.traceCells fun w => ((), w.traceCells.set (w.registry r).traceCell level)⟩

instance device_holds (r : RegistryId) (h : DeviceHandle) :
    Holds Q (device r h : Try σ Device).run := by
  unfold device
  refine Holds.tryBind (h := fun w => ?_)
  split <;> infer_instance

instance backendOf_holds (r : RegistryId) (d : Device) :
    Holds Q (backendOf r d : Try σ BackendId).run := by
  unfold backendOf
  infer_instance

instance interfaceOf_holds (r : RegistryId) (h : DeviceHandle) :
    Holds Q (interfaceOf r h : Try σ InterfaceId).run := by
  unfold interfaceOf
  refine Holds.tryBind (h := fun d => ?_)
  split <;> infer_instance

def whileOpen (f : Registry → Registry) (x : Registry) : Registry := if x.closed then x else f x

theorem updateRegistry_whileOpen {w : World σ} {r : RegistryId}
    (serving : (w.registry r).closed = false) (f : Registry → Registry) :
    w.updateRegistry r (whileOpen f) = w.updateRegistry r f := by
  refine congrArg (fun registries => { w with registries }) (Table.update_congr fun x found => ?_)
  have serves : x.closed = false := by
    rwa [World.registry_of_find? found] at serving
  simp [whileOpen, serves]

theorem goesTo_whileOpen {f : Registry → Registry}
    (same : ∀ x, (f x).devices = x.devices ∧ (f x).closed = x.closed ∧ (f x).token = x.token ∧
      (f x).cursor = x.cursor)
    (x : Registry) : x.GoesTo (whileOpen f x) := by
  unfold whileOpen
  split
  · exact .refl x
  · next serves =>
      obtain ⟨devices, closed, token, cursor⟩ := same x
      exact ⟨devices, closed, token, cursor, fun shut => absurd shut serves, fun shut => absurd shut serves⟩

theorem registerBackend_eq (r : RegistryId) (b : BackendId) :
    (registerBackend r b : Try σ Unit) = (do
      let w ← get
      let x := w.registry r
      if x.closed then throw closedFault
      if b ∈ x.backends then throw (.busy ("backend " ++ b.label ++ " already registered"))
      act (log .debug "Backend registered"
        [("backend", b.label), ("kind", (w.backend b).kind.tag)])
      act (modify (·.updateRegistry r (whileOpen fun x =>
        { x with backends := x.backends ++ [b] })))
      act (retain (.backend b))) := by
  refine ExceptT.ext (StateT.ext fun w => ?_)
  unfold registerBackend
  rw [run_lookThen, run_lookThen]
  dsimp only
  split
  · rw [run_throwThen, run_throwThen]
  · next serves =>
      split
      · rw [run_throwThen, run_throwThen]
      · rw [run_actThen, run_actThen, run_actThen, run_actThen, run_log, run_modify, run_modify,
          updateRegistry_whileOpen]
        rw [World.registry, World.log_registries, ← World.registry]
        simpa using serves

theorem registerDiscovery_eq (r : RegistryId) (d : DiscoveryId) :
    (registerDiscovery r d : Try σ Unit) = (do
      let x := (← get).registry r
      if x.closed then throw closedFault
      if d ∈ x.discoveries then
        throw (.busy ("discovery " ++ d.label ++ " already registered"))
      act (modify (·.updateRegistry r (whileOpen fun x =>
        { x with discoveries := x.discoveries ++ [d] })))) := by
  refine ExceptT.ext (StateT.ext fun w => ?_)
  unfold registerDiscovery
  rw [run_lookThen, run_lookThen]
  dsimp only
  split
  · rw [run_throwThen, run_throwThen]
  · next serves =>
      split
      · rw [run_throwThen, run_throwThen]
      · rw [run_act, run_act, run_modify, run_modify,
          updateRegistry_whileOpen (by simpa using serves)]

instance registerBackend_holds (r : RegistryId) (b : BackendId) :
    Holds Q (registerBackend r b : Try σ Unit).run := by
  have : Holds Q (modify (·.updateRegistry r (whileOpen fun x =>
      { x with backends := x.backends ++ [b] })) : Act σ Unit) :=
    ⟨g.registry r _ (goesTo_whileOpen fun _ => ⟨rfl, rfl, rfl, rfl⟩)⟩
  rw [registerBackend_eq]
  dsimp only
  infer_instance

instance registerDiscovery_holds (r : RegistryId) (d : DiscoveryId) :
    Holds Q (registerDiscovery r d : Try σ Unit).run := by
  have : Holds Q (modify (·.updateRegistry r (whileOpen fun x =>
      { x with discoveries := x.discoveries ++ [d] })) : Act σ Unit) :=
    ⟨g.registry r _ (goesTo_whileOpen fun _ => ⟨rfl, rfl, rfl, rfl⟩)⟩
  rw [registerDiscovery_eq]
  dsimp only
  infer_instance

instance unregisterDiscovery_holds (r : RegistryId) (d : DiscoveryId) :
    Holds Q (unregisterDiscovery r d : Act σ Unit) :=
  ⟨g.registry r _ fun x => { Registry.GoesTo.refl x with
    discoveries := fun _ => List.filter_sublist.subset }⟩

instance unregisterBackend_holds [Upheld Q env] (r : RegistryId) (b : BackendId) :
    Holds Q (unregisterBackend env r b).run := by
  have : Holds Q (modify (·.updateRegistry r fun x =>
      { x with backends := x.backends.filter (· ≠ b) }) : Act σ Unit) :=
    ⟨g.registry r _ fun x => { Registry.GoesTo.refl x with
      backends := fun _ => List.filter_sublist.subset }⟩
  unfold unregisterBackend
  dsimp only
  infer_instance

end Registry

namespace Controller

theorem stopTimer_of_clear (k : ControllerId)
    [Holds Q (modify (·.updateController k fun x => { x with timer := none }) : Act σ Unit)]
    (cancel : ∀ t, Holds Q (cancelTimer t : Act σ Unit)) (stilled : Holds Q (mark (.stilled k))) :
    Holds Q (stopTimer k : Act σ Bool) := by
  unfold stopTimer
  refine Holds.bind (h := fun _ => Holds.bind (h := fun w => ?_))
  dsimp only
  split <;> infer_instance

instance timers_overlooked [o : OverlooksTimers Q] : TimerLives Q where
  stopTimer k := by
    have : Holds Q (modify (·.updateController k fun x => { x with timer := none }) : Act σ Unit) :=
      ⟨o.controller k _ fun _ => ⟨rfl, rfl⟩⟩
    exact stopTimer_of_clear k (fun t => ⟨o.cancelTimer t⟩) ⟨o.markControl _ rfl⟩
  scheduleCall _ _ := ⟨o.schedule _ _ fun _ => nofun⟩
  scheduleCalls _ _ := ⟨o.schedulePeriodic _ _ fun _ => nofun⟩
  deferCall _ := ⟨o.defer _ fun _ => nofun⟩
  deferEstablish _ _ _ := ⟨o.defer _ fun _ => nofun⟩
  dropToken k := ⟨o.controller k _ fun _ => ⟨rfl, rfl⟩⟩

instance ticks_overlooked [o : OverlooksTimers Q] : TickNotes Q where
  noteTick k := ⟨o.controller k _ fun _ => ⟨rfl, rfl⟩⟩
  ticked _ := ⟨o.markControl _ rfl⟩

end Controller

instance EntryNotes.interfaces [EntryNotes Q] : InterfaceNotes Q where
  giveInterface _ _ _ := inferInstance

section Noting

variable [InterfaceLives Q] [InterfaceNotes Q]

namespace Registry

instance createInterface_holds (r : RegistryId) (h : DeviceHandle)
    (sink : CommandSink) : Holds Q (createInterface r h sink : Try σ InterfaceId).run := by
  unfold createInterface
  refine Holds.tryBind (h := fun d => ?_)
  dsimp only
  cases d.pipe <;> infer_instance

end Registry

variable [Upheld Q env]

namespace Controller

instance openInterface_holds (k : ControllerId) : Holds Q (openInterface env k) := by
  unfold openInterface
  infer_instance

variable (c : ConnectionId) (event : DeviceEvent)

instance notifies_of_notices [TimerLives Q] [Notices Q c event] : Notifies Q env c event where
  notify k := by
    have prepared : Holds Q (prepare env k event) := by
      unfold prepare
      split <;> infer_instance
    unfold notify
    infer_instance

end Controller

end Noting

instance Controller.notify?_holds [Notifies Q env c event] (k : Option ControllerId) :
    Holds Q (notify? env k c event) := by
  unfold notify?
  split <;> infer_instance

/-! ## Properties that overlook devices -/

section Overlooked

variable [o : OverlooksEntries Q]

namespace Registry

instance update_holds (r : RegistryId) (f : Registry → Registry) :
    Holds Q (modify (·.updateRegistry r f) : Act σ Unit) :=
  ⟨o.registries fun w => ((), w.registries.update r f)⟩

instance entries_overlooked : EntryNotes Q where
  updateDevice _ _ _ _ := inferInstance
  leaving _ _ _ _ := ⟨o.markDevice _ (by simp [Occurrence.topic])⟩

instance create_holds (options : RegistryOptions) (l : ListenerId) (token : Option Token) :
    Holds Q (create options l token : Act σ RegistryId) := by
  have cell : Holds Q (modifyGet fun w =>
      let (cell, traceCells) := w.traceCells.add options.traceLevel
      (cell, { w with traceCells }) : Act σ TraceCellId) :=
    ⟨g.traceCells fun w => w.traceCells.add options.traceLevel⟩
  refine Holds.bind (h := fun _ => Holds.bind (h := fun _ => ?_))
  exact ⟨g.bind (o.registries fun w => w.registries.add _) fun r =>
    g.bind (o.markDevice (.founded r token) (by simp [Occurrence.topic])) fun _ => g.pure r⟩

instance addDevice_holds [Upheld Q env] (r : RegistryId) (info : DeviceInfo) (b : BackendId) :
    Holds Q (addDevice env r info b).run := by
  have announced := fun h => Holds.mk (o.markDevice (.announced r h true) (by simp [Occurrence.topic]))
  unfold addDevice
  refine Holds.tryBind (h := fun w => ?_)
  dsimp only
  cases (w.registry r).allocate <;> infer_instance

instance finishRemoval_holds [Upheld Q env] (r : RegistryId) (h : DeviceHandle) :
    Holds Q (finishRemoval env r h) := by
  have removed : Holds Q (mark (.removed r h) : Act σ Unit) :=
    ⟨o.markDevice _ (by simp [Occurrence.topic])⟩
  have announced : Holds Q (mark (.announced r h false) : Act σ Unit) :=
    ⟨o.markDevice _ (by simp [Occurrence.topic])⟩
  unfold finishRemoval
  refine Holds.bind (h := fun w => ?_)
  dsimp only
  split <;> infer_instance

end Registry

end Overlooked

section Noted

variable [o : OverlooksRegistries Q]

instance Controller.notices_overlooked (c : ConnectionId) (event : DeviceEvent) : Notices Q c event where
  noticed _ _ := ⟨o.markHearing _ (by simp [Occurrence.topic])⟩

instance Entry.hears_overlooked (c : ConnectionId) (event : ConnectionEvent) : Hears Q c event where
  heeded _ _ _ _ := ⟨o.markHearing _ (by simp [Occurrence.topic])⟩
  ignored _ _ := ⟨o.markHearing _ (by simp [Occurrence.topic])⟩

end Noted

variable [OverlooksEntries Q]

namespace Entry

section

variable (c : ConnectionId) (event : ConnectionEvent) [Hears Q c event]

instance claim_holds (complaint : String) (r : RegistryId) (h : DeviceHandle) :
    Holds Q (claim complaint r h c event : Act σ (Option Device)) := by
  unfold claim
  refine Holds.bind (h := fun w => ?_)
  split
  · infer_instance
  · split <;> infer_instance

instance pass_holds [Upheld Q env] (r : RegistryId) (h : DeviceHandle) (passed : DeviceEvent)
    [Notifies Q env c passed] : Holds Q (pass env r h c event passed) := by
  unfold pass
  infer_instance

end

variable [Upheld Q env]

instance establish_holds (r : RegistryId) (h : DeviceHandle) (c : ConnectionId) (p : PipeId)
    (api : DeviceApi) (d : Device) [Notifies Q env c (.connected api)] :
    Holds Q (establish env r h c p api d) := by
  unfold establish
  infer_instance

instance connected_holds (r : RegistryId) (h : DeviceHandle) (c : ConnectionId) (p : PipeId)
    (api : DeviceApi) [Hears Q c (.connected p api)] [Notifies Q env c (.connected api)] :
    Holds Q (connected env r h c p api) := by
  refine ifKept_holds _ _ _ (h := ?_)
  refine Holds.bind (h := fun d => ?_)
  cases d <;> infer_instance

variable [InterfaceLives Q]

instance dropInterface_holds (d : Device) : Holds Q (dropInterface env d) := by
  unfold dropInterface
  split <;> infer_instance

variable (c : ConnectionId) (passed : Bool → DeviceEvent) [∀ removing, Notifies Q env c (passed removing)]

instance clear_holds (r : RegistryId) (h : DeviceHandle) (d : Device) :
    Holds Q (clear env r h c passed d) := by
  unfold clear
  dsimp only
  infer_instance

instance closed_holds (r : RegistryId) (h : DeviceHandle) (event : ConnectionEvent) [Hears Q c event] :
    Holds Q (closed env r h c event passed) := by
  have noted : Holds Q (noteMissing r h : Act σ Unit) := by
    unfold noteMissing
    infer_instance
  refine ifKept_holds _ _ _ (h := ?_)
  refine Holds.bind (h := fun _ => ?_)
  refine Holds.bind (h := fun d => ?_)
  cases d <;> infer_instance

end Entry

theorem Entry.calls_of_hears [∀ c event, Hears Q c event] [∀ c event, Notices Q c event] [Upheld Q env]
    [InterfaceLives Q] [TimerLives Q] : EntryCalls Q env where
  follow r h c event := by
    unfold Entry.follow
    cases event <;> infer_instance

omit [OverlooksEntries Q] in
theorem Entry.calls_of_overlooks [OverlooksRegistries Q] [Upheld Q env] [InterfaceLives Q]
    [TimerLives Q] : EntryCalls Q env :=
  calls_of_hears

end DroneControl
