import DroneControl.Loop.Run
import DroneControl.Proofs.Run.Connections

/-!
# Closed properties of the rest of the library

What registries, controllers, discovery sources, streams and backends do beyond single entries and
connections, what is left to do for things that nobody keeps, and the loop.
-/

set_option synthInstance.maxSize 2048

namespace DroneControl

variable {σ : Type}

class RegistryLives (Q : (α : Type) → Act σ α → Prop) : Prop where
  createRegistry : ∀ options l token, Holds Q (Registry.create options l token : Act σ RegistryId)
  createDeviceInterface : ∀ r h sink,
    Holds Q (Registry.createInterface r h sink : Try σ InterfaceId).run
  createController : ∀ r h l token,
    Holds Q (Controller.create r h l token : Try σ ControllerId).run

class TimerStarts (Q : (α : Type) → Act σ α → Prop) : Prop where
  startTimer : ∀ k period, Holds Q (Controller.startTimer k period : Try σ Unit).run

class DiscoveryLives (Q : (α : Type) → Act σ α → Prop) : Prop where
  createDiscovery : ∀ r name b, Holds Q (Discovery.create r name b : Try σ DiscoveryId).run
  setTypes : ∀ d types, Holds Q (Discovery.setTypes d types : Act σ Unit)
  startDiscovery : ∀ d, Holds Q (Discovery.start d : Act σ Unit)

class DiscoveryCalls (Q : (α : Type) → Act σ α → Prop) (env : Env σ) : Prop where
  removeAll : ∀ d r devices, Holds Q (Discovery.removeAll env d r devices)
  stopDiscovery : ∀ d, Holds Q (Discovery.stop env d)
  discover : ∀ d s, Holds Q (Discovery.addDevice env d s).run
  lose : ∀ d name t, Holds Q (Discovery.removeDevice env d name t).run

class RegistryCalls (Q : (α : Type) → Act σ α → Prop) (env : Env σ) : Prop where
  addDevice : ∀ r info b, Holds Q (Registry.addDevice env r info b).run
  removeDevice : ∀ r h, Holds Q (Registry.removeDevice env r h).run
  connect : ∀ k, Holds Q (Controller.connect env k).run
  destroy : ∀ r, Holds Q (Registry.destroy env r).run
  start : ∀ b h info agent l, Holds Q (Backend.start env b h info agent (.listener l)).run

class CommandCalls (Q : (α : Type) → Act σ α → Prop) (env : Env σ) : Prop where
  command : ∀ (k : ControllerId) (c : Command), Holds Q (Controller.send env k c).run

class LoopCalls (Q : (α : Type) → Act σ α → Prop) (env : Env σ) : Prop where
  settle : ∀ extra, Holds Q (Loop.settle env extra)
  pass : ∀ extra ms, Holds Q (Loop.pass env extra ms)

attribute [instance] RegistryLives.createRegistry RegistryLives.createDeviceInterface
  RegistryLives.createController TimerStarts.startTimer DiscoveryLives.createDiscovery
  DiscoveryLives.setTypes DiscoveryLives.startDiscovery DiscoveryCalls.removeAll DiscoveryCalls.stopDiscovery
  DiscoveryCalls.discover DiscoveryCalls.lose RegistryCalls.addDevice RegistryCalls.removeDevice
  RegistryCalls.connect RegistryCalls.destroy RegistryCalls.start CommandCalls.command
  LoopCalls.settle LoopCalls.pass

theorem Loop.beat_holds {Q : (α : Type) → Act σ α → Prop} [Closed Q] {env : Env σ} {job : Job}
    {turn : Nat} (beats : Holds Q (mark (.beats turn))) (performs : Holds Q (perform env job))
    (period now deadline fuel : Nat) :
    Holds Q (beat env job turn period now deadline fuel) := by
  induction fuel generalizing deadline with
  | zero => exact Holds.pure _
  | succ fuel ih =>
    unfold beat
    have again := ih (nextDeadline deadline now period)
    infer_instance

variable {Q : (α : Type) → Act σ α → Prop} {env : Env σ} [g : Base Q]

/-! ## Registries -/

namespace Registry

section

variable [Upheld Q env]

instance letGo_holds (x : Registry) : Holds Q (letGo env x) := by
  unfold letGo
  infer_instance

instance channelOf_holds (r : RegistryId) (h : DeviceHandle) :
    Holds Q (channelOf r h : Try σ ChannelId).run := by
  unfold channelOf
  refine Holds.tryBind (h := fun d => Holds.tryBind (h := fun b => ?_))
  refine Holds.tryBind (h := fun w => ?_)
  dsimp only
  split <;> infer_instance

variable [ConnectionCalls Q env]

instance openProxy_holds (r : RegistryId) (h : DeviceHandle) (t : DeviceType) (port : UInt16)
    (sink : ProxySink) : Holds Q (openProxy env r h t port sink).run := by
  unfold openProxy
  dsimp only
  infer_instance

variable [ConnectionNotes Q]

instance disconnectDevice_holds (r : RegistryId) (h : DeviceHandle) :
    Holds Q (disconnectDevice env r h).run := by
  unfold disconnectDevice
  refine Holds.tryBind (h := fun d => ?_)
  cases d.connection <;> infer_instance

end

theorem create_of_row (founded : ∀ r token, Q Unit (mark (.founded r token)))
    (row : ∀ x : Registry, x.devices = {} ∧ x.closed = false →
      Q RegistryId (modifyGet fun w =>
        ((w.registries.add x).1, { w with registries := (w.registries.add x).2 })))
    (options : RegistryOptions) (l : ListenerId) (token : Option Token) :
    Holds Q (create options l token) := by
  have cell := Holds.mk (g.traceCells fun w => w.traceCells.add options.traceLevel)
  refine Holds.bind (h := fun _ => Holds.bind (h := fun _ => ?_))
  exact ⟨g.bind (row _ ⟨rfl, rfl⟩) fun r => g.bind (founded r token) fun _ => g.pure r⟩

section Noting

variable [EntryNotes Q]

instance updateEntry_holds (r : RegistryId) (h : DeviceHandle) (f : Device → Device)
    [Device.Retains f] : Holds Q (updateEntry r h f : Act σ Unit) := by
  unfold updateEntry
  infer_instance

instance settleStart_holds (r : RegistryId) (h : DeviceHandle)
    (started : Except Fault ConnectionId) : Holds Q (settleStart r h started : Try σ Unit).run := by
  unfold settleStart
  refine Holds.tryBind (h := fun w => ?_)
  cases started <;> cases (w.registry r).device? h <;> infer_instance

variable [Upheld Q env]

instance connectDevice_holds [ConnectionStarts Q env] (r : RegistryId) (h : DeviceHandle)
    (k : ControllerId) : Holds Q (connectDevice env r h k).run := by
  unfold connectDevice
  dsimp only
  infer_instance

omit [EntryNotes Q] [Upheld Q env] in
theorem connect_holds (k : ControllerId) [∀ r h, Holds Q (connectDevice env r h k).run] :
    Holds Q (Controller.connect env k).run := by
  unfold Controller.connect
  dsimp only
  infer_instance

theorem removeDevice_holds [ConnectionCalls Q env] [ConnectionNotes Q] (r : RegistryId)
    (h : DeviceHandle) [Holds Q (finishRemoval env r h)] :
    Holds Q (removeDevice env r h).run := by
  unfold removeDevice
  refine Holds.tryBind (h := fun d => ?_)
  split
  · infer_instance
  · cases d.connection with
    | none => infer_instance
    | some c =>
      refine Holds.tryBind (h := fun b => Holds.tryBind (h := fun _ => ?_))
      refine Holds.tryBind (h := fun _ => Holds.tryBind (h := fun _ => ?_))
      refine keepingTry_holds _ _ (h := ?_)
      refine Holds.tryBind (h := fun result => ?_)
      cases result <;> infer_instance

end Noting

theorem noteEnd_of_mark (r : RegistryId) (token : Option Token)
    (dissolved : Q Unit (mark (.dissolved r token))) : Holds Q (noteEnd r token : Act σ Unit) := by
  have := Holds.mk dissolved
  unfold noteEnd
  infer_instance

theorem calls_of_overlooks [o : OverlooksEntries Q] [Upheld Q env] [ConnectionNotes Q]
    [ConnectionCalls Q env] [starts : ConnectionStarts Q env] : RegistryCalls Q env where
  addDevice _ _ _ := inferInstance
  removeDevice r h := removeDevice_holds r h
  connect k := connect_holds k
  destroy r := by
    have noted := fun token => noteEnd_of_mark r token (o.markDevice _ (by simp [Occurrence.topic]))
    unfold destroy
    refine Holds.tryBind (h := fun w => ?_)
    dsimp only
    cases busyDevice? (w.registry r) <;> infer_instance
  start b h info agent l := starts.start b h info agent (.listener l)

theorem lives_of_controllers [o : OverlooksEntries Q] [InterfaceLives Q]
    (add : ∀ device registry listener token, Q ControllerId (modifyGet fun w =>
      let (k, controllers) := w.controllers.add { device, registry, listener, token }
      (k, { w with controllers }))) :
    RegistryLives Q where
  createRegistry _ _ _ := inferInstance
  createDeviceInterface _ _ _ := inferInstance
  createController r h l token := by
    have added := Holds.mk (add h r l token)
    have appointed := fun k => Holds.mk (o.markDevice (.appointed k r h) (by simp [Occurrence.topic]))
    unfold Controller.create
    infer_instance

theorem lives_of_overlooks [o : OverlooksDevices Q] [InterfaceLives Q] : RegistryLives Q :=
  lives_of_controllers fun h r l token => o.controllers fun w =>
    w.controllers.add { device := h, registry := r, listener := l, token }

end Registry

/-! ## Discovery sources -/

namespace Discovery

variable [Upheld Q env]

theorem withRegistry_holds {α : Type} (d : DiscoveryId) (action : RegistryId → Try σ α)
    (h : ∀ r, Holds Q (action r).run) : Holds Q (withRegistry env d action).run := by
  unfold withRegistry
  dsimp only
  infer_instance

variable [RegistryCalls Q env]

omit [Upheld Q env] in
instance dismiss_holds (d : DiscoveryId) (r : RegistryId) (h : DeviceHandle)
    [∀ since refusal, Holds Q (mark (.dropped d r h since refusal) : Act σ Unit)] :
    Holds Q (dismiss env d r h).run := by
  have settled : ∀ result, Holds Q (ExceptT.mk (pure result) : Try σ Unit).run :=
    fun result => Holds.pure result
  unfold dismiss
  infer_instance

instance evict_holds (d : DiscoveryId) (r : RegistryId) (device : DeviceKey × DeviceHandle)
    [Holds Q (dismiss env d r device.2).run] : Holds Q (evict env d r device) := by
  unfold evict
  infer_instance

instance removeAll_holds (d : DiscoveryId) (r : RegistryId)
    [∀ h since refusal, Holds Q (mark (.dropped d r h since refusal) : Act σ Unit)]
    (devices : List (DeviceKey × DeviceHandle)) : Holds Q (removeAll env d r devices) := by
  unfold removeAll
  infer_instance

section Overlooked

variable [o : OverlooksSources Q]

omit [Upheld Q env] [RegistryCalls Q env] in
instance lives_of_overlooks : DiscoveryLives Q where
  createDiscovery r name b := by
    have reserved : Holds Q (modifyGet fun w =>
        let (d, discoveries) := w.discoveries.reserve
        (d, { w with discoveries }) : Act σ DiscoveryId) :=
      ⟨o.discoveries fun w => w.discoveries.reserve⟩
    have entered : ∀ d x, Holds Q (modify fun w =>
        { w with discoveries := w.discoveries.set d x } : Act σ Unit) :=
      fun d x => ⟨o.discoveries fun w => ((), w.discoveries.set d x)⟩
    unfold create
    refine Holds.tryBind (h := fun w => ?_)
    split <;> infer_instance
  setTypes d types := by
    unfold setTypes
    infer_instance
  startDiscovery d := by
    unfold start
    infer_instance

theorem calls_of_dismissals [∀ d, Holds Q (mark (.halted d) : Act σ Unit)]
    [∀ d h place, Holds Q (mark (.adopted d h place) : Act σ Unit)]
    [∀ d r h, Holds Q (dismiss env d r h).run]
    [∀ d r devices, Holds Q (removeAll env d r devices)] : DiscoveryCalls Q env where
  removeAll _ _ _ := inferInstance
  stopDiscovery d := by
    unfold stop
    dsimp only
    infer_instance
  discover d s := by
    refine withRegistry_holds d _ fun r => ?_
    refine Holds.tryBind (h := fun w => ?_)
    dsimp only
    cases (w.discovery d).handle? (s.name, s.deviceType) <;> infer_instance
  lose d name t := by
    refine withRegistry_holds d _ fun r => ?_
    refine Holds.tryBind (h := fun w => ?_)
    cases (w.discovery d).handle? (name, t) with
    | none => infer_instance
    | some handle =>
      refine Holds.tryBind (h := fun result => ?_)
      cases result <;> infer_instance

end Overlooked

instance calls_of_overlooks [o : OverlooksDiscoveries Q] : DiscoveryCalls Q env := by
  have marks : ∀ o' : Occurrence, o'.topic = .source → Holds Q (mark o' : Act σ Unit) :=
    fun o' about => ⟨o.markSource o' about⟩
  have halted := fun d => marks (.halted d) rfl
  have adopted := fun d h place => marks (.adopted d h place) rfl
  have dropped := fun d r h since refusal => marks (.dropped d r h since refusal) rfl
  exact calls_of_dismissals

end Discovery

/-! ## Controllers -/

namespace Controller

instance starts_of_overlooks [o : OverlooksTimers Q] : TimerStarts Q where
  startTimer k period := by
    have scheduled : Holds Q (schedulePeriodic period.toNat (.tick k) : Act σ TimerId) :=
      ⟨o.schedulePeriodic _ _ fun _ => nofun⟩
    have noted : ∀ t, Holds Q (modify (·.updateController k fun x =>
        { x with timer := some t, starts := x.starts + 1 }) : Act σ Unit) :=
      fun _ => ⟨o.controller k _ fun _ => ⟨rfl, rfl⟩⟩
    have wound : Holds Q (mark (.wound k) : Act σ Unit) := ⟨o.markControl _ rfl⟩
    unfold startTimer
    dsimp only
    infer_instance

instance haltTimer_holds [TimerLives Q] (k : ControllerId) : Holds Q (haltTimer k : Try σ Unit).run := by
  unfold haltTimer
  infer_instance

variable [Upheld Q env]

theorem send_holds [InterfaceCalls Q env] {k : ControllerId} (commanded : Holds Q (mark (.commanded k)))
    (c : Command) : Holds Q (send env k c).run := by
  unfold send
  infer_instance

instance commands_overlooked [o : OverlooksEntries Q] [InterfaceCalls Q env] : CommandCalls Q env where
  command _ := send_holds ⟨o.markDevice _ (by simp [Occurrence.topic])⟩

instance tick_holds (k : ControllerId)
    [Holds Q (modify (·.updateController k (·.noteTick)) : Act σ Unit)]
    [Holds Q (mark (.ticked k) : Act σ Unit)] : Holds Q (tick env k) := by
  unfold tick
  infer_instance

variable [ConnectionCalls Q env] [ConnectionNotes Q]

variable [TimerLives Q]

instance disconnect_holds (k : ControllerId) : Holds Q (disconnect env k).run := by
  unfold disconnect
  infer_instance

instance destroy_holds (k : ControllerId) : Holds Q (destroy env k).run := by
  unfold destroy
  refine Holds.tryBind (h := fun _ => Holds.tryBind (h := fun w => ?_))
  dsimp only
  split <;> infer_instance

end Controller

/-! ## Streams -/

namespace Stream

instance create_holds (r : RegistryId) (h : DeviceHandle) (url : String) :
    Holds Q (create r h url : Try σ StreamId).run := by
  have added := fun x => Holds.mk (g.streams fun w => w.streams.add x)
  unfold create
  infer_instance

instance closeProxy_holds (x : Stream) : Holds Q (closeProxy x : Act σ Unit) := by
  unfold closeProxy
  split <;> infer_instance

instance close_holds (s : StreamId) : Holds Q (close s : Act σ Unit) := by
  unfold close
  infer_instance

variable [Upheld Q env]

instance openDirect_holds (x : Stream) (info : DeviceInfo) (session : SessionId) :
    Holds Q (openDirect env x info session).run := by
  unfold openDirect
  dsimp only
  infer_instance

variable [ConnectionCalls Q env]

instance openProxied_holds (s : StreamId) (x : Stream) (target : DeviceType)
    (session : SessionId) : Holds Q (openProxied env s x target session).run := by
  unfold openProxied
  dsimp only
  infer_instance

instance openOn_holds (s : StreamId) (session : SessionId) :
    Holds Q (openOn env s session).run := by
  unfold openOn
  refine Holds.tryBind (h := fun w => Holds.tryBind (h := fun d => ?_))
  dsimp only
  cases d.info.backendKind with
  | net => infer_instance
  | ble => infer_instance
  | mux => cases behind? d.info.deviceType <;> infer_instance

end Stream

/-! ## Backends as they come and go -/

namespace Backend

instance add_holds [l : BackendLives Q] (part : BackendPart) :
    Holds Q (add part : Act σ BackendId) :=
  l.addBackend part

instance setEofListener_holds [BackendLives Q] (b : BackendId) (l : ListenerId) :
    Holds Q (setEofListener b l : Act σ Unit) := by
  unfold setEofListener
  infer_instance

instance discoveryOf_holds (b : BackendId) :
    Holds Q (discoveryOf b : Try σ DiscoveryId).run := by
  unfold discoveryOf
  refine Holds.tryBind (h := fun w => ?_)
  split <;> infer_instance

section Making

variable [Upheld Q env] [BackendLives Q]

instance enroll_holds (r : RegistryId) (b : BackendId) : Holds Q (enroll env r b).run := by
  unfold enroll
  infer_instance

instance createNet_holds (r : RegistryId) (k : ConnectorId) (port : UInt16)
    (token : Option Token) : Holds Q (createNet env r k port token).run := by
  unfold createNet
  infer_instance

instance createBle_holds (r : RegistryId) (h : BleHostId) (token : Option Token) :
    Holds Q (createBle env r h token).run := by
  unfold createBle
  infer_instance

instance equip_holds [DiscoveryLives Q] (r : RegistryId) (b : BackendId) (channel : ChannelId) :
    Holds Q (equip env r b channel).run := by
  unfold equip
  infer_instance

instance createMux_holds [DiscoveryLives Q] (r : RegistryId) (o : OpenerId) (fd : Int) (u : UplinkId) :
    Holds Q (createMux env r o fd u).run := by
  have known : ∀ b, Holds Q (modify (·.updateUplink u fun x => { x with backend := some b }) :
      Act σ Unit) := fun b =>
    ⟨g.uplink u _ fun _ => ⟨id, .inl ⟨rfl, rfl⟩⟩⟩
  unfold createMux
  dsimp only
  infer_instance

instance openMux_holds [DiscoveryLives Q] (r : RegistryId) (o : OpenerId) (fd : Int) (token : Option Token) :
    Holds Q (openMux env r o fd token).run := by
  have added := Holds.mk (g.addUplink token)
  unfold openMux
  infer_instance

instance destroyMux_holds (b : BackendId) : Holds Q (destroyMux env b).run := by
  unfold destroyMux
  refine Holds.tryBind (h := fun w => ?_)
  dsimp only
  cases (w.backend b).part <;> infer_instance

end Making

variable [Upheld Q env]

instance receive_holds [InterfaceCalls Q env] (b : BackendId) (frame : Frame) :
    Holds Q (receive env b frame).run := by
  unfold receive
  refine Holds.tryBind (h := fun w => ?_)
  split <;> infer_instance

variable [ConnectionCalls Q env]

instance cutOff_holds (c : ConnectionId) : Holds Q (cutOff env c).run := by
  unfold cutOff
  dsimp only
  infer_instance

instance endOfFile_holds (b : BackendId) : Holds Q (endOfFile env b) := by
  unfold endOfFile
  refine Holds.bind (h := fun _ => Holds.bind (h := fun w => Holds.bind (h := fun _ => ?_)))
  refine Holds.bind (h := fun w => ?_)
  split <;> infer_instance

end Backend

namespace Uplink

instance endOfFile_holds [Upheld Q env] [ConnectionCalls Q env] (u : UplinkId) :
    Holds Q (endOfFile env u) := by
  unfold endOfFile
  refine Holds.bind (h := fun w => ?_)
  split <;> infer_instance

instance releaseToken_holds (u : UplinkId) : Holds Q (releaseToken u : Act σ Unit) :=
  ⟨g.uplink u _ fun _ => ⟨fun _ => rfl, .inr ⟨rfl, rfl⟩⟩⟩

end Uplink

/-! ## Things that nobody keeps -/

theorem reap_holds [Upheld Q env] [DiscoveryCalls Q env] (item : Item) :
    Holds Q (reap env item) := by
  unfold reap
  cases item with
  | interface x => exact Holds.pure ()
  | backend x =>
    simp only [reapBackend]
    split <;> infer_instance
  | registry x => exact inferInstanceAs (Holds Q (Registry.letGo env x))
  | discovery d x =>
    simp only [reapDiscovery]
    infer_instance
  | controller x =>
    simp only [reapController]
    infer_instance
  | stream x =>
    simp only [reapStream]
    infer_instance

/-! ## The loop -/

namespace Loop

variable [Upheld Q env] [ConnectionCalls Q env]

theorem perform_of {job : Job} (retry : ∀ i, job = .retry i → Holds Q (Interface.retry env i))
    (tick : ∀ k, job = .tick k → Holds Q (Controller.tick env k)) : Holds Q (perform env job) := by
  unfold perform
  cases job with
  | retry i =>
    have := retry i rfl
    infer_instance
  | tick k => exact tick k rfl
  | _ => infer_instance

instance perform_holds [TickNotes Q] [InterfaceRetries Q env] (job : Job) :
    Holds Q (perform env job) :=
  perform_of (fun _ _ => inferInstance) fun _ _ => inferInstance

theorem wake_of_perform {R : World σ → World σ → Prop} [Closed (Keeps R)] {w : World σ} {t : TimerId}
    (restarts : ∀ deadline, Holds (Keeps R) (modify fun w =>
      { w with loop := w.loop.restart t deadline }))
    (cancels : Holds (Keeps R) (cancelTimer t)) (beats : ∀ turn, Holds (Keeps R) (mark (.beats turn)))
    (performs : ∀ timer, w.loop.timers.find? t = some timer →
      Holds (Keeps R) (perform env timer.job)) : R w ((wake env t).run w).2 := by
  unfold wake
  rw [run_bind, run_get]
  dsimp only
  cases found : w.loop.timers.find? t with
  | none => exact (Holds.pure (Q := Keeps R) ()).holds w
  | some timer =>
    have performed := performs timer found
    dsimp only
    cases timer.period with
    | none =>
      have once : Holds (Keeps R) (do
          cancelTimer t
          perform env timer.job) := inferInstance
      exact once.holds w
    | some period =>
      have again : Holds (Keeps R) (do
          let deadline ← beat env timer.job w.history.length period w.loop.clock timer.deadline
            (w.loop.clock + 1 - timer.deadline)
          modify fun w => { w with loop := w.loop.restart t deadline }) := by
        have beaten := beat_holds (beats w.history.length) performed
        infer_instance
      exact again.holds w

end Loop

class LoopSteps (Q : (α : Type) → Act σ α → Prop) : Prop where
  take : Holds Q (Loop.takeTask : Act σ (Option Task))
  restart : ∀ (t : TimerId) (deadline : Nat),
    Holds Q (modify fun w => { w with loop := w.loop.restart t deadline } : Act σ Unit)
  forward : ∀ ms : Nat, Holds Q (modify fun w => { w with loop := w.loop.forward ms } : Act σ Unit)
  cancel : ∀ t : TimerId, Holds Q (cancelTimer t : Act σ Unit)
  beats : ∀ turn : Nat, Holds Q (mark (.beats turn) : Act σ Unit)

class OverlooksLoop (Q : (α : Type) → Act σ α → Prop) : Prop where
  change : ∀ {α : Type} (f : World σ → α × Loop),
    Q α (modifyGet fun w => ((f w).1, { w with loop := (f w).2 }))
  beats : ∀ turn : Nat, Q Unit (mark (.beats turn))

attribute [instance] LoopSteps.take LoopSteps.restart LoopSteps.forward LoopSteps.cancel
  LoopSteps.beats

theorem LoopSteps.cancel? {Q : (α : Type) → Act σ α → Prop} [Closed Q] [LoopSteps Q]
    (t : Option TimerId) : Holds Q (cancelTimer? t : Act σ Unit) := by
  cases t with
  | none => exact Holds.pure ()
  | some t => exact LoopSteps.cancel t

namespace Loop

instance steps_overlooked [o : OverlooksLoop Q] : LoopSteps Q where
  take := ⟨o.change fun w => w.loop.take⟩
  restart t deadline := ⟨o.change fun w => ((), w.loop.restart t deadline)⟩
  forward ms := ⟨o.change fun w => ((), w.loop.forward ms)⟩
  cancel t := ⟨o.change fun w => ((), w.loop.cancel t)⟩
  beats turn := ⟨o.beats turn⟩

section

variable [∀ job, Holds Q (perform env job)] [∀ t, Holds Q (wake env t)]

instance runTask_holds (task : Task) : Holds Q (runTask env task) := by
  unfold runTask
  cases task <;> infer_instance

variable [Holds Q (Loop.takeTask : Act σ (Option Task))]

instance drain_holds (fuel : Nat) : Holds Q (drain env fuel) := by
  induction fuel with
  | zero => exact Holds.pure _
  | succ fuel ih =>
    refine Holds.bind (h := fun task => ?_)
    cases task <;> infer_instance

theorem calls_of_turns
    [∀ ms, Holds Q (modify fun w => { w with loop := w.loop.forward ms } : Act σ Unit)] :
    LoopCalls Q env where
  settle extra := by
    unfold settle
    infer_instance
  pass extra ms := by
    unfold pass settle
    infer_instance

end

variable [LoopSteps Q] [Upheld Q env] [TickNotes Q] [InterfaceRetries Q env] [ConnectionCalls Q env]

instance wake_holds (t : TimerId) : Holds Q (wake env t) := by
  have performed (timer : Timer) : Holds Q (perform env timer.job) := inferInstance
  have beaten (timer : Timer) (turn : Nat) := beat_holds (LoopSteps.beats (Q := Q) turn) (performed timer)
  unfold wake
  refine Holds.bind (h := fun w => ?_)
  dsimp only
  split
  · infer_instance
  · split <;> infer_instance

theorem calls_of_steps : LoopCalls Q env := calls_of_turns

end Loop

namespace Loop

variable [LoopCalls Q env]

instance jump_holds (extra ms : Nat) : Holds Q (jump env extra ms) := by
  unfold jump
  infer_instance

instance passEach_holds (extra ms : Nat) : Holds Q (passEach env extra ms) := by
  induction ms with
  | zero => exact Holds.pure _
  | succ ms ih => exact Holds.bind (h := fun _ => ih)

instance advance_holds (extra ms : Nat) : Holds Q (advance env extra ms) := by
  unfold advance
  infer_instance

end Loop

end DroneControl
