import DroneControl.Backend.Connecting
import DroneControl.Proofs.Run.Entries

/-!
# Closed properties of connections and backends

What is done to one connection leaves the others alone, as with interfaces.  Backends start and stop
connections through what a connection can be asked for, `ConnectionCalls`, and the closing itself is
the connection's business.
-/

set_option synthInstance.maxSize 2048

namespace DroneControl

variable {σ : Type}

/-- The handles of a connection were handed over in turn: each that was attached was detached before
the next, and after these there is the one that is attached, if any. -/
def Connection.InTurn (x : Connection) : Prop :=
  ∃ returned : List Token, x.handovers =
    returned.flatMap (fun token => [.attached token, .detached token]) ++
      x.attached.toList.map .attached

/-- A connection goes on handing over its handles in turn. -/
structure Connection.HandsOver (x x' : Connection) : Prop where
  grown : x.handovers <+: x'.handovers
  inTurn : x.InTurn → x'.InTurn

namespace Connection.HandsOver

variable {x x' x'' : Connection}

theorem of_same (attached : x'.attached = x.attached) (handovers : x'.handovers = x.handovers) :
    x.HandsOver x' := by
  refine ⟨handovers ▸ List.prefix_rfl, ?_⟩
  unfold InTurn
  rw [attached, handovers]
  exact id

theorem trans (first : x.HandsOver x') (second : x'.HandsOver x'') : x.HandsOver x'' :=
  ⟨first.grown.trans second.grown, second.inTurn ∘ first.inTurn⟩

theorem attaching (x : Connection) (token : Token) : x.HandsOver (x.attaching token) := by
  refine ⟨List.prefix_append _ _, ?_⟩
  rintro ⟨returned, inTurn⟩
  refine ⟨returned, ?_⟩
  cases attached : x.attached <;> simp [Connection.attaching, inTurn, attached]

theorem detaching (x : Connection) : x.HandsOver x.detaching := by
  refine ⟨List.prefix_append _ _, ?_⟩
  rintro ⟨returned, inTurn⟩
  refine ⟨returned ++ x.attached.toList, ?_⟩
  cases attached : x.attached <;> simp [Connection.detaching, inTurn, attached]

end Connection.HandsOver

class OverlooksNotes (Q : (α : Type) → Act σ α → Prop) (c : ConnectionId) : Prop where
  note : ∀ f : Connection → Connection,
    (∀ x : Connection, (f x).state = x.state ∧ (f x).announced = x.announced ∧
      (f x).sink = x.sink ∧ (f x).pipe = x.pipe ∧ x.HandsOver (f x)) →
    Q Unit (modify (·.updateConnection c f))

class Connection.Reports (f : Connection → Connection) : Prop where
  same : ∀ x, (f x).sink = x.sink
  handles : ∀ x : Connection, x.HandsOver (f x)

class OverlooksState (Q : (α : Type) → Act σ α → Prop) (c : ConnectionId) : Prop where
  update : ∀ (f : Connection → Connection) [Connection.Reports f],
    Q Unit (modify (·.updateConnection c f))
  opening : ∀ sink : Sink, Q Unit (mark (.opening c sink))
  opened : Q Unit (mark (.opened c))
  discarded : Q Unit (modify (Connection.discarded · c))

class OverlooksConnection (Q : (α : Type) → Act σ α → Prop) (c : ConnectionId) : Prop extends
    OverlooksState Q c where
  told : ∀ event : ConnectionEvent, Q Unit (mark (.told c event))

class Tells (Q : (α : Type) → Act σ α → Prop) (env : Env σ) (c : ConnectionId) : Prop where
  tell : ∀ event : ConnectionEvent, Holds Q (Connection.tell env c event)

class Untracks (Q : (α : Type) → Act σ α → Prop) (c : ConnectionId) : Prop where
  untrack : ∀ b : BackendId, Holds Q (modify (·.updateBackend b (·.untrack c)) : Act σ Unit)
  forgetApi : ∀ b : BackendId, Holds Q (modify (·.updateBackend b (·.forgetApi c)) : Act σ Unit)

class BackendLives (Q : (α : Type) → Act σ α → Prop) : Prop where
  addBackend : ∀ part : BackendPart, Holds Q (modifyGet fun w =>
    let (b, backends) := w.backends.add { part }
    (b, { w with backends }) : Act σ BackendId)
  alterBackend : ∀ (b : BackendId) (f : Backend → Backend),
    (∀ x, (f x).live = x.live ∧ (f x).made = x.made ∧ (f x).kind = x.kind ∧
      (f x).api? = x.api? ∧ (f x).uplink? = x.uplink?) →
    Holds Q (modify (·.updateBackend b f) : Act σ Unit)

class ConnectionLives (Q : (α : Type) → Act σ α → Prop) : Prop where
  create : ∀ (h : DeviceHandle) (b : BackendId) (address : String) (sink : Sink),
    Holds Q (Connection.create h b address sink : Act σ ConnectionId)
  onClosed : ∀ (c : ConnectionId) (hook : CloseHook),
    Holds Q (Connection.onClosed c hook : Act σ Unit)
  opening : ∀ (c : ConnectionId) (sink : Sink), Holds Q (mark (.opening c sink) : Act σ Unit)
  opened : ∀ c : ConnectionId, Holds Q (mark (.opened c) : Act σ Unit)

class ConnectionCalls (Q : (α : Type) → Act σ α → Prop) (env : Env σ) : Prop where
  connecting : ∀ c, Holds Q (Connection.connecting env c).run
  connected : ∀ c link api, Holds Q (Connection.connected env c link api).run
  disconnected : ∀ c, Holds Q (Connection.disconnected env c).run
  failed : ∀ c, Holds Q (Connection.failed env c).run
  cancel : ∀ c reason, Holds Q (Connection.cancel env c reason).run
  reportLink : ∀ c status, Holds Q (Connection.reportLink env c status).run
  dispose : ∀ c, Holds Q (Connection.dispose env c).run

class GivesUp (Q : (α : Type) → Act σ α → Prop) (env : Env σ) : Prop where
  giveUp : ∀ c, Holds Q (Connection.giveUp env c)

class ConnectionStarts (Q : (α : Type) → Act σ α → Prop) (env : Env σ) : Prop where
  start : ∀ b h info agent sink, Holds Q (Backend.start env b h info agent sink).run

class ConnectionNotes (Q : (α : Type) → Act σ α → Prop) : Prop where
  createConnection : ∀ h b address l,
    Holds Q (Connection.create h b address (.listener l) : Act σ ConnectionId)
  beginClose : ∀ c, Holds Q (Connection.beginClose c : Act σ ConnectionState)
  attach : ∀ c token, Holds Q (Connection.attach c token : Try σ Unit).run
  detach : ∀ c, Holds Q (Connection.detach c : Try σ Token).run

attribute [instance] Tells.tell Untracks.untrack Untracks.forgetApi BackendLives.addBackend
  ConnectionLives.create ConnectionLives.onClosed ConnectionLives.opening ConnectionLives.opened
  ConnectionCalls.connecting ConnectionCalls.connected ConnectionCalls.disconnected
  ConnectionCalls.failed ConnectionCalls.cancel ConnectionCalls.reportLink
  ConnectionCalls.dispose ConnectionStarts.start GivesUp.giveUp
  ConnectionNotes.createConnection ConnectionNotes.beginClose ConnectionNotes.attach
  ConnectionNotes.detach

class MuxPart.KeepsUplink (f : MuxPart → MuxPart) : Prop where
  same : ∀ x, (f x).uplink = x.uplink

instance MuxPart.keepsUplink_notes (discovery : MuxPart → Option DiscoveryId)
    (eofListener : MuxPart → Option ListenerId) :
    KeepsUplink fun x => { x with discovery := discovery x, eofListener := eofListener x } :=
  ⟨fun _ => rfl⟩

namespace Backend

instance keepsUplink_noteMade (c : ConnectionId) : KeepsUplink (·.noteMade c) := ⟨fun _ => rfl⟩

instance keepsUplink_track (c : ConnectionId) : KeepsUplink (·.track c) := ⟨fun _ => rfl⟩

instance keepsUplink_untrack (c : ConnectionId) : KeepsUplink (·.untrack c) := ⟨fun _ => rfl⟩

instance keepsUplink_noteApi (c : ConnectionId) (api : DeviceApi) :
    KeepsUplink (·.noteApi c api) := by
  refine ⟨fun x => ?_⟩
  unfold noteApi uplink?
  cases part : x.part <;> simp [part]

instance keepsUplink_forgetApi (c : ConnectionId) : KeepsUplink (·.forgetApi c) := by
  refine ⟨fun x => ?_⟩
  unfold forgetApi uplink?
  cases part : x.part <;> simp [part]

instance keepsUplink_withdraw (c : ConnectionId) :
    KeepsUplink fun x => (x.untrack c).forgetApi c :=
  ⟨fun x => (keepsUplink_forgetApi c).same (x.untrack c)⟩

end Backend

instance untracks_overlooked {Q : (α : Type) → Act σ α → Prop} [OverlooksBackends Q]
    (c : ConnectionId) : Untracks Q c where
  untrack _ := inferInstance
  forgetApi _ := inferInstance

instance backends_overlooked {Q : (α : Type) → Act σ α → Prop} [o : OverlooksBackends Q] :
    BackendLives Q where
  addBackend part := ⟨o.addBackend part⟩
  alterBackend _ f same :=
    have : Backend.KeepsUplink f := ⟨fun x => (same x).2.2.2.2⟩
    inferInstance

namespace Backend

theorem noteApi_keeps (x : Backend) (c : ConnectionId) (api : DeviceApi) :
    (x.noteApi c api).live = x.live ∧ (x.noteApi c api).made = x.made ∧
      (x.noteApi c api).kind = x.kind := by
  unfold noteApi kind
  cases part : x.part <;> simp [part]

theorem forgetApi_keeps (x : Backend) (c : ConnectionId) :
    (x.forgetApi c).live = x.live ∧ (x.forgetApi c).made = x.made ∧
      (x.forgetApi c).kind = x.kind := by
  unfold forgetApi kind
  cases part : x.part <;> simp [part]

theorem withMux_keeps (x : Backend) (f : MuxPart → MuxPart) [keeps : MuxPart.KeepsUplink f] :
    (x.withMux f).live = x.live ∧ (x.withMux f).made = x.made ∧ (x.withMux f).kind = x.kind ∧
      (x.withMux f).api? = x.api? ∧ (x.withMux f).uplink? = x.uplink? := by
  unfold withMux kind uplink?
  cases part : x.part <;> simp [part, funext_iff, api?, keeps.same]

variable {Q : (α : Type) → Act σ α → Prop} [l : BackendLives Q]

instance withMux_holds (b : BackendId) (f : MuxPart → MuxPart) [MuxPart.KeepsUplink f] :
    Holds Q (modify (·.updateBackend b (·.withMux f)) : Act σ Unit) :=
  l.alterBackend b _ fun x => x.withMux_keeps f

end Backend

namespace Connection

instance reports_notes (state : Connection → ConnectionState) (announced : Connection → Bool)
    (pipe : Connection → Option PipeId) (hooks noted done : Connection → List CloseHook)
    (past : Connection → List (ConnectionState × Option PipeId)) :
    Reports fun x => { x with
      state := state x, announced := announced x, pipe := pipe x, hooks := hooks x
      noted := noted x, done := done x, past := past x } :=
  ⟨fun _ => rfl, fun _ => .of_same rfl rfl⟩

instance reports_enter (state : ConnectionState) (pipe : Option PipeId) :
    Reports (·.enter state pipe) :=
  ⟨fun _ => rfl, fun _ => .of_same rfl rfl⟩

instance reports_closed : Reports closed := ⟨fun _ => rfl, fun _ => .of_same rfl rfl⟩

instance reports_announced : Reports fun x => { x.closed with announced := true } :=
  ⟨fun _ => rfl, fun _ => .of_same rfl rfl⟩

instance reports_closeRequested : Reports closeRequested where
  same x := by unfold closeRequested; split <;> rfl
  handles x := by unfold closeRequested; split <;> exact .of_same rfl rfl

variable {Q : (α : Type) → Act σ α → Prop} {env : Env σ} [g : Base Q] {c : ConnectionId}

instance check_holds (operation : String) (allowed : List ConnectionState) :
    Holds Q (check c operation allowed : Try σ Unit).run := by
  unfold check
  infer_instance

/-! ## Notes -/

section Notes

variable [o : OverlooksNotes Q c]

instance dropHooks_holds :
    Holds Q (modify (·.updateConnection c fun x => { x with hooks := [] }) : Act σ Unit) :=
  ⟨o.note _ fun _ => ⟨rfl, rfl, rfl, rfl, .of_same rfl rfl⟩⟩

theorem attach_overlooked (token : Token) : Holds Q (attach c token : Try σ Unit).run := by
  have noted : Holds Q (modify (·.updateConnection c (·.attaching token)) : Act σ Unit) :=
    ⟨o.note _ fun x => ⟨rfl, rfl, rfl, rfl, .attaching x token⟩⟩
  unfold attach
  dsimp only
  infer_instance

theorem detach_overlooked : Holds Q (detach c : Try σ Token).run := by
  have noted : Holds Q (modify (·.updateConnection c detaching) : Act σ Unit) :=
    ⟨o.note _ fun x => ⟨rfl, rfl, rfl, rfl, .detaching x⟩⟩
  unfold detach
  refine Holds.tryBind (h := fun w => ?_)
  cases (w.connection c).attached <;> infer_instance

variable [Untracks Q c]

instance runHook_holds (hook : CloseHook) : Holds Q (runHook c hook : Act σ Unit) := by
  have noted : Holds Q (modify (·.updateConnection c fun x =>
      { x with done := x.done ++ [hook] }) : Act σ Unit) :=
    ⟨o.note _ fun _ => ⟨rfl, rfl, rfl, rfl, .of_same rfl rfl⟩⟩
  unfold runHook
  cases hook <;> infer_instance

instance runHooks_holds : Holds Q (runHooks c : Act σ Unit) := by
  unfold runHooks
  infer_instance

instance tearDown_holds [Upheld Q env] (pipe : Option PipeId) :
    Holds Q (tearDown env c pipe) := by
  unfold tearDown
  cases pipe <;> infer_instance

theorem onClosed_overlooked (hook : CloseHook) : Holds Q (onClosed c hook : Act σ Unit) := by
  have noted : Holds Q (modify (·.updateConnection c fun x =>
      { x with noted := x.noted ++ [hook] }) : Act σ Unit) :=
    ⟨o.note _ fun _ => ⟨rfl, rfl, rfl, rfl, .of_same rfl rfl⟩⟩
  have kept : Holds Q (modify (·.updateConnection c fun x =>
      { x with hooks := x.hooks ++ [hook] }) : Act σ Unit) :=
    ⟨o.note _ fun _ => ⟨rfl, rfl, rfl, rfl, .of_same rfl rfl⟩⟩
  unfold onClosed
  infer_instance

end Notes

/-! ## Properties that overlook the connection -/

section Overlooked

instance tells_overlooked [o : OverlooksConnection Q c] [Upheld Q env] [EntryCalls Q env] :
    Tells Q env c where
  tell event := by
    have told : Holds Q (mark (.told c event) : Act σ Unit) := ⟨o.told event⟩
    unfold tell
    refine Holds.bind (h := fun _ => Holds.bind (h := fun w => ?_))
    cases (w.connection c).sink <;> infer_instance

variable [o : OverlooksState Q c]

instance notes_overlooked : OverlooksNotes Q c where
  note f same :=
    have : Reports f := ⟨fun x => (same x).2.2.1, fun x => (same x).2.2.2.2⟩
    o.update f

instance update_holds (f : Connection → Connection) [Reports f] :
    Holds Q (modify (·.updateConnection c f) : Act σ Unit) :=
  ⟨o.update f⟩

theorem beginClose_overlooked : Holds Q (beginClose c : Act σ ConnectionState) := by
  unfold beginClose
  infer_instance

section Telling

variable [Tells Q env c]

omit o in
theorem reportLink_overlooked (status : LinkStatus) : Holds Q (reportLink env c status).run := by
  unfold reportLink
  infer_instance

instance announce_holds : Holds Q (announce env c) := by
  unfold announce
  infer_instance

theorem connecting_overlooked : Holds Q (connecting env c).run := by
  unfold connecting
  infer_instance

end Telling

variable [Upheld Q env]

theorem giveUp_overlooked : Holds Q (giveUp env c) := by
  have given : Holds Q (modify (discarded · c) : Act σ Unit) := ⟨o.discarded⟩
  unfold giveUp
  refine Holds.bind (h := fun w => Holds.bind (h := fun _ => ?_))
  dsimp only
  cases (w.connection c).pipe <;> infer_instance

variable (Q env c) in
theorem dropPipe_overlooked : Holds Q (do
    match ((← get).connection c).pipe with
    | none => pure ()
    | some p =>
      act (modify (·.updateConnection c fun x => { x with pipe := none }))
      act (Pipe.dispose env p)
    act (log .debug "Connection disposed" [("conn", c.label)]) : Try σ Unit).run := by
  refine Holds.tryBind (h := fun w => ?_)
  dsimp only
  cases (w.connection c).pipe <;> infer_instance

variable [Tells Q env c] [Untracks Q c]

instance abandon_holds (reason : CancelReason) : Holds Q (abandon env c reason) := by
  unfold abandon
  dsimp only
  infer_instance

variable (Q env c) in
theorem cancel_overlooked (reason : CancelReason) : Holds Q (cancel env c reason).run := by
  unfold cancel
  dsimp only
  infer_instance

instance establish_holds (link : Link) (api : DeviceApi) :
    Holds Q (establish env c link api).run := by
  have canceled := cancel_overlooked Q env c .local
  unfold establish
  refine Holds.tryBind (h := fun p => Holds.tryBind (h := fun _ => ?_))
  refine Holds.tryBind (h := fun result => ?_)
  cases result <;> infer_instance

theorem connected_overlooked (link : Link) (api : DeviceApi) :
    Holds Q (connected env c link api).run := by
  unfold connected
  dsimp only
  infer_instance

instance conclude_holds : Holds Q (conclude env c) := by
  unfold conclude
  infer_instance

theorem disconnected_overlooked : Holds Q (disconnected env c).run := by
  have canceled := cancel_overlooked Q env c .local
  unfold disconnected
  dsimp only
  infer_instance

theorem failed_overlooked : Holds Q (failed env c).run := by
  have canceled := cancel_overlooked Q env c .local
  unfold failed
  infer_instance

theorem dispose_overlooked : Holds Q (dispose env c).run := by
  have canceled := cancel_overlooked Q env c
  have disposed := dropPipe_overlooked Q env c
  unfold dispose
  refine Holds.tryBind (h := fun w => ?_)
  dsimp only
  split
  · infer_instance
  · split
    · exact Holds.tryBind (h := fun _ => Holds.tryBind (h := fun _ => disposed))
    · exact disposed

end Overlooked

/-! ## Properties that look into one connection only -/

section Own

omit g in
theorem of_beside {P : ConnectionId → Prop} (beside : ∀ c', c' ≠ c → P c') {α : Type}
    {a : ConnectionId → Act σ α} (own : Holds Q (a c)) (other : ∀ c', P c' → Holds Q (a c'))
    (c' : ConnectionId) : Holds Q (a c') := by
  by_cases same : c' = c
  · subst same
    exact own
  · exact other c' (beside c' same)

omit g in
theorem of_own (overlooks : ∀ c', c' ≠ c → OverlooksConnection Q c') {α : Type}
    {a : ConnectionId → Act σ α} (own : Holds Q (a c))
    (other : ∀ c', OverlooksConnection Q c' → Holds Q (a c')) (c' : ConnectionId) :
    Holds Q (a c') :=
  of_beside overlooks own other c'

theorem calls_of_own [Upheld Q env] [EntryCalls Q env]
    (beside : ∀ c', c' ≠ c → OverlooksConnection Q c' ∧ Untracks Q c')
    [starts : Holds Q (connecting env c).run]
    [establishes : ∀ link api, Holds Q (connected env c link api).run]
    [ends : Holds Q (disconnected env c).run] [fails : Holds Q (failed env c).run]
    [cancels : ∀ reason, Holds Q (cancel env c reason).run]
    [reports : ∀ status, Holds Q (reportLink env c status).run]
    [disposes : Holds Q (dispose env c).run] : ConnectionCalls Q env where
  connecting := of_beside beside starts fun _ ⟨_, _⟩ => connecting_overlooked
  connected c' link api :=
    of_beside beside (a := fun c => (connected env c link api).run) (establishes link api)
      (fun _ ⟨_, _⟩ => connected_overlooked link api) c'
  disconnected := of_beside beside ends fun _ ⟨_, _⟩ => disconnected_overlooked
  failed := of_beside beside fails fun _ ⟨_, _⟩ => failed_overlooked
  cancel c' reason :=
    of_beside beside (a := fun c => (cancel env c reason).run) (cancels reason)
      (fun c ⟨_, _⟩ => cancel_overlooked Q env c reason) c'
  reportLink c' status :=
    of_beside beside (a := fun c => (reportLink env c status).run) (reports status)
      (fun _ ⟨_, _⟩ => reportLink_overlooked status) c'
  dispose := of_beside beside disposes fun _ ⟨_, _⟩ => dispose_overlooked

end Own

/-! ## Properties that overlook every connection -/

variable [∀ c, OverlooksState Q c]

theorem notes_of_overlooks [l : ConnectionLives Q] : ConnectionNotes Q where
  createConnection h b address listener := l.create h b address (.listener listener)
  beginClose _ := beginClose_overlooked
  attach _ token := attach_overlooked token
  detach _ := detach_overlooked

variable [∀ c, Untracks Q c]

theorem lives_of_overlooks (add : ∀ x : Connection, Q ConnectionId (modifyGet fun w =>
    let (c, connections) := w.connections.add x
    (c, { w with connections }))) : ConnectionLives Q where
  create h b address sink := by
    have added := fun x => Holds.mk (add x)
    unfold create
    infer_instance
  onClosed _ hook := onClosed_overlooked hook
  opening c sink := ⟨OverlooksState.opening (c := c) sink⟩
  opened c := ⟨OverlooksState.opened (c := c)⟩

theorem calls_of_tells [Upheld Q env] [∀ c, Tells Q env c] : ConnectionCalls Q env where
  connecting _ := connecting_overlooked
  connected _ link api := connected_overlooked link api
  disconnected _ := disconnected_overlooked
  failed _ := failed_overlooked
  cancel c reason := cancel_overlooked Q env c reason
  reportLink _ status := reportLink_overlooked status
  dispose _ := dispose_overlooked

/-! ## Inbound frames -/

instance receive_holds [Upheld Q env] [InterfaceCalls Q env] (frame : Frame) :
    Holds Q (receive env c frame).run := by
  unfold receive
  refine Holds.tryBind (h := fun w => ?_)
  dsimp only
  split <;> infer_instance

instance receivePacket_holds [Upheld Q env] [InterfaceCalls Q env] (characteristic : UInt8)
    (packet : Bytes) : Holds Q (receivePacket env c characteristic packet).run := by
  unfold receivePacket
  split <;> infer_instance

end Connection

/-! ## Backends -/

namespace Backend

variable {Q : (α : Type) → Act σ α → Prop} {env : Env σ} [g : Base Q]

section Starting

variable [ConnectionLives Q]

instance trackApi_holds (b : BackendId) (c : ConnectionId) (api : DeviceApi)
    [Holds Q (modify (·.updateBackend b (·.noteApi c api)) : Act σ Unit)] :
    Holds Q (trackApi b c api : Act σ Unit) := by
  unfold trackApi
  infer_instance

instance opening_holds {α : Type} (c : ConnectionId) (sink : Sink) (request : Act σ α)
    [Holds Q request] : Holds Q (opening c sink request) := by
  unfold opening
  infer_instance

section Overlooked

variable [OverlooksBackends Q]

instance trackLive_holds (b : BackendId) (c : ConnectionId) :
    Holds Q (trackLive b c : Act σ Unit) := by
  unfold trackLive
  infer_instance

instance make_holds (b : BackendId) (h : DeviceHandle) (address : String) (sink : Sink) :
    Holds Q (make b h address sink : Act σ ConnectionId) := by
  unfold make
  infer_instance

instance startMux_holds [TimerLives Q] (b : BackendId) (part : MuxPart) (h : DeviceHandle)
    (info : DeviceInfo) (sink : Sink) :
    Holds Q (startMux b part h info sink : Try σ ConnectionId).run := by
  unfold startMux
  infer_instance

variable [Upheld Q env] [GivesUp Q env]

instance withdraw_holds (b : BackendId) (c : ConnectionId) : Holds Q (withdraw env b c) := by
  unfold withdraw
  infer_instance

instance startNet_holds (b : BackendId) (part : NetPart) (h : DeviceHandle) (info : DeviceInfo)
    (agent : Agent) (sink : Sink) : Holds Q (startNet env b part h info agent sink).run := by
  unfold startNet
  dsimp only
  infer_instance

instance reject_holds (b : BackendId) (c : ConnectionId) : Holds Q (reject env b c) := by
  unfold reject
  infer_instance

instance startBle_holds (b : BackendId) (part : BlePart) (h : DeviceHandle) (info : DeviceInfo)
    (sink : Sink) : Holds Q (startBle env b part h info sink).run := by
  unfold startBle
  dsimp only
  infer_instance

instance starts_of_lives [TimerLives Q] : ConnectionStarts Q env where
  start b h info agent sink := by
    unfold start
    refine Holds.tryBind (h := fun w => ?_)
    cases (w.backend b).part <;> infer_instance

end Overlooked

end Starting

variable [Upheld Q env] [ConnectionCalls Q env]

instance establish_holds (c : ConnectionId) (channel : ChannelId) (api : DeviceApi) :
    Holds Q (establish env c channel api) := by
  unfold establish
  refine Holds.bind (h := fun result => ?_)
  cases result <;> infer_instance

instance refuse_holds (c : ConnectionId) : Holds Q (refuse env c) := by
  unfold refuse
  infer_instance

instance completeHandshake_holds (b : BackendId) (c : ConnectionId) (reply : Bytes)
    (link : Link) : Holds Q (completeHandshake env b c reply link).run := by
  unfold completeHandshake
  split
  · infer_instance
  · dsimp only
    infer_instance

instance openProxy_holds (b : BackendId) (h : DeviceHandle) (t : DeviceType) (port : UInt16)
    (sink : ProxySink) : Holds Q (openProxy env b h t port sink).run := by
  unfold openProxy
  refine Holds.tryBind (h := fun w => ?_)
  dsimp only
  cases (w.backend b).part <;> infer_instance

variable [ConnectionNotes Q]

instance stopNet_holds (part : NetPart) (h : DeviceHandle) (c : ConnectionId) :
    Holds Q (stopNet env part h c).run := by
  unfold stopNet
  infer_instance

instance stopBle_holds (part : BlePart) (h : DeviceHandle) (c : ConnectionId) :
    Holds Q (stopBle env part h c) := by
  unfold stopBle
  infer_instance

instance stopMux_holds (h : DeviceHandle) (c : ConnectionId) :
    Holds Q (stopMux env h c).run := by
  unfold stopMux
  infer_instance

instance stop_holds (b : BackendId) (h : DeviceHandle) (c : ConnectionId) :
    Holds Q (stop env b h c).run := by
  unfold stop
  refine Holds.tryBind (h := fun w => ?_)
  cases (w.backend b).part <;> infer_instance

end Backend

end DroneControl
