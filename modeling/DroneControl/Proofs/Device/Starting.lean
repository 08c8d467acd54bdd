import DroneControl.Proofs.Device.Reporting

/-!
# How a backend starts a connection

The connection is made, its host is asked to open it if it has one, and the backend gives it up again if
the host does not.  Until the host has answered, the host alone may do something with the connection; a
connection that was given up has lost its pipe by the time anybody else is called.
-/

namespace DroneControl

open Picture

variable {σ : Type} {r r' : RegistryId} {h h' : DeviceHandle} {p : Picture} {env : Env σ}
  {w w' : World σ} {c : ConnectionId} {sink : Sink}

structure Fails (sink : Sink) (r : RegistryId) (h : DeviceHandle) (p p' : Picture) : Prop extends
    Almost r h p p' where
  leaving : p'.Leaving r h → p.Leaving r h
  beside : sink ≠ .entry r h → Follows r h p p'

theorem Follows.fails {p' : Picture} (follows : Follows r h p p') : Fails sink r h p p' where
  toAlmost := follows.toAlmost
  leaving := follows.leaving
  beside _ := follows

/-- A connection has been started since the world was as in the picture. -/
structure Launch (sink : Sink) (c : ConnectionId) (r : RegistryId) (h : DeviceHandle) (p : Picture)
    (w : World σ) : Prop where
  starts : Starts c r h p w.picture
  lawful : w.Lawful
  sink : w.picture.sink c = some sink
  onCourse : w.OnCourse c

def Launches (sink : Sink) (r : RegistryId) (h : DeviceHandle) (p : Picture) :
    Except Fault ConnectionId × World σ → Prop
  | (.ok c, w) => Launch sink c r h p w ∧ ¬w.picture.Asking c
  | (.error _, w) => Fails sink r h p w.picture ∧ w.Lawful

structure Outset (sink : Sink) (r : RegistryId) (h : DeviceHandle) (p : Picture) (w : World σ) :
    Prop where
  starts : ∀ c, w.picture.sink c = none → Starts c r h p (w.picture.meet c sink)
  fails : Fails sink r h p w.picture
  lawful : w.Lawful

structure Quietly (w w' : World σ) : Prop where
  picture : w'.picture = w.picture
  goesOn : ∀ c, GoesOn c w w'

theorem Quietly.of_same (connections : w'.connections = w.connections)
    (history : w'.history = w.history) (registries : w'.registries = w.registries)
    (controllers : w'.controllers = w.controllers) : Quietly w w' where
  picture := World.picture_congr connections history registries controllers
  goesOn _ := .of_same connections history

theorem Quietly.closed : Closed (Keeps (σ := σ) Quietly) := by
  refine Keeps.closed (fun _ => ⟨rfl, fun _ => .refl _⟩) fun first second => ?_
  exact ⟨second.picture.trans first.picture, fun c => (first.goesOn c).trans (second.goesOn c)⟩

instance Quietly.log (s : Severity) (message : String) (fields : List (String × String)) :
    Holds (Keeps Quietly) (log s message fields : Act σ Unit) :=
  ⟨fun w => .of_same (w.log_connections _ _ _) (w.log_history _ _ _) (w.log_registries _ _ _)
    (w.log_controllers _ _ _)⟩

instance Quietly.updateBackend (b : BackendId) (f : Backend → Backend) :
    Holds (Keeps Quietly) (modify (·.updateBackend b f) : Act σ Unit) :=
  ⟨fun _ => .of_same rfl rfl rfl rfl⟩

instance Quietly.note (c : ConnectionId) : OverlooksNotes (Keeps (σ := σ) Quietly) c where
  note f same w := ⟨w.picture_updateConnection c fun x => (same x).2.2.1,
    fun c' => OverlooksNotes.note (Q := Keeps (GoesOn c')) f same w⟩

theorem Backend.run_opening {α : Type} (c : ConnectionId) (sink : Sink) (request : Act σ α)
    (w : World σ) :
    (Backend.opening c sink request).run w =
      ((request.run (w.mark (.opening c sink))).1,
        (request.run (w.mark (.opening c sink))).2.mark (.opened c)) := rfl

namespace Launch

theorem quietly (launch : Launch sink c r h p w) (quietly : Quietly w w') :
    Launch sink c r h p w' where
  starts := quietly.picture ▸ launch.starts
  lawful := GoesOn.lawful quietly.goesOn launch.lawful
  sink := quietly.picture ▸ launch.sink
  onCourse := (quietly.goesOn c).onCourse launch.onCourse

theorem opening {α : Type} (request : Act σ α) [kept : Holds (Keeps (Abides r h)) request]
    (launch : Launch sink c r h p w) (fresh : ¬w.picture.answered c) :
    Launch sink c r h p ((Backend.opening c sink request).run w).2 ∧
      ¬((Backend.opening c sink request).run w).2.picture.Asking c := by
  rw [Backend.run_opening]
  have asked := launch.starts.asked launch.sink
  rw [← World.picture_mark] at asked
  have marked : ∀ c', GoesOn c' w (w.mark (.opening c sink)) := fun _ => .mark w rfl nofun
  have lawful := GoesOn.lawful marked launch.lawful
  have asking : (w.mark (.opening c sink)).picture.Asking c := by
    rw [World.picture_mark, after_opening]
    exact ⟨⟨sink, .inr ⟨rfl, rfl⟩⟩, fresh⟩
  have step := kept.holds (w.mark (.opening c sink))
  dsimp only
  generalize (request.run (w.mark (.opening c sink))).2 = w₂ at step ⊢
  have follows := step.follows lawful asked.orderly
  have known : w₂.picture.sink c = some sink := by
    refine follows.known c sink ?_
    rw [World.picture_mark, after_opening]
    exact launch.sink
  have later := (asked.meanwhile asking follows).answered known
  have ended : ∀ c', GoesOn c' w₂ (w₂.mark (.opened c)) := fun _ => .mark w₂ rfl nofun
  rw [← World.picture_mark] at later
  refine ⟨⟨later, GoesOn.lawful ended (GoesOn.lawful step.goesOn lawful), ?_, ?_⟩, ?_⟩
  · rw [World.picture_mark, after_opened]
    exact known
  · exact (ended c).onCourse ((step.goesOn c).onCourse ((marked c).onCourse launch.onCourse))
  · rw [World.picture_mark, after_opened]
    exact fun asking => asking.2 (.inr rfl)

end Launch

namespace Connection

variable [u : Upheld (Keeps (Abides r h)) env]

theorem giveUp_fails (launch : Launch sink c r h p w) (answered : ¬w.picture.Asking c) :
    Fails sink r h p ((giveUp env c).run w).2.picture ∧ ((giveUp env c).run w).2.Lawful := by
  obtain ⟨x, hx, -⟩ : ∃ x, w.connections.find? c = some x ∧ x.sink = sink := by
    simpa [World.picture] using launch.sink
  have found : w.connection c = x := World.connection_of_find? hx
  have onCourse := launch.onCourse
  simp only [World.OnCourse, hx] at onCourse
  obtain ⟨fits, piped⟩ := onCourse
  have lawful : (discarded w c).Lawful := by
    refine GoesOn.lawful (fun c' => ?_) launch.lawful
    by_cases own : c' = c
    · subst own
      exact discarded_goesOn w
    · exact .discarded_of_ne (Ne.symm own) w
  have almost := launch.starts.discarded launch.sink answered
  have follows := launch.starts.discarded_follows launch.sink answered
  rw [← w.picture_discarded hx] at almost follows
  unfold giveUp
  rw [run_bind, run_get, run_bind, run_modify, found]
  dsimp only
  cases hp : x.pipe with
  | none =>
      have := Quietly.closed (σ := σ)
      have rest : Holds (Keeps (σ := σ) Quietly) (do
          modify (·.updateConnection c fun x => { x with hooks := [] })
          log .debug "Connection discarded" [("conn", c.label)]) := inferInstance
      have quietly := rest.holds (discarded w c)
      have fails : Fails sink r h p (discarded w c).picture := by
        refine { almost with leaving := ?_, beside := fun ne => follows fun _ => ne }
        rw [w.picture_discarded hx, after_discarded]
        exact launch.starts.leaving
      rw [← quietly.picture] at fails
      exact ⟨fails, GoesOn.lawful quietly.goesOn lawful⟩
  | some pipe =>
      -- Its sink has been told of it, so that nobody waits for it at an idle device.
      have told : w.picture.told c ≠ [] := by
        change w.milestones c ≠ []
        have established : x.state.isEstablished := by
          by_contra other
          simp [Piped, hp, other] at piped
        simp [fits.told_of_established established]
      have along : Along r h p (discarded w c) := ⟨follows fun silent => absurd silent told, lawful⟩
      have later := along.run (do
        Pipe.dispose env pipe
        modify (·.updateConnection c fun x => { x with hooks := [] })
        log .debug "Connection discarded" [("conn", c.label)])
      exact ⟨later.follows.fails, later.lawful⟩

end Connection

theorem Outset.create (outset : Outset sink r h p w) (device : DeviceHandle) (b : BackendId)
    (address : String) :
    ∃ (c : ConnectionId) (w' : World σ),
      (Connection.create device b address sink).run w = (c, w') ∧ Launch sink c r h p w' ∧
        ¬w'.picture.answered c ∧ ¬w'.picture.Asking c := by
  obtain ⟨w', runs, picture, -⟩ := Connection.run_create device b address sink w
  have goesOn : ∀ c, GoesOn c w w' := fun c => by
    have := (ConnectionLives.create (Q := Keeps (GoesOn c)) device b address sink).holds w
    rwa [runs] at this
  have orderly := outset.fails.orderly
  have new : w.picture.sink ⟨w.connections.next⟩ = none := by
    simp [World.picture, Table.find?_next]
  obtain ⟨silent, spared, unanswered⟩ := orderly.unknown _ new
  refine ⟨_, w', runs, ⟨picture ▸ outset.starts _ new, GoesOn.lawful goesOn outset.lawful, ?_, ?_⟩,
    ?_, ?_⟩
  · simp [picture, Picture.meet]
  · refine (goesOn _).onCourse ?_
    simp only [World.OnCourse, Table.find?_next]
    exact ⟨spared, silent⟩
  · rw [picture]
    exact unanswered
  · rw [picture]
    rintro ⟨⟨sink', asked⟩, -⟩
    simp [orderly.asked _ sink' asked] at new

namespace Backend

theorem onClosed_quietly (c : ConnectionId) (hook : CloseHook) :
    Holds (Keeps (σ := σ) Quietly) (Connection.onClosed c hook) := by
  have := Quietly.closed (σ := σ)
  have updated : ∀ f : Connection → Connection,
      (∀ x : Connection, (f x).state = x.state ∧ (f x).announced = x.announced ∧
        (f x).sink = x.sink ∧ (f x).pipe = x.pipe ∧ x.HandsOver (f x)) →
      Holds (Keeps (σ := σ) Quietly) (modify (·.updateConnection c f)) :=
    fun f same => ⟨OverlooksNotes.note f same⟩
  have noted := updated (fun x => { x with noted := x.noted ++ [hook] }) fun _ =>
    ⟨rfl, rfl, rfl, rfl, .of_same rfl rfl⟩
  have kept := updated (fun x => { x with hooks := x.hooks ++ [hook] }) fun _ =>
    ⟨rfl, rfl, rfl, rfl, .of_same rfl rfl⟩
  have done := updated (fun x => { x with done := x.done ++ [hook] }) fun _ =>
    ⟨rfl, rfl, rfl, rfl, .of_same rfl rfl⟩
  have ran : Holds (Keeps (σ := σ) Quietly) (Connection.runHook c hook) := by
    unfold Connection.runHook
    cases hook <;> infer_instance
  unfold Connection.onClosed
  infer_instance

theorem trackLive_quietly (b : BackendId) (c : ConnectionId) :
    Holds (Keeps (σ := σ) Quietly) (trackLive b c) := by
  have := Quietly.closed (σ := σ)
  have noted := onClosed_quietly (σ := σ) c (.untrack b)
  unfold trackLive
  infer_instance

theorem make_launches (outset : Outset sink r h p w) (b : BackendId) (device : DeviceHandle)
    (address : String) :
    ∃ (c : ConnectionId) (w' : World σ),
      (make b device address sink).run w = (c, w') ∧ Launch sink c r h p w' ∧
        ¬w'.picture.answered c ∧ ¬w'.picture.Asking c := by
  obtain ⟨c, made, runs, launch, fresh, unasked⟩ := outset.create device b address
  have := Quietly.closed (σ := σ)
  have live := trackLive_quietly (σ := σ) b c
  have tracks : Holds (Keeps (σ := σ) Quietly) (do
      modify (·.updateBackend b (·.noteMade c))
      trackLive b c) := inferInstance
  have tracked := tracks.holds made
  refine ⟨c, _, ?_, launch.quietly tracked, ?_, ?_⟩
  · unfold make
    rw [run_bind, runs]
    rfl
  · rwa [tracked.picture]
  · rwa [tracked.picture]

theorem trackApi_quietly (b : BackendId) (c : ConnectionId) (api : DeviceApi) :
    Holds (Keeps (σ := σ) Quietly) (trackApi b c api) := by
  have := Quietly.closed (σ := σ)
  have noted := onClosed_quietly (σ := σ) c (.forgetApi b)
  unfold trackApi
  infer_instance

variable [u : Upheld (Keeps (Abides r h)) env]

theorem startNet_launches (outset : Outset sink r h p w) (b : BackendId) (part : NetPart)
    (device : DeviceHandle) (info : DeviceInfo) (agent : Agent)
    {started : Except Fault ConnectionId × World σ}
    (starts : (startNet env b part device info agent sink).run.run w = started) :
    Launches sink r h p started := by
  obtain ⟨c, made, runs, launch, fresh, -⟩ := make_launches outset b device info.address
  have tracked := (trackApi_quietly b c info.api.effective).holds made
  unfold startNet at starts
  rw [run_actThen, runs, run_actThen, run_tryThen, run_onFailure] at starts
  generalize ((trackApi b c info.api.effective).run made).2 = w₁ at tracked starts
  obtain ⟨opened, answered⟩ := (launch.quietly tracked).opening
    (env.ask (.openNet part.connector c info.port
      (handshake part agent info).toJson.render)).run (tracked.picture ▸ fresh)
  dsimp only [ExceptT.run_mk] at starts
  generalize (opening c sink _).run _ = outcome at opened answered starts
  obtain ⟨result, w₂⟩ := outcome
  cases result with
  | ok _ =>
      dsimp only at starts
      rw [run_actThen, run_log, run_tryPure] at starts
      subst starts
      exact ⟨opened.quietly ((Quietly.log _ _ _).holds w₂), by rwa [World.picture_log]⟩
  | error f =>
      dsimp only at starts
      rw [run_bind, run_log, withdraw, run_bind, run_modify] at starts
      subst starts
      have forgot : Quietly w₂ ((w₂.log .warn "Failed to open network connection"
          [("device", device.label), ("error", f.message)]).updateBackend b
            fun x => (x.untrack c).forgetApi c) := by
        have logged := (Quietly.log .warn "Failed to open network connection"
          [("device", device.label), ("error", f.message)]).holds w₂
        exact ⟨logged.picture, fun c' => (logged.goesOn c').trans (.of_same rfl rfl)⟩
      exact Connection.giveUp_fails (opened.quietly forgot) (forgot.picture ▸ answered)

theorem reject_fails (launch : Launch sink c r h p w) (answered : ¬w.picture.Asking c)
    (b : BackendId) :
    Fails sink r h p ((reject env b c).run w).2.picture ∧ ((reject env b c).run w).2.Lawful := by
  have untracked : Quietly w (w.updateBackend b (·.untrack c)) := .of_same rfl rfl rfl rfl
  unfold reject
  rw [run_bind, run_modify, run_bind, run_get]
  split
  · have logged := (Quietly.log .warn "Dropping host handle of rejected BLE connection"
      [("conn", c.label)]).holds (w.updateBackend b (·.untrack c))
    have dropped : Quietly w _ := ⟨logged.picture.trans untracked.picture,
      fun c' => (untracked.goesOn c').trans (logged.goesOn c')⟩
    rw [run_bind, run_log]
    exact Connection.giveUp_fails (launch.quietly dropped) (dropped.picture ▸ answered)
  · exact Connection.giveUp_fails (launch.quietly untracked) answered

theorem startBle_launches (outset : Outset sink r h p w) (b : BackendId) (part : BlePart)
    (device : DeviceHandle) (info : DeviceInfo) :
    Launches sink r h p ((startBle env b part device info sink).run.run w) := by
  obtain ⟨c, made, runs, launch, fresh, -⟩ := make_launches outset b device info.address
  have logged := (Quietly.log .debug "BLE connection created"
    [("conn", c.label), ("address", info.address)]).holds made
  unfold startBle
  rw [run_actThen, runs, run_actThen]
  dsimp only
  rw [run_actThen]
  obtain ⟨opened, answered⟩ := (launch.quietly logged).opening
    (env.openSession part.host info.address c) (logged.picture ▸ fresh)
  generalize (opening c sink _).run _ = outcome at opened answered ⊢
  obtain ⟨taken, w₂⟩ := outcome
  have rejected : ∀ s message fields (fault : Fault) (next : Unit → Try σ ConnectionId),
      Launches sink r h p ((do
        act (log s message fields)
        act (reject env b c)
        (throw fault : Try σ Unit) >>= next : Try σ ConnectionId).run.run w₂) := by
    intro s message fields fault next
    have warned := (Quietly.log s message fields).holds w₂
    rw [run_actThen, run_actThen, run_throwThen]
    exact reject_fails (opened.quietly warned) (warned.picture ▸ answered) b
  dsimp only
  split
  swap
  · exact rejected .warn _ _ _ _
  · rw [run_lookThen]
    split
    · exact rejected .error _ _ _ _
    · exact ⟨opened, answered⟩

theorem startMux_launches (outset : Outset sink r h p w) (b : BackendId) (part : MuxPart)
    (device : DeviceHandle) (info : DeviceInfo) :
    Launches sink r h p ((startMux b part device info sink).run.run w) := by
  unfold startMux
  rw [run_lookThen]
  split
  swap
  · exact ⟨outset.fails, outset.lawful⟩
  obtain ⟨c, made, runs, launch, -, unasked⟩ := make_launches outset b device info.address
  rw [run_actThen, runs, run_actThen, run_tryPure]
  have deferred : Quietly made ((defer (.establish c part.channel info.api.effective)).run made).2 :=
    .of_same rfl rfl rfl rfl
  exact ⟨launch.quietly deferred, deferred.picture ▸ unasked⟩

variable (env) in
theorem start_launches (outset : Outset sink r h p w) (b : BackendId) (device : DeviceHandle)
    (info : DeviceInfo) (agent : Agent) :
    Launches sink r h p ((start env b device info agent sink).run.run w) := by
  generalize starts : (start env b device info agent sink).run.run w = started
  unfold start at starts
  rw [run_lookThen] at starts
  split at starts
  · exact startNet_launches outset b _ device info agent starts
  · exact starts ▸ startBle_launches outset b _ device info
  · exact starts ▸ startMux_launches outset b _ device info

theorem start_abides (quiet : Quiet env) (b : BackendId) (device : DeviceHandle)
    (info : DeviceInfo) (agent : Agent) (l : ListenerId) :
    Holds (Keeps (Abides r h)) (start env b device info agent (.listener l)).run := by
  refine Abides.of_along (fun c => ?_) fun w lawful orderly => ?_
  · have upheld := Abides.upheldGoesOn u c
    exact (GoesOn.together upheld quiet).start b device info agent l
  · have counted : ∀ r h, Sink.listener l = .entry r h → r.number < w.picture.registries :=
      fun _ _ => nofun
    have outset : Outset (.listener l) r h w.picture w := {
      starts := fun c new => by
        refine .of_follows orderly new (.meet_beside orderly new counted nofun) ?_
        simp [Picture.meet]
      fails := (Follows.refl orderly).fails
      lawful := lawful }
    have launches := start_launches env outset b device info agent
    generalize (start env b device info agent (.listener l)).run.run w = outcome at launches ⊢
    obtain ⟨result, w'⟩ := outcome
    cases result with
    | error f => exact ⟨launches.1.beside nofun, launches.2⟩
    | ok c =>
        obtain ⟨launch, answered⟩ := launches
        refine ⟨launch.starts.follows answered fun _ _ d _ _ pending => ?_, launch.lawful⟩
        have := launch.sink.symm.trans pending.1
        simp at this

end Backend

end DroneControl
