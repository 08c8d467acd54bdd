import DroneControl.Proofs.Controller.Beating
import DroneControl.Proofs.Device.Order
import DroneControl.Proofs.Device.Vacating

/-!
# Connecting again when told of the end

By the time the listener is told that a connection has ended, the entry of the device is idle and the
connection has closed, so a controller may connect the device again from inside the call.  Whether it is
refused as busy depends on the backend alone: the network and Bluetooth never refuse, and a multiplexed
channel does as long as it has a live connection.  The connection that ended is still counted as live at
that moment, for what was noted to be done on closing comes after.
-/

namespace DroneControl

variable {σ : Type} {r : RegistryId} {h : DeviceHandle} {c : ConnectionId} {k : ControllerId}
  {w w' : World σ} {env inner : Env σ} {d e : Device} {x : Controller}

/-- A host that opens whatever connection it is asked for. -/
structure Env.Opens (env : Env σ) : Prop where
  net : ∀ connector c port request (w : World σ),
    ((env.ask (.openNet connector c port request)).run.run w).1 = .ok ()
  session : ∀ host address c (w : World σ), ((env.openSession host address c).run w).1 = true

def IsBusy {α : Type} : Except Fault α → Prop
  | .error (.busy _) => True
  | _ => False

theorem answer_of_ok {α β : Type} {a : Try σ α} {next : α → Try σ β} {y : α}
    (ok : (a.run.run w).1 = .ok y) :
    ((a >>= next).run.run w).1 = ((next y).run.run (a.run.run w).2).1 := by
  rw [run_tryThen]
  generalize a.run.run w = outcome at ok ⊢
  obtain ⟨answer, w'⟩ := outcome
  obtain rfl := ok
  rfl

theorem answer_onFailure {α : Type} (a : Try σ α) (react : Fault → Act σ Unit) (w : World σ) :
    ((onFailure a react).run.run w).1 = (a.run.run w).1 := by
  rw [run_onFailure]
  cases a.run.run w with
  | mk answer w' => cases answer <;> rfl

namespace Backend

variable {b : BackendId} {info : DeviceInfo} {agent : Agent} {sink : Sink}

/-- The backend has a multiplexed channel that is in use. -/
def Occupied (b : Backend) : Prop := (∃ part, b.part = .mux part) ∧ b.live ≠ []

theorem startNet_answer (opens : env.Opens) (part : NetPart) :
    ¬IsBusy ((startNet env b part h info agent sink).run.run w).1 := by
  unfold startNet
  dsimp only
  rw [run_actThen, run_actThen, answer_of_ok (y := ()), run_actThen]
  · exact id
  · rw [answer_onFailure]
    exact opens.net _ _ _ _ _

theorem startBle_answer (opens : env.Opens) (part : BlePart) :
    ¬IsBusy ((startBle env b part h info sink).run.run w).1 := by
  unfold startBle
  dsimp only
  rw [run_actThen, run_actThen, run_actThen]
  have taken : ∀ c (w : World σ),
      ((opening c sink (env.openSession part.host info.address c)).run w).1 = true :=
    fun c w => opens.session _ _ _ _
  rw [taken]
  simp only [if_true, run_lookThen]
  split
  · rw [run_actThen, run_actThen, run_throwThen]
    exact id
  · exact id

theorem startMux_answer (part : MuxPart) :
    IsBusy ((startMux b part h info sink).run.run w).1 ↔ (w.backend b).live ≠ [] := by
  unfold startMux
  rw [run_lookThen]
  cases live : (w.backend b).live with
  | nil => exact iff_of_false id (by simp)
  | cons c rest => exact iff_of_true trivial (by simp)

theorem start_answer (opens : env.Opens) :
    IsBusy ((start env b h info agent sink).run.run w).1 ↔ (w.backend b).Occupied := by
  unfold start Occupied
  rw [run_lookThen]
  cases (w.backend b).part with
  | net part => simp [startNet_answer opens]
  | ble part => simp [startBle_answer opens]
  | mux part => simp [startMux_answer]

theorem occupied_reshare (w : World σ) (f : Nat → Nat) (b : BackendId) :
    ((w.reshare f (.backend b)).backend b).Occupied ↔ (w.backend b).Occupied := by
  simp only [World.backend, World.reshare, World.updateBackend, Table.get, Table.find?_update, if_true]
  cases w.backends.find? b <;> rfl

end Backend

theorem Registry.settleStart_answer (r : RegistryId) (h : DeviceHandle)
    (started : Except Fault ConnectionId) (w : World σ) :
    ((settleStart r h started).run.run w).1 = started.map fun _ => () := by
  unfold settleStart
  rw [run_lookThen]
  cases (w.registry r).device? h with
  | none => cases started <;> rfl
  | some d =>
    cases started with
    | ok c =>
      dsimp only
      split <;> rfl
    | error f =>
      dsimp only
      rw [run_actThen]
      split <;> rfl

theorem Registry.connectDevice_answer (opens : env.Opens) (hd : (w.registry r).device? h = some d)
    (idle : d.state = .idle) :
    IsBusy ((connectDevice env r h k).run.run w).1 ↔
      d.backend ∈ (w.registry r).backends ∧ (w.backend d.backend).Occupied := by
  unfold connectDevice
  rw [run_deviceThen, hd]
  dsimp only
  rw [if_neg (not_not.mpr idle), run_backendOfThen]
  split
  · next registered =>
    rw [run_lookThen, run_actThen, run_actThen, run_keepingTry, run_attemptThen]
    dsimp only
    rw [settleStart_answer]
    have busy : ∀ answer : Except Fault ConnectionId,
        IsBusy (answer.map fun _ => ()) ↔ IsBusy answer := by
      intro answer
      cases answer with
      | ok _ => rfl
      | error f => cases f <;> rfl
    rw [busy, Backend.start_answer opens, Backend.occupied_reshare, and_iff_right registered]
    simp only [run_log, World.backend, World.log_backends]
    rfl
  · next unregistered => exact iff_of_false id fun both => unregistered both.1

theorem Controller.connect_answer (opens : env.Opens) (seated : w.controllers.find? k = some x)
    (hd : (w.registry x.registry).device? x.device = some d) (idle : d.state = .idle) :
    IsBusy ((connect env k).run.run w).1 ↔
      d.backend ∈ (w.registry x.registry).backends ∧ (w.backend d.backend).Occupied := by
  have own : w.controller k = x := World.controller_of_find? seated
  unfold connect
  rw [run_lookThen, own, answer_onFailure]
  exact Registry.connectDevice_answer opens hd idle

/-! ## The listener is told of the end -/

/-- The connection, the entries and the backends are the same. -/
structure Alike (w w' : World σ) : Prop where
  connections : w'.connections = w.connections
  registries : w'.registries = w.registries
  backends : w'.backends = w.backends

theorem Controller.stopTimer_alike (k : ControllerId) (w : World σ) :
    Alike w ((stopTimer k).run w).2 := by
  rw [stopTimer_eq]
  cases (w.controller k).timer with
  | none => exact ⟨rfl, rfl, rfl⟩
  | some t =>
    exact ⟨World.log_connections _ _ _ _, World.log_registries _ _ _ _, World.log_backends _ _ _ _⟩

variable (env) in
theorem Controller.run_notify_ending (seated : w.controllers.find? k = some x) {event : DeviceEvent}
    (ends : endsSending event) :
    ∃ w₁, Alike w w₁ ∧
      w₁.controllers.find? k = some { x with sharers := x.sharers + 1, timer := none } ∧
      (notify env k c event).run w = (do
        env.tell x.listener (.device event)
        release env (.controller k)).run w₁ := by
  have kept : (w.reshare (· + 1) (.controller k)).controllers.find? k =
      some { x with sharers := x.sharers + 1 } := by
    simp [World.reshare, World.updateController, Table.find?_update, seated]
  obtain ⟨connections, registries, backends⟩ :=
    stopTimer_alike k (w.reshare (· + 1) (.controller k))
  have row := stopTimer_row kept
  unfold notify
  rw [run_ifKept, if_pos (by simp [World.isKept, World.item?, seated]), run_keeping, run_bind,
    run_prepare_ending ends]
  dsimp only
  generalize ((stopTimer k).run (w.reshare (· + 1) (.controller k))).2 = w₁
    at connections registries backends row ⊢
  refine ⟨w₁.mark (.noticed k c event (isReady w₁ k)), ⟨connections, registries, backends⟩, row, ?_⟩
  have own : (w₁.mark (.noticed k c event (isReady w₁ k))).controller k =
      { x with sharers := x.sharers + 1, timer := none } := by
    simp [World.controller, World.mark, Table.get, row]
  rw [run_bind, run_get, run_bind, run_mark, run_bind, run_get, own]
  rfl

theorem Entry.run_follow_ending (quiet : Quiet env) (hd : (w.registry r).device? h = some d)
    (claims : d.claim c = some e) (observed : e.observer = some k)
    (seated : w.controllers.find? k = some x) (staying : e.state ≠ .removing)
    {event : ConnectionEvent} {passed : Bool → DeviceEvent} (ends : event.passed? = some passed) :
    ∃ w₁, w₁.connections = w.connections ∧ w₁.backends = w.backends ∧
      (w₁.registry r).device? h = some e.cleared ∧
      (w₁.registry r).backends = (w.registry r).backends ∧
      w₁.controllers.find? k = some { x with sharers := x.sharers + 1, timer := none } ∧
      (follow env r h c event).run w = (do
        env.tell x.listener (.device (passed false))
        release env (.controller k)
        release env (.registry r)).run w₁ := by
  obtain ⟨message, fields, follows⟩ := run_follow (h := h) (r := r) (c := c) (w := w) env ends
  let logged := w.log .debug message fields
  have entry : (logged.registry r).device? h = some d := by
    rwa [World.registry, World.log_registries]
  have unseen := (dropInterface_unseen quiet e).holds (logged.vacate r h c event e)
  have closes := run_closed env (c := c) entry claims event passed
  generalize ((dropInterface env e).run (logged.vacate r h c event e)).2 = w₀ at unseen closes
  have there : w₀.controllers.find? k = some x := by
    rwa [unseen.controllers, World.vacate_controllers, World.log_controllers]
  obtain ⟨w₁, alike, row, notifies⟩ :=
    Controller.run_notify_ending env (c := c) there (ConnectionEvent.endsSending_passed ends false)
  have same : w₁.registries = (logged.vacate r h c event e).registries :=
    alike.registries.trans unseen.registries
  refine ⟨w₁, ?_, ?_, ?_, ?_, row, ?_⟩
  · rw [alike.connections, unseen.connections, World.vacate_connections, World.log_connections]
  · rw [alike.backends, unseen.backends, World.vacate_backends, World.log_backends]
  · rw [World.registry, same]
    exact World.device?_vacate event entry e
  · rw [World.registry, same]
    refine (World.registry_backends_vacate event logged r h e).trans ?_
    rw [World.registry, World.log_registries, World.registry]
  · rw [follows, closes, observed]
    simp only [staying, decide_false, if_false]
    rw [run_bind]
    change (release env (.registry r)).run ((Controller.notify env k c (passed false)).run w₀).2 = _
    rw [notifies]
    rfl

/-- When a connection that was not closed is brought to its end, then by the time the listener of the
controller that asked for it is told, the connection has closed, and a controller of the device that
connects again, whoever opens connections for it, is refused as busy if and only if the backend has a
multiplexed channel with a connection that is live, of which the one that ended is one until the call
returns. -/
theorem Connection.Closes.reconnects (hosted : Hosted env) (opens : inner.Opens) {a : Act σ Unit}
    {event : ConnectionEvent} (closes : Closes env c w a w' event)
    (live : (w.connection c).state ≠ .closed) (sink : (w'.connection c).sink = .entry r h)
    (hd : (w'.registry r).device? h = some d) (claims : d.claim c = some e)
    (observed : e.observer = some k) (seated : w'.controllers.find? k = some x)
    (staying : e.state ≠ .removing) :
    ∃ (passed : Bool → DeviceEvent) (w₁ : World σ),
      (passed = .disconnected ∨ ∃ reason, passed = .canceled reason) ∧
      a.run w = (do
        env.tell x.listener (.device (passed false))
        release env (.controller k)
        release env (.registry r)
        tearDown env c (w.connection c).pipe).run w₁ ∧
      (w₁.connection c).state = .closed ∧ w₁.backends = w'.backends ∧
      w₁.controllers.find? k = some { x with sharers := x.sharers + 1, timer := none } ∧
      ∀ k' x', w₁.controllers.find? k' = some x' → x'.registry = r → x'.device = h →
        (IsBusy ((Controller.connect inner k').run.run w₁).1 ↔
          e.backend ∈ (w'.registry r).backends ∧ (w'.backend e.backend).Occupied) := by
  have := (hosted.together fun _ u quiet => GoesOn.together (c := c) u quiet).toUpheld
  have known : (w.connections.find? c).isSome := by
    obtain ⟨y, hy, -⟩ := found_of_live live
    simp [hy]
  obtain ⟨passed, ends⟩ := closes.passes
  let told := w'.mark (.told c event)
  have tells : (tell env c event).run w' = (Entry.follow env r h c event).run told := by
    have here : (told.connection c).sink = .entry r h := sink
    unfold tell
    rw [run_bind, run_mark, run_bind, run_get, here]
  have entry : (told.registry r).device? h = some d := hd
  have there : told.controllers.find? k = some x := seated
  obtain ⟨w₁, connections, backends, cleared, registered, row, follows⟩ :=
    Entry.run_follow_ending hosted.quiet entry claims observed there staying ends
  refine ⟨passed, w₁, ?_, ?_, ?_, backends, row, ?_⟩
  · cases event with
    | disconnected => exact .inl (Option.some.inj ends).symm
    | canceled reason => exact .inr ⟨reason, (Option.some.inj ends).symm⟩
    | _ => cases ends
  · rw [closes.run, run_bind, tells, follows]
    rfl
  · rw [World.connection, connections]
    exact closes.closed known
  · intro k' x' seated' registry device
    have idle : e.cleared.state = .idle := if_neg staying
    rw [Controller.connect_answer opens seated' (by rw [registry, device, cleared]) idle, registry,
      registered, World.backend, backends]
    rfl

theorem silentHost_opens : silentHost.Opens := ⟨fun _ _ _ _ _ => rfl, fun _ _ _ _ => rfl⟩

theorem visit_reconnects :
    ∃ (passed : Bool → DeviceEvent) (w₁ : World Unit),
      (Connection.conclude silentHost ⟨1⟩).run (visit.run { host := () }).2 = (do
        silentHost.tell ⟨2⟩ (.device (passed false))
        release silentHost (.controller ⟨1⟩)
        release silentHost (.registry ⟨1⟩)
        Connection.tearDown silentHost ⟨1⟩ (some ⟨1⟩)).run w₁ ∧
      (w₁.connection ⟨1⟩).state = .closed ∧ w₁.backends = (visit.run { host := () }).2.backends ∧
      ((visit.run { host := () }).2.backend ⟨1⟩).live = [⟨1⟩] ∧
      ¬IsBusy ((Controller.connect silentHost ⟨1⟩).run.run w₁).1 := by
  generalize run : (visit.run { host := () }).2 = w
  have entry : ((w.registry ⟨1⟩).device? ⟨1⟩).map (fun d =>
      (d.connection, d.observer, d.state, d.backend)) =
      some (some ⟨1⟩, some ⟨1⟩, .connected, ⟨1⟩) := by rw [← run]; decide +kernel
  have row : (w.controllers.find? ⟨1⟩).map (fun x => (x.registry, x.device, x.listener)) =
      some (⟨1⟩, ⟨1⟩, ⟨2⟩) := by rw [← run]; decide +kernel
  have state : (w.connection ⟨1⟩).state = .connected := by rw [← run]; decide +kernel
  have sink : (w.connection ⟨1⟩).sink = .entry ⟨1⟩ ⟨1⟩ := by rw [← run]; decide +kernel
  have pipe : (w.connection ⟨1⟩).pipe = some ⟨1⟩ := by rw [← run]; decide +kernel
  have live : (w.backend ⟨1⟩).live = [⟨1⟩] := by rw [← run]; decide +kernel
  have kind : (w.backend ⟨1⟩).kind = .net := by rw [← run]; decide +kernel
  obtain ⟨d, hd, slot⟩ := Option.map_eq_some_iff.mp entry
  obtain ⟨x, seated, seat⟩ := Option.map_eq_some_iff.mp row
  simp only [Prod.mk.injEq] at slot seat
  let w' := (w.updateConnection ⟨1⟩ Connection.closed).log .debug "Disconnected"
    (Connection.fields w ⟨1⟩)
  have sink' : (w'.connection ⟨1⟩).sink = .entry ⟨1⟩ ⟨1⟩ := by
    rw [World.connection, World.log_connections]
    exact (w.sink_updateConnection ⟨1⟩ (f := Connection.closed) fun _ => rfl).trans sink
  have hd' : (w'.registry ⟨1⟩).device? ⟨1⟩ = some d := by
    rw [World.registry, World.log_registries]
    exact hd
  have seated' : w'.controllers.find? ⟨1⟩ = some x := by
    rw [World.log_controllers]
    exact seated
  have backends : w'.backends = w.backends := World.log_backends _ _ _ _
  obtain ⟨passed, w₁, -, runs, closed, same, kept, answers⟩ :=
    Connection.Closes.concluded.reconnects silentHost_hosted silentHost_opens (by simp [state]) sink'
      hd' (by simp [Device.claim, slot.1]) slot.2.1 seated' (by simp [slot.2.2.1])
  refine ⟨passed, w₁, ?_, closed, same.trans backends, live, ?_⟩
  · rw [runs, seat.2.2, pipe]
  · rw [answers ⟨1⟩ _ kept seat.1 seat.2.1, slot.2.2.2, World.backend, backends]
    rintro ⟨-, ⟨part, mux⟩, -⟩
    change (w.backend ⟨1⟩).part = _ at mux
    simp [Backend.kind, mux] at kind

end DroneControl
