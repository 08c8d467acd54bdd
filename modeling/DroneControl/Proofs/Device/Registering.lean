import DroneControl.Proofs.Device.Starting

/-!
# What registries and controllers do to a device

A device is added, given a controller and a command interface, connected and removed.  Each of these
changes its entry once before anybody is called, and connecting it changes the entry again when its
backend is done.
-/

set_option synthInstance.maxSize 2048

namespace DroneControl

open Picture

variable {σ : Type} {r r' : RegistryId} {h h' : DeviceHandle} {p : Picture} {env : Env σ}
  {w w' : World σ} {c : ConnectionId}

namespace Registry

/-! ## New registries, devices and controllers -/

theorem create_abides (options : RegistryOptions) (l : ListenerId) (token : Option Token) :
    Holds (Keeps (σ := σ) (Abides r h)) (create options l token) := by
  refine create_of_row (fun r token => Holds.holds) (fun x new w => ⟨fun _ => .of_same rfl rfl, fun _ orderly => ?_⟩) options l token
  rw [run_modifyGet, w.picture_addRegistry new]
  exact .enroll orderly

theorem allocate_eq_some {x x' : Registry} {h : DeviceHandle} (taken : x.allocate = some (h, x')) :
    x.device? h = none ∧ ∃ cursor, x' = { x with cursor } := by
  have free : ∀ steps raw found, x.searchFree steps raw = some found → x.isFree found := by
    intro steps
    induction steps with
    | zero => nofun
    | succ steps ih =>
        intro raw found search
        unfold searchFree at search
        split at search
        · next isFree => exact Option.some.inj search ▸ isFree
        · exact ih _ found search
  simp only [allocate, Option.map_eq_some_iff, Prod.mk.injEq] at taken
  obtain ⟨raw, search, rfl, rfl⟩ := taken
  have := free _ _ _ search
  simp only [isFree, decide_eq_true_eq, Bool.and_eq_true, Option.isNone_iff_eq_none] at this
  exact ⟨this.2, _, rfl⟩

theorem known_of_backend {b : BackendId} (registered : b ∈ (w.registry r').backends) :
    w.registries.find? r' = some (w.registry r') := by
  unfold World.registry Table.get at registered ⊢
  cases hx : w.registries.find? r' with
  | none => simp [hx, default] at registered
  | some x => rfl

theorem addDevice_abides [u : Upheld (Keeps (Abides r h)) env] (r' : RegistryId)
    (info : DeviceInfo) (b : BackendId) :
    Holds (Keeps (Abides r h)) (addDevice env r' info b).run := by
  refine ⟨fun w => ?_⟩
  unfold addDevice
  rw [run_lookThen]
  dsimp only
  split
  · exact .refl w
  · next serves =>
      split
      · exact .refl w
      · next registered =>
          rw [Decidable.not_not] at registered
          have known := known_of_backend registered
          cases taken : (w.registry r').allocate with
          | none => exact .refl w
          | some allocated =>
              obtain ⟨h', x'⟩ := allocated
              obtain ⟨unused, cursor, rfl⟩ := allocate_eq_some taken
              dsimp only
              rw [run_actThen, run_modify]
              rw [run_actThen, run_log, run_actThen, run_mark]
              have rest : Holds (Keeps (Abides r h)) (do
                  act (env.tell (w.registry r').listener (.deviceAdded h' info))
                  return h' : Try σ DeviceHandle).run := inferInstance
              generalize hw₁ : (w.updateRegistry r' fun _ =>
                { w.registry r' with cursor }.setDevice h' { info, backend := b }) = w₁
              have entered : w₁.picture = w.picture.setEntry r' h' (some { info, backend := b }) := by
                rw [← hw₁]
                exact w.picture_setEntry known (fun h'' => device?_setDevice _ _ _ _) rfl
              have rewritten (c : ConnectionId) : GoesOn c w w₁ := hw₁ ▸ .of_same rfl rfl
              have logged := (Quietly.log .info "Device added" [("device", h'.label), ("id", info.id),
                ("name", info.name), ("device_type", info.deviceType.label)]).holds w₁
              refine Abides.trans ⟨fun c => ?_, fun _ orderly => ?_⟩ (rest.holds _)
              · exact ((rewritten c).trans (logged.goesOn c)).trans (.mark _ rfl (by simp))
              · rw [World.picture_mark]
                rw [run_log] at logged
                rw [logged.picture, entered]
                refine .add orderly ⟨_, known, ?_⟩ unused rfl ⟨rfl, rfl, rfl, rfl⟩
                simpa using serves

theorem createInterface_abides (r' : RegistryId) (h' : DeviceHandle) (sink : CommandSink) :
    Holds (Keeps (σ := σ) (Abides r h)) (createInterface r' h' sink).run := by
  refine ⟨fun w => ?_⟩
  cases hd : (w.registry r').device? h' with
  | none =>
      unfold createInterface
      rw [run_deviceThen, hd]
      exact .refl w
  | some d =>
      cases hi : d.interface with
      | some i =>
          unfold createInterface
          rw [run_deviceThen, hd]
          dsimp only
          rw [hi, Option.isSome_some, if_pos rfl]
          exact .refl w
      | none =>
          cases hp : d.pipe with
          | none =>
              unfold createInterface
              rw [run_deviceThen, hd]
              simp only [hi, hp, Option.isSome_none, Bool.false_eq_true, if_false]
              exact .refl w
          | some pipe =>
              obtain ⟨i, w', runs, picture, connections, history, -⟩ :=
                run_createInterface hd hi hp sink
              rw [runs]
              refine ⟨fun _ => .of_same connections history, fun _ orderly => ?_⟩
              rw [picture]
              exact .giveInterface orderly hd (by simp [hp]) i

theorem run_discardDevice (r' : RegistryId) (h' : DeviceHandle) (w : World σ) :
    (discard (Registry.device r' h') : Try σ Unit).run.run w =
      match (w.registry r').device? h' with
      | some _ => (.ok (), w)
      | none => (.error (.deviceNotFound h'), w) := by
  change ((Registry.device r' h' >>= fun _ => pure ()) : Try σ Unit).run.run w = _
  rw [run_deviceThen]
  cases (w.registry r').device? h' <;> rfl

end Registry

theorem Controller.create_abides (r' : RegistryId) (h' : DeviceHandle) (l : ListenerId)
    (token : Option Token) :
    Holds (Keeps (σ := σ) (Abides r h)) (create r' h' l token).run := by
  refine ⟨fun w => ?_⟩
  unfold create
  rw [run_tryThen, Registry.run_discardDevice]
  cases hd : (w.registry r').device? h' with
  | none => exact .refl w
  | some d =>
      dsimp only
      rw [run_actThen, run_log, run_actThen, run_modifyGet]
      generalize hlogged : w.log .debug "Device controller created" [("device", h'.label)] = w₁
      have logged : Quietly w w₁ := hlogged ▸ (Quietly.log _ _ _).holds w
      let x : Controller := { device := h', registry := r', listener := l, token }
      let w₂ : World σ := { w₁ with controllers := (w₁.controllers.add x).2 }
      have goesOn : ∀ c, GoesOn c w₁ (w₂.mark (.appointed ⟨w₁.controllers.next⟩ r' h')) := by
        intro c
        have same : GoesOn c w₁ w₂ := .of_same rfl rfl
        exact same.trans (.mark _ rfl (by simp))
      have appointed : Abides r h w (w₂.mark (.appointed ⟨w₁.controllers.next⟩ r' h')) := by
        refine ⟨fun c => (logged.goesOn c).trans (goesOn c), fun _ orderly => ?_⟩
        rw [World.picture_mark, w₁.picture_addController x]
        have entry : w₁.picture.entry r' h' = some d := by
          rw [logged.picture]
          exact hd
        rw [← logged.picture] at orderly ⊢
        exact .appoint orderly entry
      have retained : Holds (Keeps (σ := σ) (Abides r h)) (retain (.registry r')) := inferInstance
      exact appointed.trans (retained.holds _)

instance Abides.registryLives : RegistryLives (Keeps (σ := σ) (Abides r h)) where
  createRegistry := Registry.create_abides
  createDeviceInterface := Registry.createInterface_abides
  createController := Controller.create_abides

/-! ## Devices go -/

namespace Connection

theorem cancel_succeeds (live : (w.connection c).state ≠ .closed) (reason : CancelReason) :
    ((cancel env c reason).run.run w).1 = .ok () := by
  unfold cancel
  rw [run_lookThen]
  dsimp only
  rw [if_neg live]
  rfl

theorem disconnected_succeeds (live : (w.connection c).state ≠ .closed) :
    ((disconnected env c).run.run w).1 = .ok () := by
  unfold disconnected
  rw [run_lookThen]
  dsimp only
  split
  · rw [run_actThen, run_log]
    refine cancel_succeeds ?_ .local
    simpa only [World.connection, World.log_connections] using live
  · split
    · rfl
    · next pending established =>
        cases hs : (w.connection c).state <;>
          simp_all [ConnectionState.isPending, ConnectionState.isEstablished]

theorem run_beginClose {x : Connection} (hx : w.connections.find? c = some x) :
    (beginClose c).run w = (x.state, w.updateConnection c closeRequested) ∧
      (w.updateConnection c closeRequested).connections.find? c = some x.closeRequested := by
  have found : w.connection c = x := World.connection_of_find? hx
  refine ⟨?_, by simp [World.updateConnection, Table.find?_update, hx]⟩
  rw [← found]
  rfl

end Connection

namespace Backend

variable {x : Connection}

theorem stopNet_succeeds [u : Upheld (Keeps (GoesOn c)) env] (hx : w.connections.find? c = some x)
    (part : NetPart) (device : DeviceHandle) :
    ((stopNet env part device c).run.run w).1 = .ok () := by
  obtain ⟨begins, requested⟩ := Connection.run_beginClose hx
  unfold stopNet
  rw [run_actThen, begins, run_actThen, run_lookThen]
  dsimp only
  have ordered := u.order (.closeNet part.connector c)
    (w.updateConnection c Connection.closeRequested)
  generalize ((env.order _).run _).2 = w₂ at ordered ⊢
  split
  · rfl
  · next live =>
      rw [run_actThen, run_log]
      have still : ∀ s message fields,
          ((w₂.log s message fields).connection c).state ≠ .closed := by
        intro s message fields
        simpa only [World.connection, World.log_connections] using live
      split
      · exact Connection.disconnected_succeeds (still _ _ _)
      · split
        · exact Connection.cancel_succeeds (still _ _ _) .local
        · next established pending =>
            -- It was closed before the connector was asked, and would be so still.
            have closed : x.state = .closed := by
              by_contra other
              exact (ConnectionState.isPending_or_isEstablished other).elim pending established
            obtain ⟨x', hx', -, stays⟩ := ordered.stays _ requested
            have shut := (stays (by simp [Connection.closeRequested, closed])).1
            exact absurd (by simp [World.connection, Table.get, hx', shut]) live

theorem stopMux_succeeds (hx : w.connections.find? c = some x) (device : DeviceHandle) :
    ((stopMux env device c).run.run w).1 = .ok () := by
  unfold stopMux
  rw [run_actThen, run_log]
  have row := (congrArg (·.find? c) (w.log_connections .debug "Closing MUX connection"
    [("device", device.label), ("conn", c.label)])).trans hx
  obtain ⟨begins, requested⟩ := Connection.run_beginClose row
  rw [run_actThen, begins]
  dsimp only
  generalize World.updateConnection _ c Connection.closeRequested = w₁ at requested
  have later : w₁.connection c = x.closeRequested := by
    simp [World.connection, Table.get, requested]
  split
  · next established =>
      refine Connection.disconnected_succeeds ?_
      rw [later]
      cases hs : x.state <;> simp_all [Connection.closeRequested, ConnectionState.isEstablished]
  · split
    · next pending =>
        refine Connection.cancel_succeeds ?_ .local
        rw [later]
        cases hs : x.state <;> simp_all [Connection.closeRequested, ConnectionState.isPending]
    · rfl

theorem stop_succeeds [Upheld (Keeps (GoesOn c)) env] (hx : w.connections.find? c = some x)
    (b : BackendId) (device : DeviceHandle) : ((stop env b device c).run.run w).1 = .ok () := by
  unfold stop
  rw [run_lookThen]
  cases (w.backend b).part with
  | net part => exact stopNet_succeeds hx part device
  | ble part => rfl
  | mux part => exact stopMux_succeeds hx device

end Backend

namespace Registry

theorem run_backendOfThen {α : Type} (r' : RegistryId) (d : Device) (next : BackendId → Try σ α)
    (w : World σ) :
    (backendOf r' d >>= next).run.run w =
      if d.backend ∈ (w.registry r').backends then (next d.backend).run.run w
      else (.error (unknownBackend d.backend), w) := by
  rw [run_tryThen]
  unfold backendOf
  rw [run_lookThen]
  by_cases registered : d.backend ∈ (w.registry r').backends
  · simp only [registered, if_true, run_tryPure]
  · simp only [registered, if_false, run_throw]

theorem picture_updateEntry {d : Device} (hd : (w.registry r').device? h' = some d)
    (f : Device → Device) :
    (w.updateRegistry r' (·.updateDevice h' f)).picture =
      w.picture.setEntry r' h' (some (f d)) := by
  refine w.picture_setEntry (World.find?_of_entry hd) (fun h'' => ?_) ?_
  · rw [device?_updateDevice, hd]
    rfl
  · simp [updateDevice, hd, setDevice]

theorem run_removeDevice [Upheld (Keeps (GoesOn c)) env] (known : (w.connections.find? c).isSome)
    {d : Device} (hd : (w.registry r').device? h' = some d) (owned : d.connection = some c)
    (staying : d.state ≠ .removing) (registered : d.backend ∈ (w.registry r').backends) :
    (removeDevice env r' h').run.run w =
      (.ok (), (keeping env (.backend d.backend) (Backend.stop env d.backend h' c).run).run
        (((w.updateRegistry r' (·.updateDevice h' fun d => { d with state := .removing })).mark
          (.leaving r' h' c d.observer)).log .debug "Closing connection of removed device"
            [("device", h'.label), ("conn", c.label)]) |>.2) := by
  obtain ⟨x, hx⟩ := Option.isSome_iff_exists.mp known
  have succeeds : ∀ w₂ : World σ, w₂.connections = w.connections →
      ((Backend.stop env d.backend h' c).run.run w₂).1 = .ok () :=
    fun w₂ same => Backend.stop_succeeds (same ▸ hx) d.backend h'
  unfold removeDevice
  rw [run_deviceThen, hd]
  dsimp only
  rw [if_neg staying, owned]
  dsimp only
  rw [run_backendOfThen, if_pos registered, run_actThen, run_actThen, run_actThen,
    run_keepingTry, run_attemptThen, succeeds _ ?_]
  · rfl
  · exact World.log_connections _ _ _ _

variable [u : Upheld (Keeps (Abides r h)) env]

theorem removeDevice_abides (quiet : Quiet env) (r' : RegistryId) (h' : DeviceHandle) :
    Holds (Keeps (Abides r h)) (removeDevice env r' h').run := by
  have calls := Abides.connectionCalls u quiet
  refine Abides.of_along (fun c => ?_) fun w lawful orderly => ?_
  · exact (GoesOn.together (Abides.upheldGoesOn u c) quiet).removeDevice r' h'
  have along : Along r h w.picture w := ⟨.refl orderly, lawful⟩
  cases hd : (w.registry r').device? h' with
  | none =>
      unfold removeDevice
      rw [run_deviceThen, hd]
      exact along
  | some d =>
      by_cases removing : d.state = .removing
      · unfold removeDevice
        rw [run_deviceThen, hd]
        dsimp only
        rw [if_pos removing]
        exact along.run (act (log _ _ _)).run
      cases hc : d.connection with
      | none =>
          unfold removeDevice
          rw [run_deviceThen, hd]
          dsimp only
          rw [if_neg removing, hc]
          refine finishRemoval_along quiet along.follows.toAlmost lawful (fun _ => along.follows) ?_
          rintro e he ⟨rfl, rfl⟩ - -
          obtain rfl := Option.some.inj (hd.symm.trans he)
          refine ⟨hc, ?_⟩
          rintro ⟨e, he, now, -⟩
          obtain rfl := Option.some.inj (hd.symm.trans he)
          exact removing now
      | some c =>
          by_cases registered : d.backend ∈ (w.registry r').backends
          swap
          · unfold removeDevice
            rw [run_deviceThen, hd]
            dsimp only
            rw [if_neg removing, hc]
            dsimp only
            rw [run_backendOfThen, if_neg registered]
            exact along
          have known : (w.connections.find? c).isSome := by
            have := orderly.own _ _ d c hd hc
            simp only [World.picture, Option.map_eq_some_iff] at this
            obtain ⟨x, hx, -⟩ := this
            simp [hx]
          have := Abides.upheldGoesOn u c
          rw [run_removeDevice known hd hc removing registered]
          have leaving : Along r h w.picture
              ((w.updateRegistry r' (·.updateDevice h' fun d => { d with state := .removing })).mark
                (.leaving r' h' c d.observer)) := by
            refine ⟨?_, GoesOn.lawful (fun c' => ?_) lawful⟩
            · rw [World.picture_mark, picture_updateEntry hd]
              exact .beginRemoval orderly hd hc removing
            · have rewritten : GoesOn c' w (w.updateRegistry r'
                  (·.updateDevice h' fun d => { d with state := .removing })) := .of_same rfl rfl
              exact rewritten.trans (.mark _ rfl (by simp))
          have logged := leaving.run (log .debug "Closing connection of removed device"
            [("device", h'.label), ("conn", c.label)])
          exact logged.run (keeping env (.backend d.backend) (Backend.stop env d.backend h' c).run)

theorem destroy_abides (r' : RegistryId) : Holds (Keeps (Abides r h)) (destroy env r').run := by
  refine ⟨fun w => ?_⟩
  unfold destroy
  rw [run_lookThen]
  dsimp only
  cases busyDevice? (w.registry r') with
  | some h' =>
      have warned : Holds (Keeps (Abides r h)) (do
          act (log .warn "Registry destroyed while a device is connected" [("device", h'.label)])
          throw (.busy ("device " ++ h'.label ++ " still connected")) :
            Try σ (Option Token)).run := inferInstance
      exact warned.holds w
  | none =>
      rw [run_actThen, run_modify]
      have rest : Holds (Keeps (Abides r h)) (do
          act (noteEnd r' (w.registry r').token)
          act (letGo env (w.registry r'))
          act (log .info "Registry destroyed" [])
          return (w.registry r').token : Try σ (Option Token)).run := inferInstance
      have closed : Abides r h w (w.updateRegistry r' fun x => { x with
          closed := true, discoveries := [], token := none, backends := [], devices := {} }) := by
        refine ⟨fun _ => .of_same rfl rfl, fun _ orderly => ?_⟩
        rw [w.picture_closeRegistry r' fun _ => ⟨rfl, rfl⟩]
        exact .retire orderly r'
      exact closed.trans (rest.holds _)

end Registry

/-! ## Devices are connected -/

theorem World.OnCourse.ongoing_iff (onCourse : w.OnCourse c)
    (known : (w.connections.find? c).isSome) :
    w.picture.Ongoing c ↔ (w.connection c).state ≠ .closed := by
  obtain ⟨x, hx⟩ := Option.isSome_iff_exists.mp known
  have found : w.connection c = x := World.connection_of_find? hx
  simp only [World.OnCourse, hx] at onCourse
  obtain ⟨fits, -⟩ := onCourse
  rw [found]
  change Underway (w.milestones c) ∧ ¬w.GivenUp c ↔ _
  constructor
  · rintro ⟨underway, spared⟩ closed
    simp only [Connection.Fits, closed] at fits
    obtain ⟨course, told | ⟨given, -⟩⟩ := fits
    · rw [told] at underway
      cases course <;> simp [Course.script, Underway] at underway
    · exact spared given
  · intro live
    refine ⟨?_, fits.not_givenUp live⟩
    obtain ⟨course, complete⟩ := fits.completed live
    have continues : Continues (w.milestones c) (if x.announced then .canceled else .connecting) := by
      refine ⟨course, ?_⟩
      rw [← complete]
      split
      · simp
      · exact List.prefix_append _ _
    exact continues.underway

theorem Launch.follows (launch : Launch (.entry r' h') c r h p w) (answered : ¬w.picture.Asking c)
    (settled : ∀ d, w.picture.entry r' h' = some d → d.connection = none →
      w.picture.Slot r' h' → ¬w.picture.Pending r' h' c) : Follows r h p w.picture := by
  refine launch.starts.follows answered fun _ slot d hd alone pending => ?_
  have here := launch.sink.symm.trans pending.1
  simp only [Option.some.injEq, Sink.entry.injEq] at here
  obtain ⟨rfl, rfl⟩ := here
  exact absurd pending (settled d hd alone slot)

namespace Fails

theorem follows {p' : Picture} (fails : Fails (.entry r' h') r h p p') (taken : p'.Taken r' h') :
    Follows r h p p' := by
  by_cases here : r' = r ∧ h' = h
  · obtain ⟨rfl, rfl⟩ := here
    exact fails.toAlmost.follows taken
  · exact fails.beside (by simpa using here)

end Fails

theorem Registry.settleFailure_along {f : Fault} {d₀ : Device} (orderly : p.Orderly)
    (hd₀ : p.entry r' h' = some d₀) (idle : d₀.state = .idle)
    (fails : Fails (.entry r' h') r h p w.picture) (lawful : w.Lawful) :
    Along r h p ((settleStart r' h' (.error f)).run.run w).2 := by
  unfold settleStart
  rw [run_lookThen]
  cases hd : (w.registry r').device? h' with
  | none => exact ⟨fails.follows (.of_unknown hd), lawful⟩
  | some d =>
      dsimp only
      rw [run_actThen, run_log]
      generalize hlogged : w.log .warn "Failed to start connection"
        [("device", h'.label), ("error", f.message)] = w₁
      have quietly : Quietly w w₁ := hlogged ▸ (Quietly.log _ _ _).holds w
      have lawful₁ := GoesOn.lawful quietly.goesOn lawful
      have hd₁ : (w₁.registry r').device? h' = some d := by
        change w₁.picture.entry r' h' = _
        rw [quietly.picture]
        exact hd
      rw [← quietly.picture] at fails
      split
      · next alone =>
          rw [Option.isNone_iff_eq_none] at alone
          rw [run_actThen, run_throw]
          refine ⟨?_, GoesOn.lawful (fun _ => .of_same rfl rfl) lawful₁⟩
          change Follows r h p (w₁.updateRegistry r' _).picture
          rw [picture_updateEntry hd₁]
          exact fails.toAlmost.reset orderly fails.leaving
            (fun apart => fails.beside (by simpa using apart)) hd₀ idle hd₁ alone
      · next owned =>
          refine ⟨fails.follows fun e he alone => ?_, lawful₁⟩
          obtain rfl := Option.some.inj (hd₁.symm.trans he)
          simp [alone] at owned

theorem Registry.settleSuccess_along (launch : Launch (.entry r' h') c r h p w)
    (answered : ¬w.picture.Asking c) :
    Along r h p ((settleStart r' h' (.ok c)).run.run w).2 := by
  have known : (w.connections.find? c).isSome := by
    have := launch.sink
    simp only [World.picture, Option.map_eq_some_iff] at this
    obtain ⟨x, hx, -⟩ := this
    simp [hx]
  have ongoing := launch.onCourse.ongoing_iff known
  unfold settleStart
  rw [run_lookThen]
  cases hd : (w.registry r').device? h' with
  | none =>
      refine ⟨launch.follows answered fun d hd' => ?_, launch.lawful⟩
      rw [show w.picture.entry r' h' = none from hd] at hd'
      contradiction
  | some d =>
      dsimp only
      split
      · next fits =>
          simp only [Bool.and_eq_true, Option.isNone_iff_eq_none, decide_eq_true_eq] at fits
          obtain ⟨⟨alone, -⟩, live⟩ := fits
          refine ⟨?_, GoesOn.lawful (fun _ => .of_same rfl rfl) launch.lawful⟩
          change Follows r h p (w.updateRegistry r' _).picture
          rw [picture_updateEntry hd]
          exact launch.starts.taken launch.sink answered (ongoing.mpr live) hd alone
      · next unfit =>
          refine ⟨launch.follows answered fun e he alone slot pending => unfit ?_, launch.lawful⟩
          obtain rfl := Option.some.inj (hd.symm.trans he)
          obtain ⟨-, -, waiting⟩ := slot.free d hd alone
          simp [alone, (waiting c pending).1, ongoing.mp pending.2]

theorem Registry.settleStart_along {started : Except Fault ConnectionId} {d₀ : Device}
    (orderly : p.Orderly) (hd₀ : p.entry r' h' = some d₀) (idle : d₀.state = .idle)
    (launches : Launches (.entry r' h') r h p (started, w)) :
    Along r h p ((settleStart r' h' started).run.run w).2 := by
  cases started with
  | error f =>
      obtain ⟨fails, lawful⟩ := launches
      exact settleFailure_along orderly hd₀ idle fails lawful
  | ok c =>
      obtain ⟨launch, answered⟩ := launches
      exact settleSuccess_along launch answered

theorem Outset.dialed (lawful : w.Lawful) (orderly : w.picture.Orderly) {d : Device}
    (hd : w.picture.entry r' h' = some d) (idle : d.state = .idle) {k : ControllerId}
    (appointed : w.picture.appointed k r' h') (quietly : Quietly (w.updateRegistry r'
      (·.updateDevice h' fun d => { d with state := .connecting, observer := some k })) w') :
    Outset (.entry r' h') r h w.picture w' := by
  have picture : w'.picture = w.picture.setEntry r' h'
      (some { d with state := .connecting, observer := some k }) :=
    quietly.picture.trans (Registry.picture_updateEntry hd _)
  have dials : Almost r h w.picture w'.picture := by
    rw [picture]
    exact .dial orderly hd idle appointed
  refine ⟨fun c new => ?_, { dials with leaving := ?_, beside := fun ne => ?_ }, ?_⟩
  · rw [picture] at new ⊢
    exact .dial orderly hd idle appointed new
  · rw [picture]
    rintro ⟨e, he, removing, alone⟩
    simp only [Picture.setEntry] at he
    split at he
    · obtain rfl := Option.some.inj he
      contradiction
    · exact ⟨e, he, removing, alone⟩
  · have orderly' := dials.orderly
    rw [picture] at orderly' ⊢
    exact .setEntry_of_ne orderly orderly' (by simpa using ne)
  · refine GoesOn.lawful quietly.goesOn (GoesOn.lawful (w := w) (fun _ => ?_) lawful)
    exact .of_same rfl rfl

variable [u : Upheld (Keeps (Abides r h)) env]

theorem Registry.connectDevice_along (lawful : w.Lawful) (orderly : w.picture.Orderly)
    {k : ControllerId}
    (appointed : ∀ d, (w.registry r').device? h' = some d → w.picture.appointed k r' h') :
    Along r h w.picture ((connectDevice env r' h' k).run.run w).2 := by
  have along : Along r h w.picture w := ⟨.refl orderly, lawful⟩
  unfold connectDevice
  rw [run_deviceThen]
  cases hd : (w.registry r').device? h' with
  | none => exact along
  | some d =>
      dsimp only
      split
      · exact along
      · next idle =>
          rw [ne_eq, Decidable.not_not] at idle
          rw [run_backendOfThen]
          split
          swap
          · exact along
          rw [run_lookThen, run_actThen, run_actThen, run_keepingTry, run_log]
          let dialed := w.updateRegistry r' (·.updateDevice h' fun d =>
            { d with state := .connecting, observer := some k })
          generalize hkept : World.reshare _ _ (.backend d.backend) = kept
          have quietly : Quietly dialed kept := by
            have logged := (Quietly.log .debug "Connecting device" [("device", h'.label),
              ("backend", d.backend.label), ("kind", (w.backend d.backend).kind.tag)]).holds dialed
            rw [← hkept]
            exact ⟨(World.picture_reshare _ _ _).trans logged.picture,
              fun c => (logged.goesOn c).trans (.of_same rfl rfl)⟩
          have outset : Outset (.entry r' h') r h w.picture kept :=
            .dialed lawful orderly hd idle (appointed d hd) quietly
          have launches := Backend.start_launches env outset d.backend h' d.info
            (w.registry r').agent
          rw [run_attemptThen]
          generalize (Backend.start env _ _ _ _ _).run.run kept = outcome at launches ⊢
          exact (settleStart_along orderly hd idle launches).run (release env (.backend d.backend))

theorem Controller.connect_abides (quiet : Quiet env) (k : ControllerId) :
    Holds (Keeps (Abides r h)) (connect env k).run := by
  refine Abides.of_along (fun c => ?_) fun w lawful orderly => ?_
  · exact (GoesOn.together (Abides.upheldGoesOn u c) quiet).connect k
  · have along : Along r h w.picture ((Registry.connectDevice env (w.controller k).registry
        (w.controller k).device k).run.run w).2 := by
      refine Registry.connectDevice_along lawful orderly fun d hd => ?_
      cases hx : w.controllers.find? k with
      | some x =>
          have found : w.controller k = x := World.controller_of_find? hx
          refine orderly.seated k _ _ ?_
          simp [World.picture, hx, found]
      | none =>
          have found : w.controller k = default := by simp [World.controller, Table.get, hx]
          rw [found] at hd
          have counted := (orderly.counted _ (orderly.served _ _ d hd)).1
          exact absurd counted (Nat.lt_irrefl 0)
    unfold connect
    rw [run_lookThen, run_onFailure]
    generalize (Registry.connectDevice env _ _ k).run.run w = outcome at along ⊢
    obtain ⟨result, w'⟩ := outcome
    cases result with
    | ok _ => exact along
    | error f => exact along.run (log _ _ _)

theorem Controller.send_abides (quiet : Quiet env) (k : ControllerId) (command : Command) :
    Holds (Keeps (Abides r h)) (send env k command).run := by
  refine Abides.of_along (fun c => ?_) fun w lawful orderly => ?_
  · exact (GoesOn.together (Abides.upheldGoesOn u c) quiet).command k command
  have along : Along r h w.picture w := ⟨.refl orderly, lawful⟩
  unfold send
  rw [run_lookThen, run_tryThen]
  unfold Registry.interfaceOf
  rw [run_deviceThen]
  cases hd : (w.registry (w.controller k).registry).device? (w.controller k).device with
  | none => exact along
  | some d =>
    cases hi : d.interface with
    | none =>
      dsimp only
      rw [hi]
      exact along
    | some i =>
      dsimp only
      rw [hi]
      have device : w.picture.device k =
          some ((w.controller k).registry, (w.controller k).device) := by
        cases hx : w.controllers.find? k with
        | some x =>
          have found : w.controller k = x := World.controller_of_find? hx
          simp [World.picture, hx, found]
        | none =>
          have found : w.controller k = default := by simp [World.controller, Table.get, hx]
          rw [found] at hd
          exact absurd (orderly.counted _ (orderly.served _ _ d hd)).1 (Nat.lt_irrefl 0)
      have appointed := orderly.seated k _ _ device
      have marked : Along r h w.picture (w.mark (.commanded k)) := by
        refine ⟨?_, GoesOn.lawful (fun c => .mark w rfl fun same => by cases same) lawful⟩
        rw [World.picture_mark]
        exact .commanded orderly appointed fun slot =>
          slot.entitled orderly hd (by simp [hi]) appointed (by simp [device])
      have : InterfaceCalls (Keeps (Abides r h)) env := Interface.calls_of_steps
      have sends : Holds (Keeps (Abides r h))
          (keepingTry env (.interface i) (Interface.send env i command)).run := inferInstance
      exact marked.after (sends.holds _)

/-! ## Whole runs -/

namespace Abides

omit u

theorem registryCalls (u : Upheld (Keeps (Abides r h)) env) (quiet : Quiet env) :
    RegistryCalls (Keeps (Abides r h)) env where
  addDevice := Registry.addDevice_abides
  removeDevice := Registry.removeDevice_abides quiet
  connect := Controller.connect_abides quiet
  destroy := Registry.destroy_abides
  start := Backend.start_abides quiet

instance alone : Alone (Keeps (σ := σ) (Abides r h)) where

theorem together (u : Upheld (Keeps (Abides r h)) env) (quiet : Quiet env) :
    Together (Keeps (Abides r h)) env := by
  have := connectionCalls u quiet
  have := registryCalls u quiet
  have : InterfaceCalls (Keeps (Abides r h)) env := Interface.calls_of_steps
  have : InterfaceRetries (Keeps (Abides r h)) env := Interface.retries_of_steps
  have : LoopCalls (Keeps (Abides r h)) env := Loop.calls_of_steps
  have : CommandCalls (Keeps (Abides r h)) env := ⟨Controller.send_abides quiet⟩
  exact {}

end Abides

end DroneControl
