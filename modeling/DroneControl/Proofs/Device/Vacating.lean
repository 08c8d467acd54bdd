import DroneControl.Proofs.Device.Following

/-!
# Between the end of a connection and the word to the listener

When its connection has ended, the entry of a device is cleared and its command interface closed, and
then the controller that asked for the connection passes the end on.  Nobody else acts until the listener
is told, so what the listener finds is known.
-/

namespace DroneControl

variable {σ : Type} {r : RegistryId} {h : DeviceHandle} {c : ConnectionId} {w : World σ} {env : Env σ}

namespace World

def vacate (w : World σ) (r : RegistryId) (h : DeviceHandle) (c : ConnectionId)
    (event : ConnectionEvent) (d : Device) : World σ :=
  ((w.reshare (· + 1) (.registry r)).heed r h c event d).updateRegistry r (·.setDevice h d.cleared)

variable (event : ConnectionEvent)

theorem vacate_connections (w : World σ) (r : RegistryId) (h : DeviceHandle) (d : Device) :
    (w.vacate r h c event d).connections = w.connections := rfl

theorem vacate_backends (w : World σ) (r : RegistryId) (h : DeviceHandle) (d : Device) :
    (w.vacate r h c event d).backends = w.backends := rfl

theorem vacate_controllers (w : World σ) (r : RegistryId) (h : DeviceHandle) (d : Device) :
    (w.vacate r h c event d).controllers = w.controllers := rfl

variable {d e : Device}

theorem device?_setDevice (hd : (w.registry r).device? h = some d) (e : Device) :
    ((w.updateRegistry r (·.setDevice h e)).registry r).device? h = some e := by
  change (w.updateRegistry r (·.setDevice h e)).picture.entry r h = _
  rw [Entry.picture_setDevice hd, Picture.setEntry_self]

theorem device?_vacate (hd : (w.registry r).device? h = some d) (e : Device) :
    ((w.vacate r h c event e).registry r).device? h = some e.cleared :=
  device?_setDevice (device?_setDevice ((Entry.device?_reshare w _ _).trans hd) e) e.cleared

theorem registry_backends_vacate (w : World σ) (r : RegistryId) (h : DeviceHandle) (d : Device) :
    ((w.vacate r h c event d).registry r).backends = (w.registry r).backends := by
  simp only [vacate, heed, mark, registry, reshare, updateRegistry, Table.get, Table.find?_update,
    if_true]
  cases w.registries.find? r <;> rfl

end World

def ConnectionEvent.passed? : ConnectionEvent → Option (Bool → DeviceEvent)
  | .disconnected => some .disconnected
  | .canceled reason => some (.canceled reason)
  | _ => none

theorem ConnectionEvent.endsSending_passed {event : ConnectionEvent} {passed : Bool → DeviceEvent}
    (ends : event.passed? = some passed) (removing : Bool) :
    Controller.endsSending (passed removing) := by
  cases event with
  | disconnected =>
    obtain rfl := Option.some.inj ends
    rfl
  | canceled _ =>
    obtain rfl := Option.some.inj ends
    rfl
  | _ => cases ends

namespace Entry

variable {d e : Device}

theorem run_noteMissing (hd : (w.registry r).device? h = some d) :
    (noteMissing r h).run w = ((), w) := by
  unfold noteMissing
  rw [run_bind, run_get, hd]
  rfl

variable (env) in
theorem run_closed (hd : (w.registry r).device? h = some d) (claims : d.claim c = some e)
    (event : ConnectionEvent) (passed : Bool → DeviceEvent) :
    (closed env r h c event passed).run w =
      (do
        Controller.notify? env e.observer c (passed (e.state = .removing))
        if e.state = .removing then Registry.finishRemoval env r h
        release env (.registry r) : Act σ Unit).run
          ((dropInterface env e).run (w.vacate r h c event e)).2 := by
  have kept : ((w.reshare (· + 1) (.registry r)).registry r).device? h = some d :=
    (device?_reshare w _ _).trans hd
  unfold closed
  rw [run_ifKept, if_pos (by simp [World.isKept, World.item?, World.find?_of_entry hd]),
    run_keeping, run_bind_of (run_noteMissing kept), run_bind_of (run_claim_of event _ kept claims)]
  unfold clear World.vacate
  simp only [run_bind, run_modify]
  split <;> rfl

variable (env) in
theorem run_pass (hd : (w.registry r).device? h = some d) (claims : d.claim c = some e)
    (event : ConnectionEvent) (passed : DeviceEvent) :
    (pass env r h c event passed).run w = (Controller.notify? env e.observer c passed).run
      (((w.reshare (· + 1) (.registry r)).heed r h c event e).reshare (· - 1) (.registry r)) := by
  unfold pass
  rw [run_bind_of (run_keptClaim_of env event _ hd claims)]
  rfl

variable (env) in
theorem run_follow {event : ConnectionEvent} {passed : Bool → DeviceEvent}
    (ends : event.passed? = some passed) :
    ∃ message fields, (follow env r h c event).run w =
      (closed env r h c event passed).run (w.log .debug message fields) := by
  cases event with
  | disconnected =>
    obtain rfl := Option.some.inj ends
    exact ⟨_, _, rfl⟩
  | canceled reason =>
    obtain rfl := Option.some.inj ends
    exact ⟨_, _, rfl⟩
  | _ => cases ends

end Entry

theorem World.sink_updateConnection (w : World σ) (c : ConnectionId) {f : Connection → Connection}
    (same : ∀ x, (f x).sink = x.sink) :
    ((w.updateConnection c f).connection c).sink = (w.connection c).sink := by
  simp only [World.connection, World.updateConnection, Table.get, Table.find?_update, if_true]
  cases w.connections.find? c with
  | none => rfl
  | some x => exact same x

namespace Connection

/-- The connection is closed, and what was left of its course is about to be told. -/
def abandoned (w : World σ) (c : ConnectionId) : World σ :=
  w.updateConnection c fun x => { x.closed with announced := true }

/-- Brought to its end, a connection comes to the world in which the event that ends it is told. -/
inductive Closes (env : Env σ) (c : ConnectionId) (w : World σ) :
    Act σ Unit → World σ → ConnectionEvent → Prop where
  | concluded : Closes env c w (conclude env c)
      ((w.updateConnection c closed).log .debug "Disconnected" (fields w c)) .disconnected
  | abandoned (reason : CancelReason) (announced : (w.connection c).announced) :
      Closes env c w (abandon env c reason) ((abandoned w c).log .debug "Canceled"
        (fields w c ++ [("reason", reason.name)])) (.canceled reason)
  | unannounced (reason : CancelReason) (silent : (w.connection c).announced = false) :
      Closes env c w (abandon env c reason)
        (((tell env c .connecting).run (abandoned w c)).2.log .debug "Canceled"
          (fields w c ++ [("reason", reason.name)])) (.canceled reason)

namespace Closes

variable {a : Act σ Unit} {w' : World σ} {event : ConnectionEvent}

theorem run (closes : Closes env c w a w' event) :
    a.run w = (do
      tell env c event
      tearDown env c (w.connection c).pipe).run w' := by
  cases closes with
  | concluded =>
    unfold conclude
    rw [run_bind, run_get, run_bind, run_modify, run_bind, run_log]
  | abandoned reason announced =>
    unfold abandon
    rw [run_bind, run_get, run_bind, run_modify]
    simp only [announced, if_true]
    rw [run_bind, run_log]
    rfl
  | unannounced reason silent =>
    unfold abandon
    rw [run_bind, run_get, run_bind, run_modify]
    simp only [silent, Bool.false_eq_true, if_false]
    rw [run_bind, run_bind, run_log]
    rfl

theorem passes (closes : Closes env c w a w' event) : ∃ passed, event.passed? = some passed := by
  cases closes <;> exact ⟨_, rfl⟩

theorem closed [Upheld (Keeps (GoesOn c)) env] (closes : Closes env c w a w' event)
    (known : (w.connections.find? c).isSome) : (w'.connection c).state = .closed := by
  obtain ⟨x, hx⟩ := Option.isSome_iff_exists.mp known
  have shut : ∀ f : Connection → Connection, (f x).state = .closed ∧ (f x).pipe = none →
      (w.updateConnection c f).Over c (w.milestones c) := fun f closes =>
    ⟨f x, by simp [World.updateConnection, Table.find?_update, hx], closes.1, rfl, closes.2⟩
  have closing : ∃ told, w'.Over c told := by
    cases closes with
    | concluded => exact ⟨_, log_over (shut Connection.closed ⟨rfl, rfl⟩) _ _ _⟩
    | abandoned => exact ⟨_, log_over (shut _ ⟨rfl, rfl⟩) _ _ _⟩
    | unannounced => exact ⟨_, log_over (tell_over (shut _ ⟨rfl, rfl⟩) _) _ _ _⟩
  obtain ⟨-, y, hy, shut, -⟩ := closing
  simpa [World.connection, Table.get, hy] using shut

end Closes

end Connection

end DroneControl
