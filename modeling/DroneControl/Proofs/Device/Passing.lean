import DroneControl.Proofs.Device.Abiding

/-!
# How a controller passes on

A controller stops its timer or makes the command interface of its device before it passes an event
on.  Nobody else may act until then, and what comes afterwards abides by the slot like everything else.
-/

namespace DroneControl

open Picture

variable {σ : Type} {r r' : RegistryId} {h h' : DeviceHandle} {p : Picture} {env : Env σ}

/-! ## The command interface of a device -/

theorem Interface.run_create (device : DeviceHandle) (pipe : PipeId) (sink : CommandSink)
    (traceCell : TraceCellId) (w : World σ) :
    ∃ w' : World σ,
      (create device pipe sink traceCell).run w = (⟨w.interfaces.next⟩, w') ∧
        w'.interfaces = (w.interfaces.add { device, pipe, sink, traceCell }).2 ∧
        w'.connections = w.connections ∧ w'.history = w.history ∧
        w'.registries = w.registries ∧ w'.controllers = w.controllers := by
  refine ⟨_, rfl, ?_⟩
  simp only [World.log]
  split <;> exact ⟨rfl, rfl, rfl, rfl, rfl⟩

namespace Registry

theorem run_createInterface {w : World σ} {d : Device} {pipe : PipeId}
    (hd : (w.registry r').device? h' = some d) (bare : d.interface = none)
    (piped : d.pipe = some pipe) (sink : CommandSink) :
    ∃ (i : InterfaceId) (w' : World σ),
      (createInterface r' h' sink).run.run w = (.ok i, w') ∧
        w'.picture = w.picture.setEntry r' h' (some { d with interface := some i }) ∧
        w'.connections = w.connections ∧ w'.history = w.history ∧ w'.controllers = w.controllers ∧
        ∃ x, w'.interfaces.find? i = some x ∧ x.sharers = 1 ∧ x.closed = false := by
  obtain ⟨made, runs, interfaces, connections, history, registries, controllers⟩ :=
    Interface.run_create h' pipe sink (w.registry r').traceCell w
  have here : made.registries.find? r' = some (w.registry r') :=
    registries ▸ World.find?_of_entry hd
  let given := made.updateRegistry r'
    (·.updateDevice h' fun d => { d with interface := some ⟨w.interfaces.next⟩ })
  refine ⟨⟨w.interfaces.next⟩, given.reshare (· + 1) (.interface ⟨w.interfaces.next⟩), ?_, ?_,
    connections, history, controllers, ?_⟩
  · unfold createInterface
    rw [run_deviceThen, hd]
    simp only [bare, piped, Option.isSome_none, Bool.false_eq_true, if_false]
    simp only [run_lookThen, run_actThen, runs, run_modify, retain]
    rfl
  · rw [World.picture_reshare, World.picture_setEntry made here (h := h')
      (d := some { d with interface := some ⟨w.interfaces.next⟩ }) ?_ ?_]
    · rw [World.picture_congr connections history registries controllers]
    · intro h''
      rw [device?_updateDevice, hd]
      rfl
    · simp [updateDevice, hd, setDevice]
  · let y : Interface := { device := h', pipe, sink, traceCell := (w.registry r').traceCell }
    refine ⟨{ y with sharers := 1 }, ?_, rfl, rfl⟩
    change (made.interfaces.update ⟨w.interfaces.next⟩ _).find? ⟨w.interfaces.next⟩ = _
    rw [Table.find?_update, if_pos rfl, interfaces, Table.find?_add, if_pos rfl]
    rfl

end Registry

/-! ## Controllers pass on -/

namespace World

variable (w : World σ)

def present (k : Option ControllerId) : Option ControllerId :=
  k.filter fun k => (w.controllers.find? k).isSome

theorem present_eq_some {w : World σ} {k : Option ControllerId} {k' : ControllerId} :
    w.present k = some k' ↔ k = some k' ∧ (w.picture.device k').isSome := by
  simp [present, Option.filter_eq_some_iff, picture]

theorem present_eq_none {w : World σ} {k : Option ControllerId} (gone : w.present k = none)
    {k' : ControllerId} (hk : k = some k') : w.picture.device k' = none := by
  subst hk
  simpa [present, picture] using gone

end World

namespace Controller

theorem run_stopTimer (k : ControllerId) (w : World σ) :
    ∃ stopped w', (stopTimer k).run w = (stopped, w') ∧ w'.picture = w.picture ∧
      ∀ c, GoesOn c w w' := by
  have unseen : (w.mark (.stilled k)).picture = w.picture := by
    rw [World.picture_mark]
    exact Picture.after_aside _ (by simp [Occurrence.topic])
  have marked : ∀ c, GoesOn c w (w.mark (.stilled k)) := fun _ => .mark w rfl nofun
  unfold stopTimer
  rw [run_bind, run_mark, run_bind, run_get]
  dsimp only
  cases ((w.mark (.stilled k)).controller k).timer with
  | none => exact ⟨_, _, rfl, unseen, marked⟩
  | some t =>
      dsimp only
      rw [run_bind, run_modify, run_bind, run_bind]
      refine ⟨_, _, rfl, ?_, fun c => (marked c).trans
        (.of_same (World.log_connections _ _ _ _) (World.log_history _ _ _ _))⟩
      rw [run_log, World.picture_log]
      refine .trans ?_ unseen
      exact World.picture_updateController (w.mark (.stilled k)) (f := fun x => { x with timer := none })
        k fun _ => ⟨rfl, rfl⟩

variable (env) in
theorem run_prepare (k : ControllerId) {event : DeviceEvent} (plain : ∀ api, event ≠ .connected api)
    (w : World σ) :
    ∃ w', (prepare env k event).run w = ((), w') ∧ w'.picture = w.picture ∧
      ∀ c, GoesOn c w w' := by
  obtain ⟨stopped, w', runs, same⟩ := run_stopTimer k w
  have prepares : (prepare env k event).run w =
      (if endsSending event then discard (stopTimer k) else pure ()).run w := by
    cases event with
    | connected api => exact absurd rfl (plain api)
    | _ => rfl
  rw [prepares]
  split
  · refine ⟨w', ?_, same⟩
    change ((), ((stopTimer k).run w).2) = _
    rw [runs]
  · exact ⟨w, rfl, rfl, fun _ => .refl w⟩

variable [u : Upheld (Keeps (Abides r h)) env]

theorem notify_along {w w' : World σ} {k : ControllerId} {c : ConnectionId} {event : DeviceEvent}
    (kept : (w.controllers.find? k).isSome)
    (prepares : (prepare env k event).run (w.reshare (· + 1) (.controller k)) = ((), w'))
    (lawful : w'.Lawful)
    (follows : Follows r h p (w'.picture.after (.noticed k c event (isReady w' k)))) :
    Along r h p ((notify env k c event).run w).2 := by
  have isKept : w.isKept (.controller k) := by
    simpa [World.isKept, World.item?] using kept
  have marked : Along r h p (w'.mark (.noticed k c event (isReady w' k))) := by
    refine ⟨by rwa [World.picture_mark], GoesOn.lawful (fun c' => ?_) lawful⟩
    exact .mark w' rfl fun same => by cases same
  unfold notify
  rw [run_ifKept, if_pos isKept, run_keeping]
  rw [run_bind_of prepares, run_bind, run_get, run_bind, run_mark, run_bind, run_get]
  exact (marked.after (u.tell _ _ _)).run (release env (.controller k))

variable (env) in
theorem notify?_along {w : World σ} {k : Option ControllerId} {c : ConnectionId}
    {e : DeviceEvent} (plain : ∀ api, e ≠ .connected api) (lawful : w.Lawful) :
    ∃ ready, (w.picture.notice (w.present k) c e ready).Orderly →
      Along r h (w.picture.notice (w.present k) c e ready) ((notify? env k c e).run w).2 := by
  cases k with
  | none => exact ⟨true, fun orderly => ⟨.refl orderly, lawful⟩⟩
  | some k =>
      by_cases kept : (w.controllers.find? k).isSome
      · obtain ⟨prepared, prepares, picture, goesOn⟩ :=
          run_prepare env k plain (w.reshare (· + 1) (.controller k))
        have present : w.present (some k) = some k := by simp [World.present, kept]
        rw [present]
        refine ⟨isReady prepared k, fun orderly => notify_along kept prepares ?_ ?_⟩
        · exact GoesOn.lawful (fun c => .trans (.of_same rfl rfl) (goesOn c)) lawful
        · rw [picture, World.picture_reshare]
          exact .refl orderly
      · have gone : w.present (some k) = none := by simpa [World.present] using kept
        rw [gone]
        refine ⟨true, fun orderly => ?_⟩
        change Along r h _ ((notify env k c e).run w).2
        unfold notify
        rw [run_ifKept, if_neg (by simpa [World.isKept, World.item?] using kept)]
        exact ⟨.refl orderly, lawful⟩

variable (env) in
omit u in
theorem run_openInterface {w : World σ} {k : ControllerId} {x : Controller} {d : Device}
    {pipe : PipeId} (hx : w.controllers.find? k = some x)
    (hd : (w.registry x.registry).device? x.device = some d) (bare : d.interface = none)
    (piped : d.pipe = some pipe) :
    ∃ (i : InterfaceId) (w' : World σ), (openInterface env k).run w = ((), w') ∧
      w'.picture = w.picture.setEntry x.registry x.device (some { d with interface := some i }) ∧
      w'.connections = w.connections ∧ w'.history = w.history ∧ isReady w' k = true := by
  obtain ⟨i, given, runs, picture, connections, history, controllers, y, hy, shared, opened⟩ :=
    Registry.run_createInterface hd bare piped (.controller k)
  have found : w.controller k = x := World.controller_of_find? hx
  have item : given.item? (.interface i) = some (.interface y) := by simp [World.item?, hy]
  refine ⟨i, given.reshare (· - 1) (.interface i), ?_, ?_, connections, history, ?_⟩
  · unfold openInterface
    rw [run_bind, run_get, found, run_recover, run_tryThen, runs]
    dsimp only
    rw [run_act, run_release item (by simp [Item.sharers, shared])]
  · rw [World.picture_reshare, picture]
  · have entry : (given.registry x.registry).device? x.device =
        some { d with interface := some i } := by
      change given.picture.entry x.registry x.device = _
      rw [picture, setEntry_self]
    have still : given.controllers.find? k = some x := by rw [controllers, hx]
    have shown : ((given.reshare (· - 1) (.interface i)).interface i).closed = false := by
      change ((given.interfaces.update i _).get i).closed = false
      simp [Table.get, Table.find?_update, hy, opened]
    have seat : (given.reshare (· - 1) (.interface i)).controller k = x := by
      change given.controllers.get k = x
      simp [Table.get, still]
    have slot : ((given.reshare (· - 1) (.interface i)).registry x.registry).device? x.device =
        some { d with interface := some i } := entry
    unfold isReady
    simp only [seat, slot, Option.bind_some, shown, Bool.not_false]

variable (env) in
omit u in
theorem run_openInterface_busy {w : World σ} {k : ControllerId} {x : Controller} {d : Device}
    (hx : w.controllers.find? k = some x)
    (hd : (w.registry x.registry).device? x.device = some d) (busy : d.interface.isSome) :
    ∃ w', (openInterface env k).run w = ((), w') ∧ w'.picture = w.picture ∧
      w'.connections = w.connections ∧ w'.history = w.history := by
  have found : w.controller k = x := World.controller_of_find? hx
  have fails : (Registry.createInterface x.registry x.device (.controller k)).run.run w =
      (.error (.busy ("device " ++ x.device.label ++ " already has a command interface")), w) := by
    unfold Registry.createInterface
    rw [run_deviceThen, hd]
    dsimp only
    rw [busy, if_pos rfl]
    rfl
  unfold openInterface
  rw [run_bind, run_get, found, run_recover, run_tryThen, fails]
  exact ⟨_, rfl, w.picture_log _ _ _, w.log_connections _ _ _, w.log_history _ _ _⟩

theorem notify?_connected_along {w : World σ} {k : Option ControllerId} {c : ConnectionId}
    {api : DeviceApi} {d : Device} {pipe : PipeId} (hd : (w.registry r').device? h' = some d)
    (piped : d.pipe = some pipe) (lawful : w.Lawful)
    (seated : ∀ k', k = some k' → ∀ x, w.controllers.find? k' = some x →
      x.registry = r' ∧ x.device = h')
    (nobody : w.present k = none → Follows r h p w.picture)
    (opened : ∀ k' i, w.present k = some k' → d.interface = none →
      Follows r h p ((w.picture.setEntry r' h' (some { d with interface := some i })).after
        (.noticed k' c (.connected api) true)))
    (busy : ∀ k' ready, w.present k = some k' → d.interface.isSome →
      Follows r h p (w.picture.after (.noticed k' c (.connected api) ready))) :
    Along r h p ((notify? env k c (.connected api)).run w).2 := by
  cases k with
  | none => exact ⟨nobody rfl, lawful⟩
  | some k =>
      cases hx : w.controllers.find? k with
      | none =>
          change Along r h p ((notify env k c (.connected api)).run w).2
          unfold notify
          rw [run_ifKept, if_neg (by simp [World.isKept, World.item?, hx])]
          exact ⟨nobody (by simp [World.present, hx]), lawful⟩
      | some x =>
          obtain ⟨rfl, rfl⟩ := seated k rfl x hx
          have present : w.present (some k) = some k := by simp [World.present, hx]
          let kept := w.reshare (· + 1) (.controller k)
          have row : kept.controllers.find? k = some { x with sharers := x.sharers + 1 } := by
            change (w.controllers.update k _).find? k = _
            simp [Table.find?_update, hx]
          have same : kept.picture = w.picture := w.picture_reshare _ _
          cases hi : d.interface with
          | none =>
              obtain ⟨i, w', runs, picture, connections, history, ready⟩ :=
                run_openInterface env row hd hi piped
              refine notify_along (by simp [hx]) runs ?_ ?_
              · exact GoesOn.lawful (fun c' => .of_same connections history) lawful
              · rw [picture, ready, same]
                exact opened k i present hi
          | some i =>
              obtain ⟨w', runs, picture, connections, history⟩ :=
                run_openInterface_busy env row hd (by simp [hi])
              refine notify_along (by simp [hx]) runs ?_ ?_
              · exact GoesOn.lawful (fun c' => .of_same connections history) lawful
              · rw [picture, same]
                exact busy k _ present (by simp [hi])

end Controller

end DroneControl
