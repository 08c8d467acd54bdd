import DroneControl.Proofs.Device.Order

/-!
# Entries that are written over

An entry that is in the table is written over as its connection goes on, but stays the entry of the same
device.  For a relation that allows for that, following a connection comes down to how it ends and what
becomes of a device that is taken off the table.
-/

set_option synthInstance.maxSize 2048

namespace DroneControl

variable {σ : Type} {r : RegistryId} {h : DeviceHandle} {w : World σ} {env : Env σ}

/-- Two entries are about a device of one name and type, on one backend. -/
structure Device.Alike (d e : Device) : Prop where
  name : e.info.name = d.info.name
  deviceType : e.info.deviceType = d.info.deviceType
  backend : e.backend = d.backend

namespace Device.Alike

theorem refl (d : Device) : d.Alike d := ⟨rfl, rfl, rfl⟩

theorem trans {d e f : Device} (first : d.Alike e) (second : e.Alike f) : d.Alike f :=
  ⟨second.name.trans first.name, second.deviceType.trans first.deviceType,
    second.backend.trans first.backend⟩

theorem of_retains {f : Device → Device} [retains : Retains f] (d : Device) : d.Alike (f d) := by
  obtain ⟨info, backend⟩ := retains.same d
  exact ⟨by rw [info], by rw [info], backend⟩

theorem of_claim {d e : Device} {c : ConnectionId} (claims : d.claim c = some e) : d.Alike e := by
  rw [(Device.claim_eq_some claims).2]
  exact ⟨rfl, rfl, rfl⟩

end Device.Alike

class Device.Connects (A : Device → Device → Prop) : Prop where
  claim : ∀ {d e : Device} {c : ConnectionId}, d.claim c = some e → A d e
  established : ∀ (d : Device) (p : PipeId) (api : DeviceApi), A d (Entry.established d p api)
  equipped : ∀ (d : Device) (i : InterfaceId), A d { d with interface := some i }

instance Device.Alike.connects : Connects Alike where
  claim := .of_claim
  established _ _ _ := ⟨rfl, rfl, rfl⟩
  equipped _ _ := ⟨rfl, rfl, rfl⟩

class Rewrites (A : outParam (Device → Device → Prop)) (R : World σ → World σ → Prop) : Prop
    extends Device.Connects A where
  trans : ∀ {w₁ w₂ w₃ : World σ}, R w₁ w₂ → R w₂ w₃ → R w₁ w₃
  rewrite : ∀ {w : World σ} {r : RegistryId} {h : DeviceHandle} {d : Device},
    (w.registry r).device? h = some d → ∀ e, A d e → R w (w.updateRegistry r (·.setDevice h e))
  mark : ∀ (w : World σ) (o : Occurrence), o.topic ∈ [.device, .hearing, .notice] → R w (w.mark o)

namespace World

theorem updateDevice_of_some {d : Device} (hd : (w.registry r).device? h = some d)
    (f : Device → Device) :
    w.updateRegistry r (·.updateDevice h f) = w.updateRegistry r (·.setDevice h (f d)) := by
  refine congrArg (fun registries => { w with registries }) (Table.update_congr fun x found => ?_)
  rw [registry_of_find? found] at hd
  simp only [Registry.updateDevice, hd]

theorem updateDevice_of_none (hd : (w.registry r).device? h = none) (f : Device → Device) :
    w.updateRegistry r (·.updateDevice h f) = w.updateRegistry r id := by
  refine congrArg (fun registries => { w with registries }) (Table.update_congr fun x found => ?_)
  rw [registry_of_find? found] at hd
  simp only [Registry.updateDevice, hd, id]

end World

variable {R : World σ → World σ → Prop} [g : Base (Keeps R)]

namespace Rewrites

theorem update {A : Device → Device → Prop} [s : Rewrites A R] (w : World σ) {f : Device → Device}
    (changes : ∀ d, (w.registry r).device? h = some d → A d (f d)) :
    R w (w.updateRegistry r (·.updateDevice h f)) := by
  cases hd : (w.registry r).device? h with
  | none =>
    rw [World.updateDevice_of_none hd]
    exact g.registry r id .refl w
  | some d =>
    rw [World.updateDevice_of_some hd]
    exact s.rewrite hd _ (changes d hd)

instance entryNotes [s : Rewrites Device.Alike R] : EntryNotes (Keeps R) where
  updateDevice _ _ _ _ := ⟨fun w => update w fun d _ => .of_retains d⟩
  leaving _ _ _ _ := ⟨fun w => s.mark w _ (by simp [Occurrence.topic])⟩

variable {A : Device → Device → Prop} [s : Rewrites A R]

instance interfaceNotes : InterfaceNotes (Keeps R) where
  giveInterface _ _ i := ⟨fun w => update w fun d _ => s.equipped d i⟩

instance notices (c : ConnectionId) (event : DeviceEvent) : Notices (Keeps R) c event where
  noticed _ _ := ⟨fun w => s.mark w _ (by simp [Occurrence.topic])⟩

end Rewrites

namespace Entry

variable {c : ConnectionId} {event : ConnectionEvent} {A : Device → Device → Prop}
  [s : Rewrites A R]

include s

theorem run_claim_holds (complaint : String) (w : World σ) :
    R w ((claim complaint r h c event).run w).2 ∧
      ∀ d, ((claim complaint r h c event).run w).1 = some d →
        (((claim complaint r h c event).run w).2.registry r).device? h = some d := by
  have ignored : R w (w.mark (.ignored r h c event)) := s.mark w _ (by simp [Occurrence.topic])
  rw [run_claim]
  cases hd : (w.registry r).device? h with
  | none =>
    refine ⟨ignored, ?_⟩
    rintro _ ⟨⟩
  | some d =>
    dsimp only
    cases claims : d.claim c with
    | none =>
      have logged : Holds (Keeps R) (log .warn complaint [("device", h.label), ("conn", c.label)]) :=
        inferInstance
      refine ⟨s.trans ignored (logged.holds _), ?_⟩
      rintro _ ⟨⟩
    | some e =>
      have set := s.rewrite hd e (s.claim claims)
      refine ⟨s.trans set (s.mark _ _ (by simp [Occurrence.topic])), ?_⟩
      rintro _ ⟨⟩
      change ((w.updateRegistry r (·.setDevice h e)).registry r).device? h = some e
      rw [World.registry_updateRegistry (World.find?_of_entry hd), if_pos rfl,
        Registry.device?_setDevice, if_pos rfl]

instance claim_keeps (complaint : String) : Holds (Keeps R) (claim complaint r h c event) :=
  ⟨fun w => (run_claim_holds complaint w).1⟩

theorem claimThen_holds (complaint : String) {next : Device → Act σ Unit}
    (entry : ∀ d w, (w.registry r).device? h = some d → R w ((next d).run w).2) :
    Holds (Keeps R) (do
      match ← claim complaint r h c event with
      | none => return
      | some d => next d) := by
  refine ⟨fun w => ?_⟩
  obtain ⟨claimed, there⟩ : R w ((claim complaint r h c event).run w).2 ∧ _ :=
    run_claim_holds complaint w
  rw [run_bind]
  cases found : ((claim complaint r h c event).run w).1 with
  | none => exact claimed
  | some d => exact s.trans claimed (entry d _ (there d found))

variable [Upheld (Keeps R) env] [InterfaceLives (Keeps R)] [TimerLives (Keeps R)]

theorem connected_keeps (p : PipeId) (api : DeviceApi) : Holds (Keeps R) (connected env r h c p api) := by
  have established : Holds (Keeps R) (do
      match ← claim "Connected from a stale connection ignored" r h c (.connected p api) with
      | none => return
      | some d => establish env r h c p api d) := by
    refine claimThen_holds _ fun d w hd => ?_
    have rest : Holds (Keeps R) (do
        log .debug "Device connected" [("device", h.label), ("api", api.name)]
        Controller.notify? env d.observer c (.connected api)) := inferInstance
    unfold establish
    rw [run_bind, run_modify]
    exact s.trans (s.rewrite hd (established d p api) (s.established d p api)) (rest.holds _)
  unfold connected
  infer_instance

theorem calls_of_clear
    (clears : ∀ r h c passed d (w : World σ), (w.registry r).device? h = some d →
      R w ((clear env r h c passed d).run w).2) : EntryCalls (Keeps R) env where
  follow r h c event := by
    have passes : ∀ event passed, Holds (Keeps R) (pass env r h c event passed) := fun _ _ => by
      unfold pass
      infer_instance
    have connects : ∀ p api, Holds (Keeps R) (connected env r h c p api) :=
      fun p api => connected_keeps p api
    have closes : ∀ event passed, Holds (Keeps R) (closed env r h c event passed) := by
      intro event passed
      have noted : Holds (Keeps R) (noteMissing r h) := by
        unfold noteMissing
        infer_instance
      have cleared : Holds (Keeps R) (do
          match ← claim "Close of a stale connection ignored" r h c event with
          | none => return
          | some d => clear env r h c passed d) := claimThen_holds _ (clears r h c passed)
      unfold closed
      infer_instance
    unfold follow
    cases event <;> infer_instance

omit s in
theorem calls_of_rewrites [s : Rewrites Device.Alike R]
    [∀ r h, Holds (Keeps R) (Registry.finishRemoval env r h)] : EntryCalls (Keeps R) env := by
  refine calls_of_clear fun r h c passed d w hd => ?_
  have dropped : Holds (Keeps R) (dropInterface env d) := by
    unfold dropInterface
    split <;> infer_instance
  have rest : Holds (Keeps R) (do
      dropInterface env d
      Controller.notify? env d.observer c (passed (d.state = .removing))
      if d.state = .removing then Registry.finishRemoval env r h) := inferInstance
  unfold clear
  rw [run_bind, run_modify]
  exact s.trans (s.rewrite hd d.cleared ⟨rfl, rfl, rfl⟩) (rest.holds _)

end Entry

end DroneControl
