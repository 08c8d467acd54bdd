import DroneControl.Proofs.Device.Following
import DroneControl.Proofs.Interface.Silence

/-!
# What comes before the word that a connection is over

The listener of a controller is told that a connection is over when the entry of the device has taken
notice and the command interface that was open then has closed.
-/

set_option synthInstance.maxSize 2048

namespace DroneControl

variable {σ : Type} {w w' : World σ} {env : Env σ}

def Severed (k : ControllerId) (c : ConnectionId) (past : List Happening) : Prop :=
  ∃ r h event i, Occurred (.heeded r h c event (some k) i) past ∧ event.ends ∧
    ∀ i', i = some i' → Occurred (.closed i') past

theorem Severed.later {k : ControllerId} {c : ConnectionId} {past past' : List Happening}
    (severed : Severed k c past) (le : past ⊆ past') : Severed k c past' := by
  obtain ⟨r, h, event, i, ⟨t, heeded⟩, ends, closed⟩ := severed
  refine ⟨r, h, event, i, ⟨t, le heeded⟩, ends, fun i' open_ => ?_⟩
  obtain ⟨t', closed⟩ := closed i' open_
  exact ⟨t', le closed⟩

def Foretells (w w' : World σ) : Prop :=
  ∃ more, w'.history = more ++ w.history ∧ ∀ after t k c event ready before,
    more = after ++ ⟨t, .noticed k c event ready⟩ :: before → event.end?.isSome →
      Severed k c (before ++ w.history)

namespace Foretells

theorem single {o : Occurrence} (severed : ∀ k c event ready, o = .noticed k c event ready →
    event.end?.isSome → Severed k c w.history) : Foretells w (w.mark o) := by
  refine ⟨[_], rfl, fun after t k c event ready before split ends => ?_⟩
  cases after with
  | nil =>
    obtain ⟨same, rfl⟩ := List.cons.inj split
    exact severed k c event ready (congrArg Happening.what same) ends
  | cons y after => simp at split

instance minds : MindsNotices (σ := σ) Foretells where
  trans := by
    rintro w₁ w₂ w₃ ⟨more, grown, first⟩ ⟨more', grown', second⟩
    refine ⟨more' ++ more, by rw [grown', grown, List.append_assoc],
      fun after t k c event ready before split ends => ?_⟩
    rcases List.append_eq_append_iff.mp split with ⟨l, rfl, split'⟩ | ⟨l, split', rest⟩
    · exact first l t k c event ready before split' ends
    · cases l with
      | nil => exact first [] t k c event ready before (by simpa using rest.symm) ends
      | cons y l =>
        obtain ⟨rfl, rfl⟩ := List.cons.inj rest
        have severed := second after t k c event ready l split' ends
        rwa [grown, ← List.append_assoc] at severed
  aside same := ⟨[], same, fun after _ _ _ _ _ _ split => by simp at split⟩
  mark w o other := single fun k c event ready same => by
    rw [same] at other
    exact absurd rfl other

theorem subset (h : Foretells w w') : w.history ⊆ w'.history := by
  obtain ⟨more, grown, -⟩ := h
  rw [grown]
  exact List.subset_append_right _ _

theorem notices (c : ConnectionId) {event : DeviceEvent} (goes : event.end? = none) :
    Notices (Keeps (σ := σ) Foretells) c event where
  noticed k ready := by
    refine ⟨fun w => single fun k' c' event' ready' same ends => ?_⟩
    cases same
    rw [goes] at ends
    cases ends

end Foretells

theorem Interface.close_occurs {i : InterfaceId} (opened : (w.interface i).closed = false) :
    Occurred (.closed i) ((close i).run w).2.history := by
  unfold close
  rw [run_bind, run_get]
  dsimp only
  rw [if_neg (by simp [opened]), run_bind, run_modify, run_bind, run_bind, run_mark]
  generalize ((clearFlight i).run _).2 = w₁
  have rest : Holds (Keeps (σ := σ) Recalls) (do
      Pipe.clearReceiver (w.interface i).pipe
      log .debug "Command interface closed" [("device", (w.interface i).device.label)]) := inferInstance
  exact ⟨w₁.loop.clock, (rest.holds (w₁.mark (.closed i))).subset List.mem_cons_self⟩

namespace Foretells

section

variable [Upheld (Keeps Foretells) env]

variable (env) in
theorem notify {o : Option ControllerId} {c : ConnectionId} {event : DeviceEvent}
    (severed : ∀ k, o = some k → Severed k c w.history) :
    Foretells w ((Controller.notify? env o c event).run w).2 := by
  have trans {u u' u'' : World σ} : Foretells u u' → Foretells u' u'' → Foretells u u'' := minds.trans
  cases o with
  | none => exact minds.aside rfl
  | some k =>
    change Foretells w ((Controller.notify env k c event).run w).2
    unfold Controller.notify
    rw [run_ifKept]
    split
    · let w₁ := w.reshare (· + 1) (.controller k)
      let w₂ := ((Controller.prepare env k event).run w₁).2
      let w₃ := w₂.mark (.noticed k c event (Controller.isReady w₂ k))
      have shared : Foretells w w₁ := minds.aside (by cases k; rfl)
      have prepares : Holds (Keeps Foretells) (Controller.prepare env k event) := by
        unfold Controller.prepare
        split <;> infer_instance
      have prepared := trans shared (prepares.holds w₁)
      have noticed : Foretells w₂ w₃ := single fun k' c' event' ready same _ => by
        cases same
        exact (severed k rfl).later prepared.subset
      have told : Holds (Keeps Foretells) (do
          env.tell ((← get).controller k).listener (.device event)
          release env (.controller k)) := inferInstance
      rw [run_keeping, run_bind]
      exact trans (trans prepared noticed) (told.holds w₃)
    · exact minds.aside rfl

variable (env) in
theorem drop (w : World σ) (e : Device) :
    Foretells w ((Entry.dropInterface env e).run w).2 ∧ ∀ i, Entry.openInterface? w e = some i →
      Occurred (.closed i) ((Entry.dropInterface env e).run w).2.history := by
  unfold Entry.dropInterface Entry.openInterface?
  cases e.interface with
  | none => exact ⟨minds.aside rfl, nofun⟩
  | some i =>
    have closes : Holds (Keeps (σ := σ) Foretells) (Interface.close i) := inferInstance
    have releases : Holds (Keeps Foretells) (release env (.interface i)) := inferInstance
    have released := releases.holds ((Interface.close i).run w).2
    refine ⟨minds.trans (closes.holds w) released, fun i' opened => ?_⟩
    obtain ⟨same, opened⟩ := Option.filter_eq_some_iff.mp opened
    obtain rfl := Option.some.inj same
    obtain ⟨t, closed⟩ := Interface.close_occurs (by simpa using opened)
    exact ⟨t, released.subset closed⟩

variable {r : RegistryId} {h : DeviceHandle} {c : ConnectionId} {event : ConnectionEvent}

omit [Upheld (Keeps Foretells) env] in
theorem claim (complaint : String) (w : World σ) :
    Foretells w ((Entry.claim complaint r h c event).run w).2 ∧
      ∀ e, ((Entry.claim complaint r h c event).run w).1 = some e →
        Occurred (.heeded r h c event e.observer
          (Entry.openInterface? ((Entry.claim complaint r h c event).run w).2 e))
          ((Entry.claim complaint r h c event).run w).2.history := by
  have claims : Holds (Keeps (σ := σ) Foretells) (Entry.claim complaint r h c event) := inferInstance
  refine ⟨claims.holds w, ?_⟩
  -- The mark is the last thing that is written, so the interface it names is the one the entry has now.
  rw [Entry.run_claim]
  cases (w.registry r).device? h with
  | none => exact nofun
  | some d =>
    dsimp only
    cases d.claim c with
    | none => exact nofun
    | some e =>
      intro e' same
      obtain rfl : e = e' := Option.some.inj same
      exact ⟨w.loop.clock, List.mem_cons_self⟩

theorem clear (ends : event.ends) (passed : Bool → DeviceEvent) {e : Device}
    (heeded : Occurred (.heeded r h c event e.observer (Entry.openInterface? w e)) w.history) :
    Foretells w ((Entry.clear env r h c passed e).run w).2 := by
  let w₁ := w.updateRegistry r (·.setDevice h e.cleared)
  obtain ⟨dropped, closed⟩ := drop env w₁ e
  have before : Foretells w ((Entry.dropInterface env e).run w₁).2 := minds.trans (minds.aside rfl) dropped
  have told : Foretells ((Entry.dropInterface env e).run w₁).2 ((Controller.notify? env e.observer c
      (passed (e.state = .removing))).run ((Entry.dropInterface env e).run w₁).2).2 := by
    refine notify env fun k observes => ?_
    obtain ⟨t, heeded⟩ := heeded
    rw [observes] at heeded
    exact ⟨r, h, event, _, ⟨t, before.subset heeded⟩, ends, closed⟩
  have rest : Holds (Keeps Foretells) (do
      if e.state = .removing then Registry.finishRemoval env r h) := inferInstance
  exact minds.trans before (minds.trans told (rest.holds _))

theorem closed (ends : event.ends) (passed : Bool → DeviceEvent) :
    Holds (Keeps Foretells) (Entry.closed env r h c event passed) := by
  have noted : Holds (Keeps (σ := σ) Foretells) (Entry.noteMissing r h) := by
    unfold Entry.noteMissing
    infer_instance
  refine ifKept_holds _ _ _ (h := Holds.bind (h := fun _ => ⟨fun w => ?_⟩))
  obtain ⟨claims, heeded⟩ := claim "Close of a stale connection ignored" w
  rw [run_bind]
  generalize (Entry.claim "Close of a stale connection ignored" r h c event).run w = result at claims heeded ⊢
  obtain ⟨_ | e, w'⟩ := result
  · exact claims
  · exact minds.trans claims (clear ends passed (heeded e rfl))

instance entryCalls : EntryCalls (Keeps Foretells) env where
  follow r h c event := by
    unfold Entry.follow
    cases event with
    | connecting =>
      have : Notices (Keeps (σ := σ) Foretells) c .connecting := notices c rfl
      infer_instance
    | connected p api =>
      have : Notices (Keeps (σ := σ) Foretells) c (.connected api) := notices c rfl
      infer_instance
    | disconnected =>
      have : Holds (Keeps Foretells) (Entry.closed env r h c .disconnected .disconnected) := closed rfl _
      infer_instance
    | canceled reason =>
      have : Holds (Keeps Foretells) (Entry.closed env r h c (.canceled reason) (.canceled reason)) :=
        closed rfl _
      infer_instance
    | link status =>
      have : Notices (Keeps (σ := σ) Foretells) c (.link status) := notices c rfl
      infer_instance

end

end Foretells

theorem Reached.severs (reached : Reached w) {before after : List Happening} {t : Nat} {k : ControllerId}
    {c : ConnectionId} {event : DeviceEvent} {ready : Bool}
    (split : w.chronicle = before ++ ⟨t, .noticed k c event ready⟩ :: after) (ends : event.end?.isSome) :
    Severed k c before := by
  obtain ⟨host, verbosity, more, grown, foretold⟩ :
      ∃ host verbosity, Foretells ({ host, verbosity } : World σ) w :=
    reached.related fun env _ _ => MindsNotices.together
  have all : w.history = more := by rw [grown, List.append_nil]
  have told := foretold after.reverse t k c event ready before.reverse
    (by rw [← all, ← List.reverse_reverse w.history]; simp [World.chronicle] at split; simp [split]) ends
  exact told.later (by simp)

end DroneControl
