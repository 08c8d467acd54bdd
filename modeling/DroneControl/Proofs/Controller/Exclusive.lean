import DroneControl.Proofs.Controller.Beating
import DroneControl.Proofs.Device.Order

/-!
# The one beat of a device with one controller

A timer belongs to a controller, which refuses to start a second one, and what becomes of a connection is
told to the controller that asked for it.  So much is enough for a device that has one controller: there
is one timer at most, and it stops when the connection ends or its link goes down.  Nothing keeps a second
controller of the same device from having a timer of its own.
-/

set_option synthInstance.maxSize 2048

namespace DroneControl

variable {σ α β : Type} {w w' w'' : World σ} {env : Env σ} {k : ControllerId} {x : Controller}
  {r : RegistryId} {h : DeviceHandle} {c : ConnectionId}

/-! ## The timers of a device -/

/-- By this timer the listener of a controller of the device is told of beats. -/
def World.BeatsFor (w : World σ) (r : RegistryId) (h : DeviceHandle) (t : TimerId) : Prop :=
  ∃ timer k x, w.loop.timers.find? t = some timer ∧ timer.job = .tick k ∧
    w.controllers.find? k = some x ∧ x.registry = r ∧ x.device = h

/-- The device of the controller has no other. -/
def World.Sole (w : World σ) (k : ControllerId) (x : Controller) : Prop :=
  ∀ k' x', w.controllers.find? k' = some x' → x'.registry = x.registry → x'.device = x.device → k' = k

theorem World.BeatsFor.known {t : TimerId} (beats : w.BeatsFor x.registry x.device t)
    (clocked : w.Clocked k) (seated : w.controllers.find? k = some x) (sole : w.Sole k x) :
    x.timer = some t := by
  obtain ⟨timer, k', x', found, ticks, there, registry, device⟩ := beats
  obtain rfl := sole k' x' there registry device
  exact clocked.knows found ticks seated

theorem Controller.startTimer_running (seated : w.controllers.find? k = some x)
    (running : x.timer.isSome) {period : UInt32} (positive : period ≠ 0) :
    (startTimer k period).run.run w = (.error (.busy "non-ack timer already running"),
      w.log .warn "Non-ack timer already running" [("device", x.device.label)]) := by
  have own : w.controller k = x := World.controller_of_find? seated
  unfold startTimer
  rw [run_lookThen, own]
  simp only [positive, if_false, running, if_true]
  rfl

/-! ## A device with one controller -/

/-- If a device has one controller, then between calls there is at most one timer that beats for the
device, and while there is one no other is started.  If the device never had another controller, then after
its entry hears that the connection which the controller asked for has ended, or that the link is down,
the listener of no controller of the device is told of a beat until a timer is started again, unless a turn
of the timer was under way.  How the connection came to its end, and who was calling, is no matter. -/
theorem Reached.beats_once (reached : Reached w) (seated : w.controllers.find? k = some x)
    (sole : w.Sole k x) :
    (∀ t t', w.BeatsFor x.registry x.device t → w.BeatsFor x.registry x.device t' → t = t') ∧
    (∀ t, w.BeatsFor x.registry x.device t → ∀ period, period ≠ 0 →
      (Controller.startTimer k period).run.run w = (.error (.busy "non-ack timer already running"),
        w.log .warn "Non-ack timer already running" [("device", x.device.label)])) ∧
    ((∀ k', Occurred (.appointed k' x.registry x.device) w.chronicle → k' = k) →
      ∀ i c event interface, event.endsSending →
      w.HappenedAt i (.heeded x.registry x.device c event (some k) interface) →
      ∀ j k', Occurred (.appointed k' x.registry x.device) w.chronicle → i < j →
      w.HappenedAt j (.ticked k') →
        (∃ s, i < s ∧ s < j ∧ w.HappenedAt s (.wound k')) ∨
          ∃ turn, turn ≤ i ∧ w.HappenedAt (j - 1) (.beats turn)) := by
  have clocked := reached.clocked
  refine ⟨fun t t' beats beats' => ?_, fun t beats period positive => ?_, ?_⟩
  · exact Option.some.inj ((beats.known (clocked k) seated sole).symm.trans
      (beats'.known (clocked k) seated sole))
  · have running : x.timer.isSome := by simp [beats.known (clocked k) seated sole]
    exact Controller.startTimer_running seated running positive
  · intro only i c event interface ends heard j k' appointed later tick
    obtain rfl := only k' appointed
    exact (clocked k').rests heard (by simp [Occurrence.stops, ends]) later tick

def pacedVisit : Act Unit Unit := do
  let _ ← visit
  let _ ← (Controller.startTimer ⟨1⟩ 10).run
  Loop.pass silentHost 4 12
  let _ ← (Connection.disconnected silentHost ⟨1⟩).run
  Loop.pass silentHost 4 100
  let _ ← (Controller.startTimer ⟨1⟩ 10).run
  Loop.pass silentHost 4 12

theorem pacedVisit_reached : Reached (pacedVisit.run { host := () }).2 := by
  refine ⟨silentHost, (), none, _, pacedVisit, silentHost_hosted, ?_, rfl⟩
  refine .bind visit_reaction fun _ => .bind (.basic (.inr (.startTimer _ _))) fun _ => ?_
  refine .bind (.basic (.inr (.pass _ _))) fun _ => ?_
  refine .bind (.basic (.inr (.disconnected _))) fun _ => ?_
  refine .bind (.basic (.inr (.pass _ _))) fun _ => ?_
  exact .bind (.basic (.inr (.startTimer _ _))) fun _ => .basic (.inr (.pass _ _))

theorem World.sole_of_first (first : w.controllers.find? ⟨0⟩ = none)
    (next : w.controllers.next = 2) (x : Controller) : w.Sole ⟨1⟩ x := by
  rintro ⟨n⟩ x' there - -
  have known := Table.lt_next there
  rw [next] at known
  match n, known with
  | 0, _ => cases first.symm.trans there
  | 1, _ => rfl

theorem pacedVisit_beats_once :
    ∃ x, (pacedVisit.run { host := () }).2.controllers.find? ⟨1⟩ = some x ∧
      (pacedVisit.run { host := () }).2.BeatsFor x.registry x.device ⟨2⟩ ∧
      ((Controller.startTimer ⟨1⟩ 5).run.run (pacedVisit.run { host := () }).2).1 =
        .error (.busy "non-ack timer already running") ∧
      (pacedVisit.run { host := () }).2.HappenedAt 15
        (.heeded ⟨1⟩ ⟨1⟩ ⟨1⟩ .disconnected (some ⟨1⟩) (some ⟨1⟩)) ∧
      (pacedVisit.run { host := () }).2.HappenedAt 21 (.ticked ⟨1⟩) ∧
      ∃ s, 15 < s ∧ s < 21 ∧ (pacedVisit.run { host := () }).2.HappenedAt s (.wound ⟨1⟩) := by
  have reached := pacedVisit_reached
  -- The world is known by what is computed of it, and need not be opened again.
  generalize run : (pacedVisit.run { host := () }).2 = w at reached ⊢
  have row : (w.controllers.find? ⟨1⟩).map (fun x => (x.registry, x.device)) = some (⟨1⟩, ⟨1⟩) := by
    rw [← run]
    decide +kernel
  have beat : (w.loop.timers.find? ⟨2⟩).map (·.job) = some (.tick ⟨1⟩) := by
    rw [← run]
    decide +kernel
  have appointments : ∀ y ∈ w.chronicle, ∀ k, y.what = .appointed k ⟨1⟩ ⟨1⟩ → k = ⟨1⟩ := by
    have all : w.chronicle.all (fun y => match y.what with
        | .appointed k _ _ => decide (k = ⟨1⟩)
        | _ => true) := by
      rw [← run]
      decide +kernel
    intro y among k same
    simpa [same] using List.all_eq_true.mp all y among
  have heard : w.HappenedAt 15 (.heeded ⟨1⟩ ⟨1⟩ ⟨1⟩ .disconnected (some ⟨1⟩) (some ⟨1⟩)) := by
    rw [← run]
    decide +kernel
  have tick : w.HappenedAt 21 (.ticked ⟨1⟩) := by rw [← run]; decide +kernel
  have turn : w.HappenedAt 20 (.beats 20) := by rw [← run]; decide +kernel
  have appointed : ⟨0, .appointed ⟨1⟩ ⟨1⟩ ⟨1⟩⟩ ∈ w.chronicle := by rw [← run]; decide +kernel
  obtain ⟨x, seated, parts⟩ := Option.map_eq_some_iff.mp row
  obtain ⟨timer, found, ticks⟩ := Option.map_eq_some_iff.mp beat
  obtain ⟨registry, device⟩ := Prod.mk.inj parts
  have beats : w.BeatsFor x.registry x.device ⟨2⟩ := ⟨timer, ⟨1⟩, x, found, ticks, seated, rfl, rfl⟩
  obtain ⟨-, refused, silent⟩ := reached.beats_once seated
    (World.sole_of_first (by rw [← run]; decide +kernel) (by rw [← run]; decide +kernel) x)
  refine ⟨x, seated, beats, congrArg Prod.fst (refused ⟨2⟩ beats 5 (by decide)), heard, tick, ?_⟩
  rw [registry, device] at silent
  have only : ∀ k', Occurred (.appointed k' ⟨1⟩ ⟨1⟩) w.chronicle → k' = ⟨1⟩ :=
    fun k' ⟨_, among⟩ => appointments _ among k' rfl
  rcases silent only 15 ⟨1⟩ _ _ rfl heard 21 ⟨1⟩ ⟨0, appointed⟩ (by decide) tick with
    started | ⟨begun, before, beaten⟩
  · exact started
  · have same := Option.some.inj (turn.symm.trans beaten)
    simp only [Occurrence.beats.injEq] at same
    omega

end DroneControl
