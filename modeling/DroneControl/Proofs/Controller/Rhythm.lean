import DroneControl.Proofs.Controller.Cadence
import DroneControl.Proofs.Controller.Exclusive
import DroneControl.Proofs.Controller.Lasting
import DroneControl.Proofs.Interface.Pending

/-!
# What becomes of a timer, ask by ask

What is answered to those who start and stop the timer of a controller, and when the controller beats, can
be foretold from nothing but what was asked and how many milliseconds went by.  A start that is refused
makes no difference to either.
-/

set_option synthInstance.maxSize 2048

namespace DroneControl

variable {σ α : Type} {k : ControllerId} {t : TimerId} {w w' w'' : World σ} {env : Env σ}
  {x : Controller}

/-! ## What is asked, and what is to be expected -/

/-- The timer of a controller is started or stopped, or a millisecond passes, in which the loop may do so
much more than what was to be done when it began. -/
inductive Ask where
  | start (period : UInt32)
  | stop
  | wait (extra : Nat)

namespace Ask

def act (env : Env σ) (k : ControllerId) : Ask → Act σ (Except Fault Unit)
  | start period => (Controller.startTimer k period).run
  | stop => (Controller.haltTimer k).run
  | wait extra => do
    Loop.pass env extra 1
    return .ok ()

/-- What is answered, depending on whether the timer runs. -/
def answer (running : Bool) : Ask → Except Fault Unit
  | start period =>
    if period = 0 then .error (.invalidArgument "non-ack timer period must be non-zero")
    else if running then .error (.busy "non-ack timer already running")
    else .ok ()
  | stop => if running then .ok () else .error (.notFound "non-ack timer")
  | wait _ => .ok ()

end Ask

/-- What is to be expected of a controller: how often it has beaten by now, and when its timer was started
and with which period, if it runs. -/
structure Rhythm where
  clock : Nat
  ticks : Nat
  running : Option (Nat × Nat)
  deriving DecidableEq, Repr

namespace Rhythm

/-- A timer that runs beats whenever whole periods have gone by since it was started. -/
def beatsAt (r : Rhythm) (time : Nat) : Bool :=
  match r.running with
  | some (begun, period) => period ∣ time - begun
  | none => false

def next (r : Rhythm) : Ask → Rhythm
  | .start period =>
    if period = 0 ∨ r.running.isSome then r else { r with running := some (r.clock, period.toNat) }
  | .stop => { r with running := none }
  | .wait _ =>
    { r with
      clock := r.clock + 1
      ticks := if r.beatsAt (r.clock + 1) then r.ticks + 1 else r.ticks }

def after (r : Rhythm) (asks : List Ask) : Rhythm := asks.foldl next r

def answers (r : Rhythm) : List Ask → List (Except Fault Unit)
  | [] => []
  | ask :: asks => ask.answer r.running.isSome :: (r.next ask).answers asks

end Rhythm

/-! ## Answers -/

namespace Controller

theorem startTimer_zero (k : ControllerId) (w : World σ) :
    (startTimer k 0).run.run w =
      (.error (.invalidArgument "non-ack timer period must be non-zero"), w) := by
  unfold startTimer
  rw [run_lookThen]
  rfl

theorem startTimer_refused {period : UInt32} (seated : w.controllers.find? k = some x)
    (refused : period = 0 ∨ x.timer.isSome) :
    ∃ journal, ((startTimer k period).run.run w).2 = { w with journal } := by
  by_cases zero : period = 0
  · exact ⟨w.journal, by rw [zero, startTimer_zero]⟩
  · obtain ⟨journal, same⟩ := w.log_journal .warn "Non-ack timer already running"
      [("device", x.device.label)]
    exact ⟨journal, by rw [startTimer_running seated (refused.resolve_left zero) zero, same]⟩

theorem run_haltTimer (k : ControllerId) (w : World σ) : (haltTimer k).run.run w =
    (if ((stopTimer k).run w).1 then .ok () else .error (.notFound "non-ack timer"),
      ((stopTimer k).run w).2) := by
  unfold haltTimer
  rw [run_actThen]
  split <;> rfl

theorem stopTimer_loop (seated : w.controllers.find? k = some x) :
    ((stopTimer k).run w).1 = x.timer.isSome ∧ ((stopTimer k).run w).2.loop =
      match x.timer with
      | none => w.loop
      | some t => w.loop.cancel t := by
  have own : w.controller k = x := World.controller_of_find? seated
  rw [stopTimer_eq, own]
  cases x.timer with
  | none => exact ⟨rfl, rfl⟩
  | some t =>
    refine ⟨rfl, ?_⟩
    dsimp only
    unfold World.log
    split <;> rfl

theorem stopTimer_interfaces (k : ControllerId) (w : World σ) :
    ((stopTimer k).run w).2.interfaces = w.interfaces := by
  rw [stopTimer_eq]
  cases (w.controller k).timer with
  | none => rfl
  | some t =>
    dsimp only
    unfold World.log
    split <;> rfl

end Controller

theorem Ask.run_act (env : Env σ) (seated : w.controllers.find? k = some x) (ask : Ask) :
    ((ask.act env k).run w).1 = ask.answer x.timer.isSome := by
  cases ask with
  | wait extra => rfl
  | stop =>
    rw [act, Controller.run_haltTimer, (Controller.stopTimer_loop seated).1]
    rfl
  | start period =>
    rw [act, answer]
    split
    · next zero => rw [zero, Controller.startTimer_zero]
    · next positive =>
      cases timer : x.timer with
      | none =>
        obtain ⟨journal, ran⟩ := Controller.run_startTimer seated timer positive
        rw [ran]
        rfl
      | some t =>
        rw [Controller.startTimer_running seated (by simp [timer]) positive]
        rfl

/-! ## Asking -/

theorem Patient.idle (patient : Patient env) [Served (Keeps Undisturbed) env] (fuel : Nat)
    (clocked : w.Clocked k) (plain : w.loop.Plain) (own : ∀ i, w.NamesOwn i)
    (seated : w.controllers.find? k = some x) (idle : x.timer = none) :
    ∃ x', ((Loop.drain env fuel).run w).2.controllers.find? k = some x' ∧ x'.ticks = x.ticks := by
  have together := patient.keepsPace (k := k)
  have upheld : ∀ t, Upheld (Keeps (Pauses k t True)) env := fun _ => patient.upheld
  induction fuel generalizing w x with
  | zero => exact ⟨x, seated, rfl⟩
  | succ fuel ih =>
    have taken : KeepsPace k True w { w with loop := w.loop.take.2 } := .of_loop rfl rfl .take
    unfold Loop.drain Loop.takeTask
    rw [run_bind, run_modifyGet]
    unfold Loop.take at taken ⊢
    cases queue : w.loop.queue with
    | nil => exact ⟨x, seated, rfl⟩
    | cons task rest =>
      simp only [queue] at taken ⊢
      rw [run_bind]
      have quiet := Undisturbed.take w (queue ▸ List.subset_cons_self task rest) own
      have clocked' := (taken clocked).clocked
      have other : task ≠ .run (.tick k) := by
        rintro rfl
        exact clocked.queue (queue ▸ List.mem_cons_self)
      have plainly : ∀ job, task = .run job → job.isPlain := fun job same =>
        plain.queue job (by simp [queue, same])
      have seated' : ({ w with loop := { w.loop with queue := rest } } : World σ).controllers.find? k =
        some x := seated
      generalize { w with loop := { w.loop with queue := rest } } = w₁ at quiet clocked' seated' ⊢
      have turn : Undisturbed w₁ ((Loop.runTask env task).run w₁).2 :=
        Undisturbed.runTask (quiet.plain plain) plainly
      have ran := turn quiet.own
      obtain ⟨x₂, seated₂, timer, -⟩ := ran.controller k x seated'
      have paces : KeepsPace k True w₁ ((Loop.runTask env task).run w₁).2 :=
        KeepsPace.runTask_keepsPace other w₁
      have still := clocked'.still fun y there => by rwa [Option.some.inj (there.symm.trans seated')]
      obtain ⟨t, pauses⟩ : ∃ t, Pauses k t True w₁ ((Loop.runTask env task).run w₁).2 := by
        cases task with
        | run job =>
          exact ⟨⟨0⟩, (Pauses.perform_other fun ticks => other (congrArg Task.run ticks)).holds w₁⟩
        | wake t' =>
          exact ⟨⟨t'.number + 1⟩, .wake_of_perform (fun same => Nat.ne_of_lt (Nat.lt_succ_self _) (congrArg (·.number) same))
            fun timer found => Pauses.perform_other (still t' timer found)⟩
      obtain ⟨y, before, same⟩ := pauses.row (Table.lt_next seated') x₂ seated₂
      obtain rfl := Option.some.inj (before.symm.trans seated')
      obtain ⟨x', there, ticks⟩ := ih (paces clocked').clocked (ran.plain (quiet.plain plain)) ran.own seated₂
        (timer.trans idle)
      exact ⟨x', there, ticks.trans (same trivial)⟩

/-- The timer of the controller runs since then and with that period, or not at all. -/
inductive World.Runs (w : World σ) (k : ControllerId) (x : Controller) : Option (Nat × Nat) → Prop where
  | idle (idle : x.timer = none) : w.Runs k x none
  | beating {t : TimerId} {begun period before : Nat} (positive : 0 < period)
      (knows : x.timer = some t) (there : (w.loop.timers.find? t).isSome)
      (beats : w.Beats ⟨k, t, begun, period, before⟩) : w.Runs k x (some (begun, period))

/-- The world is as is to be expected. -/
structure World.Follows (w : World σ) (k : ControllerId) (r : Rhythm) : Prop where
  clocked : w.Clocked k
  plain : w.loop.Plain
  own : ∀ i, w.NamesOwn i
  clock : w.loop.clock = r.clock
  row : ∃ x, w.controllers.find? k = some x ∧ x.ticks = r.ticks ∧ w.Runs k x r.running

theorem World.Runs.timer {running : Option (Nat × Nat)} (runs : w.Runs k x running) :
    x.timer.isSome = running.isSome := by
  cases runs with
  | idle idle => rw [idle]; rfl
  | beating _ knows => rw [knows]; rfl

theorem World.Runs.aside {running : Option (Nat × Nat)} (runs : w.Runs k x running)
    (controllers : w'.controllers = w.controllers) (loop : w'.loop = w.loop)
    (history : w'.history = w.history) : w'.Runs k x running := by
  cases runs with
  | idle idle => exact .idle idle
  | beating positive knows there beats =>
    exact .beating positive knows (loop ▸ there) (beats.aside controllers loop history)

namespace World.Follows

variable {r : Rhythm}

theorem aside (follows : w.Follows k r) (controllers : w'.controllers = w.controllers)
    (interfaces : w'.interfaces = w.interfaces) (loop : w'.loop = w.loop)
    (history : w'.history = w.history) : w'.Follows k r := by
  have paces : KeepsPace k True w w' := .aside controllers loop history
  obtain ⟨x, seated, ticks, runs⟩ := follows.row
  exact ⟨(paces follows.clocked).clocked, loop ▸ follows.plain,
    fun i => (follows.own i).aside interfaces loop, loop ▸ follows.clock, x, controllers ▸ seated, ticks,
    runs.aside controllers loop history⟩

theorem start (follows : w.Follows k r) (period : UInt32) :
    ((Controller.startTimer k period).run.run w).2.Follows k (r.next (.start period)) := by
  obtain ⟨x, seated, ticks, runs⟩ := follows.row
  by_cases refused : period = 0 ∨ x.timer.isSome
  · obtain ⟨journal, same⟩ := Controller.startTimer_refused seated refused
    rw [Rhythm.next, if_pos (runs.timer ▸ refused), same]
    exact follows.aside rfl rfl rfl rfl
  · rw [Rhythm.next, if_neg (runs.timer ▸ refused)]
    obtain ⟨positive, idle⟩ := not_or.mp refused
    rw [Option.not_isSome_iff_eq_none] at idle
    obtain ⟨-, beats⟩ := Controller.startTimer_beats follows.clocked seated idle positive
    obtain ⟨journal, ran⟩ := Controller.run_startTimer seated idle positive
    have clocked := beats.onBeat.clocked
    rw [ran] at beats clocked ⊢
    refine ⟨clocked, ⟨fun t timer found => ?_, follows.plain.queue⟩,
      fun i => (follows.own i).later (fun y here => ⟨y, here, rfl⟩) (.add w.loop _ _), follows.clock,
      { x with timer := some ⟨w.loop.timers.next⟩, starts := x.starts + 1 }, ?_, ticks, ?_⟩
    · simp only [Loop.periodic, Table.find?_add] at found
      split at found
      · rw [← Option.some.inj found]
        rfl
      · exact follows.plain.timers t timer found
    · simp [Table.find?_update, seated]
    · rw [← follows.clock]
      refine .beating (Nat.pos_of_ne_zero fun zero => positive (UInt32.toNat_inj.mp zero)) rfl ?_ beats
      simp [Loop.periodic, Table.find?_add]

theorem stop (follows : w.Follows k r) :
    ((Controller.haltTimer k).run.run w).2.Follows k (r.next .stop) := by
  obtain ⟨x, seated, ticks, runs⟩ := follows.row
  have paces : KeepsPace k True w ((Controller.stopTimer k).run w).2 :=
    Controller.stopTimer_keepsPace k w
  have goesOn : w.loop.GoesOn ((Controller.stopTimer k).run w).2.loop := by
    rw [(Controller.stopTimer_loop seated).2]
    cases x.timer with
    | none => exact .refl _
    | some t => exact .cancel t
  rw [Controller.run_haltTimer]
  refine ⟨(paces follows.clocked).clocked, ?_, fun i => (follows.own i).later (fun x there => ⟨x, ?_, rfl⟩)
    goesOn, ?_, _, Controller.stopTimer_row seated, ticks, .idle rfl⟩
  rotate_left
  · rwa [Controller.stopTimer_interfaces] at there
  all_goals rw [(Controller.stopTimer_loop seated).2]; cases x.timer
  · exact follows.clock
  · exact follows.clock
  · exact follows.plain
  · exact ⟨fun t timer found => follows.plain.timers t timer (Loop.find?_cancel found),
      follows.plain.queue⟩

theorem wait (patient : Patient env) [Served (Keeps Undisturbed) env]
    (follows : w.Follows k r) (extra : Nat) :
    ((Loop.pass env extra 1).run w).2.Follows k (r.next (.wait extra)) := by
  obtain ⟨now, count, running⟩ := r
  obtain ⟨x, seated, ticks, runs⟩ := follows.row
  have := patient.keepsPace (k := k)
  have passes : Holds (Keeps (KeepsPace k True)) (Loop.pass env extra 1) := inferInstance
  have paces := passes.holds w follows.clocked
  obtain ⟨quiet, plain⟩ := Undisturbed.pass env extra follows.plain follows.own
  obtain ⟨x', seated', timer, starts, -⟩ := quiet.controller k x seated
  have clock : ((Loop.pass env extra 1).run w).2.loop.clock = w.loop.clock + 1 := quiet.clock
  suffices same : x'.ticks = (Rhythm.next ⟨now, count, running⟩ (.wait extra)).ticks ∧
      World.Runs ((Loop.pass env extra 1).run w).2 k x' running from
    ⟨paces.clocked, plain, quiet.own, clock.trans (congrArg (· + 1) follows.clock), x', seated', same⟩
  cases runs with
  | idle idle =>
    have forward : KeepsPace k True w { w with loop := w.loop.forward 1 } := .of_loop rfl rfl (.forward 1)
    have plain' : (w.loop.forward 1).Plain := ⟨follows.plain.timers, fun job among =>
      follows.plain.queue job (by simpa [Loop.forward] using among)⟩
    obtain ⟨y, there, count⟩ := patient.idle (w := { w with loop := w.loop.forward 1 })
      ((w.loop.forward 1).queue.length + extra) (forward follows.clocked).clocked plain'
      (fun i => (follows.own i).later (fun y here => ⟨y, here, rfl⟩) (.forward w.loop 1)) seated idle
    obtain rfl := Option.some.inj (there.symm.trans seated')
    exact ⟨count.trans ticks, .idle (timer.trans idle)⟩
  | @beating t begun period before positive knows there beats =>
    obtain ⟨timer₁, there⟩ := Option.isSome_iff_exists.mp there
    have periodic : timer₁.period.isSome := by
      obtain ⟨n, rfl, -⟩ := beats.onBeat.turns timer₁ there
      rfl
    obtain ⟨timer₂, there', -⟩ := quiet.lasting k x t timer₁ seated knows there periodic
    have beats' := Loop.pass_beats patient positive extra beats
    obtain ⟨-, begun_le, counted⟩ := beats.ticks there seated
    obtain ⟨-, -, counted'⟩ := beats'.ticks there' seated'
    refine ⟨?_, .beating positive (timer.trans knows) (Option.isSome_of_eq_some there') beats'⟩
    dsimp only at begun_le counted counted'
    rw [clock, Nat.sub_add_comm begun_le, Nat.succ_div, ← Nat.add_assoc, ← counted, ticks] at counted'
    have clock₁ : w.loop.clock = now := follows.clock
    simp only [counted', Rhythm.next, Rhythm.beatsAt, decide_eq_true_eq, ← clock₁,
      Nat.sub_add_comm begun_le]
    split <;> rfl

theorem ask (patient : Patient env) [Served (Keeps Undisturbed) env]
    (follows : w.Follows k r) (ask : Ask) :
    ((ask.act env k).run w).1 = ask.answer r.running.isSome ∧
      ((ask.act env k).run w).2.Follows k (r.next ask) := by
  constructor
  · obtain ⟨x, seated, -, runs⟩ := follows.row
    rw [Ask.run_act env seated, runs.timer]
  · cases ask with
    | start period => exact follows.start period
    | stop => exact follows.stop
    | wait extra => exact follows.wait patient extra

theorem asks (patient : Patient env) [Served (Keeps Undisturbed) env]
    (asks : List Ask) (follows : w.Follows k r) :
    ((asks.mapM (Ask.act env k)).run w).1 = r.answers asks ∧
      ((asks.mapM (Ask.act env k)).run w).2.Follows k (r.after asks) := by
  induction asks generalizing w r with
  | nil => exact ⟨rfl, follows⟩
  | cons first rest ih =>
    obtain ⟨answer, next⟩ := follows.ask patient first
    obtain ⟨answers, last⟩ := ih next
    rw [List.mapM_cons, run_bind, run_bind, run_pure]
    exact ⟨congrArg₂ List.cons answer answers, last⟩

end World.Follows

/-! ## The timer of a controller -/

/-- What is answered to those who start or stop the timer of a controller depends on nothing but whether it
runs, and a start that is refused changes nothing.  Once the timer is started, then whatever is asked of
the library while time passes by single milliseconds, and whoever is called back on the way, the controller
has beaten once for each period that has gone by since, for as long as the timer is there.  It is there as
long as it is not stopped, if no attempt of a connection comes to its end in the loop and the host leaves
timers alone: then all answers, and all beats, are as the asks foretell. -/
theorem Reached.beats_on_time (reached : Reached w) (patient : Patient env)
    (seated : w.controllers.find? k = some x) :
    (∀ ask : Ask, ((ask.act env k).run w).1 = ask.answer x.timer.isSome) ∧
    (∀ period, period = 0 ∨ x.timer.isSome →
      ∃ journal, ((Controller.startTimer k period).run.run w).2 = { w with journal }) ∧
    (x.timer = none → ∀ period, period ≠ 0 →
      ((Controller.startTimer k period).run.run w).2.loop.timers.find? ⟨w.loop.timers.next⟩ =
        some ⟨w.loop.clock + period.toNat, some period.toNat, .tick k⟩ ∧
      ∀ {α : Type} {a : Act σ α}, Unhurried env α a →
      ∀ w', (a.run ((Controller.startTimer k period).run.run w).2).2 = w' →
      ∀ timer x', w'.loop.timers.find? ⟨w.loop.timers.next⟩ = some timer →
        w'.controllers.find? k = some x' →
        x'.timer = some ⟨w.loop.timers.next⟩ ∧
          x'.ticks = x.ticks + (w'.loop.clock - w.loop.clock) / period.toNat) ∧
    (x.timer = none → w.loop.Plain → Served (Keeps Undisturbed) env →
      ∀ asks : List Ask, ∃ w' x',
        (asks.mapM (Ask.act env k)).run w = (Rhythm.answers ⟨w.loop.clock, x.ticks, none⟩ asks, w') ∧
        w'.controllers.find? k = some x' ∧
        ∃ running, running.isSome = x'.timer.isSome ∧
          Rhythm.after ⟨w.loop.clock, x.ticks, none⟩ asks = ⟨w'.loop.clock, x'.ticks, running⟩) := by
  have clocked := reached.clocked k
  refine ⟨Ask.run_act env seated, fun _ => Controller.startTimer_refused seated, ?_, ?_⟩
  · intro idle period positive
    obtain ⟨-, beats⟩ := Controller.startTimer_beats clocked seated idle positive
    refine ⟨?_, ?_⟩
    · obtain ⟨journal, ran⟩ := Controller.run_startTimer seated idle positive
      rw [ran]
      simp [Loop.periodic, Table.find?_add]
    · rintro α a unhurried w' rfl timer x' there here
      have positive' : 0 < period.toNat :=
        Nat.pos_of_ne_zero fun zero => positive (UInt32.toNat_inj.mp zero)
      obtain ⟨knows, -, ticks⟩ := (unhurried.beats patient positive' beats).ticks there here
      exact ⟨knows, ticks⟩
  · intro idle plain leaves asks
    have follows : w.Follows k ⟨w.loop.clock, x.ticks, none⟩ :=
      ⟨clocked, plain, fun i => (reached.poised i).retries i, rfl, x, seated, rfl, .idle idle⟩
    obtain ⟨answers, last⟩ := follows.asks patient asks
    obtain ⟨x', here, ticks, runs⟩ := last.row
    refine ⟨_, x', Prod.ext answers rfl, here, _, runs.timer.symm, ?_⟩
    rw [last.clock, ticks]

def seating : Act Unit Unit := do
  let r ← Registry.create {} ⟨1⟩ none
  let _ ← (Backend.createNet silentHost r ⟨1⟩ 0 none).run
  let _ ← (Registry.addDevice silentHost r default ⟨1⟩).run
  let _ ← (Controller.create r ⟨1⟩ ⟨2⟩ none).run
  let p ← Pipe.create (.supplied ⟨1⟩)
  let _ ← (Pipe.start silentHost p).run
  let i ← Interface.create ⟨1⟩ p (.listener ⟨1⟩) ⟨1⟩
  let _ ← (Interface.send silentHost i ((Command.encode default 0 []).withDelivery .ack)).run

theorem seating_reached : Reached (seating.run { host := () }).2 := by
  refine ⟨silentHost, (), none, _, seating, silentHost_hosted, ?_, rfl⟩
  refine .bind (.basic (.inr (.createRegistry _ _ _))) fun r => ?_
  refine .bind (.basic (.inr (.createNet _ _ _ _))) fun _ => ?_
  refine .bind (.basic (.inr (.addDevice _ _ _))) fun _ => ?_
  refine .bind (.basic (.inr (.createController _ _ _ _))) fun _ => ?_
  refine .bind (.basic (.inr (.createPipe _))) fun p => ?_
  refine .bind (.basic (.inr (.startPipe _))) fun _ => ?_
  refine .bind (.basic (.inr (.createInterface _ _ _ _))) fun i => ?_
  exact .bind (.basic (.inr (.sendCommand _ _))) fun _ => .pure _

theorem silentHost_served : Served (Keeps Undisturbed) silentHost where
  tell _ _ w := .refl w
  ask _ w := .refl w
  order _ w := .refl w
  openSession _ _ _ w := .refl w
  openChannel _ _ _ w := .refl w

theorem seating_beats_on_time :
    (∃ w' x',
      ([.start 0, .start 2, .wait 0, .start 5, .wait 0, .start 7, .wait 0, .stop, .stop, .start 1,
        .wait 0].mapM (Ask.act silentHost ⟨1⟩)).run (seating.run { host := () }).2 =
        ([Ask.answer false (.start 0), .ok (), .ok (), Ask.answer true (.start 5), .ok (),
          Ask.answer true (.start 7), .ok (), .ok (), Ask.answer false .stop, .ok (), .ok ()], w') ∧
      w'.controllers.find? ⟨1⟩ = some x' ∧ w'.loop.clock = 4 ∧ x'.ticks = 2 ∧ x'.timer.isSome) ∧
    ∃ x', ((Loop.advance silentHost 4 25).run ((Controller.startTimer ⟨1⟩ 10).run.run
        (seating.run { host := () }).2).2).2.controllers.find? ⟨1⟩ = some x' ∧ x'.ticks = 2 := by
  have reached := seating_reached
  generalize run : (seating.run { host := () }).2 = w at reached ⊢
  have row : (w.controllers.find? ⟨1⟩).map (fun x => (x.timer, x.ticks)) = some (none, 0) := by
    rw [← run]
    decide +kernel
  have idle : w.loop.clock = 0 ∧ w.loop.queue = [] ∧
      ∀ entry ∈ w.loop.timers.toList, entry.2.job.isPlain := by
    rw [← run]
    decide +kernel
  obtain ⟨x, seated, parts⟩ := Option.map_eq_some_iff.mp row
  obtain ⟨timer, ticks⟩ := Prod.mk.inj parts
  have plain : w.loop.Plain := by
    refine ⟨fun t timer found => ?_, fun job among => ?_⟩
    · exact idle.2.2 _ (Table.mem_toList.mpr found)
    · exact absurd among (by simp [idle.2.1])
  obtain ⟨-, -, cadence, foretold⟩ := reached.beats_on_time silentHost_patient seated
  constructor
  · obtain ⟨w', x', ran, here, running, runs, after⟩ := foretold timer plain silentHost_served
      [.start 0, .start 2, .wait 0, .start 5, .wait 0, .start 7, .wait 0, .stop, .stop, .start 1, .wait 0]
    rw [idle.1, ticks] at ran after
    have computed : Rhythm.after ⟨0, 0, none⟩ [.start 0, .start 2, .wait 0, .start 5, .wait 0, .start 7,
        .wait 0, .stop, .stop, .start 1, .wait 0] = ⟨4, 2, some (3, 1)⟩ := by decide
    simp only [computed, Rhythm.mk.injEq] at after
    exact ⟨w', x', ran, here, after.1.symm, after.2.1.symm, by rw [← runs, ← after.2.2]; rfl⟩
  · obtain ⟨-, beats⟩ := cadence timer 10 (by decide)
    have there : ((((Loop.advance silentHost 4 25).run ((Controller.startTimer ⟨1⟩ 10).run.run
        w).2).2.loop.timers.find? ⟨w.loop.timers.next⟩).isSome ∧
      (((Loop.advance silentHost 4 25).run ((Controller.startTimer ⟨1⟩ 10).run.run
        w).2).2.controllers.find? ⟨1⟩).isSome) := by
      rw [← run]
      decide +kernel
    have clock : ((Loop.advance silentHost 4 25).run ((Controller.startTimer ⟨1⟩ 10).run.run
        w).2).2.loop.clock = 25 := by
      rw [← run]
      decide +kernel
    obtain ⟨timer', found⟩ := Option.isSome_iff_exists.mp there.1
    obtain ⟨x', here⟩ := Option.isSome_iff_exists.mp there.2
    obtain ⟨-, count⟩ := beats (.advance silentHost 4 25) _ rfl timer' x' found here
    refine ⟨x', here, ?_⟩
    rw [count, ticks, clock, idle.1]
    decide

end DroneControl
