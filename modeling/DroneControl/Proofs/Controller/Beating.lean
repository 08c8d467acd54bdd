import DroneControl.Proofs.Controller.Minding
import DroneControl.Proofs.Device.Vacating

/-!
# The beat of a controller's timer

A controller ticks by the timer that it knows and by no other, for the timer comes and goes with what the
controller notes of it.  So by the history there is a start behind every beat, and no stop in between.  A
turn of the timer that is under way when the timer is stopped is another matter: it goes on until its
deadline is ahead.
-/

set_option synthInstance.maxSize 2048

namespace DroneControl

variable {σ α : Type} {k k' : ControllerId} {strict strict' : Prop} {w w' w'' : World σ} {env : Env σ}

/-! ## The loop -/

/-- The loop ticks for a controller by no timer by which it did not before. -/
structure Loop.Calm (k : ControllerId) (l l' : Loop) : Prop where
  timers : ∀ t timer', l'.timers.find? t = some timer' → timer'.job = .tick k →
    ∃ timer, l.timers.find? t = some timer ∧ timer.job = .tick k ∧ timer'.period = timer.period
  queue : .run (.tick k) ∈ l'.queue → .run (.tick k) ∈ l.queue

namespace Loop.Calm

variable {l l' : Loop} {job : Job}

theorem refl (l : Loop) : l.Calm k l := ⟨fun _ timer found ticks => ⟨timer, found, ticks, rfl⟩, id⟩

theorem defer (other : job ≠ .tick k) : l.Calm k (l.defer job) where
  timers _ timer found ticks := ⟨timer, found, ticks, rfl⟩
  queue among := by
    rcases List.mem_append.mp among with old | new
    · exact old
    · exact absurd (Task.run.inj (List.mem_singleton.mp new)).symm other

theorem add (timer : Timer) (other : timer.job ≠ .tick k) {queue : List Task}
    (same : .run (.tick k) ∈ queue → .run (.tick k) ∈ l.queue) :
    l.Calm k { l with timers := (l.timers.add timer).2, queue } where
  timers t timer' found ticks := by
    rw [Table.find?_add] at found
    split at found
    · exact absurd ticks (Option.some.inj found ▸ other)
    · exact ⟨timer', found, ticks, rfl⟩
  queue := same

theorem after (other : job ≠ .tick k) (delay : Nat) : l.Calm k (l.after delay job).2 := by
  refine add ⟨l.clock + delay, none, job⟩ other fun among => ?_
  split at among
  · simpa using among
  · exact among

theorem periodic (other : job ≠ .tick k) (period : Nat) : l.Calm k (l.periodic period job).2 :=
  add ⟨l.clock + period, some period, job⟩ other id

theorem cancel (t : TimerId) : l.Calm k (l.cancel t) where
  timers _ timer found ticks := ⟨timer, Loop.find?_cancel found, ticks, rfl⟩
  queue := id

theorem cancel? (t : Option TimerId) : l.Calm k (l.cancel? t) := by
  cases t with
  | none => exact refl l
  | some t => exact cancel t

theorem restart (t : TimerId) (deadline : Nat) : l.Calm k (l.restart t deadline) where
  timers t' timer' found ticks := by
    simp only [Loop.restart, Table.find?_update] at found
    split at found
    · next same =>
      obtain ⟨timer, there, rfl⟩ := Option.map_eq_some_iff.mp found
      exact ⟨timer, same ▸ there, ticks, rfl⟩
    · exact ⟨timer', found, ticks, rfl⟩
  queue := id

theorem forward (ms : Nat) : l.Calm k (l.forward ms) where
  timers _ timer found ticks := ⟨timer, found, ticks, rfl⟩
  queue among := by
    simpa [Loop.forward] using among

theorem take : l.Calm k l.take.2 where
  timers t timer found ticks := by
    unfold Loop.take at found
    split at found <;> exact ⟨timer, found, ticks, rfl⟩
  queue among := by
    unfold Loop.take at among
    split at among
    · exact among
    · next queue => exact queue ▸ .tail _ among

end Loop.Calm

/-! ## What the past says of a timer -/

/-- What an entry is told of its connection after which nothing can be sent. -/
def ConnectionEvent.endsSending : ConnectionEvent → Bool
  | .disconnected | .canceled _ | .link .down => true
  | _ => false

/-- The timer of a controller is stopped, or the entry of the device that the controller observes, or the
controller itself, learns that nothing more can be sent. -/
def Occurrence.stops (k : ControllerId) : Occurrence → Bool
  | .stilled k' => k' = k
  | .heeded _ _ _ event observer _ => event.endsSending && observer = some k
  | .noticed k' _ event _ => Controller.endsSending event && k' = k
  | _ => false

/-- By the past, the newest first, the timer of a controller was started and has not been stopped since. -/
def Winds (k : ControllerId) : List Happening → Prop
  | [] => False
  | y :: past => y.what = .wound k ∨ y.what.stops k = false ∧ Winds k past

/-- By the past a timer beats, and when its turn began the timer of the controller was wound. -/
def InTurn (k : ControllerId) (past : List Happening) : Prop :=
  ∃ t newer older, past = ⟨t, .beats older.length⟩ :: (newer ++ older) ∧ Winds k older

/-- In the past the controller told of a beat in such turns only. -/
def TicksInTurn (k : ControllerId) : List Happening → Prop
  | [] => True
  | y :: past => (y.what = .ticked k → InTurn k past) ∧ TicksInTurn k past

theorem TicksInTurn.inTurn {older : List Happening} {t : Nat} :
    ∀ {newer : List Happening}, TicksInTurn k (newer ++ ⟨t, .ticked k⟩ :: older) → InTurn k older
  | [], timely => timely.1 rfl
  | _ :: _, timely => inTurn timely.2

theorem Winds.start {past : List Happening} (winds : Winds k past) :
    ∃ newer t older, past = newer ++ ⟨t, .wound k⟩ :: older ∧ ∀ y ∈ newer, y.what.stops k = false := by
  induction past with
  | nil => cases winds
  | cons y past ih =>
    obtain ⟨time, what⟩ := y
    rcases winds with start | ⟨goes, winds⟩
    · obtain rfl : what = .wound k := start
      exact ⟨[], time, past, rfl, by simp⟩
    · obtain ⟨newer, t, older, rfl, none⟩ := ih winds
      exact ⟨⟨time, what⟩ :: newer, t, older, rfl, List.forall_mem_cons.mpr ⟨goes, none⟩⟩

/-! ## Controllers and their timers -/

/-- The loop ticks for a controller by the timer that the controller knows, which comes round again and
again.  By the history that timer was started and, if that is asked strictly, has not been stopped. -/
structure World.Clocked (w : World σ) (k : ControllerId) (strict : Prop := True) : Prop where
  timers : ∀ t timer, w.loop.timers.find? t = some timer → timer.job = .tick k →
    timer.period.isSome ∧ ∃ x, w.controllers.find? k = some x ∧ x.timer = some t
  queue : .run (.tick k) ∉ w.loop.queue
  winds : strict → ∀ t timer, w.loop.timers.find? t = some timer → timer.job = .tick k →
    Winds k w.history
  timely : TicksInTurn k w.history

def World.Still (w : World σ) (k : ControllerId) : Prop :=
  ∀ t timer, w.loop.timers.find? t = some timer → timer.job ≠ .tick k

structure Paces (k : ControllerId) (strict : Prop) (w w' : World σ) : Prop where
  history : w.history <:+ w'.history
  clocked : w'.Clocked k strict

def KeepsPace (k : ControllerId) (strict : Prop) (w w' : World σ) : Prop :=
  w.Clocked k strict → Paces k strict w w'

namespace World.Clocked

theorem knows (clocked : w.Clocked k strict) {t : TimerId} {timer : Timer}
    (found : w.loop.timers.find? t = some timer) (ticks : timer.job = .tick k) {x : Controller}
    (seated : w.controllers.find? k = some x) : x.timer = some t := by
  obtain ⟨-, y, there, own⟩ := clocked.timers t timer found ticks
  rwa [Option.some.inj (seated.symm.trans there)]

theorem weaken (clocked : w.Clocked k strict) : w.Clocked k False := { clocked with winds := False.elim }

theorem of_still (clocked : w.Clocked k strict) (still : w.Still k) : w.Clocked k strict' :=
  { clocked with winds := fun _ t timer found ticks => absurd ticks (still t timer found) }

theorem still (clocked : w.Clocked k strict)
    (idle : ∀ x, w.controllers.find? k = some x → x.timer = none) : w.Still k := by
  intro t timer found ticks
  obtain ⟨-, x, there, own⟩ := clocked.timers t timer found ticks
  cases (idle x there).symm.trans own

end World.Clocked

namespace KeepsPace

theorem of_row (calm : w.loop.Calm k w'.loop) (history : w'.history = w.history)
    (row : ∀ x, w.controllers.find? k = some x →
      ∃ x', w'.controllers.find? k = some x' ∧ x'.timer = x.timer) : KeepsPace k strict w w' := by
  refine fun clocked => ⟨history ▸ List.suffix_rfl, fun t timer' found ticks => ?_,
    clocked.queue ∘ calm.queue, fun holds t timer' found ticks => ?_, history ▸ clocked.timely⟩
  · obtain ⟨timer, there, ticks, period⟩ := calm.timers t timer' found ticks
    obtain ⟨periodic, x, seated, own⟩ := clocked.timers t timer there ticks
    obtain ⟨x', seated', same⟩ := row x seated
    exact ⟨period ▸ periodic, x', seated', same.trans own⟩
  · obtain ⟨timer, there, ticks, -⟩ := calm.timers t timer' found ticks
    exact history ▸ clocked.winds holds t timer there ticks

theorem of_loop (controllers : w'.controllers = w.controllers) (history : w'.history = w.history)
    (calm : w.loop.Calm k w'.loop) : KeepsPace k strict w w' :=
  of_row calm history fun x there => ⟨x, controllers ▸ there, rfl⟩

theorem aside (controllers : w'.controllers = w.controllers) (loop : w'.loop = w.loop)
    (history : w'.history = w.history) : KeepsPace k strict w w' :=
  of_loop controllers history (by rw [loop]; exact .refl w.loop)

theorem refl (w : World σ) : KeepsPace k strict w w := aside rfl rfl rfl

theorem trans (first : KeepsPace k strict w w') (second : KeepsPace k strict w' w'') :
    KeepsPace k strict w w'' := fun clocked =>
  have next := second (first clocked).clocked
  ⟨(first clocked).history.trans next.history, next.clocked⟩

theorem mark (w : World σ) (o : Occurrence) (other : o ≠ .ticked k)
    (goes : strict → o.stops k = false) : KeepsPace k strict w (w.mark o) := fun clocked =>
  { history := List.suffix_cons _ _
    clocked :=
      { timers := clocked.timers
        queue := clocked.queue
        winds := fun holds t timer found ticks =>
          .inr ⟨goes holds, clocked.winds holds t timer found ticks⟩
        timely := ⟨fun ticked => absurd ticked other, clocked.timely⟩ } }

theorem log (w : World σ) (s : Severity) (message : String) (fields : List (String × String)) :
    KeepsPace k strict w (w.log s message fields) := by
  obtain ⟨journal, same⟩ := w.log_journal s message fields
  rw [same]
  exact aside rfl rfl rfl

theorem update (w : World σ) {f : Controller → Controller}
    (same : k' = k → ∀ x : Controller, (f x).timer = x.timer) :
    KeepsPace k strict w (w.updateController k' f) := by
  refine of_row (.refl w.loop) rfl fun x there => ?_
  simp only [World.updateController, Table.find?_update]
  split
  · next own => exact ⟨f x, by rw [own, there]; rfl, same own x⟩
  · exact ⟨x, there, rfl⟩

theorem retire (k' : ControllerId) (w : World σ) :
    KeepsPace k strict w (w.retire (.controller k')) := by
  by_cases own : k' = k
  · -- The timer goes with the controller, and there was no other that ticked for it.
    subst own
    intro clocked
    have still : (w.retire (.controller k')).Still k' := by
      intro t timer found ticks
      simp only [World.retire, World.hush, World.erase] at found
      obtain ⟨there, other⟩ := Loop.find?_cancel? found
      obtain ⟨-, x, seated, knows⟩ := clocked.timers t timer there ticks
      exact other (by simp [World.item?, seated, Item.timer?, knows])
    refine ⟨List.suffix_rfl, fun t timer found ticks => absurd ticks (still t timer found),
      fun among => clocked.queue ((Loop.Calm.cancel? _).queue among),
      fun _ t timer found ticks => absurd ticks (still t timer found), clocked.timely⟩
  · refine of_row (.cancel? _) rfl fun x there => ⟨x, ?_, rfl⟩
    simp only [World.retire, World.hush, World.erase, Table.find?_erase, if_neg own, there]

instance minds : MindsTimers (σ := σ) (KeepsPace k strict) where
  aside := aside
  trans := trans
  mark w o quiet := mark w o (by rintro rfl; simp [Occurrence.topic] at quiet) fun _ => by
    cases o <;> first | rfl | simp [Occurrence.topic] at quiet
  shared _ _ w := update w fun _ _ => rfl
  retired := retire
  canceled t _ := of_loop rfl rfl (.cancel t)
  retried delay _ _ := of_loop rfl rfl (.after (by simp) delay)

end KeepsPace

/-! ## Timers come and go -/

namespace Controller

theorem stopTimer_eq (k : ControllerId) (w : World σ) :
    (stopTimer k).run w = match (w.controller k).timer with
      | none => (false, w.mark (.stilled k))
      | some t => (true,
          ({ (w.mark (.stilled k)).updateController k (fun x => { x with timer := none }) with
            loop := w.loop.cancel t } : World σ).log .debug "Non-ack timer stopped"
              [("device", (w.controller k).device.label)]) := by
  have own : (w.mark (.stilled k)).controller k = w.controller k := rfl
  unfold stopTimer
  rw [run_bind, run_mark, run_bind, run_get]
  dsimp only
  rw [own]
  cases (w.controller k).timer <;> rfl

theorem stopTimer_history (k : ControllerId) (w : World σ) :
    ((stopTimer k).run w).2.history = ⟨w.loop.clock, .stilled k⟩ :: w.history := by
  rw [stopTimer_eq]
  cases (w.controller k).timer with
  | none => rfl
  | some t => exact World.log_history _ _ _ _

theorem stopTimer_row {x : Controller} (seated : w.controllers.find? k = some x) :
    ((stopTimer k).run w).2.controllers.find? k = some { x with timer := none } := by
  have own : w.controller k = x := World.controller_of_find? seated
  rw [stopTimer_eq, own]
  cases timer : x.timer with
  | none =>
    change w.controllers.find? k = _
    rw [seated, ← timer]
  | some t =>
    simp [World.log_controllers, World.updateController, Table.find?_update, World.mark, seated]

theorem stopTimer_stills (clocked : w.Clocked k strict) :
    ((stopTimer k).run w).2.Still k ∧ ((stopTimer k).run w).2.Clocked k := by
  have marked := (KeepsPace.mark w (.stilled k) (by simp) False.elim clocked.weaken).clocked
  rw [stopTimer_eq]
  cases timer : (w.controller k).timer with
  | none =>
    have still := marked.still fun x there => (World.controller_of_find? there).symm ▸ timer
    exact ⟨still, marked.of_still still⟩
  | some t =>
    dsimp only
    generalize ran : ({ (w.mark (.stilled k)).updateController k (fun x => { x with timer := none }) with
      loop := w.loop.cancel t } : World σ) = u
    have still : u.Still k := by
      subst ran
      intro t' timer' found ticks
      have there := Loop.find?_cancel found
      obtain ⟨-, x, seated, own⟩ := clocked.timers t' timer' there ticks
      rw [World.controller_of_find? seated, own] at timer
      simp [Loop.cancel, Table.find?_erase, Option.some.inj timer] at found
    have clocked' : u.Clocked k := by
      refine ⟨fun t' timer' found ticks => absurd ticks (still t' timer' found), ?_,
        fun _ t' timer' found ticks => absurd ticks (still t' timer' found), ?_⟩
      · subst ran
        exact clocked.queue
      · subst ran
        exact marked.timely
    obtain ⟨journal, logged⟩ := u.log_journal .debug "Non-ack timer stopped"
      [("device", (w.controller k).device.label)]
    rw [logged]
    exact ⟨still, { clocked' with }⟩

theorem stopTimer_keepsPace (k : ControllerId) (w : World σ) :
    KeepsPace k strict w ((stopTimer k).run w).2 := by
  intro clocked
  obtain ⟨still, stopped⟩ := stopTimer_stills clocked
  exact ⟨stopTimer_history k w ▸ List.suffix_cons _ _, stopped.of_still still⟩

theorem run_prepare_ending {event : DeviceEvent} (ends : endsSending event) :
    (prepare env k event).run w = ((), ((stopTimer k).run w).2) := by
  cases event with
  | disconnected _ => rfl
  | canceled _ _ => rfl
  | link status =>
    cases status with
    | down => rfl
    | _ => cases ends
  | _ => cases ends

theorem known_of_idle (idle : (w.controller k).timer = none) :
    w.controllers.find? k = some (w.controller k) := by
  unfold World.controller Table.get at idle ⊢
  cases row : w.controllers.find? k with
  | none =>
    rw [row] at idle
    exact absurd idle (by decide)
  | some x => rfl

theorem begin_keepsPace (idle : (w.controller k).timer = none) (period : Nat) :
    KeepsPace k strict w ((World.updateController
      { w with loop := (w.loop.periodic period (.tick k)).2 } k fun x =>
        { x with timer := some (w.loop.periodic period (.tick k)).1, starts := x.starts + 1 }).mark
          (.wound k)) := by
  have known := known_of_idle idle
  refine fun clocked => ⟨List.suffix_cons _ _, fun t timer found ticks => ?_, clocked.queue,
    fun _ _ _ _ _ => .inl rfl, by simp, clocked.timely⟩
  have still := clocked.still fun x there => by
    rwa [Option.some.inj (there.symm.trans known)]
  simp only [World.mark, World.updateController, Loop.periodic, Table.find?_add] at found
  split at found
  · next same =>
    obtain rfl := Option.some.inj found
    refine ⟨rfl, { w.controller k with timer := some t, starts := (w.controller k).starts + 1 }, ?_, rfl⟩
    simp only [World.mark, World.updateController, Table.find?_update, if_true, known, Option.map_some]
    rw [← same]
    rfl
  · exact absurd ticks (still t timer found)

theorem startTimer_keepsPace (k : ControllerId) (period : UInt32) :
    Holds (Keeps (σ := σ) (KeepsPace k strict)) (startTimer k period).run := by
  refine ⟨fun w => ?_⟩
  unfold startTimer
  rw [run_lookThen]
  dsimp only
  split
  · exact .refl w
  split
  · exact .log w _ _ _
  next idle =>
  rw [run_actThen, run_actThen, run_actThen, run_modify, run_mark]
  refine .trans ?_ (.log _ _ _ _)
  exact begin_keepsPace (Option.not_isSome_iff_eq_none.mp idle) _

end Controller

namespace KeepsPace

instance timerLives : TimerLives (Keeps (σ := σ) (KeepsPace k strict)) where
  stopTimer k' := by
    by_cases own : k' = k
    · exact own ▸ ⟨Controller.stopTimer_keepsPace k'⟩
    · have cleared : Holds (Keeps (σ := σ) (KeepsPace k strict))
          (modify (·.updateController k' fun x => { x with timer := none })) :=
        ⟨fun w => .update w fun same => absurd same own⟩
      exact Controller.stopTimer_of_clear k' (fun t => ⟨fun w => .of_loop rfl rfl (.cancel t)⟩)
        ⟨fun w => .mark w _ (by simp) fun _ => by simp [Occurrence.stops, own]⟩
  scheduleCall delay l := ⟨fun w => .of_loop rfl rfl (.after (by simp) delay)⟩
  scheduleCalls period l := ⟨fun w => .of_loop rfl rfl (.periodic (by simp) period)⟩
  deferCall l := ⟨fun w => .of_loop rfl rfl (.defer (by simp))⟩
  deferEstablish c channel api := ⟨fun w => .of_loop rfl rfl (.defer (by simp))⟩
  dropToken k' := ⟨fun w => .update w fun _ _ => rfl⟩

instance timerStarts : TimerStarts (Keeps (σ := σ) (KeepsPace k strict)) where
  startTimer k' period := by
    by_cases own : k' = k
    · exact own ▸ Controller.startTimer_keepsPace k' period
    · have scheduled : Holds (Keeps (σ := σ) (KeepsPace k strict))
          (schedulePeriodic period.toNat (.tick k')) :=
        ⟨fun w => .of_loop rfl rfl (.periodic (by simpa using own) _)⟩
      have noted : ∀ t, Holds (Keeps (σ := σ) (KeepsPace k strict)) (modify
          (·.updateController k' fun x => { x with timer := some t, starts := x.starts + 1 })) :=
        fun _ => ⟨fun w => .update w fun same => absurd same own⟩
      have wound : Holds (Keeps (σ := σ) (KeepsPace k strict)) (DroneControl.mark (.wound k')) :=
        ⟨fun w => .mark w _ (by simp) fun _ => rfl⟩
      unfold Controller.startTimer
      dsimp only
      infer_instance

theorem notesTick (k' : ControllerId) :
    Holds (Keeps (σ := σ) (KeepsPace k strict)) (modify (·.updateController k' (·.noteTick))) :=
  ⟨fun w => .update w fun _ _ => rfl⟩

instance registryLives : RegistryLives (Keeps (σ := σ) (KeepsPace k strict)) := by
  refine Registry.lives_of_controllers fun device registry listener token w => ?_
  rw [run_modifyGet]
  refine .of_row (.refl _) rfl fun y there => ⟨y, ?_, rfl⟩
  rw [Table.find?_add, if_neg, there]
  rintro rfl
  exact lt_irrefl _ (Table.lt_next there)

instance alone : Alone (Keeps (σ := σ) (KeepsPace k strict)) where

/-! ## What a controller hears -/

section

variable [Upheld (Keeps (KeepsPace k True)) env]

variable (env) in
theorem notify_paces {event : DeviceEvent} (ends : Controller.endsSending event) (c : ConnectionId)
    (clocked : w.Clocked k strict) : Paces k True w ((Controller.notify env k c event).run w).2 := by
  unfold Controller.notify
  rw [run_ifKept]
  split
  · let w₁ := w.reshare (· + 1) (.controller k)
    let w₂ := ((Controller.stopTimer k).run w₁).2
    let w₃ := w₂.mark (.noticed k c event (Controller.isReady w₂ k))
    have shared := minds.shared k (· + 1) w clocked
    have stilled := Controller.stopTimer_keepsPace k w₁ shared.clocked
    obtain ⟨still, stopped⟩ := Controller.stopTimer_stills shared.clocked
    have noticed : Paces k False w₂ w₃ := mark w₂ _ (by simp) False.elim stopped.weaken
    have told : Holds (Keeps (KeepsPace k True)) (do
        env.tell ((← get).controller k).listener (.device event)
        release env (.controller k)) := inferInstance
    have rest := told.holds w₃ (noticed.clocked.of_still still)
    rw [run_keeping, run_bind, Controller.run_prepare_ending ends]
    exact ⟨((shared.history.trans stilled.history).trans noticed.history).trans rest.history, rest.clocked⟩
  · next gone =>
    refine ⟨List.suffix_rfl, clocked.of_still (clocked.still fun x there => ?_)⟩
    exact absurd (by simp [World.isKept, World.item?, there]) gone

instance notifies (c : ConnectionId) (event : DeviceEvent) :
    Notifies (Keeps (KeepsPace k True)) env c event where
  notify k' := by
    by_cases own : Controller.endsSending event ∧ k' = k
    · obtain ⟨ends, rfl⟩ := own
      exact ⟨fun _ => notify_paces env ends c⟩
    · have noticed : ∀ ready, Holds (Keeps (σ := σ) (KeepsPace k True))
          (DroneControl.mark (.noticed k' c event ready)) := fun ready =>
        ⟨fun w => .mark w _ (by simp) fun _ => by simpa [Occurrence.stops] using own⟩
      have prepared : Holds (Keeps (KeepsPace k True)) (Controller.prepare env k' event) := by
        unfold Controller.prepare
        split <;> infer_instance
      unfold Controller.notify
      infer_instance

end

/-! ## How entries follow their connections -/

section

variable {r : RegistryId} {h : DeviceHandle} {c : ConnectionId} {event : ConnectionEvent}

theorem ignored (w : World σ) : KeepsPace k strict w (w.mark (.ignored r h c event)) :=
  .mark w _ (by simp) fun _ => rfl

theorem heed (w : World σ) (d : Device)
    (goes : strict → event.endsSending = false ∨ d.observer ≠ some k) :
    KeepsPace k strict w (w.heed r h c event d) := by
  have set : KeepsPace k strict w (w.updateRegistry r (·.setDevice h d)) := .aside rfl rfl rfl
  refine set.trans (.mark _ _ (by simp) fun holds => ?_)
  rcases goes holds with goes | other
  · simp [Occurrence.stops, goes]
  · simp [Occurrence.stops, other]

def Alerts (k : ControllerId) (w : World σ) (r : RegistryId) (h : DeviceHandle) (c : ConnectionId)
    (event : ConnectionEvent) : Prop :=
  event.endsSending ∧ ∃ d e, (w.registry r).device? h = some d ∧ d.claim c = some e ∧ e.observer = some k

theorem claim (complaint : String) (calm : ¬Alerts k w r h c event) :
    KeepsPace k True w ((Entry.claim complaint r h c event).run w).2 := by
  rw [Entry.run_claim]
  cases hd : (w.registry r).device? h with
  | none => exact ignored w
  | some d =>
    dsimp only
    cases claims : d.claim c with
    | none => exact (ignored w).trans (.log _ _ _ _)
    | some e =>
      refine heed w e fun _ => ?_
      by_cases ends : event.endsSending
      · exact .inr fun own => calm ⟨ends, d, e, hd, claims, own⟩
      · exact .inl (Bool.eq_false_iff.mpr ends)

variable [Upheld (Keeps (KeepsPace k True)) env]

theorem pass (passed : DeviceEvent) (ends : event.endsSending → Controller.endsSending passed) :
    Holds (Keeps (KeepsPace k True)) (Entry.pass env r h c event passed) := by
  refine ⟨fun w => ?_⟩
  by_cases alerts : Alerts k w r h c event
  · obtain ⟨stops, d, e, hd, claims, own⟩ := alerts
    rw [Entry.run_pass env hd claims, own]
    have heeded : KeepsPace k False w (((w.reshare (· + 1) (.registry r)).heed r h c event e).reshare
        (· - 1) (.registry r)) :=
      .trans (.trans (.aside rfl rfl rfl) (heed _ e False.elim)) (.aside rfl rfl rfl)
    intro clocked
    have heeded := heeded clocked.weaken
    have told := notify_paces env (ends stops) c heeded.clocked
    exact ⟨heeded.history.trans told.history, told.clocked⟩
  · have claiming : KeepsPace k True w ((ifKept env (.registry r) none
        (Entry.claim "Event from a stale connection ignored" r h c event)).run w).2 := by
      rw [run_ifKept]
      split
      · have shared : KeepsPace k True w (w.reshare (· + 1) (.registry r)) := .aside rfl rfl rfl
        have calm : ¬Alerts k (w.reshare (· + 1) (.registry r)) r h c event := by
          simpa only [Alerts, Entry.device?_reshare] using alerts
        have released : Holds (Keeps (KeepsPace k True)) (release env (.registry r)) := inferInstance
        rw [run_keeping]
        exact (shared.trans (claim _ calm)).trans (released.holds _)
      · exact .refl w
    have told : ∀ observer, Holds (Keeps (KeepsPace k True))
        (Controller.notify? env observer c passed) := fun _ => inferInstance
    unfold Entry.pass
    rw [run_bind]
    exact claiming.trans ((told _).holds _)

theorem closed (quiet : Quiet env) {passed : Bool → DeviceEvent}
    (ends : ∀ removing, Controller.endsSending (passed removing)) :
    Holds (Keeps (KeepsPace k True)) (Entry.closed env r h c event passed) := by
  refine ⟨fun w => ?_⟩
  by_cases alerts : Alerts k w r h c event
  · obtain ⟨-, d, e, hd, claims, own⟩ := alerts
    have vacated : KeepsPace k False w (w.vacate r h c event e) :=
      .trans (.trans (.aside rfl rfl rfl) (heed _ e False.elim)) (.aside rfl rfl rfl)
    have dropped : Holds (Keeps (KeepsPace k False)) (Entry.dropInterface env e) := by
      have released : ∀ i, Holds (Keeps (KeepsPace k False)) (release env (.interface i)) :=
        fun i => ⟨fun w => by
          obtain ⟨_, _, _, t, same⟩ := quiet.run_release_interface i w
          rw [same]
          exact of_loop rfl rfl (.cancel? t)⟩
      unfold Entry.dropInterface
      cases e.interface <;> infer_instance
    have rest : Holds (Keeps (KeepsPace k True)) (do
        if e.state = .removing then Registry.finishRemoval env r h
        release env (.registry r)) := inferInstance
    rw [Entry.run_closed env hd claims, own, run_bind]
    -- The entry has taken the end for its own, but the timer stops only when the controller is told.  In
    -- between the interface closes, and nobody is called back.
    intro clocked
    have before := vacated.trans (dropped.holds _) clocked.weaken
    have told := notify_paces env (ends (e.state = .removing)) c before.clocked
    have after := rest.holds _ told.clocked
    exact ⟨(before.history.trans told.history).trans after.history, after.clocked⟩
  · have noted : ∀ u : World σ, KeepsPace k True u ((Entry.noteMissing r h).run u).2 ∧
        ((Entry.noteMissing r h).run u).2.registries = u.registries := by
      intro u
      unfold Entry.noteMissing
      rw [run_bind, run_get]
      split
      · exact ⟨.log _ _ _ _, World.log_registries _ _ _ _⟩
      · exact ⟨.refl u, rfl⟩
    unfold Entry.closed
    rw [run_ifKept]
    split
    · let w₁ := w.reshare (· + 1) (.registry r)
      let w₂ := ((Entry.noteMissing r h).run w₁).2
      have shared : KeepsPace k True w w₁ := .aside rfl rfl rfl
      obtain ⟨missed, registries⟩ := noted w₁
      have calm : ¬Alerts k w₂ r h c event := by
        have same : (w₂.registry r).device? h = (w.registry r).device? h := by
          rw [World.registry, registries]
          exact Entry.device?_reshare w _ _
        rwa [Alerts, same]
      have claimed := (shared.trans missed).trans (claim "Close of a stale connection ignored" calm)
      have released : Holds (Keeps (KeepsPace k True)) (release env (.registry r)) := inferInstance
      rw [run_keeping, run_bind, run_bind]
      generalize (Entry.claim "Close of a stale connection ignored" r h c event).run w₂ = result at claimed ⊢
      obtain ⟨_ | d, u⟩ := result
      · exact claimed.trans (released.holds u)
      · have cleared : Holds (Keeps (KeepsPace k True)) (Entry.clear env r h c passed d) := inferInstance
        exact (claimed.trans (cleared.holds u)).trans (released.holds _)
    · exact .refl w

theorem hearings (goes : event.endsSending = false) : Hears (Keeps (σ := σ) (KeepsPace k True)) c event where
  heeded _ _ _ _ := ⟨fun w => .mark w _ (by simp) fun _ => by simp [Occurrence.stops, goes]⟩
  ignored _ _ := ⟨fun w => ignored w⟩

theorem entryCalls (quiet : Quiet env) : EntryCalls (Keeps (KeepsPace k True)) env where
  follow r h c event := by
    unfold Entry.follow
    cases event with
    | connecting => exact pass _ nofun
    | connected p api =>
      have : Hears (Keeps (σ := σ) (KeepsPace k True)) c (.connected p api) := hearings rfl
      infer_instance
    | disconnected =>
      have shut : Holds (Keeps (KeepsPace k True))
          (Entry.closed env r h c .disconnected .disconnected) := closed quiet fun _ => rfl
      infer_instance
    | canceled reason =>
      have shut : Holds (Keeps (KeepsPace k True))
          (Entry.closed env r h c (.canceled reason) (.canceled reason)) := closed quiet fun _ => rfl
      infer_instance
    | link status =>
      refine pass _ fun ends => ?_
      cases status with
      | down => rfl
      | _ => cases ends

end

/-! ## The loop has its turns -/

section

variable [u : Upheld (Keeps (KeepsPace k True)) env] [ConnectionCalls (Keeps (KeepsPace k True)) env]

theorem perform_other {job : Job} (other : job ≠ .tick k) :
    Holds (Keeps (KeepsPace k True)) (Loop.perform env job) := by
  refine Loop.perform_of (fun _ _ => inferInstance) fun k' same => ?_
  have ne : k' ≠ k := fun own => other (same.trans (congrArg Job.tick own))
  have noted : Holds (Keeps (σ := σ) (KeepsPace k True)) (modify (·.updateController k' (·.noteTick))) :=
    notesTick k'
  have ticked : Holds (Keeps (σ := σ) (KeepsPace k True)) (DroneControl.mark (.ticked k')) :=
    ⟨fun w => .mark w _ (by simpa using ne) fun _ => rfl⟩
  infer_instance

omit [ConnectionCalls (Keeps (KeepsPace k True)) env] in
variable (env) in
theorem tick_paces (turn : InTurn k w.history) :
    KeepsPace k True w ((Controller.tick env k).run w).2 := by
  intro clocked
  unfold Controller.tick
  rw [run_ifKept]
  split
  · let w₁ := (w.reshare (· + 1) (.controller k)).updateController k (·.noteTick)
    have noted : KeepsPace k True w w₁ := (minds.shared k (· + 1) w).trans ((notesTick k).holds _)
    have before := noted clocked
    have ticked : (w₁.mark (.ticked k)).Clocked k :=
      { timers := before.clocked.timers
        queue := before.clocked.queue
        winds := fun _ t timer found ticks => .inr ⟨rfl, before.clocked.winds trivial t timer found ticks⟩
        timely := ⟨fun _ => turn, before.clocked.timely⟩ }
    have told : Holds (Keeps (KeepsPace k True)) (do
        env.tell ((← get).controller k).listener (.device .tick)
        release env (.controller k)) := inferInstance
    have rest := told.holds _ ticked
    rw [run_keeping, run_bind, run_modify, run_bind, run_mark]
    exact ⟨(List.suffix_cons _ _).trans rest.history, rest.clocked⟩
  · exact ⟨List.suffix_rfl, clocked⟩

omit [ConnectionCalls (Keeps (KeepsPace k True)) env] in
variable (env) in
theorem beat_paces (winds : Winds k w.history) (period now deadline fuel : Nat)
    (paces : Paces k True w w') :
    Paces k True w ((Loop.beat env (.tick k) w.history.length period now deadline fuel).run w').2 := by
  induction fuel generalizing w' deadline with
  | zero => exact paces
  | succ fuel ih =>
    unfold Loop.beat
    split
    · let w₁ := w'.mark (.beats w.history.length)
      have beaten : Paces k True w' w₁ := mark w' _ (by simp) (fun _ => rfl) paces.clocked
      obtain ⟨newer, grown⟩ := paces.history
      have turn : InTurn k w₁.history := ⟨_, newer, w.history, by rw [grown]; rfl, winds⟩
      have told := tick_paces env turn beaten.clocked
      rw [run_bind, run_mark, run_bind]
      exact ih _ ⟨(paces.history.trans beaten.history).trans told.history, told.clocked⟩
    · exact paces

theorem wake_keepsPace (t : TimerId) (w : World σ) :
    KeepsPace k True w ((Loop.wake env t).run w).2 := by
  by_cases own : ∃ timer, w.loop.timers.find? t = some timer ∧ timer.job = .tick k
  · intro clocked
    obtain ⟨timer, found, ticks⟩ := own
    have winds := clocked.winds trivial t timer found ticks
    obtain ⟨period, comes⟩ := Option.isSome_iff_exists.mp (clocked.timers t timer found ticks).1
    have beaten := beat_paces env winds period w.loop.clock timer.deadline
      (w.loop.clock + 1 - timer.deadline) ⟨List.suffix_rfl, clocked⟩
    unfold Loop.wake
    rw [run_bind, run_get]
    simp only [found, comes, ticks]
    rw [run_bind, run_modify]
    have restarted : ∀ (u : World σ) deadline,
        KeepsPace k True u { u with loop := u.loop.restart t deadline } :=
      fun _ deadline => of_loop rfl rfl (.restart t deadline)
    exact ⟨beaten.history, (restarted _ _ beaten.clocked).clocked⟩
  · refine Loop.wake_of_perform (R := KeepsPace k True)
      (fun deadline => ⟨fun _ => of_loop rfl rfl (.restart t deadline)⟩)
      ⟨fun _ => of_loop rfl rfl (.cancel t)⟩ (fun turn => ⟨fun w => mark w _ (by simp) fun _ => rfl⟩)
      fun timer found => perform_other fun ticks => own ⟨timer, found, ticks⟩

theorem runTask_keepsPace {task : Task} (other : task ≠ .run (.tick k)) (w : World σ) :
    KeepsPace k True w ((Loop.runTask env task).run w).2 := by
  cases task with
  | run job => exact (perform_other fun ticks => other (congrArg Task.run ticks)).holds w
  | wake t => exact wake_keepsPace t w

theorem drain_keepsPace (fuel : Nat) (w : World σ) :
    KeepsPace k True w ((Loop.drain env fuel).run w).2 := by
  induction fuel generalizing w with
  | zero => exact .refl w
  | succ fuel ih =>
    have taken : KeepsPace k True w { w with loop := w.loop.take.2 } := .of_loop rfl rfl .take
    unfold Loop.drain Loop.takeTask
    rw [run_bind, run_modifyGet]
    unfold Loop.take at taken ⊢
    cases queue : w.loop.queue with
    | nil => exact .refl w
    | cons task rest =>
      simp only [queue] at taken ⊢
      rw [run_bind]
      refine fun clocked => (taken.trans ((runTask_keepsPace ?_ _).trans (ih _))) clocked
      rintro rfl
      exact clocked.queue (queue ▸ List.mem_cons_self)

end

theorem together (_ : Upheld (Keeps (KeepsPace k True)) env) (quiet : Quiet env) :
    Together (Keeps (KeepsPace k True)) env := by
  have := entryCalls (k := k) quiet
  have settles : ∀ extra, Holds (Keeps (KeepsPace k True)) (Loop.settle env extra) :=
    fun extra => ⟨fun w => drain_keepsPace _ w⟩
  have forwards : ∀ ms, Holds (Keeps (σ := σ) (KeepsPace k True)) (modify fun w =>
      { w with loop := w.loop.forward ms }) :=
    fun ms => ⟨fun w => .of_loop rfl rfl (.forward ms)⟩
  have : LoopCalls (Keeps (KeepsPace k True)) env := by
    refine ⟨settles, fun extra ms => ?_⟩
    unfold Loop.pass
    infer_instance
  exact {}

end KeepsPace

theorem World.clocked_empty (host : σ) (verbosity : Option Severity) :
    ({ host, verbosity } : World σ).Clocked k where
  timers t timer found := by cases (World.find?_empty t).symm.trans found
  queue := List.not_mem_nil
  winds _ t timer found := by cases (World.find?_empty t).symm.trans found
  timely := trivial

theorem Reached.clocked (reached : Reached w) (k : ControllerId) : w.Clocked k := by
  obtain ⟨host, verbosity, keeps⟩ : ∃ host verbosity, KeepsPace k True { host, verbosity } w :=
    reached.related fun _ u quiet => KeepsPace.together u quiet
  exact (keeps (World.clocked_empty host verbosity)).clocked

/-! ## Beats and stops -/

theorem Winds.after {past newer older : List Happening} {t : Nat} {o : Occurrence} (winds : Winds k past)
    (parts : past = newer ++ ⟨t, o⟩ :: older) (stops : o.stops k) :
    ∃ between t' before, newer = between ++ ⟨t', .wound k⟩ :: before := by
  induction newer generalizing past with
  | nil =>
    subst parts
    rcases winds with start | ⟨goes, -⟩
    · obtain rfl : o = .wound k := start
      cases stops
    · cases goes.symm.trans stops
  | cons y newer ih =>
    subst parts
    rcases winds with start | ⟨-, winds⟩
    · obtain ⟨t', what⟩ := y
      obtain rfl : what = .wound k := start
      exact ⟨[], t', newer, rfl⟩
    · obtain ⟨between, t', before, rfl⟩ := ih winds rfl
      exact ⟨y :: between, t', before, rfl⟩

theorem World.Clocked.rests (clocked : w.Clocked k) {i j : Nat} {o : Occurrence}
    (stop : w.HappenedAt i o) (stops : o.stops k) (later : i < j) (tick : w.HappenedAt j (.ticked k)) :
    (∃ s, i < s ∧ s < j ∧ w.HappenedAt s (.wound k)) ∨
      ∃ turn, turn ≤ i ∧ w.HappenedAt (j - 1) (.beats turn) := by
  obtain ⟨newer, t, older, parts, rfl⟩ := happenedAt_iff.mp tick
  obtain ⟨t', mid, begun, rfl, winds⟩ := TicksInTurn.inTurn (parts ▸ clocked.timely)
  by_cases underWay : begun.length ≤ i
  · refine .inr ⟨begun.length, underWay, happenedAt_iff.mpr ⟨newer ++ [⟨t, .ticked k⟩], t',
      mid ++ begun, by simp [parts], by simp⟩⟩
  · -- The turn began after the stop, when the timer was wound, so that it was started meanwhile.
    obtain ⟨newer', t'', older', parts', rfl⟩ := happenedAt_iff.mp stop
    have whole : begun <:+ w.history :=
      ⟨newer ++ ⟨t, .ticked k⟩ :: ⟨t', .beats begun.length⟩ :: mid, by simp [parts]⟩
    have stopped : ⟨t'', o⟩ :: older' <:+ w.history := ⟨newer', parts'.symm⟩
    obtain ⟨since, rest⟩ := List.suffix_of_suffix_length_le stopped whole
      (Nat.succ_le_of_lt (Nat.lt_of_not_le underWay))
    obtain ⟨between, s, before, rfl⟩ := winds.after rest.symm stops
    refine .inl ⟨(before ++ ⟨t'', o⟩ :: older').length, ?_, ?_, happenedAt_iff.mpr
      ⟨newer ++ ⟨t, .ticked k⟩ :: ⟨t', .beats begun.length⟩ :: (mid ++ between), s,
        before ++ ⟨t'', o⟩ :: older', by simp [parts, ← rest], rfl⟩⟩
    · simp only [List.length_append, List.length_cons]
      omega
    · simp only [← rest, List.length_append, List.length_cons]
      omega

/-- Whatever else is done, the first that happens is that the timer of the controller is stopped. -/
def Stills (k : ControllerId) (a : Act σ α) : Prop :=
  ∀ w : World σ, ⟨w.loop.clock, .stilled k⟩ :: w.history <:+ (a.run w).2.history

namespace Controller

theorem stills_of_stopTimer [Closed (Keeps (σ := σ) Recalls)] {next : Unit → Try σ α}
    (rest : Holds (Keeps Recalls) (next ()).run) :
    Stills k (discard (act (stopTimer k)) >>= next).run := by
  intro w
  rw [run_discardThen, ← stopTimer_history]
  exact rest.holds _

theorem haltTimer_stills (k : ControllerId) : Stills k (haltTimer k : Try σ Unit).run := by
  intro w
  rw [← stopTimer_history]
  unfold haltTimer
  rw [run_actThen]
  split <;> exact List.suffix_rfl

theorem disconnect_stills (hosted : Hosted env) (k : ControllerId) :
    Stills k (disconnect env k).run := by
  have := hosted.recalls
  exact stills_of_stopTimer inferInstance

theorem destroy_stills (hosted : Hosted env) (k : ControllerId) : Stills k (destroy env k).run := by
  have := hosted.recalls
  refine stills_of_stopTimer (Holds.tryBind (h := fun w => ?_))
  dsimp only
  split <;> infer_instance

theorem startTimer_history (k : ControllerId) (period : UInt32) (w : World σ) :
    ((startTimer k period).run.run w).2.history =
      if ((startTimer k period).run.run w).1 = .ok () then ⟨w.loop.clock, .wound k⟩ :: w.history
      else w.history := by
  unfold startTimer
  rw [run_lookThen]
  dsimp only
  split
  · rfl
  split
  · exact World.log_history _ _ _ _
  · rw [run_actThen, run_actThen, run_actThen, run_modify, run_mark]
    exact World.log_history _ _ _ _

end Controller

/-- To stop the timer of a controller, to disconnect its device and to destroy it all stop the timer before
anything else, and what counts as its start is a call that succeeded.  By the history between calls, a
beat that the listener is told of after a stop comes after a later start, or in a turn of the timer that
was under way at the stop.  A stop is also that the controller or an entry which it observes learns that
the connection has ended or its link is down.  Who called, and from within what, is no matter. -/
theorem Reached.rests_after_stop (reached : Reached w) (k : ControllerId) :
    (∀ env : Env σ, Hosted env → Stills k (Controller.haltTimer k : Try σ Unit).run ∧
      Stills k (Controller.disconnect env k).run ∧ Stills k (Controller.destroy env k).run) ∧
    (∀ (period : UInt32) (u : World σ), ((Controller.startTimer k period).run.run u).2.history =
      if ((Controller.startTimer k period).run.run u).1 = .ok () then
        ⟨u.loop.clock, .wound k⟩ :: u.history
      else u.history) ∧
    ∀ i j o, w.HappenedAt i o → o.stops k → i < j → w.HappenedAt j (.ticked k) →
      (∃ s, i < s ∧ s < j ∧ w.HappenedAt s (.wound k)) ∨
        ∃ turn, turn ≤ i ∧ w.HappenedAt (j - 1) (.beats turn) :=
  ⟨fun _ hosted => ⟨Controller.haltTimer_stills k, Controller.disconnect_stills hosted k,
      Controller.destroy_stills hosted k⟩,
    Controller.startTimer_history k,
    fun _ _ _ stop stops later tick => (reached.clocked k).rests stop stops later tick⟩

/-- A timer is started, and has its turns for a while.  Then it is stopped and started again. -/
def beating : Act Unit Unit := do
  let r ← Registry.create {} ⟨1⟩ none
  let _ ← (Backend.createNet silentHost r ⟨1⟩ 0 none).run
  let _ ← (Registry.addDevice silentHost r default ⟨1⟩).run
  let _ ← (Controller.create r ⟨1⟩ ⟨2⟩ none).run
  let _ ← (Controller.startTimer ⟨1⟩ 10).run
  Loop.pass silentHost 4 12
  let _ ← (Controller.haltTimer ⟨1⟩).run
  Loop.pass silentHost 4 100
  let _ ← (Controller.startTimer ⟨1⟩ 10).run
  Loop.pass silentHost 4 12

theorem beating_reached : Reached (beating.run { host := () }).2 := by
  refine ⟨silentHost, (), none, _, beating, silentHost_hosted, ?_, rfl⟩
  refine .bind (.basic (.inr (.createRegistry _ _ _))) fun r => ?_
  refine .bind (.basic (.inr (.createNet _ _ _ _))) fun _ => ?_
  refine .bind (.basic (.inr (.addDevice _ _ _))) fun _ => ?_
  refine .bind (.basic (.inr (.createController _ _ _ _))) fun _ => ?_
  refine .bind (.basic (.inr (.startTimer _ _))) fun _ => ?_
  refine .bind (.basic (.inr (.pass _ _))) fun _ => ?_
  refine .bind (.basic (.inr (.haltTimer _))) fun _ => ?_
  refine .bind (.basic (.inr (.pass _ _))) fun _ => ?_
  exact .bind (.basic (.inr (.startTimer _ _))) fun _ => .basic (.inr (.pass _ _))

theorem beating_rests_after_stop :
    (beating.run { host := () }).2.HappenedAt 6 (.stilled ⟨1⟩) ∧
      (beating.run { host := () }).2.HappenedAt 9 (.ticked ⟨1⟩) ∧
      ∃ s, 6 < s ∧ s < 9 ∧ (beating.run { host := () }).2.HappenedAt s (.wound ⟨1⟩) := by
  have reached := beating_reached
  -- The world is known by what is computed of its history, and need not be opened again.
  generalize run : (beating.run { host := () }).2 = w at reached ⊢
  have stop : w.HappenedAt 6 (.stilled ⟨1⟩) := by rw [← run]; decide +kernel
  have tick : w.HappenedAt 9 (.ticked ⟨1⟩) := by rw [← run]; decide +kernel
  have turn : w.HappenedAt 8 (.beats 8) := by rw [← run]; decide +kernel
  refine ⟨stop, tick, ?_⟩
  obtain ⟨-, -, rests⟩ := reached.rests_after_stop ⟨1⟩
  rcases rests 6 9 _ stop (by decide) (by decide) tick with started | ⟨begun, before, beats⟩
  · exact started
  · have same := Option.some.inj (turn.symm.trans beats)
    simp only [Occurrence.beats.injEq] at same
    omega

end DroneControl
