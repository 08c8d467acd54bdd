import DroneControl.Proofs.Interface.Retrying

/-!
# Timers that last

Beats, retries of commands and calls that were handed in leave the timers of controllers running, as long as
the host does.  Only where an attempt of a connection comes to its end, a timer may be stopped with it.
-/

set_option synthInstance.maxSize 2048

namespace DroneControl

variable {σ α : Type} {k : ControllerId} {i : InterfaceId} {t : TimerId} {w w' w'' : World σ}
  {env : Env σ} {lent : Kept → Nat}

/-- Work that is not about an attempt of a connection. -/
def Job.isPlain : Job → Bool
  | .establish _ _ _ => false
  | _ => true

/-- The loop has nothing to do for an attempt of a connection. -/
structure Loop.Plain (l : Loop) : Prop where
  timers : ∀ t timer, l.timers.find? t = some timer → timer.job.isPlain
  queue : ∀ job, .run job ∈ l.queue → job.isPlain

/-- Time stands still, the loop takes on plain work at most, interfaces name their own timers, and every
controller stays and keeps the timer that it has.  A controller or an interface that was lent so many times
is kept by so many more than before, at least. -/
structure Unmoved (lent : Kept → Nat) (w w' : World σ) : Prop where
  clock : w'.loop.clock = w.loop.clock
  plain : w.loop.Plain → w'.loop.Plain
  own : ∀ i, w'.NamesOwn i
  controller : ∀ k x, w.controllers.find? k = some x → ∃ x', w'.controllers.find? k = some x' ∧
    x'.timer = x.timer ∧ x'.starts = x.starts ∧ x.sharers + lent (.controller k) ≤ x'.sharers
  interface : ∀ i x, w.interfaces.find? i = some x → ∃ x', w'.interfaces.find? i = some x' ∧
    x.sharers + lent (.interface i) ≤ x'.sharers
  lasting : ∀ k x t timer, w.controllers.find? k = some x → x.timer = some t →
    w.loop.timers.find? t = some timer → timer.period.isSome →
    ∃ timer', w'.loop.timers.find? t = some timer' ∧ timer'.period = timer.period

def Undisturbed (w w' : World σ) : Prop := (∀ i, w.NamesOwn i) → Unmoved (fun _ => 0) w w'

theorem Unmoved.trans (first : Unmoved lent w w') (second : Undisturbed w' w'') :
    Unmoved lent w w'' := by
  have second := second first.own
  refine ⟨second.clock.trans first.clock, second.plain ∘ first.plain, second.own, fun k x there => ?_,
    fun i x there => ?_, fun k x t timer there knows found periodic => ?_⟩
  · obtain ⟨x', there', timer', starts', sharers'⟩ := first.controller k x there
    obtain ⟨x'', there'', timer'', starts'', sharers''⟩ := second.controller k x' there'
    exact ⟨x'', there'', timer''.trans timer', starts''.trans starts', Nat.le_trans sharers' sharers''⟩
  · obtain ⟨x', there', sharers'⟩ := first.interface i x there
    obtain ⟨x'', there'', sharers''⟩ := second.interface i x' there'
    exact ⟨x'', there'', Nat.le_trans sharers' sharers''⟩
  · obtain ⟨x', there', timer', -⟩ := first.controller k x there
    obtain ⟨next, found', same'⟩ := first.lasting k x t timer there knows found periodic
    obtain ⟨last, found'', same''⟩ :=
      second.lasting k x' t next there' (timer'.trans knows) found' (same' ▸ periodic)
    exact ⟨last, found'', same''.trans same'⟩

namespace Undisturbed

theorem trans (first : Undisturbed w w') (second : Undisturbed w' w'') : Undisturbed w w'' :=
  fun own => (first own).trans second

theorem of_loop (controllers : w'.controllers = w.controllers)
    (interfaces : w'.interfaces = w.interfaces) (clock : w'.loop.clock = w.loop.clock)
    (goesOn : w.loop.GoesOn w'.loop)
    (plain : w.loop.Plain → w'.loop.Plain)
    (lasting : ∀ t timer, w.loop.timers.find? t = some timer → timer.period.isSome →
      ∃ timer', w'.loop.timers.find? t = some timer' ∧ timer'.period = timer.period) :
    Undisturbed w w' := fun own =>
  { clock, plain
    own := fun i => (own i).later (fun x here => ⟨x, interfaces ▸ here, rfl⟩) goesOn
    controller := fun _ x there => ⟨x, controllers ▸ there, rfl, rfl, le_rfl⟩
    interface := fun _ x there => ⟨x, interfaces ▸ there, le_rfl⟩
    lasting := fun _ _ t timer _ _ => lasting t timer }

theorem aside (controllers : w'.controllers = w.controllers)
    (interfaces : w'.interfaces = w.interfaces) (loop : w'.loop = w.loop) : Undisturbed w w' :=
  of_loop controllers interfaces (by rw [loop]) (by rw [loop]; exact .refl w.loop)
    (fun plain => loop ▸ plain) fun _ timer found _ => ⟨timer, loop ▸ found, rfl⟩

theorem refl (w : World σ) : Undisturbed w w := aside rfl rfl rfl

theorem cancel {timer : Timer} (there : w.loop.timers.find? t = some timer) (once : timer.period = none) :
    Undisturbed w { w with loop := w.loop.cancel t } := by
  refine of_loop rfl rfl rfl (.cancel t) (fun plain => ⟨fun t' timer' found => ?_, plain.queue⟩)
    fun t' timer' found periodic => ⟨timer', ?_, rfl⟩
  · exact plain.timers t' timer' (Loop.find?_cancel found)
  · rw [Loop.cancel, Table.find?_erase, if_neg, found]
    rintro rfl
    cases there.symm.trans found
    simp [once] at periodic

theorem restart (w : World σ) (t : TimerId) (deadline : Nat) :
    Undisturbed w { w with loop := w.loop.restart t deadline } := by
  refine of_loop rfl rfl rfl (.restart t deadline)
    (fun plain => ⟨fun t' timer' found => ?_, plain.queue⟩) fun t' timer' found periodic => ?_
  · simp only [Loop.restart, Table.find?_update] at found
    split at found
    · obtain ⟨timer, there, rfl⟩ := Option.map_eq_some_iff.mp found
      exact plain.timers t timer there
    · exact plain.timers t' timer' found
  · simp only [Loop.restart, Table.find?_update]
    split
    · next same => exact ⟨{ timer' with deadline }, by rw [same, found]; rfl, rfl⟩
    · exact ⟨timer', found, rfl⟩

theorem after (w : World σ) (i : InterfaceId) (delay : Nat) :
    Undisturbed w { w with loop := (w.loop.after delay (.retry i)).2 } := by
  refine of_loop rfl rfl rfl (.add w.loop _ _)
    (fun plain => ⟨fun t timer found => ?_, fun job among => ?_⟩)
    fun t timer found periodic => ⟨timer, ?_, rfl⟩
  · simp only [Loop.after, Table.find?_add] at found
    split at found
    · rw [← Option.some.inj found]
      rfl
    · exact plain.timers t timer found
  · refine plain.queue job ?_
    simp only [Loop.after] at among
    split at among
    · simpa using among
    · exact among
  · simp only [Loop.after]
    rw [Table.find?_add, if_neg, found]
    rintro rfl
    exact lt_irrefl _ (Table.lt_next found)

theorem take (w : World σ) {rest : List Task} (behind : rest ⊆ w.loop.queue) :
    Undisturbed w { w with loop := { w.loop with queue := rest } } :=
  of_loop rfl rfl rfl (.requeue w.loop rest)
    (fun plain => ⟨plain.timers, fun job among => plain.queue job (behind among)⟩)
    fun _ timer found _ => ⟨timer, found, rfl⟩

theorem updateController (w : World σ) (k : ControllerId) {f : Controller → Controller}
    (same : ∀ x, (f x).timer = x.timer ∧ (f x).starts = x.starts ∧ x.sharers ≤ (f x).sharers) :
    Undisturbed w (w.updateController k f) := fun own =>
  { clock := rfl
    plain := id
    own := fun i => (own i).aside rfl rfl
    controller := fun j y there => by
      simp only [World.updateController, Table.find?_update]
      split
      · next own => exact ⟨f y, by rw [own, there]; rfl, same y⟩
      · exact ⟨y, there, rfl, rfl, le_rfl⟩
    interface := fun _ x there => ⟨x, there, le_rfl⟩
    lasting := fun _ _ _ timer _ _ found _ => ⟨timer, found, rfl⟩ }

theorem updateInterface (w : World σ) (i : InterfaceId) {f : Interface → Interface}
    (same : ∀ x, w.interfaces.find? i = some x →
      (f x).sharers = x.sharers ∧ (f x).retryTimer = x.retryTimer) :
    Undisturbed w (w.updateInterface i f) := fun own =>
  { clock := rfl
    plain := id
    own := fun j => (own j).update fun x there => (same x there).2
    controller := fun _ x there => ⟨x, there, rfl, rfl, le_rfl⟩
    interface := fun j y there => by
      simp only [World.updateInterface, Table.find?_update]
      split
      · next own =>
        subst own
        exact ⟨f y, by rw [there]; rfl, (same y there).1.ge⟩
      · exact ⟨y, there, le_rfl⟩
    lasting := fun _ _ _ timer _ _ found _ => ⟨timer, found, rfl⟩ }

theorem find?_cancel?_of_periodic (own : w.NamesOwn i) {timer : Timer}
    (found : w.loop.timers.find? t = some timer) (periodic : timer.period.isSome) :
    (w.loop.cancel? (w.interface i).retryTimer).timers.find? t = some timer := by
  cases names : (w.interface i).retryTimer with
  | none => exact found
  | some t' =>
    rw [Loop.cancel?, Loop.cancel, Table.find?_erase, if_neg, found]
    rintro rfl
    cases row : w.interfaces.find? i with
    | none =>
      rw [World.interface, Table.get, row] at names
      cases names
    | some x =>
      rw [World.interface_of_find? row] at names
      have once := ((own x t' row names).own timer found).2
      simp [once] at periodic

theorem setTimer (w : World σ) (timer : Option TimerId)
    (retries : ∀ t, timer = some t → w.loop.Retries i t) :
    Undisturbed w ((Interface.setTimer i timer).run w).2 := by
  intro own
  have own' : ∀ j, World.NamesOwn ((Interface.setTimer i timer).run w).2 j :=
    fun j => (own j).setTimer retries
  unfold Interface.setTimer at own' ⊢
  rw [run_bind, run_get, run_bind, run_cancelTimer?, run_modify] at own' ⊢
  refine ⟨Loop.cancel?_clock _, fun plain => ⟨fun t timer found => ?_, fun job among => ?_⟩, own',
    fun _ x there => ⟨x, there, rfl, rfl, le_rfl⟩, fun j y there => ?_,
    fun _ _ t timer _ _ found periodic =>
      ⟨timer, find?_cancel?_of_periodic (own i) found periodic, rfl⟩⟩
  · exact plain.timers t timer (Loop.find?_cancel? found).1
  · exact plain.queue job (Loop.cancel?_queue (l := w.loop) _ ▸ among)
  · simp only [World.updateInterface, Table.find?_update]
    split
    · next same => exact ⟨{ y with retryTimer := timer }, by rw [same, there]; rfl, le_rfl⟩
    · exact ⟨y, there, le_rfl⟩

/-! ## What is no matter of timers -/

instance heeds : Heeds (σ := σ) Undisturbed ⟨[.controllers, .interfaces, .loop], []⟩ :=
  .of_silent trans fun same =>
    aside (same .controllers (by decide)) (same .interfaces (by decide)) (same .loop (by decide))

instance footing : Footing (Keeps (σ := σ) Undisturbed) := Heeds.footing

instance steps (i : InterfaceId) : InterfaceSteps (Keeps (σ := σ) Undisturbed) i :=
  .of_setTimer trans (fun w _ => updateInterface w i) (fun w => after w i) setTimer
    fun _ _ => aside rfl rfl rfl

end Undisturbed

/-! ## Keeping things meanwhile -/

/-- How many more keep a thing while it is lent once. -/
def Kept.once (k : Kept) : Kept → Nat := fun k' => if k' = k then 1 else 0

namespace Unmoved

theorem lend (own : ∀ i, w.NamesOwn i) (k : Kept) : Unmoved k.once w (w.reshare (· + 1) k) := by
  have same : ∀ i, (w.reshare (· + 1) k).NamesOwn i := by
    intro i
    cases k with
    | interface j => exact (own i).update fun _ _ => rfl
    | _ => exact (own i).aside rfl rfl
  refine ⟨?_, ?_, same, fun j x there => ?_, fun j x there => ?_, ?_⟩
  · cases k <;> rfl
  · cases k <;> exact id
  · cases k with
    | controller j' =>
      simp only [World.reshare, World.updateController, Table.find?_update, Kept.once]
      split
      · next own =>
        exact ⟨{ x with sharers := x.sharers + 1 }, by rw [own, there]; rfl, rfl, rfl, by simp [own]⟩
      · next other => exact ⟨x, there, rfl, rfl, by simp [Ne.symm other]⟩
    | _ => exact ⟨x, there, rfl, rfl, by simp [Kept.once]⟩
  · cases k with
    | interface j' =>
      simp only [World.reshare, World.updateInterface, Table.find?_update, Kept.once]
      split
      · next own =>
        exact ⟨{ x with sharers := x.sharers + 1 }, by rw [own, there]; rfl, by simp [own]⟩
      · next other => exact ⟨x, there, by simp [Ne.symm other]⟩
    | _ => exact ⟨x, there, by simp [Kept.once]⟩
  · cases k <;> exact fun _ _ _ timer _ _ found _ => ⟨timer, found, rfl⟩

theorem releaseController (lent : Unmoved (Kept.once (.controller k)) w w') {x : Controller}
    (seated : w.controllers.find? k = some x) :
    Unmoved (fun _ => 0) w ((release env (.controller k)).run w').2 := by
  obtain ⟨x', there, -, -, more⟩ := lent.controller k x seated
  have item : w'.item? (.controller k) = some (.controller x') := by
    rw [World.item?, there, Option.map_some]
  have kept : x'.sharers ≠ 0 := by
    simp only [Kept.once, if_true] at more
    omega
  rw [run_release item kept]
  refine ⟨lent.clock, lent.plain, fun i => (lent.own i).aside rfl rfl, fun j y before => ?_,
    lent.interface, lent.lasting⟩
  obtain ⟨y', after, timer, starts, shared⟩ := lent.controller j y before
  simp only [World.reshare, World.updateController, Table.find?_update]
  split
  · next own =>
    subst own
    simp only [Kept.once, if_true] at shared
    exact ⟨{ y' with sharers := y'.sharers - 1 }, by rw [after]; rfl, timer, starts, by simp; omega⟩
  · exact ⟨y', after, timer, starts, Nat.le_of_add_right_le shared⟩

theorem releaseInterface (lent : Unmoved (Kept.once (.interface i)) w w') {x : Interface}
    (open' : w.interfaces.find? i = some x) :
    Unmoved (fun _ => 0) w ((release env (.interface i)).run w').2 := by
  obtain ⟨x', there, more⟩ := lent.interface i x open'
  have item : w'.item? (.interface i) = some (.interface x') := by
    rw [World.item?, there, Option.map_some]
  have kept : x'.sharers ≠ 0 := by
    simp only [Kept.once, if_true] at more
    omega
  rw [run_release item kept]
  refine ⟨lent.clock, lent.plain, fun j => (lent.own j).update fun _ _ => rfl, lent.controller,
    fun j y before => ?_, lent.lasting⟩
  obtain ⟨y', after, shared⟩ := lent.interface j y before
  simp only [World.reshare, World.updateInterface, Table.find?_update]
  split
  · next own =>
    subst own
    simp only [Kept.once, if_true] at shared
    exact ⟨{ y' with sharers := y'.sharers - 1 }, by rw [after]; rfl, by simp; omega⟩
  · exact ⟨y', after, Nat.le_of_add_right_le shared⟩

end Unmoved

/-! ## Turns of the loop -/

namespace Undisturbed

instance ifKept_controller (k : ControllerId) (a : Act σ Unit) [h : Holds (Keeps Undisturbed) a] :
    Holds (Keeps Undisturbed) (ifKept env (.controller k) () a) := by
  refine ⟨fun w own => ?_⟩
  rw [run_ifKept]
  split
  · next kept =>
    simp only [World.isKept, World.item?, Option.isSome_map] at kept
    obtain ⟨x, seated⟩ := Option.isSome_iff_exists.mp kept
    exact ((Unmoved.lend own _).trans (h.holds _)).releaseController seated
  · exact refl w own

instance ifKept_interface (i : InterfaceId) (a : Act σ Unit) [h : Holds (Keeps Undisturbed) a] :
    Holds (Keeps Undisturbed) (ifKept env (.interface i) () a) := by
  refine ⟨fun w own => ?_⟩
  rw [run_ifKept]
  split
  · next kept =>
    simp only [World.isKept, World.item?, Option.isSome_map] at kept
    obtain ⟨x, there⟩ := Option.isSome_iff_exists.mp kept
    exact ((Unmoved.lend own _).trans (h.holds _)).releaseInterface there
  · exact refl w own

variable [Served (Keeps Undisturbed) env]

theorem perform {job : Job} (plain : job.isPlain) : Holds (Keeps Undisturbed) (Loop.perform env job) := by
  unfold Loop.perform
  cases job with
  | tick k =>
    have noted : Holds (Keeps (σ := σ) Undisturbed) (modify (·.updateController k (·.noteTick))) :=
      ⟨fun w => updateController w k fun _ => ⟨rfl, rfl, le_rfl⟩⟩
    have ticked : Holds (Keeps (σ := σ) Undisturbed) (mark (.ticked k)) := ⟨fun w => aside rfl rfl rfl⟩
    unfold Controller.tick
    infer_instance
  | retry i =>
    have retried : Holds (Keeps Undisturbed) (Interface.retry env i) := Interface.retry_of_steps
    infer_instance
  | call l => infer_instance
  | establish c channel api => cases plain

theorem wake (plain : w.loop.Plain) (t : TimerId) : Undisturbed w ((Loop.wake env t).run w).2 := by
  unfold Loop.wake
  rw [run_bind, run_get]
  dsimp only
  cases found : w.loop.timers.find? t with
  | none => exact refl w
  | some timer =>
    have performed : Holds (Keeps Undisturbed) (Loop.perform env timer.job) :=
      perform (plain.timers t timer found)
    dsimp only
    cases turns : timer.period with
    | none =>
      dsimp only
      rw [run_bind, DroneControl.cancelTimer, run_modify]
      exact (cancel found turns).trans (performed.holds _)
    | some period =>
      have beaten : Holds (Keeps Undisturbed) (Loop.beat env timer.job w.history.length period
          w.loop.clock timer.deadline (w.loop.clock + 1 - timer.deadline)) :=
        Loop.beat_holds (Q := Keeps Undisturbed) ⟨fun w => aside rfl rfl rfl⟩ performed _ _ _ _
      dsimp only
      rw [run_bind, run_modify]
      exact (beaten.holds w).trans (restart _ t _)

theorem runTask {task : Task} (plain : w.loop.Plain) (job : ∀ job, task = .run job → job.isPlain) :
    Undisturbed w ((Loop.runTask env task).run w).2 := by
  cases task with
  | run job' => exact (perform (job job' rfl)).holds w
  | wake t => exact wake plain t

theorem drain (fuel : Nat) (plain : w.loop.Plain) (own : ∀ i, w.NamesOwn i) :
    Unmoved (fun _ => 0) w ((Loop.drain env fuel).run w).2 := by
  induction fuel generalizing w with
  | zero => exact refl w own
  | succ fuel ih =>
    unfold Loop.drain Loop.takeTask
    rw [run_bind, run_modifyGet]
    unfold Loop.take
    cases queue : w.loop.queue with
    | nil => exact refl w own
    | cons task rest =>
      dsimp only
      rw [run_bind]
      have taken : Unmoved (fun _ => 0) w { w with loop := { w.loop with queue := rest } } :=
        take w (queue ▸ List.subset_cons_self task rest) own
      have ran : Undisturbed { w with loop := { w.loop with queue := rest } }
          ((Loop.runTask env task).run { w with loop := { w.loop with queue := rest } }).2 :=
        runTask (taken.plain plain) fun job same => plain.queue job (by simp [queue, same])
      have next := taken.trans ran
      exact next.trans fun own => ih (next.plain plain) own

variable (env) in
theorem pass (extra : Nat) (plain : w.loop.Plain) (own : ∀ i, w.NamesOwn i) :
    Unmoved (fun _ => 0) { w with loop := w.loop.forward 1 } ((Loop.pass env extra 1).run w).2 ∧
      ((Loop.pass env extra 1).run w).2.loop.Plain := by
  have forward : (w.loop.forward 1).Plain := by
    refine ⟨plain.timers, fun job among => plain.queue job ?_⟩
    simpa [Loop.forward] using among
  have own' : ∀ i, World.NamesOwn { w with loop := w.loop.forward 1 } i := fun i =>
    (own i).later (fun x here => ⟨x, here, rfl⟩) (.forward w.loop 1)
  have quiet : Unmoved (fun _ => 0) { w with loop := w.loop.forward 1 }
      ((Loop.pass env extra 1).run w).2 := drain _ forward own'
  exact ⟨quiet, quiet.plain forward⟩

end Undisturbed

end DroneControl
