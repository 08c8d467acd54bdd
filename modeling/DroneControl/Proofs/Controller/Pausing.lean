import DroneControl.Proofs.Controller.Beating

/-!
# While nobody runs the loop

Only the loop itself lets time pass, takes work off its queue and beats.  As long as nobody runs it, work
is put behind what waits already, and a timer stays as it is or is gone for good.  That holds of whatever
else is asked of the library, by a host that does not run the loop when it is called back.
-/

set_option synthInstance.maxSize 2048

namespace DroneControl

variable {σ α : Type} {k k' : ControllerId} {t t' : TimerId} {strict : Prop} {w w' w'' : World σ}
  {env : Env σ}

/-! ## The loop -/

/-- Time stands still and no work is done, and the timer is the same if it is there still. -/
structure Loop.Stays (t : TimerId) (l l' : Loop) : Prop where
  clock : l'.clock = l.clock
  queue : l.queue <+: l'.queue
  named : l.timers.next ≤ l'.timers.next
  timer : t.number < l.timers.next → ∀ timer, l'.timers.find? t = some timer →
    l.timers.find? t = some timer

namespace Loop.Stays

variable {l l' l'' : Loop}

theorem refl (l : Loop) : l.Stays t l := ⟨rfl, List.prefix_rfl, le_rfl, fun _ _ => id⟩

theorem trans (first : l.Stays t l') (second : l'.Stays t l'') : l.Stays t l'' where
  clock := second.clock.trans first.clock
  queue := first.queue.trans second.queue
  named := Nat.le_trans first.named second.named
  timer old timer found :=
    first.timer old timer (second.timer (Nat.lt_of_lt_of_le old first.named) timer found)

theorem defer (l : Loop) (job : Job) : l.Stays t (l.defer job) :=
  ⟨rfl, List.prefix_append _ _, le_rfl, fun _ _ => id⟩

theorem add (l : Loop) (timer : Timer) {queue : List Task} (behind : l.queue <+: queue) :
    l.Stays t { l with timers := (l.timers.add timer).2, queue } where
  clock := rfl
  queue := behind
  named := by simp [Table.next_add]
  timer old timer' found := by
    rw [Table.find?_add, if_neg] at found
    · exact found
    · rintro rfl
      exact lt_irrefl _ old

theorem after (l : Loop) (delay : Nat) (job : Job) : l.Stays t (l.after delay job).2 := by
  refine add l _ ?_
  split
  · exact List.prefix_append _ _
  · exact List.prefix_rfl

theorem periodic (l : Loop) (period : Nat) (job : Job) : l.Stays t (l.periodic period job).2 :=
  add l _ List.prefix_rfl

theorem cancel (l : Loop) (t' : TimerId) : l.Stays t (l.cancel t') :=
  ⟨rfl, List.prefix_rfl, le_rfl, fun _ _ => Loop.find?_cancel⟩

theorem cancel? (l : Loop) (t' : Option TimerId) : l.Stays t (l.cancel? t') := by
  cases t' with
  | none => exact refl l
  | some t' => exact cancel l t'

theorem restart (l : Loop) (other : t' ≠ t) (deadline : Nat) : l.Stays t (l.restart t' deadline) where
  clock := rfl
  queue := List.prefix_rfl
  named := Nat.le_of_eq (Table.next_update _ _ _).symm
  timer _ timer found := by
    rwa [Loop.restart, Table.find?_update, if_neg other] at found

end Loop.Stays

/-! ## Worlds -/

/-- Nobody has run the loop, and if that is so strictly, the controller has not beaten. -/
structure Pauses (k : ControllerId) (t : TimerId) (strict : Prop) (w w' : World σ) : Prop where
  loop : w.loop.Stays t w'.loop
  known : w.controllers.next ≤ w'.controllers.next
  row : k.number < w.controllers.next → ∀ x', w'.controllers.find? k = some x' →
    ∃ x, w.controllers.find? k = some x ∧ (strict → x'.ticks = x.ticks)

namespace Pauses

theorem of_loop (controllers : w'.controllers = w.controllers) (loop : w.loop.Stays t w'.loop) :
    Pauses k t strict w w' :=
  ⟨loop, controllers ▸ le_rfl, fun _ x here => ⟨x, controllers ▸ here, fun _ => rfl⟩⟩

theorem aside (controllers : w'.controllers = w.controllers) (loop : w'.loop = w.loop) :
    Pauses k t strict w w' :=
  of_loop controllers (by rw [loop]; exact .refl w.loop)

theorem refl (w : World σ) : Pauses k t strict w w := aside rfl rfl

theorem trans (first : Pauses k t strict w w') (second : Pauses k t strict w' w'') :
    Pauses k t strict w w'' := by
  refine ⟨first.loop.trans second.loop, Nat.le_trans first.known second.known, fun old x'' here => ?_⟩
  obtain ⟨x', there, same'⟩ := second.row (Nat.lt_of_lt_of_le old first.known) x'' here
  obtain ⟨x, before, same⟩ := first.row old x' there
  exact ⟨x, before, fun holds => (same' holds).trans (same holds)⟩

theorem update (w : World σ) (k' : ControllerId) {f : Controller → Controller}
    (same : strict → k' = k → ∀ x, (f x).ticks = x.ticks) :
    Pauses k t strict w (w.updateController k' f) := by
  refine ⟨.refl w.loop, Nat.le_of_eq (Table.next_update _ _ _).symm, fun _ x' here => ?_⟩
  simp only [World.updateController, Table.find?_update] at here
  split at here
  · next own =>
    obtain ⟨x, there, rfl⟩ := Option.map_eq_some_iff.mp here
    exact ⟨x, own ▸ there, fun holds => same holds own x⟩
  · exact ⟨x', here, fun _ => rfl⟩

/-! ## What does not run the loop -/

instance minds : MindsTimers (σ := σ) (Pauses k t strict) where
  aside controllers loop _ := aside controllers loop
  mark _ _ _ := aside rfl rfl
  trans := trans
  shared k' _ w := update w k' fun _ _ _ => rfl
  retired k' w := by
    refine ⟨.cancel? w.loop _, le_rfl, fun _ x' here => ⟨x', ?_, fun _ => rfl⟩⟩
    simp only [World.retire, World.hush, World.erase, Table.find?_erase] at here
    split at here
    · cases here
    · exact here
  canceled t' w := of_loop rfl (.cancel w.loop t')
  retried delay _ w := of_loop rfl (.after w.loop delay _)

instance overlooksRegistries : OverlooksRegistries (Keeps (σ := σ) (Pauses k t strict)) where
  toOverlooksEntries := MindsTimers.overlooksEntries
  markHearing _ _ _ := aside rfl rfl

instance timerLives : TimerLives (Keeps (σ := σ) (Pauses k t strict)) where
  stopTimer k' := by
    have cleared : Holds (Keeps (σ := σ) (Pauses k t strict))
        (modify (·.updateController k' fun x => { x with timer := none })) :=
      ⟨fun w => .update w k' fun _ _ _ => rfl⟩
    exact Controller.stopTimer_of_clear k' (fun t' => ⟨fun w => .of_loop rfl (.cancel w.loop t')⟩)
      ⟨fun _ => .aside rfl rfl⟩
  scheduleCall delay l := ⟨fun w => .of_loop rfl (.after w.loop delay _)⟩
  scheduleCalls period l := ⟨fun w => .of_loop rfl (.periodic w.loop period _)⟩
  deferCall l := ⟨fun w => .of_loop rfl (.defer w.loop _)⟩
  deferEstablish c channel api := ⟨fun w => .of_loop rfl (.defer w.loop _)⟩
  dropToken k' := ⟨fun w => .update w k' fun _ _ _ => rfl⟩

instance timerStarts : TimerStarts (Keeps (σ := σ) (Pauses k t strict)) where
  startTimer k' period := by
    have scheduled : Holds (Keeps (σ := σ) (Pauses k t strict))
        (schedulePeriodic period.toNat (.tick k')) :=
      ⟨fun w => .of_loop rfl (.periodic w.loop _ _)⟩
    have noted : ∀ t', Holds (Keeps (σ := σ) (Pauses k t strict)) (modify
        (·.updateController k' fun x => { x with timer := some t', starts := x.starts + 1 })) :=
      fun _ => ⟨fun w => .update w k' fun _ _ _ => rfl⟩
    have wound : Holds (Keeps (σ := σ) (Pauses k t strict)) (mark (.wound k')) :=
      ⟨fun _ => .aside rfl rfl⟩
    unfold Controller.startTimer
    dsimp only
    infer_instance

instance tickNotes : TickNotes (Keeps (σ := σ) (Pauses k t False)) where
  noteTick k' := ⟨fun w => .update w k' False.elim⟩
  ticked _ := ⟨fun _ => .aside rfl rfl⟩

instance registryLives : RegistryLives (Keeps (σ := σ) (Pauses k t strict)) := by
  refine Registry.lives_of_controllers fun device registry listener token w => ?_
  rw [run_modifyGet]
  refine ⟨.refl w.loop, by simp [Table.next_add], fun old x' here => ⟨x', ?_, fun _ => rfl⟩⟩
  simp only [Table.find?_add] at here
  split at here
  · next own => exact absurd old (by simp [← own])
  · exact here

instance alone : Alone (Keeps (σ := σ) (Pauses k t strict)) where

instance entryCalls [Upheld (Keeps (Pauses k t strict)) env] :
    EntryCalls (Keeps (Pauses k t strict)) env :=
  Entry.calls_of_overlooks

section

variable [u : Upheld (Keeps (Pauses k t strict)) env]

theorem perform_other {job : Job} (other : job ≠ .tick k) :
    Holds (Keeps (Pauses k t strict)) (Loop.perform env job) := by
  refine Loop.perform_of (fun _ _ => inferInstance) fun k' same => ?_
  have noted : Holds (Keeps (σ := σ) (Pauses k t strict))
      (modify (·.updateController k' (·.noteTick))) :=
    ⟨fun w => .update w k' fun _ own => absurd (same.trans (congrArg Job.tick own)) other⟩
  have ticked : Holds (Keeps (σ := σ) (Pauses k t strict)) (mark (.ticked k')) :=
    ⟨fun _ => .aside rfl rfl⟩
  infer_instance

end

theorem wake_of_perform (other : t' ≠ t) (performs : ∀ timer, w.loop.timers.find? t' = some timer →
      Holds (Keeps (Pauses k t strict)) (Loop.perform env timer.job)) :
    Pauses k t strict w ((Loop.wake env t').run w).2 :=
  Loop.wake_of_perform (fun deadline => ⟨fun w => .of_loop rfl (.restart w.loop other deadline)⟩)
    ⟨fun w => .of_loop rfl (.cancel w.loop t')⟩ (fun _ => ⟨fun _ => .aside rfl rfl⟩) performs

end Pauses

/-! ## Hosts that do not run the loop -/

/-- What makes the loop go on. -/
inductive RunsLoop (env : Env σ) : (α : Type) → Act σ α → Prop where
  | settle (extra : Nat) : RunsLoop env _ (Loop.settle env extra)
  | pass (extra ms : Nat) : RunsLoop env _ (Loop.pass env extra ms)
  | jump (extra ms : Nat) : RunsLoop env _ (Loop.jump env extra ms)
  | advance (extra ms : Nat) : RunsLoop env _ (Loop.advance env extra ms)

/-- What a host may do when it is called back, if it leaves the loop to others. -/
def Brief (env : Env σ) (α : Type) (a : Act σ α) : Prop :=
  Thought α a ∨ Call env α a ∧ ¬RunsLoop env α a

/-- Collaborators that call back to any depth, but do not run the loop when they are called. -/
inductive Patient : Env σ → Prop where
  | innermost {env : Env σ} (reacts : Reacts (Program Thought) env)
      (reaps : ∀ item, Program Thought _ (env.reap item)) : Patient env
  | around {inner env : Env σ} (patient : Patient inner) (reacts : Reacts (Program (Brief inner)) env)
      (reaps : env.reap = reap inner) : Patient env

theorem Call.holds_of_brief {Q : (α : Type) → Act σ α → Prop} [Alone Q] [Upheld Q env]
    [InterfaceCalls Q env] [ConnectionCalls Q env] [RegistryCalls Q env] [DiscoveryCalls Q env]
    [CommandCalls Q env] [ProxyCalls Q env] {a : Act σ α} (call : Call env α a) (stands : ¬RunsLoop env α a) : Q α a := by
  cases call with
  | settle extra => exact absurd (.settle extra) stands
  | pass extra ms => exact absurd (.pass extra ms) stands
  | jump extra ms => exact absurd (.jump extra ms) stands
  | advance extra ms => exact absurd (.advance extra ms) stands
  | _ => exact Holds.holds

theorem Brief.pauses [Upheld (Keeps (Pauses k t strict)) env] {a : Act σ α} (brief : Brief env α a) :
    Keeps (Pauses k t strict) α a := by
  rcases brief with thought | ⟨call, stands⟩
  · exact thought.holds
  · exact call.holds_of_brief stands

namespace Patient

theorem upheld (patient : Patient env) : Upheld (Keeps (Pauses k t strict)) env := by
  induction patient with
  | innermost reacts reaps =>
    exact reacts.upholds Thought.program_holds fun item => Thought.program_holds (reaps item)
  | around patient reacts reaps ih =>
    refine reacts.upholds (Program.holds fun brief => brief.pauses) fun item => ?_
    rw [reaps]
    exact (reap_holds item).holds

theorem hosted (patient : Patient env) : Hosted env := by
  induction patient with
  | innermost reacts reaps => exact .innermost reacts reaps
  | @around inner env patient reacts reaps ih =>
    have allow : ∀ {α : Type} {a : Act σ α}, Program (Brief inner) α a → Reaction inner α a := by
      intro α a program
      induction program with
      | pure a => exact .pure a
      | look => exact .look
      | basic brief => exact .basic (brief.imp id And.left)
      | bind _ _ first rest => exact .bind first rest
    refine .around ih ⟨?_, ?_, ?_, ?_, ?_, ?_⟩ reaps
    · exact fun l event => allow (reacts.tell l event)
    · exact fun request other => allow (reacts.ask request other)
    · exact reacts.startLink
    · exact fun order => allow (reacts.order order)
    · exact fun h address c => allow (reacts.openSession h address c)
    · exact fun o descriptor u => allow (reacts.openChannel o descriptor u)

end Patient

theorem silentHost_patient : Patient silentHost := by
  refine .innermost ⟨?_, ?_, ?_, ?_, ?_, ?_⟩ ?_
  all_goals intros; exact .pure _

end DroneControl
