import DroneControl.Proofs.Controller.Pausing
import Mathlib.Data.List.Infix

/-!
# The cadence of a timer

If time passes by single milliseconds, a timer has its turn exactly when it is due.  So the controller
beats one period after its timer was started, and every period after that, whatever else happens between
one millisecond and the next, for as long as the timer is there.
-/

set_option synthInstance.maxSize 2048

namespace DroneControl

variable {σ α : Type} {k : ControllerId} {t t' : TimerId} {strict : Prop} {w w' : World σ} {env : Env σ}

/-- A timer that a controller has started: when and with which period, and how often the controller had
beaten before. -/
structure Cadence where
  controller : ControllerId
  timer : TimerId
  begun : Nat
  period : Nat
  before : Nat

/-- The timer as it is after so many turns. -/
def Cadence.row (c : Cadence) (n : Nat) : Timer :=
  ⟨c.begun + (n + 1) * c.period, some c.period, .tick c.controller⟩

theorem Cadence.row_succ (c : Cadence) (n : Nat) :
    (c.row (n + 1)).deadline = (c.row n).deadline + c.period := by
  rw [row, row, Nat.succ_mul, Nat.add_assoc]

variable {c : Cadence}

namespace World

/-- If the timer is there, the controller has beaten once in each of its turns, and the last turn is not
ahead. -/
structure OnBeat (w : World σ) (c : Cadence) : Prop where
  clocked : w.Clocked c.controller
  named : c.timer.number < w.loop.timers.next
  known : c.controller.number < w.controllers.next
  turns : ∀ timer, w.loop.timers.find? c.timer = some timer → ∃ n, timer = c.row n ∧
    c.begun + n * c.period ≤ w.loop.clock ∧
    ∀ x, w.controllers.find? c.controller = some x → x.ticks = c.before + n

/-- The next turn of the timer is to come. -/
def Ahead (w : World σ) (t : TimerId) : Prop :=
  ∀ timer, w.loop.timers.find? t = some timer → w.loop.clock < timer.deadline

def Ripe (w : World σ) (t : TimerId) (places : Nat) : Prop :=
  ∀ timer, w.loop.timers.find? t = some timer →
    w.loop.clock < timer.deadline ∨
      w.loop.clock = timer.deadline ∧ .wake t ∈ w.loop.queue.take places

/-- Between calls, the controller beats in its cadence. -/
structure Beats (w : World σ) (c : Cadence) : Prop where
  onBeat : w.OnBeat c
  ahead : w.Ahead c.timer

theorem Ahead.ripe (ahead : w.Ahead t) (places : Nat) : w.Ripe t places :=
  fun timer found => .inl (ahead timer found)

theorem Ahead.later (ahead : w.Ahead t) (named : t.number < w.loop.timers.next)
    (stays : w.loop.Stays t w'.loop) : w'.Ahead t := by
  intro timer found
  rw [stays.clock]
  exact ahead timer (stays.timer named timer found)

theorem Ripe.later {places : Nat} (ripe : w.Ripe t places) (named : t.number < w.loop.timers.next)
    (stays : w.loop.Stays t w'.loop) : w'.Ripe t places := by
  intro timer found
  rw [stays.clock]
  refine (ripe timer (stays.timer named timer found)).imp_right fun due => ⟨due.1, ?_⟩
  exact (stays.queue.take places).subset due.2

theorem Ripe.ahead (ripe : w.Ripe t 0) : w.Ahead t :=
  fun timer found => (ripe timer found).resolve_right fun due => by simp at due

namespace OnBeat

theorem later (onBeat : w.OnBeat c) (clocked : w'.Clocked c.controller)
    (pauses : Pauses c.controller c.timer strict w w')
    (settled : strict ∨ ∀ timer, w.loop.timers.find? c.timer = some timer →
      w.controllers.find? c.controller = none) : w'.OnBeat c where
  clocked := clocked
  named := Nat.lt_of_lt_of_le onBeat.named pauses.loop.named
  known := Nat.lt_of_lt_of_le onBeat.known pauses.known
  turns timer found := by
    have there := pauses.loop.timer onBeat.named timer found
    obtain ⟨n, row, begun, ticks⟩ := onBeat.turns timer there
    refine ⟨n, row, pauses.loop.clock ▸ begun, fun x' here => ?_⟩
    obtain ⟨x, before, same⟩ := pauses.row onBeat.known x' here
    rcases settled with holds | gone
    · exact (same holds).trans (ticks x before)
    · cases (gone timer there).symm.trans before

end OnBeat

end World

theorem World.Beats.of_restart {n deadline : Nat} (onBeat : w.OnBeat c)
    (clocked : World.Clocked { w' with loop := w'.loop.restart c.timer deadline } c.controller)
    (pauses : Pauses c.controller c.timer False w w')
    (row : ∀ timer, w.loop.timers.find? c.timer = some timer → { timer with deadline } = c.row n)
    (begun : c.begun + n * c.period ≤ w.loop.clock) (ahead : w.loop.clock < (c.row n).deadline)
    (ticks : ∀ x, w'.controllers.find? c.controller = some x → x.ticks = c.before + n) :
    World.Beats { w' with loop := w'.loop.restart c.timer deadline } c := by
  have same : ∀ timer, (w'.loop.restart c.timer deadline).timers.find? c.timer = some timer →
      timer = c.row n := by
    intro timer found
    rw [Loop.restart, Table.find?_update, if_pos rfl, Option.map_eq_some_iff] at found
    obtain ⟨timer, there, rfl⟩ := found
    exact row timer (pauses.loop.timer onBeat.named timer there)
  have clock : (w'.loop.restart c.timer deadline).clock = w.loop.clock := pauses.loop.clock
  refine ⟨⟨clocked, ?_, Nat.lt_of_lt_of_le onBeat.known pauses.known, fun timer found => ?_⟩,
    fun timer found => ?_⟩
  · refine Nat.lt_of_lt_of_le onBeat.named (Nat.le_trans pauses.loop.named ?_)
    exact Nat.le_of_eq (Table.next_update _ _ _).symm
  · exact ⟨n, same timer found, clock ▸ begun, ticks⟩
  · rw [same timer found, clock]
    exact ahead

/-! ## Turns of the loop -/

section

variable (patient : Patient env)

include patient

theorem Patient.keepsPace : Together (Keeps (KeepsPace k True)) env :=
  patient.hosted.together fun _ u quiet => KeepsPace.together u quiet

theorem Controller.tick_counts (known : k.number < w.controllers.next) :
    Pauses k t False w ((tick env k).run w).2 ∧
      ∀ x', ((tick env k).run w).2.controllers.find? k = some x' →
        ∃ x, w.controllers.find? k = some x ∧ x'.ticks = x.ticks + 1 := by
  have upheld : Upheld (Keeps (Pauses k t False)) env := patient.upheld
  have upheld' : Upheld (Keeps (Pauses k t True)) env := patient.upheld
  have weak : Holds (Keeps (Pauses k t False)) (tick env k) := inferInstance
  refine ⟨weak.holds w, fun x' here => ?_⟩
  unfold tick at here
  rw [run_ifKept] at here
  split at here
  · rw [run_keeping, run_bind, run_modify] at here
    let w₁ := (w.reshare (· + 1) (.controller k)).updateController k (·.noteTick)
    have ticked : Holds (Keeps (σ := σ) (Pauses k t True)) (mark (.ticked k)) :=
      ⟨fun _ => .aside rfl rfl⟩
    have rest : Holds (Keeps (Pauses k t True)) (do
        mark (.ticked k)
        env.tell ((← get).controller k).listener (.device .tick)
        release env (.controller k)) := inferInstance
    have next : w₁.controllers.next = w.controllers.next := by
      simp only [w₁, World.updateController, World.reshare, Table.next_update]
    obtain ⟨x₁, there, same⟩ := (rest.holds w₁).row (next ▸ known) x' here
    simp only [w₁, World.updateController, World.reshare, Table.find?_update, if_true,
      Option.map_eq_some_iff] at there
    obtain ⟨_, ⟨x, before, rfl⟩, rfl⟩ := there
    exact ⟨x, before, same trivial⟩
  · next gone =>
    exact absurd (by simp [World.isKept, World.item?, here]) gone

namespace Loop

theorem wake_own (positive : 0 < c.period) (onBeat : w.OnBeat c)
    (due : ∀ timer, w.loop.timers.find? c.timer = some timer → w.loop.clock ≤ timer.deadline) :
    ((wake env c.timer).run w).2.Beats c := by
  have := patient.keepsPace (k := c.controller)
  have paces : KeepsPace c.controller True w ((wake env c.timer).run w).2 :=
    KeepsPace.wake_keepsPace c.timer w
  have clocked := (paces onBeat.clocked).clocked
  unfold wake at clocked ⊢
  rw [run_bind, run_get] at clocked ⊢
  dsimp only at clocked ⊢
  cases found : w.loop.timers.find? c.timer with
  | none => exact ⟨onBeat, fun timer there => by cases found.symm.trans there⟩
  | some timer =>
    obtain ⟨n, rfl, begun, ticks⟩ := onBeat.turns timer found
    have due : w.loop.clock ≤ (c.row n).deadline := due _ found
    have only : ∀ timer, w.loop.timers.find? c.timer = some timer → timer = c.row n :=
      fun timer there => Option.some.inj (there.symm.trans found)
    have period : (c.row n).period = some c.period := rfl
    simp only [found, period] at clocked ⊢
    rw [run_bind, run_modify] at clocked ⊢
    rcases Nat.lt_or_eq_of_le due with early | now
    · have none : w.loop.clock + 1 - (c.row n).deadline = 0 := by omega
      rw [none] at clocked ⊢
      refine .of_restart onBeat clocked (.refl w) (fun timer there => ?_) begun early ticks
      rw [only timer there]
      rfl
    · have once : w.loop.clock + 1 - (c.row n).deadline = 1 := by omega
      have next : beat env (c.row n).job w.history.length c.period w.loop.clock (c.row n).deadline 1 = (do
          mark (.beats w.history.length)
          Controller.tick env c.controller
          return (c.row (n + 1)).deadline) := by
        have later : nextDeadline (c.row n).deadline w.loop.clock c.period =
            (c.row (n + 1)).deadline := by
          rw [nextDeadline, now, Nat.sub_self, if_pos (Nat.zero_le 5), c.row_succ]
        unfold beat
        rw [if_pos now.ge, later]
        rfl
      rw [once, next] at clocked ⊢
      obtain ⟨pauses, beats⟩ := Controller.tick_counts patient (t := c.timer)
        (w := w.mark (.beats w.history.length)) onBeat.known
      have beaten : Pauses c.controller c.timer False w (w.mark (.beats w.history.length)) := .aside rfl rfl
      refine World.Beats.of_restart (n := n + 1) onBeat clocked (beaten.trans pauses) (fun timer there => ?_) ?_ ?_
        fun x' here => ?_
      · rw [only timer there]
        rfl
      · exact now.ge
      · rw [now, c.row_succ]
        exact Nat.lt_add_of_pos_right positive
      · obtain ⟨x, before, counts⟩ := beats x' here
        rw [counts, ticks x before, Nat.add_assoc]

theorem wake_other (other : t' ≠ c.timer) (onBeat : w.OnBeat c) :
    ((wake env t').run w).2.OnBeat c ∧
      Pauses c.controller c.timer False w ((wake env t').run w).2 := by
  have := patient.keepsPace (k := c.controller)
  have upheld : Upheld (Keeps (Pauses c.controller c.timer False)) env := patient.upheld
  have upheld' : Upheld (Keeps (Pauses c.controller c.timer True)) env := patient.upheld
  have paces : KeepsPace c.controller True w ((wake env t').run w).2 :=
    KeepsPace.wake_keepsPace t' w
  have clocked := (paces onBeat.clocked).clocked
  have pauses : Pauses c.controller c.timer False w ((wake env t').run w).2 :=
    .wake_of_perform other fun _ _ => inferInstance
  refine ⟨?_, pauses⟩
  by_cases own : ∃ timer, w.loop.timers.find? t' = some timer ∧ timer.job = .tick c.controller
  · -- Two timers would beat for a controller that knows one, so that it is gone.
    refine onBeat.later clocked pauses (.inr fun timer there => ?_)
    obtain ⟨timer', there', ticks'⟩ := own
    obtain ⟨n, rfl, -⟩ := onBeat.turns timer there
    by_contra seated
    obtain ⟨x, seated⟩ := Option.ne_none_iff_exists'.mp seated
    have knows := onBeat.clocked.knows there rfl seated
    have knows' := onBeat.clocked.knows there' ticks' seated
    exact other (Option.some.inj (knows'.symm.trans knows))
  · have strictly : Pauses c.controller c.timer True w ((wake env t').run w).2 :=
      .wake_of_perform other fun timer there =>
        Pauses.perform_other fun ticks => own ⟨timer, there, ticks⟩
    exact onBeat.later clocked strictly (.inl trivial)

theorem drain_beats (positive : 0 < c.period) (fuel : Nat) (onBeat : w.OnBeat c)
    (ripe : w.Ripe c.timer fuel) : ((drain env fuel).run w).2.Beats c := by
  have together := patient.keepsPace (k := c.controller)
  have upheld : Upheld (Keeps (Pauses c.controller c.timer True)) env := patient.upheld
  induction fuel generalizing w with
  | zero => exact ⟨onBeat, ripe.ahead⟩
  | succ fuel ih =>
    have taken : KeepsPace c.controller True w { w with loop := w.loop.take.2 } := .of_loop rfl rfl .take
    have clocked := (taken onBeat.clocked).clocked
    unfold drain takeTask
    rw [run_bind, run_modifyGet]
    unfold take at clocked ⊢
    cases queue : w.loop.queue with
    | nil =>
      refine ⟨onBeat, fun timer found => (ripe timer found).resolve_right fun due => ?_⟩
      simp [queue] at due
    | cons task rest =>
      simp only [queue] at clocked ⊢
      rw [run_bind]
      generalize begun : ({ w with loop := { w.loop with queue := rest } } : World σ) = w₁ at clocked ⊢
      have onBeat' : w₁.OnBeat c := by
        subst begun
        exact ⟨clocked, onBeat.named, onBeat.known, onBeat.turns⟩
      have ripe' : task ≠ .wake c.timer → w₁.Ripe c.timer fuel := by
        subst begun
        refine fun other timer found => (ripe timer found).imp_right fun due => ⟨due.1, ?_⟩
        rw [queue, List.take_succ_cons] at due
        exact (List.mem_cons.mp due.2).resolve_left other.symm
      suffices next : ((runTask env task).run w₁).2.OnBeat c ∧
          ((runTask env task).run w₁).2.Ripe c.timer fuel from ih next.1 next.2
      cases task with
      | run job =>
        have other : job ≠ .tick c.controller := by
          rintro rfl
          exact onBeat.clocked.queue (queue ▸ List.mem_cons_self)
        have pauses : Pauses c.controller c.timer True w₁ ((perform env job).run w₁).2 :=
          (Pauses.perform_other other).holds w₁
        have paces : KeepsPace c.controller True w₁ ((perform env job).run w₁).2 :=
          (KeepsPace.perform_other other).holds w₁
        exact ⟨onBeat'.later (paces onBeat'.clocked).clocked pauses (.inl trivial),
          (ripe' (by simp)).later onBeat'.named pauses.loop⟩
      | wake t' =>
        by_cases own : t' = c.timer
        · subst own
          have due : ∀ timer, w₁.loop.timers.find? c.timer = some timer →
              w₁.loop.clock ≤ timer.deadline := by
            subst begun
            exact fun timer found => (ripe timer found).elim Nat.le_of_lt fun due => due.1.le
          have beats := wake_own patient positive onBeat' due
          exact ⟨beats.onBeat, beats.ahead.ripe fuel⟩
        · obtain ⟨onBeat'', pauses⟩ := wake_other patient own onBeat'
          exact ⟨onBeat'', (ripe' (by simpa using own)).later onBeat'.named pauses.loop⟩

theorem settle_beats (positive : 0 < c.period) (extra : Nat) (beats : w.Beats c) :
    ((settle env extra).run w).2.Beats c :=
  drain_beats patient positive _ beats.onBeat (beats.ahead.ripe _)

theorem pass_beats (positive : 0 < c.period) (extra : Nat) (beats : w.Beats c) :
    ((pass env extra 1).run w).2.Beats c := by
  have paces : KeepsPace c.controller True w { w with loop := w.loop.forward 1 } :=
    .of_loop rfl rfl (.forward 1)
  have onBeat : World.OnBeat { w with loop := w.loop.forward 1 } c := by
    refine ⟨(paces beats.onBeat.clocked).clocked, beats.onBeat.named, beats.onBeat.known,
      fun timer found => ?_⟩
    obtain ⟨n, row, begun, ticks⟩ := beats.onBeat.turns timer found
    exact ⟨n, row, Nat.le_succ_of_le begun, ticks⟩
  refine drain_beats patient positive _ onBeat fun timer found => ?_
  have found : w.loop.timers.find? c.timer = some timer := found
  rcases Nat.lt_or_eq_of_le (Nat.succ_le_of_lt (beats.ahead timer found)) with early | now
  · exact .inl early
  · refine .inr ⟨now, ?_⟩
    rw [List.take_of_length_le (Nat.le_add_right _ _)]
    refine List.mem_append_right _ (List.mem_map_of_mem (mem_due.mpr ⟨timer, found, ?_⟩))
    exact now.ge

end Loop

end

/-! ## Unhurried runs -/

/-- What is asked one thing at a time: of the loop the work that there is, or a single millisecond, and
anything that does not run the loop. -/
inductive Leisurely (env : Env σ) : (α : Type) → Act σ α → Prop where
  | brief {α : Type} {a : Act σ α} (brief : Brief env α a) : Leisurely env α a
  | settle (extra : Nat) : Leisurely env _ (Loop.settle env extra)
  | pass (extra : Nat) : Leisurely env _ (Loop.pass env extra 1)

def Unhurried (env : Env σ) : (α : Type) → Act σ α → Prop := Program (Leisurely env)

theorem Unhurried.advance (env : Env σ) (extra ms : Nat) : Unhurried env _ (Loop.advance env extra ms) := by
  refine .bind (.basic (.settle extra)) fun _ => ?_
  induction ms with
  | zero => exact .pure _
  | succ ms ih => exact .bind (.basic (.pass extra)) fun _ => ih

theorem Leisurely.beats (patient : Patient env) (positive : 0 < c.period) {a : Act σ α}
    (leisurely : Leisurely env α a) (beats : w.Beats c) : (a.run w).2.Beats c := by
  cases leisurely with
  | settle extra => exact Loop.settle_beats patient positive extra beats
  | pass extra => exact Loop.pass_beats patient positive extra beats
  | brief brief =>
    have := patient.keepsPace (k := c.controller)
    have upheld : Upheld (Keeps (Pauses c.controller c.timer True)) env := patient.upheld
    have pauses : Pauses c.controller c.timer True w (a.run w).2 := brief.pauses w
    have paces : Keeps (KeepsPace c.controller True) α a := by
      rcases brief with thought | ⟨call, -⟩
      · exact thought.holds
      · exact call.holds
    exact ⟨beats.onBeat.later (paces w beats.onBeat.clocked).clocked pauses (.inl trivial),
      beats.ahead.later beats.onBeat.named pauses.loop⟩

theorem Unhurried.beats (patient : Patient env) (positive : 0 < c.period) {a : Act σ α}
    (unhurried : Unhurried env α a) (beats : w.Beats c) : (a.run w).2.Beats c := by
  let R (w w' : World σ) : Prop := w.Beats c → w'.Beats c
  have closed : Closed (Keeps R) := Keeps.closed (fun _ => id) fun first second => second ∘ first
  exact Program.holds (Q := Keeps R) (fun leisurely _ => leisurely.beats patient positive) unhurried w beats

theorem World.Beats.ticks {x : Controller} {timer : Timer} (beats : w.Beats c)
    (there : w.loop.timers.find? c.timer = some timer)
    (seated : w.controllers.find? c.controller = some x) :
    x.timer = some c.timer ∧ c.begun ≤ w.loop.clock ∧
      x.ticks = c.before + (w.loop.clock - c.begun) / c.period := by
  obtain ⟨n, rfl, begun, ticks⟩ := beats.onBeat.turns timer there
  have ahead : w.loop.clock < c.begun + (n + 1) * c.period := beats.ahead _ there
  refine ⟨beats.onBeat.clocked.knows there rfl seated, by omega, ?_⟩
  rw [ticks x seated, Nat.div_eq_of_lt_le (k := n) (by omega) (by omega)]

theorem World.Beats.aside (beats : w.Beats c) (controllers : w'.controllers = w.controllers)
    (loop : w'.loop = w.loop) (history : w'.history = w.history) : w'.Beats c := by
  have pauses : Pauses c.controller c.timer True w w' := .aside controllers loop
  have paces : KeepsPace c.controller True w w' := .aside controllers loop history
  exact ⟨beats.onBeat.later (paces beats.onBeat.clocked).clocked pauses (.inl trivial),
    beats.ahead.later beats.onBeat.named pauses.loop⟩

/-! ## Starting -/

namespace Controller

variable {x : Controller} {period : UInt32}

theorem run_startTimer (seated : w.controllers.find? k = some x) (idle : x.timer = none)
    (positive : period ≠ 0) :
    ∃ journal, (startTimer k period).run.run w = (.ok (), { w with
      journal
      history := ⟨w.loop.clock, .wound k⟩ :: w.history
      loop := (w.loop.periodic period.toNat (.tick k)).2
      controllers := w.controllers.update k fun x =>
        { x with timer := some ⟨w.loop.timers.next⟩, starts := x.starts + 1 } }) := by
  have own : w.controller k = x := World.controller_of_find? seated
  unfold startTimer
  rw [run_lookThen, own]
  simp only [positive, if_false, idle, Option.isSome_none, Bool.false_eq_true]
  rw [run_actThen, run_actThen, run_actThen, run_modify, run_mark, run_act, run_log]
  obtain ⟨journal, same⟩ := World.log_journal _ _ _ _
  refine ⟨journal, ?_⟩
  rw [same]
  rfl

theorem startTimer_beats (clocked : w.Clocked k) (seated : w.controllers.find? k = some x)
    (idle : x.timer = none) (positive : period ≠ 0) :
    ((startTimer k period).run.run w).1 = .ok () ∧
      ((startTimer k period).run.run w).2.Beats
        ⟨k, ⟨w.loop.timers.next⟩, w.loop.clock, period.toNat, x.ticks⟩ := by
  have own : w.controller k = x := World.controller_of_find? seated
  have paces : KeepsPace k True w ((startTimer k period).run.run w).2 :=
    (startTimer_keepsPace k period).holds w
  have clocked' := (paces clocked).clocked
  obtain ⟨journal, ran⟩ := run_startTimer seated idle positive
  rw [ran] at clocked' ⊢
  have first : ∀ timer, (w.loop.periodic period.toNat (.tick k)).2.timers.find? ⟨w.loop.timers.next⟩ =
      some timer → timer = ⟨w.loop.clock + period.toNat, some period.toNat, .tick k⟩ := by
    intro timer found
    rw [Loop.periodic, Table.find?_add, if_pos rfl] at found
    exact (Option.some.inj found).symm
  refine ⟨rfl, ⟨clocked', ?_, ?_, fun timer found => ⟨0, ?_, ?_, fun x' here => ?_⟩⟩,
    fun timer found => ?_⟩
  · simp [Loop.periodic, Table.next_add]
  · exact Nat.lt_of_lt_of_eq (Table.lt_next seated) (Table.next_update _ _ _).symm
  · rw [first timer found, Cadence.row, Nat.zero_add, Nat.one_mul]
  · simp [Loop.periodic]
  · rw [Table.find?_update, if_pos rfl, seated] at here
    rw [← Option.some.inj here]
    rfl
  · rw [first timer found]
    refine Nat.lt_add_of_pos_right (Nat.pos_of_ne_zero fun zero => positive ?_)
    exact UInt32.toNat_inj.mp zero

end Controller

end DroneControl
