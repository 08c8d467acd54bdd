import DroneControl.Proofs.Backend.Recording
import DroneControl.Proofs.Connection.Passive

/-!
# Attempts whose sink does not call back

An attempt to connect ends in one of two ways when a link is there: the link starts and the
connection is established, or it does not and the attempt is canceled.  As long as the sink of the
connection does not call back, each step leaves the connection in a state that can be written down,
together with what the sink has been told; `Stands` carries it from step to step.  The start of the
link may report the status of the link on the way.  A connection that has been canceled is off the
books of its backend.
-/

set_option synthInstance.maxSize 2048

namespace DroneControl

variable {σ : Type} {b b' : BackendId} {c c' : ConnectionId} {w w' w'' : World σ} {env : Env σ}

/-! ## Going off the books -/

/-- What is to be done on the closing of a connection has come about. -/
def CloseHook.Served (w : World σ) (c : ConnectionId) : CloseHook → Prop
  | .untrack b => ∀ x, w.backends.find? b = some x → c ∉ x.live
  | .forgetApi b => ∀ x, w.backends.find? b = some x → x.api? c = none

/-- The connection is in the same state and nothing was told of it, the same backends are there, and
what has come about on its closing stays so. -/
structure Serves (c : ConnectionId) (w w' : World σ) : Prop where
  state : (w'.connection c).state = (w.connection c).state
  heard : w'.heard c = w.heard c
  known : ∀ b, (w'.backends.find? b).isSome = (w.backends.find? b).isSome
  served : ∀ hook : CloseHook, hook.Served w c → hook.Served w' c

namespace Backend

theorem api?_forgetApi (x : Backend) (c : ConnectionId) : (x.forgetApi c).api? c = none := by
  unfold forgetApi api?
  cases part : x.part with
  | net net =>
      dsimp only
      rw [List.lookup_eq_none_iff]
      rintro ⟨c', api⟩ among
      have other : c' ≠ c := of_decide_eq_true (List.mem_filter.mp among).2
      simpa using other.symm
  | _ => simp [part]

end Backend

namespace Serves

theorem refl (w : World σ) : Serves c w w := ⟨rfl, rfl, fun _ => rfl, fun _ => id⟩

theorem trans (first : Serves c w w') (second : Serves c w' w'') : Serves c w w'' where
  state := second.state.trans first.state
  heard := second.heard.trans first.heard
  known b := (second.known b).trans (first.known b)
  served hook := second.served hook ∘ first.served hook

instance closed : Closed (Keeps (σ := σ) (Serves c)) := Keeps.closed .refl .trans

theorem update {f : Connection → Connection} (same : ∀ y, (f y).state = y.state) :
    Holds (Keeps (σ := σ) (Serves c)) (modify (·.updateConnection c f)) := by
  refine ⟨fun w => ⟨?_, rfl, fun _ => rfl, fun hook => by cases hook <;> exact id⟩⟩
  simp only [run_modify, World.connection, World.updateConnection, Table.get, Table.find?_update,
    if_true]
  cases w.connections.find? c <;> simp [same]

theorem strike {f : Backend → Backend}
    (live : ∀ x, (f x).live ⊆ x.live) (api : ∀ x : Backend, x.api? c = none → (f x).api? c = none) :
    Holds (Keeps (σ := σ) (Serves c)) (modify (·.updateBackend b f)) := by
  refine ⟨fun w => ⟨rfl, rfl, fun b' => ?_, fun hook => ?_⟩⟩
  · simp only [run_modify, World.updateBackend, Table.find?_update]
    split
    · next here => simp [← here]
    · rfl
  · have row : ∀ b' x', (w.updateBackend b f).backends.find? b' = some x' →
        ∃ x, w.backends.find? b' = some x ∧ x'.live ⊆ x.live ∧
          (x.api? c = none → x'.api? c = none) := by
      intro b' x' hx'
      rw [World.updateBackend, Table.find?_update] at hx'
      split at hx'
      · next here =>
          subst here
          obtain ⟨x, hx, rfl⟩ := Option.map_eq_some_iff.mp hx'
          exact ⟨x, hx, live x, api x⟩
      · exact ⟨x', hx', fun _ => id, id⟩
    cases hook with
    | untrack b' =>
        intro served x' hx' among
        obtain ⟨x, hx, fewer, -⟩ := row b' x' hx'
        exact served x hx (fewer among)
    | forgetApi b' =>
        intro served x' hx'
        obtain ⟨x, hx, -, forgotten⟩ := row b' x' hx'
        exact forgotten (served x hx)

end Serves

namespace Connection

instance runHook_serves (hook : CloseHook) :
    Holds (Keeps (σ := σ) (Serves c)) (runHook c hook) := by
  have noted : Holds (Keeps (σ := σ) (Serves c))
      (modify (·.updateConnection c fun x => { x with done := x.done ++ [hook] })) :=
    Serves.update fun _ => rfl
  have untracked : ∀ b, Holds (Keeps (σ := σ) (Serves c))
      (modify (·.updateBackend b (·.untrack c))) :=
    fun b => Serves.strike (fun _ => List.filter_sublist.subset) fun _ => id
  have forgotten : ∀ b, Holds (Keeps (σ := σ) (Serves c))
      (modify (·.updateBackend b (·.forgetApi c))) :=
    fun b => Serves.strike (fun x => by rw [(x.forgetApi_keeps c).1]; exact fun _ => id)
      fun x _ => x.api?_forgetApi c
  unfold runHook
  cases hook <;> infer_instance

theorem runHook_served (hook : CloseHook) (w : World σ) :
    hook.Served ((runHook c hook).run w).2 c := by
  have row : ∀ (b : BackendId) (f : Backend → Backend) (v : World σ) x',
      (v.updateBackend b f).backends.find? b = some x' → ∃ x, x' = f x := by
    intro b f v x' hx'
    rw [World.updateBackend, Table.find?_update, if_pos rfl] at hx'
    obtain ⟨x, -, rfl⟩ := Option.map_eq_some_iff.mp hx'
    exact ⟨x, rfl⟩
  cases hook with
  | untrack b =>
      intro x' hx'
      obtain ⟨x, rfl⟩ := row b _ _ x' hx'
      simp [Backend.untrack]
  | forgetApi b =>
      intro x' hx'
      obtain ⟨x, rfl⟩ := row b _ _ x' hx'
      exact x.api?_forgetApi c

theorem runHooks_served (w : World σ) :
    Serves c w ((runHooks c).run w).2 ∧
      ∀ hook ∈ (w.connection c).hooks, hook.Served ((runHooks c).run w).2 c := by
  have each : ∀ (hooks : List CloseHook) (w : World σ),
      Serves c w ((hooks.forM (runHook c)).run w).2 ∧
        ∀ hook ∈ hooks, hook.Served ((hooks.forM (runHook c)).run w).2 c := by
    intro hooks
    induction hooks with
    | nil => exact fun w => ⟨.refl w, nofun⟩
    | cons hook hooks ih =>
        intro w
        obtain ⟨serves, served⟩ := ih ((runHook c hook).run w).2
        refine ⟨((runHook_serves hook).holds w).trans serves, fun hook' among => ?_⟩
        rcases List.mem_cons.mp among with rfl | later
        · exact serves.served hook' (runHook_served hook' w)
        · exact served hook' later
  have dropped : Holds (Keeps (σ := σ) (Serves c))
      (modify (·.updateConnection c fun x => { x with hooks := [] })) :=
    Serves.update fun _ => rfl
  obtain ⟨serves, served⟩ := each (w.connection c).hooks
    (w.updateConnection c fun x => { x with hooks := [] })
  exact ⟨(dropped.holds w).trans serves, served⟩

end Connection

/-! ## A connection whose sink does not call back -/

/-- The connection stands so, and so much has been told of it; backends and the states of pipes are
as they were, and nobody calls back. -/
structure Stands (env : Env σ) (c : ConnectionId) (v : World σ) (x : Connection)
    (told : List ConnectionEvent) (w : World σ) : Prop where
  row : w.connections.find? c = some x
  heard : w.heard c = told
  backends : w.backends = v.backends
  pipes : ∀ p, (w.pipe p).state = (v.pipe p).state
  passive : x.sink.Passive env w

namespace Stands

variable {v : World σ} {x : Connection} {told : List ConnectionEvent}

theorem connection (stands : Stands env c v x told w) : w.connection c = x :=
  World.connection_of_find? stands.row

theorem passes (stands : Stands env c v x told w) (passes : Passes w w') :
    Stands env c v x told w' where
  row := passes.connections ▸ stands.row
  heard := (passes.heard c).trans stands.heard
  backends := passes.backends.trans stands.backends
  pipes p := (passes.pipes p).trans (stands.pipes p)
  passive := passes.passive stands.passive

theorem anew (stands : Stands env c v x told w) (pipes : Table .pipe Pipe) :
    Stands env c { w with pipes } x told { w with pipes } :=
  ⟨stands.row, stands.heard, rfl, fun _ => rfl, stands.passive⟩

theorem log (stands : Stands env c v x told w) (s : Severity) (message : String)
    (fields : List (String × String)) : Stands env c v x told (w.log s message fields) :=
  stands.passes ((Passes.log_passes s message fields).holds w)

theorem update (stands : Stands env c v x told w) {f : Connection → Connection}
    (same : (f x).sink = x.sink) : Stands env c v (f x) told (w.updateConnection c f) where
  row := by simp [World.updateConnection, Table.find?_update, stands.row]
  heard := stands.heard
  backends := stands.backends
  pipes := stands.pipes
  passive := same ▸ stands.passive

theorem tell (reaps : env.ReapsQuietly) (stands : Stands env c v x told w)
    (event : ConnectionEvent) :
    Stands env c v x (told ++ [event]) ((Connection.tell env c event).run w).2 := by
  have marked : Stands env c v x (told ++ [event]) (w.mark (.told c event)) := by
    refine ⟨stands.row, ?_, stands.backends, stands.pipes, stands.passive⟩
    simp [World.heard_mark, stands.heard, Occurrence.told?]
  exact marked.passes (Connection.tell_passes reaps (stands.connection ▸ stands.passive) event)

theorem announce (reaps : env.ReapsQuietly) (stands : Stands env c v x told w) :
    Stands env c v { x with announced := true }
      (told ++ if x.announced then [] else [.connecting])
      ((Connection.announce env c).run w).2 := by
  unfold Connection.announce
  rw [run_bind, run_get, stands.connection]
  split
  · next announced =>
      have same : { x with announced := true } = x := by rw [← announced]
      rw [same, List.append_nil]
      exact stands
  · simp only [run_bind, run_modify, run_log, run_pure]
    exact (Stands.log (stands.update (f := fun x => { x with announced := true }) rfl) _ _ _).tell
      reaps _

end Stands

/-- The connection has closed, so much has been told of it, and it is off the books of the backend.
-/
structure World.Concluded (w : World σ) (b : BackendId) (c : ConnectionId)
    (told : List ConnectionEvent) : Prop where
  closed : (w.connection c).state = .closed
  heard : w.heard c = told
  struck : ∃ x, w.backends.find? b = some x ∧ x.api? c = none ∧ c ∉ x.live

namespace Connection

variable {v : World σ} {x : Connection} {told : List ConnectionEvent}

theorem runHooks_concludes (closed : (w.connection c).state = .closed)
    (tracked : (w.connection c).Tracked b) (known : (w.backends.find? b).isSome) :
    ((runHooks c).run w).2.Concluded b c (w.heard c) := by
  obtain ⟨serves, served⟩ := runHooks_served (c := c) w
  refine ⟨serves.state.trans closed, serves.heard, ?_⟩
  obtain ⟨x, hx⟩ := Option.isSome_iff_exists.mp ((serves.known b).trans known)
  exact ⟨x, hx, served _ tracked.forgets x hx, served _ tracked.untracks x hx⟩

variable (env) in
theorem tearDown_created {p : PipeId} (created : (w.pipe p).state = .created) :
    ∃ journal pipes, (tearDown env c (some p)).run w =
      (runHooks c).run { w with journal, pipes } := by
  have stops : (Pipe.stop env p).run.run w = (.error (Pipe.refusal "stop" .created), w) := by
    unfold Pipe.stop
    rw [run_lookThen]
    dsimp only
    rw [created, if_pos nofun, run_throwThen]
  have disposes : ∀ journal, (Pipe.dispose env p).run { w with journal } =
      ((), { w with journal, pipes := w.pipes.update p Pipe.dropped }) := by
    intro journal
    have still : (World.pipe { w with journal } p).state = .created := created
    unfold Pipe.dispose
    rw [run_bind, run_get]
    dsimp only
    rw [still, if_neg nofun, run_modify]
    rfl
  unfold tearDown
  rw [run_bind, run_bind, run_recover, stops]
  dsimp only
  rw [run_log]
  generalize hlogged : w.log _ _ _ = w₁
  obtain ⟨journal, rfl⟩ : ∃ journal, w₁ = { w with journal } := hlogged ▸ w.log_journal _ _ _
  refine ⟨journal, w.pipes.update p Pipe.dropped, ?_⟩
  dsimp only
  rw [disposes journal]

theorem tearDown_concludes (stands : Stands env c v x told w) (closed : x.state = .closed)
    (tracked : x.Tracked b) (known : (v.backends.find? b).isSome) {pipe : Option PipeId}
    (new : ∀ p, pipe = some p → (v.pipe p).state = .created) :
    ((tearDown env c pipe).run w).2.Concluded b c told := by
  have concludes : ∀ journal pipes,
      ((runHooks c).run { w with journal, pipes }).2.Concluded b c told := by
    intro journal pipes
    have same : World.connection { w with journal, pipes } c = x := stands.connection
    have told' : World.heard { w with journal, pipes } c = told := stands.heard
    rw [← told']
    refine runHooks_concludes (same ▸ closed) (same ▸ tracked) ?_
    rw [show World.backends { w with journal, pipes } = w.backends from rfl, stands.backends]
    exact known
  cases pipe with
  | none => exact concludes w.journal w.pipes
  | some p =>
      obtain ⟨journal, pipes, runs⟩ :=
        tearDown_created env ((stands.pipes p).trans (new p rfl))
      rw [runs]
      exact concludes journal pipes

theorem cancel_concludes (reaps : env.ReapsQuietly) (stands : Stands env c v x told w)
    (live : x.state ≠ .closed) (tracked : x.Tracked b) (known : (v.backends.find? b).isSome)
    (new : ∀ p, x.pipe = some p → (v.pipe p).state = .created) (reason : CancelReason) :
    ((cancel env c reason).run.run w).1 = .ok () ∧
      ((cancel env c reason).run.run w).2.Concluded b c
        (told ++ (if x.announced then [] else [.connecting]) ++ [.canceled reason]) := by
  have shut : Stands env c v { x.closed with announced := true } told
      (w.updateConnection c fun x => { x.closed with announced := true }) :=
    stands.update (f := fun x => { x.closed with announced := true }) rfl
  have books : Connection.Tracked { x.closed with announced := true } b :=
    ⟨tracked.untracks, tracked.forgets⟩
  unfold cancel
  rw [run_lookThen, stands.connection, if_neg live, run_act]
  refine ⟨rfl, ?_⟩
  unfold abandon
  rw [run_bind, run_get, run_bind, run_modify, stands.connection]
  split
  · next announced =>
      simp only [run_bind, run_log]
      rw [List.append_nil]
      exact tearDown_concludes ((shut.log _ _ _).tell reaps _) rfl books known new
  · next unannounced =>
      simp only [run_bind, run_log]
      exact tearDown_concludes (((shut.tell reaps _).log _ _ _).tell reaps _) rfl books known new

/-- What a link does as it starts that reports its status to the connection on the way. -/
inductive Reporting (env : Env σ) (c : ConnectionId) : (α : Type) → Act σ α → Prop where
  | think {α : Type} {a : Act σ α} (thought : Thought α a) : Reporting env c α a
  | report (status : LinkStatus) : Reporting env c _ (reportLink env c status).run

/-- Links report their status to the connection as they start, and do not call back otherwise. -/
def StartsReporting (env : Env σ) (c : ConnectionId) : Prop :=
  ∀ l, Program (Reporting env c) _ (env.ask (.startLink l)).run

/-- Announces the attempt and puts the connection where it is when its link is asked to start; gives
its new pipe. -/
def poise (env : Env σ) (c : ConnectionId) (link : Link) : Act σ PipeId := do
  discard (announce env c)
  let pipe ← Pipe.create link
  modify (·.updateConnection c (·.enter .connected (some pipe)))
  return pipe

theorem poise_stands (reaps : env.ReapsQuietly) (stands : Stands env c w x told w) (link : Link) :
    ∃ p v, (poise env c link).run w = (p, v) ∧ v.pipe p = { link } ∧ v.backends = w.backends ∧
      Stands env c v ({ x with announced := true }.enter .connected (some p))
        (told ++ if x.announced then [] else [.connecting]) v := by
  have announced := stands.announce reaps
  generalize hw₁ : ((announce env c).run w).2 = w₁ at announced
  let p : PipeId := ⟨w₁.pipes.next⟩
  let v : World σ := World.updateConnection { w₁ with pipes := (w₁.pipes.add { link }).2 } c
    (·.enter .connected (some p))
  have runs : (poise env c link).run w = (p, v) := by
    have first : (discard (announce env c) : Act σ Unit).run w = ((), w₁) := by
      rw [← hw₁]
      rfl
    unfold poise
    rw [run_bind, first]
    rfl
  refine ⟨p, v, runs, ?_, announced.backends, ?_, ?_, rfl, fun _ => rfl, ?_⟩
  · simp [v, World.pipe, Table.get, World.updateConnection, Table.find?_add, p]
  · simp [v, World.updateConnection, Table.find?_update, announced.row]
  · exact announced.heard
  · exact announced.passive

theorem run_pipeStart {p : PipeId} {link : Link} {v : World σ} (new : v.pipe p = { link }) :
    (Pipe.start env p).run.run v =
      match (Pipe.startLink env link).run.run v with
      | (.ok (), v') => (.ok (), (v'.updatePipe p Pipe.begun).log .debug "Frame pipe started" [])
      | (.error f, v') => (.error f, v') := by
  unfold Pipe.start
  rw [run_lookThen, new]
  dsimp only
  rw [if_neg (by simp), run_tryThen]
  generalize (Pipe.startLink env link).run.run v = started
  obtain ⟨result, v'⟩ := started
  cases result <;> rfl

theorem startLink_stands (reaps : env.ReapsQuietly) (starts : StartsReporting env c)
    (stands : Stands env c v x told w) (connected : x.state = .connected) (link : Link) :
    ∃ reports : List LinkStatus, Stands env c v x (told ++ reports.map .link)
      ((Pipe.startLink env link).run.run w).2 := by
  let R (w w' : World σ) : Prop := ∀ told, Stands env c v x told w →
    ∃ reports : List LinkStatus, Stands env c v x (told ++ reports.map .link) w'
  have closed : Closed (Keeps R) := by
    refine Keeps.closed (fun w told stands => ⟨[], by simpa using stands⟩) ?_
    intro w₁ w₂ w₃ first second told stands
    obtain ⟨reports, stands₂⟩ := first told stands
    obtain ⟨more, stands₃⟩ := second _ stands₂
    exact ⟨reports ++ more, by simpa using stands₃⟩
  cases link with
  | channel ch => exact closed.pure _ w told stands
  | supplied l =>
      refine Program.holds (Q := Keeps R) (fun step w told stands => ?_) (starts l) w told stands
      cases step with
      | think thought =>
          obtain ⟨host, journal, same⟩ := Thought.program_quiet (.basic thought) w
          have passes : Passes w { w with host, journal } := .of_same rfl rfl rfl rfl rfl rfl
          rw [same]
          exact ⟨[], by simpa using stands.passes passes⟩
      | report status =>
          unfold reportLink
          rw [run_checkThen, stands.connection, connected, if_pos (by simp), run_actThen, run_act]
          exact ⟨[status], (stands.log _ _ _).tell reaps _⟩

theorem run_connected (reaps : env.ReapsQuietly) (stands : Stands env c w x told w)
    (connecting : x.state = .connecting) (link : Link) (api : DeviceApi) {p : PipeId}
    {v : World σ} (poises : (poise env c link).run w = (p, v)) :
    (connected env c link api).run.run w = (do
      match ← attempt (Pipe.start env p) with
      | .error f =>
        act (log .error "Failed to start frame pipe" [("conn", c.label), ("error", f.message)])
        cancel env c .local
        throw f
      | .ok () =>
        act (log .debug "Connected" (fields (← get) c ++ [("api", api.name)]))
        act (tell env c (.connected p api)) : Try σ Unit).run.run v := by
  have announced := stands.announce reaps
  have parts : (poise env c link).run w =
      (((Pipe.create link).run ((announce env c).run w).2).1,
        World.updateConnection ((Pipe.create link).run ((announce env c).run w).2).2 c
          (·.enter .connected
            (some ((Pipe.create link).run ((announce env c).run w).2).1))) := by
    unfold poise
    rw [run_bind, run_bind, run_bind, run_modify, run_pure]
    rfl
  obtain ⟨rfl, rfl⟩ := Prod.mk.inj (parts.symm.trans poises)
  unfold connected
  rw [run_checkThen, stands.connection, connecting, if_pos (by simp), run_discardThen,
    run_lookThen, announced.connection]
  dsimp only
  rw [if_neg (by simp [connecting])]
  unfold establish
  rw [run_actThen, run_actThen]
  rfl

theorem connected_ends (reaps : env.ReapsQuietly) (starts : StartsReporting env c)
    (stands : Stands env c w x told w) (connecting : x.state = .connecting) (tracked : x.Tracked b)
    (known : (w.backends.find? b).isSome) (link : Link) (api : DeviceApi) {p : PipeId}
    {v v' : World σ} {result : Except Fault Unit} (poises : (poise env c link).run w = (p, v))
    (begins : (Pipe.startLink env link).run.run v = (result, v')) :
    (∃ reports : List LinkStatus, v'.heard c =
        told ++ (if x.announced then [] else [.connecting]) ++ reports.map .link) ∧
      (result = .ok () → ∃ w', (connected env c link api).run.run w = (.ok (), w') ∧
        (w'.connection c).state = .connected ∧ w'.backends = w.backends ∧
        w'.heard c = v'.heard c ++ [.connected p api]) ∧
      ∀ f, result = .error f → ∃ w', (connected env c link api).run.run w = (.error f, w') ∧
        w'.Concluded b c (v'.heard c ++ [.canceled .local]) := by
  obtain ⟨p₁, v₁, poises', new, backends, poised⟩ := poise_stands reaps stands link
  obtain ⟨rfl, rfl⟩ := Prod.mk.inj (poises.symm.trans poises')
  obtain ⟨reports, stands'⟩ := startLink_stands reaps starts poised rfl link
  rw [begins] at stands'
  rw [run_connected reaps stands connecting link api poises, run_attemptThen, run_pipeStart new,
    begins]
  refine ⟨⟨reports, stands'.heard⟩, ?_, ?_⟩
  · rintro rfl
    have told' := ((stands'.anew (v'.pipes.update p Pipe.begun)).log .debug
      "Frame pipe started" []).log .debug "Connected"
      (fields ((v'.updatePipe p Pipe.begun).log .debug "Frame pipe started" []) c ++
        [("api", api.name)]) |>.tell reaps (.connected p api)
    rw [stands'.heard]
    refine ⟨_, rfl, ?_, ?_, told'.heard⟩
    · exact congrArg Connection.state told'.connection
    · exact told'.backends.trans (stands'.backends.trans backends)
  · rintro f rfl
    have books : Connection.Tracked ({ x with announced := true }.enter .connected (some p)) b :=
      ⟨tracked.untracks, tracked.forgets⟩
    have fresh : ∀ p', some p = some p' → (v.pipe p').state = .created := by
      rintro _ ⟨⟩
      rw [new]
    obtain ⟨canceled, concluded⟩ := cancel_concludes reaps
      (stands'.log .error "Failed to start frame pipe" [("conn", c.label), ("error", f.message)])
      nofun books (backends ▸ known) fresh .local
    rw [enter_announced, if_pos rfl, List.append_nil] at concluded
    rw [stands'.heard]
    dsimp only
    rw [run_actThen, run_log, run_tryThen]
    generalize (cancel env c .local).run.run _ = ended at canceled concluded
    obtain ⟨result, w'⟩ := ended
    obtain rfl : result = .ok () := canceled
    exact ⟨w', rfl, concluded⟩

end Connection

end DroneControl
