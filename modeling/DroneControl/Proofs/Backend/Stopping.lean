import DroneControl.Proofs.Backend.Handshake

/-!
# How a backend stops a connection

A network backend and one over a channel choose from the state of a connection, as it is when it is asked
to close, whether to disconnect or to cancel it.  A network backend has its host close the connection
first, and the host may end it itself or have it go on.  Whichever it does, the choice is right
afterwards, the connection is closed, and its sink has been told so once.
-/

set_option synthInstance.maxSize 2048

namespace DroneControl

variable {σ : Type} {b : BackendId} {c : ConnectionId} {w w' : World σ} {env : Env σ}
  {x : Connection}

/-! ## Connections that a backend has started -/

/-- A backend, other than of a Bluetooth host, has started the connection, of which nothing was told
before, and things have gone on from there.  They may be in the middle of telling how it ended. -/
inductive Started (b : BackendId) (c : ConnectionId) : World σ → Prop where
  | started {w w' : World σ} {h : DeviceHandle} {info : DeviceInfo} {sink : Sink} {agent : Agent}
      {env : Env σ} (hosted : Hosted env) (other : (w.backend b).kind ≠ .ble)
      (untold : w.OnCourse ⟨w.connections.next⟩)
      (runs : (Backend.start env b h info agent sink).run.run w = (.ok c, w')) : Started b c w'
  | goesOn {w w' : World σ} (started : Started b c w) (settles : w.Settled c → w'.Settled c)
      (rests : Rests c w w') : Started b c w'

theorem Started.later {α : Type} {a : Act σ α} (started : Started b c w) (hosted : Hosted env)
    (reaction : Reaction env α a) : Started b c (a.run w).2 := by
  have := hosted.goesOn c
  have := hosted.leavesAtRest c
  have goesOn : Keeps (GoesOn c) α a := reaction.holds
  have rests : Keeps (Rests c) α a := reaction.holds
  exact .goesOn started (goesOn w).settled (rests w)

namespace Backend

theorem start_persists [Upheld (Keeps (Rests c)) env] {h : DeviceHandle} {info : DeviceInfo}
    {agent : Agent} {sink : Sink} (other : (w.backend b).kind ≠ .ble)
    (untold : w.OnCourse ⟨w.connections.next⟩)
    (runs : (start env b h info agent sink).run.run w = (.ok c, w')) :
    c = ⟨w.connections.next⟩ ∧ (w'.connections.find? c).isSome ∧ ¬w'.GivenUp c := by
  obtain ⟨w₁, makes, row, -, history⟩ := run_make b h info.address sink w
  have spared : ¬w₁.GivenUp ⟨w.connections.next⟩ := by
    simp only [World.OnCourse, Table.find?_next] at untold
    rw [World.givenUp_congr history]
    exact untold.1
  have known := (row ⟨w.connections.next⟩).trans (if_pos rfl)
  generalize (⟨w.connections.next⟩ : ConnectionId) = new at makes known spared ⊢
  have later : Persists new w₁ w' →
      (w'.connections.find? new).isSome ∧ ¬w'.GivenUp new :=
    fun persists => ⟨persists.isSome (by simp [known]), spared ∘ persists.spared (by simp [known])⟩
  unfold start at runs
  rw [run_lookThen] at runs
  cases which : (w.backend b).part with
  | ble part => exact absurd (by simp [kind, which]) other
  | net part =>
      rw [which] at runs
      obtain ⟨w₂, request, prepares, rfl⟩ := startNet_ok runs
      unfold prepareNet at prepares
      rw [run_bind, makes, run_bind, run_bind, run_pure] at prepares
      obtain ⟨rfl, rfl⟩ := Prod.mk.inj prepares
      have noted : Holds (Keeps (σ := σ) (Persists new))
          (modify (·.updateBackend b (·.noteApi new info.api.effective))) :=
        ⟨fun _ => .of_same rfl rfl⟩
      have opening : Holds (Keeps (σ := σ) (Persists new))
          (mark (.opening new sink)) := ⟨fun w => .mark w (by simp)⟩
      have opened : Holds (Keeps (σ := σ) (Persists new))
          (mark (.opened new)) := ⟨fun w => .mark w (by simp)⟩
      have rest : Holds (Keeps (Persists new)) (do
          trackApi b new info.api.effective
          mark (.opening new sink)
          let _ ← (env.ask request).run
          mark (.opened new)
          log .debug "Network connection started"
            [("device", h.label), ("conn", new.label)]) := by
        unfold trackApi
        infer_instance
      exact ⟨rfl, later (rest.holds w₁)⟩
  | mux part =>
      rw [which] at runs
      dsimp only at runs
      unfold startMux at runs
      rw [run_lookThen] at runs
      split at runs
      · rw [run_actThen, makes, run_actThen, run_tryPure] at runs
        obtain ⟨same, rfl⟩ := Prod.mk.inj runs
        obtain rfl := Except.ok.inj same
        exact ⟨rfl, later (.of_same rfl rfl)⟩
      · cases runs

end Backend

namespace Started

theorem spared (started : Started b c w) : (w.connections.find? c).isSome ∧ ¬w.GivenUp c := by
  induction started with
  | started hosted other untold runs =>
    have := hosted.leavesAtRest c
    exact (Backend.start_persists other untold runs).2
  | goesOn _ _ rests earlier =>
    exact ⟨rests.isSome earlier.1, earlier.2 ∘ rests.spared earlier.1⟩

theorem settled (started : Started b c w) : w.Settled c := by
  induction started with
  | @started w w' h info sink agent env hosted other untold runs =>
    have := hosted.leavesAtRest c
    obtain ⟨rfl, -⟩ := Backend.start_persists other untold runs
    exact .inl (hosted.start_onCourse untold runs)
  | goesOn _ settles _ earlier => exact settles earlier

end Started

/-! ## The end of a connection is told once -/

/-- The sink is told that the connection has ended. -/
def ConnectionEvent.isEnd : ConnectionEvent → Bool
  | .disconnected | .canceled _ => true
  | _ => false

def Milestone.isEnd : Milestone → Bool
  | .disconnected | .canceled => true
  | _ => false

theorem countP_heard (w : World σ) (c : ConnectionId) :
    (w.heard c).countP ConnectionEvent.isEnd = (w.milestones c).countP Milestone.isEnd := by
  rw [World.milestones_eq_heard, List.countP_filterMap]
  congr 1
  funext event
  cases event <;> rfl

theorem Course.countP_script (course : Course) : course.script.countP Milestone.isEnd = 1 := by
  cases course <;> rfl

theorem World.OnCourse.ended_once (onCourse : w.OnCourse c) (closed : w.HasClosed c)
    (spared : ¬w.GivenUp c) : (w.heard c).countP ConnectionEvent.isEnd = 1 := by
  obtain ⟨x, row, closed⟩ := closed
  simp only [World.OnCourse, row, Connection.Fits, closed] at onCourse
  obtain ⟨⟨course, whole | ⟨given, -⟩⟩, -⟩ := onCourse
  · rw [countP_heard, whole, course.countP_script]
  · exact absurd given spared

/-! ## Stopping -/

namespace Backend

/-- The connection is asked to close, and a network backend has its host close it. -/
def heed (env : Env σ) (b : BackendId) (c : ConnectionId) : Act σ Unit := do
  let part := ((← get).backend b).part
  discard (Connection.beginClose c)
  match part with
  | .net part => env.order (.closeNet part.connector c)
  | _ => return

def endFrom (env : Env σ) (c : ConnectionId) (previous : ConnectionState)
    (otherwise : Try σ Unit) : Try σ Unit := do
  if previous.isEstablished then Connection.disconnected env c
  else if previous.isPending then Connection.cancel env c .local
  else otherwise

theorem heed_holds {Q : (α : Type) → Act σ α → Prop} [Base Q] [Upheld Q env]
    (asked : Holds Q (Connection.beginClose c : Act σ ConnectionState)) :
    Holds Q (heed env b c) := by
  unfold heed
  refine Holds.bind (h := fun w => Holds.bind (h := fun _ => ?_))
  split <;> infer_instance

theorem run_heed (w : World σ) :
    (heed env b c).run w = match (w.backend b).part with
      | .net part =>
        (env.order (.closeNet part.connector c)).run (w.updateConnection c Connection.closeRequested)
      | _ => ((), w.updateConnection c Connection.closeRequested) := by
  unfold heed
  rw [run_bind, run_get]
  dsimp only
  cases (w.backend b).part <;> rfl

theorem closeRequested_closed (w : World σ) :
    ((w.updateConnection c Connection.closeRequested).connection c).state = .closed ↔
      (w.connection c).state = .closed := by
  simp only [World.connection, Table.get, World.updateConnection, Table.find?_update, if_pos]
  cases w.connections.find? c with
  | none => rfl
  | some x =>
      simp only [Option.map_some, Option.getD_some]
      unfold Connection.closeRequested
      cases state : x.state <;> simp [state]

variable (c env) in
theorem run_stop (other : (w.backend b).kind ≠ .ble) (h : DeviceHandle) :
    let v := ((heed env b c).run w).2
    ∃ journal otherwise, (stop env b h c).run.run w =
      if (v.connection c).state = .closed then (.ok (), { v with journal })
      else (endFrom env c (w.connection c).state otherwise).run.run { v with journal } := by
  intro v
  unfold stop
  rw [run_lookThen]
  cases which : (w.backend b).part with
  | ble part => exact absurd (by simp [kind, which]) other
  | net part =>
      have same : v = ((env.order (.closeNet part.connector c)).run
          (w.updateConnection c Connection.closeRequested)).2 := by
        simp only [v, run_heed, which]
      have asked : (Connection.beginClose c).run w =
          ((w.connection c).state, w.updateConnection c Connection.closeRequested) := rfl
      dsimp only
      unfold stopNet
      rw [run_actThen, run_actThen, run_lookThen, asked, ← same]
      split
      · exact ⟨v.journal, pure (), rfl⟩
      · obtain ⟨journal, logged⟩ := v.log_journal .debug "Closing network connection"
          [("device", h.label), ("conn", c.label), ("previous", (w.connection c).state.name)]
        rw [run_actThen, run_log, logged]
        exact ⟨journal, _, rfl⟩
  | mux part =>
      have same : v = w.updateConnection c Connection.closeRequested := by
        simp only [v, run_heed, which]
      obtain ⟨journal, logged⟩ := w.log_journal .debug "Closing MUX connection"
        [("device", h.label), ("conn", c.label)]
      have asked : (Connection.beginClose c).run { w with journal } =
          ((w.connection c).state, { v with journal }) := by rw [same]; rfl
      dsimp only
      unfold stopMux
      rw [run_actThen, run_log, logged, run_actThen, asked]
      refine ⟨journal, pure (), ?_⟩
      by_cases closed : (v.connection c).state = .closed
      · have before : (w.connection c).state = .closed := by
          rwa [same, closeRequested_closed] at closed
        rw [if_pos closed, before]
        rfl
      · rw [if_neg closed]
        rfl

variable (env) in
theorem endFrom_leaves [Upheld (Keeps (Rests c)) env] {previous : ConnectionState}
    (row : w.connections.find? c = some x) (live : x.state ≠ .closed)
    (before : previous ≠ .closed) (still : previous.isEstablished → x.state.isEstablished)
    (otherwise : Try σ Unit) :
    ∃ w', (endFrom env c previous otherwise).run.run w = (.ok (), w') ∧
      Leaves c x (if previous.isEstablished then [.disconnected]
        else (if x.announced then [] else [.connecting]) ++ [.canceled .local]) w w' := by
  unfold endFrom
  by_cases established : previous.isEstablished
  · rw [if_pos established, if_pos established]
    exact Connection.disconnected_leaves env row (still established)
  · have pending : previous.isPending :=
      (ConnectionState.isPending_or_isEstablished before).resolve_right established
    rw [if_neg established, if_neg established, if_pos pending]
    exact Connection.cancel_leaves env row live .local

end Backend

/-- What the sink is told of a connection that was in some state when it was asked to close. -/
def World.farewell (v : World σ) (c : ConnectionId) (previous : ConnectionState) :
    List ConnectionEvent :=
  if (v.connection c).state = .closed then []
  else if previous.isEstablished then [.disconnected]
  else (if .connecting ∈ v.heard c then [] else [.connecting]) ++ [.canceled .local]

namespace Started

variable (env) in
theorem stop_ends [Together (Keeps (GoesOn c)) env] [Together (Keeps (Rests c)) env]
    (started : Started b c w) (other : (w.backend b).kind ≠ .ble) (h : DeviceHandle) :
    let v := ((Backend.heed env b c).run w).2
    let ended := (Backend.stop env b h c).run.run w
    ended.1 = .ok () ∧ ended.2.HasClosed c ∧
      ended.2.heard c = v.heard c ++ v.farewell c (w.connection c).state := by
  intro v ended
  have goesOn : GoesOn c w v := (Backend.heed_holds Connection.beginClose_goesOn).holds w
  have rests : Rests c w v := (Backend.heed_holds Connection.beginClose_rests).holds w
  obtain ⟨known, -⟩ := started.spared
  obtain ⟨journal, otherwise, runs⟩ := Backend.run_stop c env other h
  have runs : ended = _ := runs
  unfold World.farewell
  by_cases closed : (v.connection c).state = .closed
  · rw [if_pos closed] at runs
    rw [if_pos closed, List.append_nil, runs]
    exact ⟨rfl, World.hasClosed_of_state (rests.isSome known) closed, rfl⟩
  · obtain ⟨x, row, same⟩ := Connection.found_of_live closed
    have live : x.state ≠ .closed := same ▸ closed
    have before : (w.connection c).state ≠ .closed := fun shut =>
      closed (rests.hasClosed (World.hasClosed_of_state known shut)).state
    have still : (w.connection c).state.isEstablished → x.state.isEstablished := by
      intro established
      rw [← same]
      exact (started.settled.established_later goesOn (rests.grown known) established).resolve_right
        closed
    have onCourse : v.OnCourse c :=
      (goesOn.settled started.settled).resolve_right fun shut => closed shut.state
    obtain ⟨w', ends, leaves⟩ :=
      Backend.endFrom_leaves env (w := { v with journal }) row live before still otherwise
    rw [if_neg closed] at runs
    rw [if_neg closed, runs, ends]
    refine ⟨rfl, leaves.closed, leaves.heard.trans ?_⟩
    simp only [onCourse.announced_iff_heard row live]
    rfl

/-- A connection that was started may be stopped at any time.  That succeeds and leaves it closed.  If the
host did not end it when it was asked to, its sink is told that it disconnected just if it was
established before, and otherwise that it was canceled from this side.  Unless the sink is still being
told of another end, an end has been told once by then, and none ever after. -/
theorem stops (started : Started b c w) (hosted : Hosted env)
    (other : (w.backend b).kind ≠ .ble) (h : DeviceHandle) :
    let v := ((Backend.heed env b c).run w).2
    let ended := (Backend.stop env b h c).run.run w
    ended.1 = .ok () ∧ (ended.2.connection c).state = .closed ∧
    ended.2.heard c = v.heard c ++ v.farewell c (w.connection c).state ∧
    (w.OnCourse c → ∀ {env' : Env σ} {α : Type} {a : Act σ α}, Hosted env' → Reaction env' α a →
      ((a.run ended.2).2.heard c).countP ConnectionEvent.isEnd = 1) := by
  intro v ended
  have := hosted.goesOn c
  have := hosted.leavesAtRest c
  obtain ⟨succeeds, closed, heard⟩ := started.stop_ends env other h
  refine ⟨succeeds, closed.state, heard, fun onCourse env' _ _ hosted' reaction => ?_⟩
  have stops : Holds (Keeps (GoesOn c)) (Backend.stop env b h c).run := inferInstance
  have stopped : Started b c ended.2 := started.later hosted (.basic (.inr (.stop b h c)))
  have := hosted'.goesOn c
  have := hosted'.leavesAtRest c
  have goesOn : Keeps (GoesOn c) _ _ := reaction.holds
  have rests : Keeps (Rests c) _ _ := reaction.holds
  exact ((goesOn _).onCourse ((stops.holds w).onCourse onCourse)).ended_once
    ((rests _).hasClosed closed) (stopped.later hosted' reaction).spared.2

end Started

def tardyHost : Env Unit where
  tell _ _ := pure ()
  ask _ := pure ()
  order _ := do
    let _ ← (Backend.completeHandshake silentHost ⟨1⟩ ⟨1⟩ firstReply (.supplied ⟨1⟩)).run
  openSession _ _ _ := pure true
  openChannel _ _ _ := pure ⟨1⟩
  reap := reap silentHost

theorem tardyHost_hosted : Hosted tardyHost := by
  refine .around silentHost_hosted ⟨?_, ?_, ?_, ?order, ?_, ?_⟩ rfl
  case order =>
    intro order
    exact .bind (.basic (.inr (.completeHandshake _ _ _ _))) fun _ => .pure _
  all_goals intros; exact .pure _

theorem firstStart_started : Started ⟨1⟩ ⟨1⟩ (firstStart.run { host := () }).2 := by
  have other : ((netFounded.run { host := () }).2.backend ⟨1⟩).kind ≠ .ble := by decide +kernel
  have starts : firstStart.run { host := () } = (Backend.start silentHost ⟨1⟩ ⟨1⟩ default default
      (.listener ⟨2⟩)).run.run (netFounded.run { host := () }).2 := rfl
  have given : (firstStart.run { host := () }).1.toOption = some ⟨1⟩ := by decide +kernel
  have untold := netFounded_reached.onCourse ⟨(netFounded.run { host := () }).2.connections.next⟩
  generalize firstStart.run { host := () } = ended at starts given
  obtain ⟨result, w⟩ := ended
  obtain rfl : result = .ok ⟨1⟩ := eq_ok_of_toOption given
  exact .started silentHost_hosted other untold starts.symm

theorem firstStart_stops :
    let w := (firstStart.run { host := () }).2
    (w.connection ⟨1⟩).state = .connecting ∧
    let ended := (Backend.stop tardyHost ⟨1⟩ ⟨1⟩ ⟨1⟩).run.run w
    ended.1 = .ok () ∧ (ended.2.connection ⟨1⟩).state = .closed ∧
      ended.2.heard ⟨1⟩ = [.connecting, .canceled .local] ∧
      (ended.2.heard ⟨1⟩).countP ConnectionEvent.isEnd = 1 := by
  intro w
  have state : (w.connection ⟨1⟩).state = .connecting := by decide +kernel
  have other : (w.backend ⟨1⟩).kind ≠ .ble := by decide +kernel
  have heeded : ((((Backend.heed tardyHost ⟨1⟩ ⟨1⟩).run w).2).connection ⟨1⟩).state = .canceling := by
    decide +kernel
  have before : ((Backend.heed tardyHost ⟨1⟩ ⟨1⟩).run w).2.heard ⟨1⟩ = [] := by decide +kernel
  obtain ⟨succeeds, closed, heard, once⟩ := firstStart_started.stops tardyHost_hosted other ⟨1⟩
  refine ⟨state, succeeds, closed, heard.trans ?_, ?_⟩
  · rw [World.farewell, heeded, before, state]
    rfl
  · have later := once firstStart_netStarted.onCourse tardyHost_hosted (a := pure ()) (.pure ())
    rwa [run_pure] at later

end DroneControl
