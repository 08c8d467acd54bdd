import DroneControl.Proofs.Connection.Course

/-!
# A connection that is closed stays closed

A connection is closed before its sink is told so, and what is left to be done about it is done
after that.  A relation that goes along with the single changes of a connection, and that says that
it stays closed, holds of all transitions of the connection, whatever its sink does when it is told.
-/

set_option synthInstance.maxSize 2048

namespace DroneControl

variable {σ : Type} {c : ConnectionId} {w w' : World σ} {env : Env σ}

/-- The connection is known and closed. -/
def World.HasClosed (w : World σ) (c : ConnectionId) : Prop :=
  ∃ y, w.connections.find? c = some y ∧ y.state = .closed

theorem World.HasClosed.state (closed : w.HasClosed c) : (w.connection c).state = .closed := by
  obtain ⟨y, hy, closed⟩ := closed
  rwa [World.connection_of_find? hy]

/-- A connection goes through a change that leaves for later what is to be done when it closes. -/
structure Connection.MovesTo (x x' : Connection) : Prop where
  backend : x'.backend = x.backend
  later : x'.hooks = x.hooks ∧ x'.noted = x.noted ∧ x'.done = x.done
  shut : x.state = .closed → x'.state = .closed
  handles : x.HandsOver x'

namespace Connection

variable {x x' : Connection}

theorem movesTo_of_same (backend : x'.backend = x.backend)
    (later : x'.hooks = x.hooks ∧ x'.noted = x.noted ∧ x'.done = x.done)
    (state : x'.state = x.state) (handles : x.HandsOver x') : x.MovesTo x' :=
  ⟨backend, later, state.trans, handles⟩

theorem movesTo_closed (x : Connection) : x.MovesTo x.closed :=
  ⟨rfl, ⟨rfl, rfl, rfl⟩, fun _ => rfl, .of_same rfl rfl⟩

theorem movesTo_enter (live : x.state ≠ .closed) (pipe : Option PipeId) :
    x.MovesTo (x.enter .connected pipe) :=
  ⟨rfl, ⟨rfl, rfl, rfl⟩, fun closed => absurd closed live, .of_same rfl rfl⟩

theorem movesTo_closeRequested (x : Connection) : x.MovesTo x.closeRequested := by
  unfold closeRequested
  split
  · next state => exact ⟨rfl, ⟨rfl, rfl, rfl⟩, by simp [state], .of_same rfl rfl⟩
  · next state => exact ⟨rfl, ⟨rfl, rfl, rfl⟩, by simp [state], .of_same rfl rfl⟩
  · exact movesTo_of_same rfl ⟨rfl, rfl, rfl⟩ rfl (.of_same rfl rfl)

end Connection

theorem Connection.discarded_closed {x : Connection} (hx : w.connections.find? c = some x) :
    (discarded w c).HasClosed c := by
  refine ⟨{ x.closed with attached := none }, ?_, rfl⟩
  unfold discarded
  rw [hx]
  exact (Table.find?_set _ _ _ _).trans (if_pos rfl)

class Accompanies (R : World σ → World σ → Prop) (c : ConnectionId) : Prop where
  trans : ∀ {w₁ w₂ w₃ : World σ}, R w₁ w₂ → R w₂ w₃ → R w₁ w₃
  hasClosed : ∀ {w w' : World σ}, R w w' → w.HasClosed c → w'.HasClosed c
  moves : ∀ (w : World σ) (f : Connection → Connection),
    (∀ x, w.connections.find? c = some x → x.MovesTo (f x)) → R w (w.updateConnection c f)
  /-- What is done once the connection is closed. -/
  runHook : ∀ {w : World σ}, w.HasClosed c → ∀ hook, R w ((Connection.runHook c hook).run w).2
  dropHooks : ∀ {w : World σ}, w.HasClosed c →
    R w (w.updateConnection c fun x => { x with hooks := [] })

namespace Connection

variable {R : World σ → World σ → Prop} [g : Base (Keeps R)]

section One

variable [a : Accompanies R c]

omit g in
theorem moves_holds {f : Connection → Connection} (moves : ∀ x : Connection, x.MovesTo (f x)) :
    Holds (Keeps R) (modify (·.updateConnection c f)) :=
  ⟨fun w => a.moves w f fun x _ => moves x⟩

theorem beginClose_accompanied : Holds (Keeps R) (beginClose c : Act σ ConnectionState) := by
  have asked : Holds (Keeps R) (modify (·.updateConnection c closeRequested)) :=
    moves_holds movesTo_closeRequested
  unfold beginClose
  infer_instance

theorem attach_accompanied (token : Token) :
    Holds (Keeps R) (attach c token : Try σ Unit).run := by
  have noted : Holds (Keeps R)
      (modify (·.updateConnection c (·.attaching token))) :=
    moves_holds fun x => movesTo_of_same rfl ⟨rfl, rfl, rfl⟩ rfl (.attaching x token)
  unfold attach
  dsimp only
  infer_instance

theorem detach_accompanied : Holds (Keeps R) (detach c : Try σ Token).run := by
  have noted : Holds (Keeps R)
      (modify (·.updateConnection c detaching)) :=
    moves_holds fun x => movesTo_of_same rfl ⟨rfl, rfl, rfl⟩ rfl (.detaching x)
  unfold detach
  refine Holds.tryBind (h := fun w => ?_)
  cases (w.connection c).attached <;> infer_instance

theorem runHooks_accompanied (closed : w.HasClosed c) : R w ((runHooks c).run w).2 := by
  have each : ∀ (hooks : List CloseHook) (w : World σ), w.HasClosed c →
      R w ((hooks.forM (runHook c)).run w).2 := by
    intro hooks
    induction hooks with
    | nil => exact fun w _ => (Holds.pure (Q := Keeps R) ()).holds w
    | cons hook hooks ih =>
        intro w closed
        have first : R w ((runHook c hook).run w).2 := a.runHook closed hook
        exact a.trans first (ih _ (a.hasClosed first closed))
  unfold runHooks
  rw [run_bind, run_get, run_bind, run_modify]
  have first := a.dropHooks closed
  exact a.trans first (each _ _ (a.hasClosed first closed))

section Ending

variable [u : Upheld (Keeps R) env]

variable (env) in
theorem tearDown_accompanied (closed : w.HasClosed c) (pipe : Option PipeId) :
    R w ((tearDown env c pipe).run w).2 := by
  unfold tearDown
  cases pipe with
  | none => exact runHooks_accompanied closed
  | some p =>
      have stops : Holds (Keeps R) (recover (Pipe.stop env p) fun f =>
          log .warn "Failed to stop frame pipe" [("conn", c.label), ("error", f.message)]) :=
        inferInstance
      have disposes : Holds (Keeps R) (Pipe.dispose env p) := inferInstance
      rw [run_bind, run_bind]
      have stopped := a.trans (stops.holds w) (disposes.holds _)
      exact a.trans stopped (runHooks_accompanied (a.hasClosed stopped closed))

theorem close_accompanied {f : Connection → Connection} (live : (w.connection c).state ≠ .closed)
    (closes : ∀ x : Connection, x.MovesTo (f x) ∧ (f x).state = .closed)
    (between : R (w.updateConnection c f) w') (pipe : Option PipeId) :
    R w ((tearDown env c pipe).run w').2 := by
  obtain ⟨y, hy, -⟩ := found_of_live live
  have shut : R w (w.updateConnection c f) := a.moves w f fun x _ => (closes x).1
  have closed : (w.updateConnection c f).HasClosed c :=
    ⟨f y, by simp [World.updateConnection, Table.find?_update, hy], (closes y).2⟩
  exact a.trans (a.trans shut between) (tearDown_accompanied env (a.hasClosed between closed) pipe)

variable (env) in
theorem giveUp_rest (w : World σ) {x : Connection} (hx : w.connections.find? c = some x) :
    R (discarded w c) ((giveUp env c).run w).2 := by
  have closed := discarded_closed hx
  have logged : Holds (Keeps R)
      (log .debug "Connection discarded" [("conn", c.label)] : Act σ Unit) := inferInstance
  unfold giveUp
  simp only [run_bind, run_get, run_modify]
  cases (w.connection c).pipe with
  | none => exact a.trans (a.dropHooks closed) (logged.holds _)
  | some p =>
      have disposes : Holds (Keeps R) (Pipe.dispose env p) := inferInstance
      have first := disposes.holds (discarded w c)
      exact a.trans first (a.trans (a.dropHooks (a.hasClosed first closed)) (logged.holds _))

end Ending

section Telling

variable [u : Upheld (Keeps R) env] [t : Tells (Keeps R) env c]

omit u in
theorem announce_accompanied : Holds (Keeps R) (announce env c) := by
  have noted : Holds (Keeps R)
      (modify (·.updateConnection c fun x => { x with announced := true })) :=
    moves_holds fun x => movesTo_of_same rfl ⟨rfl, rfl, rfl⟩ rfl (.of_same rfl rfl)
  unfold announce
  infer_instance

omit u in
theorem connecting_accompanied : Holds (Keeps R) (connecting env c).run := by
  have announced : Holds (Keeps R) (announce env c) := announce_accompanied
  unfold connecting
  infer_instance

theorem abandon_accompanied (live : (w.connection c).state ≠ .closed) (reason : CancelReason) :
    R w ((abandon env c reason).run w).2 := by
  have logged : ∀ s message fields, Holds (Keeps R) (log s message fields : Act σ Unit) :=
    fun _ _ _ => inferInstance
  have closes : ∀ x : Connection, x.MovesTo { x.closed with announced := true } ∧
      { x.closed with announced := true }.state = .closed :=
    fun x => ⟨⟨rfl, ⟨rfl, rfl, rfl⟩, fun _ => rfl, .of_same rfl rfl⟩, rfl⟩
  unfold abandon
  rw [run_bind, run_get, run_bind, run_modify]
  split
  · simp only [run_bind]
    refine close_accompanied live closes ?_ _
    exact a.trans ((logged _ _ _).holds _) ((t.tell _).holds _)
  · simp only [run_bind]
    refine close_accompanied live closes ?_ _
    exact a.trans ((t.tell _).holds _) (a.trans ((logged _ _ _).holds _) ((t.tell _).holds _))

theorem cancel_accompanied (reason : CancelReason) :
    Holds (Keeps R) (cancel env c reason).run := by
  have logged : Holds (Keeps R) (log .warn "cancel() on a closed connection"
      [("conn", c.label), ("reason", reason.name)] : Act σ Unit) := inferInstance
  refine ⟨fun w => ?_⟩
  unfold cancel
  rw [run_lookThen]
  dsimp only
  split
  · exact logged.holds w
  · next live => exact abandon_accompanied live reason

theorem conclude_accompanied (live : (w.connection c).state ≠ .closed) :
    R w ((conclude env c).run w).2 := by
  have logged : Holds (Keeps R) (log .debug "Disconnected" (fields w c) : Act σ Unit) :=
    inferInstance
  unfold conclude
  simp only [run_bind, run_get, run_modify]
  refine close_accompanied (f := Connection.closed) live
    (fun x => ⟨x.movesTo_closed, rfl⟩) ?_ _
  exact a.trans (logged.holds _) ((t.tell _).holds _)

theorem disconnected_accompanied : Holds (Keeps R) (disconnected env c).run := by
  have canceling : Holds (Keeps R) (cancel env c .local).run := cancel_accompanied _
  have canceled : Holds (Keeps R) (do
    act (log .debug "Disconnected before connected, canceling" [("conn", c.label)])
    cancel env c .local : Try σ Unit).run := inferInstance
  have logged : ∀ s message fields, Holds (Keeps R) (log s message fields : Act σ Unit) :=
    fun _ _ _ => inferInstance
  refine ⟨fun w => ?_⟩
  unfold disconnected
  rw [run_lookThen]
  dsimp only
  split
  · exact canceled.holds w
  · split
    · next established =>
        refine conclude_accompanied fun closed => ?_
        simp [closed, ConnectionState.isEstablished] at established
    · exact (logged _ _ _).holds w

theorem failed_accompanied : Holds (Keeps R) (failed env c).run := by
  have canceled : Holds (Keeps R) (cancel env c .local).run := cancel_accompanied _
  unfold failed
  infer_instance

theorem establish_accompanied (live : (w.connection c).state ≠ .closed) (link : Link)
    (api : DeviceApi) : R w ((establish env c link api).run.run w).2 := by
  obtain ⟨y, hy, same⟩ := found_of_live live
  have canceled : Holds (Keeps R) (cancel env c .local).run := cancel_accompanied _
  have created : Holds (Keeps R) (Pipe.create link : Act σ PipeId) := inferInstance
  unfold establish
  rw [run_actThen, run_actThen, run_modify]
  refine a.trans (created.holds w) (a.trans (a.moves _ _ fun z hz => ?_)
    (@Holds.holds _ (Keeps R) _ _ ?_ _))
  · obtain rfl := Option.some.inj (hy.symm.trans hz)
    exact movesTo_enter (same ▸ live) _
  · refine Holds.tryBind (h := fun result => ?_)
    cases result <;> infer_instance

theorem connected_accompanied (link : Link) (api : DeviceApi) :
    Holds (Keeps R) (connected env c link api).run := by
  have announced : Holds (Keeps R) (announce env c) := announce_accompanied
  have logged : ∀ s message fields, Holds (Keeps R) (log s message fields : Act σ Unit) :=
    fun _ _ _ => inferInstance
  refine ⟨fun w => ?_⟩
  unfold connected
  rw [run_checkThen]
  split
  · simp only [run_discardThen, run_lookThen]
    refine a.trans (announced.holds w) ?_
    split
    · exact (logged _ _ _).holds _
    · next connecting =>
        rw [ne_eq, Decidable.not_not] at connecting
        refine establish_accompanied ?_ link api
        rw [connecting]
        nofun
  · exact (logged _ _ _).holds w

theorem dispose_accompanied : Holds (Keeps R) (dispose env c).run := by
  have canceled : ∀ reason, Holds (Keeps R) (cancel env c reason).run := cancel_accompanied
  have dropped : Holds (Keeps R)
      (modify (·.updateConnection c fun x => { x with pipe := none })) :=
    moves_holds fun x => ⟨rfl, ⟨rfl, rfl, rfl⟩, id, .of_same rfl rfl⟩
  unfold dispose
  refine Holds.tryBind (h := fun w => ?_)
  dsimp only
  split
  · infer_instance
  · split
    case' isTrue => refine Holds.tryBind (h := fun _ => Holds.tryBind (h := fun _ => ?_))
    all_goals
      refine Holds.tryBind (h := fun w => ?_)
      cases (w.connection c).pipe <;> infer_instance

end Telling

end One

/-! ## Relations that go along with every connection -/

section Every

variable [u : Upheld (Keeps R) env] [e : ∀ c, Accompanies R c]

theorem calls_of_accompanies [∀ c, Tells (Keeps R) env c] : ConnectionCalls (Keeps R) env where
  connecting _ := connecting_accompanied
  connected _ link api := connected_accompanied link api
  disconnected _ := disconnected_accompanied
  failed _ := failed_accompanied
  cancel _ reason := cancel_accompanied reason
  reportLink _ status := reportLink_overlooked status
  dispose _ := dispose_accompanied

omit u in
theorem notes_of_accompanies [l : ConnectionLives (Keeps R)] : ConnectionNotes (Keeps R) where
  createConnection h b address listener := l.create h b address (.listener listener)
  beginClose _ := beginClose_accompanied
  attach _ token := attach_accompanied token
  detach _ := detach_accompanied

end Every

end Connection

end DroneControl
