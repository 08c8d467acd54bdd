import DroneControl.Proofs.Connection.Tidying
import DroneControl.Proofs.Device.Order
import DroneControl.Proofs.Pipe.Relaying

/-!
# The end of a connection

When a connection is closed and the operation that closed it is done, its pipe is at its end, the link was
stopped for it if it had started, and what was noted to be done on closing has been done.  In between the
sink, the link and whoever holds the pipe may do what they like; what they cannot do is to bring back a
closed connection or a disposed pipe, and so the operation finds its work where it left it.
-/

set_option synthInstance.maxSize 2048

namespace DroneControl

variable {σ : Type} {c c' : ConnectionId} {w w' w'' : World σ} {env : Env σ}

/-! ## The connection's own transitions -/

namespace Connection

theorem run_hook (hook : CloseHook) (w : World σ) :
    ((runHook c hook).run w).2.pipes = w.pipes ∧ ((runHook c hook).run w).2.history = w.history ∧
    ((runHook c hook).run w).2.connections.find? c =
      (w.connections.find? c).map fun x => { x with done := x.done ++ [hook] } := by
  cases hook <;> refine ⟨rfl, rfl, ?_⟩ <;> exact (Table.find?_update _ _ _ _).trans (if_pos rfl)

theorem run_hooks (hooks : List CloseHook) (w : World σ) :
    ((hooks.forM (runHook c)).run w).2.pipes = w.pipes ∧
    ((hooks.forM (runHook c)).run w).2.history = w.history ∧
    ((hooks.forM (runHook c)).run w).2.connections.find? c =
      (w.connections.find? c).map fun x => { x with done := x.done ++ hooks } := by
  induction hooks generalizing w with
  | nil =>
      refine ⟨rfl, rfl, ?_⟩
      change w.connections.find? c = _
      simp
  | cons hook hooks ih =>
      obtain ⟨pipes, history, row⟩ := run_hook (c := c) hook w
      obtain ⟨pipes', history', row'⟩ := ih ((runHook c hook).run w).2
      refine ⟨pipes'.trans pipes, history'.trans history, row'.trans ?_⟩
      rw [row, Option.map_map]
      congr 1
      funext x
      simp

variable {x : Connection}

theorem runHooks_tidies (w : World σ) :
    Tidies c w ((runHooks c).run w).2 ∧
      ∀ x, ((runHooks c).run w).2.connections.find? c = some x → x.hooks = [] := by
  unfold runHooks
  rw [run_bind, run_get, run_bind, run_modify]
  obtain ⟨pipes, history, row⟩ := run_hooks (c := c) (w.connection c).hooks
    (w.updateConnection c fun x => { x with hooks := [] })
  have emptied : (w.updateConnection c fun x => { x with hooks := [] }).connections.find? c =
      (w.connections.find? c).map fun x => { x with hooks := [] } :=
    (Table.find?_update _ _ _ _).trans (if_pos rfl)
  rw [emptied, Option.map_map] at row
  cases hx : w.connections.find? c with
  | none =>
      rw [hx] at row
      refine ⟨.of_other (row.trans hx.symm) pipes history, fun x found => ?_⟩
      cases row.symm.trans found
  | some x =>
      have found : w.connection c = x := World.connection_of_find? hx
      rw [hx] at row
      rw [found] at row pipes history
      rw [found]
      refine ⟨.of_row hx row ?_ (fun p => .inl) pipes history, fun y hy => ?_⟩
      · refine ⟨⟨fun g regular => ?_, fun closed => ⟨closed, fun _ => id⟩⟩, id, fun _ _ => rfl⟩
        refine { regular with hooks := regular.hooks.imp fun dropped => And.imp_left fun perm => ?_ }
        simpa using perm
      · obtain rfl := Option.some.inj (row.symm.trans hy)
        rfl

variable [u : Upheld (Keeps (Tidies c)) env]

variable (c) in
include u in
theorem dispose_ends {p : PipeId} (known : (w.pipes.find? p).isSome) :
    ∃ y, ((Pipe.dispose env p).run w).2.pipes.find? p = some y ∧ y.state = .disposed := by
  obtain ⟨y, hy⟩ := Option.isSome_iff_exists.mp known
  have row : ∀ f, (w.updatePipe p f).pipes.find? p = some (f y) := fun f => by
    simp [World.updatePipe, Table.find?_update, hy]
  unfold Pipe.dispose
  rw [run_bind, run_get, World.pipe_of_find? hy]
  dsimp only
  split
  · next started =>
    -- The link is stopped when the pipe is at its end already, which the link cannot undo.
    have rest : ∀ ask : Try σ Unit, Holds (Keeps (Tidies c)) ask.run →
        ∀ f : Pipe → Pipe, (f y).state = .disposed →
          ∃ z, ((recover (act (modify (·.updatePipe p f)) >>= fun _ => ask) fun fault =>
            log .debug "Link stop failed during dispose" [("error", fault.message)]).run
              w).2.pipes.find? p = some z ∧ z.state = .disposed := by
      intro ask asks f ended
      have asked : Holds (Keeps (Tidies c)) (recover ask fun fault =>
        log .debug "Link stop failed during dispose" [("error", fault.message)]) := inferInstance
      obtain ⟨z, hz, goes⟩ := (asked.holds (w.updatePipe p f)).pipes p _ (row f)
      exact ⟨z, hz, goes.ended ended⟩
    cases link : y.link with
    | supplied l =>
      exact rest _ inferInstance _ (by simp [Pipe.severed, started, link, Link.isChannel])
    | channel _ =>
      exact rest _ (Holds.tryPure ()) _ (by simp [Pipe.halted, started, link, Link.isChannel])
  · next idle => exact ⟨_, row _, by simp [Pipe.dropped, idle]⟩

variable (env) in
theorem tearDown_tidies (pipe : Option PipeId) (hx : w.connections.find? c = some x)
    (closed : x.state = .closed) :
    Tidies c w ((tearDown env c pipe).run w).2 ∧
      (w.Regular c → (∀ p, x.Held p → pipe = some p) →
        ((tearDown env c pipe).run w).2.Finished c) := by
  unfold tearDown
  have finish : ∀ v : World σ, Tidies c w v →
      Tidies c w ((runHooks c).run v).2 ∧
        ((∀ p, x.Held p → ∃ y, v.pipes.find? p = some y ∧ y.state = .disposed) →
          ((runHooks c).run v).2.Finished c) := by
    intro v before
    obtain ⟨last, emptied⟩ := runHooks_tidies (c := c) v
    have whole := before.trans last
    refine ⟨whole, fun ended y hy _ => ⟨fun p held => ?_, emptied y hy⟩⟩
    obtain ⟨y', hy', -, held'⟩ := whole.shut x hx closed
    obtain rfl := Option.some.inj (hy.symm.trans hy')
    obtain ⟨z, hz, gone⟩ := ended p (held' p held)
    obtain ⟨z', hz', goes⟩ := last.pipes p z hz
    exact ⟨z', hz', goes.ended gone⟩
  cases pipe with
  | none =>
      obtain ⟨whole, finished⟩ := finish w (.refl w)
      exact ⟨whole, fun _ own => finished fun p held => nomatch own p held⟩
  | some p =>
      rw [run_bind, run_bind]
      have stops : Holds (Keeps (Tidies c)) (recover (Pipe.stop env p) fun f =>
          log .warn "Failed to stop frame pipe" [("conn", c.label), ("error", f.message)]) :=
        inferInstance
      have disposes : Holds (Keeps (Tidies c)) (Pipe.dispose env p) := inferInstance
      -- A link that is called in between may close nothing anew and bring nothing back.
      have stopped := stops.holds w
      obtain ⟨whole, finished⟩ := finish _ (stopped.trans (disposes.holds _))
      refine ⟨whole, fun regular own => finished fun q held => ?_⟩
      obtain rfl := Option.some.inj (own q held)
      obtain ⟨y, hy⟩ := Option.isSome_iff_exists.mp (regular.known x hx p held)
      obtain ⟨y', hy', -⟩ := stopped.pipes p y hy
      exact dispose_ends c (by simp [hy'])

instance tell_tidies (event : ConnectionEvent) : Holds (Keeps (Tidies c)) (tell env c event) := by
  have : EntryCalls (Keeps (Tidies c)) env := Entry.calls_of_overlooks
  unfold tell
  refine Holds.bind (h := fun _ => Holds.bind (h := fun w => ?_))
  cases (w.connection c).sink <;> infer_instance

theorem close_tidies {f : Connection → Connection} (hx : w.connections.find? c = some x)
    (live : x.state ≠ .closed) (carries : x.CarriesTo (f x)) (closes : (f x).state = .closed)
    (held : ∀ p, (f x).Held p → x.Held p) (between : Tidies c (w.updateConnection c f) w') :
    Tidies c w ((tearDown env c x.pipe).run w').2 ∧
      (((tearDown env c x.pipe).run w').2.connection c).state = .closed := by
  have row : (w.updateConnection c f).connections.find? c = some (f x) := by
    simp [World.updateConnection, Table.find?_update, hx]
  have first : Carries c w (w.updateConnection c f) :=
    .of_row hx row (carries.regular _) carries.shut (fun p => .inl ∘ held p) rfl id
  obtain ⟨x', hx', closed', held'⟩ := between.shut _ row closes
  have before := first.trans between.toCarries
  obtain ⟨last, finished⟩ := tearDown_tidies env x.pipe hx' closed'
  obtain ⟨x'', hx'', closed'', -⟩ := last.shut x' hx' closed'
  refine ⟨⟨before.trans last.toCarries, fun regular _ => ?_⟩, ?_⟩
  swap
  · simp [World.connection, Table.get, hx'', closed'']
  exact finished (before.regular regular) fun p among =>
    (regular.row x hx).single live p (held p (held' p among))

theorem abandon_tidies (hx : w.connections.find? c = some x) (live : x.state ≠ .closed)
    (reason : CancelReason) : Tidies c w ((abandon env c reason).run w).2 ∧
      (((abandon env c reason).run w).2.connection c).state = .closed := by
  have found : w.connection c = x := World.connection_of_find? hx
  have noted : x.closed.TidiesTo { x.closed with announced := true } :=
    tidiesTo_of_same ⟨rfl, rfl, rfl⟩ ⟨rfl, rfl, rfl⟩
  have carries := x.carriesTo_closed.trans noted.toCarriesTo
  have told : ∀ event, Holds (Keeps (Tidies c)) (tell env c event) := fun _ => inferInstance
  unfold abandon
  rw [run_bind, run_get, run_bind, run_modify, found]
  split
  · simp only [run_bind, run_log]
    refine close_tidies (f := fun x => { x.closed with announced := true }) hx live carries rfl
      (fun _ => held_closed) ?_
    exact (Tidies.log _ _ _ _).trans ((told _).holds _)
  · simp only [run_bind, run_log]
    refine close_tidies (f := fun x => { x.closed with announced := true }) hx live carries rfl
      (fun _ => held_closed) ?_
    exact ((told _).holds _).trans ((Tidies.log _ _ _ _).trans ((told _).holds _))

instance cancel_tidies (reason : CancelReason) :
    Holds (Keeps (Tidies c)) (cancel env c reason).run := by
  refine ⟨fun w => ?_⟩
  unfold cancel
  rw [run_lookThen]
  dsimp only
  split
  · exact .log w _ _ _
  · next live =>
      obtain ⟨x, hx, same⟩ := found_of_live live
      exact (abandon_tidies hx (same ▸ live) reason).1

theorem cancel_shuts (w : World σ) (live : (w.connection c).state ≠ .closed) :
    (((cancel env c .local).run.run w).2.connection c).state = .closed := by
  obtain ⟨x, hx, same⟩ := found_of_live live
  unfold cancel
  rw [run_lookThen, if_neg live]
  exact (abandon_tidies (u := u) hx (same ▸ live) .local).2

theorem conclude_tidies (live : (w.connection c).state ≠ .closed) :
    Tidies c w ((conclude env c).run w).2 := by
  obtain ⟨x, hx, same⟩ := found_of_live live
  have told : Holds (Keeps (Tidies c)) (tell env c .disconnected) := inferInstance
  unfold conclude
  simp only [run_bind, run_get, run_modify, run_log, same]
  refine (close_tidies (f := Connection.closed) hx (same ▸ live) x.carriesTo_closed rfl
    (fun _ => held_closed) ?_).1
  exact (Tidies.log _ _ _ _).trans (told.holds _)

instance disconnected_tidies : Holds (Keeps (Tidies c)) (disconnected env c).run := by
  have canceled : Holds (Keeps (Tidies c)) (do
    act (log .debug "Disconnected before connected, canceling" [("conn", c.label)])
    cancel env c .local : Try σ Unit).run := inferInstance
  refine ⟨fun w => ?_⟩
  unfold disconnected
  rw [run_lookThen]
  dsimp only
  split
  · exact canceled.holds w
  · split
    · next established =>
        refine conclude_tidies fun closed => ?_
        simp [closed, ConnectionState.isEstablished] at established
    · exact .log w _ _ _

instance announce_tidies : Holds (Keeps (Tidies c)) (announce env c) := by
  have noted : Holds (Keeps (σ := σ) (Tidies c))
      (modify (·.updateConnection c fun x => { x with announced := true })) :=
    ⟨fun w => .aside w (fun _ => ⟨rfl, rfl, rfl⟩) fun _ => ⟨rfl, rfl, rfl⟩⟩
  unfold announce
  infer_instance

instance connecting_tidies : Holds (Keeps (Tidies c)) (connecting env c).run := by
  unfold connecting
  infer_instance

variable (env) in
theorem startPipe_tidies (p : PipeId) (api : DeviceApi) : Holds (Keeps (Tidies c)) (do
    match ← attempt (Pipe.start env p) with
    | .error f =>
      act (log .error "Failed to start frame pipe" [("conn", c.label), ("error", f.message)])
      cancel env c .local
      throw f
    | .ok () =>
      act (log .debug "Connected" (fields (← get) c ++ [("api", api.name)]))
      act (tell env c (.connected p api)) : Try σ Unit).run := by
  refine Holds.tryBind (h := fun result => ?_)
  cases result <;> infer_instance

theorem establish_tidies (hx : w.connections.find? c = some x) (state : x.state = .connecting)
    (link : Link) (api : DeviceApi) : Tidies c w ((establish env c link api).run.run w).2 := by
  unfold establish
  rw [run_actThen, run_actThen, run_modify]
  have created : (Pipe.create link).run w =
      (⟨w.pipes.next⟩, { w with pipes := (w.pipes.add { link }).2 }) := rfl
  rw [created]
  refine .trans (.addPipe w link) (.trans ?_ ((startPipe_tidies env _ api).holds _))
  have made : (w.pipes.add { link }).2.find? ⟨w.pipes.next⟩ = some { link } := by
    rw [Table.find?_add, if_pos rfl]
  generalize hv : ({ w with pipes := (w.pipes.add { link }).2 } : World σ) = v
  have row : v.connections.find? c = some x := by rw [← hv]; exact hx
  have known : (v.pipes.find? ⟨w.pipes.next⟩).isSome := by rw [← hv]; exact made ▸ rfl
  have entered : (v.updateConnection c (·.enter .connected (some ⟨w.pipes.next⟩))).connections.find? c =
      some (x.enter .connected (some ⟨w.pipes.next⟩)) := by
    simp [World.updateConnection, Table.find?_update, row]
  refine .of_row row entered ?_ (fun p held => ?_) rfl rfl
  · refine ⟨⟨fun g regular => ?_, fun closed => ?_⟩, by simp, fun closed => ?_⟩
    · refine regular.enter (by simp [state, ConnectionState.next]) rfl fun _ has => ?_
      simp [regular.pipe_isSome, state, ConnectionState.isEstablished] at has
    · simp [state] at closed
    · simp [state] at closed
  · rcases held_enter held with before | here
    · exact .inl before
    · exact .inr (Option.some.inj here ▸ known)

instance connected_tidies (link : Link) (api : DeviceApi) :
    Holds (Keeps (Tidies c)) (connected env c link api).run := by
  have announced : Holds (Keeps (Tidies c)) (announce env c) := inferInstance
  refine ⟨fun w => ?_⟩
  unfold connected
  rw [run_checkThen]
  split
  · simp only [run_discardThen, run_lookThen]
    refine .trans (announced.holds w) ?_
    split
    · exact .log _ _ _ _
    · next connecting =>
        rw [ne_eq, Decidable.not_not] at connecting
        have live : (((announce env c).run w).2.connection c).state ≠ .closed := by
          rw [connecting]
          nofun
        obtain ⟨x, hx, same⟩ := found_of_live live
        exact establish_tidies hx (same ▸ connecting) link api
  · exact .log w _ _ _

instance failed_tidies : Holds (Keeps (Tidies c)) (failed env c).run := by
  unfold failed
  infer_instance

instance reportLink_tidies (status : LinkStatus) :
    Holds (Keeps (Tidies c)) (reportLink env c status).run := by
  unfold reportLink
  infer_instance

omit u in
theorem beginClose_tidies : Holds (Keeps (σ := σ) (Tidies c)) (beginClose c) :=
  ⟨fun w => .update w fun x _ => ⟨x.tidiesTo_closeRequested, fun _ => held_closeRequested⟩⟩

omit u in
theorem attach_tidies (token : Token) :
    Holds (Keeps (σ := σ) (Tidies c)) (attach c token : Try σ Unit).run := by
  have noted : Holds (Keeps (σ := σ) (Tidies c))
      (modify (·.updateConnection c (·.attaching token))) :=
    ⟨fun w => .aside w (fun _ => ⟨rfl, rfl, rfl⟩) fun _ => ⟨rfl, rfl, rfl⟩⟩
  unfold attach
  dsimp only
  infer_instance

omit u in
theorem detach_tidies : Holds (Keeps (σ := σ) (Tidies c)) (detach c : Try σ Token).run := by
  have noted : Holds (Keeps (σ := σ) (Tidies c))
      (modify (·.updateConnection c detaching)) :=
    ⟨fun w => .aside w (fun _ => ⟨rfl, rfl, rfl⟩) fun _ => ⟨rfl, rfl, rfl⟩⟩
  unfold detach
  refine Holds.tryBind (h := fun w => ?_)
  cases (w.connection c).attached <;> infer_instance

instance dispose_tidies : Holds (Keeps (Tidies c)) (dispose env c).run := by
  refine ⟨dispose_of_drop .trans (cancel_tidies .local).holds cancel_shuts fun w closed => ?_⟩
  refine .update w fun x hx => ⟨tidiesTo_dropPipe ?_, fun _ => held_dropPipe⟩
  simpa [World.connection, Table.get, hx] using closed

omit u in
theorem run_onClosed (hook : CloseHook) (w : World σ) :
    ((onClosed c hook).run w).2.pipes = w.pipes ∧
    ((onClosed c hook).run w).2.history = w.history ∧
    ((onClosed c hook).run w).2.connections.find? c =
      (w.connections.find? c).map (·.noting hook) := by
  let note (x : Connection) : Connection := { x with noted := x.noted ++ [hook] }
  have noted : (w.updateConnection c note).connections.find? c = (w.connections.find? c).map note :=
    (Table.find?_update _ _ _ _).trans (if_pos rfl)
  have same : ((w.updateConnection c note).connection c).state = (w.connection c).state := by
    simp only [World.connection, Table.get, noted]
    cases w.connections.find? c <;> rfl
  unfold onClosed
  rw [run_bind, run_modify, run_bind, run_get, same]
  split
  · next closed =>
      obtain ⟨pipes, history, row⟩ := run_hook (c := c) hook (w.updateConnection c note)
      refine ⟨pipes, history, row.trans ?_⟩
      rw [noted, Option.map_map]
      refine Option.map_congr fun x hx => ?_
      have own : x.state = .closed := by simpa [World.connection, Table.get, hx] using closed
      simp [noting, own, note]
  · next live =>
      refine ⟨rfl, rfl, ?_⟩
      refine ((Table.find?_update _ _ _ _).trans (if_pos rfl)).trans ?_
      change Option.map _ ((w.updateConnection c _).connections.find? c) = _
      rw [noted, Option.map_map]
      refine Option.map_congr fun x hx => ?_
      have own : x.state ≠ .closed := by simpa [World.connection, Table.get, hx] using live
      simp [noting, own, note]

omit u in
theorem onClosed_tidies (hook : CloseHook) :
    Holds (Keeps (σ := σ) (Tidies c)) (onClosed c hook) := by
  refine ⟨fun w => ?_⟩
  obtain ⟨pipes, history, row⟩ := run_onClosed (c := c) hook w
  refine .of_map row (fun x _ => ⟨x.tidiesTo_noting hook, fun p held => ?_⟩) pipes history
  simpa only [Held, stages_noting] using held

omit u in
theorem discarded_carries (hx : w.connections.find? c = some x) :
    Carries c w (discarded w c) ∧ (discarded w c).GivenUp c ∧ (discarded w c).pipes = w.pipes ∧
      (discarded w c).connections.find? c = some { x.closed with attached := none } := by
  have detached : x.closed.TidiesTo { x.closed with attached := none } :=
    tidiesTo_of_same ⟨rfl, rfl, rfl⟩ ⟨rfl, rfl, rfl⟩
  have carries := x.carriesTo_closed.trans detached.toCarriesTo
  have run : discarded w c =
      World.mark { w with connections := w.connections.set c { x.closed with attached := none } }
        (.discarded c) := by
    unfold discarded
    rw [hx]
  have given : (discarded w c).GivenUp c := by
    rw [run]
    exact (World.givenUp_mark _ _ _).mpr (.inr rfl)
  have row : (discarded w c).connections.find? c = some { x.closed with attached := none } := by
    rw [run]
    exact (Table.find?_set _ _ _ _).trans (if_pos rfl)
  have pipes : (discarded w c).pipes = w.pipes := by rw [run]; rfl
  exact ⟨.of_row hx row (carries.regular _) carries.shut (fun p => .inl ∘ held_closed) pipes
    fun _ => given, given, pipes, row⟩

omit u in
theorem dropHooks_carries (hx : w.connections.find? c = some x) (given : w.GivenUp c) :
    Carries c w (w.updateConnection c fun x => { x with hooks := [] }) := by
  have row : (w.updateConnection c fun x => { x with hooks := [] }).connections.find? c =
      some { x with hooks := [] } := by
    simp [World.updateConnection, Table.find?_update, hx]
  exact .of_row hx row (·.dropHooks given) (fun closed => ⟨closed, fun _ => id⟩) (fun p => .inl)
    rfl id

theorem giveUp_tidies : Holds (Keeps (Tidies c)) (giveUp env c) := by
  refine ⟨fun w => ?_⟩
  unfold giveUp
  rw [run_bind, run_get, run_bind, run_modify]
  cases hx : w.connections.find? c with
  | none =>
      have idle : discarded w c = w := by
        unfold discarded
        rw [hx]
      have bare : (w.connection c).pipe = none := by
        simp [World.connection, Table.get, hx, default]
      rw [idle, bare]
      simp only [run_bind, run_modify, run_log]
      refine .trans (.update w fun x found => ?_) (.log _ _ _ _)
      cases hx.symm.trans found
  | some x =>
      have found : w.connection c = x := World.connection_of_find? hx
      obtain ⟨shut, given, pipes, row⟩ := discarded_carries hx
      rw [found]
      have rest : ∀ v, Tidies c (discarded w c) v →
          (∀ p, x.pipe = some p → (w.pipes.find? p).isSome →
            ∃ y, v.pipes.find? p = some y ∧ y.state = .disposed) →
          Tidies c w (v.updateConnection c fun x => { x with hooks := [] }) := by
        intro v between ended
        obtain ⟨x', hx', closed, held⟩ := between.shut _ row rfl
        have before := shut.trans between.toCarries
        have last := dropHooks_carries hx' (between.givenUp given)
        refine ⟨before.trans last, fun regular finished y hy _ => ?_⟩
        obtain rfl : { x' with hooks := [] } = y := by
          simpa [World.updateConnection, Table.find?_update, hx'] using hy
        refine ⟨fun p among => ?_, rfl⟩
        have had : x.Held p := held_closed (held p among)
        -- If it was closed before, its pipes had their end then; otherwise it had at most the one.
        by_cases already : x.state = .closed
        · obtain ⟨z, hz, disposed⟩ := (finished x hx already).pipes p had
          obtain ⟨z', hz', goes⟩ := between.pipes p z (pipes ▸ hz)
          exact ⟨z', hz', goes.ended disposed⟩
        · exact ended p ((regular.row x hx).single already p had) (regular.known x hx p had)
      cases hp : x.pipe with
      | none =>
          refine .trans (rest _ (.refl _) fun p has => ?_) (.log _ _ _ _)
          cases hp.symm.trans has
      | some p =>
          have disposes : Holds (Keeps (Tidies c)) (Pipe.dispose env p) := inferInstance
          refine .trans (rest _ (disposes.holds _) fun q has known => ?_) (.log _ _ _ _)
          obtain rfl := Option.some.inj (hp.symm.trans has)
          exact dispose_ends c (by rwa [pipes])

end Connection

/-! ## Runs -/

namespace Tidies

instance connectionLives : ConnectionLives (Keeps (σ := σ) (Tidies c)) where
  create h b address sink := by
    have added : Holds (Keeps (σ := σ) (Tidies c)) (modifyGet fun w =>
        let (c, connections) := w.connections.add { device := h, backend := b, address, sink }
        (c, { w with connections })) :=
      ⟨fun w => .addConnection w h b address sink⟩
    unfold Connection.create
    infer_instance
  onClosed c' hook :=
    Connection.of_own (fun _ => overlooksConnection) (a := fun c => Connection.onClosed c hook)
      (Connection.onClosed_tidies hook) (fun _ _ => Connection.onClosed_overlooked hook) c'
  opening _ _ := ⟨fun w => .mark w _⟩
  opened _ := ⟨fun w => .mark w _⟩

instance connectionNotes : ConnectionNotes (Keeps (σ := σ) (Tidies c)) where
  createConnection _ _ _ _ := inferInstance
  beginClose := Connection.of_own (fun _ => overlooksConnection) Connection.beginClose_tidies
    fun _ _ => Connection.beginClose_overlooked
  attach c' token :=
    Connection.of_own (fun _ => overlooksConnection) (a := fun c => (Connection.attach c token).run)
      (Connection.attach_tidies token) (fun _ _ => Connection.attach_overlooked token) c'
  detach := Connection.of_own (fun _ => overlooksConnection) Connection.detach_tidies
    fun _ _ => Connection.detach_overlooked

instance registryLives : RegistryLives (Keeps (σ := σ) (Tidies c)) :=
  Registry.lives_of_overlooks

instance alone : Alone (Keeps (σ := σ) (Tidies c)) where

theorem together (u : Upheld (Keeps (Tidies c)) env) : Together (Keeps (Tidies c)) env := by
  have : EntryCalls (Keeps (Tidies c)) env := Entry.calls_of_overlooks
  have : ConnectionCalls (Keeps (Tidies c)) env :=
    Connection.calls_of_own fun _ other => ⟨overlooksConnection other, inferInstance⟩
  have : GivesUp (Keeps (Tidies c)) env :=
    ⟨Connection.of_own (fun _ => overlooksConnection) Connection.giveUp_tidies
      fun _ _ => Connection.giveUp_overlooked⟩
  have : InterfaceCalls (Keeps (Tidies c)) env := Interface.calls_of_steps
  have : InterfaceRetries (Keeps (Tidies c)) env := Interface.retries_of_steps
  have : RegistryCalls (Keeps (Tidies c)) env := Registry.calls_of_overlooks
  have : LoopCalls (Keeps (Tidies c)) env := Loop.calls_of_steps
  exact {}

end Tidies

/-- A pipe is at its end: a link that was supplied for it was asked to stop once if it had started and
never else, and it lets no frame through. -/
structure World.Spent (w : World σ) (p : PipeId) : Prop where
  stopped : ∃ y, w.pipes.find? p = some y ∧ y.state = .disposed ∧ y.starts ≤ 1 ∧
    y.stops = if y.link.isChannel then 0 else y.starts
  sends : ∀ env frame, (Pipe.send env p frame).run.run w =
    (.error (Pipe.refusal "send on" .disposed), w)
  receives : ∀ env frame, (Pipe.receive env p frame).run.run w =
    (.error (Pipe.refusal "receive on" .disposed), w)

/-- What a pipe counts is what its link is asked for: a start is counted when the link has agreed to it,
and a stop when the link is asked for it. -/
structure Pipe.Counts (env : Env σ) (p : PipeId) (link : LinkId) : Prop where
  start : ∀ w : World σ, (w.pipe p).state = .created → (w.pipe p).link = .supplied link →
    (Pipe.start env p).run.run w =
      match (env.ask (.startLink link)).run.run w with
      | (.ok (), w') => (.ok (), (w'.updatePipe p begun).log .debug "Frame pipe started" [])
      | (.error f, w') => (.error f, w')
  stop : ∀ w : World σ, (w.pipe p).state = .started → (w.pipe p).link = .supplied link →
    (Pipe.stop env p).run.run w =
      (do env.ask (.stopLink link)
          act (log .debug "Frame pipe stopped" []) : Try σ Unit).run.run
        (w.updatePipe p (·.severed .stopped))
  dispose : ∀ w : World σ, (w.pipe p).state = .started → (w.pipe p).link = .supplied link →
    (Pipe.dispose env p).run w =
      (recover (env.ask (.stopLink link)) fun f =>
        log .debug "Link stop failed during dispose" [("error", f.message)]).run
        (w.updatePipe p (·.severed .disposed))

theorem Pipe.counts (env : Env σ) (p : PipeId) (link : LinkId) : Pipe.Counts env p link where
  start w created supplied := by
    unfold start
    rw [run_lookThen]
    dsimp only
    rw [created, supplied, if_neg (by simp), run_tryThen]
    dsimp only [startLink]
    cases (env.ask (.startLink link)).run.run w with
    | mk result w' => cases result <;> simp only [run_actThen, run_modify, run_act, run_log]
  stop w started supplied := by
    unfold stop
    rw [run_lookThen]
    dsimp only
    rw [started, supplied, if_neg (by simp)]
    rfl
  dispose w started supplied := by
    unfold dispose
    rw [run_bind, run_get]
    dsimp only
    rw [if_pos started, supplied]
    rfl

theorem World.Regular.spent (regular : w.Regular c) {p : PipeId} {y : Pipe}
    (hy : w.pipes.find? p = some y) (gone : y.state = .disposed) : w.Spent p := by
  have found : w.pipe p = y := World.pipe_of_find? hy
  have tidy := regular.pipes p y hy
  simp only [Pipe.Tidy, gone] at tidy
  refine ⟨⟨y, hy, gone, tidy⟩, fun env frame => ?_, fun env frame => ?_⟩
  · unfold Pipe.send
    rw [run_lookThen, found]
    dsimp only
    rw [gone]
    rfl
  · unfold Pipe.receive
    rw [run_lookThen, found]
    dsimp only
    rw [gone]
    rfl

/-- A connection comes to its state by the ways there are, and has a pipe just as long as it is
established.  Once it is closed and the call that closed it is done, be that call made from a program of
calls or from what somebody does who is called back, every pipe it had is at its end and all that was
noted to be done on closing has been done once, except for what its backend dropped that gave it up.
What is counted of the link's starts and stops is what the link was asked for, in every call on a pipe and
by the record of a link that keeps one. -/
theorem Reached.connection_ends (reached : Reached w) {x : Connection}
    (known : w.connections.find? c = some x) :
    (x.stages.head? = some (.connecting, none) ∧
      x.stages.IsChain (fun before after => after.1 ∈ before.1.next) ∧
      ∀ stage ∈ x.stages, stage.2.isSome = stage.1.isEstablished) ∧
    (x.state = .closed →
      (∀ p, x.Held p → w.Spent p) ∧
        ∃ dropped, x.noted.Perm (x.done ++ dropped) ∧ (dropped ≠ [] → w.GivenUp c)) ∧
    (∀ (env : Env σ) (p : PipeId) (link : LinkId), Pipe.Counts env p link) ∧
    (∀ (env : Env (Watch σ)) (p : PipeId) (v : World (Watch σ)) (link : Link) (α : Type)
      (a : Act (Watch σ) α), Watched p env → v.pipes.find? p = some { link } → v.host.seen = [] →
      Handling env p α a → ∃ y, (a.run v).2.pipes.find? p = some y ∧ y.link = link ∧
        y.Tallies (a.run v).2.host.seen) ∧
    ∀ (env : Env σ) (α : Type) (a : Act σ α), Hosted env → Reaction env α a →
      ∀ v : World σ, v.Regular c → v.Finished c →
        (a.run v).2.Regular c ∧ (a.run v).2.Finished c := by
  obtain ⟨host, verbosity, tidies⟩ :=
    reached.related (R := Tidies c) fun _ u _ => Tidies.together u
  have nothing : ∀ y, ({ host, verbosity } : World σ).connections.find? c ≠ some y := by
    intro y hy
    cases (World.find?_empty c).symm.trans hy
  have blank : World.Regular ({ host, verbosity } : World σ) c := by
    refine ⟨fun p y hy => ?_, fun y hy => absurd hy (nothing y), fun y hy => absurd hy (nothing y)⟩
    cases (World.find?_empty p).symm.trans hy
  have fresh : World.Finished ({ host, verbosity } : World σ) c := fun y hy => absurd hy (nothing y)
  have regular := tidies.regular blank
  have own := regular.row x known
  refine ⟨⟨own.begins, own.moves, own.piped⟩, fun closed => ?_, Pipe.counts,
    fun env p v link α a watched row unseen handling => watched.tallies row unseen handling, ?_⟩
  · obtain ⟨ended, none⟩ := tidies.finished blank fresh x known closed
    refine ⟨fun p held => ?_, ?_⟩
    · obtain ⟨y, hy, gone⟩ := ended p held
      exact regular.spent hy gone
    · obtain ⟨dropped, perm, given⟩ := own.hooks
      refine ⟨dropped, ?_, given⟩
      rwa [none, List.append_nil] at perm
  · intro env α a hosted reaction v regular finished
    have := hosted.together (Q := Keeps (Tidies c)) fun _ u _ => Tidies.together u
    have kept : Keeps (Tidies c) α a := Reaction.holds reaction
    have tidies := kept v
    exact ⟨tidies.regular regular, tidies.finished regular finished⟩

theorem briefVisit_closes :
    ((briefVisit.run { host := () }).2.connections.find? ⟨1⟩).map
        (fun x => (x.stages, x.state, x.done)) =
      some ([(.connecting, none), (.connected, some ⟨1⟩), (.closed, none)], .closed,
        [.untrack ⟨1⟩, .forgetApi ⟨1⟩]) := by
  decide +kernel

theorem briefVisit_connection_ends :
    ∃ x, (briefVisit.run { host := () }).2.connections.find? ⟨1⟩ = some x ∧ x.state = .closed ∧
      x.done.length = 2 ∧ x.Held ⟨1⟩ ∧ (briefVisit.run { host := () }).2.Spent ⟨1⟩ := by
  obtain ⟨x, known, seen⟩ := Option.map_eq_some_iff.mp briefVisit_closes
  obtain ⟨stages, closed, done⟩ : x.stages = _ ∧ x.state = _ ∧ x.done = _ := by
    simpa only [Prod.mk.injEq] using seen
  have held : x.Held ⟨1⟩ := ⟨(.connected, some ⟨1⟩), by simp [stages], rfl⟩
  obtain ⟨-, ended, -⟩ := briefVisit_reached.connection_ends known
  exact ⟨x, known, closed, by rw [done]; rfl, held, (ended closed).1 _ held⟩

end DroneControl
