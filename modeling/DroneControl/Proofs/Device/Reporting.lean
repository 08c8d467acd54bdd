import DroneControl.Proofs.Device.Following

/-!
# How a connection reports to an entry

A transition changes the connection, tells its sink and goes on when the sink is done.  By the time the
sink is told the connection fits what is told of it, or has closed; so each transition abides by the
slot, whoever the sink is.
-/

namespace DroneControl

open Picture

variable {σ : Type} {r r' : RegistryId} {h h' : DeviceHandle} {p : Picture} {env : Env σ}

/-- The event may be told of a connection of which so much was told. -/
def Timely (told : List Milestone) (event : ConnectionEvent) : Prop :=
  match event.milestone? with
  | some m => Continues told m
  | none => told = [.connecting, .connected]

/-! ## An event is told -/

variable {w w' : World σ} {c : ConnectionId} {x : Connection} {event : ConnectionEvent}

section

variable [u : Upheld (Keeps (Abides r h)) env]

theorem Entry.follow_along (quiet : Quiet env) (telling : Telling p w r' h' c event)
    (timely : Timely (p.told c) event) : Along r h p ((follow env r' h' c event).run w).2 := by
  have logged : ∀ message fields, Telling p (w.log .debug message fields) r' h' c event :=
    fun _ _ => telling.unseen (w.picture_log _ _ _) fun _ =>
      .of_same (w.log_connections _ _ _) (w.log_history _ _ _)
  unfold follow
  cases event with
  | connecting =>
      have told : p.told c = [] := by simpa using Continues.cases timely
      exact pass_connecting_along telling told
  | connected pipe api =>
      have told : p.told c = [.connecting] := by simpa using Continues.cases timely
      exact connected_along telling told
  | disconnected =>
      have told : p.told c = [.connecting, .connected] := by simpa using Continues.cases timely
      exact closed_along quiet (logged _ _) rfl timely (by simp [told, Underway]) (fun _ => rfl)
        fun _ => rfl
  | canceled reason =>
      refine closed_along quiet (logged _ _) rfl timely ?_ (fun _ => rfl) fun _ => rfl
      rcases Continues.cases timely with ⟨-, same⟩ | ⟨-, same⟩ | ⟨told, -⟩ | ⟨-, same⟩ | ⟨told, -⟩
      · contradiction
      · contradiction
      · simp [told, Underway]
      · contradiction
      · simp [told, Underway]
  | link status => exact pass_link_along telling timely

theorem Connection.tell_along (quiet : Quiet env) (hx : w.connections.find? c = some x)
    (orderly : w.picture.Orderly) (lawful : (w.mark (.told c event)).Lawful)
    (spared : ¬w.GivenUp c) (timely : Timely (w.milestones c) event) :
    Along r h w.picture ((tell env c event).run w).2 := by
  have sink : w.picture.sink c = some x.sink := by simp [World.picture, hx]
  have found : (w.mark (.told c event)).connection c = x := by
    simp [World.connection, World.mark, Table.get, hx]
  unfold tell
  rw [run_bind, run_mark, run_bind, run_get, found]
  cases hs : x.sink with
  | listener l =>
      have told : Along r h w.picture (w.mark (.told c event)) := by
        refine ⟨?_, lawful⟩
        rw [World.picture_mark]
        exact .told_beside orderly sink (by simp [hs]) event
      exact told.after (u.tell l _ _)
  | entry r' h' =>
      refine Entry.follow_along quiet ?_ timely
      exact ⟨orderly, lawful, w.picture_mark _, by rw [sink, hs], spared⟩

end

/-! ## The connection changes -/

def World.LawfulApart (w : World σ) (c : ConnectionId) : Prop :=
  ∀ c', c' ≠ c → w.OnCourse c' ∨ ∃ x, w.connections.find? c' = some x ∧ x.state = .closed

theorem World.Lawful.apart (lawful : w.Lawful) (c : ConnectionId) : w.LawfulApart c :=
  fun c' _ => lawful c'

theorem World.LawfulApart.of_goesOn (apart : w.LawfulApart c)
    (goesOn : ∀ c', c' ≠ c → GoesOn c' w w') : w'.LawfulApart c := by
  intro c' other
  rcases apart c' other with onCourse | ⟨x, hx, closed⟩
  · exact .inl ((goesOn c' other).onCourse onCourse)
  · obtain ⟨x', hx', -, still⟩ := (goesOn c' other).stays x hx
    exact .inr ⟨x', hx', (still closed).1⟩

theorem World.LawfulApart.lawful (apart : w.LawfulApart c)
    (own : w.OnCourse c ∨ ∃ x, w.connections.find? c = some x ∧ x.state = .closed) : w.Lawful := by
  intro c'
  by_cases same : c' = c
  · exact same ▸ own
  · exact apart c' same

theorem Altered.picture {f : Connection → Connection} (altered : Altered c f w w')
    (same : ∀ x, (f x).sink = x.sink) : w'.picture = w.picture := by
  have drawn : w'.picture = (w.updateConnection c f).picture :=
    World.picture_congr altered.connections altered.history altered.registries altered.controllers
  exact drawn.trans (w.picture_updateConnection c same)

theorem Abides.upheldGoesOn (u : Upheld (Keeps (Abides r h)) env)
    (c : ConnectionId) : Upheld (Keeps (GoesOn c)) env where
  tell l event w := (u.tell l event w).goesOn c
  ask request w := (u.ask request w).goesOn c
  order order w := (u.order order w).goesOn c
  openSession h address c' w := (u.openSession h address c' w).goesOn c
  openChannel o descriptor uplink w := (u.openChannel o descriptor uplink w).goesOn c
  reap item w := (u.reap item w).goesOn c

/-! ## The end of a connection -/

/-- The connection has closed, and so much has been told of it since the world was as in the picture. -/
structure Ending (r : RegistryId) (h : DeviceHandle) (p : Picture) (c : ConnectionId)
    (told : List Milestone) (w : World σ) : Prop where
  along : Along r h p w
  closing : w.Over c told
  spared : ¬w.GivenUp c

namespace Ending

variable {told : List Milestone}

theorem log (ending : Ending r h p c told w) (s : Severity) (message : String)
    (fields : List (String × String)) : Ending r h p c told (w.log s message fields) where
  along := ending.along.run (DroneControl.log s message fields)
  closing := (GoesOn.of_same (w.log_connections _ _ _) (w.log_history _ _ _)).closing ending.closing
  spared := by
    rw [World.givenUp_log]
    exact ending.spared

variable [u : Upheld (Keeps (Abides r h)) env]

theorem tell (quiet : Quiet env) (ending : Ending r h p c told w) (timely : Timely told event) :
    Ending r h p c (told ++ event.milestone?.toList) ((Connection.tell env c event).run w).2 := by
  have := Abides.upheldGoesOn u c
  obtain ⟨x, hx, closed, rfl, -⟩ := ending.closing
  have marked : (w.mark (.told c event)).LawfulApart c :=
    (ending.along.lawful.apart c).of_goesOn fun c' other =>
      .mark w (by simp [Occurrence.milestone?, other.symm]) nofun
  have along := Connection.tell_along (r := r) (h := h) quiet hx ending.along.follows.orderly
    (marked.lawful (.inr ⟨x, hx, closed⟩)) ending.spared timely
  refine ⟨along.from ending.along.follows, Connection.tell_over ending.closing event, fun given => ?_⟩
  have sink : w.picture.sink c = some x.sink := by simp [World.picture, hx]
  exact ending.spared (along.follows.kept c _ sink given)

end Ending

theorem Altered.ending {f : Connection → Connection} (altered : Altered c f w w')
    (hx : w.connections.find? c = some x) (closes : (f x).state = .closed ∧ (f x).pipe = none)
    (same : ∀ x, (f x).sink = x.sink) (orderly : w.picture.Orderly) (apart : w.LawfulApart c)
    (spared : ¬w.GivenUp c) : Ending r h w.picture c (w.milestones c) w' where
  along := by
    refine ⟨?_, (apart.of_goesOn fun c' => altered.goesOn).lawful
      (.inr ⟨f x, altered.row hx, closes.1⟩)⟩
    rw [altered.picture same]
    exact .refl orderly
  closing := ⟨f x, altered.row hx, closes.1, World.milestones_congr altered.history c, closes.2⟩
  spared := by rwa [World.givenUp_congr altered.history]

namespace Connection

variable [u : Upheld (Keeps (Abides r h)) env]

theorem abandon_along (quiet : Quiet env) (hx : w.connections.find? c = some x)
    (orderly : w.picture.Orderly) (apart : w.LawfulApart c) (spared : ¬w.GivenUp c)
    (complete : ∃ course : Course, w.milestones c ++
      (if x.announced then [] else [.connecting]) ++ [.canceled] = course.script)
    (reason : CancelReason) : Along r h w.picture ((abandon env c reason).run w).2 := by
  have found : w.connection c = x := World.connection_of_find? hx
  have ending : Ending r h w.picture c (w.milestones c) _ :=
    (Altered.update w c fun x => { x.closed with announced := true }).ending hx ⟨rfl, rfl⟩ (fun _ => rfl)
      orderly apart spared
  obtain ⟨course, complete⟩ := complete
  unfold abandon
  rw [run_bind, run_get, run_bind, run_modify, found]
  dsimp only
  split
  · next announced =>
      rw [if_pos announced, List.append_nil] at complete
      rw [run_bind, run_log, run_bind]
      refine ((ending.log _ _ _).tell quiet ?_).along.run _
      exact ⟨course, complete ▸ List.prefix_rfl⟩
  · next silent =>
      rw [if_neg silent] at complete
      rw [run_bind, run_bind, run_log, run_bind]
      have begun : Timely (w.milestones c) .connecting :=
        ⟨course, complete ▸ List.prefix_append _ _⟩
      refine (((ending.tell quiet begun).log _ _ _).tell quiet ?_).along.run _
      exact ⟨course, complete ▸ List.prefix_rfl⟩

theorem conclude_along (quiet : Quiet env) (hx : w.connections.find? c = some x)
    (orderly : w.picture.Orderly) (apart : w.LawfulApart c) (spared : ¬w.GivenUp c)
    (told : w.milestones c = [.connecting, .connected]) :
    Along r h w.picture ((conclude env c).run w).2 := by
  have ending : Ending r h w.picture c (w.milestones c) _ :=
    (Altered.update w c Connection.closed).ending hx ⟨rfl, rfl⟩ (fun _ => rfl) orderly apart spared
  unfold conclude
  rw [run_bind, run_get, run_bind, run_modify, run_bind, run_log, run_bind]
  refine ((ending.log _ _ _).tell quiet ?_).along.run _
  exact ⟨.full, by simp [told, Course.script]⟩

variable (r h c) in
theorem cancel_abides (quiet : Quiet env) (reason : CancelReason) :
    Holds (Keeps (Abides r h)) (cancel env c reason).run := by
  refine Abides.of_along (fun c' => ?_) fun w lawful orderly => ?_
  · exact (GoesOn.connectionCalls (Abides.upheldGoesOn u c') quiet).cancel c reason
  · unfold cancel
    rw [run_lookThen]
    dsimp only
    split
    · exact Along.run ⟨.refl orderly, lawful⟩ (log _ _ _)
    · next live =>
        obtain ⟨x, hx, same⟩ := found_of_live live
        rw [same] at live
        have fits := lawful.fits hx live
        exact abandon_along quiet hx orderly (lawful.apart c) (fits.not_givenUp live)
          (fits.completed live) reason

variable (r h c) in
theorem disconnected_abides (quiet : Quiet env) :
    Holds (Keeps (Abides r h)) (disconnected env c).run := by
  have canceled := cancel_abides r h c quiet .local
  refine Abides.of_along (fun c' => ?_) fun w lawful orderly => ?_
  · exact (GoesOn.connectionCalls (Abides.upheldGoesOn u c') quiet).disconnected c
  · have along : Along r h w.picture w := ⟨.refl orderly, lawful⟩
    unfold disconnected
    rw [run_lookThen]
    dsimp only
    split
    · exact along.run (act (log _ _ _) >>= fun _ => cancel env c .local : Try σ Unit).run
    · split
      · next established =>
          have live : (w.connection c).state ≠ .closed := by
            intro closed
            simp [closed, ConnectionState.isEstablished] at established
          obtain ⟨x, hx, same⟩ := found_of_live live
          rw [same] at live established
          have fits := lawful.fits hx live
          exact conclude_along quiet hx orderly (lawful.apart c) (fits.not_givenUp live)
            (fits.told_of_established established)
      · exact along.run (act (log _ _ _) >>= fun _ => throw _ : Try σ Unit).run

theorem announce_along (quiet : Quiet env) (connecting : (w.connection c).state = .connecting)
    (orderly : w.picture.Orderly) (lawful : w.Lawful) :
    Along r h w.picture ((announce env c).run w).2 := by
  obtain ⟨x, hx, same⟩ := found_of_live (by simp [connecting] : (w.connection c).state ≠ .closed)
  rw [same] at connecting
  unfold announce
  rw [run_bind, run_get, same]
  dsimp only
  split
  · exact ⟨.refl orderly, lawful⟩
  · next silent =>
      have fits := lawful.fits hx (by simp [connecting])
      simp only [Fits, connecting, if_neg silent] at fits
      have altered := (Altered.update w c fun x => { x with announced := true }).log .debug
        "Connecting" (fields w c)
      have told := World.milestones_congr altered.history c
      have spared := World.givenUp_congr altered.history c
      rw [run_bind, run_modify, run_bind, run_log, run_bind]
      rw [← altered.picture fun _ => rfl] at orderly ⊢
      refine tell_along quiet (altered.row hx) orderly ?_ ?_ ?_
      · refine GoesOn.lawful (fun c' => ?_) lawful
        by_cases own : c' = c
        · subst own
          exact .announced hx connecting silent altered
        · exact altered.told _ own
      · rw [spared]
        exact fits.1
      · rw [told, fits.2]
        exact ⟨.full, by simp [Course.script]⟩

variable (r h c) in
theorem connecting_abides (quiet : Quiet env) :
    Holds (Keeps (Abides r h)) (connecting env c).run := by
  refine Abides.of_along (fun c' => ?_) fun w lawful orderly => ?_
  · exact (GoesOn.connectionCalls (Abides.upheldGoesOn u c') quiet).connecting c
  · unfold connecting
    rw [run_checkThen]
    split
    · next state =>
        have along := announce_along (r := r) (h := h) quiet (List.mem_singleton.mp state) orderly
          lawful
        rw [run_actThen]
        split
        · exact along
        · exact along.run (log _ _ _)
    · exact Along.run ⟨.refl orderly, lawful⟩ (log _ _ _)

theorem establish_along (quiet : Quiet env) (hx : w.connections.find? c = some x)
    (connecting : x.state = .connecting) (announced : x.announced) (orderly : w.picture.Orderly)
    (lawful : w.Lawful) (link : Link) (api : DeviceApi) :
    Along r h w.picture ((establish env c link api).run.run w).2 := by
  have fits := lawful.fits hx (by simp [connecting])
  simp only [Fits, connecting, if_pos announced] at fits
  obtain ⟨pipe, w', altered, ends⟩ := run_establish c quiet link api w
  have told := World.milestones_congr altered.history c
  have spared : ¬w'.GivenUp c := by
    rw [World.givenUp_congr altered.history]
    exact fits.1
  have row := altered.row hx
  rw [← altered.picture fun _ => rfl] at orderly ⊢
  rcases ends with canceled | connected
  · rw [canceled]
    have found : w'.connection c = x.enter .connected (some pipe) := by
      simp [World.connection, Table.get, row]
    unfold cancel
    rw [run_lookThen, found]
    dsimp only
    rw [if_neg (by simp)]
    refine abandon_along quiet row orderly ?_ spared ⟨.vain, ?_⟩ .local
    · exact (lawful.apart c).of_goesOn fun c' => altered.goesOn
    · simp [told, fits.2, announced, Course.script]
  · rw [connected]
    refine tell_along quiet row orderly ?_ spared ?_
    · refine GoesOn.lawful (fun c' => ?_) lawful
      by_cases own : c' = c
      · subst own
        exact .established hx connecting announced altered api
      · exact altered.told _ own
    · rw [told, fits.2]
      exact ⟨.full, by simp [Course.script]⟩

variable (r h c) in
theorem connected_abides (quiet : Quiet env) (link : Link) (api : DeviceApi) :
    Holds (Keeps (Abides r h)) (connected env c link api).run := by
  refine Abides.of_along (fun c' => ?_) fun w lawful orderly => ?_
  · exact (GoesOn.connectionCalls (Abides.upheldGoesOn u c') quiet).connected c link api
  · have := Abides.upheldGoesOn u c
    unfold connected
    rw [run_checkThen]
    split
    · next state =>
        have connecting := List.mem_singleton.mp state
        have along := announce_along (r := r) (h := h) quiet connecting orderly lawful
        obtain ⟨-, x, hx, announced⟩ := announce_goesOn env connecting
        rw [run_discardThen, run_lookThen]
        dsimp only
        have found : ((announce env c).run w).2.connection c = x := by
          simp [World.connection, Table.get, hx]
        rw [found]
        split
        · exact along.run (act (log _ _ _) >>= fun _ => throw _ : Try σ Unit).run
        · next still =>
            rw [ne_eq, Decidable.not_not] at still
            have announced : x.announced := announced.resolve_right (by simp [still])
            exact (establish_along quiet hx still announced along.follows.orderly along.lawful link
              api).from along.follows
    · exact Along.run ⟨.refl orderly, lawful⟩ (log _ _ _)

variable (r h c) in
theorem reportLink_abides (quiet : Quiet env) (status : LinkStatus) :
    Holds (Keeps (Abides r h)) (reportLink env c status).run := by
  refine Abides.of_along (fun c' => ?_) fun w lawful orderly => ?_
  · exact (GoesOn.connectionCalls (Abides.upheldGoesOn u c') quiet).reportLink c status
  · unfold reportLink
    rw [run_checkThen]
    split
    · next state =>
        have live : (w.connection c).state ≠ .closed := by
          intro closed
          simp [closed] at state
        obtain ⟨x, hx, same⟩ := found_of_live live
        rw [same] at live state
        have fits := lawful.fits hx live
        rw [run_actThen, run_log]
        have history := w.log_history .debug "Link status changed"
          [("conn", c.label), ("status", status.name)]
        have logged : Along r h w.picture _ := Along.run ⟨.refl orderly, lawful⟩
          (log .debug "Link status changed" [("conn", c.label), ("status", status.name)])
        rw [run_log] at logged
        refine (tell_along quiet (x := x) ?_ logged.follows.orderly ?_ ?_ ?_).from logged.follows
        · rw [World.log_connections, hx]
        · refine GoesOn.lawful (fun c' => .mark _ ?_ nofun) logged.lawful
          simp [Occurrence.milestone?, ConnectionEvent.milestone?]
        · rw [World.givenUp_congr history]
          exact fits.not_givenUp live
        · change _ = _
          rw [World.milestones_congr history]
          refine fits.told_of_established ?_
          cases hs : x.state <;> simp_all [ConnectionState.isEstablished]
    · exact Along.run ⟨.refl orderly, lawful⟩ (log _ _ _)

variable (r h c) in
theorem failed_abides (quiet : Quiet env) : Holds (Keeps (Abides r h)) (failed env c).run := by
  have canceled := cancel_abides r h c quiet .local
  unfold failed
  infer_instance

variable (r h c) in
theorem dispose_abides (quiet : Quiet env) : Holds (Keeps (Abides r h)) (dispose env c).run := by
  have := Abides.upheldGoesOn u c
  refine ⟨dispose_of_drop .trans (cancel_abides r h c quiet .local).holds cancel_closes ?_⟩
  refine fun w closed => .of_picture (fun c' => ?_) (w.picture_updateConnection c fun _ => rfl)
  by_cases own : c' = c
  · subst own
    exact dropPipe_goesOn closed
  · exact .update_of_ne (Ne.symm own) w _

end Connection

/-! ## What is done without anybody being told -/

namespace Connection

theorem run_create (device : DeviceHandle) (backend : BackendId) (address : String) (sink : Sink)
    (w : World σ) :
    ∃ w' : World σ,
      (create device backend address sink).run w = (⟨w.connections.next⟩, w') ∧
        w'.picture = w.picture.meet ⟨w.connections.next⟩ sink ∧
        w'.connections = (w.connections.add { device, backend, address, sink }).2 ∧
        w'.history = w.history := by
  refine ⟨_, rfl, ?_, World.log_connections _ _ _ _, World.log_history _ _ _ _⟩
  exact (World.picture_log _ _ _ _).trans
    (w.picture_addConnection { device, backend, address, sink })

theorem create_abides (device : DeviceHandle) (backend : BackendId) (address : String)
    (l : ListenerId) :
    Holds (Keeps (σ := σ) (Abides r h)) (create device backend address (.listener l)) := by
  refine ⟨fun w => ⟨fun c' => ?_, fun _ orderly => ?_⟩⟩
  · exact (ConnectionLives.create (Q := Keeps (GoesOn c')) device backend address
      (.listener l)).holds w
  · obtain ⟨w', runs, picture, -⟩ := run_create device backend address (.listener l) w
    rw [runs, picture]
    refine .meet_beside orderly ?_ (fun _ _ => nofun) nofun
    simp [World.picture, Table.find?_next]

theorem beginClose_abides (c : ConnectionId) :
    Holds (Keeps (σ := σ) (Abides r h)) (beginClose c) := by
  refine ⟨fun w => .of_picture (fun c' => ?_) (w.picture_updateConnection c fun x => ?_)⟩
  · exact (ConnectionNotes.beginClose (Q := Keeps (GoesOn c')) c).holds w
  · unfold closeRequested
    split <;> rfl

end Connection

namespace Abides

instance connectionNotes : ConnectionNotes (Keeps (σ := σ) (Abides r h)) where
  createConnection := Connection.create_abides
  beginClose := Connection.beginClose_abides
  attach _ token := Connection.attach_overlooked token
  detach _ := Connection.detach_overlooked

theorem connectionCalls (u : Upheld (Keeps (Abides r h)) env) (quiet : Quiet env) :
    ConnectionCalls (Keeps (Abides r h)) env where
  connecting c := Connection.connecting_abides r h c quiet
  connected c link api := Connection.connected_abides r h c quiet link api
  disconnected c := Connection.disconnected_abides r h c quiet
  failed c := Connection.failed_abides r h c quiet
  cancel c reason := Connection.cancel_abides r h c quiet reason
  reportLink c status := Connection.reportLink_abides r h c quiet status
  dispose c := Connection.dispose_abides r h c quiet

end Abides

end DroneControl
