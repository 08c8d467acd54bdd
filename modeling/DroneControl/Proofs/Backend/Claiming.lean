import DroneControl.Proofs.Connection.Custody

/-!
# Connections that a Bluetooth host claims

A Bluetooth host claims a connection by attaching a handle to it, and a start that is answered with a
connection was claimed.  From then on nothing but detaching takes the handle off, and as long as it is on
the connection is not destroyed.  A connection that the host did not claim is given up: it is closed and
may be destroyed, and no end of it is ever told.
-/

namespace DroneControl

variable {σ : Type} {b : BackendId} {c : ConnectionId} {w w' : World σ} {env : Env σ}
  {x : Connection}

theorem Hosted.start_claims (hosted : Hosted env) {part : BlePart}
    (ble : (w.backend b).part = .ble part) {h : DeviceHandle} {info : DeviceInfo} {agent : Agent}
    {sink : Sink} (runs : (Backend.start env b h info agent sink).run.run w = (.ok c, w')) :
    (∃ x token, w'.connections.find? c = some x ∧ x.attached = some token ∧ x.InTurn) ∧
      (w'.GivenUp c → w.GivenUp c) := by
  obtain ⟨w₁, makes, row, -, history⟩ := Backend.run_make b h info.address sink w
  have known := (row ⟨w.connections.next⟩).trans (if_pos rfl)
  generalize (⟨w.connections.next⟩ : ConnectionId) = new at makes known
  have := hosted.leavesAtRest new
  unfold Backend.start at runs
  rw [run_lookThen, ble] at runs
  dsimp only at runs
  unfold Backend.startBle at runs
  rw [run_actThen, makes, run_actThen, run_log, run_actThen] at runs
  have asks : Holds (Keeps (Rests new)) (do
      log .debug "BLE connection created" [("conn", new.label), ("address", info.address)]
      Backend.opening new sink (env.openSession part.host info.address new)) := by
    have opens := Backend.opening_rests (c := new) new sink
      (env.openSession part.host info.address new)
    infer_instance
  -- The host may do what it likes with the new connection before it answers.
  have rests := asks.holds w₁
  rw [run_bind, run_log] at rests
  dsimp only at rests runs
  generalize (Backend.opening new sink _).run _ = asked at rests runs
  obtain ⟨taken, w₂⟩ := asked
  obtain ⟨x, row₂, goes⟩ := rests.known _ known
  cases taken with
  | false => cases runs
  | true =>
    rw [if_pos rfl, run_lookThen, World.connection_of_find? row₂] at runs
    cases attached : x.attached with
    | none =>
      rw [attached] at runs
      cases runs
    | some token =>
      rw [attached] at runs
      cases runs
      refine ⟨⟨x, token, row₂, attached, goes.handles.inTurn ⟨[], rfl⟩⟩, fun given => ?_⟩
      rw [← World.givenUp_congr history]
      exact rests.spared (by simp [known]) given

/-- What comes in and goes out of a connection is written down, and stays so whatever is asked of the
library; in a reached world it is all in turn. -/
structure Connection.InCustody (env : Env σ) (w : World σ) (c : ConnectionId) (x : Connection) :
    Prop where
  attaches : ∀ token, x.attached = none ∧
      (∃ w', (attach c token).run.run w = (.ok (), w') ∧ w'.connections.find? c = some { x with
        attached := some token
        handovers := x.handovers ++ [.attached token] }) ∨
    x.attached.isSome ∧
      (attach c token).run.run w = (.error (.busy "connection already attached"), w)
  detaches :
    (∃ token w', x.attached = some token ∧ (detach c).run.run w = (.ok token, w') ∧
      w'.connections.find? c = some { x with
        attached := none
        handovers := x.handovers ++ [.detached token] }) ∨
    x.attached = none ∧
      (detach c).run.run w = (.error (.notFound "attached connection handle"), w)
  goesOn : ∀ (α : Type) (a : Act σ α), Reaction env α a →
    (∃ x', (a.run w).2.connections.find? c = some x' ∧ x.HandsOver x') ∧
      ((a.run w).2.GivenUp c → w.GivenUp c)
  inTurn : Reached w → x.InTurn ∨ w.GivenUp c

/-- To destroy a connection is refused if it has a handle, and does nothing then.  Otherwise it is closed
afterwards, and its sink is told of the end if it was not closed before.  In a reached world the end of a
closed connection has been told once, unless it was given up. -/
structure Connection.Disposable (env : Env σ) (w : World σ) (c : ConnectionId) (x : Connection) :
    Prop where
  refused : ((dispose env c).run.run w).1 = .error (.busy "connection still attached") ↔
    x.attached.isSome
  untouched : x.attached.isSome → ∃ journal, ((dispose env c).run.run w).2 = { w with journal }
  ended : x.attached = none → ∃ w', (dispose env c).run.run w = (.ok (), w') ∧ w'.HasClosed c ∧
    w'.heard c = w.heard c ++ (if x.state = .closed then [] else
      (if x.announced then [] else [.connecting]) ++ [.canceled .local]) ∧
    (Reached w → ¬w.GivenUp c → (w'.heard c).countP ConnectionEvent.isEnd = 1)
  told : Reached w → x.state = .closed → ¬w.GivenUp c →
    (w.heard c).countP ConnectionEvent.isEnd = 1

theorem Hosted.inCustody (hosted : Hosted env) (row : w.connections.find? c = some x) :
    Connection.InCustody env w c x where
  attaches := Connection.run_attach row
  detaches := Connection.run_detach row
  goesOn _ _ reaction := hosted.hands_over reaction row
  inTurn reached := reached.inTurn c x row

theorem Hosted.disposable (hosted : Hosted env) (row : w.connections.find? c = some x) :
    Connection.Disposable env w c x := by
  have := hosted.goesOn c
  have := hosted.leavesAtRest c
  have told : Reached w → x.state = .closed → ¬w.GivenUp c →
      (w.heard c).countP ConnectionEvent.isEnd = 1 :=
    fun reached closed => (reached.onCourse c).ended_once ⟨x, row, closed⟩
  by_cases attached : x.attached.isSome
  · obtain ⟨journal, refused⟩ := Connection.dispose_refused env row attached
    refine ⟨by simp [refused, attached], fun _ => ⟨journal, by rw [refused]⟩, fun free => ?_, told⟩
    simp [free] at attached
  · have free : x.attached = none := by simpa using attached
    obtain ⟨w', ends, closed, heard, spared⟩ := Connection.dispose_destroys env row free
    refine ⟨by simp [ends, free], by simp [free], fun _ => ⟨w', ends, closed, heard, ?_⟩, told⟩
    intro reached kept
    have disposes : Holds (Keeps (GoesOn c)) (Connection.dispose env c).run := inferInstance
    have onCourse := (disposes.holds w).onCourse (reached.onCourse c)
    rw [ends] at onCourse
    exact onCourse.ended_once closed (kept ∘ spared)

/-- A Bluetooth connection that was started has a handle.  Handles go onto a connection and come off it in
turn, whatever happens to it, so that none is lost, doubled or replaced.  The connection is destroyed
just if it has none, and its sink hears of the end by then unless the connection was closed before. -/
theorem Hosted.handles_kept (hosted : Hosted env) :
    (∀ (w w' : World σ) (b : BackendId) (part : BlePart) (h : DeviceHandle) (info : DeviceInfo)
      (agent : Agent) (sink : Sink) (c : ConnectionId), (w.backend b).part = .ble part →
      (Backend.start env b h info agent sink).run.run w = (.ok c, w') →
      (∃ x token, w'.connections.find? c = some x ∧ x.attached = some token ∧ x.InTurn) ∧
        (w'.GivenUp c → w.GivenUp c)) ∧
    ∀ (w : World σ) (c : ConnectionId) (x : Connection), w.connections.find? c = some x →
      Connection.InCustody env w c x ∧ Connection.Disposable env w c x :=
  ⟨fun _ _ _ _ _ _ _ _ _ ble runs => hosted.start_claims ble runs,
    fun _ _ _ row => ⟨hosted.inCustody row, hosted.disposable row⟩⟩

abbrev Finding := Bool × ConnectionState × List ConnectionEvent

def idleHost : Env (Option Finding) where
  tell _ _ := pure ()
  ask _ := pure ()
  order _ := pure ()
  openSession _ _ _ := pure false
  openChannel _ _ _ := pure ⟨1⟩
  reap _ := pure ()

/-- A host that claims every connection but opens sessions to known addresses only.  It destroys a
connection as soon as it hears of it, and remembers what came of that. -/
def rashHost : Env (Option Finding) where
  tell _ event :=
    match event with
    | .connection c .connecting => do
      let _ ← (Connection.detach c).run
      let result ← (Connection.dispose idleHost c).run
      modify fun w => { w with host := some (result.isOk, (w.connection c).state, w.heard c) }
    | _ => pure ()
  ask _ := pure ()
  order _ := pure ()
  openSession _ address c := do
    let _ ← (Connection.attach c address).run
    return address ≠ ""
  openChannel _ _ _ := pure ⟨1⟩
  reap := reap idleHost

theorem idleHost_hosted : Hosted idleHost := by
  refine .innermost ⟨?_, ?_, ?_, ?_, ?_, ?_⟩ ?_
  all_goals intros; exact .pure _

theorem rashHost_hosted : Hosted rashHost := by
  refine .around idleHost_hosted ⟨?tell, ?_, ?_, ?_, ?opens, ?_⟩ rfl
  case tell =>
    intro l event
    unfold rashHost
    dsimp only
    split
    · refine .bind (.basic (.inr (.detach _))) fun _ => ?_
      refine .bind (.basic (.inr (.disposeConnection _))) fun result => ?_
      exact .basic (.inl (.think fun w =>
        ((), some (result.isOk, (w.connection _).state, w.heard _), w.journal)))
    · exact .pure _
  case opens =>
    intro h address c
    exact .bind (.basic (.inr (.attach _ _))) fun _ => .pure _
  all_goals intros; exact .pure _

def bleFounded : Act (Option Finding) (Except Fault BackendId) := do
  let r ← Registry.create {} ⟨1⟩ none
  (Backend.createBle rashHost r ⟨1⟩ none).run

def nearby : DeviceInfo := { (default : DeviceInfo) with address := "90:03" }

theorem rashHost_handles_kept :
    let w := (bleFounded.run { host := none }).2
    let w' := ((Backend.start rashHost ⟨1⟩ ⟨1⟩ nearby default (.listener ⟨2⟩)).run.run w).2
    ∃ x, w'.connections.find? ⟨1⟩ = some x ∧ x.attached = some "90:03" ∧ x.InTurn ∧
      Connection.InCustody rashHost w' ⟨1⟩ x ∧ Connection.Disposable rashHost w' ⟨1⟩ x := by
  intro w w'
  have ble : (w.backend ⟨1⟩).part = .ble { host := ⟨1⟩, token := none } := by decide +kernel
  have given : ((Backend.start rashHost ⟨1⟩ ⟨1⟩ nearby default (.listener ⟨2⟩)).run.run
      w).1.toOption = some ⟨1⟩ := by decide +kernel
  have attached : (w'.connections.find? ⟨1⟩).map (·.attached) = some (some "90:03") := by
    decide +kernel
  obtain ⟨starts, kept⟩ := rashHost_hosted.handles_kept
  obtain ⟨⟨x, _, row, -, inTurn⟩, -⟩ :=
    starts w w' _ _ _ _ _ _ _ ble (Prod.ext (eq_ok_of_toOption given) rfl)
  rw [row] at attached
  exact ⟨x, row, Option.some.inj attached, inTurn, kept w' ⟨1⟩ x row⟩

def rashVisit : Act (Option Finding) (Except Fault ConnectionId) := do
  let _ ← bleFounded
  let first ← (Backend.start rashHost ⟨1⟩ ⟨1⟩ nearby default (.listener ⟨2⟩)).run
  let _ ← (Backend.start rashHost ⟨1⟩ ⟨2⟩ default default (.listener ⟨2⟩)).run
  let _ ← (Connection.failed rashHost ⟨1⟩).run
  return first

theorem rashVisit_unheard :
    let w := (rashVisit.run { host := none }).2
    let ended := (Connection.dispose rashHost ⟨2⟩).run.run w
    Reached w ∧ (rashVisit.run { host := none }).1.toOption = some ⟨1⟩ ∧
    w.host = some (true, .closed, [.connecting]) ∧
    (w.connections.find? ⟨2⟩).map (·.attached) = some none ∧ ended.1.isOk ∧
    (ended.2.connection ⟨2⟩).state = .closed ∧ ended.2.heard ⟨2⟩ = [] := by
  intro w ended
  refine ⟨⟨rashHost, none, none, _, rashVisit, rashHost_hosted, ?_, rfl⟩, ?_⟩
  · refine .bind (.bind (.basic (.inr (.createRegistry _ _ _))) fun r =>
      .basic (.inr (.createBle _ _ _))) fun _ => ?_
    refine .bind (.basic (.inr (.start _ _ _ _ _))) fun first => ?_
    refine .bind (.basic (.inr (.start _ _ _ _ _))) fun _ => ?_
    exact .bind (.basic (.inr (.failed _))) fun _ => .pure first
  · decide +kernel

end DroneControl
