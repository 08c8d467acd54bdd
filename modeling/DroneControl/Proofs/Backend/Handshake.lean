import DroneControl.Proofs.Backend.Recording
import DroneControl.Proofs.Connection.Leaving

/-!
# The completion of a handshake

A network backend starts a connection by having its host carry a handshake to the device, and goes
on with what the device replies.  The backend has the connection on record from its start until it
closes, and the sink of the connection has been told no more than that there is an attempt.  From
there a reply leads either to an established connection or to the end of the attempt, and in the
latter case the backend keeps nothing of it.
-/

set_option synthInstance.maxSize 2048

namespace DroneControl

variable {σ : Type} {b b' : BackendId} {c c' : ConnectionId} {api : DeviceApi}
  {w w' w'' : World σ} {env : Env σ}

/-! ## Connections that a network backend has started -/

/-- A connection is made and noted, and the host is about to be asked to open it. -/
def Backend.prepareNet (b : BackendId) (h : DeviceHandle) (info : DeviceInfo) (sink : Sink) :
    Act σ ConnectionId := do
  let c ← make b h info.address sink
  trackApi b c info.api.effective
  mark (.opening c sink)
  return c

/-- A network backend has started the connection to a device of a capability, or is having its host
open it, and things have gone on from there. Nothing was told of the connection before it was made.
-/
inductive NetStarted (b : BackendId) (c : ConnectionId) (api : DeviceApi) : World σ → Prop where
  | opening {w w' : World σ} {x : Backend} {part : NetPart} {h : DeviceHandle} {info : DeviceInfo}
      {sink : Sink} (known : w.backends.find? b = some x) (net : x.part = .net part)
      (untold : w.OnCourse ⟨w.connections.next⟩) (device : info.api = api)
      (runs : (Backend.prepareNet b h info sink).run w = (c, w')) : NetStarted b c api w'
  | started {w w' : World σ} {x : Backend} {part : NetPart} {h : DeviceHandle} {info : DeviceInfo}
      {sink : Sink} {agent : Agent} {env : Env σ} (hosted : Hosted env)
      (known : w.backends.find? b = some x) (net : x.part = .net part)
      (untold : w.OnCourse ⟨w.connections.next⟩) (device : info.api = api)
      (runs : (Backend.start env b h info agent sink).run.run w = (.ok c, w')) :
      NetStarted b c api w'
  | later {w : World σ} {env : Env σ} {α : Type} {a : Act σ α} (started : NetStarted b c api w)
      (hosted : Hosted env) (reaction : Reaction env α a) : NetStarted b c api (a.run w).2

namespace Backend

theorem prepareNet_records {x : Backend} {part : NetPart} (known : w.backends.find? b = some x)
    (net : x.part = .net part) (h : DeviceHandle) (info : DeviceInfo) (sink : Sink) :
    ∃ w', (prepareNet b h info sink).run w = (⟨w.connections.next⟩, w') ∧
      w'.Recorded b ⟨w.connections.next⟩ info.api.effective := by
  obtain ⟨w₁, runs, row, backends, -⟩ := run_make b h info.address sink w
  generalize (⟨w.connections.next⟩ : ConnectionId) = c at runs row backends ⊢
  have row := (row c).trans (if_pos rfl)
  have here := (backends b).trans (if_pos rfl)
  rw [known, Option.map_some] at here
  let noted : World σ := w₁.updateBackend b (·.noteApi c info.api.effective)
  have live : (noted.connection c).state ≠ .closed := by
    have same : noted.connection c = w₁.connection c := rfl
    rw [same, World.connection_of_find? row]
    nofun
  let w₂ := ((Connection.onClosed c (.forgetApi b)).run noted).2.mark (.opening c sink)
  refine ⟨w₂, by unfold prepareNet; rw [run_bind, runs]; rfl, ?_⟩
  have closing : w₂ = World.mark ((noted.updateConnection c fun x =>
      { x with noted := x.noted ++ [.forgetApi b] }).updateConnection c fun x =>
      { x with hooks := x.hooks ++ [.forgetApi b] }) (.opening c sink) := by
    simp only [w₂, Connection.run_onClosed_live _ live]
  rw [closing]
  have recorded : noted.backends.find? b =
      some (((x.noteMade c).track c).noteApi c info.api.effective) := by
    simp [noted, World.updateBackend, Table.find?_update, here]
  refine ⟨Table.lt_next recorded, { device := h, backend := b, address := info.address, sink
                                    noted := [.untrack b, .forgetApi b]
                                    hooks := [.untrack b, .forgetApi b] }, ?_, fun _ => ?_⟩
  · simp [World.mark, World.updateConnection, Table.find?_update, noted, World.updateBackend, row]
  · refine ⟨⟨by simp, by simp⟩, fun x' known' => ?_⟩
    obtain rfl := Option.some.inj (recorded.symm.trans known')
    simp [noteApi, api?, track, noteMade, net]

theorem startNet_asks (env : Env σ) (part : NetPart) (h : DeviceHandle) (info : DeviceInfo)
    (agent : Agent) (sink : Sink) (prepares : (prepareNet b h info sink).run w = (c, w')) :
    let asked := (env.ask (.openNet part.connector c info.port
      (handshake part agent info).toJson.render)).run.run w'
    let started := (startNet env b part h info agent sink).run.run w
    started.1 = asked.1.map (fun _ => c) ∧
      (asked.1 = .ok () → started.2 = (asked.2.mark (.opened c)).log .debug
        "Network connection started" [("device", h.label), ("conn", c.label)]) := by
  intro asked started
  generalize made : (make b h info.address sink).run w = m
  unfold prepareNet at prepares
  simp only [run_bind, run_mark, run_pure, made] at prepares
  obtain ⟨rfl, reached⟩ := Prod.mk.inj prepares
  have ran : (startNet env b part h info agent sink).run.run w = started := rfl
  unfold startNet at ran
  rw [run_actThen, run_actThen, run_tryThen, run_onFailure] at ran
  dsimp only [ExceptT.run_mk, opening] at ran
  rw [run_bind, run_mark, run_bind, run_bind, run_mark, run_pure, made] at ran
  dsimp only at ran
  rw [reached] at ran
  generalize same : (env.ask (.openNet part.connector m.1 info.port
    (handshake part agent info).toJson.render)).run.run w' = outcome at ran
  rw [show asked = outcome from same]
  obtain ⟨result, w₂⟩ := outcome
  cases result with
  | error f => exact ⟨ran ▸ rfl, nofun⟩
  | ok _ => exact ⟨ran ▸ rfl, fun _ => ran ▸ rfl⟩

theorem startNet_ok {part : NetPart} {h : DeviceHandle} {info : DeviceInfo} {agent : Agent}
    {sink : Sink} (runs : (startNet env b part h info agent sink).run.run w = (.ok c, w')) :
    ∃ w₁ request, (prepareNet b h info sink).run w = (c, w₁) ∧
      w' = ((((env.ask request).run.run w₁).2.mark (.opened c)).log .debug
        "Network connection started" [("device", h.label), ("conn", c.label)]) := by
  generalize prepares : (prepareNet b h info sink).run w = prepared
  obtain ⟨c', w₁⟩ := prepared
  obtain ⟨answer, left⟩ := startNet_asks env part h info agent sink prepares
  rw [runs] at answer left
  generalize asked : (env.ask (.openNet part.connector c' info.port
    (handshake part agent info).toJson.render)).run.run w₁ = outcome at answer left
  obtain ⟨result, w₂⟩ := outcome
  cases result with
  | error f => cases answer
  | ok _ =>
    cases answer
    exact ⟨w₁, _, rfl, by rw [asked]; exact left rfl⟩

end Backend

namespace Backend

theorem start_prepares {x : Backend} {part : NetPart} {h : DeviceHandle} {info : DeviceInfo}
    {agent : Agent} {sink : Sink} (known : w.backends.find? b = some x) (net : x.part = .net part)
    (runs : (start env b h info agent sink).run.run w = (.ok c, w')) :
    c = ⟨w.connections.next⟩ ∧
      ∃ w₁ request, w₁.Recorded b c info.api.effective ∧
        w' = ((((env.ask request).run.run w₁).2.mark (.opened c)).log .debug
          "Network connection started" [("device", h.label), ("conn", c.label)]) := by
  have here : w.backend b = x := World.backend_of_find? known
  unfold start at runs
  rw [run_lookThen, here, net] at runs
  obtain ⟨w₁, request, prepares, left⟩ := startNet_ok runs
  obtain ⟨w₂, prepared, recorded⟩ := prepareNet_records known net h info sink
  obtain ⟨new, rfl⟩ := Prod.mk.inj (prepares.symm.trans prepared)
  exact ⟨new, w₁, request, new ▸ recorded, left⟩

end Backend

namespace NetStarted

theorem onRecord (started : NetStarted b c api w) : w.Recorded b c api.effective := by
  induction started with
  | opening known net untold device runs =>
      obtain ⟨w₁, prepares, recorded⟩ := Backend.prepareNet_records known net _ _ _
      obtain ⟨rfl, rfl⟩ := Prod.mk.inj (runs.symm.trans prepares)
      exact device ▸ recorded
  | @started w w' x part h info sink agent env hosted known net untold device runs =>
      obtain ⟨-, w₁, request, recorded, rfl⟩ := Backend.start_prepares known net runs
      have : Together (Keeps (Records b c api.effective)) env :=
        hosted.together fun _ u _ => Records.together u
      have asked : Holds (Keeps (Records b c api.effective)) (do
          let _ ← (env.ask request).run
          mark (.opened c)
          log .debug "Network connection started" [("device", h.label), ("conn", c.label)]) :=
        inferInstance
      exact (asked.holds w₁).onRecord (device ▸ recorded)
  | later _ hosted reaction earlier => exact (hosted.records reaction _).onRecord earlier

theorem onCourse (started : NetStarted b c api w) : w.OnCourse c := by
  induction started with
  | @opening w w' x part h info sink known net untold device runs =>
      obtain ⟨w₁, prepares, -⟩ := Backend.prepareNet_records known net h info sink
      obtain ⟨new, -⟩ := Prod.mk.inj (runs.symm.trans prepares)
      rw [← new] at untold
      have kept : Holds (Keeps (σ := σ) (GoesOn c)) (Backend.prepareNet b h info sink) := by
        unfold Backend.prepareNet
        infer_instance
      have goesOn : GoesOn c w ((Backend.prepareNet b h info sink).run w).2 := kept.holds w
      rw [runs] at goesOn
      exact goesOn.onCourse untold
  | @started w w' x part h info sink agent env hosted known net untold device runs =>
      obtain ⟨new, -⟩ := Backend.start_prepares known net runs
      rw [← new] at untold
      exact hosted.start_onCourse untold runs
  | @later w env α a _ hosted reaction earlier =>
      have := hosted.goesOn c
      have kept : Keeps (GoesOn c) α a := reaction.holds
      exact (kept w).onCourse earlier

end NetStarted

/-! ## What has been announced -/

theorem World.OnCourse.announced_iff {y : Connection} (onCourse : w.OnCourse c)
    (row : w.connections.find? c = some y) (connecting : y.state = .connecting) :
    y.announced ↔ .connecting ∈ w.heard c :=
  onCourse.announced_iff_heard row (by simp [connecting])

/-! ## The reply to a handshake -/

/-- The device sent this reply, which accepts the connection. -/
def HandshakeReply.Accepts (bytes : Bytes) (reply : HandshakeReply) : Prop :=
  ofBytes? bytes = some reply ∧ reply.status = 0 ∧ reply.protocolVersion ≤ highestProtocolVersion

namespace Backend

theorem run_completeHandshake_of_accepts {reply : Bytes} {answer : HandshakeReply}
    (accepts : HandshakeReply.Accepts reply answer) (link : Link) :
    (completeHandshake env b c reply link).run.run w =
      match (Connection.connected env c link (((w.backend b).api? c).getD .full)).run.run w with
      | (.ok (), w') => (.ok answer, w'.log .debug "Handshake complete"
          [("conn", c.label), ("c2d_port", Text.Decimal.render answer.devicePort.toNat)])
      | (.error f, w') => (.error f, w') := by
  obtain ⟨reads, status, version⟩ := accepts
  unfold completeHandshake
  rw [HandshakeReply.read, reads]
  dsimp only
  rw [if_neg (fun rejected => rejected status), if_neg (UInt32.not_lt.mpr version), run_lookThen,
    run_tryThen]
  generalize (Connection.connected env c link _).run.run w = outcome
  obtain ⟨result, w'⟩ := outcome
  cases result <;> rfl

theorem run_completeHandshake_of_refused {reply : Bytes}
    (refused : ∀ answer, ¬HandshakeReply.Accepts reply answer) (c : ConnectionId) (w : World σ) :
    ∃ f message fields, ∀ (env : Env σ) b link, (completeHandshake env b c reply link).run.run w =
      (.error f, ((refuse env c).run (w.log .warn message fields)).2) := by
  unfold completeHandshake
  rw [HandshakeReply.read]
  cases reads : HandshakeReply.ofBytes? reply with
  | none => exact ⟨_, _, _, fun _ _ _ => rfl⟩
  | some answer =>
      dsimp only
      split
      · exact ⟨_, _, _, fun _ _ _ => rfl⟩
      · next status =>
          split
          · exact ⟨_, _, _, fun _ _ _ => rfl⟩
          · next version =>
              refine absurd ⟨reads, ?_, UInt32.not_lt.mp version⟩ (refused answer)
              exact Decidable.not_not.mp status

theorem completeHandshake_accepted {x : Backend} {y : Connection} {told : List ConnectionEvent}
    {reply : Bytes} {answer : HandshakeReply} (reaps : env.ReapsQuietly)
    (starts : Connection.StartsReporting env c) (stands : Stands env c w y told w)
    (connecting : y.state = .connecting) (tracked : y.Tracked b)
    (known : w.backends.find? b = some x) (recorded : x.api? c = some api)
    (accepts : HandshakeReply.Accepts reply answer) (link : Link) {p : PipeId} {v v' : World σ}
    {result : Except Fault Unit} (poises : (Connection.poise env c link).run w = (p, v))
    (begins : (Pipe.startLink env link).run.run v = (result, v')) :
    (∃ reports : List LinkStatus, v'.heard c =
        told ++ (if y.announced then [] else [.connecting]) ++ reports.map .link) ∧
      (result = .ok () → ∃ w', (completeHandshake env b c reply link).run.run w = (.ok answer, w') ∧
        (w'.connection c).state = .connected ∧ w'.backends = w.backends ∧
        w'.heard c = v'.heard c ++ [.connected p api]) ∧
      ∀ f, result = .error f → ∃ w',
        (completeHandshake env b c reply link).run.run w = (.error f, w') ∧
        w'.Concluded b c (v'.heard c ++ [.canceled .local]) := by
  have here : (w.backend b).api? c = some api := by
    rw [World.backend, Table.get, known]
    exact recorded
  obtain ⟨reported, established, broken⟩ := Connection.connected_ends reaps starts stands connecting
    tracked (by simp [known]) link api poises begins
  rw [run_completeHandshake_of_accepts accepts, here, Option.getD_some]
  refine ⟨reported, fun starts => ?_, fun f fails => ?_⟩
  · obtain ⟨w', runs, state, backends, heard⟩ := established starts
    have passes := (Passes.log_passes .debug "Handshake complete"
      [("conn", c.label), ("c2d_port", Text.Decimal.render answer.devicePort.toNat)]).holds w'
    rw [run_log] at passes
    refine ⟨_, by rw [runs], ?_, passes.backends.trans backends, (passes.heard c).trans heard⟩
    rw [World.connection, passes.connections]
    exact state
  · obtain ⟨w', runs, concluded⟩ := broken f fails
    exact ⟨w', by rw [runs], concluded⟩

theorem refuse_unasked (bare : (w.connection c).pipe = none) (ask : Request → Try σ Unit) :
    (refuse { env with ask } c).run w = (refuse env c).run w := by
  have tells : ∀ event, Connection.tell { env with ask } c event = Connection.tell env c event :=
    fun _ => rfl
  have abandons : (Connection.abandon { env with ask } c .rejected).run w =
      (Connection.abandon env c .rejected).run w := by
    unfold Connection.abandon
    simp only [run_bind, run_get, tells, bare, Connection.tearDown]
  have cancels : (Connection.cancel { env with ask } c .rejected).run.run w =
      (Connection.cancel env c .rejected).run.run w := by
    unfold Connection.cancel
    rw [run_lookThen, run_lookThen]
    dsimp only
    split
    · rw [run_actThen, run_throwThen, run_actThen, run_throwThen]
    · rw [run_act, run_act, abandons]
  unfold refuse
  rw [run_bind, run_bind, run_get]
  split
  · rw [run_recover, run_recover, cancels]
  · rfl

theorem refuse_concludes {x : Connection} {told : List ConnectionEvent} {v : World σ}
    (reaps : env.ReapsQuietly) (stands : Stands env c v x told w) (live : x.state ≠ .closed)
    (bare : x.pipe = none) (tracked : x.Tracked b) (known : (v.backends.find? b).isSome) :
    ((refuse env c).run w).2.Concluded b c
      (told ++ (if x.announced then [] else [.connecting]) ++ [.canceled .rejected]) := by
  obtain ⟨canceled, concluded⟩ := Connection.cancel_concludes reaps stands live tracked known
    (by simp [bare]) .rejected
  unfold refuse
  rw [run_bind, run_get, stands.connection, if_pos live, run_recover]
  generalize (Connection.cancel env c .rejected).run.run w = ended at canceled concluded
  obtain ⟨result, w'⟩ := ended
  obtain rfl : result = .ok () := canceled
  exact concluded

end Backend

/-- A connection that a network backend started is still being established, and its sink does not
call back.  A reply that accepts it establishes it with the capability that was known at the start,
if the link starts, and its sink is told so after the announcement and whatever the link reported;
if the link does not start the attempt is canceled.  With any other reply the attempt is rejected,
and it makes no difference what the link is and what the host would have done if asked for anything.
In each case the backend has nothing on its books of a connection that has closed. -/
theorem NetStarted.negotiates {ask : Request → Try σ Unit} {x : Backend}
    (started : NetStarted b c api w) (hosted : Hosted env)
    (starts : Connection.StartsReporting { env with ask } c)
    (known : w.backends.find? b = some x) (connecting : (w.connection c).state = .connecting)
    (passive : (w.connection c).sink.Passive env w) (reply : Bytes) (link : Link) :
    let host : Env σ := { env with ask }
    let poised := (Connection.poise host c link).run w
    let begun := (Pipe.startLink host link).run.run poised.2
    let ended := (Backend.completeHandshake host b c reply link).run.run w
    let told := w.heard c ++ if ConnectionEvent.connecting ∈ w.heard c then [] else [.connecting]
    (∀ answer, HandshakeReply.Accepts reply answer →
      (∃ reports : List LinkStatus, begun.2.heard c = told ++ reports.map .link) ∧
      (begun.1 = .ok () → ended.1 = .ok answer ∧ (ended.2.connection c).state = .connected ∧
        ended.2.heard c = begun.2.heard c ++ [.connected poised.1 api.effective]) ∧
      ∀ f, begun.1 = .error f → ended.1 = .error f ∧ (ended.2.connection c).state = .closed ∧
        ended.2.heard c = begun.2.heard c ++ [.canceled .local]) ∧
    ((∀ answer, ¬HandshakeReply.Accepts reply answer) →
      (∃ f, ended.1 = .error f) ∧ (ended.2.connection c).state = .closed ∧
      ended.2.heard c = told ++ [.canceled .rejected] ∧
      ∀ ask' link',
        (Backend.completeHandshake { env with ask := ask' } b c reply link').run.run w = ended) ∧
    ∃ x', ended.2.backends.find? b = some x' ∧
      ((ended.2.connection c).state = .closed → x'.api? c = none ∧ c ∉ x'.live) := by
  intro host poised begun ended told
  have reaps : host.ReapsQuietly := hosted.quiet.reapInterface
  obtain ⟨-, y, row, lasts⟩ := started.onRecord
  have here : w.connection c = y := World.connection_of_find? row
  rw [here] at connecting passive
  have live : y.state ≠ .closed := by simp [connecting]
  obtain ⟨tracked, recorded⟩ := lasts live
  have stands : Stands host c w y (w.heard c) w := ⟨row, rfl, rfl, fun _ => rfl, passive⟩
  have bare : y.pipe = none := by
    have onCourse := started.onCourse
    simp only [World.OnCourse, row, Connection.Piped, connecting] at onCourse
    exact onCourse.2
  have announced : told = w.heard c ++ if y.announced then [] else [.connecting] := by
    simp only [told, started.onCourse.announced_iff row connecting]
  have off : ∀ {w' : World σ} {told}, w'.Concluded b c told → ∃ x', w'.backends.find? b = some x' ∧
      ((w'.connection c).state = .closed → x'.api? c = none ∧ c ∉ x'.live) := by
    intro w' told concluded
    obtain ⟨x', known', struck⟩ := concluded.struck
    exact ⟨x', known', fun _ => struck⟩
  rw [announced]
  by_cases accepted : ∃ answer, HandshakeReply.Accepts reply answer
  · obtain ⟨answer, accepts⟩ := accepted
    obtain ⟨reported, established, broken⟩ := Backend.completeHandshake_accepted (b := b) reaps
      starts stands connecting tracked known (recorded x known) accepts link rfl rfl
    have only : ∀ answer', HandshakeReply.Accepts reply answer' → answer = answer' :=
      fun answer' accepts' => Option.some.inj (accepts.1.symm.trans accepts'.1)
    have not_refused (refused : ∀ answer, ¬HandshakeReply.Accepts reply answer) : False :=
      refused answer accepts
    cases begins : begun.1 with
    | ok _ =>
        obtain ⟨w', runs, state, backends, heard⟩ := established begins
        have same : ended = (.ok answer, w') := runs
        rw [same]
        refine ⟨fun answer' accepts' => ?_, fun refused => (not_refused refused).elim, ?_⟩
        · refine ⟨reported, fun _ => ⟨only answer' accepts' ▸ rfl, state, heard⟩, fun f fails => ?_⟩
          cases fails
        · exact ⟨x, backends ▸ known, fun closed => by cases state.symm.trans closed⟩
    | error f =>
        obtain ⟨w', runs, concluded⟩ := broken f begins
        have same : ended = (.error f, w') := runs
        rw [same]
        refine ⟨fun answer' accepts' => ⟨reported, fun starts => ?_, ?_⟩,
          fun refused => (not_refused refused).elim, off concluded⟩
        · cases starts
        · rintro _ ⟨⟩
          exact ⟨rfl, concluded.closed, concluded.heard⟩
  · have refused : ∀ answer, ¬HandshakeReply.Accepts reply answer := not_exists.mp accepted
    obtain ⟨f, message, fields, runs⟩ := Backend.run_completeHandshake_of_refused refused c w
    have concluded := Backend.refuse_concludes (b := b) reaps (stands.log .warn message fields) live
      bare tracked (by simp [known])
    have same : ended = (.error f, ((Backend.refuse host c).run (w.log .warn message fields)).2) :=
      runs host b link
    rw [same]
    refine ⟨fun answer accepts => absurd accepts (refused answer), fun _ => ?_, off concluded⟩
    refine ⟨⟨f, rfl⟩, concluded.closed, concluded.heard, fun ask' link' => ?_⟩
    have bare' : ((w.log .warn message fields).connection c).pipe = none := by
      rw [(stands.log .warn message fields).connection, bare]
    rw [runs, Backend.refuse_unasked bare']
    exact congrArg (fun left => (Except.error f, left.2)) (Backend.refuse_unasked bare' ask).symm

def netFounded : Act Unit (Except Fault BackendId) := do
  let r ← Registry.create {} ⟨1⟩ none
  (Backend.createNet silentHost r ⟨1⟩ 0 none).run

def firstStart : Act Unit (Except Fault ConnectionId) := do
  let _ ← netFounded
  (Backend.start silentHost ⟨1⟩ ⟨1⟩ default default (.listener ⟨2⟩)).run

def reportingStart : Request → Try Unit Unit
  | .startLink _ => Connection.reportLink silentHost ⟨1⟩ .up
  | _ => pure ()

theorem netFounded_reached : Reached (netFounded.run { host := () }).2 := by
  refine ⟨silentHost, (), none, _, netFounded, silentHost_hosted, ?_, rfl⟩
  refine .bind (.basic (.inr (.createRegistry _ _ _))) fun r => ?_
  exact .basic (.inr (.createNet _ _ _ _))

theorem firstStart_netStarted :
    NetStarted ⟨1⟩ ⟨1⟩ .unknown (firstStart.run { host := () }).2 := by
  have here : ((netFounded.run { host := () }).2.backends.find? ⟨1⟩).map (·.part) =
      some (.net { connector := ⟨1⟩, listenPort := 0, token := none }) := by decide +kernel
  obtain ⟨x, known, net⟩ := Option.map_eq_some_iff.mp here
  have starts : firstStart.run { host := () } = (Backend.start silentHost ⟨1⟩ ⟨1⟩ default default
      (.listener ⟨2⟩)).run.run (netFounded.run { host := () }).2 := rfl
  have given : (firstStart.run { host := () }).1.toOption = some ⟨1⟩ := by decide +kernel
  have untold := netFounded_reached.onCourse ⟨(netFounded.run { host := () }).2.connections.next⟩
  generalize firstStart.run { host := () } = ended at starts given
  obtain ⟨result, w⟩ := ended
  obtain rfl : result = .ok ⟨1⟩ := eq_ok_of_toOption given
  exact .started silentHost_hosted known net untold rfl starts.symm

def firstReply : Bytes := "\x7b\"status\":0\x7d".toUTF8.toList

theorem firstStart_negotiates :
    ((firstStart.run { host := () }).2.connection ⟨1⟩).state = .connecting ∧
    let ended := (Backend.completeHandshake { silentHost with ask := reportingStart } ⟨1⟩ ⟨1⟩
      firstReply (.supplied ⟨1⟩)).run.run (firstStart.run { host := () }).2
    ended.1 = .ok ⟨0, 0, 1⟩ ∧ (ended.2.connection ⟨1⟩).state = .connected ∧
      ended.2.heard ⟨1⟩ = [.connecting, .link .up, .connected ⟨1⟩ .full] := by
  have connecting : ((firstStart.run { host := () }).2.connection ⟨1⟩).state = .connecting := by
    decide +kernel
  have found : ((firstStart.run { host := () }).2.backends.find? ⟨1⟩).isSome := by decide +kernel
  obtain ⟨x, known⟩ := Option.isSome_iff_exists.mp found
  have starts : Connection.StartsReporting { silentHost with ask := reportingStart } ⟨1⟩ :=
    fun _ => .basic (.report _)
  have passive : ((firstStart.run { host := () }).2.connection ⟨1⟩).sink.Passive silentHost
      (firstStart.run { host := () }).2 := by
    have listens : ((firstStart.run { host := () }).2.connection ⟨1⟩).sink = .listener ⟨2⟩ := by
      decide +kernel
    rw [listens]
    exact fun _ => .pure ()
  have accepts : HandshakeReply.Accepts firstReply ⟨0, 0, 1⟩ := ⟨by decide +kernel, rfl, by decide⟩
  have begins : ((Pipe.startLink { silentHost with ask := reportingStart } (.supplied ⟨1⟩)).run.run
      ((Connection.poise { silentHost with ask := reportingStart } ⟨1⟩ (.supplied ⟨1⟩)).run
        (firstStart.run { host := () }).2).2).1.toOption = some () := by decide +kernel
  have reports : ((Pipe.startLink { silentHost with ask := reportingStart } (.supplied ⟨1⟩)).run.run
      ((Connection.poise { silentHost with ask := reportingStart } ⟨1⟩ (.supplied ⟨1⟩)).run
        (firstStart.run { host := () }).2).2).2.heard ⟨1⟩ = [.connecting, .link .up] := by
    decide +kernel
  have piped : ((Connection.poise { silentHost with ask := reportingStart } ⟨1⟩
      (.supplied ⟨1⟩)).run (firstStart.run { host := () }).2).1 = ⟨1⟩ := by decide +kernel
  have agreed := firstStart_netStarted.negotiates silentHost_hosted starts known connecting
    passive firstReply (.supplied ⟨1⟩)
  obtain ⟨answered, state, heard⟩ := (agreed.1 _ accepts).2.1 (eq_ok_of_toOption begins)
  refine ⟨connecting, answered, state, heard.trans ?_⟩
  rw [reports, piped]
  rfl

end DroneControl
