import DroneControl.Proofs.Run.Library
import DroneControl.Proofs.Run.Steps

/-!
# Runs of the whole library

A host may be called back at any time, and may then think or make any call there is, in which it is
called back again.  `Hosted` unfolds this level by level: the innermost host only thinks.  A world is
reached if a program of calls leads to it from an empty world.  A closed property that every call
answers for, given that the host upholds it, holds of every run.
-/

namespace DroneControl

variable {σ : Type}

/-- Whatever can be asked of the library. -/
inductive Call (env : Env σ) : (α : Type) → Act σ α → Prop where
  | createConnection (h b address l) :
      Call env _ (Connection.create h b address (.listener l))
  | connecting (c) : Call env _ (Connection.connecting env c).run
  | connected (c link api) : Call env _ (Connection.connected env c link api).run
  | disconnected (c) : Call env _ (Connection.disconnected env c).run
  | failed (c) : Call env _ (Connection.failed env c).run
  | cancel (c reason) : Call env _ (Connection.cancel env c reason).run
  | beginClose (c) : Call env _ (Connection.beginClose c)
  | reportLink (c status) : Call env _ (Connection.reportLink env c status).run
  | attach (c token) : Call env _ (Connection.attach c token).run
  | detach (c) : Call env _ (Connection.detach c).run
  | disposeConnection (c) : Call env _ (Connection.dispose env c).run
  | receive (c frame) : Call env _ (Connection.receive env c frame).run
  | receivePacket (c characteristic packet) :
      Call env _ (Connection.receivePacket env c characteristic packet).run
  | createPipe (link) : Call env _ (Pipe.create link)
  | setReceiver (p l) : Call env _ (Pipe.setReceiver p (.listener l))
  | clearReceiver (p) : Call env _ (Pipe.clearReceiver p)
  | startPipe (p) : Call env _ (Pipe.start env p).run
  | stopPipe (p) : Call env _ (Pipe.stop env p).run
  | disposePipe (p) : Call env _ (Pipe.dispose env p)
  | sendFrame (p frame) : Call env _ (Pipe.send env p frame).run
  | receiveFrame (p frame) : Call env _ (Pipe.receive env p frame).run
  | createInterface (h p l cell) : Call env _ (Interface.create h p (.listener l) cell)
  | sendCommand (i c) : Call env _ (Interface.send env i c).run
  | closeInterface (i) : Call env _ (Interface.close i)
  | reportQuality (i sent received useful) :
      Call env _ (Interface.reportQuality env i sent received useful)
  | createProxy (h t port l) : Call env _ (Proxy.create h t port (.listener l))
  | reportOpen (p result) : Call env _ (Proxy.reportOpen env p result)
  | reportClosed (p) : Call env _ (Proxy.reportClosed env p)
  | closeProxy (p) : Call env _ (Proxy.close p)
  | createNet (r k port token) : Call env _ (Backend.createNet env r k port token).run
  | createBle (r host token) : Call env _ (Backend.createBle env r host token).run
  | openMux (r o descriptor token) : Call env _ (Backend.openMux env r o descriptor token).run
  | start (b h info agent l) : Call env _ (Backend.start env b h info agent (.listener l)).run
  | stop (b h c) : Call env _ (Backend.stop env b h c).run
  | openProxy (b h t port l) : Call env _ (Backend.openProxy env b h t port (.listener l)).run
  | completeHandshake (b c reply link) :
      Call env _ (Backend.completeHandshake env b c reply link).run
  | receiveOver (b frame) : Call env _ (Backend.receive env b frame).run
  | setEofListener (b l) : Call env _ (Backend.setEofListener b l)
  | endOfFile (b) : Call env _ (Backend.endOfFile env b)
  | destroyMux (b) : Call env _ (Backend.destroyMux env b).run
  | endOfChannel (u) : Call env _ (Uplink.endOfFile env u)
  | releaseToken (u) : Call env _ (Uplink.releaseToken u)
  | createRegistry (options l token) : Call env _ (Registry.create options l token)
  | setAgent (r agent) : Call env _ (Registry.setAgent r agent)
  | setVideoDecoding (r enabled) : Call env _ (Registry.setVideoDecoding r enabled)
  | setTraceLevel (r level) : Call env _ (Registry.setTraceLevel r level)
  | addDevice (r info b) : Call env _ (Registry.addDevice env r info b).run
  | removeDevice (r h) : Call env _ (Registry.removeDevice env r h).run
  | disconnectDevice (r h) : Call env _ (Registry.disconnectDevice env r h).run
  | createDeviceInterface (r h l) :
      Call env _ (Registry.createInterface r h (.listener l)).run
  | openDeviceProxy (r h t port l) :
      Call env _ (Registry.openProxy env r h t port (.listener l)).run
  | registerBackend (r b) : Call env _ (Registry.registerBackend r b).run
  | unregisterBackend (r b) : Call env _ (Registry.unregisterBackend env r b).run
  | registerDiscovery (r d) : Call env _ (Registry.registerDiscovery r d).run
  | unregisterDiscovery (r d) : Call env _ (Registry.unregisterDiscovery r d)
  | destroyRegistry (r) : Call env _ (Registry.destroy env r).run
  | createDiscovery (r name b) : Call env _ (Discovery.create r name b).run
  | setTypes (d types) : Call env _ (Discovery.setTypes d types)
  | startDiscovery (d) : Call env _ (Discovery.start d)
  | stopDiscovery (d) : Call env _ (Discovery.stop env d)
  | discover (d s) : Call env _ (Discovery.addDevice env d s).run
  | lose (d name t) : Call env _ (Discovery.removeDevice env d name t).run
  | createController (r h l token) : Call env _ (Controller.create r h l token).run
  | connect (k) : Call env _ (Controller.connect env k).run
  | disconnect (k) : Call env _ (Controller.disconnect env k).run
  | send (k command) : Call env _ (Controller.send env k command).run
  | startTimer (k period) : Call env _ (Controller.startTimer k period).run
  | haltTimer (k) : Call env _ (Controller.haltTimer k).run
  | destroyController (k) : Call env _ (Controller.destroy env k).run
  | createStream (r h url) : Call env _ (Stream.create r h url).run
  | openStream (s session) : Call env _ (Stream.openOn env s session).run
  | closeStream (s) : Call env _ (Stream.close s)
  | retain (k) : Call env _ (retain k)
  | release (k) : Call env _ (release env k)
  | defer (l) : Call env _ (defer (.call l))
  | schedule (delay l) : Call env _ (schedule delay (.call l))
  | schedulePeriodic (period l) : Call env _ (schedulePeriodic period (.call l))
  | cancelCall (t) : Call env _ (cancelCall t)
  | settle (extra) : Call env _ (Loop.settle env extra)
  | pass (extra ms) : Call env _ (Loop.pass env extra ms)
  | jump (extra ms) : Call env _ (Loop.jump env extra ms)
  | advance (extra ms) : Call env _ (Loop.advance env extra ms)

/-- The host thinks and takes notes. -/
inductive Thought : (α : Type) → Act σ α → Prop where
  | think {α : Type} (f : World σ → α × σ × List Note) :
      Thought α (modifyGet fun w => ((f w).1, { w with host := (f w).2.1, journal := (f w).2.2 }))

/-- What a host does that makes its calls in the same way as another. -/
def Reaction (inner : Env σ) : (α : Type) → Act σ α → Prop :=
  Program fun α a => Thought α a ∨ Call inner α a

/-- When it is called back, the host does what may be done. The start of a link does not call back. -/
structure Reacts (allowed : (α : Type) → Act σ α → Prop) (env : Env σ) : Prop where
  tell : ∀ l event, allowed _ (env.tell l event)
  ask : ∀ request, (∀ l, request ≠ .startLink l) → allowed _ (env.ask request).run
  startLink : ∀ l, Program Thought _ (env.ask (.startLink l)).run
  order : ∀ order, allowed _ (env.order order)
  openSession : ∀ h address c, allowed _ (env.openSession h address c)
  openChannel : ∀ o descriptor u, allowed _ (env.openChannel o descriptor u).run

/-- Collaborators that call back to any depth. -/
inductive Hosted : Env σ → Prop where
  | innermost {env : Env σ} (reacts : Reacts (Program Thought) env)
      (reaps : ∀ item, Program Thought _ (env.reap item)) : Hosted env
  | around {inner env : Env σ} (hosted : Hosted inner) (reacts : Reacts (Reaction inner) env)
      (reaps : env.reap = reap inner) : Hosted env

/-- A program of calls leads to the world from an empty one. -/
def Reached (w : World σ) : Prop :=
  ∃ (env : Env σ) (host : σ) (verbosity : Option Severity) (α : Type) (a : Act σ α),
    Hosted env ∧ Reaction env α a ∧ (a.run { host, verbosity }).2 = w

/-- A host that never calls back. -/
def silentHost : Env Unit where
  tell _ _ := pure ()
  ask _ := pure ()
  order _ := pure ()
  openSession _ _ _ := pure true
  openChannel _ _ _ := pure ⟨1⟩
  reap _ := pure ()

theorem silentHost_hosted : Hosted silentHost := by
  refine .innermost ⟨?_, ?_, ?_, ?_, ?_, ?_⟩ ?_
  all_goals intros; exact .pure _

/-! ## What every call answers for holds of every run -/

class Alone (Q : (α : Type) → Act σ α → Prop) : Prop extends
  Base Q, BackendLives Q, DiscoveryLives Q, TimerLives Q, TimerStarts Q, InterfaceLives Q,
  ConnectionNotes Q, RegistryLives Q

/-- The property holds of whatever calls on somebody. -/
class Together (Q : (α : Type) → Act σ α → Prop) (env : Env σ) : Prop extends
  Upheld Q env, InterfaceCalls Q env, ConnectionCalls Q env, RegistryCalls Q env,
  DiscoveryCalls Q env, CommandCalls Q env, LoopCalls Q env, ProxyCalls Q env

variable {Q : (α : Type) → Act σ α → Prop} {env : Env σ}

theorem Call.holds [Alone Q] [Together Q env] {α : Type} {a : Act σ α} (call : Call env α a) :
    Q α a := by
  cases call <;> exact Holds.holds

theorem Thought.holds [g : Base Q] {α : Type} {a : Act σ α} (thought : Thought α a) : Q α a := by
  cases thought with
  | think f => exact g.think f

theorem Thought.program_holds [Base Q] {α : Type} {a : Act σ α} (p : Program Thought α a) :
    Q α a :=
  Program.holds (fun thought => thought.holds) p

theorem Reaction.holds [Alone Q] [Together Q env] {α : Type} {a : Act σ α}
    (reaction : Reaction env α a) : Q α a := by
  refine Program.holds (fun basic => ?_) reaction
  rcases basic with thought | call
  · exact thought.holds
  · exact call.holds

/-- The start of a link changes nothing but what the host has in mind, and so does what is left to do for
a command interface. -/
structure Quiet (env : Env σ) : Prop where
  startLink : ∀ (l : LinkId) (w : World σ), ∃ host journal,
    ((env.ask (.startLink l)).run.run w).2 = { w with host, journal }
  reapInterface : ∀ (x : Interface) (w : World σ), ∃ host journal,
    ((env.reap (.interface x)).run w).2 = { w with host, journal }

theorem Thought.program_quiet {α : Type} {a : Act σ α} (p : Program Thought α a) (w : World σ) :
    ∃ host journal, (a.run w).2 = { w with host, journal } := by
  let R (w w' : World σ) : Prop := ∃ host journal, w' = { w with host, journal }
  have closed : Closed (Keeps R) := by
    refine Keeps.closed (fun w => ⟨w.host, w.journal, rfl⟩) ?_
    rintro w₁ w₂ w₃ ⟨_, _, rfl⟩ ⟨host, journal, rfl⟩
    exact ⟨host, journal, rfl⟩
  refine Program.holds (Q := Keeps R) (fun thought w => ?_) p w
  cases thought with
  | think f => exact ⟨_, _, rfl⟩

theorem Hosted.quiet (hosted : Hosted env) : Quiet env := by
  cases hosted with
  | innermost reacts reaps =>
    exact ⟨fun l => Thought.program_quiet (reacts.startLink l),
      fun x => Thought.program_quiet (reaps (.interface x))⟩
  | around _ reacts reaps =>
    refine ⟨fun l => Thought.program_quiet (reacts.startLink l), fun x w => ?_⟩
    rw [reaps]
    exact ⟨w.host, w.journal, rfl⟩

theorem Quiet.run_release_interface (quiet : Quiet env) (i : InterfaceId) (w : World σ) :
    ∃ interfaces host journal t, ((release env (.interface i)).run w).2 =
      { w with interfaces, host, journal, loop := w.loop.cancel? t } := by
  unfold release
  rw [run_bind, run_get]
  dsimp only
  cases hx : w.interfaces.find? i with
  | none =>
      have unknown : w.item? (.interface i) = none := by simp [World.item?, hx]
      rw [unknown]
      exact ⟨_, _, _, none, rfl⟩
  | some x =>
      have known : w.item? (.interface i) = some (.interface x) := by simp [World.item?, hx]
      rw [known]
      dsimp only
      split
      · obtain ⟨host, journal, same⟩ := quiet.reapInterface x (w.retire (.interface i))
        rw [run_bind, run_modify, same]
        exact ⟨_, host, journal, _, rfl⟩
      · exact ⟨_, _, _, none, rfl⟩

theorem Reacts.upholds {allowed : (α : Type) → Act σ α → Prop} [Base Q]
    (reacts : Reacts allowed env) (allow : ∀ {α : Type} {a : Act σ α}, allowed α a → Q α a)
    (reaps : ∀ item, Q _ (env.reap item)) : Upheld Q env where
  tell l event := allow (reacts.tell l event)
  ask request := by
    cases request with
    | startLink l => exact Thought.program_holds (reacts.startLink l)
    | _ => exact allow (reacts.ask _ fun _ => nofun)
  order order := allow (reacts.order order)
  openSession h address c := allow (reacts.openSession h address c)
  openChannel o descriptor u := allow (reacts.openChannel o descriptor u)
  reap := reaps

/-- If the calls answer for a property wherever it is upheld by collaborators, it is upheld to any
depth.  What is known of all collaborators already may be used for that. -/
theorem Hosted.together_of_hosted [Alone Q]
    (answers : ∀ env : Env σ, Hosted env → Upheld Q env → Together Q env)
    (hosted : Hosted env) : Together Q env := by
  refine answers env hosted ?_
  induction hosted with
  | innermost reacts reaps =>
    exact reacts.upholds Thought.program_holds fun item => Thought.program_holds (reaps item)
  | @around inner env hosted reacts reaps ih =>
    have := answers inner hosted ih
    refine reacts.upholds Reaction.holds fun item => ?_
    rw [reaps]
    exact (reap_holds item).holds

theorem Hosted.together [Alone Q]
    (answers : ∀ env : Env σ, Upheld Q env → Quiet env → Together Q env)
    (hosted : Hosted env) : Together Q env :=
  hosted.together_of_hosted fun env hosted upheld => answers env upheld hosted.quiet

theorem Reached.related_of_hosted {R : World σ → World σ → Prop} [Alone (Keeps R)]
    (answers : ∀ env : Env σ, Hosted env → Upheld (Keeps R) env → Together (Keeps R) env)
    {w : World σ} (reached : Reached w) :
    ∃ (host : σ) (verbosity : Option Severity), R { host, verbosity } w := by
  obtain ⟨env, host, verbosity, α, a, hosted, reaction, rfl⟩ := reached
  have := hosted.together_of_hosted answers
  have kept : Keeps R α a := Reaction.holds reaction
  exact ⟨host, verbosity, kept _⟩

theorem Reached.related {R : World σ → World σ → Prop} [Alone (Keeps R)]
    (answers : ∀ env : Env σ, Upheld (Keeps R) env → Quiet env → Together (Keeps R) env)
    {w : World σ} (reached : Reached w) :
    ∃ (host : σ) (verbosity : Option Severity), R { host, verbosity } w :=
  reached.related_of_hosted fun env hosted upheld => answers env upheld hosted.quiet

/-! ## The start of a pipe -/

def Aside (w w' : World σ) : Prop :=
  ∃ host journal pipes, w' = { w with host, journal, pipes }

theorem Aside.closed : Closed (Keeps (σ := σ) Aside) := by
  refine Keeps.closed (fun w => ⟨w.host, w.journal, w.pipes, rfl⟩) ?_
  rintro w₁ w₂ w₃ ⟨_, _, _, rfl⟩ ⟨host, journal, pipes, rfl⟩
  exact ⟨host, journal, pipes, rfl⟩

theorem Pipe.start_aside (quiet : Quiet env) (p : PipeId) (w : World σ) :
    Aside w ((Pipe.start env p).run.run w).2 := by
  have := Aside.closed (σ := σ)
  have logged : ∀ s message fields, Holds (Keeps Aside) (log s message fields : Act σ Unit) := by
    intro s message fields
    refine ⟨fun w => ⟨w.host, (w.log s message fields).journal, w.pipes, ?_⟩⟩
    simp only [run_log, World.log]
    split <;> rfl
  have begins : Holds (Keeps Aside) (modify (·.updatePipe p Pipe.begun) : Act σ Unit) :=
    ⟨fun w => ⟨w.host, w.journal, _, rfl⟩⟩
  have started : ∀ link, Holds (Keeps Aside) (Pipe.startLink env link).run := by
    intro link
    cases link with
    | supplied l =>
      refine ⟨fun w => ?_⟩
      obtain ⟨host, journal, same⟩ := quiet.startLink l w
      exact ⟨host, journal, w.pipes, same⟩
    | channel c => exact Holds.tryPure ()
  have kept : Holds (Keeps Aside) (Pipe.start env p).run := by
    unfold Pipe.start
    dsimp only
    infer_instance
  exact kept.holds w

end DroneControl
