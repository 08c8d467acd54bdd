import DroneControl.Pipe.Flow
import DroneControl.Proofs.Run.Closed
import DroneControl.Proxy.Report

/-!
# The ground of a closed property

What a closed property has to hold of before anything can be said of the operations: changes of the
tables that it does not look into, the loop's timers as far as they are not about a command in flight,
and what the host does when it is called on.  Pipes and proxies need no more than that.
-/

namespace DroneControl

variable {σ α : Type}

/-- What an occurrence may be about. -/
inductive Topic where
  | connection
  | discard
  | registry
  | device
  | hearing
  | notice
  | command
  | control
  | source
  | traffic
  deriving DecidableEq

def Occurrence.topic : Occurrence → Topic
  | .told _ _ | .opening _ _ | .opened _ => .connection
  | .discarded _ => .discard
  | .founded _ _ | .dissolved _ _ | .announced _ _ _ => .registry
  | .appointed _ _ _ | .leaving _ _ _ _ | .removed _ _ => .device
  | .heeded _ _ _ _ _ _ | .ignored _ _ _ _ => .hearing
  | .noticed _ _ _ _ => .notice
  | .commanded _ => .command
  | .wound _ | .stilled _ | .ticked _ | .beats _ => .control
  | .halted _ | .adopted _ _ _ | .dropped _ _ _ _ _ => .source
  | .queued _ _ | .offered _ _ | .refused _ _ | .arrived _ _ | .answered _ _ | .delivered _ _
  | .closed _ => .traffic

/-- The occurrence is about the interface. -/
def Occurrence.concerns (i : InterfaceId) : Occurrence → Prop
  | .queued i' _ | .offered i' _ | .refused i' _ | .arrived i' _ | .answered i' _ | .delivered i' _
  | .closed i' => i' = i
  | _ => False

theorem Occurrence.topic_of_concerns {o : Occurrence} {i : InterfaceId} (about : o.concerns i) :
    o.topic = .traffic := by
  cases o <;> first | rfl | cases about

/-- A link that was supplied for a pipe is stopped as often as the pipe has started, and at most once, when
the pipe relays no longer.  A channel is left alone. -/
def Pipe.Tidy (x : Pipe) : Prop :=
  match x.state with
  | .created => x.starts = 0 ∧ x.stops = 0
  | .started => x.starts = 1 ∧ x.stops = 0
  | .stopped | .disposed => x.starts ≤ 1 ∧ x.stops = if x.link.isChannel then 0 else x.starts

/-- A pipe stays tidy, and does not come back from its end. -/
structure Pipe.GoesTo (x x' : Pipe) : Prop where
  tidy : x.Tidy → x'.Tidy
  ended : x.state = .disposed → x'.state = .disposed

namespace Pipe

theorem goesTo_receiver (x : Pipe) (receiver : Option Receiver) :
    x.GoesTo { x with receiver } :=
  ⟨id, id⟩

theorem goesTo_begun (x : Pipe) : x.GoesTo x.begun := by
  unfold begun
  split
  · next created =>
      refine ⟨fun tidy => ?_, fun ended => by simp [ended] at created⟩
      simp only [Tidy, created] at tidy ⊢
      omega
  · exact ⟨id, id⟩

variable {state : PipeState}

theorem goesTo_severed (ends : state = .stopped ∨ state = .disposed) (x : Pipe) :
    x.GoesTo (x.severed state) := by
  unfold severed
  split
  · next turns =>
      obtain ⟨started, own⟩ := turns
      refine ⟨fun tidy => ?_, fun ended => by simp [ended] at started⟩
      simp only [Tidy, started] at tidy
      rcases ends with rfl | rfl <;> simp_all [Tidy]
  · exact ⟨id, id⟩

theorem goesTo_halted (ends : state = .stopped ∨ state = .disposed) (x : Pipe) :
    x.GoesTo (x.halted state) := by
  unfold halted
  split
  · next turns =>
      obtain ⟨started, shared⟩ := turns
      refine ⟨fun tidy => ?_, fun ended => by simp [ended] at started⟩
      simp only [Tidy, started] at tidy
      rcases ends with rfl | rfl <;> simp_all [Tidy]
  · exact ⟨id, id⟩

theorem goesTo_dropped (x : Pipe) : x.GoesTo x.dropped := by
  refine ⟨fun tidy => ?_, fun ended => by simp [dropped, ended]⟩
  cases state : x.state <;> simp_all [Tidy, dropped]

end Pipe

/-- A registry keeps its devices, its cursor and what it was created with, stays open or closed, and takes
nothing on once it is closed. -/
structure Registry.GoesTo (x x' : Registry) : Prop where
  devices : x'.devices = x.devices
  closed : x'.closed = x.closed
  token : x'.token = x.token
  cursor : x'.cursor = x.cursor
  backends : x.closed = true → x'.backends ⊆ x.backends
  discoveries : x.closed = true → x'.discoveries ⊆ x.discoveries

theorem Registry.GoesTo.refl (x : Registry) : x.GoesTo x :=
  ⟨rfl, rfl, rfl, rfl, fun _ => List.Subset.refl _, fun _ => List.Subset.refl _⟩

/-- What a backend shares with its channel keeps the upper layer's token until the channel is released,
and has none from then on. -/
structure Uplink.GoesTo (x x' : Uplink) : Prop where
  released : x.released → x'.released
  token : x'.token = x.token ∧ x'.released = x.released ∨ x'.token = none ∧ x'.released

/-- What is asked of a closed property in any case. -/
class Footing (Q : (α : Type) → Act σ α → Prop) : Prop extends Closed Q where
  /-- The host thinks and takes notes. -/
  think : ∀ {α : Type} (f : World σ → α × σ × List Note),
    Q α (modifyGet fun w => ((f w).1, { w with host := (f w).2.1, journal := (f w).2.2 }))
  traceCells : ∀ {α : Type} (f : World σ → α × Table .traceCell TraceLevel),
    Q α (modifyGet fun w => ((f w).1, { w with traceCells := (f w).2 }))
  createPipe : ∀ link : Link, Q PipeId (Pipe.create link)
  /-- A pipe goes on as pipes do. -/
  pipe : ∀ (p : PipeId) (f : Pipe → Pipe), (∀ x : Pipe, x.GoesTo (f x)) →
    Q Unit (modify (·.updatePipe p f))
  createProxy : ∀ (h : DeviceHandle) (t : DeviceType) (port : UInt16) (sink : ProxySink),
    Q ProxyId (Proxy.create h t port sink)
  closeProxy : ∀ p : ProxyId, Q Unit (Proxy.enter p .close .closed)
  addUplink : ∀ token : Option Token, Q UplinkId (modifyGet fun w =>
    let (u, uplinks) := w.uplinks.add { token }
    (u, { w with uplinks }))
  uplink : ∀ (u : UplinkId) (f : Uplink → Uplink), (∀ x : Uplink, x.GoesTo (f x)) →
    Q Unit (modify (·.updateUplink u f))
  streams : ∀ {α : Type} (f : World σ → α × Table .stream Stream),
    Q α (modifyGet fun w => ((f w).1, { w with streams := (f w).2 }))
  registry : ∀ (r : RegistryId) (f : Registry → Registry), (∀ x : Registry, x.GoesTo (f x)) →
    Q Unit (modify (·.updateRegistry r f))

/-- The property holds of how things find and lose those who keep them, too. -/
class Base (Q : (α : Type) → Act σ α → Prop) : Prop extends Footing Q where
  share : ∀ (f : Nat → Nat) (k : Kept), Q Unit (modify (·.reshare f k))
  retire : ∀ k : Kept, Q Unit (modify (·.retire k))
  /-- A timer of a user of the loop is cancelled. -/
  cancelCall : ∀ t : TimerId, Q Unit (cancelCall t)

class OverlooksProxies (Q : (α : Type) → Act σ α → Prop) : Prop where
  proxy : ∀ (p : ProxyId) (f : Proxy → Proxy), Q Unit (modify (·.updateProxy p f))

class Backend.KeepsUplink (f : Backend → Backend) : Prop where
  same : ∀ x, (f x).uplink? = x.uplink?

class OverlooksBackends (Q : (α : Type) → Act σ α → Prop) : Prop where
  addBackend : ∀ part : BackendPart, Q BackendId (modifyGet fun w =>
    let (b, backends) := w.backends.add { part }
    (b, { w with backends }))
  backend : ∀ (b : BackendId) (f : Backend → Backend) [Backend.KeepsUplink f],
    Q Unit (modify (·.updateBackend b f))

class OverlooksSources (Q : (α : Type) → Act σ α → Prop) : Prop where
  discoveries : ∀ {α : Type} (f : World σ → α × Table .discovery Discovery),
    Q α (modifyGet fun w => ((f w).1, { w with discoveries := (f w).2 }))

class OverlooksDiscoveries (Q : (α : Type) → Act σ α → Prop) : Prop extends OverlooksSources Q where
  markSource : ∀ o : Occurrence, o.topic = .source → Q Unit (mark o)

class OverlooksTimers (Q : (α : Type) → Act σ α → Prop) : Prop where
  /-- A controller stays with its device. -/
  controller : ∀ (k : ControllerId) (f : Controller → Controller),
    (∀ x, (f x).registry = x.registry ∧ (f x).device = x.device) →
    Q Unit (modify (·.updateController k f))
  schedule : ∀ (delay : Nat) (job : Job), (∀ i, job ≠ .retry i) → Q TimerId (schedule delay job)
  schedulePeriodic : ∀ (period : Nat) (job : Job), (∀ i, job ≠ .retry i) →
    Q TimerId (schedulePeriodic period job)
  defer : ∀ job : Job, (∀ i, job ≠ .retry i) → Q Unit (defer job)
  cancelTimer : ∀ t : TimerId, Q Unit (cancelTimer t)
  markControl : ∀ o : Occurrence, o.topic = .control → Q Unit (mark o)

class Ground (Q : (α : Type) → Act σ α → Prop) : Prop extends
  Base Q, OverlooksBackends Q, OverlooksDiscoveries Q, OverlooksTimers Q

class Served (Q : (α : Type) → Act σ α → Prop) (env : Env σ) : Prop where
  tell : ∀ (l : ListenerId) (event : Event), Q Unit (env.tell l event)
  ask : ∀ request : Request, Q (Except Fault Unit) (env.ask request).run
  order : ∀ order : Order, Q Unit (env.order order)
  openSession : ∀ (h : BleHostId) (address : String) (c : ConnectionId),
    Q Bool (env.openSession h address c)
  openChannel : ∀ (o : OpenerId) (descriptor : Int) (u : UplinkId),
    Q (Except Fault ChannelId) (env.openChannel o descriptor u).run

class ProxyCalls (Q : (α : Type) → Act σ α → Prop) (env : Env σ) : Prop where
  reportOpen : ∀ p result, Holds Q (Proxy.reportOpen env p result)
  reportClosed : ∀ p, Holds Q (Proxy.reportClosed env p)

attribute [instance] ProxyCalls.reportOpen ProxyCalls.reportClosed

/-- The property holds of whatever the host does when it is called on. -/
class Upheld (Q : (α : Type) → Act σ α → Prop) (env : Env σ) : Prop extends Served Q env where
  reap : ∀ item : Item, Q Unit (env.reap item)

namespace Footing

variable {Q : (α : Type) → Act σ α → Prop} [g : Footing Q]

instance holds_note (source kind : String) (args : List Datum) :
    Holds Q (modify (·.note source kind args) : Act σ Unit) :=
  ⟨g.think fun w => ((), w.host, (w.note source kind args).journal)⟩

instance holds_log (s : Severity) (message : String) (fields : List (String × String)) :
    Holds Q (log s message fields : Act σ Unit) := by
  have taken := g.think fun w => ((), w.host, (w.log s message fields).journal)
  have same : ∀ w : World σ,
      { w with journal := (w.log s message fields).journal } = w.log s message fields := by
    intro w
    unfold World.log
    split <;> rfl
  simp only [same] at taken
  exact ⟨taken⟩

instance holds_updateStream (s : StreamId) (f : Stream → Stream) :
    Holds Q (modify (·.updateStream s f) : Act σ Unit) :=
  ⟨g.streams fun w => ((), w.streams.update s f)⟩

end Footing

namespace Base

variable {Q : (α : Type) → Act σ α → Prop} [g : Base Q]

instance holds_cancelCall (t : TimerId) : Holds Q (DroneControl.cancelCall t : Act σ Unit) :=
  ⟨g.cancelCall t⟩

instance holds_retain (k : Kept) : Holds Q (retain k : Act σ Unit) := ⟨g.share _ k⟩

end Base

instance OverlooksProxies.holds_updateProxy {Q : (α : Type) → Act σ α → Prop}
    [o : OverlooksProxies Q] (p : ProxyId) (f : Proxy → Proxy) :
    Holds Q (modify (·.updateProxy p f) : Act σ Unit) :=
  ⟨o.proxy p f⟩

instance OverlooksBackends.holds_updateBackend {Q : (α : Type) → Act σ α → Prop}
    [o : OverlooksBackends Q] (b : BackendId) (f : Backend → Backend) [Backend.KeepsUplink f] :
    Holds Q (modify (·.updateBackend b f) : Act σ Unit) :=
  ⟨o.backend b f⟩

instance OverlooksSources.holds_updateDiscovery {Q : (α : Type) → Act σ α → Prop}
    [o : OverlooksSources Q] (d : DiscoveryId) (f : Discovery → Discovery) :
    Holds Q (modify (·.updateDiscovery d f) : Act σ Unit) :=
  ⟨o.discoveries fun w => ((), w.discoveries.update d f)⟩

namespace Served

variable {Q : (α : Type) → Act σ α → Prop} {env : Env σ} [u : Served Q env]

instance holds_tell (l : ListenerId) (event : Event) : Holds Q (env.tell l event) :=
  ⟨u.tell l event⟩

instance holds_ask (request : Request) : Holds Q (env.ask request).run := ⟨u.ask request⟩

instance holds_order (order : Order) : Holds Q (env.order order) := ⟨u.order order⟩

instance holds_openSession (h : BleHostId) (address : String) (c : ConnectionId) :
    Holds Q (env.openSession h address c) :=
  ⟨u.openSession h address c⟩

instance holds_openChannel (o : OpenerId) (descriptor : Int) (uplink : UplinkId) :
    Holds Q (env.openChannel o descriptor uplink).run :=
  ⟨u.openChannel o descriptor uplink⟩

end Served

variable {Q : (α : Type) → Act σ α → Prop} {env : Env σ}

instance Upheld.holds_reap [u : Upheld Q env] (item : Item) : Holds Q (env.reap item) :=
  ⟨u.reap item⟩

/-! ## Keeping things -/

section Keeping

variable [g : Base Q] [Upheld Q env]

instance release_holds (k : Kept) : Holds Q (release env k) := by
  unfold release
  refine Holds.bind (h := fun w => ?_)
  split
  · infer_instance
  · split
    · have retired : Holds Q (modify (·.retire k) : Act σ Unit) := ⟨g.retire k⟩
      infer_instance
    · exact ⟨g.share _ k⟩

instance release?_holds (k : Option Kept) : Holds Q (release? env k) := by
  unfold release?
  split <;> infer_instance

instance keeping_holds (k : Kept) (a : Act σ α) [h : Holds Q a] : Holds Q (keeping env k a) := by
  unfold keeping
  infer_instance

instance keepingTry_holds (k : Kept) (a : Try σ α) [h : Holds Q a.run] :
    Holds Q (keepingTry env k a).run :=
  inferInstanceAs (Holds Q (keeping env k a.run))

instance ifKept_holds (k : Kept) (otherwise : α) (a : Act σ α) [h : Holds Q a] :
    Holds Q (ifKept env k otherwise a) := by
  unfold ifKept
  infer_instance

end Keeping

variable [g : Footing Q]

/-! ## Pipes -/

namespace Pipe

instance create_holds (link : Link) : Holds Q (create link : Act σ PipeId) := ⟨g.createPipe link⟩

instance setReceiver_holds (p : PipeId) (receiver : Receiver) :
    Holds Q (setReceiver p receiver : Act σ Unit) :=
  ⟨g.pipe p _ fun x => x.goesTo_receiver receiver⟩

instance clearReceiver_holds (p : PipeId) : Holds Q (clearReceiver p : Act σ Unit) :=
  ⟨g.pipe p _ fun x => x.goesTo_receiver none⟩

variable [Served Q env]

instance startLink_holds (link : Link) : Holds Q (startLink env link).run := by
  unfold startLink
  split <;> infer_instance

variable (env) in
theorem stopLink_holds (p : PipeId) {state : PipeState}
    (ends : state = .stopped ∨ state = .disposed) (link : Link) :
    Holds Q (stopLink env p state link).run := by
  have severs : Holds Q (modify (·.updatePipe p (·.severed state)) : Act σ Unit) :=
    ⟨g.pipe p _ (goesTo_severed ends)⟩
  have halts : Holds Q (modify (·.updatePipe p (·.halted state)) : Act σ Unit) :=
    ⟨g.pipe p _ (goesTo_halted ends)⟩
  unfold stopLink
  split <;> infer_instance

instance start_holds (p : PipeId) : Holds Q (start env p).run := by
  have begins : Holds Q (modify (·.updatePipe p begun) : Act σ Unit) :=
    ⟨g.pipe p _ goesTo_begun⟩
  unfold start
  dsimp only
  infer_instance

instance stop_holds (p : PipeId) : Holds Q (stop env p).run := by
  have stops := stopLink_holds (Q := Q) env p (.inl rfl)
  unfold stop
  dsimp only
  infer_instance

instance dispose_holds (p : PipeId) : Holds Q (dispose env p) := by
  have stops := stopLink_holds (Q := Q) env p (.inr rfl)
  have ends : Holds Q (modify (·.updatePipe p dropped) : Act σ Unit) := ⟨g.pipe p _ goesTo_dropped⟩
  unfold dispose
  infer_instance

instance send_holds (p : PipeId) (frame : Frame) : Holds Q (send env p frame).run := by
  unfold send
  dsimp only
  infer_instance

end Pipe

/-! ## Proxies -/

namespace Proxy

instance create_holds (h : DeviceHandle) (t : DeviceType) (port : UInt16) (sink : ProxySink) :
    Holds Q (create h t port sink : Act σ ProxyId) :=
  ⟨g.createProxy h t port sink⟩

instance close_holds (p : ProxyId) : Holds Q (close p : Act σ Unit) := by
  have entered : Holds Q (enter p .close .closed : Act σ Unit) := ⟨g.closeProxy p⟩
  unfold close
  infer_instance

variable [Served Q env]

instance openStream_holds (p : ProxyId) (session : SessionId) (channel : ChannelId)
    (path : String) (result : Except Fault Endpoint) :
    Holds Q (openStream env p session channel path result).run := by
  unfold openStream
  infer_instance

instance pass_holds (p : ProxyId) (result : Except Fault Endpoint) :
    Holds Q (pass env p result) := by
  unfold pass
  refine Holds.bind (h := fun w => ?_)
  split <;> infer_instance

variable [OverlooksProxies Q]

instance enter_holds (p : ProxyId) (step : ProxyStep) (state : ProxyState) :
    Holds Q (enter p step state : Act σ Unit) := by
  unfold enter
  infer_instance

instance tell_holds (p : ProxyId) (result : Except Fault Endpoint) :
    Holds Q (tell env p result) := by
  unfold tell
  infer_instance

instance report_holds (p : ProxyId) (step : ProxyStep) (result : Except Fault Endpoint) :
    Holds Q (report env p step result) := by
  unfold report
  refine Holds.bind (h := fun w => ?_)
  cases result <;> infer_instance

instance calls_of_overlooks : ProxyCalls Q env where
  reportOpen p result := report_holds p (.reportOpen result) result
  reportClosed p := by
    unfold reportClosed
    refine Holds.bind (h := fun w => ?_)
    split <;> infer_instance

end Proxy

end DroneControl
