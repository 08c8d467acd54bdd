import DroneControl.Proofs.Run.Calls

/-!
# When the stream of a device can be opened again

A source holds the proxy through which it opened a stream until it is closed.  What the transport reports
of the proxy is noted on the proxy and told to the media session, but the source goes on holding it, and
as long as it holds one it is not opened.
-/

namespace DroneControl

variable {σ : Type} {s : StreamId} {w w' w'' : World σ} {env : Env σ} {held : Bool}

/-- The source is there as before, and holds the same proxy. -/
def SameSlot (s : StreamId) (w w' : World σ) : Prop :=
  (w'.streams.find? s).map Stream.proxy = (w.streams.find? s).map Stream.proxy

namespace SameSlot

theorem of_same (streams : w'.streams = w.streams) : SameSlot s w w' := by
  rw [SameSlot, streams]

theorem trans (first : SameSlot s w w') (second : SameSlot s w' w'') : SameSlot s w w'' :=
  Eq.trans second first

instance closed : Closed (Keeps (σ := σ) (SameSlot s)) := Keeps.closed (fun _ => rfl) trans

instance holds_log (severity : Severity) (message : String) (fields : List (String × String)) :
    Holds (Keeps (σ := σ) (SameSlot s)) (log severity message fields) := by
  refine ⟨fun w => .of_same ?_⟩
  obtain ⟨journal, logged⟩ := w.log_journal severity message fields
  rw [run_log, logged]

instance updateProxy_holds (p : ProxyId) (f : Proxy → Proxy) :
    Holds (Keeps (σ := σ) (SameSlot s)) (modify (·.updateProxy p f)) :=
  ⟨fun _ => .of_same rfl⟩

instance enterProxy_holds (p : ProxyId) (step : ProxyStep) (state : ProxyState) :
    Holds (Keeps (σ := σ) (SameSlot s)) (Proxy.enter p step state) := by
  unfold Proxy.enter
  infer_instance

instance closeProxy_holds (p : ProxyId) :
    Holds (Keeps (σ := σ) (SameSlot s)) (Proxy.close p) := by
  unfold Proxy.close
  infer_instance

variable [Upheld (Keeps (SameSlot s)) env]

instance report_holds (p : ProxyId) (step : ProxyStep) (result : Except Fault Endpoint) :
    Holds (Keeps (SameSlot s)) (Proxy.report env p step result) := by
  have opened : ∀ session channel path,
      Holds (Keeps (SameSlot s)) (Proxy.openStream env p session channel path result).run := by
    intro session channel path
    unfold Proxy.openStream
    infer_instance
  have passed : Holds (Keeps (SameSlot s)) (Proxy.pass env p result) := by
    unfold Proxy.pass
    refine Holds.bind (h := fun w => ?_)
    split <;> infer_instance
  have told : Holds (Keeps (SameSlot s)) (Proxy.tell env p result) := by
    unfold Proxy.tell
    infer_instance
  unfold Proxy.report
  refine Holds.bind (h := fun w => ?_)
  cases result <;> infer_instance

instance reportOpen_holds (p : ProxyId) (result : Except Fault Endpoint) :
    Holds (Keeps (SameSlot s)) (Proxy.reportOpen env p result) :=
  report_holds p (.reportOpen result) result

instance reportClosed_holds (p : ProxyId) :
    Holds (Keeps (SameSlot s)) (Proxy.reportClosed env p) := by
  unfold Proxy.reportClosed
  refine Holds.bind (h := fun w => ?_)
  split <;> infer_instance

instance release_holds (b : BackendId) :
    Holds (Keeps (SameSlot s)) (release env (.backend b)) := by
  have retired : Holds (Keeps (σ := σ) (SameSlot s)) (modify (·.retire (.backend b))) :=
    ⟨fun _ => .of_same rfl⟩
  have shared : Holds (Keeps (σ := σ) (SameSlot s)) (modify (·.reshare (· - 1) (.backend b))) :=
    ⟨fun _ => .of_same rfl⟩
  unfold release
  refine Holds.bind (h := fun w => ?_)
  split
  · infer_instance
  · split <;> infer_instance

instance device_holds (r : RegistryId) (h : DeviceHandle) :
    Holds (Keeps (σ := σ) (SameSlot s)) (Registry.device r h).run := by
  unfold Registry.device
  refine Holds.tryBind (h := fun w => ?_)
  split <;> infer_instance

instance backendOf_holds (r : RegistryId) (d : Device) :
    Holds (Keeps (σ := σ) (SameSlot s)) (Registry.backendOf r d).run := by
  unfold Registry.backendOf
  infer_instance

instance channelOf_holds (r : RegistryId) (h : DeviceHandle) :
    Holds (Keeps (σ := σ) (SameSlot s)) (Registry.channelOf r h).run := by
  unfold Registry.channelOf
  refine Holds.tryBind (h := fun d => Holds.tryBind (h := fun b => Holds.tryBind (h := fun w => ?_)))
  dsimp only
  split <;> infer_instance

instance openProxy_holds (r : RegistryId) (h : DeviceHandle) (t : DeviceType) (port : UInt16)
    (sink : ProxySink) : Holds (Keeps (SameSlot s)) (Registry.openProxy env r h t port sink).run := by
  have created : Holds (Keeps (σ := σ) (SameSlot s)) (Proxy.create h t port sink) :=
    ⟨fun _ => .of_same rfl⟩
  have kept : ∀ b, Holds (Keeps (σ := σ) (SameSlot s)) (retain (.backend b)) :=
    fun _ => ⟨fun _ => .of_same rfl⟩
  have opened : ∀ b, Holds (Keeps (SameSlot s)) (Backend.openProxy env b h t port sink).run := by
    intro b
    unfold Backend.openProxy
    refine Holds.tryBind (h := fun w => ?_)
    dsimp only
    split <;> infer_instance
  unfold Registry.openProxy keepingTry keeping
  infer_instance

end SameSlot

/-! ## What an opening does -/

/-- The source belongs to a device of a multiplexed backend, behind which is one that serves a stream. -/
structure World.Proxies (w : World σ) (s : StreamId) (d : Device) (target : DeviceType) : Prop where
  device : (w.registry (w.stream s).registry).device? (w.stream s).device = some d
  kind : d.info.backendKind = .mux
  behind : Stream.behind? d.info.deviceType = some target

theorem World.proxies_of_map {target : DeviceType}
    (seen : ((w.registry (w.stream s).registry).device? (w.stream s).device).map
      (fun d => (d.info.backendKind, Stream.behind? d.info.deviceType)) =
      some (.mux, some target)) : ∃ d, w.Proxies s d target := by
  obtain ⟨d, found, same⟩ := Option.map_eq_some_iff.mp seen
  obtain ⟨kind, behind⟩ := Prod.mk.inj same
  exact ⟨d, found, kind, behind⟩

theorem Backend.openProxy_asks {b : BackendId} {part : MuxPart} (mux : (w.backend b).part = .mux part)
    (env : Env σ) {h : DeviceHandle} {t : DeviceType} {port : UInt16} {sink : ProxySink} :
    let created := (Proxy.create h t port sink).run w
    ((openProxy env b h t port sink).run.run w).1.map (fun _ => ()) =
      ((env.ask (.openProxy part.channel created.1)).run.run created.2).1 := by
  intro created
  have here : (Proxy.create h t port sink).run w = created := rfl
  unfold openProxy
  rw [run_lookThen]
  dsimp only
  rw [mux]
  dsimp only
  rw [run_actThen, run_tryThen, here]
  generalize (env.ask (.openProxy part.channel created.1)).run.run created.2 = asked
  obtain ⟨f | _, w₁⟩ := asked <;> rfl

namespace Stream

variable {d : Device} {target : DeviceType}

theorem run_openOn (proxies : w.Proxies s d target) (env : Env σ) (session : SessionId) :
    (openOn env s session).run.run w =
      (openProxied env s (w.stream s) target session).run.run w := by
  unfold openOn
  rw [run_lookThen]
  dsimp only
  rw [run_deviceThen, proxies.device]
  dsimp only
  rw [proxies.kind]
  dsimp only
  rw [proxies.behind]

theorem run_openProxied_busy {x : Stream} (holds : x.proxy.isSome) (env : Env σ)
    (session : SessionId) (w : World σ) :
    (openProxied env s x target session).run.run w =
      (.error (.busy "stream proxy already open"), w) := by
  unfold openProxied
  rw [if_pos holds, run_throwThen]

theorem openProxied_slot [Upheld (Keeps (SameSlot s)) env] (x : Stream) (target : DeviceType)
    (session : SessionId) {result : Except Fault Unit}
    (runs : (openProxied env s x target session).run.run w = (result, w')) :
    (∀ f, result = .error f → SameSlot s w w') ∧
      (result = .ok () → ∃ p w₁, SameSlot s w w₁ ∧
        w' = w₁.updateStream s fun x => { x with proxy := some p }) := by
  by_cases holds : x.proxy.isSome
  · rw [run_openProxied_busy holds] at runs
    cases runs
    exact ⟨fun _ _ => rfl, nofun⟩
  unfold openProxied at runs
  rw [if_neg holds, run_tryThen] at runs
  have looked := (SameSlot.channelOf_holds (s := s) x.registry x.device).holds w
  generalize (Registry.channelOf x.registry x.device).run.run w = found at looked runs
  obtain ⟨f | channel, w₁⟩ := found
  · cases runs
    exact ⟨fun _ _ => looked, nofun⟩
  dsimp only at runs looked
  rw [run_tryThen] at runs
  have opens : Holds (Keeps (SameSlot s)) (Registry.openProxy env x.registry x.device target rtspPort
      (.stream session channel x.path)).run := inferInstance
  have opens := opens.holds w₁
  generalize (Registry.openProxy env x.registry x.device target rtspPort
    (.stream session channel x.path)).run.run w₁ = opened at opens runs
  obtain ⟨f | p, w₂⟩ := opened
  · cases runs
    exact ⟨fun _ _ => looked.trans opens, nofun⟩
  dsimp only at runs opens
  rw [run_actThen, run_log, run_act, run_modify] at runs
  cases runs
  refine ⟨nofun, fun _ => ⟨p, _, (looked.trans opens).trans ?_, rfl⟩⟩
  exact (SameSlot.holds_log _ _ _).holds w₂

theorem openOn_fails [Upheld (Keeps (SameSlot s)) env] {session : SessionId} {f : Fault}
    (runs : (openOn env s session).run.run w = (.error f, w')) : SameSlot s w w' := by
  unfold openOn at runs
  rw [run_lookThen] at runs
  dsimp only at runs
  rw [run_deviceThen] at runs
  split at runs
  · next d _ =>
    split at runs
    · split at runs
      · have direct : Holds (Keeps (SameSlot s)) (openDirect env (w.stream s) d.info session).run := by
          unfold openDirect
          dsimp only
          infer_instance
        have kept := direct.holds w
        rwa [runs] at kept
      · cases runs
        exact rfl
    · split at runs
      · exact (openProxied_slot _ _ _ runs).1 f rfl
      · cases runs
        exact rfl
    · cases runs
      exact rfl
  · cases runs
    exact rfl

theorem openProxied_asks {x : Stream} {part : MuxPart} (vacant : x.proxy = none)
    (device : (w.registry x.registry).device? x.device = some d) (connected : d.state = .connected)
    (registered : d.backend ∈ (w.registry x.registry).backends)
    (mux : (w.backend d.backend).part = .mux part) (env : Env σ) (session : SessionId) :
    let created := (Proxy.create x.device target rtspPort (.stream session part.channel x.path)).run
      (w.reshare (· + 1) (.backend d.backend))
    ((openProxied env s x target session).run.run w).1 =
      ((env.ask (.openProxy part.channel created.1)).run.run created.2).1 := by
  intro created
  have backend : (Registry.backendOf x.registry d).run.run w = (.ok d.backend, w) := by
    unfold Registry.backendOf
    rw [run_lookThen, if_pos registered, run_tryPure]
  have channel : (Registry.channelOf x.registry x.device).run.run w = (.ok part.channel, w) := by
    unfold Registry.channelOf
    rw [run_deviceThen, device]
    dsimp only
    rw [run_tryThen, backend]
    dsimp only
    rw [run_lookThen]
    simp only [Backend.channel?, mux, run_tryPure]
  have same : ((w.reshare (· + 1) (.backend d.backend)).backend d.backend).part = .mux part := by
    rw [← mux]
    simp only [World.reshare, World.updateBackend, World.backend, Table.get, Table.find?_update,
      if_true]
    cases w.backends.find? d.backend <;> rfl
  have opens : ((Registry.openProxy env x.registry x.device target rtspPort
      (.stream session part.channel x.path)).run.run w).1.map (fun _ => ()) =
      ((env.ask (.openProxy part.channel created.1)).run.run created.2).1 := by
    unfold Registry.openProxy
    rw [run_deviceThen, device]
    dsimp only
    rw [if_neg (Decidable.not_not.mpr connected), run_tryThen, backend]
    dsimp only
    rw [run_keepingTry]
    exact Backend.openProxy_asks same env
  rw [← opens]
  unfold openProxied
  rw [if_neg (by simp [vacant]), run_tryThen, channel]
  dsimp only
  rw [run_tryThen]
  generalize (Registry.openProxy env x.registry x.device target rtspPort
    (.stream session part.channel x.path)).run.run w = opened
  obtain ⟨f | p, w₁⟩ := opened <;> rfl

end Stream

/-! ## Histories -/

/-- A source was created, and then opened and closed and its proxies reported of, in any order, with
whatever else between that leaves the source as it is.  It has been opened, or not, since it was closed
last. -/
inductive Stream.Handled (env : Env σ) (s : StreamId) : Bool → World σ → Prop where
  | created {w w' : World σ} {r : RegistryId} {h : DeviceHandle} {url : String}
      (runs : (Stream.create r h url).run.run w = (.ok s, w')) : Handled env s false w'
  | opened {held : Bool} {w w' : World σ} {d : Device} {target : DeviceType} {session : SessionId}
      (handled : Handled env s held w) (proxies : w.Proxies s d target)
      (runs : (Stream.openOn env s session).run.run w = (.ok (), w')) : Handled env s true w'
  | refused {held : Bool} {w w' : World σ} {session : SessionId} {f : Fault}
      (handled : Handled env s held w)
      (runs : (Stream.openOn env s session).run.run w = (.error f, w')) : Handled env s held w'
  | closed {held : Bool} {w : World σ} (handled : Handled env s held w) :
      Handled env s false ((Stream.close s).run w).2
  | reportOpen {held : Bool} {w : World σ} (handled : Handled env s held w) (p : ProxyId)
      (result : Except Fault Endpoint) :
      Handled env s held ((Proxy.reportOpen env p result).run w).2
  | reportClosed {held : Bool} {w : World σ} (handled : Handled env s held w) (p : ProxyId) :
      Handled env s held ((Proxy.reportClosed env p).run w).2
  | closeProxy {held : Bool} {w : World σ} (handled : Handled env s held w) (p : ProxyId) :
      Handled env s held ((Proxy.close p).run w).2
  | aside {held : Bool} {w w' : World σ} (handled : Handled env s held w)
      (same : SameSlot s w w') : Handled env s held w'

def World.HoldsProxy (w : World σ) (s : StreamId) (held : Bool) : Prop :=
  ∃ x, w.streams.find? s = some x ∧ x.proxy.isSome = held

theorem SameSlot.holding (same : SameSlot s w w') : w.HoldsProxy s held → w'.HoldsProxy s held := by
  rintro ⟨x, row, holds⟩
  rw [SameSlot, row] at same
  obtain ⟨x', row', proxy⟩ := Option.map_eq_some_iff.mp same
  exact ⟨x', row', proxy ▸ holds⟩

theorem Stream.Handled.holds [Upheld (Keeps (SameSlot s)) env] (handled : Handled env s held w) :
    w.HoldsProxy s held := by
  induction handled with
  | @created w w' r h url runs =>
    unfold Stream.create at runs
    rw [run_tryThen] at runs
    generalize (discard (Registry.device r h) : Try σ Unit).run.run w = looked at runs
    obtain ⟨f | _, w₁⟩ := looked
    · cases runs
    · cases runs
      exact ⟨{ registry := r, device := h, url }, (Table.find?_add _ _ _).trans (if_pos rfl), rfl⟩
  | @opened held w w' d target session handled proxies runs holds =>
    rw [run_openOn proxies] at runs
    obtain ⟨p, w₁, same, rfl⟩ := (openProxied_slot _ _ _ runs).2 rfl
    obtain ⟨x, row, -⟩ := same.holding holds
    exact ⟨{ x with proxy := some p }, by simp [World.updateStream, Table.find?_update, row], rfl⟩
  | refused _ runs holds => exact (openOn_fails runs).holding holds
  | @closed held w handled holds =>
    obtain ⟨x, row, -⟩ := holds
    have rest : Holds (Keeps (σ := σ) (SameSlot s)) (Stream.closeProxy (w.stream s)) := by
      unfold Stream.closeProxy
      split <;> infer_instance
    refine (rest.holds _).holding ⟨{ x with proxy := none }, ?_, rfl⟩
    simp [World.updateStream, Table.find?_update, row]
  | reportOpen _ p result holds =>
    exact ((SameSlot.reportOpen_holds p result).holds _).holding holds
  | reportClosed _ p holds => exact ((SameSlot.reportClosed_holds p).holds _).holding holds
  | closeProxy _ p holds => exact ((SameSlot.closeProxy_holds p).holds _).holding holds
  | aside _ same holds => exact same.holding holds

/-- A source that was opened through a proxy is not opened again until it is closed, whatever has become
of the proxy meanwhile: nobody is asked, and nothing changes.  Otherwise, if the device is connected, its
channel is asked to open a proxy, and what it answers is the answer. -/
theorem Stream.Handled.reopens {d : Device} {target : DeviceType}
    (upheld : Upheld (Keeps (SameSlot s)) env) (handled : Handled env s held w)
    (proxies : w.Proxies s d target) (session : SessionId) :
    let ended := (Stream.openOn env s session).run.run w
    (held → ended = (.error (.busy "stream proxy already open"), w)) ∧
    (¬held → d.state = .connected → d.backend ∈ (w.registry (w.stream s).registry).backends →
      ∀ part, (w.backend d.backend).part = .mux part →
        let sink : ProxySink := .stream session part.channel (w.stream s).path
        let created := (Proxy.create (w.stream s).device target rtspPort sink).run
          (w.reshare (· + 1) (.backend d.backend))
        ended.1 = ((env.ask (.openProxy part.channel created.1)).run.run created.2).1) := by
  intro ended
  obtain ⟨x, row, rfl⟩ := handled.holds
  have here : w.stream s = x := World.stream_of_find? row
  have runs : ended = (openProxied env s x target session).run.run w := by
    rw [← here]
    exact run_openOn proxies env session
  rw [runs, here]
  refine ⟨fun holds => run_openProxied_busy holds env session w, ?_⟩
  intro vacant connected registered part mux
  have device := proxies.device
  rw [here] at device
  exact openProxied_asks (by simpa using vacant) device connected registered mux env session

def tethered : Act Unit Unit := do
  let info : DeviceInfo := default
  let remote := { info with deviceType := .skyController3, backendKind := .mux }
  let r ← Registry.create {} ⟨1⟩ none
  let _ ← (Backend.openMux silentHost r ⟨1⟩ 0 none).run
  let _ ← (Registry.addDevice silentHost r remote ⟨1⟩).run
  let _ ← (Controller.create r ⟨1⟩ ⟨2⟩ none).run
  let _ ← (Controller.connect silentHost ⟨1⟩).run
  Loop.drain silentHost 1

def openedOnce : Act Unit (Except Fault Unit) := do
  tethered
  let _ ← (Stream.create ⟨1⟩ ⟨1⟩ "live").run
  (Stream.openOn silentHost ⟨1⟩ ⟨1⟩).run

theorem openedOnce_handled :
    Stream.Handled silentHost ⟨1⟩ true (openedOnce.run { host := () }).2 := by
  have accepted : (openedOnce.run { host := () }).1.toOption = some () := by decide +kernel
  unfold openedOnce at accepted ⊢
  rw [run_bind, run_bind] at accepted ⊢
  generalize before : (tethered.run { host := () }).2 = w at accepted ⊢
  have given : ((Stream.create ⟨1⟩ ⟨1⟩ "live").run.run w).1.toOption = some ⟨1⟩ := by
    rw [← before]
    decide +kernel
  obtain ⟨d, proxies⟩ : ∃ d,
      ((Stream.create ⟨1⟩ ⟨1⟩ "live").run.run w).2.Proxies ⟨1⟩ d .anafi4k := by
    rw [← before]
    exact World.proxies_of_map (by decide +kernel)
  generalize creates : (Stream.create ⟨1⟩ ⟨1⟩ "live").run.run w = created at *
  obtain ⟨result, w₁⟩ := created
  obtain rfl : result = .ok ⟨1⟩ := eq_ok_of_toOption given
  generalize opens : (Stream.openOn silentHost ⟨1⟩ ⟨1⟩).run.run w₁ = opened at *
  obtain ⟨result, w₂⟩ := opened
  obtain rfl : result = .ok () := eq_ok_of_toOption accepted
  exact .opened (.created creates) proxies opens

theorem openedOnce_reopens :
    let w := ((Proxy.reportOpen silentHost ⟨1⟩ (.error (.transport "unreachable"))).run
      (openedOnce.run { host := () }).2).2
    ((w.stream ⟨1⟩).proxy = some ⟨1⟩ ∧ (w.proxy ⟨1⟩).state = .failed) ∧
      (Stream.openOn silentHost ⟨1⟩ ⟨1⟩).run.run w =
        (.error (.busy "stream proxy already open"), w) := by
  intro w
  have held : (w.stream ⟨1⟩).proxy = some ⟨1⟩ := by decide +kernel
  have failed : (w.proxy ⟨1⟩).state = .failed := by decide +kernel
  obtain ⟨d, proxies⟩ : ∃ d, w.Proxies ⟨1⟩ d .anafi4k :=
    World.proxies_of_map (by decide +kernel)
  have upheld : Upheld (Keeps (SameSlot ⟨1⟩)) silentHost :=
    { tell := fun _ _ _ => rfl
      ask := fun _ _ => rfl
      order := fun _ _ => rfl
      openSession := fun _ _ _ _ => rfl
      openChannel := fun _ _ _ _ => rfl
      reap := fun _ _ => rfl }
  have handled : Stream.Handled silentHost ⟨1⟩ true w := openedOnce_handled.reportOpen _ _
  exact ⟨⟨held, failed⟩, (handled.reopens upheld proxies ⟨1⟩).1 rfl⟩

end DroneControl
