import DroneControl.Controller.Control
import DroneControl.Scenario.Asking
import DroneControl.Stream.Opening

/-!
What the steps of a scenario ask of controllers, connections, pipes, command interfaces, proxies and
streams, and how they are answered.
-/

namespace DroneControl.Scenario

def askController (env : Env Stage) (c : ControllerId) (call : ControllerCall) : Scene Datum := do
  let x := (← get).controller c
  match call with
  | .connect => done (Controller.connect env c)
  | .send command => done (Controller.send env c command)
  | .startTimer period => done (Controller.startTimer c period)
  | .stopTimer => done (Controller.haltTimer c)
  | .disconnect => done (Controller.disconnect env c)
  | .device => return handleDatum x.device
  | .info => answer (infoDatum ·.info) (Registry.device x.registry x.device)
  | .token => answer tokenDatum (Registry.tokenOf x.registry x.device)
  | .destroy => unknown

def destroyController (env : Env Stage) (as : String) (c : ControllerId) : Scene Datum := do
  discard (unname as)
  let result ← answer tokenDatum (Controller.destroy env c)
  release env (.controller c)
  return result

def askConnection (env : Env Stage) (c : ConnectionId) (call : ConnectionCall) :
    Scene Datum := do
  let x := (← get).connection c
  match call with
  | .connecting => done (Connection.connecting env c)
  | .connected link api =>
    withLink link fun link => done (Connection.connected env c link api)
  | .disconnected => done (Connection.disconnected env c)
  | .failed => done (Connection.failed env c)
  | .cancel reason => done (Connection.cancel env c reason)
  | .beginClose => return .text (← Connection.beginClose c).name
  | .reportLink status => done (Connection.reportLink env c status)
  | .receive frame => done (Connection.receive env c frame)
  | .receivePacket characteristic packet =>
    done (Connection.receivePacket env c characteristic packet)
  | .attach token => done (Connection.attach c token)
  | .detach => answer Datum.text (Connection.detach c)
  | .dispose => done (Connection.dispose env c)
  | .describe =>
    return .list [.text c.label, handleDatum x.device, .text x.backend.label, .text x.address,
      .text RegistrySetup.loopOutline]
  | .same other => withConnection other fun other => return .bool (c = other)
  | .namePipe as =>
    match x.pipe with
    | none => return .null
    | some p => plain (name env as (.pipe p))

def askPipe (env : Env Stage) (p : PipeId) (call : PipeCall) : Scene Datum := do
  match call with
  | .start => done (Pipe.start env p)
  | .stop => done (Pipe.stop env p)
  | .dispose => plain (Pipe.dispose env p)
  | .send frame => done (Pipe.send env p frame)
  | .receive frame => done (Pipe.receive env p frame)
  | .setReceiver as => plain do Pipe.setReceiver p (.listener (← addAudience as false))
  | .clearReceiver => plain (Pipe.clearReceiver p)

def askInterface (env : Env Stage) (i : InterfaceId) (call : InterfaceCall) : Scene Datum := do
  match call with
  | .send command => done (Interface.send env i command)
  | .close => plain (Interface.close i)
  | .quality sent received useful => plain (Interface.reportQuality env i sent received useful)
  | .device => return handleDatum ((← get).interface i).device
  | .setTraceLevel level =>
    plain (modify fun w =>
      { w with traceCells := w.traceCells.set (w.interface i).traceCell level })

def askProxy (env : Env Stage) (p : ProxyId) (call : ProxyCall) : Scene Datum := do
  match call with
  | .reportOpen result => plain (Proxy.reportOpen env p result)
  | .reportClosed => plain (Proxy.reportClosed env p)
  | .close => plain (Proxy.close p)
  | .describe =>
    let x := (← get).proxy p
    let endpoint := x.state.endpoint?.elim .null fun e =>
      .list [.option e.address, .nat e.port.toNat]
    return .list [.text p.label, handleDatum x.device, .text x.deviceType.label,
      .nat x.remotePort.toNat, endpoint]

def askStream (env : Env Stage) (s : StreamId) (call : StreamCall) : Scene Datum := do
  match call with
  | .openOn session fails => do
    let session ← onStage fun stage =>
      let (k, sessions) := stage.sessions.add { source := session, mode := fails }
      (k, { stage with sessions })
    done (Stream.openOn env s session)
  | .close => plain (Stream.close s)
  | .url => return .text ((← get).stream s).url

def askTimer (t : TimerId) (period : Nat) (call : TimerCall) : Scene Datum := do
  match call with
  | .clear => plain (cancelCall t)
  | .period => return .nat period

end DroneControl.Scenario
