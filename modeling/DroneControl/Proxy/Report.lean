import DroneControl.World.Basic

/-!
What a transport reports of a proxy. The first report decides the outcome, and the outcome is told
once.
-/

namespace DroneControl.Proxy

variable {σ : Type}

def create (device : DeviceHandle) (deviceType : DeviceType) (remotePort : UInt16)
    (sink : ProxySink) : Act σ ProxyId :=
  modifyGet fun w =>
    let (p, proxies) := w.proxies.add { device, deviceType, remotePort, sink }
    (p, { w with proxies })

def enter (p : ProxyId) (step : ProxyStep) (state : ProxyState) : Act σ Unit :=
  modify (·.updateProxy p (·.leftBy step state))

def openStream (env : Env σ) (p : ProxyId) (session : SessionId) (channel : ChannelId)
    (path : String) (result : Except Fault Endpoint) : Try σ Unit := do
  let endpoint ← liftExcept result
  let url := "rtsp://127.0.0.1:" ++ Text.Decimal.render endpoint.port.toNat ++ "/" ++ path
  act (log .debug "Opening stream through proxy" [("proxy", p.label), ("url", url)])
  env.ask (.openMuxUrl session url channel)

def pass (env : Env σ) (p : ProxyId) (result : Except Fault Endpoint) : Act σ Unit := do
  match ((← get).proxy p).sink with
  | .listener l => env.tell l (.proxyOpened p result)
  | .stream session channel path =>
    recover (openStream env p session channel path result) fun f => do
      log .warn "Failed to open proxied stream" [("proxy", p.label), ("error", f.message)]
      env.order (.streamFailed session f)

def tell (env : Env σ) (p : ProxyId) (result : Except Fault Endpoint) : Act σ Unit := do
  modify (·.updateProxy p (·.noteTold result))
  pass env p result

/-- Takes a report of whether the proxy could be opened. A late report is left out. -/
def report (env : Env σ) (p : ProxyId) (step : ProxyStep) (result : Except Fault Endpoint) :
    Act σ Unit := do
  let x := (← get).proxy p
  if x.state ≠ .opening then
    enter p step x.state
    log .warn "Late proxy open report ignored"
      [("proxy", p.label), ("state", x.state.inspect)]
  else
    match result with
    | .ok endpoint =>
      enter p step (.opened endpoint)
      log .debug "Proxy open"
        [("proxy", p.label), ("port", Text.Decimal.render endpoint.port.toNat)]
    | .error f =>
      enter p step .failed
      log .warn "Proxy open failed" [("proxy", p.label), ("error", f.message)]
    tell env p result

def reportOpen (env : Env σ) (p : ProxyId) (result : Except Fault Endpoint) : Act σ Unit :=
  report env p (.reportOpen result) result

def reportClosed (env : Env σ) (p : ProxyId) : Act σ Unit := do
  match ((← get).proxy p).state with
  | .opening => report env p .reportClosed (.error (.transport "proxy closed before open"))
  | .opened _ =>
    log .warn "Unexpected proxy close after open" [("proxy", p.label)]
    enter p .reportClosed .closed
  | .failed => enter p .reportClosed .failed
  | .closed => enter p .reportClosed .closed

def close (p : ProxyId) : Act σ Unit := do
  enter p .close .closed
  log .debug "Proxy closed" [("proxy", p.label)]

end DroneControl.Proxy
