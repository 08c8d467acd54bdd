import DroneControl.Registry.Connecting

/-!
Opening the media stream of a device: at its address, or through a proxy to the device behind a remote
controller. A source has at most one proxy until it is closed.
-/

namespace DroneControl.Stream

variable {σ : Type}

def create (r : RegistryId) (h : DeviceHandle) (url : String) : Try σ StreamId := do
  discard (Registry.device r h)
  let s ← act (modifyGet fun w =>
    let (s, streams) := w.streams.add { registry := r, device := h, url }
    (s, { w with streams }))
  act (retain (.registry r))
  return s

def openDirect (env : Env σ) (x : Stream) (info : DeviceInfo) (session : SessionId) :
    Try σ Unit := do
  let url := "rtsp://" ++ info.address ++ "/" ++ x.path
  act (log .debug "Opening direct stream" [("device", x.device.label), ("url", url)])
  env.ask (.openUrl session url)

def openProxied (env : Env σ) (s : StreamId) (x : Stream) (target : DeviceType)
    (session : SessionId) : Try σ Unit := do
  if x.proxy.isSome then throw (.busy "stream proxy already open")
  let channel ← Registry.channelOf x.registry x.device
  let p ← Registry.openProxy env x.registry x.device target rtspPort
    (.stream session channel x.path)
  act (log .debug "Stream proxy opening"
    [("device", x.device.label), ("proxy", p.label), ("target", target.label)])
  act (modify (·.updateStream s fun x => { x with proxy := some p }))

/-- Opens the stream on a media session. -/
def openOn (env : Env σ) (s : StreamId) (session : SessionId) : Try σ Unit := do
  let x := (← get).stream s
  let info := (← Registry.device x.registry x.device).info
  match info.backendKind with
  | .net =>
    if servesDirectly info.deviceType then openDirect env x info session
    else throw (unsupported info)
  | .mux =>
    match behind? info.deviceType with
    | some target => openProxied env s x target session
    | none => throw (unsupported info)
  | .ble => throw (unsupported info)

def closeProxy (x : Stream) : Act σ Unit := do
  match x.proxy with
  | none => return
  | some p =>
    log .debug "Closing stream proxy" [("device", x.device.label), ("proxy", p.label)]
    Proxy.close p

def close (s : StreamId) : Act σ Unit := do
  let x := (← get).stream s
  modify (·.updateStream s fun x => { x with proxy := none })
  closeProxy x

end DroneControl.Stream
