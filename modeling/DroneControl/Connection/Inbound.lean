import DroneControl.Connection.Transitions
import DroneControl.Interface.Inbound

/-!
Inbound frames of a connection. Only an established connection that nobody asked to close takes them;
a frame that cannot be routed changes nothing.
-/

namespace DroneControl.Connection

variable {σ : Type}

def receive (env : Env σ) (c : ConnectionId) (frame : Frame) : Try σ Unit := do
  let x := (← get).connection c
  match x.pipe, x.state with
  | some p, .connected =>
    onFailure (Pipe.receive env p frame) fun f =>
      log .warn "Failed to route inbound frame" [("conn", c.label), ("error", f.message)]
  | _, state =>
    act (log .warn "Frame received on a connection that is not connected"
      [("conn", c.label), ("state", state.name)])
    throw (refusal "receive_data" state)

/-- Takes a packet that a Bluetooth host read from a characteristic. -/
def receivePacket (env : Env σ) (c : ConnectionId) (characteristic : UInt8) (packet : Bytes) :
    Try σ Unit := do
  match FrameHeader.ofBlePacket characteristic packet with
  | .ok header => receive env c { header, payload := FrameHeader.blePayload packet }
  | .error f =>
    act (log .warn "Malformed BLE packet"
      [("conn", c.label), ("id", Text.Decimal.render characteristic.toNat),
        ("error", f.message)])
    throw f

end DroneControl.Connection
