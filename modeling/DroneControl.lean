import DroneControl.Text.Numeral
import DroneControl.Text.Utf8
import DroneControl.Protocol.Trace
import DroneControl.Protocol.Bundle
import DroneControl.Json.Reader
import DroneControl.Json.Decode
import DroneControl.Device.Firmware
import DroneControl.Device.Handshake
import DroneControl.World.Journal
import DroneControl.Loop.Basic
import DroneControl.Pipe.Basic
import DroneControl.Interface.Basic
import DroneControl.Proxy.Basic
import DroneControl.Backend.Basic
import DroneControl.Registry.Basic
import DroneControl.Discovery.Basic
import DroneControl.Controller.Basic
import DroneControl.Stream.Basic
import DroneControl.World.Basic
import DroneControl.World.Keeping
import DroneControl.Pipe.Flow
import DroneControl.Interface.Outbound
import DroneControl.Interface.Inbound
import DroneControl.Registry.Devices
import DroneControl.Controller.Notice
import DroneControl.Registry.Entry
import DroneControl.Connection.Transitions
import DroneControl.Connection.Inbound
import DroneControl.Device.Reply
import DroneControl.Proxy.Report
import DroneControl.Backend.Connecting
import DroneControl.Registry.Connecting
import DroneControl.Discovery.Source
import DroneControl.Backend.Lifecycle
import DroneControl.Controller.Control
import DroneControl.Stream.Opening
import DroneControl.World.Reaping
import DroneControl.Loop.Run
import DroneControl.Scenario.Step
import DroneControl.Scenario.Stage
import DroneControl.Scenario.Host
import DroneControl.Scenario.View
import DroneControl.Scenario.Asking
import DroneControl.Scenario.Driving
import DroneControl.Scenario.Creating
import DroneControl.Scenario.Run
import DroneControl.Text.Binary64
import DroneControl.Json.Scan
import DroneControl.Json.Diagnosis
import DroneControl.Proofs.Device.Severing
import DroneControl.Proofs.Device.Order
import DroneControl.Proofs.Interface.Joint
import DroneControl.Proofs.Interface.Desk
import DroneControl.Proofs.Interface.Silence
import DroneControl.Proofs.Interface.Accounting
import DroneControl.Proofs.Discovery.Halting
import DroneControl.Proofs.Registry.Tenure
import DroneControl.Proofs.Controller.Exclusive
import DroneControl.Proofs.Device.Reconnecting
import DroneControl.Proofs.Device.Failing
import DroneControl.Proofs.Device.Removing
import DroneControl.Proofs.Connection.Ending
import DroneControl.Proofs.Backend.Live
import DroneControl.Proofs.Backend.Opening
import DroneControl.Proofs.Interface.Failing
import DroneControl.Proofs.Interface.Numbering
import DroneControl.Proofs.Interface.Pending
import DroneControl.Proofs.Interface.Blocks
import DroneControl.Proofs.Interface.Aftermath
import DroneControl.Proofs.Pipe.Relaying
import DroneControl.Proofs.Backend.Recording
import DroneControl.Proofs.Connection.Passive
import DroneControl.Proofs.Connection.Concluding
import DroneControl.Proofs.Connection.Timing
import DroneControl.Proofs.Backend.Handshake
import DroneControl.Proofs.Connection.Leaving
import DroneControl.Proofs.Backend.EndOfFile
import DroneControl.Proofs.Backend.LateReply
import DroneControl.Proofs.Backend.Stopping
import DroneControl.Proofs.Backend.Claiming
import DroneControl.Proofs.Stream.Reopening
import DroneControl.Proofs.Device.Versions
import DroneControl.Proofs.Device.Wire
import DroneControl.Proofs.Protocol.Codec
import DroneControl.Proofs.Protocol.Searching
import DroneControl.Proofs.Proxy.Reporting
import DroneControl.Proofs.Registry.Ring
import DroneControl.Proofs.Registry.Rotation
import DroneControl.Proofs.Controller.Pausing
import DroneControl.Proofs.Controller.Cadence
import DroneControl.Proofs.Controller.Rhythm
