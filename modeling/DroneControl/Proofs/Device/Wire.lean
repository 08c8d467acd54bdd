import DroneControl.Device.Firmware
import DroneControl.Proofs.Backend.Handshake
import DroneControl.Proofs.Json.Reading

/-!
# Values on the wire

What a controller writes of itself, of devices and of the negotiation with them is read back as what
it was, whatever the texts hold and however large the numbers are. The host of a network backend is
handed just such a text.
-/

namespace DroneControl

open Text

/-! ## Tags -/

theorem BackendKind.ofTag?_tag (kind : BackendKind) : ofTag? kind.tag = some kind := by
  cases kind <;> rfl

theorem DeviceApi.ofTag?_tag (api : DeviceApi) : ofTag? api.tag = some api := by
  cases api <;> rfl

theorem Channel.ofTag?_tag (channel : Channel) : ofTag? channel.tag = some channel := by
  cases channel <;> rfl

theorem TraceLevel.ofTag?_tag (level : TraceLevel) : ofTag? level.tag = some level := by
  cases level <;> rfl

/-! ## Structures -/

namespace HandshakeRequest

theorem toJson_legible (r : HandshakeRequest) : r.toJson.Legible := .object (by simp)

theorem ofJson?_toJson (r : HandshakeRequest) : ofJson? r.toJson = some r := by
  refine Json.bind_read (Json.fields?_object rfl (by decide)) ?_
  refine Json.bind_field rfl <| Json.bind_field rfl <| Json.bind_field (Json.uint16?_nat _) ?_
  exact Json.bind_field (Json.uint32?_nat _) <| Json.bind_field rfl <| Json.bind_field rfl rfl

end HandshakeRequest

namespace HandshakeReply

def StatusFits (r : HandshakeReply) : Prop := -2147483648 ≤ r.status ∧ r.status ≤ 2147483647

theorem toJson_legible (r : HandshakeReply) : r.toJson.Legible := .object (by simp)

theorem ofJson?_toJson {r : HandshakeReply} (fits : r.StatusFits) : ofJson? r.toJson = some r := by
  refine Json.bind_read (Json.fields?_object rfl (by decide)) ?_
  have status : (Json.whole r.status).int32? = some r.status := by
    unfold StatusFits at fits
    rw [Json.int32?, Json.whole?, if_pos fits]
  refine Json.bind_field status ?_
  exact Json.bind_read (Json.uint16?_nat _) <| Json.bind_read (Json.uint32?_nat _) rfl

theorem read_toJson {r : HandshakeReply} (fits : r.StatusFits) :
    read (Utf8.encode r.toJson.render) = .ok r := by
  have read_back : ofBytes? (Utf8.encode r.toJson.render) = some r := by
    rw [ofBytes?]
    exact Json.read_render_bind r.toJson_legible (ofJson?_toJson fits)
  rw [read, read_back]

end HandshakeReply

namespace DeviceInfo

theorem toJson_legible (info : DeviceInfo) : info.toJson.Legible := .object (by simp)

theorem ofJson?_toJson (info : DeviceInfo) : ofJson? info.toJson = some info := by
  refine Json.bind_read (Json.fields?_object rfl (by decide)) ?_
  refine Json.bind_field rfl <| Json.bind_read (BackendKind.ofTag?_tag _) ?_
  refine Json.bind_read (DeviceApi.ofTag?_tag _) <| Json.bind_field rfl <| Json.bind_field rfl ?_
  refine Json.bind_field (Json.uint32?_nat _) <| Json.bind_field rfl ?_
  exact Json.bind_field (Json.uint16?_nat _) rfl

end DeviceInfo

namespace Firmware

theorem toJson_legible (v : Firmware) : v.toJson.Legible := .object (by simp)

theorem ofJson?_toJson (v : Firmware) : ofJson? v.toJson = some v := by
  refine Json.bind_read (Json.fields?_object rfl (by decide)) ?_
  refine Json.bind_field rfl <| Json.bind_read (Channel.ofTag?_tag _) ?_
  refine Json.bind_field (Json.uint32?_nat _) <| Json.bind_field (Json.uint32?_nat _) ?_
  exact Json.bind_field (Json.uint32?_nat _) <| Json.bind_field (Json.uint32?_nat _) rfl

end Firmware

namespace Agent

theorem toJson_legible (a : Agent) : a.toJson.Legible := .object (by simp)

theorem ofJson?_toJson (a : Agent) : ofJson? a.toJson = some a := by
  refine Json.bind_read (Json.fields?_object rfl (by decide)) ?_
  exact Json.bind_field rfl <| Json.bind_field rfl rfl

end Agent

namespace RegistryOptions

theorem toJson_legible (o : RegistryOptions) : o.toJson.Legible :=
  .object (by simp [o.agent.toJson_legible])

theorem ofJson?_toJson (o : RegistryOptions) : ofJson? o.toJson = some o := by
  refine Json.bind_read (Json.fields?_object rfl (by decide)) ?_
  refine Json.bind_read (Agent.ofJson?_toJson _) <| Json.bind_read rfl ?_
  exact Json.bind_read (TraceLevel.ofTag?_tag _) rfl

end RegistryOptions

/-! ## What the host is handed -/

variable {σ : Type} {w : World σ} {b : BackendId}

theorem Backend.start_asks {x : Backend} {part : NetPart} (known : w.backends.find? b = some x)
    (net : x.part = .net part) (env : Env σ) (h : DeviceHandle) (info : DeviceInfo) (agent : Agent)
    (sink : Sink) :
    let prepared := (prepareNet b h info sink).run w
    ((start env b h info agent sink).run.run w).1 =
      ((env.ask (.openNet part.connector prepared.1 info.port
        (handshake part agent info).toJson.render)).run.run prepared.2).1.map
        fun _ => prepared.1 := by
  generalize prepares : (prepareNet b h info sink).run w = prepared
  have here : w.backend b = x := World.backend_of_find? known
  unfold start
  rw [run_lookThen, here, net]
  exact (startNet_asks env part h info agent sink prepares).1

/-- Whatever is written is read back: requests, replies, devices, versions, identities and options.
The text that a network backend hands to its host holds the request for the device: a host answers
for the backend just what it makes of that text. -/
theorem written_read_back :
    (∀ r : HandshakeRequest,
      (Json.read (Utf8.encode r.toJson.render) >>= HandshakeRequest.ofJson?) = some r) ∧
    (∀ r : HandshakeReply, r.StatusFits →
      HandshakeReply.read (Utf8.encode r.toJson.render) = .ok r) ∧
    (∀ info : DeviceInfo,
      (Json.read (Utf8.encode info.toJson.render) >>= DeviceInfo.ofJson?) = some info) ∧
    (∀ v : Firmware, (Json.read (Utf8.encode v.toJson.render) >>= Firmware.ofJson?) = some v) ∧
    (∀ a : Agent, (Json.read (Utf8.encode a.toJson.render) >>= Agent.ofJson?) = some a) ∧
    (∀ o : RegistryOptions,
      (Json.read (Utf8.encode o.toJson.render) >>= RegistryOptions.ofJson?) = some o) ∧
    ∀ {σ : Type} {w : World σ} {b : BackendId} {x : Backend} {part : NetPart},
      w.backends.find? b = some x → x.part = .net part →
      ∀ (h : DeviceHandle) (info : DeviceInfo) (agent : Agent) (sink : Sink),
        ∃ text, (Json.read (Utf8.encode text) >>= HandshakeRequest.ofJson?) =
            some (.build agent part.listenPort info) ∧
          let prepared := (Backend.prepareNet b h info sink).run w
          ∀ env : Env σ, ((Backend.start env b h info agent sink).run.run w).1 =
            ((env.ask (.openNet part.connector prepared.1 info.port text)).run.run prepared.2).1.map
              fun _ => prepared.1 := by
  have request (r : HandshakeRequest) := Json.read_render_bind r.toJson_legible r.ofJson?_toJson
  refine ⟨request, fun r fits => ?_, fun info => ?_, fun v => ?_, fun a => ?_, fun o => ?_, ?_⟩
  · exact HandshakeReply.read_toJson fits
  · exact Json.read_render_bind info.toJson_legible info.ofJson?_toJson
  · exact Json.read_render_bind v.toJson_legible v.ofJson?_toJson
  · exact Json.read_render_bind a.toJson_legible a.ofJson?_toJson
  · exact Json.read_render_bind o.toJson_legible o.ofJson?_toJson
  · intro σ w b x part known net h info agent sink
    refine ⟨(Backend.handshake part agent info).toJson.render, request _, fun env => ?_⟩
    exact Backend.start_asks known net env h info agent sink

def readingHost (request : HandshakeRequest) : Env Unit :=
  { silentHost with
    ask := fun asked =>
      match asked with
      | .openNet _ _ _ text =>
        if (Json.read (Utf8.encode text) >>= HandshakeRequest.ofJson?) = some request then pure ()
        else throw .canceled
      | _ => pure () }

def oddAgent : Agent := ⟨"\"\\\x07\n\x1f\x7f", "𝄞 é"⟩

theorem oddAgent_understood :
    HandshakeReply.read (Utf8.encode
      (HandshakeReply.toJson ⟨-2147483648, 65535, 4294967295⟩).render) =
        .ok ⟨-2147483648, 65535, 4294967295⟩ ∧
    ((Backend.start (readingHost (.build oddAgent 0 default)) ⟨1⟩ ⟨1⟩ default oddAgent
      (.listener ⟨2⟩)).run.run (netFounded.run { host := () }).2).1 = .ok ⟨1⟩ := by
  have here : ((netFounded.run { host := () }).2.backends.find? ⟨1⟩).map (·.part) =
      some (.net { connector := ⟨1⟩, listenPort := 0, token := none }) := by decide +kernel
  obtain ⟨x, known, net⟩ := Option.map_eq_some_iff.mp here
  obtain ⟨-, reply, -, -, -, -, handed⟩ := written_read_back
  obtain ⟨text, holds, answers⟩ := handed known net ⟨1⟩ default oddAgent (.listener ⟨2⟩)
  refine ⟨reply _ ⟨by decide, by decide⟩, ?_⟩
  rw [answers]
  have new : ((Backend.prepareNet ⟨1⟩ ⟨1⟩ default (.listener ⟨2⟩)).run
      (netFounded.run { host := () }).2).1 = ⟨1⟩ := by decide +kernel
  simp only [readingHost, holds, if_true, new]
  rfl

end DroneControl
