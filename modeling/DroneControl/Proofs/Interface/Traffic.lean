import DroneControl.Proofs.Interface.Wires

/-!
# What goes over the wires

Every operation of the two interfaces, followed to its end.
-/

namespace DroneControl

open Exchange

variable {e : Ends} {w : World Wires} {box : Outbox} {inbox : Inbox} {wires : Wires}
  {accepted : List Bytes}

def linkBusy : Fault := .transport "link busy"

namespace Interface

section Sending

variable (at_ : e.At w box inbox wires accepted)

include at_

theorem trace_at (i : InterfaceId) (d : Direction) (c : Command) :
    e.At ((trace i d c).run w).2 box inbox wires accepted := by
  unfold trace
  rw [run_bind, run_get]
  dsimp only
  split
  · exact at_.congr rfl rfl rfl rfl
  · exact at_

theorem warnFailure_at (i : InterfaceId) (message : String) (f : Fault) :
    e.At ((warnFailure i message f).run w).2 box inbox wires accepted :=
  at_.log _ _ _

theorem setTimer_at (timer : Option TimerId) :
    e.At ((setTimer e.sender timer).run w).2 box inbox wires accepted := by
  unfold setTimer
  rw [run_bind, run_get, run_bind, run_modify]
  have canceled : e.At ((cancelTimer? (w.interface e.sender).retryTimer).run w).2
      box inbox wires accepted := by
    unfold cancelTimer?
    split
    · exact at_.congr rfl rfl rfl rfl
    · exact at_
  exact canceled.updateSender { canceled.sends with } canceled.outbox

theorem clearFlight_at :
    e.At ((clearFlight e.sender).run w).2 { box with inFlight := none } inbox wires accepted := by
  unfold clearFlight
  rw [run_bind, run_modify]
  obtain rfl := at_.outbox
  exact setTimer_at (at_.updateSender { at_.sends with } rfl) none

theorem launch_at (f : InFlight) :
    e.At ((launch e.sender f).run w).2 { box with inFlight := some f } inbox wires accepted := by
  unfold launch schedule
  rw [run_bind, run_modify, run_bind, run_modifyGet]
  obtain rfl := at_.outbox
  have placed : e.At (w.updateInterface e.sender fun x => { x with inFlight := some f })
      { (w.interface e.sender).outbox with inFlight := some f } inbox wires accepted :=
    at_.updateSender { at_.sends with } rfl
  refine setTimer_at (placed.congr ?_ ?_ ?_ ?_) _ <;> rfl

theorem drawSeq_at :
    ((drawSeq e.sender BufferId.toDeviceAck).run w).1 = box.sent + 1 ∧
      e.At ((drawSeq e.sender BufferId.toDeviceAck).run w).2 { box with sent := box.sent + 1 }
        inbox wires accepted := by
  obtain rfl := at_.outbox
  refine ⟨rfl, at_.updateSender { at_.sends with } ?_⟩
  simp [outbox]

theorem offer_near (frame : Frame) :
    ∃ w', (offer e.host e.sender e.nearPipe frame).run.run w =
        (if wires.takes then .ok () else .error linkBusy, w') ∧
      e.At w' box inbox
        (wires.carryThere ⟨accepted.length - box.queue.length - 1, frame⟩) accepted := by
  have offered := at_.mark_aside (o := .offered e.sender frame) rfl
  have found : (w.mark (.offered e.sender frame)).pipe e.nearPipe =
      { link := .supplied e.nearLink, state := .started,
        receiver := some (.interface e.sender), starts := 1 } := by
    simp [World.pipe, Table.get, offered.nearPipe]
  have logged := offered.log .trace "Frame out" (Pipe.frameFields frame)
  have carried := logged.rewire
    (wires.carryThere ⟨accepted.length - box.queue.length - 1, frame⟩)
  unfold offer Pipe.send
  rw [run_lookThen, run_actThen, run_mark, run_onFailure, run_lookThen, found,
    if_neg (not_not_intro rfl), run_actThen, run_log]
  dsimp only [Ends.host, Ends.carry]
  rw [run_lookThen, if_pos rfl, if_neg e.unlinked, run_actThen, run_modify, logged.host,
    logged.launched]
  cases wires.takes with
  | true => exact ⟨_, rfl, carried⟩
  | false => exact ⟨_, rfl, carried.mark_aside rfl⟩

theorem pump_at (idle : box.inFlight = none) {data : Bytes} {rest : List Bytes}
    (waits : box.queue = data :: rest) :
    e.At ((pump e.host e.sender).run.run w).2
      { box with
        queue := rest
        inFlight := if wires.takes then some ⟨box.sent + 1, data, 0⟩ else none
        sent := box.sent + 1 }
      inbox
      (wires.carryThere ⟨accepted.length - rest.length - 1, ackFrame (box.sent + 1) data⟩)
      accepted := by
  obtain rfl := at_.outbox
  have queue : (w.interface e.sender).queue = data :: rest := waits
  have ready : ¬((w.interface e.sender).closed || (w.interface e.sender).inFlight.isSome) := by
    have flight : (w.interface e.sender).inFlight = none := idle
    simp [at_.sends.closed, flight]
  unfold pump
  rw [run_lookThen]
  dsimp only
  rw [if_neg ready, queue, at_.sends.pipe]
  dsimp only
  rw [run_actThen, run_modify, run_actThen, run_actThen, run_onFailure]
  dsimp only
  have taken : e.At (w.updateInterface e.sender fun x => { x with queue := rest })
      { (w.interface e.sender).outbox with queue := rest } inbox wires accepted :=
    at_.updateSender { at_.sends with } rfl
  obtain ⟨seq, drawn⟩ := drawSeq_at taken
  dsimp only at seq
  rw [seq]
  have launched := launch_at drawn ⟨(w.interface e.sender).outbox.sent + 1, data, 0⟩
  obtain ⟨w', runs, offered⟩ := offer_near launched
    (ackFrame ((w.interface e.sender).outbox.sent + 1) data)
  rw [runs]
  cases wires.takes with
  | true => exact offered
  | false =>
      have awaits : (w'.interface e.sender).awaits ((w.interface e.sender).outbox.sent + 1) := by
        have := congrArg Outbox.inFlight offered.outbox
        simp only [outbox] at this
        simp [Interface.awaits, this, outbox]
      simp only [Bool.false_eq_true, if_false]
      rw [run_bind, run_get, if_pos awaits, run_bind, run_log]
      exact (clearFlight_at offered).log _ _ _

theorem pump_rests (rests : box.inFlight.isSome ∨ box.queue = []) :
    (pump e.host e.sender).run.run w = (.ok (), w) := by
  obtain rfl := at_.outbox
  exact pump_idles e.host (.inr rests)

omit at_ in
theorem recover_at {a : Try Wires Unit} {box' : Outbox} {wires' : Wires}
    {accepted' : List Bytes} (ends : e.At (a.run.run w).2 box' inbox wires' accepted')
    (i : InterfaceId) (message : String) :
    e.At ((recover a (warnFailure i message)).run w).2 box' inbox wires' accepted' := by
  rw [run_recover]
  generalize a.run.run w = outcome at ends
  obtain ⟨result, w'⟩ := outcome
  cases result with
  | ok _ => exact ends
  | error f => exact warnFailure_at ends i message f

theorem send_at {c : Command} (acked : c.delivery = .ack) :
    ∃ w', e.At w' { box with queue := box.queue ++ [c.data] } inbox wires
        (accepted ++ [c.data]) ∧
      ((send e.host e.sender c).run.run w).2 =
        if box.inFlight.isNone then ((pump e.host e.sender).run.run w').2 else w' := by
  obtain rfl := at_.outbox
  have joined : e.At (w.updateInterface e.sender fun x => { x with queue := x.queue ++ [c.data] })
      { (w.interface e.sender).outbox with queue := (w.interface e.sender).queue ++ [c.data] }
      inbox wires accepted :=
    at_.updateSender { at_.sends with } rfl
  have queued := joined.mark (.queued e.sender c.data)
  simp only [Occurrence.queued?, if_true, Option.toList_some] at queued
  have traced := trace_at queued e.sender .sent c
  refine ⟨_, traced, ?_⟩
  unfold send
  rw [run_lookThen]
  dsimp only
  rw [acked]
  dsimp only
  rw [if_neg (by simp [at_.sends.closed]), run_actThen, run_modify, run_actThen, run_mark,
    run_actThen]
  have flight : (w.interface e.sender).outbox.inFlight = (w.interface e.sender).inFlight := rfl
  rw [flight]
  split <;> rfl

theorem retry_idle (idle : box.inFlight = none) :
    (retry e.host e.sender).run w = ((), w) := by
  obtain rfl := at_.outbox
  have flight : (w.interface e.sender).inFlight = none := idle
  unfold retry
  rw [run_bind, run_get]
  dsimp only
  rw [if_neg (by simp [at_.sends.closed]), flight]
  rfl

theorem retry_again {f : InFlight} (waits : box.inFlight = some f) (few : f.retries < maxRetries) :
    e.At ((retry e.host e.sender).run w).2
      { box with inFlight := some { f with retries := f.retries + 1 } } inbox
      (wires.carryThere ⟨accepted.length - box.queue.length - 1, ackFrame f.seq f.data⟩)
      accepted := by
  obtain rfl := at_.outbox
  have flight : (w.interface e.sender).inFlight = some f := waits
  unfold retry
  rw [run_bind, run_get]
  dsimp only
  rw [if_neg (by simp [at_.sends.closed]), flight]
  dsimp only
  rw [if_pos few, run_bind, at_.sends.pipe]
  have launched := launch_at at_ { f with retries := f.retries + 1 }
  obtain ⟨w', runs, offered⟩ := offer_near launched (ackFrame f.seq f.data)
  refine recover_at ?_ _ _
  rw [runs]
  exact offered

theorem retry_last {f : InFlight} (waits : box.inFlight = some f)
    (many : ¬f.retries < maxRetries) :
    ∃ w', e.At w' { box with inFlight := none } inbox wires accepted ∧
      ((retry e.host e.sender).run w).2 = ((recover (pump e.host e.sender)
        (warnFailure e.sender "Failed to send ack command")).run w').2 := by
  obtain rfl := at_.outbox
  have flight : (w.interface e.sender).inFlight = some f := waits
  have logged := at_.log .warn "Ack command not acknowledged, dropping"
    [("device", (w.interface e.sender).device.label), ("seq", Text.Decimal.render f.seq.toNat),
      ("retries", Text.Decimal.render f.retries)]
  refine ⟨_, clearFlight_at logged, ?_⟩
  unfold retry
  rw [run_bind, run_get]
  dsimp only
  rw [if_neg (by simp [at_.sends.closed]), flight]
  dsimp only
  rw [if_neg many, run_bind, run_log, run_bind]

theorem awaits_iff (seq : UInt8) :
    (w.interface e.sender).awaits seq ↔ ∃ f ∈ box.inFlight, f.seq = seq := by
  obtain rfl := at_.outbox
  unfold Interface.awaits outbox
  cases (w.interface e.sender).inFlight <;> simp

theorem acknowledged_at {seq : UInt8} (awaits : (w.interface e.sender).awaits seq) :
    ∃ w', e.At w' { box with inFlight := none } inbox wires accepted ∧
      ((acknowledged e.host e.sender seq).run w).2 = ((recover (pump e.host e.sender)
        (warnFailure e.sender "Failed to send ack command")).run w').2 := by
  refine ⟨_, clearFlight_at at_, ?_⟩
  unfold acknowledged
  rw [run_bind, run_get]
  dsimp only
  rw [if_pos awaits, run_bind]

theorem acknowledged_stale_at {seq : UInt8} (stale : ¬(w.interface e.sender).awaits seq) :
    e.At ((acknowledged e.host e.sender seq).run w).2 box inbox wires accepted := by
  unfold acknowledged
  rw [run_bind, run_get]
  dsimp only
  rw [if_neg stale]
  exact at_.log _ _ _

theorem run_receive_ack {frame : Frame} {seq : UInt8}
    (acknowledges : frame.header.acknowledges BufferId.toDeviceAck)
    (payload : frame.payload = [seq]) :
    (receive e.host e.sender frame).run w =
      (acknowledged e.host e.sender seq).run (w.mark (.arrived e.sender frame)) := by
  have kind : frame.header.kind = .ack := by
    simp only [FrameHeader.acknowledges, Bool.and_eq_true, decide_eq_true_eq] at acknowledges
    exact acknowledges.1
  unfold receive
  rw [run_bind, run_get]
  dsimp only
  rw [if_neg (by simp [at_.sends.closed]), run_bind, run_mark, kind, payload]
  dsimp only
  rw [if_pos acknowledges]

end Sending

section Receiving

variable (at_ : e.At w box inbox wires accepted)

include at_

theorem drawSeq_receiver_at (buffer : UInt8) :
    e.At ((drawSeq e.receiver buffer).run w).2 box inbox wires accepted := by
  obtain rfl := at_.inbox_eq
  exact at_.updateReceiver { at_.receives with } rfl

theorem offer_far (frame : Frame) :
    ∃ w', (offer e.host e.receiver e.farPipe frame).run.run w =
        (if wires.takes then .ok () else .error linkBusy, w') ∧
      e.At w' box inbox (wires.carryBack frame) accepted := by
  have offered := at_.mark_aside (o := .offered e.receiver frame) rfl
  have found : (w.mark (.offered e.receiver frame)).pipe e.farPipe =
      { link := .supplied e.farLink, state := .started,
        receiver := some (.interface e.receiver), starts := 1 } := by
    simp [World.pipe, Table.get, offered.farPipe]
  have logged := offered.log .trace "Frame out" (Pipe.frameFields frame)
  have carried := logged.rewire (wires.carryBack frame)
  unfold offer Pipe.send
  rw [run_lookThen, run_actThen, run_mark, run_onFailure, run_lookThen, found,
    if_neg (not_not_intro rfl), run_actThen, run_log]
  dsimp only [Ends.host, Ends.carry]
  rw [run_lookThen, if_neg e.unlinked.symm, if_pos rfl, run_actThen, run_modify, logged.host]
  cases wires.takes with
  | true => exact ⟨_, rfl, carried⟩
  | false => exact ⟨_, rfl, carried.mark_aside rfl⟩

theorem answer_at (frame : Frame) (complaint : String) :
    e.At ((answer e.host e.receiver frame complaint).run w).2 box inbox (wires.carryBack frame)
      accepted := by
  unfold answer
  rw [run_bind, run_get]
  dsimp only
  rw [at_.receives.pipe]
  obtain ⟨w', runs, offered⟩ := offer_far at_ frame
  refine recover_at ?_ _ _
  rw [runs]
  exact offered

theorem deliver_at {c : Command} {payload : Bytes} (decodes : Command.decode payload = .ok c) :
    e.At ((deliver e.host e.receiver payload).run w).2 box inbox (wires.hear c) accepted := by
  unfold deliver
  rw [decodes]
  dsimp only
  have traced := trace_at at_ e.receiver .received c
  have handed := traced.mark_aside (o := .delivered e.receiver c) rfl
  unfold hand
  rw [run_bind, run_bind, run_mark, run_bind, run_get]
  dsimp only
  rw [handed.receives.sink]
  dsimp only [Ends.host]
  rw [run_modify, if_pos rfl, handed.host]
  exact handed.rewire _

theorem note_at {seq : UInt8} {data : Bytes} {c : Command}
    (decodes : Command.decode data = .ok c) (fields : List (String × String)) :
    e.At ((do
        let repeated ← modifyGet fun w =>
          let (repeated, x) := (w.interface e.receiver).noteReceived BufferId.toDeviceAck seq
          (repeated, w.updateInterface e.receiver fun _ => x)
        if repeated then log .debug "Duplicate frame" fields
        else deliver e.host e.receiver data : Act Wires Unit).run w).2 box
      { inbox with received := some seq }
      (if inbox.received = some seq then wires else wires.hear c) accepted := by
  obtain rfl := at_.inbox_eq
  have noted : e.At (w.updateInterface e.receiver fun _ =>
        ((w.interface e.receiver).noteReceived BufferId.toDeviceAck seq).2) box
      { (w.interface e.receiver).inbox with received := some seq } wires accepted :=
    at_.updateReceiver { at_.receives with } (by simp [noteReceived, Interface.inbox])
  rw [run_bind, run_modifyGet]
  dsimp only
  have repeated : ((w.interface e.receiver).noteReceived BufferId.toDeviceAck seq).1 =
      decide ((w.interface e.receiver).inbox.received = some seq) := rfl
  rw [repeated]
  by_cases same : (w.interface e.receiver).inbox.received = some seq
  · rw [if_pos (decide_eq_true same), if_pos same]
    exact noted.log _ _ _
  · rw [if_neg (by simpa using same), if_neg same]
    exact deliver_at noted decodes

theorem receive_command_at (seq : UInt8) {data : Bytes} {c : Command}
    (decodes : Command.decode data = .ok c) :
    ∃ number, e.At ((receive e.host e.receiver (ackFrame seq data)).run w).2 box
      { inbox with received := some seq }
      (let answered := wires.carryBack
        { header := ⟨.ack, BufferId.ackOf BufferId.toDeviceAck, number⟩, payload := [seq] }
      if inbox.received = some seq then answered else answered.hear c)
      accepted := by
  have arrived := at_.mark_aside (o := .arrived e.receiver (ackFrame seq data)) rfl
  have drawn := drawSeq_receiver_at arrived (BufferId.ackOf BufferId.toDeviceAck)
  have answered := answer_at drawn
    { header := ⟨.ack, BufferId.ackOf BufferId.toDeviceAck,
        ((drawSeq e.receiver (BufferId.ackOf BufferId.toDeviceAck)).run
          (w.mark (.arrived e.receiver (ackFrame seq data)))).1⟩
      payload := [seq] }
    "Failed to acknowledge frame"
  refine ⟨((drawSeq e.receiver (BufferId.ackOf BufferId.toDeviceAck)).run
    (w.mark (.arrived e.receiver (ackFrame seq data)))).1, ?_⟩
  unfold receive
  rw [run_bind, run_get]
  dsimp only
  rw [if_neg (by simp [at_.receives.closed]), run_bind, run_mark]
  rw [show (ackFrame seq data).header.kind = .dataWithAck from rfl]
  dsimp only
  rw [run_bind, run_bind, run_bind, run_mark]
  exact note_at (answered.mark_aside rfl) decodes _

end Receiving

end Interface

/-! ## Keeping an interface while it is at work -/

section Keeping

variable (at_ : e.At w box inbox wires accepted)

include at_

theorem retain_sender_at :
    e.At (w.reshare (· + 1) (.interface e.sender)) { box with sharers := box.sharers + 1 } inbox
      wires accepted := by
  obtain rfl := at_.outbox
  exact at_.updateSender { at_.sends with } rfl

theorem retain_receiver_at :
    e.At (w.reshare (· + 1) (.interface e.receiver)) box
      { inbox with sharers := inbox.sharers + 1 } wires accepted := by
  obtain rfl := at_.inbox_eq
  exact at_.updateReceiver { at_.receives with } rfl

theorem release_sender_at (shared : box.sharers ≠ 0) :
    e.At ((release e.host (.interface e.sender)).run w).2 { box with sharers := box.sharers - 1 }
      inbox wires accepted := by
  obtain ⟨x, found, -⟩ := at_.sender
  obtain rfl := at_.outbox
  have row := World.interface_of_find? found
  have item : w.item? (.interface e.sender) = some (.interface x) := by simp [World.item?, found]
  rw [run_release item (row ▸ shared)]
  exact at_.updateSender { at_.sends with } rfl

theorem release_receiver_at (shared : inbox.sharers ≠ 0) :
    e.At ((release e.host (.interface e.receiver)).run w).2 box
      { inbox with sharers := inbox.sharers - 1 } wires accepted := by
  obtain ⟨x, found, -⟩ := at_.receiver
  obtain rfl := at_.inbox_eq
  have row := World.interface_of_find? found
  have item : w.item? (.interface e.receiver) = some (.interface x) := by simp [World.item?, found]
  rw [run_release item (row ▸ shared)]
  exact at_.updateReceiver { at_.receives with } rfl

end Keeping

theorem run_pipeReceive {σ : Type} {env : Env σ} {w : World σ} {p : PipeId} {pipe : Pipe}
    {i : InterfaceId} {x : Interface} (found : w.pipes.find? p = some pipe)
    (started : pipe.state = .started) (receiver : pipe.receiver = some (.interface i))
    (there : w.interfaces.find? i = some x) (frame : Frame) :
    ((Pipe.receive env p frame).run.run w).2 =
      ((keeping env (.interface i) (Interface.receive env i frame)).run
        (w.log .trace "Frame in" (Pipe.frameFields frame))).2 := by
  have kept : (w.log .trace "Frame in" (Pipe.frameFields frame)).isKept (.interface i) := by
    unfold World.log
    split <;> simp [World.isKept, World.item?, World.note, there]
  have row : w.pipe p = pipe := World.pipe_of_find? found
  unfold Pipe.receive
  rw [run_lookThen, row]
  dsimp only
  rw [if_neg (not_not_intro started), receiver]
  dsimp only
  rw [run_actThen, run_log, run_act, run_ifKept, if_pos kept]

end DroneControl
