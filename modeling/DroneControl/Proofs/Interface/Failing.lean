import DroneControl.Proofs.Interface.Answering

/-!
# Sends that fail

The commands that an interface offers to be acknowledged were in flight, or in the queue, or were
taken in the meantime; there is no other place that they could come from.  A send that fails keeps
nothing of its command, and so the command is not sent later, as long as nothing had been left in
the queue with no command in flight.
-/

set_option synthInstance.maxSize 2048

namespace DroneControl

variable {σ α : Type} {i : InterfaceId} {w w' : World σ} {env : Env σ} {x : Interface}

/-! ## Commands on hand -/

namespace Interface

def onHand (x : Interface) : List Bytes := (x.inFlight.map (·.data)).toList ++ x.queue

structure Draws (x x' : Interface) (taken : List Bytes) : Prop where
  queue : ∀ data ∈ x'.queue, data ∈ x.queue ∨ data ∈ taken
  flight : ∀ f' ∈ x'.inFlight, (f'.data ∈ x.queue ∨ f'.data ∈ taken) ∨
    ∃ f ∈ x.inFlight, f'.seq = f.seq ∧ f'.data = f.data

theorem mem_onHand {data : Bytes} :
    data ∈ x.onHand ↔ (∃ f ∈ x.inFlight, f.data = data) ∨ data ∈ x.queue := by
  simp [onHand]

namespace Draws

variable {x' x'' : Interface} {taken more : List Bytes}

theorem of_same (queue : x'.queue = x.queue) (flight : x'.inFlight = x.inFlight) :
    x.Draws x' taken where
  queue _ among := .inl (queue ▸ among)
  flight f' flying := .inr ⟨f', flight ▸ flying, rfl, rfl⟩

theorem of_idle (queue : ∀ data ∈ x'.queue, data ∈ x.queue ∨ data ∈ taken)
    (flight : x'.inFlight = none) : x.Draws x' taken where
  queue := queue
  flight f' flying := by simp [flight] at flying

theorem onHand (draws : x.Draws x' taken) {data : Bytes} (among : data ∈ x'.onHand) :
    data ∈ x.onHand ∨ data ∈ taken := by
  rcases mem_onHand.mp among with ⟨f', flying, rfl⟩ | waits
  · rcases draws.flight f' flying with waited | ⟨f, flew, -, same⟩
    · exact waited.imp_left fun waited => mem_onHand.mpr (.inr waited)
    · exact .inl (mem_onHand.mpr (.inl ⟨f, flew, same.symm⟩))
  · exact (draws.queue _ waits).imp_left fun waited => mem_onHand.mpr (.inr waited)

theorem trans (draws : x.Draws x' taken) (again : x'.Draws x'' more) :
    x.Draws x'' (taken ++ more) := by
  have waited {data : Bytes} (among : data ∈ x'.queue ∨ data ∈ more) :
      data ∈ x.queue ∨ data ∈ taken ++ more := by
    rw [List.mem_append, ← or_assoc]
    exact among.imp_left (draws.queue data)
  refine ⟨fun data among => waited (again.queue data among), fun f'' flying => ?_⟩
  rcases again.flight f'' flying with among | ⟨f', flying', seq, data⟩
  · exact .inl (waited among)
  · rcases draws.flight f' flying' with among | ⟨f, flew, seq', data'⟩
    · rw [data]
      exact .inl (among.imp_right (List.mem_append_left _))
    · exact .inr ⟨f, flew, seq.trans seq', data.trans data'⟩

end Draws

end Interface

/-- What an interface attempts to send that is to be acknowledged, in order. -/
def attempted (i : InterfaceId) (chronicle : List Happening) : List Bytes :=
  (chronicle.filterMap (·.what.command? i)).map (·.payload)

structure DrawsMeanwhile (i : InterfaceId) (w w' : World σ) (more : List Happening) : Prop where
  grown : w'.chronicle = w.chronicle ++ more
  attempts : ∀ data ∈ attempted i more, data ∈ (w.interface i).onHand ∨ data ∈ accepted i more
  row : (w.interface i).Draws (w'.interface i) (accepted i more)

def DrawsOn (i : InterfaceId) (w w' : World σ) : Prop := ∃ more, DrawsMeanwhile i w w' more

theorem DrawsMeanwhile.trans {w₁ w₂ w₃ : World σ} {more more' : List Happening}
    (first : DrawsMeanwhile i w₁ w₂ more) (second : DrawsMeanwhile i w₂ w₃ more') :
    DrawsMeanwhile i w₁ w₃ (more ++ more') := by
  have taken : accepted i (more ++ more') = accepted i more ++ accepted i more' :=
    List.filterMap_append
  refine ⟨by rw [second.grown, first.grown, List.append_assoc], fun data among => ?_,
    taken ▸ first.row.trans second.row⟩
  have either : data ∈ attempted i more ∨ data ∈ attempted i more' := by
    simpa only [attempted, List.filterMap_append, List.map_append, List.mem_append] using among
  rw [taken, List.mem_append]
  rcases either with early | late
  · exact (first.attempts data early).imp_right .inl
  · rcases second.attempts data late with held | new
    · exact (first.row.onHand held).imp_right .inl
    · exact .inr (.inr new)

namespace DrawsOn

theorem of_row (chronicle : w'.chronicle = w.chronicle)
    (row : (w.interface i).Draws (w'.interface i) []) : DrawsOn i w w' :=
  ⟨[], by simpa using chronicle, by simp [attempted], row⟩

theorem refl (w : World σ) : DrawsOn i w w := of_row rfl (.of_same rfl rfl)

theorem mark (w : World σ) {o : Occurrence} (unsent : o.command? i = none) :
    DrawsOn i w (w.mark o) :=
  ⟨[⟨w.loop.clock, o⟩], w.chronicle_mark o, by simp [attempted, unsent], .of_same rfl rfl⟩

theorem offered {seq : UInt8} {data : Bytes} (among : data ∈ (w.interface i).onHand) :
    DrawsOn i w (w.mark (.offered i (Interface.ackFrame seq data))) := by
  have sole : attempted i [⟨w.loop.clock, .offered i (Interface.ackFrame seq data)⟩] = [data] := by
    simp only [attempted, List.filterMap_cons, Ledger.command?_ackFrame]
    rfl
  refine ⟨[⟨w.loop.clock, _⟩], w.chronicle_mark _, fun data' attempt => ?_, .of_same rfl rfl⟩
  rw [sole, List.mem_singleton] at attempt
  exact .inl (attempt ▸ among)

instance watches : Watches (σ := σ) i (DrawsOn i) where
  spares {w w'} h := by
    obtain ⟨more, grown, aside⟩ := h.history
    have unsent : attempted i more.reverse = [] := by
      rw [attempted, List.map_eq_nil_iff, List.filterMap_eq_nil_iff]
      rintro ⟨t, o⟩ among
      have := aside _ (List.mem_reverse.mp among)
      cases o <;> simp_all [Occurrence.concerns, Occurrence.command?]
    refine ⟨more.reverse, by simp [World.chronicle, grown], by simp [unsent], ?_⟩
    cases row : w'.interfaces.find? i with
    | none =>
      have gone : w'.interface i = default := by simp [World.interface, Table.get, row]
      rw [gone]
      exact .of_idle (fun _ => nofun) rfl
    | some x' =>
      obtain ⟨x, there, same⟩ := h.row x' row
      rw [World.interface_of_find? row, World.interface_of_find? there, same]
      exact .of_same rfl rfl
  trans := by
    rintro w₁ w₂ w₃ ⟨more, first⟩ ⟨more', second⟩
    exact ⟨more ++ more', first.trans second⟩

theorem mark_draws {o : Occurrence} (unsent : o.command? i = none) :
    Holds (Keeps (σ := σ) (DrawsOn i)) (DroneControl.mark o) :=
  ⟨fun w => .mark w unsent⟩

instance overlooksLoop : OverlooksLoop (Keeps (σ := σ) (DrawsOn i)) where
  change _ _ := of_row rfl (.of_same rfl rfl)
  beats _ := (mark_draws rfl).holds

instance refused_draws (place : Nat) :
    Holds (Keeps (σ := σ) (DrawsOn i)) (DroneControl.mark (.refused i place)) :=
  mark_draws rfl

theorem update {f : Interface → Interface} (draws : ∀ x : Interface, x.Draws (f x) []) :
    Holds (Keeps (σ := σ) (DrawsOn i)) (modify (·.updateInterface i f)) := by
  refine ⟨fun w => of_row rfl ?_⟩
  simp only [run_modify, World.interface, World.updateInterface, Table.get, Table.find?_update,
    if_true]
  cases w.interfaces.find? i with
  | none => exact .of_same rfl rfl
  | some x => exact draws x

instance setTimer_draws (timer : Option TimerId) :
    Holds (Keeps (σ := σ) (DrawsOn i)) (Interface.setTimer i timer) := by
  have placed : Holds (Keeps (σ := σ) (DrawsOn i))
      (modify (·.updateInterface i fun x => { x with retryTimer := timer })) :=
    update fun _ => .of_same rfl rfl
  have canceled : ∀ t, Holds (Keeps (σ := σ) (DrawsOn i)) (cancelTimer? t) := LoopSteps.cancel?
  unfold Interface.setTimer
  infer_instance

instance clearFlight_draws : Holds (Keeps (σ := σ) (DrawsOn i)) (Interface.clearFlight i) := by
  have cleared : Holds (Keeps (σ := σ) (DrawsOn i))
      (modify (·.updateInterface i fun x => { x with inFlight := none })) :=
    update fun _ => .of_idle (fun _ => .inl) rfl
  unfold Interface.clearFlight
  infer_instance

theorem row_draws {f : World σ → α} {g : Interface → Interface}
    (queue : ∀ x, (g x).queue = x.queue) (flight : ∀ x, (g x).inFlight = x.inFlight) :
    Holds (Keeps (DrawsOn i))
      (modifyGet fun w => (f w, w.updateInterface i fun _ => g (w.interface i)) : Act σ α) := by
  refine ⟨fun w => of_row rfl ?_⟩
  simp only [run_modifyGet, World.interface, World.updateInterface, Table.get, Table.find?_update,
    if_true]
  cases w.interfaces.find? i with
  | none => exact .of_same rfl rfl
  | some x => exact .of_same (queue x) (flight x)

instance drawSeq_draws (buffer : UInt8) :
    Holds (Keeps (σ := σ) (DrawsOn i)) (Interface.drawSeq i buffer) :=
  row_draws (f := fun w => ((w.interface i).takeSeq buffer).1) (g := fun x => (x.takeSeq buffer).2)
    (fun _ => rfl) fun _ => rfl

end DrawsOn

namespace Interface

/-! ## Sending, and sending again -/

/-- What is done about a command that the transport refused. -/
def rejected (i : InterfaceId) (device : DeviceHandle) (seq : UInt8) (f : Fault) : Act σ Unit := do
  if ((← get).interface i).awaits seq then
    clearFlight i
    log .warn "Ack command rejected by transport, dropping"
      [("device", device.label), ("seq", Text.Decimal.render seq.toNat), ("error", f.message)]

variable (env) in
theorem pump_begins (row : w.interfaces.find? i = some x) (opened : x.closed = false)
    (idle : x.inFlight = none) {data : Bytes} {rest : List Bytes} (queue : x.queue = data :: rest)
    {seq : UInt8} (next : x.lastSent BufferId.toDeviceAck + 1 = seq) :
    ∃ w₁, w₁.desk i =
        { w.desk i with
          row := some
            { x with
              queue := rest
              lastSent := (x.takeSeq BufferId.toDeviceAck).2.lastSent
              inFlight := some ⟨seq, data, 0⟩
              retryTimer := some ⟨w.loop.timers.next⟩ }
          loop := w.loop.relay i x.retryTimer } ∧
      (pump env i).run.run w = (onFailure (offer env i x.pipe (ackFrame seq data))
        (rejected i x.device seq)).run.run w₁ := by
  unfold pump
  rw [run_lookThen, World.interface_of_find? row]
  dsimp only
  rw [if_neg (by simp [opened, idle]), queue]
  dsimp only
  rw [run_actThen, run_modify, run_actThen]
  have taken := World.desk_update (w := w) row fun x => { x with queue := rest }
  obtain ⟨number, drawn⟩ := drawSeq_desk (congrArg Desk.row taken) BufferId.toDeviceAck
  rw [taken] at drawn
  dsimp only
  generalize (drawSeq i BufferId.toDeviceAck).run _ = r at number drawn ⊢
  obtain ⟨seq', w₂⟩ := r
  obtain rfl : seq' = seq := number.trans next
  have launched := launch_desk (congrArg Desk.row drawn) ⟨seq', data, 0⟩
  rw [drawn, show w₂.loop = w.loop from congrArg Desk.loop drawn] at launched
  refine ⟨_, launched, ?_⟩
  rw [run_actThen]
  rfl

variable (env) in
theorem pump_launches (row : w.interfaces.find? i = some x) (opened : x.closed = false)
    (idle : x.inFlight = none) {data : Bytes} {rest : List Bytes} (queue : x.queue = data :: rest) :
    ∃ seq w₁ x₁, w₁.chronicle = w.chronicle ∧ w₁.interfaces.find? i = some x₁ ∧
      x₁.queue = rest ∧ x₁.inFlight = some ⟨seq, data, 0⟩ ∧
      (pump env i).run.run w = (onFailure (offer env i x.pipe (ackFrame seq data))
        (rejected i x.device seq)).run.run w₁ := by
  obtain ⟨w₁, desk, same⟩ := pump_begins env row opened idle queue rfl
  exact ⟨_, w₁, _, congrArg Desk.chronicle desk, congrArg Desk.row desk, rfl, rfl, same⟩

section

variable [Upheld (Keeps (DrawsOn i)) env]

variable (env) in
theorem offer_draws {w₁ : World σ} (before : DrawsOn i w w₁) {f : InFlight}
    (row : w₁.interfaces.find? i = some x) (flying : x.inFlight = some f) (p : PipeId) :
    DrawsOn i w ((offer env i p (ackFrame f.seq f.data)).run.run w₁).2 := by
  have among : f.data ∈ (w₁.interface i).onHand := by
    rw [World.interface_of_find? row, mem_onHand]
    exact .inl ⟨f, flying, rfl⟩
  have sending : Holds (Keeps (DrawsOn i))
      (onFailure (Pipe.send env p (ackFrame f.seq f.data))
        fun _ => mark (.refused i w₁.history.length)).run := inferInstance
  unfold offer
  rw [run_lookThen, run_actThen, run_mark]
  exact DrawsOn.watches.trans (DrawsOn.watches.trans before (.offered among)) (sending.holds _)

theorem offer_other (p : PipeId) {frame : Frame} (other : ¬frame.isCommand) :
    Holds (Keeps (DrawsOn i)) (offer env i p frame).run := by
  have marked : Holds (Keeps (σ := σ) (DrawsOn i)) (mark (.offered i frame)) :=
    DrawsOn.mark_draws (if_neg fun h => other h.2)
  unfold offer
  infer_instance

instance rejected_draws (device : DeviceHandle) (seq : UInt8) (f : Fault) :
    Holds (Keeps (σ := σ) (DrawsOn i)) (rejected i device seq f) := by
  unfold rejected
  infer_instance

instance pump_draws : Holds (Keeps (DrawsOn i)) (pump env i).run := by
  refine ⟨fun w => ?_⟩
  by_cases rests : (w.interface i).closed = true ∨ (w.interface i).inFlight.isSome ∨
      (w.interface i).queue = []
  · rw [pump_idles env rests]
    exact .refl w
  · simp only [not_or, Bool.not_eq_true, Option.isSome_eq_false_iff,
      Option.isNone_iff_eq_none] at rests
    obtain ⟨opened, idle, waits⟩ := rests
    obtain ⟨x, row, opened⟩ := World.find?_of_open opened
    rw [World.interface_of_find? row] at idle waits
    obtain ⟨data, rest, queue⟩ := List.exists_cons_of_ne_nil waits
    obtain ⟨seq, w₁, x₁, chronicle, row₁, queue₁, flying, same⟩ :=
      pump_launches env row opened idle queue
    have draws : (w.interface i).Draws (w₁.interface i) [] := by
      rw [World.interface_of_find? row, World.interface_of_find? row₁]
      refine ⟨fun data' among => .inl ?_, fun f' flying' => .inl (.inl ?_)⟩
      · rw [queue]
        exact .tail _ (queue₁ ▸ among)
      · obtain rfl := Option.some.inj (flying.symm.trans flying')
        rw [queue]
        exact .head _
    have sent := offer_draws env (.of_row chronicle draws) row₁ flying x.pipe
    rw [same, run_onFailure]
    generalize (offer env i x.pipe _).run.run w₁ = r at sent ⊢
    obtain ⟨result, w₂⟩ := r
    cases result with
    | ok => exact sent
    | error f => exact DrawsOn.watches.trans sent ((rejected_draws x.device seq f).holds w₂)

theorem retry_draws : Holds (Keeps (DrawsOn i)) (retry env i) := by
  refine ⟨fun w => ?_⟩
  have rests : DrawsOn i w w := .refl w
  unfold retry
  rw [run_bind, run_get]
  dsimp only
  split
  · exact rests
  · next opened =>
    obtain ⟨x, row, -⟩ := World.find?_of_open (Bool.eq_false_iff.mpr opened)
    rw [World.interface_of_find? row]
    cases flying : x.inFlight with
    | none => exact rests
    | some f =>
      dsimp only
      split
      · rw [run_bind, run_recover]
        have desk := launch_desk row { f with retries := f.retries + 1 }
        generalize ((launch i _).run w).2 = w₁ at desk ⊢
        have row₁ := congrArg Desk.row desk
        have draws : (w.interface i).Draws (w₁.interface i) [] := by
          rw [World.interface_of_find? row, World.interface_of_find? row₁]
          refine ⟨fun _ => .inl, ?_⟩
          rintro _ ⟨⟩
          exact .inr ⟨f, flying, rfl, rfl⟩
        have sent := offer_draws env (.of_row (congrArg Desk.chronicle desk) draws) row₁ rfl x.pipe
        dsimp only at sent
        generalize (offer env i x.pipe (ackFrame f.seq f.data)).run.run w₁ = r at sent ⊢
        obtain ⟨result, w₂⟩ := r
        cases result with
        | ok => exact sent
        | error fault =>
          have warned : Holds (Keeps (σ := σ) (DrawsOn i))
            (warnFailure i "Failed to send ack command" fault) := inferInstance
          exact DrawsOn.watches.trans sent (warned.holds w₂)
      · have spent : Holds (Keeps (DrawsOn i)) (do
            log .warn "Ack command not acknowledged, dropping"
              [("device", x.device.label), ("seq", Text.Decimal.render f.seq.toNat),
                ("retries", Text.Decimal.render f.retries)]
            clearFlight i
            recover (pump env i) (warnFailure i "Failed to send ack command")) := inferInstance
        exact spent.holds w

theorem enqueue_draws (row : w.interfaces.find? i = some x) (data : Bytes) :
    DrawsOn i w ((w.updateInterface i fun x => { x with queue := x.queue ++ [data] }).mark
      (.queued i data)) := by
  have chronicle := (w.updateInterface i fun x =>
    { x with queue := x.queue ++ [data] }).chronicle_mark (.queued i data)
  have desk := World.desk_update row fun x => { x with queue := x.queue ++ [data] }
  have row' : ((w.updateInterface i fun x => { x with queue := x.queue ++ [data] }).mark
      (.queued i data)).interface i = { x with queue := x.queue ++ [data] } :=
    World.interface_of_find? (congrArg Desk.row desk)
  refine ⟨_, chronicle.trans (congrArg (· ++ _) (congrArg Desk.chronicle desk)), nofun, ?_⟩
  rw [World.interface_of_find? row, row']
  refine ⟨fun data' among => ?_, fun f flying => .inr ⟨f, flying, rfl, rfl⟩⟩
  simpa [accepted, Occurrence.queued?] using among

theorem send_draws (c : Command) : Holds (Keeps (DrawsOn i)) (send env i c).run := by
  refine ⟨fun w => ?_⟩
  have rests : DrawsOn i w w := .refl w
  unfold send
  rw [run_lookThen]
  dsimp only
  cases c.delivery with
  | invalid => exact rests
  | nonAck =>
    have offered (seq : UInt8) : Holds (Keeps (DrawsOn i)) (offer env i (w.interface i).pipe
        { header := ⟨.data, BufferId.toDeviceNonAck, seq⟩, payload := c.data }).run :=
      offer_other _ Bool.false_ne_true
    have sending : Holds (Keeps (DrawsOn i)) (do
        if (w.interface i).closed then throw closedFault
        let seq ← act (drawSeq i BufferId.toDeviceNonAck)
        act (trace i .sent c)
        offer env i (w.interface i).pipe
          { header := ⟨.data, BufferId.toDeviceNonAck, seq⟩, payload := c.data } :
        Try σ Unit).run := inferInstance
    exact sending.holds w
  | ack =>
    cases opened : (w.interface i).closed with
    | true => exact rests
    | false =>
      obtain ⟨x, row, -⟩ := World.find?_of_open opened
      have rest : Holds (Keeps (DrawsOn i)) (do
          act (trace i .sent c)
          if (w.interface i).inFlight.isNone then pump env i : Try σ Unit).run := inferInstance
      simp only [Bool.false_eq_true, if_false, run_actThen, run_modify, run_mark]
      exact DrawsOn.watches.trans (enqueue_draws row c.data) (rest.holds _)

/-! ## Receiving -/

theorem answer_draws {frame : Frame} (complaint : String) (other : ¬frame.isCommand) :
    Holds (Keeps (DrawsOn i)) (answer env i frame complaint) := by
  have offered (p : PipeId) : Holds (Keeps (DrawsOn i)) (offer env i p frame).run :=
    offer_other p other
  unfold answer
  infer_instance

instance deliver_draws (payload : Bytes) :
    Holds (Keeps (DrawsOn i)) (deliver env i payload) := by
  have delivered (c : Command) : Holds (Keeps (σ := σ) (DrawsOn i)) (mark (.delivered i c)) :=
    DrawsOn.mark_draws rfl
  have handed (c : Command) : Holds (Keeps (DrawsOn i)) (hand env i c) := by
    unfold hand
    refine Holds.bind (h := fun _ => Holds.bind (h := fun w => ?_))
    cases (w.interface i).sink <;> infer_instance
  unfold deliver
  split <;> infer_instance

instance acknowledged_draws (seq : UInt8) : Holds (Keeps (DrawsOn i)) (acknowledged env i seq) := by
  unfold acknowledged
  infer_instance

omit [Upheld (Keeps (DrawsOn i)) env] in
theorem noteReceived_draws (buffer seq : UInt8) :
    Holds (Keeps (DrawsOn i)) (modifyGet fun w =>
      let (repeated, x) := (w.interface i).noteReceived buffer seq
      (repeated, w.updateInterface i fun _ => x) : Act σ Bool) :=
  DrawsOn.row_draws (g := fun x => (x.noteReceived buffer seq).2) (fun _ => rfl) fun _ => rfl

theorem receive_draws (frame : Frame) : Holds (Keeps (DrawsOn i)) (receive env i frame) := by
  have arrived : Holds (Keeps (σ := σ) (DrawsOn i)) (mark (.arrived i frame)) :=
    DrawsOn.mark_draws rfl
  have answered (place : Nat) : Holds (Keeps (σ := σ) (DrawsOn i)) (mark (.answered i place)) :=
    DrawsOn.mark_draws rfl
  have confirmed (seq : UInt8) : Holds (Keeps (DrawsOn i)) (answer env i
      { header := ⟨.ack, BufferId.ackOf frame.header.id, seq⟩, payload := [frame.header.seq] }
      "Failed to acknowledge frame") := answer_draws _ Bool.false_ne_true
  have ponged : Holds (Keeps (DrawsOn i)) (answer env i
      { header := ⟨.data, BufferId.pong, frame.header.seq⟩, payload := frame.payload }
      "Failed to answer ping") := answer_draws _ Bool.false_ne_true
  have noted := noteReceived_draws (σ := σ) (i := i) frame.header.id frame.header.seq
  unfold receive
  refine Holds.bind (h := fun w => ?_)
  dsimp only
  cases frame.header.kind with
  | ack => cases frame.payload <;> infer_instance
  | dataWithAck => infer_instance
  | data | lowLatency => infer_instance

end

end Interface

namespace DrawsOn

theorem close : Holds (Keeps (σ := σ) (DrawsOn i)) (Interface.close i) := by
  have shut : Holds (Keeps (σ := σ) (DrawsOn i))
      (modify (·.updateInterface i fun x => { x with closed := true, queue := [] })) :=
    update fun _ => ⟨fun _ => nofun, fun f flying => .inr ⟨f, flying, rfl, rfl⟩⟩
  have closed : Holds (Keeps (σ := σ) (DrawsOn i)) (DroneControl.mark (.closed i)) := mark_draws rfl
  unfold Interface.close
  infer_instance

theorem add (device : DeviceHandle) (pipe : PipeId) (sink : CommandSink)
    (traceCell : TraceCellId) : Keeps (σ := σ) (DrawsOn i) InterfaceId (modifyGet fun w =>
      let (i, interfaces) := w.interfaces.add { device, pipe, sink, traceCell }
      (i, { w with interfaces })) := by
  refine fun w => of_row rfl ?_
  simp only [World.interface, Table.get, run_modifyGet, Table.find?_add]
  split
  · exact .of_idle (fun _ => nofun) rfl
  · exact .of_same rfl rfl

instance interfaceLives : InterfaceLives (Keeps (σ := σ) (DrawsOn i)) :=
  Watches.interfaceLives add close

theorem together (_ : Upheld (Keeps (DrawsOn i)) env) : Together (Keeps (DrawsOn i)) env := by
  have : InterfaceCalls (Keeps (DrawsOn i)) env :=
    Watches.interfaceCalls Interface.send_draws Interface.receive_draws
  have : InterfaceRetries (Keeps (DrawsOn i)) env :=
    ⟨Watches.of_own Interface.retry_draws fun _ _ => Interface.retry_of_steps⟩
  have : LoopCalls (Keeps (DrawsOn i)) env := Loop.calls_of_steps
  exact Watches.together

end DrawsOn

theorem Hosted.draws_on (hosted : Hosted env) (w : World σ) {a : Act σ α}
    (calls : Reaction env α a) : DrawsOn i w (a.run w).2 := by
  have : Together (Keeps (DrawsOn i)) env := hosted.together fun _ u _ => DrawsOn.together u
  exact calls.holds (Q := Keeps (DrawsOn i)) w

/-! ## Sends that fail -/

/-- What an interface takes into its queue when it is to send a command. -/
def Interface.takes (x : Interface) (c : Command) : List Bytes :=
  if x.closed = false ∧ c.delivery = .ack then [c.data] else []

/-- What a call has taken to be sent is not sent after the call: whatever is, had been on hand
before, or is taken by another call. -/
structure Abandons (i : InterfaceId) (taken : List Bytes) (w w' : World σ) (others : List Bytes) :
    Prop where
  history : ∃ more, w'.chronicle = w.chronicle ++ more ∧ accepted i more = taken ++ others
  onHand : ∀ data ∈ (w'.interface i).onHand, data ∈ (w.interface i).onHand ∨ data ∈ others
  later : ∀ (env : Env σ), Hosted env → ∀ (α : Type) (a : Act σ α), Reaction env α a →
    ∃ later, (a.run w').2.chronicle = w'.chronicle ++ later ∧ ∀ data ∈ attempted i later,
      data ∈ (w.interface i).onHand ∨ data ∈ others ∨ data ∈ accepted i later

theorem Abandons.of_onHand {taken others : List Bytes} {passed : List Happening}
    (grown : w'.chronicle = w.chronicle ++ passed) (both : accepted i passed = taken ++ others)
    (onHand : ∀ data ∈ (w'.interface i).onHand, data ∈ (w.interface i).onHand ∨ data ∈ others) :
    Abandons i taken w w' others where
  history := ⟨passed, grown, both⟩
  onHand := onHand
  later env hosted α a calls := by
    obtain ⟨later, drawn⟩ := hosted.draws_on (i := i) w' calls
    refine ⟨later, drawn.grown, fun data among => ?_⟩
    rw [← or_assoc]
    exact (drawn.attempts data among).imp_left (onHand data)

namespace Interface

section

variable [Upheld (Keeps (DrawsOn i)) env]

theorem pump_fails (row : w.interfaces.find? i = some x) (opened : x.closed = false)
    (idle : x.inFlight = none) {data : Bytes} (queue : x.queue = [data]) {f : Fault}
    (failed : (pump env i).run.run w = (.error f, w')) :
    ∃ more, w'.chronicle = w.chronicle ++ more ∧
      ∀ data ∈ (w'.interface i).onHand, data ∈ accepted i more := by
  obtain ⟨seq, w₁, x₁, chronicle, row₁, queue₁, flying, same⟩ :=
    pump_launches env row opened idle queue
  obtain ⟨more, drawn⟩ := offer_draws env (.refl w₁) row₁ flying x.pipe
  rw [same, run_onFailure] at failed
  generalize (offer env i x.pipe _).run.run w₁ = r at drawn failed
  obtain ⟨result, w₂⟩ := r
  have drawn : DrawsMeanwhile i w₁ w₂ more := drawn
  have waits : ∀ data ∈ (w₂.interface i).queue, data ∈ accepted i more := fun data among => by
    simpa [World.interface_of_find? row₁, queue₁] using drawn.row.queue data among
  have grown := drawn.grown
  rw [chronicle] at grown
  cases result with
  | ok => cases failed
  | error fault =>
    obtain ⟨-, rfl⟩ := Prod.mk.inj failed
    unfold rejected
    rw [run_bind, run_get]
    dsimp only
    split
    · next awaited =>
      obtain ⟨x₂, -, row₂, -, -⟩ := awaits_iff_flying.mp awaited
      have desk := clearFlight_desk row₂
      rw [run_bind, run_log]
      generalize ((clearFlight i).run w₂).2 = w₃ at desk ⊢
      have logged := (w₃.desk_log i .warn "Ack command rejected by transport, dropping"
        [("device", x.device.label), ("seq", Text.Decimal.render seq.toNat),
          ("error", fault.message)]).trans desk
      refine ⟨more, (congrArg Desk.chronicle logged).trans grown, fun data among => ?_⟩
      rw [World.interface_of_find? (congrArg Desk.row logged)] at among
      refine waits data ?_
      rw [World.interface_of_find? row₂]
      simpa [onHand] using among
    · next other =>
      refine ⟨more, grown, fun data among => ?_⟩
      rcases mem_onHand.mp among with ⟨f', flying', rfl⟩ | waiting
      · rcases drawn.row.flight f' flying' with waited | ⟨g, flew, seq', -⟩
        · simpa [World.interface_of_find? row₁, queue₁] using waited
        · rw [World.interface_of_find? row₁, flying] at flew
          obtain rfl := Option.some.inj flew
          refine absurd ?_ other
          simp [awaits, show (w₂.interface i).inFlight = some f' from flying', seq']
      · exact waits data waiting

variable (env) in
omit [Upheld (Keeps (DrawsOn i)) env] in
theorem send_takes (row : w.interfaces.find? i = some x) (opened : x.closed = false) {c : Command}
    (delivery : c.delivery = .ack) : ∃ w₁,
    w₁.desk i =
      { w.desk i with
        row := some { x with queue := x.queue ++ [c.data] }
        chronicle := w.chronicle ++ [⟨w.loop.clock, .queued i c.data⟩] } ∧
      (send env i c).run.run w =
        if x.inFlight.isNone then (pump env i).run.run w₁ else (.ok (), w₁) := by
  have taken := World.desk_update row fun x => { x with queue := x.queue ++ [c.data] }
  unfold send
  rw [run_lookThen, World.interface_of_find? row]
  dsimp only
  rw [delivery]
  dsimp only
  rw [if_neg (Bool.eq_false_iff.mp opened), run_actThen, run_modify, run_actThen, run_mark]
  dsimp only
  generalize w.updateInterface i (fun x => { x with queue := x.queue ++ [c.data] }) = w₁ at taken ⊢
  have desk := w₁.desk_mark i (.queued i c.data)
  rw [taken, show w₁.chronicle = w.chronicle from congrArg Desk.chronicle taken,
    show w₁.loop = w.loop from congrArg Desk.loop taken] at desk
  refine ⟨_, (trace_desk i i .sent c (w₁.mark (.queued i c.data))).trans desk, ?_⟩
  split <;> rfl

theorem send_abandons {c : Command} {f : Fault}
    (failed : (send env i c).run.run w = (.error f, w'))
    (clear : (w.interface i).takes c = [] ∨ (w.interface i).queue = []) :
    ∃ more others, w'.chronicle = w.chronicle ++ more ∧
      accepted i more = (w.interface i).takes c ++ others ∧
      ∀ data ∈ (w'.interface i).onHand, data ∈ (w.interface i).onHand ∨ data ∈ others := by
  by_cases taking : (w.interface i).closed = false ∧ c.delivery = .ack
  · obtain ⟨opened, delivery⟩ := taking
    obtain ⟨x, row, open'⟩ := World.find?_of_open opened
    obtain ⟨w₁, desk, same⟩ := send_takes env row open' delivery
    have taken : (w.interface i).takes c = [c.data] := if_pos ⟨opened, delivery⟩
    have empty : x.queue = [] := by
      rw [taken, World.interface_of_find? row] at clear
      exact clear.resolve_left (List.cons_ne_nil _ _)
    rw [same] at failed
    cases flying : x.inFlight with
    | some g =>
      rw [flying] at failed
      cases failed
    | none =>
      rw [flying] at failed
      have sole : x.queue ++ [c.data] = [c.data] := by rw [empty, List.nil_append]
      obtain ⟨more, grown, onHand⟩ := pump_fails (congrArg Desk.row desk) open' flying sole failed
      refine ⟨⟨w.loop.clock, .queued i c.data⟩ :: more, accepted i more, ?_, ?_,
        fun data among => .inr (onHand data among)⟩
      · rw [grown, show w₁.chronicle = _ from congrArg Desk.chronicle desk]
        simp
      · rw [taken]
        simp [accepted, Occurrence.queued?]
  · obtain ⟨more, drawn⟩ := (send_draws c : Holds (Keeps (DrawsOn i)) (send env i c).run).holds w
    rw [failed] at drawn
    refine ⟨more, accepted i more, drawn.grown, ?_, fun data => drawn.row.onHand⟩
    rw [takes, if_neg taking]
    rfl

end

/-! ## Transports that do not call back -/

def Undisturbed (w w' : World σ) : Prop := w'.interfaces = w.interfaces

theorem offer_undisturbed (mute : Mute env) (p : PipeId) (frame : Frame) :
    Holds (Keeps Undisturbed) (offer env i p frame).run := by
  have closed : Closed (Keeps (σ := σ) Undisturbed) :=
    Keeps.closed (fun _ => rfl) fun h h' => h'.trans h
  have marked (o : Occurrence) : Holds (Keeps (σ := σ) Undisturbed) (mark o) := ⟨fun _ => rfl⟩
  have logged (s : Severity) (message : String) (fields : List (String × String)) :
      Holds (Keeps (σ := σ) Undisturbed) (log s message fields) := by
    refine ⟨fun w => ?_⟩
    rw [run_log, Undisturbed, World.log]
    split <;> rfl
  have asked (link : Link) : Holds (Keeps Undisturbed) (env.ask (.sendFrame link frame)).run := by
    refine ⟨fun w => ?_⟩
    obtain ⟨host, journal, same⟩ := mute.run_sendFrame link frame w
    rw [same]
    rfl
  have sent : Holds (Keeps Undisturbed) (Pipe.send env p frame).run := by
    unfold Pipe.send
    dsimp only
    infer_instance
  unfold offer
  infer_instance

theorem pump_drops (mute : Mute env) (row : w.interfaces.find? i = some x)
    (opened : x.closed = false) (idle : x.inFlight = none) {f : Fault}
    (failed : (pump env i).run.run w = (.error f, w')) :
    (w'.interface i).inFlight = none ∧ (w'.interface i).queue = x.queue.tail := by
  cases queue : x.queue with
  | nil =>
    rw [pump_idles env (.inr (.inr (World.interface_of_find? row ▸ queue)))] at failed
    cases failed
  | cons data rest =>
    obtain ⟨seq, w₁, x₁, -, row₁, queue₁, flying, same⟩ := pump_launches env row opened idle queue
    have still := (offer_undisturbed (i := i) mute x.pipe (ackFrame seq data)).holds w₁
    rw [same, run_onFailure] at failed
    generalize (offer env i x.pipe _).run.run w₁ = r at still failed
    obtain ⟨result, w₂⟩ := r
    have row₂ : w₂.interfaces.find? i = some x₁ := by
      rw [show w₂.interfaces = w₁.interfaces from still, row₁]
    cases result with
    | ok => cases failed
    | error fault =>
      obtain ⟨-, rfl⟩ := Prod.mk.inj failed
      have awaited : (w₂.interface i).awaits seq :=
        awaits_iff_flying.mpr ⟨x₁, _, row₂, flying, rfl⟩
      have desk := clearFlight_desk row₂
      unfold rejected
      rw [run_bind, run_get]
      dsimp only
      rw [if_pos awaited, run_bind, run_log]
      have logged := (((clearFlight i).run w₂).2.desk_log i .warn
        "Ack command rejected by transport, dropping"
        [("device", x.device.label), ("seq", Text.Decimal.render seq.toNat),
          ("error", fault.message)]).trans desk
      rw [World.interface_of_find? (congrArg Desk.row logged)]
      exact ⟨rfl, queue₁⟩

theorem send_drops (mute : Mute env) {c : Command} {f : Fault}
    (failed : (send env i c).run.run w = (.error f, w')) :
    let x := w.interface i
    let x' := w'.interface i
    x'.inFlight = x.inFlight ∧ x'.queue = (x.queue ++ x.takes c).drop (x.takes c).length := by
  dsimp only
  by_cases taking : (w.interface i).closed = false ∧ c.delivery = .ack
  · obtain ⟨opened, delivery⟩ := taking
    obtain ⟨x, row, open'⟩ := World.find?_of_open opened
    obtain ⟨w₁, desk, same⟩ := send_takes env row open' delivery
    have taken : (w.interface i).takes c = [c.data] := if_pos ⟨opened, delivery⟩
    rw [same] at failed
    rw [taken, World.interface_of_find? row]
    cases flying : x.inFlight with
    | some g =>
      rw [flying] at failed
      cases failed
    | none =>
      rw [flying] at failed
      obtain ⟨idle, rest⟩ := pump_drops mute (congrArg Desk.row desk) open' flying failed
      exact ⟨idle, rest.trans List.drop_one.symm⟩
  · have untouched : (w'.interface i).inFlight = (w.interface i).inFlight ∧
        (w'.interface i).queue = (w.interface i).queue := by
      have outcome : ((send env i c).run.run w).2 = w' := congrArg Prod.snd failed
      by_cases closed : (w.interface i).closed = true
      · rw [← outcome, Interface.send_closed c w closed]
        exact ⟨rfl, rfl⟩
      · obtain ⟨x, row, opened⟩ := World.find?_of_open (Bool.eq_false_iff.mpr closed)
        rw [World.interface_of_find? row] at taking ⊢
        rw [← outcome]
        unfold send
        rw [run_lookThen, World.interface_of_find? row]
        dsimp only
        cases delivery : c.delivery with
        | ack => exact absurd ⟨opened, delivery⟩ taking
        | invalid => exact World.interface_of_find? row ▸ ⟨rfl, rfl⟩
        | nonAck =>
          obtain ⟨-, drawn⟩ := drawSeq_desk row BufferId.toDeviceNonAck
          dsimp only
          rw [if_neg (Bool.eq_false_iff.mp opened), run_actThen, run_actThen]
          generalize (drawSeq i BufferId.toDeviceNonAck).run w = r at drawn ⊢
          obtain ⟨seq, w₁⟩ := r
          have traced := (trace_desk i i .sent c w₁).trans drawn
          dsimp only
          generalize ((trace i .sent c).run w₁).2 = w₂ at traced ⊢
          have still := (offer_undisturbed (i := i) mute x.pipe
            { header := ⟨.data, BufferId.toDeviceNonAck, seq⟩, payload := c.data }).holds w₂
          generalize ((offer env i x.pipe _).run.run w₂).2 = w₃ at still ⊢
          have row₃ : w₃.interfaces.find? i = some (x.takeSeq BufferId.toDeviceNonAck).2 := by
            rw [show w₃.interfaces = w₂.interfaces from still]
            exact congrArg Desk.row traced
          rw [World.interface_of_find? row₃]
          exact ⟨rfl, rfl⟩
    rw [takes, if_neg taking, List.append_nil]
    exact untouched

end Interface

/-- A send that fails keeps nothing of its command: unless commands had been left in the queue with
none in flight, no attempt is made at it from then on, whatever calls are made.  If the transport
does not call back, what is in flight is as before, and so is the queue, but for the first of the
commands that had been left: it is the one that was refused, and the new command waits in its place.
-/
theorem Hosted.send_fails (hosted : Hosted env) {c : Command} {f : Fault}
    (failed : (Interface.send env i c).run.run w = (.error f, w')) :
    ((w.interface i).takes c = [] ∨ (w.interface i).queue = [] →
      ∃ others, Abandons i ((w.interface i).takes c) w w' others) ∧
    (Mute env →
      let x := w.interface i
      let x' := w'.interface i
      x'.inFlight = x.inFlight ∧ x'.queue = (x.queue ++ x.takes c).drop (x.takes c).length) := by
  refine ⟨fun clear => ?_, fun mute => Interface.send_drops mute failed⟩
  have : Together (Keeps (DrawsOn i)) env := hosted.together fun _ u _ => DrawsOn.together u
  obtain ⟨more, others, grown, both, onHand⟩ := Interface.send_abandons failed clear
  exact ⟨others, .of_onHand grown both onHand⟩

def busyHost : Env Unit :=
  { silentHost with ask := fun _ => throw (.transport "link busy") }

theorem busyHost_hosted : Hosted busyHost := by
  refine .innermost ⟨?_, ?_, ?_, ?_, ?_, ?_⟩ ?_
  all_goals intros; exact .pure _

theorem busyHost_mute : Mute busyHost := by
  refine .innermost ⟨?_, ?_, ?_, ?_, ?_, ?_⟩ ?_
  all_goals intros; exact .pure _

def quietPost : Act Unit InterfaceId := do
  let p ← Pipe.create (.supplied ⟨1⟩)
  let _ ← (Pipe.start silentHost p).run
  Interface.create ⟨1⟩ p (.listener ⟨1⟩) ⟨1⟩

theorem quietPost_send_fails :
    let w := (quietPost.run { host := () }).2
    let c := (Command.encode default 0 []).withDelivery .ack
    let w' := ((Interface.send busyHost ⟨1⟩ c).run.run w).2
    ((w.interface ⟨1⟩).takes c = [c.data] ∧ attempted ⟨1⟩ w'.chronicle = [c.data]) ∧
    (∃ others, Abandons ⟨1⟩ [c.data] w w' others) ∧
    (w'.interface ⟨1⟩).inFlight = none ∧ (w'.interface ⟨1⟩).queue = [] := by
  intro w c w'
  have refused :
      ((Interface.send busyHost ⟨1⟩ c).run.run w).1 = .error (.transport "link busy") := by
    decide +kernel
  have failed : (Interface.send busyHost ⟨1⟩ c).run.run w = (.error (.transport "link busy"), w') :=
    Prod.ext refused rfl
  have taken : (w.interface ⟨1⟩).takes c = [c.data] := by decide +kernel
  obtain ⟨clear, exact⟩ := busyHost_hosted.send_fails failed
  refine ⟨⟨taken, by decide +kernel⟩, taken ▸ clear (.inr (by decide +kernel)), ?_⟩
  obtain ⟨flight, queue⟩ := exact busyHost_mute
  rw [flight, queue]
  decide +kernel

end DroneControl
