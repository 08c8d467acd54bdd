import DroneControl.Proofs.Interface.Failing
import DroneControl.Proofs.Interface.Numbers

/-!
# Numbers are taken in turn

The row of an open interface agrees with the roll that its history reads as: the counter of each
buffer stands at the last number on it, what waits is in the queue, and what is in flight is the
latest command.  A number is taken and its frame offered with nothing in between, so every operation
leaves a row that agrees, whoever is called after that.
-/

set_option synthInstance.maxSize 2048

namespace DroneControl

variable {σ α : Type} {i : InterfaceId} {w w' w₁ : World σ} {env : Env σ} {x x' : Interface}
  {r r' : Roll} {d : Desk}

/-! ## Rows and rolls -/

/-- The row says what the roll says. -/
structure Interface.Agrees (x : Interface) (r : Roll) : Prop where
  queue : x.queue = r.waiting
  numbers : ∀ b, x.lastSent b + 1 = r.next b
  flight : ∀ f, x.inFlight = some f → ∃ first,
    (commandsOf r.fresh).getLast? = some (first, Interface.ackFrame f.seq f.data)

/-- The history reads as the roll, and the row of the open interface agrees with it. -/
structure Desk.Counts (i : InterfaceId) (d : Desk) (r : Roll) : Prop where
  reads : r.Reads i d.chronicle
  made : d.row.isSome → i.number < d.next
  unmade : d.next ≤ i.number → r = {}
  agrees : ∀ x, d.row = some x → x.closed = false → x.Agrees r

namespace Interface.Agrees

theorem enqueue (agrees : x.Agrees r) (data : Bytes) :
    { x with queue := x.queue ++ [data] }.Agrees (r.enqueue data) where
  queue := congrArg (· ++ [data]) agrees.queue
  numbers := agrees.numbers
  flight := agrees.flight

theorem numbers_take (agrees : x.Agrees r) (place : Nat) (frame : Frame) (b : UInt8) :
    (x.takeSeq frame.header.id).2.lastSent b + 1 = (r.take place frame).next b := by
  simp only [takeSeq]
  split
  · next same =>
    subst same
    rw [Roll.next_take_same, agrees.numbers]
  · next other =>
    rw [Roll.next_take_other r place (Ne.symm other)]
    exact agrees.numbers b

theorem take (agrees : x.Agrees r) (place : Nat) (frame : Frame) (plain : ¬frame.isCommand) :
    (x.takeSeq frame.header.id).2.Agrees (r.take place frame) where
  queue := agrees.queue
  numbers := agrees.numbers_take place frame
  flight f flying := by
    rw [Roll.commandsOf_take, if_neg plain, List.append_nil]
    exact agrees.flight f flying

theorem begin (agrees : x.Agrees r) (place : Nat) (data : Bytes) {rest : List Bytes}
    (queue : x'.queue = rest) (flight : x'.inFlight = some ⟨r.next BufferId.toDeviceAck, data, 0⟩)
    (numbers : x'.lastSent = (x.takeSeq BufferId.toDeviceAck).2.lastSent) :
    x'.Agrees ({ r with waiting := rest }.take place
      (ackFrame (r.next BufferId.toDeviceAck) data)) where
  queue := queue
  numbers b := by
    rw [numbers]
    exact agrees.numbers_take place (ackFrame (r.next BufferId.toDeviceAck) data) b
  flight f flying := by
    obtain rfl := Option.some.inj (flight.symm.trans flying)
    refine ⟨place, ?_⟩
    rw [Roll.commandsOf_take, if_pos (by rfl)]
    exact List.getLast?_concat

end Interface.Agrees

namespace Desk.Counts

theorem aside (counts : d.Counts i r) {y : Happening} (ignores : Roll.Ignores i y.what) :
    { d with chronicle := d.chronicle ++ [y] }.Counts i r :=
  { counts with reads := .entry counts.reads (.aside r ignores) }

theorem replace (counts : d.Counts i r) (there : d.row = some x)
    (agrees : x'.closed = false → x.closed = false ∧ (x.Agrees r → x'.Agrees r)) (loop : Loop) :
    { d with row := some x', loop }.Counts i r where
  reads := counts.reads
  made _ := counts.made (by simp [there])
  unmade := counts.unmade
  agrees _ is opened := by
    obtain rfl := Option.some.inj is
    obtain ⟨before, still⟩ := agrees opened
    exact still (counts.agrees x there before)

theorem step (counts : d.Counts i r) (there : d.row = some x) {xs : List Happening}
    (step : Roll.Step i d.chronicle.length xs r r') (agrees : x'.Agrees r') (loop : Loop) :
    { d with row := some x', chronicle := d.chronicle ++ xs, loop }.Counts i r' where
  reads := .entry counts.reads step
  made _ := counts.made (by simp [there])
  unmade new := absurd (counts.made (by simp [there])) (Nat.not_lt.mpr new)
  agrees _ is _ := by
    obtain rfl := Option.some.inj is
    exact agrees

theorem create (counts : d.Counts i r) (new : d.next = i.number) (device : DeviceHandle)
    (pipe : PipeId) (sink : CommandSink) (traceCell : TraceCellId) :
    { d with next := d.next + 1, row := some { device, pipe, sink, traceCell } }.Counts i r := by
  obtain rfl := counts.unmade new.le
  refine ⟨counts.reads, fun _ => by simp [new], fun later => absurd later (by simp [new]), ?_⟩
  rintro _ ⟨⟩ -
  exact ⟨rfl, fun _ => show (255 : UInt8) + 1 = UInt8.ofNat 0 by decide, nofun⟩

end Desk.Counts

/-! ## Worlds -/

def World.Counted (w : World σ) (i : InterfaceId) : Prop := ∃ r, (w.desk i).Counts i r

def CountsOn (i : InterfaceId) (w w' : World σ) : Prop := w.Counted i → w'.Counted i

theorem World.Counted.of_desk (desk : w.desk i = d) (counts : d.Counts i r) : w.Counted i := by
  subst desk
  exact ⟨r, counts⟩

theorem Desk.Counts.counted (counts : d.Counts i r) (there : d.row = some x)
    {xs : List Happening} {loop : Loop}
    (desk : w.desk i = { d with row := some x', chronicle := d.chronicle ++ xs, loop })
    (step : Roll.Step i d.chronicle.length xs r r') (agrees : x'.Agrees r') : w.Counted i :=
  .of_desk desk (counts.step there step agrees loop)

theorem World.desk_marked (desk : w.desk i = d) (o : Occurrence) :
    (w.mark o).desk i =
      { d with chronicle := d.chronicle ++ [(⟨w.loop.clock, o⟩ : Happening)] } := by
  subst desk
  exact w.desk_mark i o

theorem Roll.Reads.append_aside {chronicle more : List Happening} (reads : r.Reads i chronicle)
    (aside : ∀ y ∈ more, Roll.Ignores i y.what) : r.Reads i (chronicle ++ more) := by
  induction more generalizing chronicle with
  | nil =>
    rw [List.append_nil]
    exact reads
  | cons y more ih =>
    have first : r.Reads i (chronicle ++ [y]) := .entry reads (.aside r (aside y (.head _)))
    have rest := ih first fun y' among => aside y' (.tail _ among)
    rwa [List.append_assoc] at rest

theorem Roll.ignores_of_aside {o : Occurrence} (aside : ¬o.concerns i) : Roll.Ignores i o := by
  cases o with
  | queued i' data => exact aside
  | offered i' frame => exact aside
  | arrived i' frame => exact fun same => absurd same aside
  | _ => trivial

theorem Spares.counts (spares : Spares i w w') (counts : (w.desk i).Counts i r) :
    (w'.desk i).Counts i r := by
  obtain ⟨more, history, aside⟩ := spares.history
  have chronicle : w'.chronicle = w.chronicle ++ more.reverse := by
    simp [World.chronicle, history]
  refine ⟨?_, fun there => ?_, fun new => counts.unmade (spares.known.trans new), ?_⟩
  · change r.Reads i w'.chronicle
    rw [chronicle]
    exact counts.reads.append_aside fun y among =>
      Roll.ignores_of_aside (aside y (List.mem_reverse.mp among))
  · obtain ⟨x', row'⟩ := Option.isSome_iff_exists.mp there
    exact Table.lt_next row'
  · intro x' row' opened
    obtain ⟨x, row, same⟩ := spares.row x' row'
    rw [same] at opened ⊢
    exact { counts.agrees x row opened with }

namespace CountsOn

instance watches : Watches (σ := σ) i (CountsOn i) where
  spares spares counted := counted.imp fun _ counts => spares.counts counts
  trans first second counted := second (first counted)

theorem mark_counts {o : Occurrence} (ignores : Roll.Ignores i o) :
    Holds (Keeps (σ := σ) (CountsOn i)) (mark o) := by
  refine ⟨fun w ⟨r, counts⟩ => ?_⟩
  rw [run_mark]
  exact .of_desk (w.desk_mark i o) (counts.aside ignores)

instance refused_counts (place : Nat) :
    Holds (Keeps (σ := σ) (CountsOn i)) (mark (.refused i place)) := mark_counts trivial

instance answered_counts (place : Nat) :
    Holds (Keeps (σ := σ) (CountsOn i)) (mark (.answered i place)) := mark_counts trivial

instance overlooksLoop : OverlooksLoop (Keeps (σ := σ) (CountsOn i)) where
  change _ _ := fun ⟨r, counts⟩ => ⟨r, { counts with }⟩
  beats turn := (mark_counts (o := .beats turn) trivial).holds

theorem row_counts {f : World σ → α} {g : Interface → Interface}
    (agrees : ∀ x r, (g x).closed = false → x.closed = false ∧ (x.Agrees r → (g x).Agrees r)) :
    Holds (Keeps (CountsOn i))
      (modifyGet fun w => (f w, w.updateInterface i fun _ => g (w.interface i)) : Act σ α) := by
  refine ⟨fun w ⟨r, counts⟩ => ?_⟩
  rw [run_modifyGet]
  cases row : (w.desk i).row with
  | none => exact .of_desk (World.desk_update_of_none row _) counts
  | some x =>
    rw [World.interface_of_find? row]
    exact .of_desk (World.desk_update row _) (counts.replace row (agrees x r) w.loop)

theorem update_counts {g : Interface → Interface}
    (agrees : ∀ x r, (g x).closed = false → x.closed = false ∧ (x.Agrees r → (g x).Agrees r)) :
    Holds (Keeps (σ := σ) (CountsOn i)) (modify (·.updateInterface i g)) := by
  refine ⟨fun w ⟨r, counts⟩ => ?_⟩
  rw [run_modify]
  cases row : (w.desk i).row with
  | none => exact .of_desk (World.desk_update_of_none row _) counts
  | some x => exact .of_desk (World.desk_update row _) (counts.replace row (agrees x r) w.loop)

instance setTimer_counts (timer : Option TimerId) :
    Holds (Keeps (σ := σ) (CountsOn i)) (Interface.setTimer i timer) := by
  have placed : Holds (Keeps (σ := σ) (CountsOn i))
      (modify (·.updateInterface i fun x => { x with retryTimer := timer })) :=
    update_counts fun _ _ opened => ⟨opened, fun agrees => { agrees with }⟩
  have canceled : ∀ t, Holds (Keeps (σ := σ) (CountsOn i)) (cancelTimer? t) := LoopSteps.cancel?
  unfold Interface.setTimer
  infer_instance

instance clearFlight_counts : Holds (Keeps (σ := σ) (CountsOn i)) (Interface.clearFlight i) := by
  have cleared : Holds (Keeps (σ := σ) (CountsOn i))
      (modify (·.updateInterface i fun x => { x with inFlight := none })) :=
    update_counts fun _ _ opened => ⟨opened, fun agrees => { agrees with flight := nofun }⟩
  unfold Interface.clearFlight
  infer_instance

end CountsOn

namespace Interface

section

variable [Upheld (Keeps (CountsOn i)) env]

/-! ## Sending, and sending again -/

variable (env) in
theorem offer_counts (p : PipeId) {frame : Frame}
    (marked : (w.mark (.offered i frame)).Counted i) :
    ((offer env i p frame).run.run w).2.Counted i := by
  have sending : Holds (Keeps (CountsOn i)) (onFailure (Pipe.send env p frame)
      fun _ => mark (.refused i w.history.length)).run := inferInstance
  unfold offer
  rw [run_lookThen, run_actThen, run_mark]
  exact sending.holds _ marked

instance rejected_counts (device : DeviceHandle) (seq : UInt8) (f : Fault) :
    Holds (Keeps (σ := σ) (CountsOn i)) (rejected i device seq f) := by
  unfold rejected
  infer_instance

instance pump_counts : Holds (Keeps (CountsOn i)) (pump env i).run := by
  refine ⟨fun w counted => ?_⟩
  by_cases rests : (w.interface i).closed = true ∨ (w.interface i).inFlight.isSome ∨
      (w.interface i).queue = []
  · rw [pump_idles env rests]
    exact counted
  · simp only [not_or, Bool.not_eq_true, Option.isSome_eq_false_iff,
      Option.isNone_iff_eq_none] at rests
    obtain ⟨opened, idle, waits⟩ := rests
    obtain ⟨x, row, opened⟩ := World.find?_of_open opened
    rw [World.interface_of_find? row] at idle waits
    obtain ⟨data, rest, queue⟩ := List.exists_cons_of_ne_nil waits
    obtain ⟨r, counts⟩ := counted
    have agrees := counts.agrees x row opened
    obtain ⟨w₁, desk, same⟩ :=
      pump_begins env row opened idle queue (agrees.numbers BufferId.toDeviceAck)
    have marked : (w₁.mark (.offered i (ackFrame (r.next BufferId.toDeviceAck) data))).Counted i :=
      counts.counted row (World.desk_marked desk _) (.begin _ (agrees.queue ▸ queue))
        (agrees.begin _ data rfl rfl rfl)
    have sent := offer_counts env x.pipe marked
    rw [same, run_onFailure]
    generalize (offer env i x.pipe _).run.run w₁ = p at sent ⊢
    obtain ⟨result, w₂⟩ := p
    cases result with
    | ok => exact sent
    | error f =>
      exact (rejected_counts x.device (r.next BufferId.toDeviceAck) f).holds w₂ sent

variable (env) in
theorem attempt_counts (p : PipeId) {frame : Frame} (message : String)
    (marked : (w.mark (.offered i frame)).Counted i) :
    ((recover (offer env i p frame) (warnFailure i message)).run w).2.Counted i := by
  have sent := offer_counts env p marked
  rw [run_recover]
  generalize (offer env i p frame).run.run w = p at sent ⊢
  obtain ⟨result, w₁⟩ := p
  cases result with
  | ok => exact sent
  | error f =>
    have warned : Holds (Keeps (σ := σ) (CountsOn i)) (warnFailure i message f) := inferInstance
    exact warned.holds w₁ sent

theorem retry_counts : Holds (Keeps (CountsOn i)) (retry env i) := by
  refine ⟨fun w counted => ?_⟩
  unfold retry
  rw [run_bind, run_get]
  dsimp only
  split
  · exact counted
  · next opened =>
    obtain ⟨x, row, opened⟩ := World.find?_of_open (Bool.eq_false_iff.mpr opened)
    rw [World.interface_of_find? row]
    cases flying : x.inFlight with
    | none => exact counted
    | some f =>
      dsimp only
      split
      · obtain ⟨r, counts⟩ := counted
        have agrees := counts.agrees x row opened
        obtain ⟨first, latest⟩ := agrees.flight f flying
        have desk := launch_desk row { f with retries := f.retries + 1 }
        rw [run_bind]
        generalize ((launch i _).run w).2 = w₁ at desk ⊢
        have marked : (w₁.mark (.offered i (ackFrame f.seq f.data))).Counted i := by
          refine counts.counted row (World.desk_marked desk _) (.again _ latest)
            { agrees with flight := ?_ }
          rintro _ ⟨⟩
          exact ⟨first, latest⟩
        exact attempt_counts env x.pipe _ marked
      · have spent : Holds (Keeps (CountsOn i)) (do
            log .warn "Ack command not acknowledged, dropping"
              [("device", x.device.label), ("seq", Text.Decimal.render f.seq.toNat),
                ("retries", Text.Decimal.render f.retries)]
            clearFlight i
            recover (pump env i) (warnFailure i "Failed to send ack command")) := inferInstance
        exact spent.holds w counted

theorem send_counts (c : Command) : Holds (Keeps (CountsOn i)) (send env i c).run := by
  refine ⟨fun w counted => ?_⟩
  unfold send
  rw [run_lookThen]
  dsimp only
  cases c.delivery with
  | invalid => exact counted
  | nonAck =>
    cases opened : (w.interface i).closed with
    | true => exact counted
    | false =>
      obtain ⟨x, row, opened⟩ := World.find?_of_open opened
      obtain ⟨r, counts⟩ := counted
      have agrees := counts.agrees x row opened
      obtain ⟨number, drawn⟩ := drawSeq_desk row BufferId.toDeviceNonAck
      have number := number.trans (agrees.numbers BufferId.toDeviceNonAck)
      simp only [Bool.false_eq_true, if_false, run_actThen]
      generalize (drawSeq i BufferId.toDeviceNonAck).run w = p at number drawn ⊢
      obtain ⟨seq, w₁⟩ := p
      obtain rfl : seq = r.next BufferId.toDeviceNonAck := number
      have traced := (trace_desk i i .sent c w₁).trans drawn
      refine offer_counts env _ (counts.counted row (World.desk_marked traced _) (.once r _ c.data) ?_)
      exact agrees.take _ (onceFrame _ c.data) Bool.false_ne_true
  | ack =>
    cases opened : (w.interface i).closed with
    | true => exact counted
    | false =>
      obtain ⟨x, row, opened⟩ := World.find?_of_open opened
      obtain ⟨r, counts⟩ := counted
      have agrees := counts.agrees x row opened
      have rest : Holds (Keeps (CountsOn i)) (do
          act (trace i .sent c)
          if (w.interface i).inFlight.isNone then pump env i : Try σ Unit).run := inferInstance
      simp only [Bool.false_eq_true, if_false, run_actThen, run_modify, run_mark]
      have waits := World.desk_update row fun x => { x with queue := x.queue ++ [c.data] }
      exact rest.holds _ (counts.counted row (World.desk_marked waits _) (.queued r _ c.data)
        (agrees.enqueue c.data))

/-! ## Receiving -/

instance deliver_counts (payload : Bytes) : Holds (Keeps (CountsOn i)) (deliver env i payload) := by
  have delivered (c : Command) : Holds (Keeps (σ := σ) (CountsOn i)) (mark (.delivered i c)) :=
    CountsOn.mark_counts trivial
  have handed (c : Command) : Holds (Keeps (CountsOn i)) (hand env i c) := by
    unfold hand
    refine Holds.bind (h := fun _ => Holds.bind (h := fun w => ?_))
    cases (w.interface i).sink <;> infer_instance
  unfold deliver
  split <;> infer_instance

instance acknowledged_counts (seq : UInt8) :
    Holds (Keeps (CountsOn i)) (acknowledged env i seq) := by
  unfold acknowledged
  infer_instance

omit [Upheld (Keeps (CountsOn i)) env] in
instance noteReceived_counts (buffer seq : UInt8) :
    Holds (Keeps (CountsOn i)) (modifyGet fun w =>
      let (repeated, x) := (w.interface i).noteReceived buffer seq
      (repeated, w.updateInterface i fun _ => x) : Act σ Bool) :=
  CountsOn.row_counts (g := fun x => (x.noteReceived buffer seq).2)
    fun _ _ opened => ⟨opened, fun agrees => { agrees with }⟩

variable (env) in
theorem answer_counts (counts : (w.desk i).Counts i r) (row : (w.desk i).row = some x)
    {inbound frame : Frame} (message : String) {t : Nat}
    (desk : w₁.desk i =
      { w.desk i with
        row := some x'
        chronicle := w.chronicle ++ [(⟨t, .arrived i inbound⟩ : Happening)] })
    (step : ∀ t', Roll.Step i w.chronicle.length [⟨t, .arrived i inbound⟩, ⟨t', .offered i frame⟩]
      r r') (agrees : x'.Agrees r') : ((answer env i frame message).run w₁).2.Counted i := by
  have marked := World.desk_marked desk (.offered i frame)
  rw [List.append_assoc, List.singleton_append] at marked
  unfold answer
  rw [run_bind, run_get]
  exact attempt_counts env _ message (counts.counted row marked (step _) agrees)

theorem confirm_counts (counts : (w.desk i).Counts i r) (row : (w.desk i).row = some x)
    (opened : x.closed = false) {frame : Frame} (kind : frame.header.kind = .dataWithAck)
    (rest : Act σ Unit) [still : Holds (Keeps (CountsOn i)) rest] :
    ((do
      let seq ← drawSeq i (BufferId.ackOf frame.header.id)
      answer env i
        { header := ⟨.ack, BufferId.ackOf frame.header.id, seq⟩, payload := [frame.header.seq] }
        "Failed to acknowledge frame"
      rest : Act σ Unit).run (w.mark (.arrived i frame))).2.Counted i := by
  have agrees := counts.agrees x row opened
  have arrived := w.desk_mark i (.arrived i frame)
  obtain ⟨number, drawn⟩ :=
    drawSeq_desk (w := w.mark (.arrived i frame)) row (BufferId.ackOf frame.header.id)
  rw [agrees.numbers] at number
  rw [arrived] at drawn
  rw [run_bind]
  generalize (drawSeq i (BufferId.ackOf frame.header.id)).run _ = p at number drawn ⊢
  obtain ⟨seq, w₁⟩ := p
  obtain rfl : seq = r.next (BufferId.ackOf frame.header.id) := number
  generalize number : r.next (BufferId.ackOf frame.header.id) = seq at drawn ⊢
  let ack : Frame := ⟨⟨.ack, BufferId.ackOf frame.header.id, seq⟩, [frame.header.seq], none⟩
  have answers : ack ∈ frame.answers seq := by
    simp only [Frame.answers, kind]
    exact .head _
  have step (t t' : Nat) : Roll.Step i w.chronicle.length
      [⟨t, .arrived i frame⟩, ⟨t', .offered i ack⟩] r (r.take (w.chronicle.length + 1) ack) :=
    .confirm t t' rfl answers number.symm
  have answered := answer_counts env counts row "Failed to acknowledge frame" drawn
    (step w.loop.clock) (agrees.take _ ack Bool.false_ne_true)
  dsimp only
  rw [run_bind]
  exact still.holds _ answered

theorem echo_counts (counts : (w.desk i).Counts i r) (row : (w.desk i).row = some x)
    (opened : x.closed = false) {frame : Frame} (ping : frame.header.id = BufferId.ping)
    (kind : frame.header.kind = .data ∨ frame.header.kind = .lowLatency) :
    ((answer env i
      { header := ⟨.data, BufferId.pong, frame.header.seq⟩, payload := frame.payload }
      "Failed to answer ping").run (w.mark (.arrived i frame))).2.Counted i := by
  have arrived := w.desk_mark i (.arrived i frame)
  have same : w.desk i = { w.desk i with row := some x } := by rw [← row]
  rw [same] at arrived
  refine answer_counts env counts row _ arrived (fun t' => .echo r _ t' nofun ?_ ?_)
    (counts.agrees x row opened)
  · rcases kind with kind | kind <;> simp [kind]
  · rcases kind with kind | kind <;> simp only [Frame.answers, kind] <;>
      rw [if_pos (by exact ping)] <;> exact .head _

theorem receive_counts (frame : Frame) : Holds (Keeps (CountsOn i)) (receive env i frame) := by
  refine ⟨fun w counted => ?_⟩
  unfold receive
  rw [run_bind, run_get]
  dsimp only
  cases opened : (w.interface i).closed with
  | true => exact counted
  | false =>
    obtain ⟨x, row, opened⟩ := World.find?_of_open opened
    rw [World.interface_of_find? row, if_neg Bool.false_ne_true, run_bind, run_mark]
    have arrived (plain : frame.header.kind ≠ .dataWithAck) :
        (w.mark (.arrived i frame)).Counted i :=
      (CountsOn.mark_counts (o := .arrived i frame) fun _ => plain).holds w counted
    have delivered (kind : frame.header.kind ≠ .dataWithAck) :
        ((if frame.header.id ≠ BufferId.pong then deliver env i frame.payload else pure () :
          Act σ Unit).run (w.mark (.arrived i frame))).2.Counted i := by
      have rest : Holds (Keeps (CountsOn i)) (if frame.header.id ≠ BufferId.pong then
          deliver env i frame.payload else pure () : Act σ Unit) := inferInstance
      exact rest.holds _ (arrived kind)
    obtain ⟨r, counts⟩ := counted
    cases kind : frame.header.kind with
    | ack =>
      have before := arrived (by simp [kind])
      cases frame.payload with
      | nil => exact before
      | cons seq rest =>
        dsimp only
        split
        · exact (acknowledged_counts seq).holds _ before
        · exact before
    | dataWithAck => exact confirm_counts counts row opened kind _
    | data =>
      dsimp only
      split
      · next ping => exact echo_counts counts row opened ping (.inl kind)
      · exact delivered (by simp [kind])
    | lowLatency =>
      dsimp only
      split
      · next ping => exact echo_counts counts row opened ping (.inr kind)
      · exact delivered (by simp [kind])

end

end Interface

/-! ## Beginning and end -/

namespace CountsOn

theorem close : Holds (Keeps (σ := σ) (CountsOn i)) (Interface.close i) := by
  have shut : Holds (Keeps (σ := σ) (CountsOn i))
      (modify (·.updateInterface i fun x => { x with closed := true, queue := [] })) :=
    update_counts fun _ _ => nofun
  have closed : Holds (Keeps (σ := σ) (CountsOn i)) (mark (.closed i)) := mark_counts trivial
  unfold Interface.close
  infer_instance

theorem add (device : DeviceHandle) (pipe : PipeId) (sink : CommandSink)
    (traceCell : TraceCellId) : Keeps (σ := σ) (CountsOn i) InterfaceId (modifyGet fun w =>
      let (i, interfaces) := w.interfaces.add { device, pipe, sink, traceCell }
      (i, { w with interfaces })) := by
  rintro w ⟨r, counts⟩
  by_cases new : w.interfaces.next = i.number
  · refine .of_desk ?_ (counts.create new device pipe sink traceCell)
    have row : (w.interfaces.add { device, pipe, sink, traceCell }).2.find? i =
        some { device, pipe, sink, traceCell } := by
      rw [Table.find?_add, if_pos (by rw [new])]
    rw [run_modifyGet]
    simp only [World.desk, row, Table.next_add]
    rfl
  · exact ⟨r, (Spares.add w _ (Ne.symm new)).counts counts⟩

instance interfaceLives : InterfaceLives (Keeps (σ := σ) (CountsOn i)) :=
  Watches.interfaceLives add close

theorem together (_ : Upheld (Keeps (CountsOn i)) env) : Together (Keeps (CountsOn i)) env := by
  have : InterfaceCalls (Keeps (CountsOn i)) env :=
    Watches.interfaceCalls Interface.send_counts Interface.receive_counts
  have : InterfaceRetries (Keeps (CountsOn i)) env :=
    ⟨Watches.of_own Interface.retry_counts fun _ _ => Interface.retry_of_steps⟩
  have : LoopCalls (Keeps (CountsOn i)) env := Loop.calls_of_steps
  exact Watches.together

end CountsOn

/-! ## Runs -/

theorem World.counted_empty (host : σ) (verbosity : Option Severity) (i : InterfaceId) :
    ({ host, verbosity } : World σ).Counted i := by
  refine ⟨{}, .empty, fun made => ?_, fun _ => rfl, fun x row => ?_⟩
  · simp [World.desk, World.find?_empty] at made
  · simp [World.desk, World.find?_empty] at row

theorem Interface.send_refused (env : Env σ) {c : Command}
    (refused : (w.interface i).closed ∨ c.delivery = .invalid) :
    ∃ f, (send env i c).run.run w = (.error f, w) := by
  unfold send
  rw [run_lookThen]
  dsimp only
  cases delivery : c.delivery with
  | invalid => exact ⟨_, rfl⟩
  | nonAck | ack =>
    have closed : (w.interface i).closed := refused.resolve_right (by simp [delivery])
    dsimp only
    rw [if_pos closed]
    exact ⟨_, rfl⟩

/-- In every run an interface numbers its frames in turn.  The commands that are sent once, the first
attempts at the others and the acknowledgements of what comes in count up from zero on each buffer;
nothing else that is offered counts, and an open interface goes on where they end.  A send that is
refused by the interface leaves everything as it is. -/
theorem Reached.numbers_in_turn (reached : Reached w) (i : InterfaceId) :
    (∃ fresh, CountedIn i w.chronicle fresh ∧
      ∀ x, w.interfaces.find? i = some x → x.closed = false →
        (∀ b, x.lastSent b + 1 = UInt8.ofNat (numbersOn b fresh).length) ∧
        accepted i w.chronicle = (commandsOf fresh).map (·.2.payload) ++ x.queue) ∧
    ∀ (env : Env σ) (c : Command), (w.interface i).closed ∨ c.delivery = .invalid →
      ∃ f, (Interface.send env i c).run.run w = (.error f, w) := by
  refine ⟨?_, fun env c refused => Interface.send_refused env refused⟩
  obtain ⟨host, verbosity, on⟩ :=
    reached.related (R := CountsOn i) fun _ upheld _ => CountsOn.together upheld
  obtain ⟨r, counts⟩ := on (World.counted_empty host verbosity i)
  have sound := counts.reads.sound
  refine ⟨r.fresh, sound.toCountedIn, fun x row opened => ?_⟩
  have agrees := counts.agrees x row opened
  exact ⟨agrees.numbers, agrees.queue ▸ sound.taken⟩

def busyPost : Act Unit (Except Fault Unit) := do
  let p ← Pipe.create (.supplied ⟨1⟩)
  let _ ← (Pipe.start silentHost p).run
  let i ← Interface.create ⟨1⟩ p (.listener ⟨1⟩) ⟨1⟩
  let _ ← (Interface.send silentHost i ((Command.encode default 0 []).withDelivery .ack)).run
  let _ ← (Pipe.receive silentHost p ⟨⟨.dataWithAck, 139, 7⟩, [1, 4, 1, 0], none⟩).run
  Loop.advance silentHost 0 retryDelay
  let _ ← (Pipe.receive silentHost p ⟨⟨.data, BufferId.ping, 3⟩, [5], none⟩).run
  (Interface.send silentHost i ((Command.encode default 0 []).withDelivery .nonAck)).run

theorem busyPost_reached : Reached (busyPost.run { host := () }).2 := by
  refine ⟨silentHost, (), none, _, busyPost, silentHost_hosted, ?_, rfl⟩
  refine .bind (.basic (.inr (.createPipe _))) fun p => ?_
  refine .bind (.basic (.inr (.startPipe _))) fun _ => ?_
  refine .bind (.basic (.inr (.createInterface _ _ _ _))) fun i => ?_
  refine .bind (.basic (.inr (.sendCommand _ _))) fun _ => ?_
  refine .bind (.basic (.inr (.receiveFrame _ _))) fun _ => ?_
  refine .bind (.basic (.inr (.advance _ _))) fun _ => ?_
  refine .bind (.basic (.inr (.receiveFrame _ _))) fun _ => ?_
  exact .basic (.inr (.sendCommand _ _))

theorem busyPost_numbers_in_turn :
    let w := (busyPost.run { host := () }).2
    ((∃ fresh, CountedIn ⟨1⟩ w.chronicle fresh ∧
      ∀ x, w.interfaces.find? ⟨1⟩ = some x → x.closed = false →
        (∀ b, x.lastSent b + 1 = UInt8.ofNat (numbersOn b fresh).length) ∧
        accepted ⟨1⟩ w.chronicle = (commandsOf fresh).map (·.2.payload) ++ x.queue) ∧
      ∀ (env : Env Unit) (c : Command), (w.interface ⟨1⟩).closed ∨ c.delivery = .invalid →
        ∃ f, (Interface.send env ⟨1⟩ c).run.run w = (.error f, w)) ∧
    (w.chronicle.filterMap fun
        | ⟨_, .offered _ frame⟩ => some (frame.header.id, frame.header.seq)
        | _ => none) = [(11, 0), (11, 1), (11, 0), (1, 3), (10, 0)] :=
  ⟨busyPost_reached.numbers_in_turn ⟨1⟩, by decide +kernel⟩

end DroneControl
