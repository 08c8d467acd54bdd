import DroneControl.Proofs.Interface.Traffic

/-!
# Runs of two joined command interfaces

In any run of the two interfaces and the wires between them the listener of the receiver hears, in their
order and each of them once, some of the commands that the sender took.  It has heard every command that
the sender released because of an acknowledgement, as long as the sender has not given up 255 of them in
a row.
-/

namespace DroneControl

open Exchange

/-! ## Numbers on the wires -/

theorem Exchange.ofNat_eq_iff {m n : Nat} : UInt8.ofNat m = UInt8.ofNat n ↔ Alike m n := by
  rw [← UInt8.toNat_inj, UInt8.toNat_ofNat', UInt8.toNat_ofNat', Alike]

/-- The parcel carries the command with its number. -/
def Parcel.Carries (p : Parcel) (accepted : List Bytes) : Prop :=
  ∃ data, accepted[p.number]? = some data ∧ p.frame = Interface.ackFrame (.ofNat p.number) data

/-- The parcel acknowledges the command with its number. -/
structure Parcel.Answers (p : Parcel) : Prop where
  acknowledges : p.frame.header.acknowledges BufferId.toDeviceAck
  payload : p.frame.payload = [UInt8.ofNat p.number]

/-- Both ends and the wires are as the exchange of the numbers says. -/
structure Exchange.Matches (s : Exchange) (box : Outbox) (inbox : Inbox) (wires : Wires)
    (accepted : List Bytes) : Prop where
  launched_le : s.launched ≤ accepted.length
  queue : box.queue = accepted.drop s.launched
  sent : box.sent + 1 = UInt8.ofNat s.launched
  waiting : s.waiting = box.inFlight.isSome
  inFlight : ∀ f ∈ box.inFlight,
    f.seq = UInt8.ofNat (s.launched - 1) ∧ accepted[s.launched - 1]? = some f.data
  there : s.there = wires.there.map (·.number)
  carries : ∀ p ∈ wires.there, p.Carries accepted
  back : s.back = wires.back.map (·.number)
  answers : ∀ p ∈ wires.back, p.Answers
  last : s.last = wires.last
  received : inbox.received = s.last.map UInt8.ofNat
  heard : s.heard = wires.heard.map (·.1)
  delivered : ∀ h ∈ wires.heard, accepted[h.1]? = some h.2.data
  decodes : ∀ data ∈ accepted, ∃ c, Command.decode data = .ok c ∧ c.data = data

theorem Command.decode_data (c : Command) :
    ∃ c', Command.decode c.data = .ok c' ∧ c'.data = c.data := by
  unfold Command.decode
  split
  · exact ⟨_, rfl, rfl⟩
  · next failed => simp [c.header] at failed

theorem getElem?_append_of_some {α : Type} {l : List α} {n : Nat} {a : α} (h : l[n]? = some a)
    (l' : List α) : (l ++ l')[n]? = some a := by
  rw [List.getElem?_append_left (List.getElem?_eq_some_iff.mp h).1, h]

namespace Exchange.Matches

variable {s : Exchange} {box : Outbox} {inbox : Inbox} {wires : Wires} {accepted : List Bytes}

theorem launched_eq (m : s.Matches box inbox wires accepted) :
    s.launched = accepted.length - box.queue.length := by
  have := m.launched_le
  rw [m.queue, List.length_drop]
  omega

theorem accept (m : s.Matches box inbox wires accepted) (c : Command) :
    s.Matches { box with queue := box.queue ++ [c.data] } inbox wires (accepted ++ [c.data]) :=
  { m with
    launched_le := by
      have := m.launched_le
      simp only [List.length_append]
      omega
    queue := by rw [m.queue, List.drop_append_of_le_length m.launched_le]
    inFlight := fun f hf => ⟨(m.inFlight f hf).1, getElem?_append_of_some (m.inFlight f hf).2 _⟩
    carries := fun p hp => by
      obtain ⟨data, found, frame⟩ := m.carries p hp
      exact ⟨data, getElem?_append_of_some found _, frame⟩
    delivered := fun h hh => getElem?_append_of_some (m.delivered h hh) _
    decodes := fun data mem => by
      rcases List.mem_append.mp mem with before | here
      · exact m.decodes data before
      · rw [List.mem_singleton.mp here]
        exact c.decode_data }

theorem launch (m : s.Matches box inbox wires accepted) {data : Bytes} {rest : List Bytes}
    (waits : box.queue = data :: rest) :
    (s.launch wires.takes).Matches
      { box with
        queue := rest
        inFlight := if wires.takes then some ⟨box.sent + 1, data, 0⟩ else none
        sent := box.sent + 1 }
      inbox
      (wires.carryThere ⟨accepted.length - rest.length - 1,
        Interface.ackFrame (box.sent + 1) data⟩)
      accepted := by
  have queue := m.queue.symm.trans waits
  have head : accepted[s.launched]? = some data := by
    rw [← List.head?_drop, queue]
    rfl
  have lt := (List.getElem?_eq_some_iff.mp head).1
  have length := congrArg List.length queue
  simp only [List.length_drop, List.length_cons] at length
  have number : accepted.length - rest.length - 1 = s.launched := by omega
  rw [number]
  refine { m with
    launched_le := lt
    queue := ?_
    sent := ?_
    waiting := by cases wires.takes <;> rfl
    inFlight := ?_
    there := ?_
    carries := ?_ }
  · rw [Exchange.launch, ← List.drop_drop, queue]
    rfl
  · rw [m.sent]
    exact (UInt8.ofNat_add _ _).symm
  · intro f hf
    cases taken : wires.takes with
    | false => simp [taken] at hf
    | true =>
        obtain rfl : _ = f := by simpa [taken] using hf
        exact ⟨m.sent, head⟩
  · rw [Wires.carryThere, map_pass, ← m.there]
    rfl
  · intro p hp
    rcases mem_pass hp with before | rfl
    · exact m.carries p before
    · exact ⟨data, head, by rw [m.sent]⟩

theorem resend (m : s.Matches box inbox wires accepted) {f : InFlight}
    (flies : box.inFlight = some f) (retries : Nat) :
    (s.resend wires.takes).Matches { box with inFlight := some { f with retries } } inbox
      (wires.carryThere ⟨accepted.length - box.queue.length - 1, Interface.ackFrame f.seq f.data⟩)
      accepted := by
  obtain ⟨seq, data⟩ := m.inFlight f flies
  rw [← m.launched_eq]
  refine { m with
    waiting := by rw [Exchange.resend, m.waiting, flies]; rfl
    inFlight := ?_
    there := ?_
    carries := ?_ }
  · intro f' hf'
    obtain rfl : { f with retries } = f' := by simpa using hf'
    exact ⟨seq, data⟩
  · rw [Wires.carryThere, map_pass, ← m.there]
    rfl
  · intro p hp
    rcases mem_pass hp with before | rfl
    · exact m.carries p before
    · exact ⟨f.data, data, by rw [seq]⟩

theorem giveUp (m : s.Matches box inbox wires accepted) :
    s.giveUp.Matches { box with inFlight := none } inbox wires accepted :=
  { m with waiting := rfl, inFlight := nofun }

theorem receive (m : s.Matches box inbox wires accepted) {p : Parcel} {rest : List Parcel}
    (next : wires.there = p :: rest) {c : Command} (number : UInt8)
    (data : accepted[p.number]? = some c.data) :
    (s.receive p.number (rest.map (·.number)) wires.takes).Matches box
      { inbox with received := some (.ofNat p.number) }
      (let answered := (wires.arrive p rest).carryBack
        { header := ⟨.ack, BufferId.ackOf BufferId.toDeviceAck, number⟩
          payload := [.ofNat p.number] }
      if inbox.received = some (.ofNat p.number) then answered else answered.hear c)
      accepted := by
  have repeated : inbox.received = some (UInt8.ofNat p.number) ↔
      s.last.any fun n => Alike n p.number := by
    rw [m.received]
    cases s.last <;> simp [ofNat_eq_iff]
  let answer : Parcel := ⟨p.number,
    { header := ⟨.ack, BufferId.ackOf BufferId.toDeviceAck, number⟩
      payload := [.ofNat p.number] }⟩
  have carries : ∀ q ∈ rest, q.Carries accepted :=
    fun q mem => m.carries q (by rw [next]; exact .tail _ mem)
  have back : pass s.back p.number wires.takes =
      (pass wires.back answer wires.takes).map (·.number) := by
    rw [map_pass, m.back]
  have answers : ∀ q ∈ pass wires.back answer wires.takes, q.Answers := by
    intro q mem
    rcases mem_pass mem with before | rfl
    · exact m.answers q before
    · exact ⟨rfl, rfl⟩
  -- The inbox knows a number only modulo 256, and so does the exchange that it matches.
  by_cases same : inbox.received = some (UInt8.ofNat p.number)
  · rw [if_pos same]
    refine { m with there := rfl, carries, back, answers, last := rfl, received := rfl, heard := ?_ }
    rw [Exchange.receive, if_pos (repeated.mp same)]
    exact m.heard
  · rw [if_neg same]
    refine { m with
      there := rfl, carries, back, answers, last := rfl, received := rfl, heard := ?_
      delivered := ?_ }
    · rw [Exchange.receive, if_neg (mt repeated.mpr same), m.heard]
      simp [Wires.hear, Wires.carryBack, Wires.arrive]
    · intro h mem
      rcases List.mem_append.mp mem with before | here
      · exact m.delivered h before
      · rw [List.mem_singleton.mp here]
        exact data

theorem overhear (m : s.Matches box inbox wires accepted) {p : Parcel} {rest : List Parcel}
    (next : wires.back = p :: rest) :
    Exchange.Matches { s with back := rest.map (·.number) } box inbox { wires with back := rest }
      accepted :=
  { m with
    back := rfl
    answers := fun q mem => m.answers q (by rw [next]; exact .tail _ mem) }

theorem release (m : s.Matches box inbox wires accepted) {p : Parcel} {rest : List Parcel}
    (next : wires.back = p :: rest) (released : List Nat) :
    Exchange.Matches { s with back := rest.map (·.number), waiting := false, released }
      { box with inFlight := none } inbox { wires with back := rest } accepted :=
  { m.overhear next with waiting := rfl, inFlight := nofun }

theorem wearThere (m : s.Matches box inbox wires accepted) {there : List Parcel}
    (worn : Worn wires.there there) :
    Exchange.Matches { s with there := there.map (·.number) } box inbox { wires with there } accepted :=
  { m with there := rfl, carries := fun p mem => m.carries p (worn.mem mem) }

theorem wearBack (m : s.Matches box inbox wires accepted) {back : List Parcel}
    (worn : Worn wires.back back) :
    Exchange.Matches { s with back := back.map (·.number) } box inbox { wires with back } accepted :=
  { m with back := rfl, answers := fun p mem => m.answers p (worn.mem mem) }

end Exchange.Matches

/-! ## Operations -/

def Ends.Stands (e : Ends) (w : World Wires) (near far : Nat) (released : List Nat) : Prop :=
  ∃ (s : Exchange) (box : Outbox) (inbox : Inbox) (wires : Wires) (accepted : List Bytes),
    e.At w box inbox wires accepted ∧ s.Matches box inbox wires accepted ∧ s.Orderly ∧
      box.sharers = near ∧ inbox.sharers = far ∧ s.released = released

/-- A frame that comes back to the sender releases the command in flight. -/
def Ends.releases (e : Ends) (w : World Wires) (frame : Frame) : Bool :=
  match frame.payload with
  | seq :: _ =>
    frame.header.acknowledges BufferId.toDeviceAck && (w.interface e.sender).awaits seq
  | [] => false

namespace Interface

variable {e : Ends} {w : World Wires} {s : Exchange} {box : Outbox} {inbox : Inbox}
  {wires : Wires} {accepted : List Bytes}

variable (at_ : e.At w box inbox wires accepted) (m : s.Matches box inbox wires accepted)
  (orderly : s.Orderly)

include at_ m orderly

theorem pump_stands (idle : box.inFlight = none) :
    e.Stands ((pump e.host e.sender).run.run w).2 box.sharers inbox.sharers s.released := by
  cases waits : box.queue with
  | nil =>
      rw [pump_rests at_ (.inr waits)]
      exact ⟨s, box, inbox, wires, accepted, at_, m, orderly, rfl, rfl, rfl⟩
  | cons data rest =>
      have waiting : s.waiting = false := by simp [m.waiting, idle]
      exact ⟨_, _, _, _, _, pump_at at_ idle waits, m.launch waits, orderly.launch waiting _,
        rfl, rfl, rfl⟩

theorem recover_pump_stands (idle : box.inFlight = none) (message : String) :
    e.Stands ((recover (pump e.host e.sender) (warnFailure e.sender message)).run w).2
      box.sharers inbox.sharers s.released := by
  obtain ⟨s', box', inbox', wires', accepted', pumped, rest⟩ := pump_stands at_ m orderly idle
  exact ⟨s', box', inbox', wires', accepted', recover_at pumped _ _, rest⟩

theorem send_stands {c : Command} (acked : c.delivery = .ack) :
    e.Stands ((send e.host e.sender c).run.run w).2 box.sharers inbox.sharers s.released := by
  obtain ⟨w', queued, runs⟩ := send_at at_ acked
  have joined := m.accept c
  rw [runs]
  split
  · next idle =>
      have pumped := pump_stands queued joined orderly (Option.isNone_iff_eq_none.mp idle)
      exact pumped
  · exact ⟨_, _, _, _, _, queued, joined, orderly, rfl, rfl, rfl⟩

theorem retry_stands :
    e.Stands ((retry e.host e.sender).run w).2 box.sharers inbox.sharers s.released := by
  cases flight : box.inFlight with
  | none =>
      rw [retry_idle at_ flight]
      exact ⟨s, box, inbox, wires, accepted, at_, m, orderly, rfl, rfl, rfl⟩
  | some f =>
      by_cases few : f.retries < maxRetries
      · have waiting : s.waiting := by simp [m.waiting, flight]
        exact ⟨_, _, _, _, _, retry_again at_ flight few, m.resend flight _,
          orderly.resend waiting _, rfl, rfl, rfl⟩
      · obtain ⟨w', cleared, runs⟩ := retry_last at_ flight few
        rw [runs]
        exact recover_pump_stands cleared m.giveUp orderly.giveUp rfl _

omit at_ m orderly in
theorem release_sender_stands {near far : Nat} {released : List Nat}
    (stands : e.Stands w (near + 1) far released) :
    e.Stands ((release e.host (.interface e.sender)).run w).2 near far released := by
  obtain ⟨s, box, inbox, wires, accepted, at_, m, orderly, shared, rest⟩ := stands
  exact ⟨s, _, inbox, wires, accepted, release_sender_at at_ (by omega), { m with }, orderly,
    by simp [shared], rest⟩

omit at_ m orderly in
theorem release_receiver_stands {near far : Nat} {released : List Nat}
    (stands : e.Stands w near (far + 1) released) :
    e.Stands ((release e.host (.interface e.receiver)).run w).2 near far released := by
  obtain ⟨s, box, inbox, wires, accepted, at_, m, orderly, rfl, shared, rest⟩ := stands
  exact ⟨s, box, _, wires, accepted, release_receiver_at at_ (by omega), { m with }, orderly,
    rfl, by simp [shared], rest⟩

theorem receive_near_stands {p : Parcel} {rest : List Parcel} (next : wires.back = p :: rest) :
    e.Stands
      ((Pipe.receive e.host e.nearPipe p.frame).run.run (w.rewire { wires with back := rest })).2
      box.sharers inbox.sharers
      (if e.releases w p.frame then s.released ++ [s.launched - 1] else s.released) := by
  obtain ⟨acknowledges, payload⟩ := m.answers p (by simp [next])
  have numbers : s.back = p.number :: rest.map (·.number) := by simp [m.back, next]
  have acknowledged := orderly.acknowledge numbers
  have releases : e.releases w p.frame ↔ ∃ f ∈ box.inFlight, f.seq = UInt8.ofNat p.number := by
    rw [← awaits_iff at_]
    simp [Ends.releases, payload, acknowledges]
  have popped := at_.rewire { wires with back := rest }
  have logged := popped.log .trace "Frame in" (Pipe.frameFields p.frame)
  have retained := retain_sender_at logged
  have marked := retained.mark_aside (o := .arrived e.sender p.frame) rfl
  obtain ⟨x, there, -⟩ := popped.sender
  rw [run_pipeReceive popped.nearPipe rfl rfl there, run_keeping,
    run_receive_ack retained acknowledges payload]
  refine release_sender_stands ?_
  by_cases released : e.releases w p.frame
  · obtain ⟨f, flight, seq⟩ := releases.mp released
    have waiting : s.waiting := by simp [m.waiting, Option.mem_def.mp flight]
    have alike : Alike p.number (s.launched - 1) := by
      rw [← ofNat_eq_iff, ← seq, (m.inFlight f flight).1]
    obtain ⟨w', cleared, runs⟩ := acknowledged_at marked ((awaits_iff marked _).mpr ⟨f, flight, seq⟩)
    rw [runs, if_pos released]
    rw [Exchange.acknowledge, if_pos ⟨waiting, alike⟩] at acknowledged
    have pumped := recover_pump_stands cleared
      { m.release next (s.released ++ [s.launched - 1]) with } acknowledged rfl
      "Failed to send ack command"
    exact pumped
  · have stale : ¬(s.waiting ∧ Alike p.number (s.launched - 1)) := by
      rintro ⟨waiting, alike⟩
      rw [m.waiting] at waiting
      obtain ⟨f, flight⟩ := Option.isSome_iff_exists.mp waiting
      refine released (releases.mpr ⟨f, flight, ?_⟩)
      rw [(m.inFlight f flight).1, ofNat_eq_iff.mpr alike]
    rw [if_neg released]
    rw [Exchange.acknowledge, if_neg stale] at acknowledged
    have unanswered := mt (awaits_iff marked _).mp (mt releases.mpr released)
    exact ⟨_, _, _, _, _, acknowledged_stale_at marked unanswered, { m.overhear next with },
      acknowledged, rfl, rfl, rfl⟩

theorem receive_far_stands {p : Parcel} {rest : List Parcel} (next : wires.there = p :: rest) :
    e.Stands
      ((Pipe.receive e.host e.farPipe p.frame).run.run (w.rewire (wires.arrive p rest))).2
      box.sharers inbox.sharers s.released := by
  obtain ⟨data, found, frame⟩ := m.carries p (by simp [next])
  obtain ⟨c, decodes, rfl⟩ := m.decodes data (List.mem_of_getElem? found)
  have numbers : s.there = p.number :: rest.map (·.number) := by simp [m.there, next]
  have popped := at_.rewire (wires.arrive p rest)
  have logged := popped.log .trace "Frame in" (Pipe.frameFields p.frame)
  have retained := retain_receiver_at logged
  obtain ⟨x, there, -⟩ := popped.receiver
  rw [run_pipeReceive popped.farPipe rfl rfl there, run_keeping]
  refine release_receiver_stands ?_
  obtain ⟨number, received⟩ := receive_command_at retained (.ofNat p.number) decodes
  rw [← frame] at received
  exact ⟨_, _, _, _, _, received, { m.receive next number found with },
    orderly.receive numbers _, rfl, rfl, rfl⟩

end Interface

/-! ## Runs -/

/-- The two interfaces are open and new, each over its own started pipe, and the wires are empty. -/
structure Ends.Fresh (e : Ends) (w : World Wires) : Prop where
  sender : ∃ x, w.interfaces.find? e.sender = some x ∧ e.Sends x ∧
    x.queue = [] ∧ x.inFlight = none ∧ x.lastSent = fun _ => 255
  receiver : ∃ x, w.interfaces.find? e.receiver = some x ∧ e.Receives x ∧
    x.lastReceived = fun _ => none
  nearPipe : w.pipes.find? e.nearPipe = some
    { link := .supplied e.nearLink, state := .started, receiver := some (.interface e.sender)
      starts := 1 }
  farPipe : w.pipes.find? e.farPipe = some
    { link := .supplied e.farLink, state := .started, receiver := some (.interface e.receiver)
      starts := 1 }
  wires : w.host = {}
  accepted : w.accepted e.sender = []

/-- What can happen between the two ends, but for an acknowledgement that comes to the sender.  A retry
timer may expire at any time, and what the links will say is not known. -/
inductive Ends.Step (e : Ends) : World Wires → World Wires → Prop
  | send (w : World Wires) (c : Command) (acked : c.delivery = .ack) :
      e.Step w ((Interface.send e.host e.sender c).run.run w).2
  | expire (w : World Wires) : e.Step w ((Interface.retry e.host e.sender).run w).2
  | arrive (w : World Wires) (p : Parcel) (rest : List Parcel) (next : w.host.there = p :: rest) :
      e.Step w
        ((Pipe.receive e.host e.farPipe p.frame).run.run (w.rewire (w.host.arrive p rest))).2
  | wearThere (w : World Wires) (there : List Parcel) (worn : Worn w.host.there there) :
      e.Step w (w.rewire { w.host with there })
  | wearBack (w : World Wires) (back : List Parcel) (worn : Worn w.host.back back) :
      e.Step w (w.rewire { w.host with back })
  | decide (w : World Wires) (verdicts : List Bool) :
      e.Step w (w.rewire { w.host with verdicts })

/-- The worlds that two new interfaces come to, with the numbers of the commands that the sender
released because of an acknowledgement. -/
inductive Ends.Run (e : Ends) : World Wires → List Nat → Prop
  | start {w : World Wires} (fresh : e.Fresh w) : e.Run w []
  | step {w w' : World Wires} {released : List Nat} (run : e.Run w released)
      (step : e.Step w w') : e.Run w' released
  | answer {w : World Wires} {released : List Nat} (run : e.Run w released) (p : Parcel)
      (rest : List Parcel) (next : w.host.back = p :: rest) :
      e.Run
        ((Pipe.receive e.host e.nearPipe p.frame).run.run (w.rewire { w.host with back := rest })).2
        (if e.releases w p.frame then released ++ [w.launched e.sender - 1] else released)

/-- Of any 255 commands in a row that the sender acknowledged or gave up, one was acknowledged. -/
def Ends.Unbroken (e : Ends) (w : World Wires) (released : List Nat) : Prop :=
  ∀ start, start + 255 ≤ w.settled e.sender → ∃ n ∈ released, start ≤ n ∧ n < start + 255

variable {e : Ends} {w w' : World Wires} {released : List Nat}

theorem Ends.Fresh.stands (fresh : e.Fresh w) : ∃ near far, e.Stands w near far [] := by
  obtain ⟨x, there, sends, queue, inFlight, lastSent⟩ := fresh.sender
  obtain ⟨y, there', receives, lastReceived⟩ := fresh.receiver
  refine ⟨x.sharers, y.sharers, ⟨0, false, [], [], none, [], []⟩, x.outbox, y.inbox, {}, [],
    ⟨⟨x, there, sends, rfl⟩, ⟨y, there', receives, rfl⟩, fresh.nearPipe, fresh.farPipe, fresh.wires,
      fresh.accepted⟩, ?_, ?_, rfl, rfl, rfl⟩
  · constructor <;> simp [Interface.outbox, Interface.inbox, queue, inFlight, lastSent, lastReceived]
  · refine ⟨by constructor <;> simp, fun _ => by constructor <;> simp⟩

theorem Ends.Stands.step {near far : Nat} (stands : e.Stands w near far released)
    (step : e.Step w w') : e.Stands w' near far released := by
  obtain ⟨s, box, inbox, wires, accepted, at_, m, orderly, rfl, rfl, rfl⟩ := stands
  obtain rfl := at_.host
  cases step with
  | send c acked => exact Interface.send_stands at_ m orderly acked
  | expire => exact Interface.retry_stands at_ m orderly
  | arrive p rest next => exact Interface.receive_far_stands at_ m orderly next
  | wearThere there worn =>
      exact ⟨_, _, _, _, _, at_.rewire _, m.wearThere worn,
        orderly.wearThere (m.there ▸ worn.map _), rfl, rfl, rfl⟩
  | wearBack back worn =>
      exact ⟨_, _, _, _, _, at_.rewire _, m.wearBack worn,
        orderly.wearBack (m.back ▸ worn.map _), rfl, rfl, rfl⟩
  | decide verdicts =>
      exact ⟨s, _, _, _, _, at_.rewire _, { m with }, orderly, rfl, rfl, rfl⟩

theorem Ends.Run.stands (run : e.Run w released) : ∃ near far, e.Stands w near far released := by
  induction run with
  | start fresh => exact fresh.stands
  | step _ step ih =>
      obtain ⟨near, far, stands⟩ := ih
      exact ⟨near, far, stands.step step⟩
  | answer _ p rest next ih =>
      obtain ⟨near, far, s, box, inbox, wires, accepted, at_, m, orderly, rfl, rfl, rfl⟩ := ih
      obtain rfl := at_.host
      refine ⟨box.sharers, inbox.sharers, ?_⟩
      rw [at_.launched, ← m.launched_eq]
      exact Interface.receive_near_stands at_ m orderly next

theorem sublist_of_numbered {l : List (Nat × Command)} {taken : List Bytes} {k : Nat}
    (sorted : (l.map (·.1)).Pairwise (· < ·))
    (found : ∀ h ∈ l, k ≤ h.1 ∧ taken[h.1]? = some h.2.data) :
    (l.map (·.2.data)).Sublist (taken.drop k) := by
  induction l generalizing k with
  | nil => exact List.nil_sublist _
  | cons h rest ih =>
      obtain ⟨le, here⟩ := found h (.head _)
      obtain ⟨lt, here⟩ := List.getElem?_eq_some_iff.mp here
      rw [List.map_cons, List.pairwise_cons] at sorted
      have later : ∀ h' ∈ rest, h.1 + 1 ≤ h'.1 ∧ taken[h'.1]? = some h'.2.data := fun h' mem =>
        ⟨sorted.1 _ (List.mem_map_of_mem mem), (found h' (.tail _ mem)).2⟩
      refine .trans ?_ (List.drop_sublist_drop_left _ le)
      rw [List.drop_eq_getElem_cons lt, here]
      exact (ih sorted.2 later).cons_cons _

/-- Along every run the listener at the far end hears a subsequence of the commands that the sender
took, in their order and none of them twice.  It has heard what the sender released because of an
acknowledgement, unless 255 commands in a row were given up. -/
theorem Ends.Run.hears (run : e.Run w released) :
    (w.host.heard.map (·.2.data)).Sublist (w.accepted e.sender) ∧
      (w.host.heard.map (·.1)).Pairwise (· < ·) ∧
      (∀ h ∈ w.host.heard, (w.accepted e.sender)[h.1]? = some h.2.data) ∧
      (e.Unbroken w released → ∀ n ∈ released, n ∈ w.host.heard.map (·.1)) := by
  obtain ⟨near, far, s, box, inbox, wires, accepted, at_, m, orderly, rfl, rfl, rfl⟩ := run.stands
  obtain rfl := at_.host
  obtain rfl := at_.accepted
  have sorted := m.heard ▸ orderly.sound.heard_sorted
  refine ⟨?_, sorted, m.delivered, fun unbroken => ?_⟩
  · exact sublist_of_numbered sorted fun h mem => ⟨Nat.zero_le _, m.delivered h mem⟩
  · have settled : w.settled e.sender = s.settled := by
      have flight : (w.interface e.sender).inFlight.isSome = s.waiting := by
        rw [m.waiting, ← at_.outbox]
        rfl
      rw [World.settled, Exchange.settled, flight, at_.launched, ← m.launched_eq]
    rw [← m.heard]
    refine (orderly.faithful fun start le => unbroken start ?_).released_heard
    rwa [settled]

def pair : Ends where
  sender := ⟨1⟩
  receiver := ⟨2⟩
  nearPipe := ⟨1⟩
  farPipe := ⟨2⟩
  nearLink := ⟨1⟩
  farLink := ⟨2⟩
  listener := ⟨2⟩
  apart := by decide
  unlinked := by decide

def join : Act Wires Unit := do
  let p ← Pipe.create (.supplied pair.nearLink)
  let _ ← (Pipe.start pair.host p).run
  let _ ← Interface.create ⟨1⟩ p (.listener pair.listener) ⟨1⟩
  let q ← Pipe.create (.supplied pair.farLink)
  let _ ← (Pipe.start pair.host q).run
  let _ ← Interface.create ⟨1⟩ q (.listener pair.listener) ⟨1⟩

theorem join_fresh : pair.Fresh (join.run { host := {} }).2 where
  sender := ⟨_, rfl, ⟨rfl, rfl⟩, rfl, rfl, rfl⟩
  receiver := ⟨_, rfl, ⟨rfl, rfl, rfl⟩, rfl⟩
  nearPipe := rfl
  farPipe := rfl
  wires := rfl
  accepted := rfl

theorem pair_hears :
    ∃ w released, pair.Run w released ∧ released = [0] ∧
      (w.host.heard.map (·.2.data)).Sublist (w.accepted pair.sender) ∧
      (w.host.heard.map (·.1)).Pairwise (· < ·) ∧
      (∀ h ∈ w.host.heard, (w.accepted pair.sender)[h.1]? = some h.2.data) ∧
      (pair.Unbroken w released → ∀ n ∈ released, n ∈ w.host.heard.map (·.1)) := by
  let c : Command := (Command.encode default 0 []).withDelivery .ack
  have sent := (Ends.Run.start join_fresh).step (.send _ c rfl)
  have arrived := sent.step (.arrive _ ⟨0, Interface.ackFrame 0 c.data⟩ [] (by decide +kernel))
  have answered := arrived.answer ⟨0,
    { header := ⟨.ack, BufferId.ackOf BufferId.toDeviceAck, 0⟩, payload := [0] }⟩ []
    (by decide +kernel)
  exact ⟨_, _, answered, by decide +kernel, answered.hears⟩

end DroneControl
