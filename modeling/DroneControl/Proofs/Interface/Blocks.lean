import DroneControl.Proofs.Interface.Answering
import DroneControl.Proofs.Interface.Pending

/-!
# Blocks in their order

The blocks of an interface stand in its history one after another, and their numbers go round: as long
as the peer does not draw on the numbers, two blocks have the same number only if a multiple of so many
blocks lies between them as there are numbers.  So it is told how far back the block may lie whose
refusal put an end to another one.  Between calls a command that waits has one ahead of it in flight,
unless the transport refused that.
-/

namespace DroneControl

variable {σ : Type} {i : InterfaceId} {w : World σ} {chronicle : List Happening}
  {blocks : List Block} {b b' : Block} {m n : Nat}

theorem transmissions_pairwise (i : InterfaceId) (chronicle : List Happening) :
    (transmissions i chronicle).Pairwise fun s s' => s.1.place < s'.1.place := by
  have places : chronicle.zipIdx.Pairwise fun y y' => y.2 < y'.2 := by
    rw [← List.pairwise_map (f := Prod.snd), List.zipIdx_map_snd]
    exact List.pairwise_lt_range' 1
  refine places.filterMap _ fun y y' lt s given s' given' => ?_
  obtain ⟨frame, -, rfl⟩ := Option.map_eq_some_iff.mp given
  obtain ⟨frame', -, rfl⟩ := Option.map_eq_some_iff.mp given'
  exact lt

theorem Block.mem_sent_first (b : Block) : (b.first, b.frame) ∈ b.sent := by
  simp [Block.sent, Block.offers]

theorem Block.getLast?_sent (b : Block) : b.sent.getLast? = some (b.latest, b.frame) := by
  unfold Block.sent Block.offers Block.latest
  cases b.again with
  | nil => rfl
  | cons o again =>
    rw [List.reverse_cons, ← List.cons_append, List.map_append, List.map_singleton,
      List.getLast?_concat]
    rfl

theorem Undrawn.narrow {start stop start' stop' : Nat} (undrawn : Undrawn i chronicle start stop)
    (later : start ≤ start') (earlier : stop' ≤ stop) : Undrawn i chronicle start' stop' :=
  fun p t frame after before =>
    undrawn p t frame (Nat.lt_of_le_of_lt later after) (Nat.lt_of_lt_of_le before earlier)

namespace InBlocks

variable (inBlocks : InBlocks i chronicle blocks)

include inBlocks

theorem first_pairwise : blocks.Pairwise fun b b' => b.first.place < b'.first.place := by
  have sorted := transmissions_pairwise i chronicle
  rw [inBlocks.sent, List.pairwise_flatMap] at sorted
  exact sorted.2.imp fun {b b'} lt => lt _ b.mem_sent_first _ b'.mem_sent_first

theorem first_lt (atM : blocks[m]? = some b) (atN : blocks[n]? = some b') (lt : m < n) :
    b.first.place < b'.first.place := by
  obtain ⟨boundM, rfl⟩ := List.getElem?_eq_some_iff.mp atM
  obtain ⟨boundN, rfl⟩ := List.getElem?_eq_some_iff.mp atN
  exact List.pairwise_iff_getElem.mp inBlocks.first_pairwise m n boundM boundN lt

theorem first_le (atM : blocks[m]? = some b) (atN : blocks[n]? = some b') (le : m ≤ n) :
    b.first.place ≤ b'.first.place := by
  rcases Nat.eq_or_lt_of_le le with rfl | lt
  · rw [Option.some.inj (atM.symm.trans atN)]
  · exact (inBlocks.first_lt atM atN lt).le

theorem seq_add {d : Nat} (atM : blocks[m]? = some b) (atN : blocks[m + d]? = some b')
    (undrawn : Undrawn i chronicle b.first.place b'.first.place) :
    b'.seq = b.seq + UInt8.ofNat d := by
  induction d generalizing b' with
  | zero =>
    obtain rfl := Option.some.inj (atM.symm.trans atN)
    exact (UInt8.add_zero _).symm
  | succ d ih =>
    obtain ⟨bound, rfl⟩ := List.getElem?_eq_some_iff.mp atN
    have between : blocks[m + d]? = some blocks[m + d] := List.getElem?_eq_getElem (by omega)
    have before := inBlocks.first_le between atN (by omega)
    have after := inBlocks.first_le atM between (by omega)
    have next : Undrawn i chronicle blocks[m + d].first.place blocks[m + d + 1].first.place →
        blocks[m + d + 1].seq = blocks[m + d].seq + 1 :=
      List.isChain_iff_getElem.mp inBlocks.numbered (m + d) bound
    have counted := next (undrawn.narrow after le_rfl)
    rw [ih between (undrawn.narrow le_rfl before)] at counted
    rw [UInt8.ofNat_add, ← UInt8.add_assoc]
    exact counted

theorem dvd_of_seq_eq (atM : blocks[m]? = some b) (atN : blocks[n]? = some b') (le : m ≤ n)
    (same : b.seq = b'.seq) (undrawn : Undrawn i chronicle b.first.place b'.first.place) :
    256 ∣ n - m := by
  have grown := inBlocks.seq_add atM (d := n - m) (by rwa [Nat.add_sub_cancel' le]) undrawn
  have none : UInt8.ofNat (n - m) = 0 := by
    rw [← same] at grown
    exact UInt8.add_eq_left.mp grown.symm
  rw [UInt8.ofNat_eq_iff_mod_eq_toNat] at none
  exact Nat.dvd_of_mod_eq_zero none

theorem refused_round (atN : blocks[n]? = some b) {p : Nat} (refused : b.release = some (.refused p)) :
    ∃ m b', blocks[m]? = some b' ∧ m ≤ n ∧
      (∃ t, chronicle[p]? = some ⟨t, .refused i b'.first.place⟩) ∧
      (Undrawn i chronicle b'.first.place b.first.place → 256 ∣ n - m) := by
  obtain ⟨-, b', among, same, early, there⟩ :=
    inBlocks.refused b (List.mem_of_getElem? atN) p refused
  obtain ⟨m, atM⟩ := List.mem_iff_getElem?.mp among
  have le : m ≤ n := by
    by_contra later
    have := inBlocks.first_lt atN atM (Nat.lt_of_not_le later)
    omega
  exact ⟨m, b', atM, le, there, inBlocks.dvd_of_seq_eq atM atN le same⟩

end InBlocks

/-! ## A link that refuses one number -/

def fussyHost : Env Unit :=
  { silentHost with
    ask := fun request =>
      match request with
      | .sendFrame _ frame =>
        if frame.header.seq = 1 then throw (.transport "link busy") else pure ()
      | _ => pure () }

theorem fussyHost_hosted : Hosted fussyHost := by
  refine .innermost ⟨?_, ?_, ?_, ?_, ?_, ?_⟩ ?_
  case refine_2 =>
    intro request _
    cases request with
    | sendFrame link frame =>
      by_cases one : frame.header.seq = 1
      · simp only [fussyHost, one, if_true]
        exact .pure _
      · simp only [fussyHost, one, if_false]
        exact .pure _
    | _ => exact .pure _
  all_goals intros; exact .pure _

def leftWaiting : Act Unit (Except Fault Unit) := do
  let p ← Pipe.create (.supplied ⟨1⟩)
  let _ ← (Pipe.start fussyHost p).run
  let i ← Interface.create ⟨1⟩ p (.listener ⟨1⟩) ⟨1⟩
  let command := (Command.encode default 0 []).withDelivery .ack
  let _ ← (Interface.send fussyHost i command).run
  let _ ← (Interface.send fussyHost i command).run
  let _ ← (Interface.send fussyHost i command).run
  Loop.advance fussyHost 0 retryDelay
  (Pipe.receive fussyHost p ⟨⟨.ack, 139, 0⟩, [0], none⟩).run

theorem leftWaiting_reached : Reached (leftWaiting.run { host := () }).2 := by
  refine ⟨fussyHost, (), none, _, leftWaiting, fussyHost_hosted, ?_, rfl⟩
  refine .bind (.basic (.inr (.createPipe _))) fun p => ?_
  refine .bind (.basic (.inr (.startPipe _))) fun _ => ?_
  refine .bind (.basic (.inr (.createInterface _ _ _ _))) fun i => ?_
  refine .bind (.basic (.inr (.sendCommand _ _))) fun _ => ?_
  refine .bind (.basic (.inr (.sendCommand _ _))) fun _ => ?_
  refine .bind (.basic (.inr (.sendCommand _ _))) fun _ => ?_
  refine .bind (.basic (.inr (.advance _ _))) fun _ => ?_
  exact .basic (.inr (.receiveFrame _ _))

/-! ## Runs -/

/-- In every run an interface sends its commands in blocks.  A block that a refusal put an end to was
refused itself, or has the number of one that was refused, so many blocks before it as there are
numbers. -/
theorem Reached.in_blocks (reached : Reached w) (i : InterfaceId) :
    ∃ blocks, InBlocks i w.chronicle blocks ∧
      ∀ n b p, blocks[n]? = some b → b.release = some (.refused p) →
        ∃ m b', blocks[m]? = some b' ∧ m ≤ n ∧
          (∃ t, w.chronicle[p]? = some ⟨t, .refused i b'.first.place⟩) ∧
          (Undrawn i w.chronicle b'.first.place b.first.place → 256 ∣ n - m) := by
  obtain ⟨l, balances, -⟩ := reached.tended i
  have inBlocks := balances.reads.sound.inBlocks
  exact ⟨_, inBlocks, fun n b p atN refused => inBlocks.refused_round atN refused⟩

theorem leftWaiting_in_blocks :
    let w := (leftWaiting.run { host := () }).2
    (∃ blocks, InBlocks ⟨1⟩ w.chronicle blocks ∧
      ∀ n b p, blocks[n]? = some b → b.release = some (.refused p) →
        ∃ m b', blocks[m]? = some b' ∧ m ≤ n ∧
          (∃ t, w.chronicle[p]? = some ⟨t, .refused ⟨1⟩ b'.first.place⟩) ∧
          (Undrawn ⟨1⟩ w.chronicle b'.first.place b.first.place → 256 ∣ n - m)) ∧
    (transmissions ⟨1⟩ w.chronicle).map (fun s => (s.1.time, s.2.header.seq)) =
      [(0, 0), (150, 0), (150, 1)] :=
  ⟨leftWaiting_reached.in_blocks ⟨1⟩, by decide +kernel⟩

theorem Ledger.Sound.getLast?_transmissions {l : Ledger} (sound : l.Sound i chronicle)
    (latest : l.blocks.head? = some b) :
    (transmissions i chronicle).getLast? = some (b.latest, b.frame) := by
  obtain ⟨earlier, blocks⟩ := List.head?_eq_some_iff.mp latest
  rw [sound.sent, blocks, List.reverse_cons, List.flatMap_append, List.flatMap_singleton,
    List.getLast?_append, b.getLast?_sent]
  rfl

/-- The latest attempt was the last one at its command: the transport refused the first attempt at this
command, or at one with its number. -/
def RefusedLast (i : InterfaceId) (chronicle : List Happening) : Prop :=
  ∃ o frame, (transmissions i chronicle).getLast? = some (o, frame) ∧
    ∃ p t o' frame', o.place < p ∧ chronicle[p]? = some ⟨t, .refused i o'.place⟩ ∧
      (o', frame') ∈ transmissions i chronicle ∧ frame'.header.seq = frame.header.seq

theorem Ledger.Sound.refusedLast {l : Ledger} (sound : l.Sound i chronicle)
    (latest : l.blocks.head? = some b) {p : Nat} (refused : b.release = some (.refused p)) :
    RefusedLast i chronicle := by
  obtain ⟨after, t, q, there, -, first⟩ :=
    (sound.witnessed b (List.mem_of_mem_head? latest)).refused p refused
  obtain ⟨b', among, same⟩ := List.mem_map.mp first
  obtain ⟨rfl, seq⟩ := Prod.mk.inj same
  refine ⟨_, _, sound.getLast?_transmissions latest, p, t, b'.first, b'.frame, after, there, ?_, seq⟩
  rw [sound.sent]
  exact List.mem_flatMap.mpr ⟨b', List.mem_reverse.mpr among, b'.mem_sent_first⟩

/-- Between calls no command waits in an open interface without one in flight, which was the last to be
sent: unless the transport has refused the latest one.  The retry timer that the interface names for what is in
flight is pending, has a single turn, so long after the latest attempt, and no other timer is for a retry
of the interface. -/
theorem Reached.queue_attended (reached : Reached w) {x : Interface}
    (there : w.interfaces.find? i = some x) (opened : x.closed = false) (waits : x.queue ≠ []) :
    (∃ f t timer o, x.inFlight = some f ∧ x.retryTimer = some t ∧
      (transmissions i w.chronicle).getLast? = some (o, Interface.ackFrame f.seq f.data) ∧
      w.loop.timers.find? t = some timer ∧ timer.job = .retry i ∧ timer.period = none ∧
      o.time + retryDelay ≤ timer.deadline ∧
      ∀ t' timer', w.loop.timers.find? t' = some timer' → timer'.job = .retry i → t' = t) ∨
    RefusedLast i w.chronicle := by
  obtain ⟨l, balances, tended⟩ := reached.tended i
  have sound := balances.reads.sound
  rcases tended x there opened waits with flying | ⟨b, latest, p, refused⟩
  · obtain ⟨f, flying⟩ := Option.isSome_iff_exists.mp flying
    obtain ⟨timed, b, latest, -, rfl⟩ := (balances.tallies x there opened).flying f flying
    obtain ⟨t, names⟩ := Option.isSome_iff_exists.mp timed
    have poised := reached.poised i
    obtain ⟨timer, found⟩ := Option.isSome_iff_exists.mp (poised.pending x t there opened (by simp [flying]) names)
    obtain ⟨retries, once⟩ := (poised.retries i x t there names).own timer found
    obtain ⟨-, b', latest', due⟩ := balances.timers x there opened t timer found retries
    obtain rfl := Option.some.inj (latest.symm.trans latest')
    refine .inl ⟨_, t, timer, b.latest, flying, names, sound.getLast?_transmissions latest, found, retries, once,
      due, fun t' timer' found' retries' => ?_⟩
    obtain ⟨names', -⟩ := balances.timers x there opened t' timer' found' retries'
    exact Option.some.inj (names'.symm.trans names)
  · exact .inr (sound.refusedLast latest refused)

theorem leftWaiting_queue_attended :
    let w := (leftWaiting.run { host := () }).2
    let x := w.interface ⟨1⟩
    (w.interfaces.find? ⟨1⟩ = some x ∧ x.closed = false ∧ x.queue ≠ []) ∧
    ((∃ f t timer o, x.inFlight = some f ∧ x.retryTimer = some t ∧
      (transmissions ⟨1⟩ w.chronicle).getLast? = some (o, Interface.ackFrame f.seq f.data) ∧
      w.loop.timers.find? t = some timer ∧ timer.job = .retry ⟨1⟩ ∧ timer.period = none ∧
      o.time + retryDelay ≤ timer.deadline ∧
      ∀ t' timer', w.loop.timers.find? t' = some timer' → timer'.job = .retry ⟨1⟩ → t' = t) ∨
    RefusedLast ⟨1⟩ w.chronicle) ∧
    x.inFlight = none ∧ w.loop.timers.toList.length = 0 := by
  intro w x
  have reached : Reached w := leftWaiting_reached
  have opened : x.closed = false := by decide +kernel
  have waits : x.queue ≠ [] := by
    have one : x.queue.length = 1 := by decide +kernel
    exact List.ne_nil_of_length_pos (Nat.lt_of_lt_of_eq Nat.one_pos one.symm)
  have there : w.interfaces.find? ⟨1⟩ = some x := by
    obtain ⟨y, found, -⟩ := World.find?_of_open opened
    exact found.trans (congrArg some (World.interface_of_find? found).symm)
  have idle : x.inFlight = none := by decide +kernel
  have still : w.loop.timers.toList.length = 0 := by decide +kernel
  clear_value x w
  exact ⟨⟨there, opened, waits⟩, reached.queue_attended there opened waits, idle, still⟩

end DroneControl
