import DroneControl.Proofs.Interface.Ledger
import DroneControl.Proofs.Interface.Watching

/-!
# The desk of an interface

What of a world bears on an interface: its row, the history, and the loop with its retry timers.  A desk
balances with a ledger if the history reads as the ledger and the row says the same as its last page:
what waits is in the queue, and the command in flight is the one of the latest block, as long as nothing
has put an end to it.  Everything that an interface does takes a balanced desk to a balanced one.
-/

namespace DroneControl

variable {σ : Type}

/-- The desk agrees with the ledger. -/
structure Desk where
  /-- The number of the next interface. -/
  next : Nat
  row : Option Interface
  chronicle : List Happening
  loop : Loop

def World.desk (w : World σ) (i : InterfaceId) : Desk where
  next := w.interfaces.next
  row := w.interfaces.find? i
  chronicle := w.chronicle
  loop := w.loop

def Interface.Like (x' x : Interface) : Prop :=
  x'.closed = false → x.closed = false ∧ x'.queue = x.queue ∧
    x'.lastSent BufferId.toDeviceAck = x.lastSent BufferId.toDeviceAck ∧
    x'.inFlight = x.inFlight ∧ x'.retryTimer = x.retryTimer

/-- The row of an open interface says what the ledger says. -/
structure Interface.Tallies (x : Interface) (l : Ledger) (clock : Nat) : Prop where
  queue : x.queue = l.waiting
  counter : x.lastSent BufferId.toDeviceAck = l.counter
  flying : ∀ f, x.inFlight = some f → x.retryTimer.isSome ∧
    ∃ b, l.blocks.head? = some b ∧ b.release = none ∧ f = ⟨b.seq, b.data, b.again.length⟩
  idle : x.inFlight = none → ∀ b ∈ l.blocks.head?, b.Over clock

/-- Retry timers of the interface fire once, and not before they are due. -/
structure Loop.Punctual (i : InterfaceId) (l : Loop) : Prop where
  once : ∀ t timer, l.timers.find? t = some timer → timer.job = .retry i → timer.period = none
  unasked : .run (.retry i) ∉ l.queue
  named : ∀ t, .wake t ∈ l.queue → t.number < l.timers.next
  due : ∀ t timer, .wake t ∈ l.queue → l.timers.find? t = some timer → timer.job = .retry i →
    timer.deadline ≤ l.clock

/-- The desk agrees with the ledger. -/
structure Desk.Balances (i : InterfaceId) (d : Desk) (l : Ledger) : Prop where
  reads : l.Reads i d.chronicle
  made : d.row.isSome → i.number < d.next
  unmade : d.next ≤ i.number → l = {} ∧
    ∀ t timer, d.loop.timers.find? t = some timer → timer.job ≠ .retry i
  tallies : ∀ x, d.row = some x → x.closed = false → x.Tallies l d.loop.clock
  timers : ∀ x, d.row = some x → x.closed = false →
    ∀ t timer, d.loop.timers.find? t = some timer → timer.job = .retry i →
      x.retryTimer = some t ∧ ∃ b ∈ l.blocks.head?, b.latest.time + retryDelay ≤ timer.deadline
  punctual : d.loop.Punctual i

/-- Nothing waits without a command in flight, unless the transport has just refused one. -/
def Desk.Tended (d : Desk) (l : Ledger) : Prop :=
  ∀ x, d.row = some x → x.closed = false → x.queue ≠ [] →
    x.inFlight.isSome ∨ ∃ b ∈ l.blocks.head?, ∃ p, b.release = some (.refused p)

/-! ## Loops -/

namespace Loop

variable {i : InterfaceId} {l l' : Loop}

def relay (l : Loop) (i : InterfaceId) (old : Option TimerId) : Loop :=
  (l.after retryDelay (.retry i)).2.cancel? old

theorem GoesOn.cancel? (old : Option TimerId) : l.GoesOn (l.cancel? old) := by
  cases old with
  | none => exact .refl l
  | some t => exact .cancel t

theorem Punctual.of_less (punctual : l.Punctual i) (queue : ∀ task ∈ l'.queue, task ∈ l.queue)
    (clock : l.clock ≤ l'.clock) (next : l.timers.next ≤ l'.timers.next)
    (timers : ∀ t timer, l'.timers.find? t = some timer → timer.job = .retry i →
      l.timers.find? t = some timer) : l'.Punctual i where
  once t timer found retries := punctual.once t timer (timers t timer found retries) retries
  unasked among := punctual.unasked (queue _ among)
  named t among := (punctual.named t (queue _ among)).trans_le next
  due t timer among found retries :=
    (punctual.due t timer (queue _ among) (timers t timer found retries) retries).trans clock

theorem Punctual.cancel? (punctual : l.Punctual i) (old : Option TimerId) :
    (l.cancel? old).Punctual i := by
  refine punctual.of_less ?_ (cancel?_clock old).ge (cancel?_next old).ge
    fun t timer found _ => (find?_cancel? found).1
  rw [cancel?_queue]
  exact fun _ => id

theorem find?_relay {old : Option TimerId} {t : TimerId} {timer : Timer}
    (found : (l.relay i old).timers.find? t = some timer) :
    (t = ⟨l.timers.next⟩ ∧ timer = ⟨l.clock + retryDelay, none, .retry i⟩) ∨
      l.timers.find? t = some timer ∧ old ≠ some t := by
  obtain ⟨found, kept⟩ := find?_cancel? found
  simp only [after, Table.find?_add] at found
  split at found
  · next same => exact .inl ⟨same.symm, (Option.some.inj found).symm⟩
  · exact .inr ⟨found, kept⟩

theorem relay_queue (old : Option TimerId) : (l.relay i old).queue = l.queue :=
  cancel?_queue old

theorem relay_clock (old : Option TimerId) : (l.relay i old).clock = l.clock :=
  cancel?_clock old

theorem relay_next (old : Option TimerId) : (l.relay i old).timers.next = l.timers.next + 1 := by
  rw [relay, cancel?_next, after, Table.next_add]

theorem GoesOn.relay (old : Option TimerId) : l.GoesOn (l.relay i old) :=
  (GoesOn.add l _ _).trans (.cancel? old)

theorem Punctual.relay (punctual : l.Punctual i) (old : Option TimerId) :
    (l.relay i old).Punctual i where
  once t timer found retries := by
    rcases find?_relay found with ⟨-, rfl⟩ | ⟨found, -⟩
    · rfl
    · exact punctual.once t timer found retries
  unasked := by
    rw [relay_queue]
    exact punctual.unasked
  named t among := by
    rw [relay_queue] at among
    rw [relay_next]
    exact (punctual.named t among).trans (Nat.lt_succ_self _)
  due t timer among found retries := by
    rw [relay_queue] at among
    rw [relay_clock]
    rcases find?_relay found with ⟨rfl, -⟩ | ⟨found, -⟩
    · exact absurd (punctual.named _ among) (lt_irrefl _)
    · exact punctual.due t timer among found retries

end Loop

/-! ## Rows -/

namespace Desk.Balances

variable {i : InterfaceId} {d : Desk} {l : Ledger} {x x' : Interface}

theorem aside (h : d.Balances i l) {y : Happening} (ignores : l.Ignores i y.what) :
    { d with chronicle := d.chronicle ++ [y] }.Balances i l :=
  { h with reads := .entry h.reads (.aside ignores) }

theorem replace (h : d.Balances i l) (row : d.row = some x) (like : x'.Like x) :
    { d with row := some x' }.Balances i l where
  reads := h.reads
  made _ := h.made (by simp [row])
  unmade := h.unmade
  tallies _ is open' := by
    obtain rfl := Option.some.inj is
    obtain ⟨opened, queue, sent, flight, timer⟩ := like open'
    obtain ⟨queue', counter, flying, idle⟩ := h.tallies x row opened
    exact ⟨queue.trans queue', sent.trans counter, by rwa [flight, timer], by rwa [flight]⟩
  timers _ is open' := by
    obtain rfl := Option.some.inj is
    obtain ⟨opened, -, -, -, timer⟩ := like open'
    rw [timer]
    exact h.timers x row opened
  punctual := h.punctual

theorem quiet (h : d.Balances i l) (row : d.row = some x) (opened : x.closed = false) (t : TimerId)
    (timer : Timer) (found : (d.loop.cancel? x.retryTimer).timers.find? t = some timer) :
    timer.job ≠ .retry i := by
  intro retries
  obtain ⟨found, kept⟩ := Loop.find?_cancel? found
  exact kept (h.timers x row opened t timer found retries).1

theorem enqueue (h : d.Balances i l) (row : d.row = some x) (opened : x.closed = false)
    (data : Bytes) :
    { d with
      row := some { x with queue := x.queue ++ [data] }
      chronicle := d.chronicle ++ [(⟨d.loop.clock, .queued i data⟩ : Happening)] }.Balances i
        (l.enqueue data) where
  reads := .entry h.reads (.queued l _ data)
  made _ := h.made (by simp [row])
  unmade new := absurd (h.made (by simp [row])) (Nat.not_lt.mpr new)
  tallies _ is _ := by
    obtain rfl := Option.some.inj is
    have tallies := h.tallies x row opened
    exact { tallies with queue := by rw [tallies.queue]; rfl }
  timers _ is _ := by
    obtain rfl := Option.some.inj is
    exact h.timers x row opened
  punctual := h.punctual

theorem begin (h : d.Balances i l) (row : d.row = some x) (opened : x.closed = false)
    (idle : x.inFlight = none) {data : Bytes} {rest : List Bytes} (queue : x.queue = data :: rest)
    (sent : UInt8 → UInt8) (drawn : sent BufferId.toDeviceAck = l.counter + 1) :
    { d with
      row := some
        { x with
          queue := rest
          lastSent := sent
          inFlight := some ⟨l.counter + 1, data, 0⟩
          retryTimer := some ⟨d.loop.timers.next⟩ }
      chronicle := d.chronicle ++
        [(⟨d.loop.clock, .offered i (Interface.ackFrame (l.counter + 1) data)⟩ : Happening)]
      loop := d.loop.relay i x.retryTimer }.Balances i
        (l.begin data rest ⟨d.chronicle.length, d.loop.clock⟩) where
  reads := by
    have tallies := h.tallies x row opened
    exact .entry h.reads (.begin (tallies.queue ▸ queue) (tallies.idle idle))
  made _ := h.made (by simp [row])
  unmade new := absurd (h.made (by simp [row])) (Nat.not_lt.mpr new)
  tallies _ is _ := by
    obtain rfl := Option.some.inj is
    refine ⟨rfl, drawn, ?_, nofun⟩
    rintro _ ⟨⟩
    exact ⟨rfl, _, rfl, rfl, rfl⟩
  timers _ is _ t timer found retries := by
    obtain rfl := Option.some.inj is
    rcases Loop.find?_relay found with ⟨rfl, rfl⟩ | ⟨old, kept⟩
    · exact ⟨rfl, _, rfl, le_rfl⟩
    · exact absurd (h.timers x row opened t timer old retries).1 kept
  punctual := h.punctual.relay _

theorem again (h : d.Balances i l) (row : d.row = some x) (opened : x.closed = false)
    {f : InFlight} (flying : x.inFlight = some f) (more : f.retries < maxRetries)
    (late : ∀ b ∈ l.blocks.head?, b.latest.time + retryDelay ≤ d.loop.clock) :
    { d with
      row := some
        { x with
          inFlight := some { f with retries := f.retries + 1 }
          retryTimer := some ⟨d.loop.timers.next⟩ }
      chronicle := d.chronicle ++
        [(⟨d.loop.clock, .offered i (Interface.ackFrame f.seq f.data)⟩ : Happening)]
      loop := d.loop.relay i x.retryTimer }.Balances i
        (l.resend ⟨d.chronicle.length, d.loop.clock⟩) := by
  have tallies := h.tallies x row opened
  obtain ⟨-, b, latest, held, rfl⟩ := tallies.flying f flying
  obtain ⟨earlier, blocks⟩ := List.head?_eq_some_iff.mp latest
  have blocks' := Ledger.blocks_resend blocks ⟨d.chronicle.length, d.loop.clock⟩
  refine ⟨.entry h.reads (.again latest held more (late b latest)), fun _ => h.made (by simp [row]),
    fun new => absurd (h.made (by simp [row])) (Nat.not_lt.mpr new), ?_, ?_, h.punctual.relay _⟩
  · rintro _ ⟨⟩ -
    refine ⟨tallies.queue, tallies.counter, ?_, nofun⟩
    rintro _ ⟨⟩
    exact ⟨rfl, { b with again := ⟨d.chronicle.length, d.loop.clock⟩ :: b.again },
      by rw [blocks']; rfl, held, rfl⟩
  · rintro _ ⟨⟩ - t timer found retries
    rcases Loop.find?_relay found with ⟨rfl, rfl⟩ | ⟨old, kept⟩
    · exact ⟨rfl, _, by rw [blocks']; rfl, le_rfl⟩
    · exact absurd (h.timers x row opened t timer old retries).1 kept

theorem clear (h : d.Balances i l) (row : d.row = some x) (opened : x.closed = false)
    (ends : ∀ b ∈ l.blocks.head?, b.Over d.loop.clock) :
    { d with
      row := some { x with inFlight := none, retryTimer := none }
      loop := d.loop.cancel? x.retryTimer }.Balances i l where
  reads := h.reads
  made _ := h.made (by simp [row])
  unmade new := absurd (h.made (by simp [row])) (Nat.not_lt.mpr new)
  tallies _ is _ := by
    obtain rfl := Option.some.inj is
    have tallies := h.tallies x row opened
    refine ⟨tallies.queue, tallies.counter, nofun, fun _ => ?_⟩
    rw [Loop.cancel?_clock]
    exact ends
  timers _ is _ t timer found retries := absurd retries (h.quiet row opened t timer found)
  punctual := h.punctual.cancel? _

theorem conclude (h : d.Balances i l) (row : d.row = some x) (opened : x.closed = false) {b : Block}
    (latest : l.blocks.head? = some b) {y : Happening} {r : Release}
    (step : Ledger.Step i d.chronicle.length y l (l.conclude r)) :
    { d with
      row := some { x with inFlight := none, retryTimer := none }
      chronicle := d.chronicle ++ [y]
      loop := d.loop.cancel? x.retryTimer }.Balances i (l.conclude r) := by
  obtain ⟨earlier, blocks⟩ := List.head?_eq_some_iff.mp latest
  have tallies := h.tallies x row opened
  refine ⟨.entry h.reads step, fun _ => h.made (by simp [row]),
    fun new => absurd (h.made (by simp [row])) (Nat.not_lt.mpr new), ?_, ?_, h.punctual.cancel? _⟩
  · rintro _ ⟨⟩ -
    refine ⟨tallies.queue, tallies.counter, nofun, fun _ => ?_⟩
    rw [Ledger.blocks_conclude blocks]
    rintro _ ⟨⟩
    exact .inl rfl
  · rintro _ ⟨⟩ - t timer found retries
    exact absurd retries (h.quiet row opened t timer found)

theorem acknowledge (h : d.Balances i l) (row : d.row = some x) (opened : x.closed = false)
    {f : InFlight} (flying : x.inFlight = some f) {frame : Frame} (acks : frame.acks f.seq) :
    { d with
      row := some { x with inFlight := none, retryTimer := none }
      chronicle := d.chronicle ++ [(⟨d.loop.clock, .arrived i frame⟩ : Happening)]
      loop := d.loop.cancel? x.retryTimer }.Balances i
        (l.conclude (.acknowledged d.chronicle.length)) := by
  obtain ⟨-, b, latest, held, rfl⟩ := (h.tallies x row opened).flying f flying
  exact h.conclude row opened latest (.acknowledged latest held acks)

theorem refuse (h : d.Balances i l) (row : d.row = some x) (opened : x.closed = false)
    {f : InFlight} (flying : x.inFlight = some f) {q : Nat} (first : (q, f.seq) ∈ l.begun) :
    { d with
      row := some { x with inFlight := none, retryTimer := none }
      chronicle := d.chronicle ++ [(⟨d.loop.clock, .refused i q⟩ : Happening)]
      loop := d.loop.cancel? x.retryTimer }.Balances i
        (l.conclude (.refused d.chronicle.length)) := by
  obtain ⟨-, b, latest, held, rfl⟩ := (h.tallies x row opened).flying f flying
  exact h.conclude row opened latest (.refused latest held first)

theorem acknowledge_late (h : d.Balances i l) (row : d.row = some x) (opened : x.closed = false)
    (idle : x.inFlight = none) {b : Block} (latest : l.blocks.head? = some b)
    (held : b.release = none) {frame : Frame} (acks : frame.acks b.seq) :
    { d with chronicle := d.chronicle ++ [(⟨d.loop.clock, .arrived i frame⟩ : Happening)] }.Balances
      i (l.conclude (.acknowledged d.chronicle.length)) := by
  obtain ⟨earlier, blocks⟩ := List.head?_eq_some_iff.mp latest
  have blocks' := Ledger.blocks_conclude blocks (.acknowledged d.chronicle.length)
  have tallies := h.tallies x row opened
  refine ⟨.entry h.reads (.acknowledged latest held acks), h.made,
    fun new => absurd (h.made (by simp [row])) (Nat.not_lt.mpr new), ?_, ?_, h.punctual⟩
  · intro x' row' _
    obtain rfl := Option.some.inj (row.symm.trans row')
    refine ⟨tallies.queue, tallies.counter, by simp [idle], fun _ => ?_⟩
    rw [blocks']
    rintro _ ⟨⟩
    exact .inl rfl
  · intro x' row' opened' t timer found retries
    obtain ⟨named, b', latest', late⟩ := h.timers x' row' opened' t timer found retries
    obtain rfl := Option.some.inj (latest.symm.trans latest')
    exact ⟨named, { b with release := some (.acknowledged d.chronicle.length) },
      by rw [blocks']; rfl, late⟩

theorem draw (h : d.Balances i l) (row : d.row = some x) (opened : x.closed = false)
    {frame : Frame} (draws : frame.drawsOnCommands) {sent : UInt8 → UInt8}
    (drawn : sent BufferId.toDeviceAck = l.counter + 1) :
    { d with
      row := some { x with lastSent := sent }
      chronicle := d.chronicle ++ [(⟨d.loop.clock, .arrived i frame⟩ : Happening)] }.Balances
        i l.draw where
  reads := .entry h.reads (.drawn l _ draws)
  made _ := h.made (by simp [row])
  unmade new := absurd (h.made (by simp [row])) (Nat.not_lt.mpr new)
  tallies _ is _ := by
    obtain rfl := Option.some.inj is
    exact { h.tallies x row opened with counter := drawn }
  timers _ is _ := by
    obtain rfl := Option.some.inj is
    exact h.timers x row opened
  punctual := h.punctual

theorem shut (h : d.Balances i l) (row : d.row = some x) (closed : x'.closed = true)
    (old : Option TimerId) :
    { d with row := some x', loop := d.loop.cancel? old }.Balances i l where
  reads := h.reads
  made _ := h.made (by simp [row])
  unmade new := absurd (h.made (by simp [row])) (Nat.not_lt.mpr new)
  tallies _ is opened := by
    obtain rfl := Option.some.inj is
    simp [closed] at opened
  timers _ is opened := by
    obtain rfl := Option.some.inj is
    simp [closed] at opened
  punctual := h.punctual.cancel? old

theorem create (h : d.Balances i l) (new : d.next = i.number) (device : DeviceHandle)
    (pipe : PipeId) (sink : CommandSink) (traceCell : TraceCellId) :
    { d with next := d.next + 1, row := some { device, pipe, sink, traceCell } }.Balances i l := by
  obtain ⟨rfl, none⟩ := h.unmade new.le
  refine ⟨h.reads, fun _ => by simp [new], fun later => absurd later (by simp [new]), ?_, ?_,
    h.punctual⟩
  · rintro _ ⟨⟩ -
    exact ⟨rfl, rfl, nofun, nofun⟩
  · rintro _ ⟨⟩ - t timer found retries
    exact absurd retries (none t timer found)

theorem turn (h : d.Balances i l) {loop : Loop} (clock : d.loop.clock ≤ loop.clock)
    (timers : ∀ t timer, loop.timers.find? t = some timer → timer.job = .retry i →
      d.loop.timers.find? t = some timer) (punctual : loop.Punctual i) :
    { d with loop }.Balances i l where
  reads := h.reads
  made := h.made
  unmade new := by
    obtain ⟨empty, none⟩ := h.unmade new
    exact ⟨empty, fun t timer found retries => none t timer (timers t timer found retries) retries⟩
  tallies x row opened := by
    have tallies := h.tallies x row opened
    refine { tallies with idle := fun idle b latest => ?_ }
    exact (tallies.idle idle b latest).imp id fun expired => ⟨expired.1, expired.2.trans clock⟩
  timers x row opened t timer found retries :=
    h.timers x row opened t timer (timers t timer found retries) retries
  punctual := punctual

end Desk.Balances

/-! ## What leaves the interface alone -/

theorem Ledger.ignores_of_aside {i : InterfaceId} {o : Occurrence} (aside : ¬o.concerns i)
    (l : Ledger) : l.Ignores i o := by
  cases o with
  | queued i' data => exact aside
  | offered i' frame => exact .inl aside
  | arrived i' frame => exact .inl aside
  | _ => trivial

theorem Loop.Spares.punctual {i : InterfaceId} {l l' : Loop} (spares : l.Spares i l')
    (punctual : l.Punctual i) : l'.Punctual i where
  once t timer found retries :=
    punctual.once t timer (spares.timers t timer found retries) retries
  unasked among := by
    rcases spares.queue _ among with old | ⟨job, same, other⟩ | ⟨t, same, -⟩
    · exact punctual.unasked old
    · exact other (Task.run.inj same).symm
    · exact nomatch same
  named t among := by
    rcases spares.queue _ among with old | ⟨job, same, -⟩ | ⟨t', same, -, named⟩
    · exact (punctual.named t old).trans_le spares.named
    · exact nomatch same
    · exact Task.wake.inj same ▸ named
  due t timer among found retries := by
    have before := spares.timers t timer found retries
    rcases spares.queue _ among with old | ⟨job, same, -⟩ | ⟨t', same, new, -⟩
    · exact (punctual.due t timer old before retries).trans spares.clock
    · exact nomatch same
    · exact absurd (Table.lt_next before) (Nat.not_lt.mpr (Task.wake.inj same ▸ new))

namespace Spares

variable {i : InterfaceId} {w w' : World σ} {l : Ledger}

theorem balances (spares : Spares i w w') (h : (w.desk i).Balances i l) :
    (w'.desk i).Balances i l := by
  obtain ⟨more, history, aside⟩ := spares.history
  have chronicle : w'.chronicle = w.chronicle ++ more.reverse := by
    simp [World.chronicle, history]
  have turned := h.turn spares.loop.clock spares.loop.timers
    (spares.loop.punctual h.punctual)
  refine ⟨?_, fun there => ?_, fun new => turned.unmade (spares.known.trans new), ?_, ?_,
    turned.punctual⟩
  · change l.Reads i w'.chronicle
    rw [chronicle]
    exact h.reads.append_aside fun y among =>
      Ledger.ignores_of_aside (aside y (List.mem_reverse.mp among)) l
  · obtain ⟨x', row'⟩ := Option.isSome_iff_exists.mp there
    exact Table.lt_next row'
  · intro x' row' opened
    obtain ⟨x, row, same⟩ := spares.row x' row'
    rw [same] at opened ⊢
    exact { turned.tallies x row opened with }
  · intro x' row' opened
    obtain ⟨x, row, same⟩ := spares.row x' row'
    rw [same] at opened ⊢
    exact turned.timers x row opened

theorem tended (spares : Spares i w w') (h : (w.desk i).Tended l) : (w'.desk i).Tended l := by
  intro x' row' opened waits
  obtain ⟨x, row, same⟩ := spares.row x' row'
  rw [same] at opened waits ⊢
  exact h x row opened waits

end Spares

end DroneControl
