import DroneControl.Proofs.Interface.Desk

/-!
# What an interface does to its desk

Every operation of an interface takes a balanced desk to a balanced one, whatever the link and the
listener do when they are called.  An operation first brings the desk in order and only then calls on
somebody; what it does afterwards it does to the desk as it finds it.
-/

set_option synthInstance.maxSize 2048

namespace DroneControl

variable {σ : Type} {i : InterfaceId} {w w' w₁ w₂ : World σ} {l l' l₁ : Ledger} {x : Interface}
  {env : Env σ}

/-- The ledger is kept from one world to the next. -/
structure Onward (i : InterfaceId) (w w' : World σ) (l l' : Ledger) : Prop where
  balances : (w'.desk i).Balances i l'
  tended : (w'.desk i).Tended l'
  begun : l.begun <:+ l'.begun
  loop : w.loop.GoesOn w'.loop

def Accounts (i : InterfaceId) (w w' : World σ) : Prop :=
  ∀ l, (w.desk i).Balances i l → (w.desk i).Tended l → ∃ l', Onward i w w' l l'

namespace Onward

theorem stay (balances : (w.desk i).Balances i l) (tended : (w.desk i).Tended l) :
    Onward i w w l l :=
  ⟨balances, tended, List.suffix_refl _, .refl _⟩

theorem trans {l₂ : Ledger} (o : Onward i w w₁ l l₁) (o' : Onward i w₁ w₂ l₁ l₂) :
    Onward i w w₂ l l₂ :=
  ⟨o'.balances, o'.tended, o.begun.trans o'.begun, o.loop.trans o'.loop⟩

theorem following {d : Desk} (desk : w₁.desk i = d) (begun : l.begun <:+ l₁.begun)
    (loop : w.loop.GoesOn d.loop) (o : Onward i w₁ w₂ l₁ l') : Onward i w w₂ l l' := by
  subst desk
  exact ⟨o.balances, o.tended, begun.trans o.begun, loop.trans o.loop⟩

theorem next (o : Onward i w w₁ l l₁) (accounts : Accounts i w₁ w₂) :
    ∃ l₂, Onward i w w₂ l l₂ := by
  obtain ⟨l₂, o'⟩ := accounts l₁ o.balances o.tended
  exact ⟨l₂, o.trans o'⟩

theorem keep {α : Type} {a : Act σ α} [h : Holds (Keeps (Accounts i)) a]
    (o : Onward i w w₁ l l₁) : ∃ l₂, Onward i w (a.run w₁).2 l l₂ :=
  o.next (h.holds w₁)

theorem of_desk {d : Desk} (desk : w'.desk i = d) (balances : d.Balances i l')
    (tended : d.Tended l') (begun : l.begun <:+ l'.begun) (loop : w.loop.GoesOn d.loop) :
    Onward i w w' l l' := by
  subst desk
  exact ⟨balances, tended, begun, loop⟩

end Onward

instance Accounts.watches : Watches (σ := σ) i (Accounts i) where
  spares spares l balances tended :=
    ⟨l, spares.balances balances, spares.tended tended, List.suffix_refl _, spares.loop.toGoesOn⟩
  trans h h' l balances tended := by
    obtain ⟨l₁, o⟩ := h l balances tended
    exact o.next h'

/-! ## Desks -/

theorem World.desk_update (row : (w.desk i).row = some x) (f : Interface → Interface) :
    (w.updateInterface i f).desk i = { w.desk i with row := some (f x) } := by
  have row : w.interfaces.find? i = some x := row
  simp [World.desk, World.updateInterface, Table.find?_update, Table.next_update, row, World.chronicle]

theorem World.desk_update_of_none (row : (w.desk i).row = none) (f : Interface → Interface) :
    (w.updateInterface i f).desk i = w.desk i := by
  have row : w.interfaces.find? i = none := row
  simp [World.desk, World.updateInterface, Table.update, row, World.chronicle]

theorem World.interface_of_row_none (row : (w.desk i).row = none) : w.interface i = default := by
  have row : w.interfaces.find? i = none := row
  simp [World.interface, Table.get, row]

theorem World.desk_mark (w : World σ) (i : InterfaceId) (o : Occurrence) :
    (w.mark o).desk i =
      { w.desk i with chronicle := w.chronicle ++ [(⟨w.loop.clock, o⟩ : Happening)] } := by
  simp [World.desk, World.chronicle, World.mark]

theorem World.desk_log (w : World σ) (i : InterfaceId) (s : Severity) (message : String)
    (fields : List (String × String)) : (w.log s message fields).desk i = w.desk i := by
  unfold World.log
  split <;> rfl

theorem World.desk_loop (w : World σ) (i : InterfaceId) (loop : Loop) :
    World.desk { w with loop } i = { w.desk i with loop } := rfl

theorem run_schedule (delay : Nat) (job : Job) (w : World σ) :
    (schedule delay job).run w =
      (⟨w.loop.timers.next⟩, { w with loop := (w.loop.after delay job).2 }) := rfl

theorem run_cancelTimer? (t : Option TimerId) (w : World σ) :
    (cancelTimer? t).run w = ((), { w with loop := w.loop.cancel? t }) := by
  cases t <;> rfl

namespace Interface

theorem awaits_iff_flying {seq : UInt8} : (w.interface i).awaits seq ↔
    ∃ x f, (w.desk i).row = some x ∧ x.inFlight = some f ∧ f.seq = seq := by
  unfold World.desk World.interface Table.get
  cases w.interfaces.find? i with
  | none => simp [default, awaits]
  | some x => cases flying : x.inFlight <;> simp [awaits, flying]

theorem trace_desk (i i' : InterfaceId) (d : Direction) (c : Command) (w : World σ) :
    ((trace i' d c).run w).2.desk i = w.desk i := by
  unfold trace
  rw [run_bind, run_get]
  dsimp only
  split <;> rfl

theorem setTimer_desk (row : (w.desk i).row = some x) (timer : Option TimerId) :
    ((setTimer i timer).run w).2.desk i =
      { w.desk i with
        row := some { x with retryTimer := timer }
        loop := w.loop.cancel? x.retryTimer } := by
  unfold setTimer
  rw [run_bind, run_get, run_bind, World.interface_of_find? row, run_cancelTimer?, run_modify]
  exact World.desk_update (w := { w with loop := w.loop.cancel? x.retryTimer }) row _

theorem clearFlight_desk (row : (w.desk i).row = some x) :
    ((clearFlight i).run w).2.desk i =
      { w.desk i with
        row := some { x with inFlight := none, retryTimer := none }
        loop := w.loop.cancel? x.retryTimer } := by
  unfold clearFlight
  rw [run_bind, run_modify]
  have cleared := World.desk_update row fun x => { x with inFlight := none }
  have row' := congrArg Desk.row cleared
  rw [setTimer_desk row', cleared]
  rfl

theorem launch_desk (row : (w.desk i).row = some x) (f : InFlight) :
    ((launch i f).run w).2.desk i =
      { w.desk i with
        row := some { x with inFlight := some f, retryTimer := some ⟨w.loop.timers.next⟩ }
        loop := w.loop.relay i x.retryTimer } := by
  unfold launch
  rw [run_bind, run_modify, run_bind, run_schedule]
  have placed := World.desk_update row fun x => { x with inFlight := some f }
  dsimp only
  generalize w.updateInterface i (fun x => { x with inFlight := some f }) = w₁ at placed
  have loop : w₁.loop = w.loop := congrArg Desk.loop placed
  have scheduled := w₁.desk_loop i (w₁.loop.after retryDelay (.retry i)).2
  rw [placed] at scheduled
  rw [setTimer_desk (congrArg Desk.row scheduled), scheduled, loop]
  rfl

theorem drawSeq_desk (row : (w.desk i).row = some x) (buffer : UInt8) :
    ((drawSeq i buffer).run w).1 = x.lastSent buffer + 1 ∧
      ((drawSeq i buffer).run w).2.desk i =
        { w.desk i with row := some (x.takeSeq buffer).2 } := by
  unfold drawSeq
  rw [run_modifyGet, World.interface_of_find? row]
  exact ⟨rfl, World.desk_update row _⟩

/-! ## Sending commands -/

theorem log_onward (o : Onward i w w₁ l l₁) (s : Severity) (message : String)
    (fields : List (String × String)) : Onward i w (w₁.log s message fields) l l₁ :=
  .of_desk (w₁.desk_log i s message fields) o.balances o.tended o.begun o.loop

theorem clear_refused {place : Nat} {f : InFlight} (h : (w.desk i).Balances i l)
    (first : (place, f.seq) ∈ l.begun) (row : (w.desk i).row = some x)
    (flying : x.inFlight = some f) :
    ∃ l', Onward i w ((clearFlight i).run (w.mark (.refused i place))).2 l l' := by
  have desk := w.desk_mark i (.refused i place)
  have cleared := clearFlight_desk (w := w.mark (.refused i place)) row
  rw [desk] at cleared
  have loop : w.loop.GoesOn (w.loop.cancel? x.retryTimer) := .cancel? _
  cases opened : x.closed with
  | true =>
    have balances := h.aside (y := ⟨w.loop.clock, .refused i place⟩) trivial
    refine ⟨l, .of_desk cleared (balances.shut row ?_ _) ?_ (List.suffix_refl _) loop⟩
    · exact opened
    · rintro _ ⟨⟩ open'
      exact absurd (opened.symm.trans open') nofun
  | false =>
    refine ⟨_, .of_desk cleared (h.refuse row opened flying first) ?_ ?_ loop⟩
    · obtain ⟨-, b, latest, -⟩ := (h.tallies x row opened).flying f flying
      obtain ⟨earlier, blocks⟩ := List.head?_eq_some_iff.mp latest
      intro _ _ _ _
      refine .inr ⟨{ b with release := some (.refused w.chronicle.length) }, ?_, _, rfl⟩
      rw [Ledger.blocks_conclude blocks]
      rfl
    · simp

theorem refused_onward {place : Nat} {seq : UInt8} (o : Onward i w w₁ l l₁)
    (first : (place, seq) ∈ l₁.begun) (message : String)
    (fields : List (String × String)) :
    ∃ l₂, Onward i w ((do
      if ((← get).interface i).awaits seq then
        clearFlight i
        log .warn message fields : Act σ Unit).run (w₁.mark (.refused i place))).2 l l₂ := by
  rw [run_bind, run_get]
  dsimp only
  split
  · next awaited =>
    obtain ⟨x, f, row, flying, rfl⟩ := awaits_iff_flying.mp awaited
    obtain ⟨l₂, cleared⟩ := clear_refused o.balances first row flying
    exact ⟨l₂, log_onward (o.trans cleared) _ _ _⟩
  · exact ⟨l₁, .of_desk (w₁.desk_mark i _) (o.balances.aside (y := ⟨_, _⟩) trivial) o.tended o.begun
      o.loop⟩

theorem begin_onward (h : (w.desk i).Balances i l) (row : (w.desk i).row = some x)
    (opened : x.closed = false) (idle : x.inFlight = none) {data : Bytes} {rest : List Bytes}
    (queue : x.queue = data :: rest) {seq : UInt8} {w₃ : World σ}
    (drawn : (drawSeq i BufferId.toDeviceAck).run
      (w.updateInterface i fun x => { x with queue := rest }) = (seq, w₂))
    (launched : ((launch i ⟨seq, data, 0⟩).run w₂).2 = w₃) :
    seq = l.counter + 1 ∧ w₃.history.length = w.history.length ∧
      Onward i w (w₃.mark (.offered i (ackFrame seq data))) l
        (l.begin data rest ⟨w.history.length, w.loop.clock⟩) := by
  have taken := World.desk_update row fun x => { x with queue := rest }
  obtain ⟨number, desk₂⟩ := drawSeq_desk (congrArg Desk.row taken) BufferId.toDeviceAck
  rw [drawn, taken] at desk₂
  have counted : seq = l.counter + 1 := by
    rw [drawn] at number
    exact number.trans (congrArg (· + 1) (h.tallies x row opened).counter)
  have desk₃ := launch_desk (congrArg Desk.row desk₂) ⟨seq, data, 0⟩
  rw [launched, desk₂, show w₂.loop = w.loop from congrArg Desk.loop desk₂] at desk₃
  have same : w₃.chronicle = w.chronicle := congrArg Desk.chronicle desk₃
  have marked := w₃.desk_mark i (.offered i (ackFrame seq data))
  rw [desk₃, same, show w₃.loop = _ from congrArg Desk.loop desk₃, Loop.relay_clock] at marked
  have place (w : World σ) : w.chronicle.length = w.history.length := List.length_reverse
  refine ⟨counted, by rw [← place, same, place], ?_⟩
  obtain rfl := counted
  have begun := h.begin row opened idle queue
    (takeSeq { x with queue := rest } BufferId.toDeviceAck).2.lastSent
    (by simpa [takeSeq] using (h.tallies x row opened).counter)
  rw [show (w.desk i).chronicle.length = w.history.length from place w] at begun
  refine .of_desk marked begun ?_ (List.suffix_cons _ _) (.relay _)
  rintro _ ⟨⟩ - -
  exact .inl rfl

variable [Upheld (Keeps (Accounts i)) env]

variable (env) in
theorem pump_onward (h : (w.desk i).Balances i l) :
    ∃ l', Onward i w ((pump env i).run.run w).2 l l' := by
  have rests (tended : (w.desk i).Tended l) : ∃ l', Onward i w w l l' := ⟨l, .stay h tended⟩
  unfold pump
  rw [run_lookThen]
  dsimp only
  cases row : (w.desk i).row with
  | none =>
    rw [World.interface_of_row_none row]
    exact rests fun x row' => absurd (row.symm.trans row') nofun
  | some x =>
    rw [World.interface_of_find? row]
    split
    · next busy =>
      refine rests fun x' row' opened _ => .inl ?_
      obtain rfl := Option.some.inj (row.symm.trans row')
      simpa [opened] using busy
    · next ready =>
      simp only [Bool.or_eq_true, not_or, Bool.not_eq_true, Option.isSome_eq_false_iff,
        Option.isNone_iff_eq_none] at ready
      obtain ⟨opened, idle⟩ := ready
      cases queue : x.queue with
      | nil =>
        refine rests fun x' row' _ waits => absurd ?_ waits
        obtain rfl := Option.some.inj (row.symm.trans row')
        exact queue
      | cons data rest =>
        dsimp only
        rw [run_actThen, run_modify, run_actThen]
        dsimp only
        generalize drawn : (drawSeq i BufferId.toDeviceAck).run
          (w.updateInterface i fun x => { x with queue := rest }) = p
        obtain ⟨seq, w₂⟩ := p
        rw [run_actThen]
        dsimp only
        generalize launched : ((launch i ⟨seq, data, 0⟩).run w₂).2 = w₃
        obtain ⟨number, place, begun⟩ := begin_onward h row opened idle queue drawn launched
        unfold offer
        rw [run_onFailure, run_lookThen, run_actThen, run_mark, run_onFailure, place]
        dsimp only
        -- The link may do what it likes before it refuses: other blocks may have come since this one.
        have sending : Holds (Keeps (Accounts i))
          (Pipe.send env x.pipe (ackFrame seq data)).run := inferInstance
        obtain ⟨l₄, sent⟩ := sending.holds _ _ begun.balances begun.tended
        generalize (Pipe.send env x.pipe (ackFrame seq data)).run.run _ = r at sent ⊢
        obtain ⟨result, w₄⟩ := r
        cases result with
        | ok => exact ⟨l₄, begun.trans sent⟩
        | error f =>
          refine refused_onward (begun.trans sent) (sent.begun.subset ?_) _ _
          rw [number]
          exact List.mem_cons_self

/-! ## What is no business of the ledger -/

omit [Upheld (Keeps (Accounts i)) env] in
theorem mark_accounts {o : Occurrence} (ignores : ∀ l : Ledger, l.Ignores i o) :
    Holds (Keeps (σ := σ) (Accounts i)) (mark o) := by
  refine ⟨fun w l balances tended => ⟨l, ?_⟩⟩
  rw [run_mark]
  exact .of_desk (w.desk_mark i o) (balances.aside (y := ⟨w.loop.clock, o⟩) (ignores l)) tended
    (List.suffix_refl _) (.refl _)

omit [Upheld (Keeps (Accounts i)) env] in
theorem row_accounts {α : Type} (f : World σ → α) (g : World σ → Interface → Interface)
    (like : ∀ w x, (w.desk i).row = some x → (g w x).Like x) :
    Holds (Keeps (Accounts i)) (modifyGet fun w => (f w, w.updateInterface i (g w))) := by
  refine ⟨fun w l balances tended => ⟨l, ?_⟩⟩
  rw [run_modifyGet]
  cases row : (w.desk i).row with
  | none =>
    exact .of_desk (World.desk_update_of_none row _) balances tended (List.suffix_refl _) (.refl _)
  | some x =>
    refine .of_desk (World.desk_update row _) (balances.replace row (like w x row)) ?_
      (List.suffix_refl _) (.refl _)
    rintro _ ⟨⟩ opened waits
    obtain ⟨opened, queue, -, flight, -⟩ := like w x row opened
    rw [flight]
    exact tended x row opened (queue ▸ waits)

omit [Upheld (Keeps (Accounts i)) env] in
theorem drawSeq_accounts {buffer : UInt8} (other : buffer ≠ BufferId.toDeviceAck) :
    Holds (Keeps (σ := σ) (Accounts i)) (drawSeq i buffer) := by
  refine row_accounts (fun w => ((w.interface i).takeSeq buffer).1)
    (fun w _ => ((w.interface i).takeSeq buffer).2) fun w x row opened => ?_
  rw [World.interface_of_find? row] at opened ⊢
  exact ⟨opened, rfl, if_neg other.symm, rfl, rfl⟩

theorem offer_accounts (p : PipeId) {frame : Frame} (other : ¬frame.isCommand) :
    Holds (Keeps (Accounts i)) (offer env i p frame).run := by
  have offered : Holds (Keeps (Accounts i)) (mark (.offered i frame) : Act σ Unit) :=
    mark_accounts fun _ => .inr other
  have refused : ∀ place, Holds (Keeps (Accounts i)) (mark (.refused i place) : Act σ Unit) :=
    fun place => mark_accounts fun _ => trivial
  unfold offer
  infer_instance

/-! ## Sending -/

theorem enqueue_onward (balances : (w.desk i).Balances i l)
    (row : (w.desk i).row = some x) (opened : x.closed = false) (c : Command) :
    ∃ l', Onward i w ((do
      act (modify (·.updateInterface i fun x => { x with queue := x.queue ++ [c.data] }))
      act (mark (.queued i c.data))
      act (trace i .sent c)
      if x.inFlight.isNone then pump env i : Try σ Unit).run.run w).2 l l' := by
  have taken := World.desk_update row fun x => { x with queue := x.queue ++ [c.data] }
  rw [run_actThen, run_modify, run_actThen, run_mark, run_actThen]
  dsimp only
  generalize w.updateInterface i (fun x => { x with queue := x.queue ++ [c.data] }) = w₁ at taken ⊢
  have desk := w₁.desk_mark i (.queued i c.data)
  rw [taken, show w₁.chronicle = w.chronicle from congrArg Desk.chronicle taken,
    show w₁.loop = w.loop from congrArg Desk.loop taken] at desk
  have traced := (trace_desk i i .sent c (w₁.mark (.queued i c.data))).trans desk
  generalize ((trace i .sent c).run (w₁.mark (.queued i c.data))).2 = w₂ at traced ⊢
  have queued := balances.enqueue row opened c.data
  have begun : l.begun <:+ (l.enqueue c.data).begun := List.suffix_refl _
  split
  · obtain ⟨l', pumped⟩ := pump_onward env (traced ▸ queued)
    exact ⟨l', pumped.following traced begun (.refl _)⟩
  · next flying =>
    refine ⟨_, .of_desk traced queued ?_ begun (.refl _)⟩
    rintro _ ⟨⟩ - -
    exact .inl (by simpa [Option.isSome_iff_ne_none] using flying)

theorem send_accounts (c : Command) : Holds (Keeps (Accounts i)) (send env i c).run := by
  refine ⟨fun w => ?_⟩
  unfold send
  rw [run_lookThen]
  dsimp only
  cases c.delivery with
  | invalid => exact fun l balances tended => ⟨l, .stay balances tended⟩
  | nonAck =>
    have drawn : Holds (Keeps (σ := σ) (Accounts i)) (drawSeq i BufferId.toDeviceNonAck) :=
      drawSeq_accounts (by decide)
    have offered (seq : UInt8) : Holds (Keeps (Accounts i)) (offer env i (w.interface i).pipe
        { header := ⟨.data, BufferId.toDeviceNonAck, seq⟩, payload := c.data }).run :=
      offer_accounts _ Bool.false_ne_true
    have sending : Holds (Keeps (Accounts i)) (do
        if (w.interface i).closed then throw closedFault
        let seq ← act (drawSeq i BufferId.toDeviceNonAck)
        act (trace i .sent c)
        offer env i (w.interface i).pipe
          { header := ⟨.data, BufferId.toDeviceNonAck, seq⟩, payload := c.data } :
        Try σ Unit).run := inferInstance
    exact sending.holds w
  | ack =>
    intro l balances tended
    cases row : (w.desk i).row with
    | none =>
      rw [World.interface_of_row_none row]
      exact ⟨l, .stay balances tended⟩
    | some x =>
      rw [World.interface_of_find? row]
      cases opened : x.closed with
      | true => exact ⟨l, .stay balances tended⟩
      | false =>
        simp only [Bool.false_eq_true, if_false, run_actThen, run_modify, run_mark]
        exact enqueue_onward balances row opened c

/-! ## Going on with the queue -/

variable (env) in
theorem proceed_onward {d : Desk} (desk : w.desk i = d) (row : d.row = some x)
    (cleared : { d with
      row := some { x with inFlight := none, retryTimer := none }
      loop := d.loop.cancel? x.retryTimer }.Balances i l) (message : String) :
    ∃ l', Onward i w ((do
      clearFlight i
      recover (pump env i) (warnFailure i message) : Act σ Unit).run w).2 l l' := by
  subst desk
  have desk := clearFlight_desk row
  rw [run_bind, run_recover]
  generalize ((clearFlight i).run w).2 = w₁ at desk ⊢
  obtain ⟨l', pumped⟩ := pump_onward env (desk ▸ cleared)
  have onward := pumped.following desk (List.suffix_refl _) (.cancel? _)
  generalize (pump env i).run.run w₁ = r at onward ⊢
  obtain ⟨result, w₂⟩ := r
  cases result with
  | ok => exact ⟨l', onward⟩
  | error f =>
    have warned : Holds (Keeps (σ := σ) (Accounts i)) (warnFailure i message f) := inferInstance
    exact onward.next (warned.holds w₂)

variable (env) in
theorem attempt_onward (p : PipeId) {frame : Frame}
    (marked : Onward i w (w₁.mark (.offered i frame)) l l₁) (message : String) :
    ∃ l₂, Onward i w ((recover (offer env i p frame) (warnFailure i message)).run w₁).2 l l₂ := by
  have refused : Holds (Keeps (Accounts i))
      (mark (.refused i w₁.history.length) : Act σ Unit) := mark_accounts fun _ => trivial
  have sending : Holds (Keeps (Accounts i))
      (recover (onFailure (Pipe.send env p frame) fun _ => mark (.refused i w₁.history.length))
        (warnFailure i message)) := inferInstance
  exact marked.next (sending.holds _)

theorem resend_onward (balances : (w.desk i).Balances i l) (row : (w.desk i).row = some x)
    (opened : x.closed = false) {f : InFlight} (flying : x.inFlight = some f)
    (more : f.retries < maxRetries)
    (late : ∀ b ∈ l.blocks.head?, b.latest.time + retryDelay ≤ w.loop.clock)
    (launched : ((launch i { f with retries := f.retries + 1 }).run w).2 = w₁) :
    Onward i w (w₁.mark (.offered i (ackFrame f.seq f.data))) l
      (l.resend ⟨w.chronicle.length, w.loop.clock⟩) := by
  have desk := launch_desk row { f with retries := f.retries + 1 }
  rw [launched] at desk
  have marked := w₁.desk_mark i (.offered i (ackFrame f.seq f.data))
  rw [desk, show w₁.chronicle = w.chronicle from congrArg Desk.chronicle desk,
    show w₁.loop = _ from congrArg Desk.loop desk, Loop.relay_clock] at marked
  refine .of_desk marked (balances.again row opened flying more late) ?_ ?_ (.relay _)
  · rintro _ ⟨⟩ - -
    exact .inl rfl
  · simp

theorem retry_onward (balances : (w.desk i).Balances i l) (tended : (w.desk i).Tended l)
    (due : ∀ x, (w.desk i).row = some x → x.closed = false →
      ∀ b ∈ l.blocks.head?, b.latest.time + retryDelay ≤ w.loop.clock) :
    ∃ l', Onward i w ((retry env i).run w).2 l l' := by
  have rests : ∃ l', Onward i w w l l' := ⟨l, .stay balances tended⟩
  unfold retry
  rw [run_bind, run_get]
  dsimp only
  cases row : (w.desk i).row with
  | none =>
    rw [World.interface_of_row_none row]
    exact rests
  | some x =>
    rw [World.interface_of_find? row]
    cases opened : x.closed with
    | true => exact rests
    | false =>
      cases flying : x.inFlight with
      | none => exact rests
      | some f =>
        simp only [Bool.false_eq_true, if_false]
        split
        · next more =>
          rw [run_bind]
          exact attempt_onward env x.pipe
            (resend_onward balances row opened flying more (due x row opened) rfl) _
        · next spent =>
          rw [run_bind, run_log]
          obtain ⟨-, b, latest, -, rfl⟩ := (balances.tallies x row opened).flying f flying
          -- There are no more repetitions than these, and the delay after the last one is over.
          have few := (balances.reads.sound.witnessed b (List.mem_of_mem_head? latest)).few
          have ends : ∀ b ∈ l.blocks.head?, b.Over w.loop.clock := by
            intro b' latest'
            obtain rfl := Option.some.inj (latest.symm.trans latest')
            exact .inr ⟨few.antisymm (Nat.not_lt.mp spent), due x row opened b latest⟩
          have logged := w.desk_log i .warn "Ack command not acknowledged, dropping"
            [("device", x.device.label), ("seq", Text.Decimal.render b.seq.toNat),
              ("retries", Text.Decimal.render b.again.length)]
          obtain ⟨l', onward⟩ :=
            proceed_onward env logged row (balances.clear row opened ends) _
          exact ⟨l', onward.following logged (List.suffix_refl _) (.refl _)⟩

end Interface

end DroneControl
