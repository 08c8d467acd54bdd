import DroneControl.Proofs.Interface.Sending

/-!
# The ledger of a run

Whatever happens in a run, the desk of every interface balances: what an interface receives, its
beginning and its end, and the turns of the loop, besides what it sends.  So the history of any reached
world has the commands of an interface in blocks.
-/

set_option synthInstance.maxSize 2048

namespace DroneControl

variable {σ : Type} {i : InterfaceId} {w w' w₁ w₂ : World σ} {l l' l₁ : Ledger} {x : Interface}
  {env : Env σ}

namespace Interface

section

variable [Upheld (Keeps (Accounts i)) env]

/-! ## Receiving -/

theorem answer_accounts {frame : Frame} (complaint : String) (other : ¬frame.isCommand) :
    Holds (Keeps (Accounts i)) (answer env i frame complaint) := by
  have offered (p : PipeId) : Holds (Keeps (Accounts i)) (offer env i p frame).run :=
    offer_accounts p other
  unfold answer
  infer_instance

instance deliver_accounts (payload : Bytes) :
    Holds (Keeps (Accounts i)) (deliver env i payload) := by
  have delivered (c : Command) : Holds (Keeps (σ := σ) (Accounts i)) (mark (.delivered i c)) :=
    mark_accounts fun _ => trivial
  have handed (c : Command) : Holds (Keeps (Accounts i)) (hand env i c) := by
    unfold hand
    refine Holds.bind (h := fun _ => Holds.bind (h := fun w => ?_))
    cases (w.interface i).sink <;> infer_instance
  unfold deliver
  split <;> infer_instance

theorem noteReceived_accounts (buffer seq : UInt8) :
    Holds (Keeps (Accounts i)) (modifyGet fun w =>
      let (repeated, x) := (w.interface i).noteReceived buffer seq
      (repeated, w.updateInterface i fun _ => x) : Act σ Bool) := by
  refine row_accounts (fun w => ((w.interface i).noteReceived buffer seq).1)
    (fun w _ => ((w.interface i).noteReceived buffer seq).2) fun w x row opened => ?_
  rw [World.interface_of_find? row] at opened ⊢
  exact ⟨opened, rfl, rfl, rfl, rfl⟩

omit [Upheld (Keeps (Accounts i)) env] in
theorem late_onward (balances : (w.desk i).Balances i l) (tended : (w.desk i).Tended l)
    (row : (w.desk i).row = some x) (opened : x.closed = false) {frame : Frame} {seq : UInt8}
    (unasked : ∀ f, x.inFlight = some f → f.seq ≠ seq) (acks : ∀ s, frame.acks s ↔ s = seq)
    (plain : ¬frame.drawsOnCommands) :
    ∃ l', Onward i w (w.mark (.arrived i frame)) l l' := by
  have marked := w.desk_mark i (.arrived i frame)
  by_cases late : ∃ b, l.blocks.head? = some b ∧ b.release = none ∧ b.seq = seq
  · obtain ⟨b, latest, held, rfl⟩ := late
    have tallies := balances.tallies x row opened
    have idle : x.inFlight = none := by
      refine Option.eq_none_iff_forall_ne_some.mpr fun f flying => unasked f flying ?_
      obtain ⟨-, b', latest', -, rfl⟩ := tallies.flying f flying
      obtain rfl := Option.some.inj (latest.symm.trans latest')
      rfl
    refine ⟨_, .of_desk marked (balances.acknowledge_late row opened idle latest held
      ((acks _).mpr rfl)) ?_ ?_ (.refl _)⟩
    · intro x' row' _ waits
      obtain rfl := Option.some.inj (row.symm.trans row')
      rcases tended x row opened waits with flying | ⟨b', latest', p, refused⟩
      · simp [idle] at flying
      · obtain rfl := Option.some.inj (latest.symm.trans latest')
        simp [held] at refused
    · simp
  · refine ⟨l, .of_desk marked (balances.aside (y := ⟨_, _⟩) (.inr ⟨plain, ?_⟩)) tended
      (List.suffix_refl _) (.refl _)⟩
    exact fun b latest held asked => late ⟨b, latest, held, (acks _).mp asked⟩

theorem acknowledged_onward (balances : (w.desk i).Balances i l) (tended : (w.desk i).Tended l)
    (row : (w.desk i).row = some x) (opened : x.closed = false) {frame : Frame} {seq : UInt8}
    (acks : ∀ s, frame.acks s ↔ s = seq) (plain : ¬frame.drawsOnCommands) :
    ∃ l', Onward i w ((acknowledged env i seq).run (w.mark (.arrived i frame))).2 l l' := by
  have marked := w.desk_mark i (.arrived i frame)
  unfold acknowledged
  rw [run_bind, run_get]
  dsimp only
  split
  · next awaited =>
    obtain ⟨x', f, row', flying, same⟩ := awaits_iff_flying.mp awaited
    obtain rfl := Option.some.inj (row.symm.trans row')
    obtain ⟨l', onward⟩ := proceed_onward env marked row
      (balances.acknowledge row opened flying ((acks _).mpr same)) _
    refine ⟨l', onward.following marked ?_ (.refl _)⟩
    simp
  · next unasked =>
    rw [run_log]
    refine (late_onward balances tended row opened (fun f flying same => ?_) acks plain).imp
      fun _ onward => log_onward onward _ _ _
    exact unasked (awaits_iff_flying.mpr ⟨x, f, row, flying, same⟩)

omit [Upheld (Keeps (Accounts i)) env] in
theorem ignored {frame : Frame} {kind : FrameKind} (same : frame.header.kind = kind)
    (acks : kind ≠ .ack) (draws : kind ≠ .dataWithAck) : l.Ignores i (.arrived i frame) := by
  subst same
  refine .inr ⟨by simp [Frame.drawsOnCommands, draws], fun b _ _ => ?_⟩
  simp [Frame.acks, FrameHeader.acknowledges, acks]

theorem acknowledging_onward (balances : (w.desk i).Balances i l) (tended : (w.desk i).Tended l)
    (row : (w.desk i).row = some x) (opened : x.closed = false) {frame : Frame}
    (kind : frame.header.kind = .dataWithAck) :
    ∃ l', Onward i w ((do
      let seq ← drawSeq i (BufferId.ackOf frame.header.id)
      answer env i
        { header := ⟨.ack, BufferId.ackOf frame.header.id, seq⟩, payload := [frame.header.seq] }
        "Failed to acknowledge frame"
      mark (.answered i w.history.length)
      let repeated ← modifyGet fun w =>
        let (repeated, x) := (w.interface i).noteReceived frame.header.id frame.header.seq
        (repeated, w.updateInterface i fun _ => x)
      if repeated then
        log .debug "Duplicate frame"
          [("device", x.device.label), ("id", Text.Decimal.render frame.header.id.toNat),
            ("seq", Text.Decimal.render frame.header.seq.toNat)]
      else deliver env i frame.payload : Act σ Unit).run (w.mark (.arrived i frame))).2 l l' := by
  have marked := w.desk_mark i (.arrived i frame)
  have answered (seq : UInt8) : Holds (Keeps (Accounts i)) (answer env i
      { header := ⟨.ack, BufferId.ackOf frame.header.id, seq⟩, payload := [frame.header.seq] }
      "Failed to acknowledge frame") := answer_accounts _ Bool.false_ne_true
  have done : Holds (Keeps (σ := σ) (Accounts i)) (mark (.answered i w.history.length)) :=
    mark_accounts fun _ => trivial
  have noted := noteReceived_accounts (σ := σ) (i := i) frame.header.id frame.header.seq
  -- Only one buffer is acknowledged with the numbers that the commands have as well.
  by_cases draws : BufferId.ackOf frame.header.id = BufferId.toDeviceAck
  · have counter := (balances.tallies x row opened).counter
    obtain ⟨-, desk⟩ :=
      drawSeq_desk (w := w.mark (.arrived i frame)) row (BufferId.ackOf frame.header.id)
    rw [marked] at desk
    have asks : frame.drawsOnCommands := by simp [Frame.drawsOnCommands, kind, draws]
    have counted : (x.takeSeq (BufferId.ackOf frame.header.id)).2.lastSent BufferId.toDeviceAck =
        l.counter + 1 := by simp [takeSeq, draws, counter]
    have drawn := balances.draw row opened asks counted
    rw [run_bind]
    generalize (drawSeq i (BufferId.ackOf frame.header.id)).run (w.mark (.arrived i frame)) = p
      at desk ⊢
    have onward : Onward i w p.2 l l.draw := by
      refine .of_desk desk drawn ?_ (List.suffix_refl _) (.refl _)
      rintro _ ⟨⟩
      exact tended x row
    exact onward.keep
  · have drawn : Holds (Keeps (σ := σ) (Accounts i)) (drawSeq i (BufferId.ackOf frame.header.id)) :=
      drawSeq_accounts draws
    have aside : l.Ignores i (.arrived i frame) := by
      refine .inr ⟨by simp [Frame.drawsOnCommands, draws], fun b _ _ => ?_⟩
      simp [Frame.acks, FrameHeader.acknowledges, kind]
    have onward : Onward i w (w.mark (.arrived i frame)) l l :=
      .of_desk marked (balances.aside (y := ⟨_, _⟩) aside) tended (List.suffix_refl _) (.refl _)
    exact onward.keep

theorem receive_accounts (frame : Frame) : Holds (Keeps (Accounts i)) (receive env i frame) := by
  refine ⟨fun w l balances tended => ?_⟩
  have rests : ∃ l', Onward i w w l l' := ⟨l, .stay balances tended⟩
  have marked := w.desk_mark i (.arrived i frame)
  have aside (ignores : l.Ignores i (.arrived i frame)) :
      Onward i w (w.mark (.arrived i frame)) l l :=
    .of_desk marked (balances.aside (y := ⟨w.loop.clock, .arrived i frame⟩) ignores) tended
      (List.suffix_refl _) (.refl _)
  have ponged : Holds (Keeps (Accounts i)) (answer env i
      { header := ⟨.data, BufferId.pong, frame.header.seq⟩, payload := frame.payload }
      "Failed to answer ping") := answer_accounts _ Bool.false_ne_true
  unfold receive
  rw [run_bind, run_get]
  dsimp only
  cases row : (w.desk i).row with
  | none =>
    rw [World.interface_of_row_none row]
    exact rests
  | some x =>
    rw [World.interface_of_find? row]
    cases opened : x.closed with
    | true => exact rests
    | false =>
      rw [if_neg Bool.false_ne_true, run_bind, run_mark]
      cases kind : frame.header.kind with
      | ack =>
        have plain : ¬frame.drawsOnCommands := by simp [Frame.drawsOnCommands, kind]
        cases payload : frame.payload with
        | nil =>
          exact ⟨l, aside (.inr ⟨plain, fun b _ _ => by simp [Frame.acks, payload]⟩)⟩
        | cons seq rest =>
          dsimp only
          split
          · next acks =>
            refine acknowledged_onward balances tended row opened (fun s => ?_) plain
            simp [Frame.acks, acks, payload, eq_comm]
          · next other =>
            exact ⟨l, aside (.inr ⟨plain, fun b _ _ => by simp [Frame.acks, other]⟩)⟩
      | dataWithAck => exact acknowledging_onward balances tended row opened kind
      | data => exact (aside (ignored kind nofun nofun)).keep
      | lowLatency => exact (aside (ignored kind nofun nofun)).keep

end

/-! ## Beginning and end -/

theorem close_accounts : Holds (Keeps (σ := σ) (Accounts i)) (close i) := by
  refine ⟨fun w l balances tended => ?_⟩
  have rests : ∃ l', Onward i w w l l' := ⟨l, .stay balances tended⟩
  unfold close
  rw [run_bind, run_get]
  dsimp only
  cases row : (w.desk i).row with
  | none =>
    rw [World.interface_of_row_none row]
    exact rests
  | some x =>
    rw [World.interface_of_find? row]
    cases opened : x.closed with
    | true => exact rests
    | false =>
      rw [if_neg Bool.false_ne_true, run_bind, run_modify, run_bind]
      have closed := World.desk_update row fun x => { x with closed := true, queue := [] }
      have cleared := clearFlight_desk (congrArg Desk.row closed)
      rw [closed] at cleared
      generalize (clearFlight i).run (w.updateInterface i _) = p at cleared ⊢
      have onward : Onward i w p.2 l l := by
        refine .of_desk cleared (balances.shut row ?_ x.retryTimer) ?_ (List.suffix_refl _)
          (.cancel? _)
        · rfl
        · rintro _ ⟨⟩
          nofun
      have closed : Holds (Keeps (σ := σ) (Accounts i)) (mark (.closed i)) :=
        mark_accounts fun _ => trivial
      exact onward.keep

theorem add_accounts (device : DeviceHandle) (pipe : PipeId) (sink : CommandSink)
    (traceCell : TraceCellId) : Keeps (σ := σ) (Accounts i) InterfaceId (modifyGet fun w =>
      let (i, interfaces) := w.interfaces.add { device, pipe, sink, traceCell }
      (i, { w with interfaces })) := by
  intro w l balances tended
  by_cases new : w.interfaces.next = i.number
  · have created := balances.create new device pipe sink traceCell
    refine ⟨l, .of_desk ?_ created ?_ (List.suffix_refl _) (.refl _)⟩
    · have row : (w.interfaces.add { device, pipe, sink, traceCell }).2.find? i =
          some { device, pipe, sink, traceCell } := by
        rw [Table.find?_add, if_pos (by rw [new])]
      rw [run_modifyGet]
      simp only [World.desk, row, Table.next_add]
      rfl
    · rintro _ ⟨⟩ - waits
      exact absurd rfl waits
  · exact Accounts.watches.spares (.add w _ (Ne.symm new)) l balances tended

end Interface

namespace Accounts

instance interfaceLives : InterfaceLives (Keeps (σ := σ) (Accounts i)) :=
  Watches.interfaceLives Interface.add_accounts Interface.close_accounts

theorem interfaceCalls (u : Upheld (Keeps (Accounts i)) env) :
    InterfaceCalls (Keeps (Accounts i)) env :=
  Watches.interfaceCalls Interface.send_accounts Interface.receive_accounts

end Accounts

/-! ## Turns of the loop -/

namespace Loop

variable {loop : Loop}

theorem GoesOn.restart (t : TimerId) (deadline : Nat) : loop.GoesOn (loop.restart t deadline) where
  clock := le_rfl
  named := (Table.next_update _ _ _).ge
  lasting t' timer' _ found := by
    rw [Loop.restart, Table.find?_update] at found
    split at found
    · next same =>
        obtain ⟨timer, there, rfl⟩ := Option.map_eq_some_iff.mp found
        exact ⟨timer, same ▸ there, rfl, rfl⟩
    · exact ⟨timer', found, rfl, rfl⟩

theorem find?_restart {t t' : TimerId} {timer : Timer} {deadline : Nat}
    (found : (loop.restart t deadline).timers.find? t' = some timer)
    (other : ∀ timer, loop.timers.find? t = some timer → timer.job ≠ .retry i)
    (retries : timer.job = .retry i) : loop.timers.find? t' = some timer := by
  rw [Loop.restart, Table.find?_update] at found
  split at found
  · obtain ⟨timer, there, rfl⟩ := Option.map_eq_some_iff.mp found
    exact absurd retries (other timer there)
  · exact found

theorem Punctual.forward (punctual : loop.Punctual i) (ms : Nat) :
    (loop.forward ms).Punctual i where
  once := punctual.once
  unasked among := by
    rcases List.mem_append.mp among with old | new
    · exact punctual.unasked old
    · simp at new
  named t among := by
    rcases List.mem_append.mp among with old | new
    · exact punctual.named t old
    · obtain ⟨t', due, same⟩ := List.mem_map.mp new
      obtain ⟨timer, found, -⟩ := mem_due.mp due
      obtain rfl := Task.wake.inj same
      exact Table.lt_next found
  due t timer among found retries := by
    rcases List.mem_append.mp among with old | new
    · exact (punctual.due t timer old found retries).trans (Nat.le_add_right _ _)
    · obtain ⟨t', due, same⟩ := List.mem_map.mp new
      obtain ⟨timer', found', ripe⟩ := mem_due.mp due
      obtain rfl := Task.wake.inj same
      obtain rfl := Option.some.inj (found.symm.trans found')
      exact ripe

end Loop

def World.Due (w : World σ) (i : InterfaceId) (l : Ledger) : Prop :=
  ∀ x, (w.desk i).row = some x → x.closed = false →
    ∀ b ∈ l.blocks.head?, b.latest.time + retryDelay ≤ w.loop.clock

theorem Spares.due (spares : Spares i w w') (due : w.Due i l) : w'.Due i l := by
  intro x' row' opened b latest
  obtain ⟨x, row, same⟩ := spares.row x' row'
  rw [same] at opened
  exact (due x row opened b latest).trans spares.loop.clock

theorem Onward.turn {loop : Loop} (o : Onward i w w₁ l l₁) (goesOn : w₁.loop.GoesOn loop)
    (timers : ∀ t timer, loop.timers.find? t = some timer → timer.job = .retry i →
      w₁.loop.timers.find? t = some timer) (punctual : loop.Punctual i) :
    Onward i w { w₁ with loop } l l₁ :=
  .of_desk (w₁.desk_loop i loop) (o.balances.turn goesOn.clock timers punctual) o.tended o.begun
    (o.loop.trans goesOn)

namespace Accounts

variable [u : Upheld (Keeps (Accounts i)) env]

theorem perform_retry (o : Onward i w w₁ l l₁) (due : w₁.Due i l₁) :
    ∃ l₂, Onward i w ((Loop.perform env (.retry i)).run w₁).2 l l₂ := by
  unfold Loop.perform
  dsimp only
  rw [run_ifKept]
  split
  · rw [run_keeping]
    have shared : Spares i w₁ (w₁.reshare (· + 1) (.interface i)) := .share w₁ _ _
    obtain ⟨l₂, retried⟩ : ∃ l₂, Onward i (w₁.reshare (· + 1) (.interface i))
        ((Interface.retry env i).run (w₁.reshare (· + 1) (.interface i))).2 l₁ l₂ :=
      Interface.retry_onward (shared.balances o.balances) (shared.tended o.tended) (shared.due due)
    have before : Onward i w (w₁.reshare (· + 1) (.interface i)) l l₁ :=
      ⟨shared.balances o.balances, shared.tended o.tended, o.begun,
        o.loop.trans shared.loop.toGoesOn⟩
    have released : Holds (Keeps (Accounts i)) (release env (.interface i)) := inferInstance
    exact (before.trans retried).next (released.holds _)
  · exact ⟨l₁, o⟩

theorem perform_other {job : Job} (other : job ≠ .retry i) :
    Holds (Keeps (Accounts i)) (Loop.perform env job) := by
  refine Loop.perform_of (fun i' same => ?_) fun _ _ => inferInstance
  have ne : i' ≠ i := fun own => other (own ▸ same)
  have : Overlooks (Keeps (σ := σ) (Accounts i)) i' := Watches.overlooks ne
  exact Interface.retry_of_steps

theorem wake_onward (o : Onward i w w₁ l l₁) {t : TimerId}
    (ripe : ∀ timer, w₁.loop.timers.find? t = some timer → timer.job = .retry i →
      timer.deadline ≤ w₁.loop.clock) :
    ∃ l₂, Onward i w ((Loop.wake env t).run w₁).2 l l₂ := by
  unfold Loop.wake
  rw [run_bind, run_get]
  dsimp only
  cases found : w₁.loop.timers.find? t with
  | none => exact ⟨l₁, o⟩
  | some timer =>
      dsimp only
      cases beat : timer.period with
      | none =>
          have canceled : Onward i w ((cancelTimer t).run w₁).2 l l₁ :=
            o.turn (.cancel t) (fun _ _ found _ => Loop.find?_cancel found)
              (o.balances.punctual.cancel? (some t))
          by_cases retries : timer.job = .retry i
          · rw [run_bind, retries]
            refine perform_retry canceled fun x row opened b latest => ?_
            obtain ⟨-, b', latest', late⟩ := o.balances.timers x row opened t timer found retries
            obtain rfl := Option.some.inj (latest.symm.trans latest')
            exact late.trans (ripe timer found retries)
          · have : Holds (Keeps (Accounts i)) (Loop.perform env timer.job) := perform_other retries
            exact canceled.keep (a := Loop.perform env timer.job)
      | some period =>
          -- A retry timer runs once, so this is none, and it is none when it is started again.
          have other : timer.job ≠ .retry i := by
            intro retries
            simp [o.balances.punctual.once t timer found retries] at beat
          have beats : Holds (Keeps (Accounts i)) (Loop.beat env timer.job w₁.history.length period
              w₁.loop.clock timer.deadline (w₁.loop.clock + 1 - timer.deadline)) :=
            Loop.beat_holds ⟨Watches.ground.markControl _ rfl⟩ (perform_other other) _ _ _ _
          obtain ⟨l₂, beaten⟩ := beats.holds w₁ l₁ o.balances o.tended
          rw [run_bind, run_modify]
          have still : ∀ timer', ((Loop.beat env timer.job w₁.history.length period w₁.loop.clock
              timer.deadline (w₁.loop.clock + 1 - timer.deadline)).run
                w₁).2.loop.timers.find? t = some timer' →
              timer'.job ≠ .retry i := by
            intro timer' there
            obtain ⟨timer'', before, same, -⟩ := beaten.loop.lasting t timer' (Table.lt_next found) there
            obtain rfl := Option.some.inj (found.symm.trans before)
            rwa [same]
          refine ⟨l₂, (o.trans beaten).turn (.restart t _)
            (fun _ _ there retries => Loop.find?_restart there still retries) ?_⟩
          exact beaten.balances.punctual.of_less (fun _ => id) le_rfl (Table.next_update _ _ _).ge
            fun _ _ there retries => Loop.find?_restart there still retries

theorem drain_onward (fuel : Nat) (o : Onward i w w₁ l l₁) :
    ∃ l₂, Onward i w ((Loop.drain env fuel).run w₁).2 l l₂ := by
  -- The queue that is left after each task is punctual because the desk balances again.
  induction fuel generalizing w₁ l₁ with
  | zero => exact ⟨l₁, o⟩
  | succ fuel ih =>
      unfold Loop.drain Loop.takeTask
      rw [run_bind, run_modifyGet]
      dsimp only
      unfold Loop.take
      cases queue : w₁.loop.queue with
      | nil => exact ⟨l₁, o⟩
      | cons task rest =>
          have punctual := o.balances.punctual
          have less : ∀ task ∈ rest, task ∈ w₁.loop.queue := by
            intro task among
            rw [queue]
            exact .tail _ among
          have taken : Onward i w { w₁ with loop := { w₁.loop with queue := rest } } l l₁ :=
            o.turn (.requeue w₁.loop rest) (fun _ _ found _ => found)
              (punctual.of_less less le_rfl le_rfl fun _ _ found _ => found)
          dsimp only
          rw [run_bind]
          cases task with
          | run job =>
              have other : job ≠ .retry i := by
                rintro rfl
                exact punctual.unasked (queue ▸ .head _)
              have : Holds (Keeps (Accounts i)) (Loop.perform env job) := perform_other other
              obtain ⟨l₂, done⟩ := taken.keep (a := Loop.perform env job)
              exact ih done
          | wake t =>
              obtain ⟨l₂, done⟩ := wake_onward (u := u) taken fun timer found retries =>
                punctual.due t timer (queue ▸ .head _) found retries
              exact ih done

theorem loopCalls : LoopCalls (Keeps (Accounts i)) env where
  settle extra := by
    refine ⟨fun w l balances tended => ?_⟩
    unfold Loop.settle
    rw [run_bind, run_get]
    exact drain_onward _ (.stay balances tended)
  pass extra ms := by
    refine ⟨fun w l balances tended => ?_⟩
    unfold Loop.pass Loop.settle
    rw [run_bind, run_modify, run_bind, run_get]
    exact drain_onward _ ((Onward.stay balances tended).turn (.forward w.loop ms)
      (fun _ _ found _ => found) (balances.punctual.forward ms))

theorem together : Together (Keeps (Accounts i)) env := by
  have := interfaceCalls u
  have : LoopCalls (Keeps (Accounts i)) env := loopCalls
  exact Watches.together

end Accounts

/-! ## Runs -/

theorem World.balances_empty (host : σ) (verbosity : Option Severity) (i : InterfaceId) :
    (({ host, verbosity } : World σ).desk i).Balances i {} ∧
      (({ host, verbosity } : World σ).desk i).Tended {} := by
  have untimed : ∀ t timer, ({ host, verbosity } : World σ).loop.timers.find? t ≠ some timer := by
    intro t timer found
    cases Std.TreeMap.getElem?_emptyc.symm.trans found
  have unmade : ∀ x, (({ host, verbosity } : World σ).desk i).row ≠ some x := by
    intro x row
    cases Std.TreeMap.getElem?_emptyc.symm.trans row
  refine ⟨⟨.empty, fun made => ?_, fun _ => ⟨rfl, fun t timer found => absurd found (untimed t timer)⟩,
    fun x row => absurd row (unmade x), fun x row => absurd row (unmade x), ?_⟩,
    fun x row => absurd row (unmade x)⟩
  · obtain ⟨x, row⟩ := Option.isSome_iff_exists.mp made
    exact absurd row (unmade x)
  · exact ⟨fun t timer found => absurd found (untimed t timer), nofun, nofun, nofun⟩

theorem Reached.tended (reached : Reached w) (i : InterfaceId) :
    ∃ l, (w.desk i).Balances i l ∧ (w.desk i).Tended l := by
  obtain ⟨host, verbosity, accounts⟩ :=
    reached.related (R := Accounts i) fun _ _ _ => Accounts.together
  obtain ⟨balances, tended⟩ := World.balances_empty host verbosity i
  obtain ⟨l, onward⟩ := accounts {} balances tended
  exact ⟨l, onward.balances, onward.tended⟩

end DroneControl
