import DroneControl.Proofs.Run.Channels

/-!
# Outcomes of proxies

The transport may report of a proxy, and its owner may close it, in any order and from within what
the listener does.  The first step alone decides what the listener is told, and it is told once.
-/

namespace DroneControl

variable {σ : Type} {p : ProxyId} {x x' : Proxy} {w w' : World σ} {env : Env σ}

/-- The outcome that a report stands for if it is the first. -/
def ProxyStep.outcome? : ProxyStep → Option (Except Fault Endpoint)
  | .reportOpen result => some result
  | .reportClosed => some (.error (.transport "proxy closed before open"))
  | .close => none

/-- The state that a step leads to. -/
def ProxyState.after (state : ProxyState) (step : ProxyStep) : ProxyState :=
  match state, step with
  | .opening, .reportOpen (.ok endpoint) => .opened endpoint
  | .opening, .reportOpen (.error _) | .opening, .reportClosed => .failed
  | .opened _, .reportClosed => .closed
  | _, .close => .closed
  | state, _ => state

/-- Whether the step is a report of whether the proxy could be opened. -/
def ProxyStep.IsOpenReport (step : ProxyStep) : Prop := ∃ result, step = .reportOpen result

namespace Proxy

def steps (x : Proxy) : List ProxyStep := x.past.map Prod.fst

/-- Each step of the past led from the state before it to the one noted with it, the last of them to
the given one. -/
inductive Lived : List (ProxyStep × ProxyState) → ProxyState → Prop where
  | new : Lived [] .opening
  | step {past : List (ProxyStep × ProxyState)} {state : ProxyState} (lived : Lived past state)
      (step : ProxyStep) : Lived (past ++ [(step, state.after step)]) (state.after step)

namespace Lived

variable {past : List (ProxyStep × ProxyState)} {state : ProxyState}

theorem opening_iff (lived : Lived past state) : state = .opening ↔ past = [] := by
  cases lived with
  | new => simp
  | @step past state lived step =>
    have left : state.after step ≠ .opening := by
      cases state <;> rcases step with (result | result) | _ | _ <;> nofun
    simp [left]

theorem endpoint?_eq_some_iff (lived : Lived past state) (endpoint : Endpoint) :
    state.endpoint? = some endpoint ↔
      ∃ later, past.map Prod.fst = .reportOpen (.ok endpoint) :: later ∧
        ∀ step ∈ later, step.IsOpenReport := by
  induction lived with
  | new => simp [ProxyState.endpoint?]
  | @step past state lived step ih =>
    rw [List.map_append, List.map_singleton]
    cases past with
    | nil =>
      obtain rfl := lived.opening_iff.mpr rfl
      have alone : ∀ first : ProxyStep, (∃ later, [step] = first :: later ∧
          ∀ step ∈ later, step.IsOpenReport) ↔ step = first := by
        intro first
        refine ⟨?_, fun same => ⟨[], by rw [same], nofun⟩⟩
        rintro ⟨later, same, -⟩
        exact (List.cons.inj same).1
      rw [List.map_nil, List.nil_append, alone]
      rcases step with (result | result) | _ | _ <;> simp [ProxyState.after, ProxyState.endpoint?]
    | cons first past =>
      have began : state ≠ .opening := mt lived.opening_iff.mp (List.cons_ne_nil first past)
      have kept : (state.after step).endpoint? = some endpoint ↔
          state.endpoint? = some endpoint ∧ step.IsOpenReport := by
        cases state with
        | opening => exact absurd rfl began
        | _ =>
          rcases step with result | _ | _ <;>
            simp [ProxyState.after, ProxyState.endpoint?, ProxyStep.IsOpenReport]
      rw [kept, ih]
      constructor
      · rintro ⟨⟨later, steps, reports⟩, report⟩
        refine ⟨later ++ [step], by rw [steps, List.cons_append], fun other among => ?_⟩
        rcases List.mem_append.mp among with among | among
        · exact reports other among
        · exact List.mem_singleton.mp among ▸ report
      · rintro ⟨later, steps, reports⟩
        obtain ⟨head, tail⟩ := List.cons.inj steps
        subst tail
        refine ⟨⟨_, congrArg (· :: _) head, fun other among => ?_⟩, ?_⟩
        · exact reports other (List.mem_append_left _ among)
        · exact reports step (List.mem_append_right _ (List.mem_singleton_self step))

theorem upTo {before after : List (ProxyStep × ProxyState)} {row : ProxyStep × ProxyState}
    (lived : Lived past state) (split : past = before ++ row :: after) :
    Lived (before ++ [row]) row.2 := by
  induction lived generalizing after with
  | new => simp at split
  | @step past state lived last ih =>
    rcases List.eq_nil_or_concat after with rfl | ⟨after, end_, rfl⟩
    · obtain ⟨rfl, same⟩ := List.append_inj' split rfl
      obtain rfl := List.singleton_inj.mp same
      exact .step lived last
    · rw [List.concat_eq_append, ← List.cons_append, ← List.append_assoc] at split
      exact ih (List.append_inj' split rfl).1

theorem state_eq_last (lived : Lived past state) :
    state = (past.getLast?.map Prod.snd).getD .opening := by
  cases lived with
  | new => rfl
  | step => simp

end Lived

/-- The sink was told the outcome that the first step stands for. -/
structure Settled (x : Proxy) : Prop where
  lived : Lived x.past x.state
  told : x.told = (x.past.head?.bind (·.1.outcome?)).toList

structure LeadsTo (x x' : Proxy) : Prop where
  settled : x.Settled → x'.Settled
  past : x.Settled → x.past <+: x'.past

theorem LeadsTo.refl (x : Proxy) : x.LeadsTo x := ⟨id, fun _ => List.prefix_rfl⟩

theorem leadsTo_leftBy {step : ProxyStep}
    (quiet : x.state = .opening → step.outcome? = none) :
    x.LeadsTo (x.leftBy step (x.state.after step)) where
  settled settled := by
    refine ⟨.step settled.lived step, ?_⟩
    rw [leftBy, settled.told]
    cases past : x.past with
    | nil => simp [quiet (settled.lived.opening_iff.mpr past)]
    | cons first past => rfl
  past _ := List.prefix_append _ _

theorem leadsTo_told {step : ProxyStep} {result : Except Fault Endpoint}
    (first : x.state = .opening) (reports : step.outcome? = some result) :
    x.LeadsTo ((x.leftBy step (x.state.after step)).noteTold result) where
  settled settled := by
    have none_past : x.past = [] := settled.lived.opening_iff.mp first
    refine ⟨.step settled.lived step, ?_⟩
    simp [leftBy, noteTold, settled.told, none_past, reports]
  past _ := List.prefix_append _ _

end Proxy

/-! ## What a run makes of proxies -/

structure World.Reports (w w' : World σ) : Prop where
  row : ∀ {p x}, w.proxies.find? p = some x → ∃ x', w'.proxies.find? p = some x' ∧ x.LeadsTo x'
  new : ∀ {p x'}, w.proxies.find? p = none → w'.proxies.find? p = some x' → x'.Settled

namespace World.Reports

theorem of_same (same : ∀ p, w'.proxies.find? p = w.proxies.find? p) : w.Reports w' where
  row {p x} found := ⟨x, (same p).trans found, .refl x⟩
  new {p x'} missing found := by cases missing.symm.trans ((same p).symm.trans found)

theorem trans {w'' : World σ} (first : w.Reports w') (second : w'.Reports w'') : w.Reports w'' where
  row found := by
    obtain ⟨x', found', leads⟩ := first.row found
    obtain ⟨x'', found'', leads'⟩ := second.row found'
    exact ⟨x'', found'', fun settled => leads'.settled (leads.settled settled), fun settled =>
      (leads.past settled).trans (leads'.past (leads.settled settled))⟩
  new {p x''} missing found := by
    cases found' : w'.proxies.find? p with
    | none => exact second.new found' found
    | some x' =>
      obtain ⟨y, found'', leads⟩ := second.row found'
      obtain rfl := Option.some.inj (found''.symm.trans found)
      exact leads.settled (first.new missing found')

theorem update (w : World σ) (p : ProxyId) {f : Proxy → Proxy}
    (leads : ∀ x, w.proxies.find? p = some x → x.LeadsTo (f x)) :
    w.Reports (w.updateProxy p f) where
  row {p' x} found := by
    simp only [updateProxy, Table.find?_update]
    split
    · next same =>
      subst same
      exact ⟨f x, by rw [found]; rfl, leads x found⟩
    · exact ⟨x, found, .refl x⟩
  new {p' x'} missing found := by
    simp only [updateProxy, Table.find?_update] at found
    split at found
    · next same =>
      subst same
      rw [missing] at found
      cases found
    · cases missing.symm.trans found

theorem leave {step : ProxyStep} {state : ProxyState}
    (leads : (w.proxy p).state.after step = state)
    (quiet : (w.proxy p).state = .opening → step.outcome? = none) :
    w.Reports (w.updateProxy p (·.leftBy step state)) := by
  refine .update w p fun x found => ?_
  have here : w.proxy p = x := World.proxy_of_find? found
  rw [here] at leads quiet
  exact leads ▸ Proxy.leadsTo_leftBy quiet

instance minds : MindsChannels (World.Reports (σ := σ)) where
  trans := .trans
  aside proxies _ _ := .of_same fun p => congrArg (·.find? p) proxies
  createProxy w x opening past told := by
    refine ⟨fun {p y} found => ⟨y, ?_, .refl y⟩, fun {p y} missing found => ?_⟩
    · rw [Table.find?_add, if_neg, found]
      rintro rfl
      cases w.proxies.find?_next.symm.trans found
    · rw [Table.find?_add] at found
      split at found
      · obtain rfl := Option.some.inj found
        exact ⟨past ▸ opening ▸ .new, by rw [told, past]; rfl⟩
      · cases missing.symm.trans found
  closeProxy w p := .leave (by cases (w.proxy p).state <;> rfl) fun _ => rfl
  addUplink _ _ := .of_same fun _ => rfl
  uplink _ _ _ _ := .of_same fun _ => rfl
  addBackend _ _ := .of_same fun _ => rfl
  backend _ _ _ _ := .of_same fun _ => rfl
  eraseBackend _ _ := .of_same fun _ => rfl

end World.Reports

namespace Proxy

theorem report_late (env : Env σ) (step : ProxyStep) (result : Except Fault Endpoint)
    (began : (w.proxy p).state ≠ .opening) :
    ((report env p step result).run w).2.proxies =
      (w.updateProxy p (·.leftBy step (w.proxy p).state)).proxies := by
  unfold report enter
  rw [run_bind, run_get]
  dsimp only
  rw [if_pos began, run_bind, run_modify, run_log]
  exact World.log_proxies _ _ _ _

theorem after_opening {step : ProxyStep} {result : Except Fault Endpoint}
    (reports : step.outcome? = some result) :
    ProxyState.opening.after step =
      match result with
      | .ok endpoint => .opened endpoint
      | .error _ => .failed := by
  cases step with
  | reportOpen =>
    cases reports
    cases result <;> rfl
  | reportClosed =>
    cases reports
    rfl
  | close => cases reports

theorem report_first (env : Env σ) {step : ProxyStep} {result : Except Fault Endpoint}
    (opening : (w.proxy p).state = .opening) (reports : step.outcome? = some result) :
    ∃ w', (report env p step result).run w = (pass env p result).run w' ∧
      ∀ p', w'.proxies.find? p' = (w.updateProxy p fun x =>
        (x.leftBy step (ProxyState.opening.after step)).noteTold result).proxies.find? p' := by
  unfold report enter tell
  rw [run_bind, run_get]
  dsimp only
  rw [if_neg (fun began => began opening), after_opening reports]
  cases result <;>
  · dsimp only
    rw [run_bind, run_modify, run_bind, run_log, run_bind, run_modify]
    refine ⟨_, rfl, fun p' => ?_⟩
    simp only [World.updateProxy, World.log_proxies, Table.find?_update, if_pos, Option.map_map]
    split <;> rfl

theorem reports_first [Upheld (Keeps World.Reports) env] {step : ProxyStep}
    {result : Except Fault Endpoint} (opening : (w.proxy p).state = .opening)
    (reports : step.outcome? = some result) : w.Reports ((report env p step result).run w).2 := by
  obtain ⟨w', runs, rows⟩ := report_first env opening reports
  rw [runs]
  refine .trans (.trans (.update w p fun x found => ?_) (.of_same rows))
    ((pass_holds (Q := Keeps World.Reports) p result).holds w')
  have here : x.state = .opening := by rwa [World.proxy_of_find? found] at opening
  exact here ▸ leadsTo_told here reports

theorem after_of_ne_opening {state : ProxyState} (began : state ≠ .opening)
    (result : Except Fault Endpoint) : state.after (.reportOpen result) = state := by
  cases state with
  | opening => exact absurd rfl began
  | _ => rfl

instance proxyCalls [Upheld (Keeps World.Reports) env] : ProxyCalls (Keeps World.Reports) env where
  reportOpen p result := by
    refine ⟨fun w => ?_⟩
    by_cases opening : (w.proxy p).state = .opening
    · exact reports_first opening rfl
    · have late := report_late env (.reportOpen result) result opening
      exact .trans (.leave (after_of_ne_opening opening result) fun same => absurd same opening)
        (.of_same fun p' => congrArg (·.find? p') late)
  reportClosed p := by
    refine ⟨fun w => ?_⟩
    unfold reportClosed
    rw [run_bind, run_get]
    dsimp only
    split
    · next opening => exact reports_first opening rfl
    · next endpoint opened =>
      rw [run_bind, run_log]
      have unseen := World.log_proxies w .warn "Unexpected proxy close after open"
        [("proxy", p.label)]
      generalize w.log .warn "Unexpected proxy close after open" [("proxy", p.label)] = w₁ at unseen ⊢
      have same : w₁.proxy p = w.proxy p := congrArg (·.get p) unseen
      rw [← same] at opened
      refine .trans (.of_same fun p' => congrArg (·.find? p') unseen) (.leave (by rw [opened]; rfl) ?_)
      exact fun opening => by cases opened.symm.trans opening
    · next failed =>
      exact .leave (by rw [failed]; rfl) fun opening => by cases failed.symm.trans opening
    · next closed =>
      exact .leave (by rw [closed]; rfl) fun opening => by cases closed.symm.trans opening

end Proxy

theorem World.Reports.together [Upheld (Keeps World.Reports) env] :
    Together (Keeps World.Reports) env := MindsChannels.together

theorem Reached.settled (reached : Reached w) (row : w.proxies.find? p = some x) : x.Settled := by
  obtain ⟨host, verbosity, reports⟩ := reached.related (R := World.Reports) fun env upheld _ =>
    World.Reports.together
  exact reports.new (World.find?_empty p) row

namespace Proxy.Settled

theorem told_eq (settled : x.Settled) :
    x.told = (x.steps.head?.bind ProxyStep.outcome?).toList := by
  rw [settled.told, steps, List.head?_map]
  cases x.past.head? <;> rfl

theorem length_told_le (settled : x.Settled) : x.told.length ≤ 1 := by
  rw [settled.told_eq]
  exact Option.length_toList_le

theorem length_told_eq_one_iff (settled : x.Settled) :
    x.told.length = 1 ↔ ∃ earlier report later, x.steps = earlier ++ report :: later ∧
      report ≠ ProxyStep.close ∧ ProxyStep.close ∉ earlier := by
  rw [settled.told_eq]
  cases x.steps with
  | nil => simp
  | cons first later =>
    by_cases closes : first = .close
    · subst closes
      refine ⟨nofun, ?_⟩
      rintro ⟨earlier, report, rest, same, reports, closed⟩
      cases earlier with
      | nil => exact absurd (List.cons.inj same).1.symm reports
      | cons => exact absurd ((List.cons.inj same).1 ▸ List.mem_cons_self) closed
    · refine ⟨fun _ => ⟨[], first, later, rfl, closes, List.not_mem_nil⟩, fun _ => ?_⟩
      cases first with
      | close => exact absurd rfl closes
      | _ => rfl

theorem told_of_leadsTo (settled : x.Settled) (leads : x.LeadsTo x') (told : x.told ≠ []) :
    x'.told = x.told := by
  obtain ⟨more, grown⟩ := leads.past settled
  rw [(leads.settled settled).told, settled.told, ← grown]
  cases past : x.past with
  | nil => exact absurd (by rw [settled.told, past]; rfl) told
  | cons first rest => rfl

end Proxy.Settled

/-- An outcome is told once, exactly if a report comes before the proxy is closed; the first report
decides it, and nothing that comes later changes it. What the proxy gives as its local end is what
that report told, from then on until the transport or the owner closes it. -/
theorem Proxy.outcome_told (reached : Reached w) (row : w.proxies.find? p = some x) :
    x.told.length ≤ 1 ∧
    (x.told.length = 1 ↔ ∃ earlier report later, x.steps = earlier ++ report :: later ∧
      report ≠ ProxyStep.close ∧ ProxyStep.close ∉ earlier) ∧
    (∀ endpoint, x.told = [.ok endpoint] ↔ x.steps.head? = some (.reportOpen (.ok endpoint))) ∧
    (∀ f, x.steps.head? = some (.reportOpen (.error f)) → x.told = [.error f]) ∧
    (x.steps.head? = some .reportClosed →
      x.told = [.error (.transport "proxy closed before open")]) ∧
    (∀ (before : List (ProxyStep × ProxyState)) (step : ProxyStep) (state : ProxyState) after,
      x.past = before ++ (step, state) :: after →
      ∀ endpoint, state.endpoint? = some endpoint ↔
        ∃ later : List ProxyStep,
          before.map Prod.fst ++ [step] = .reportOpen (.ok endpoint) :: later ∧
            ∀ step ∈ later, step.IsOpenReport) ∧
    x.state = (x.past.getLast?.map Prod.snd).getD .opening ∧
    ∀ {env : Env σ} {α : Type} {a : Act σ α}, Hosted env → Reaction env α a →
      ∃ x', (a.run w).2.proxies.find? p = some x' ∧ x.past <+: x'.past ∧
        (x.told ≠ [] → x'.told = x.told) := by
  have settled := reached.settled row
  have told := settled.told_eq
  refine ⟨settled.length_told_le, settled.length_told_eq_one_iff, fun endpoint => ?_,
    fun f first => ?_, fun first => ?_, fun before step state after split endpoint => ?_, ?_, ?_⟩
  · rw [told]
    rcases x.steps with _ | ⟨(result | _ | _), later⟩ <;> simp [ProxyStep.outcome?]
  · rw [told, first]
    rfl
  · rw [told, first]
    rfl
  · have lived := settled.lived.upTo split
    rw [lived.endpoint?_eq_some_iff, List.map_append]
    rfl
  · exact settled.lived.state_eq_last
  · intro env α a hosted reaction
    have : Together (Keeps World.Reports) env :=
      hosted.together fun env upheld _ => World.Reports.together
    have kept : Keeps World.Reports α a := reaction.holds
    obtain ⟨x', row', leads⟩ := (kept w).row row
    exact ⟨x', row', leads.past settled, settled.told_of_leadsTo leads⟩

def meddlingHost : Env Unit :=
  { silentHost with
    tell := fun _ event =>
      match event with
      | .proxyOpened p _ => do
        Proxy.reportOpen silentHost p (.error .canceled)
        Proxy.close p
        Proxy.reportClosed silentHost p
      | _ => pure ()
    reap := reap silentHost }

theorem meddlingHost_hosted : Hosted meddlingHost := by
  refine .around silentHost_hosted ⟨fun _ event => ?_, ?_, fun _ => .pure _, ?_, ?_, ?_⟩ rfl
  · cases event with
    | proxyOpened p result =>
      refine .bind (.basic (.inr (.reportOpen _ _))) fun _ => ?_
      exact .bind (.basic (.inr (.closeProxy _))) fun _ => .basic (.inr (.reportClosed _))
    | _ => exact .pure _
  all_goals intros; exact .pure _

def meddledOpening : Act Unit Unit := do
  let p ← Proxy.create ⟨1⟩ .anafi4k 554 (.listener ⟨1⟩)
  Proxy.reportOpen meddlingHost p (.ok ⟨none, 40000⟩)

theorem meddledOpening_reached : Reached (meddledOpening.run { host := () }).2 := by
  refine ⟨meddlingHost, (), none, _, meddledOpening, meddlingHost_hosted, ?_, rfl⟩
  refine .bind (.basic (.inr (.createProxy _ _ _ _))) fun p => ?_
  exact .basic (.inr (.reportOpen _ _))

theorem meddledOpening_told : ∃ x,
    (meddledOpening.run { host := () }).2.proxies.find? ⟨1⟩ = some x ∧
    x.steps = [.reportOpen (.ok ⟨none, 40000⟩), .reportOpen (.error .canceled), .close,
      .reportClosed] ∧
    x.told = [.ok ⟨none, 40000⟩] ∧ x.state = .closed := by
  have seen : ((meddledOpening.run { host := () }).2.proxies.find? ⟨1⟩).map
      (fun x => (x.steps, x.state)) = some ([.reportOpen (.ok ⟨none, 40000⟩),
        .reportOpen (.error .canceled), .close, .reportClosed], .closed) := rfl
  obtain ⟨x, row, same⟩ := Option.map_eq_some_iff.mp seen
  obtain ⟨steps, state⟩ := Prod.mk.inj same
  obtain ⟨-, -, told, -⟩ := Proxy.outcome_told meddledOpening_reached row
  exact ⟨x, row, steps, (told _).mpr (by rw [steps]; rfl), state⟩

end DroneControl
