import DroneControl.Proofs.Interface.Failing
import DroneControl.Proofs.Interface.Silence

/-!
# The aftermath of closing

An interface that has closed takes no command, offers no frame and gets none.  It may still hand over
commands: a frame that asks for an acknowledgement is answered before its command is handed over, and
whoever is called for the answer may close the interface.  So what is handed over afterwards is due to
frames of this kind that were being acknowledged at that moment, and the latest of them has the first turn.
-/

set_option synthInstance.maxSize 2048

namespace DroneControl

variable {σ α : Type} {i : InterfaceId} {w w' w'' : World σ} {env : Env σ} {x : Interface}
  {more more' : List Happening} {frame : Frame}

/-- A frame that asks for an acknowledgement, by where it came in, and the command in it. -/
abbrev Promise := Nat × Option Command

namespace Occurrence

/-- Only an open interface takes a command, offers a frame, gets one, or closes. -/
def needsOpen (i : InterfaceId) : Occurrence → Prop
  | .queued i' _ | .offered i' _ | .arrived i' _ | .closed i' => i' = i
  | _ => False

/-- What an interface still has to acknowledge after an occurrence at a place of the history. -/
def owing (i : InterfaceId) (place : Nat) (due : List Promise) : Occurrence → List Promise
  | .arrived i' frame =>
    if i' = i ∧ frame.header.kind = .dataWithAck
      then (place, (Command.decode frame.payload).toOption) :: due else due
  | .answered i' place' => if i' = i then due.filter (·.1 ≠ place') else due
  | _ => due

structure IsAside (i : InterfaceId) (o : Occurrence) : Prop where
  rests : ¬o.needsOpen i
  keeps : o.delivered? i = none
  silent : ∀ place, o ≠ .answered i place

theorem IsAside.still {o : Occurrence} (aside : o.IsAside i) (place : Nat) (due : List Promise) :
    o.owing i place due = due := by
  cases o with
  | arrived i' frame => exact if_neg fun same => aside.rests same.1
  | answered i' place' => exact if_neg fun same => aside.silent place' (by rw [same])
  | _ => rfl

theorem IsAside.of_not_concerns {o : Occurrence} (aside : ¬o.concerns i) : o.IsAside i := by
  constructor <;> cases o <;> simp_all [concerns, needsOpen, delivered?]

end Occurrence

/-- What an interface still has to acknowledge after happenings from some place on. -/
def owing (i : InterfaceId) : Nat → List Happening → List Promise → List Promise
  | _, [], due => due
  | place, y :: rest, due => owing i (place + 1) rest (y.what.owing i place due)

/-- The commands of the frames that an interface is acknowledging, from the latest on. -/
def owed (i : InterfaceId) (past : List Happening) : List Command :=
  (owing i 0 past []).filterMap (·.2)

section Owing

variable {place : Nat} {l l' : List Happening} {due due' : List Promise}

theorem owing_append : owing i place (l ++ l') due = owing i (place + l.length) l' (owing i place l due) := by
  induction l generalizing place due with
  | nil => rfl
  | cons y l ih =>
    simp only [List.cons_append, owing, ih, List.length_cons]
    congr 1
    omega

theorem owing_sublist (le : due.Sublist due') : (owing i place l due).Sublist (owing i place l due') := by
  induction l generalizing place due due' with
  | nil => exact le
  | cons y l ih =>
    refine ih ?_
    cases y.what <;> simp only [Occurrence.owing] <;> first | exact le | split
    all_goals first | exact le | exact le.cons_cons _ | exact le.filter _

theorem owing_concat (due : List Promise) {p : Promise} (unanswered : ∀ t, ⟨t, .answered i p.1⟩ ∉ l) :
    owing i place l (due ++ [p]) = owing i place l due ++ [p] := by
  induction l generalizing place due with
  | nil => rfl
  | cons y l ih =>
    obtain ⟨t, o⟩ := y
    have rest (due : List Promise) : owing i (place + 1) l (due ++ [p]) = owing i (place + 1) l due ++ [p] :=
      ih due fun t among => unanswered t (.tail _ among)
    simp only [owing]
    rw [← rest]
    congr 1
    cases o with
    | arrived i' frame =>
      simp only [Occurrence.owing]
      split <;> rfl
    | answered i' place' =>
      simp only [Occurrence.owing]
      split
      · next own =>
        have other : p.1 ≠ place' := by
          rintro rfl
          exact unanswered t (own ▸ .head _)
        simp [other]
      · rfl
    | _ => rfl

theorem owing_of_still (still : ∀ y ∈ l, ∀ place due, y.what.owing i place due = due) :
    owing i place l due = due := by
  induction l generalizing place with
  | nil => rfl
  | cons y l ih =>
    rw [owing, still y List.mem_cons_self]
    exact ih fun y among => still y (.tail _ among)

end Owing

/-- No more of the interface than commands handed over that are due, in their order. -/
structure Subsides (i : InterfaceId) (due : List Command) (happenings : List Happening) : Prop where
  rests : ∀ y ∈ happenings, ¬y.what.needsOpen i
  handed : (happenings.filterMap (·.what.delivered? i)).Sublist due

namespace Subsides

variable {l l' : List Happening} {due due' : List Command}

theorem nil (i : InterfaceId) (due : List Command) : Subsides i due [] :=
  ⟨by simp, List.nil_sublist _⟩

theorem append (h : Subsides i due l) (h' : Subsides i due' l') :
    Subsides i (due ++ due') (l ++ l') where
  rests y among := (List.mem_append.mp among).elim (h.rests y) (h'.rests y)
  handed := by
    rw [List.filterMap_append]
    exact h.handed.append h'.handed

theorem mono (h : Subsides i due l) (le : due.Sublist due') : Subsides i due' l :=
  ⟨h.rests, h.handed.trans le⟩

end Subsides

/-- What happens from one world to the next.  An interface that was closed does no more; one that closes on
the way does besides what it owed then; and what comes in on the way is acknowledged on the way. -/
structure Recedes (i : InterfaceId) (w w' : World σ) (more : List Happening) : Prop where
  grown : w'.chronicle = w.chronicle ++ more
  shut : w.Shut i → w'.Shut i ∧ Subsides i [] more
  closes : ∀ t, ⟨t, .closed i⟩ ∈ more → w'.Shut i
  after : ∀ before t after, more = before ++ ⟨t, .closed i⟩ :: after →
    Subsides i ((owing i w.chronicle.length before []).filterMap (·.2)) after
  answers : ∀ t place, ⟨t, .answered i place⟩ ∈ more → w.chronicle.length ≤ place
  even : owing i w.chronicle.length more [] = []

def Settles (i : InterfaceId) (w w' : World σ) : Prop := ∃ more, Recedes i w w' more

namespace Recedes

theorem trans (h : Recedes i w w' more) (h' : Recedes i w' w'' more') :
    Recedes i w w'' (more ++ more') where
  grown := by rw [h'.grown, h.grown, List.append_assoc]
  shut shut := by
    obtain ⟨shut', first⟩ := h.shut shut
    obtain ⟨shut'', second⟩ := h'.shut shut'
    exact ⟨shut'', first.append second⟩
  closes t among := by
    rcases List.mem_append.mp among with first | second
    · exact (h'.shut (h.closes t first)).1
    · exact h'.closes t second
  after before t after split := by
    have later := h'.after
    rw [h.grown, List.length_append] at later
    rcases List.append_eq_append_iff.mp split with ⟨b, rfl, split'⟩ | ⟨a, split', rest⟩
    · -- It closes in the second part.
      refine (later b t after split').mono ?_
      rw [owing_append]
      exact (owing_sublist (List.nil_sublist _)).filterMap _
    · cases a with
      | nil =>
        rw [List.append_nil] at split'
        refine (later [] t after (by simpa using rest.symm)).mono ?_
        exact List.nil_sublist _
      | cons y a =>
        obtain ⟨rfl, rfl⟩ := List.cons.inj rest
        have both := (h.after before t a split').append (h'.shut (h.closes t (by simp [split']))).2
        rwa [List.append_nil] at both
  answers t place among := by
    rcases List.mem_append.mp among with first | second
    · exact h.answers t place first
    · have := h'.answers t place second
      rw [h.grown, List.length_append] at this
      omega
  even := by
    have := h'.even
    rw [h.grown, List.length_append] at this
    rw [owing_append, h.even, this]

theorem of_aside (grown : w'.chronicle = w.chronicle ++ more) (shut : w.Shut i → w'.Shut i)
    (aside : ∀ y ∈ more, y.what.IsAside i) : Recedes i w w' more where
  grown := grown
  shut was := by
    refine ⟨shut was, fun y among => (aside y among).rests, ?_⟩
    rw [List.filterMap_eq_nil_iff.mpr fun y among => (aside y among).keeps]
  closes t among := absurd rfl (aside _ among).rests
  after before t after split := absurd rfl (aside ⟨t, .closed i⟩ (by simp [split])).rests
  answers t place among := absurd rfl ((aside _ among).silent place)
  even := owing_of_still fun y among => (aside y among).still

theorem mark_open (opened : (w.interface i).closed = false) {o : Occurrence} (other : o ≠ .closed i)
    (silent : ∀ place, o ≠ .answered i place)
    (still : ∀ place due, o.owing i place due = due) :
    Recedes i w (w.mark o) [⟨w.loop.clock, o⟩] := by
  have unclosed (t : Nat) : ⟨t, .closed i⟩ ∉ [(⟨w.loop.clock, o⟩ : Happening)] := fun among =>
    other (congrArg Happening.what (List.mem_singleton.mp among)).symm
  refine ⟨w.chronicle_mark o, fun was => ?_, fun t among => absurd among (unclosed t), ?_, ?_, ?_⟩
  · exact absurd was.closed (by simp [opened])
  · intro before t after split
    exact absurd (split ▸ by simp) (unclosed t)
  · intro t place among
    exact absurd (congrArg Happening.what (List.mem_singleton.mp among)).symm (silent place)
  · exact still _ _

theorem confirm (opened : (w.interface i).closed = false) (kind : frame.header.kind = .dataWithAck)
    {w₁ w₂ : World σ} (acknowledged : Settles i (w.mark (.arrived i frame)) w₁)
    (handed : List Happening)
    (grown : w₂.chronicle = (w₁.mark (.answered i w.history.length)).chronicle ++ handed)
    (only : ∀ y ∈ handed, ∃ c, y.what = .delivered i c)
    (due : (handed.filterMap (·.what.delivered? i)).Sublist
      (Command.decode frame.payload).toOption.toList)
    (shut : w₁.Shut i → w₂.Shut i) : Settles i w w₂ := by
  obtain ⟨more, h⟩ := acknowledged
  have length : w.history.length = w.chronicle.length := List.length_reverse.symm
  have place : (w.mark (.arrived i frame)).chronicle.length = w.chronicle.length + 1 := by
    rw [World.chronicle_mark, List.length_append, List.length_singleton]
  have arrival (place : Nat) (due : List Promise) : (Occurrence.arrived i frame).owing i place due =
      (place, (Command.decode frame.payload).toOption) :: due := by simp [Occurrence.owing, kind]
  have unclosed (t : Nat) : ⟨t, .closed i⟩ ∉ handed := fun among => by
    obtain ⟨c, same⟩ := only _ among
    cases same
  -- What the frame promises stays due until it is answered, whatever else comes in meanwhile.
  have kept : ∀ before after, more = before ++ after →
      owing i (w.chronicle.length + 1) before [(w.chronicle.length, (Command.decode frame.payload).toOption)] =
        owing i (w.chronicle.length + 1) before [] ++
          [(w.chronicle.length, (Command.decode frame.payload).toOption)] := by
    intro before after split
    refine owing_concat [] fun t among => ?_
    have := h.answers t _ (split ▸ List.mem_append_left _ among)
    rw [place] at this
    omega
  have still : ∀ y ∈ handed, ∀ place due, y.what.owing i place due = due := by
    intro y among place due
    obtain ⟨c, same⟩ := only y among
    rw [same]
    rfl
  have even := h.even
  have after := h.after
  rw [place] at even after
  rw [World.chronicle_mark, h.grown, World.chronicle_mark] at grown
  refine ⟨⟨w.loop.clock, .arrived i frame⟩ ::
    (more ++ ⟨w₁.loop.clock, .answered i w.history.length⟩ :: handed), ?_, fun was => ?_, fun t among => ?_,
    fun before t rest split => ?_, fun t place' among => ?_, ?_⟩
  · rw [grown]
    simp
  · exact absurd was.closed (by simp [opened])
  · simp only [List.mem_cons, List.mem_append, Happening.mk.injEq, reduceCtorEq, and_false, false_or,
      unclosed t, or_false] at among
    exact shut (h.closes t among)
  · cases before with
    | nil => simp at split
    | cons y before =>
      obtain ⟨rfl, inner⟩ := List.cons.inj split
      rw [owing, arrival]
      rcases List.append_eq_append_iff.mp inner with ⟨b, rfl, late⟩ | ⟨a, split', late⟩
      · cases b with
        | nil => simp at late
        | cons z b =>
          have among : handed = b ++ ⟨t, .closed i⟩ :: rest := (List.cons.inj late).2
          exact absurd (among ▸ by simp) (unclosed t)
      · cases a with
        | nil => simp at late
        | cons z a =>
          obtain ⟨rfl, rfl⟩ := List.cons.inj late
          rw [kept before _ split', List.filterMap_append]
          refine (after before t a split').append ⟨fun y among => ?_, ?_⟩
          · rcases List.mem_cons.mp among with rfl | among
            · exact id
            · obtain ⟨c, same⟩ := only y among
              rw [same]
              exact id
          · rw [List.filterMap_cons]
            exact due.trans (by cases (Command.decode frame.payload).toOption <;> simp)
  · simp only [List.mem_cons, List.mem_append, Happening.mk.injEq, reduceCtorEq, and_false, false_or,
      Occurrence.answered.injEq, true_and] at among
    rcases among with among | ⟨-, rfl⟩ | among
    · have := h.answers t _ among
      rw [place] at this
      omega
    · exact length.ge
    · obtain ⟨c, same⟩ := only _ among
      cases same
  · rw [owing, arrival, owing_append, kept more [] (List.append_nil _).symm, even, owing,
      owing_of_still still]
    simp [Occurrence.owing, length]

end Recedes

/-! ## Steps of the interface itself -/

/-- Nothing happened, and the interface is as open as it was. -/
structure Uneventful (i : InterfaceId) (w w' : World σ) : Prop where
  known : w.interfaces.next ≤ w'.interfaces.next
  closed : (w'.interface i).closed = (w.interface i).closed
  chronicle : w'.chronicle = w.chronicle

namespace Uneventful

theorem refl (w : World σ) : Uneventful i w w := ⟨le_rfl, rfl, rfl⟩

theorem trans (h : Uneventful i w w') (h' : Uneventful i w' w'') : Uneventful i w w'' :=
  ⟨h.known.trans h'.known, h'.closed.trans h.closed, h'.chronicle.trans h.chronicle⟩

instance keeps_closed : Closed (Keeps (σ := σ) (Uneventful i)) := Keeps.closed .refl .trans

theorem shut (h : Uneventful i w w') (was : w.Shut i) : w'.Shut i :=
  ⟨Nat.lt_of_lt_of_le was.known h.known, h.closed.trans was.closed⟩

theorem settles (h : Uneventful i w w') : Settles i w w' :=
  ⟨[], .of_aside (by rw [h.chronicle, List.append_nil]) h.shut (by simp)⟩

theorem of_same (interfaces : w'.interfaces = w.interfaces) (history : w'.history = w.history) :
    Uneventful i w w' :=
  ⟨interfaces ▸ le_rfl, by rw [World.interface, World.interface, interfaces],
    by rw [World.chronicle, World.chronicle, history]⟩

instance log_uneventful (s : Severity) (message : String) (fields : List (String × String)) :
    Holds (Keeps (σ := σ) (Uneventful i)) (log s message fields) := by
  refine ⟨fun w => ?_⟩
  rw [run_log]
  unfold World.log
  split <;> exact .of_same rfl rfl

instance cancelTimer?_uneventful (t : Option TimerId) :
    Holds (Keeps (σ := σ) (Uneventful i)) (cancelTimer? t) := by
  cases t <;> exact ⟨fun _ => .of_same rfl rfl⟩

instance schedule_uneventful (delay : Nat) (job : Job) :
    Holds (Keeps (σ := σ) (Uneventful i)) (schedule delay job) :=
  ⟨fun _ => .of_same rfl rfl⟩

instance clearReceiver_uneventful (p : PipeId) :
    Holds (Keeps (σ := σ) (Uneventful i)) (Pipe.clearReceiver p) :=
  ⟨fun _ => .of_same rfl rfl⟩

theorem row {f : World σ → α} {g : World σ → Interface → Interface}
    (same : ∀ w x, w.interfaces.find? i = some x → (g w x).closed = x.closed) :
    Holds (Keeps (Uneventful i))
      (modifyGet fun w => (f w, w.updateInterface i (g w)) : Act σ α) := by
  refine ⟨fun w => ⟨Nat.le_of_eq (Table.next_update _ _ _).symm, ?_, rfl⟩⟩
  simp only [run_modifyGet, World.interface, World.updateInterface, Table.get, Table.find?_update,
    if_true]
  cases found : w.interfaces.find? i with
  | none => rfl
  | some x => exact same w x found

theorem update {f : Interface → Interface} (same : ∀ x, (f x).closed = x.closed) :
    Holds (Keeps (Uneventful i)) (modify (·.updateInterface i f) : Act σ Unit) :=
  row (f := fun _ => ()) (g := fun _ => f) fun _ x _ => same x

end Uneventful

namespace Interface

open Uneventful

instance trace_uneventful (direction : Direction) (c : Command) :
    Holds (Keeps (σ := σ) (Uneventful i)) (trace i direction c) := by
  have noted (text : String) : Holds (Keeps (σ := σ) (Uneventful i))
      (modify (·.note "log" Severity.info.name [.text text])) :=
    ⟨fun _ => .of_same rfl rfl⟩
  unfold trace
  infer_instance

instance warnFailure_uneventful (message : String) (f : Fault) :
    Holds (Keeps (σ := σ) (Uneventful i)) (warnFailure i message f) := by
  unfold warnFailure
  infer_instance

instance setTimer_uneventful (timer : Option TimerId) :
    Holds (Keeps (σ := σ) (Uneventful i)) (setTimer i timer) := by
  have placed : Holds (Keeps (σ := σ) (Uneventful i))
      (modify (·.updateInterface i fun x => { x with retryTimer := timer })) :=
    update fun _ => rfl
  unfold setTimer
  infer_instance

instance clearFlight_uneventful : Holds (Keeps (σ := σ) (Uneventful i)) (clearFlight i) := by
  have cleared : Holds (Keeps (σ := σ) (Uneventful i))
      (modify (·.updateInterface i fun x => { x with inFlight := none })) :=
    update fun _ => rfl
  unfold clearFlight
  infer_instance

instance launch_uneventful (f : InFlight) :
    Holds (Keeps (σ := σ) (Uneventful i)) (launch i f) := by
  have placed : Holds (Keeps (σ := σ) (Uneventful i))
      (modify (·.updateInterface i fun x => { x with inFlight := some f })) :=
    update fun _ => rfl
  unfold launch
  infer_instance

instance drawSeq_uneventful (buffer : UInt8) :
    Holds (Keeps (σ := σ) (Uneventful i)) (drawSeq i buffer) :=
  row (f := fun w => ((w.interface i).takeSeq buffer).1)
    (g := fun w _ => ((w.interface i).takeSeq buffer).2) fun w x found => by
      rw [World.interface_of_find? found]
      rfl

instance noteReceived_uneventful (buffer seq : UInt8) :
    Holds (Keeps (σ := σ) (Uneventful i)) (modifyGet fun w =>
      let (repeated, x) := (w.interface i).noteReceived buffer seq
      (repeated, w.updateInterface i fun _ => x)) :=
  row (f := fun w => ((w.interface i).noteReceived buffer seq).1)
    (g := fun w _ => ((w.interface i).noteReceived buffer seq).2) fun w x found => by
      rw [World.interface_of_find? found]
      rfl

end Interface

namespace Settles

theorem of_recedes (h : Recedes i w w' more) : Settles i w w' := ⟨more, h⟩

theorem later (h : Settles i w w') (h' : Settles i w' w'') : Settles i w w'' := by
  obtain ⟨more, h⟩ := h
  obtain ⟨more', h'⟩ := h'
  exact ⟨more ++ more', h.trans h'⟩

instance watches : Watches (σ := σ) i (Settles i) where
  spares {w w'} spares := by
    obtain ⟨more, grown, aside⟩ := spares.history
    refine ⟨more.reverse, .of_aside (by simp [World.chronicle, grown]) spares.shut fun y among => ?_⟩
    exact .of_not_concerns (aside y (List.mem_reverse.mp among))
  trans h h' := h.later h'

instance overlooksLoop : OverlooksLoop (Keeps (σ := σ) (Settles i)) where
  change _ _ := ⟨[], .of_aside (List.append_nil _).symm (fun was => ⟨was.known, was.closed⟩) (by simp)⟩
  beats _ w := watches.spares (.mark w fun about => about)

theorem of_uneventful {a : Act σ α} (h : Holds (Keeps (Uneventful i)) a) :
    Holds (Keeps (Settles i)) a :=
  ⟨fun w => (h.holds w).settles⟩

theorem of_open {a : Act σ α} (idle : ∀ w, (w.interface i).closed = true → (a.run w).2 = w)
    (opened : ∀ w x, w.interfaces.find? i = some x → x.closed = false → Settles i w (a.run w).2) :
    Holds (Keeps (Settles i)) a := by
  refine ⟨fun w => ?_⟩
  cases closed : (w.interface i).closed with
  | true =>
    rw [idle w closed]
    exact (Uneventful.refl w).settles
  | false =>
    obtain ⟨x, row, opened'⟩ := World.find?_of_open closed
    exact opened w x row opened'

end Settles

namespace Interface

section

variable [Upheld (Keeps (Settles i)) env]

variable (env) in
theorem offer_settles (opened : (w.interface i).closed = false) (p : PipeId) (frame : Frame) :
    Settles i w ((offer env i p frame).run.run w).2 := by
  have refused (place : Nat) : Holds (Keeps (σ := σ) (Settles i)) (mark (.refused i place)) :=
    ⟨fun w => ⟨_, .of_aside (w.chronicle_mark _) (fun was => ⟨was.known, was.closed⟩) fun y among => by
      rw [List.mem_singleton.mp among]
      exact ⟨id, rfl, nofun⟩⟩⟩
  have sending : Holds (Keeps (Settles i)) (onFailure (Pipe.send env p frame)
      fun _ => mark (.refused i w.history.length)).run := inferInstance
  have offered : Settles i w (w.mark (.offered i frame)) :=
    .of_recedes (.mark_open opened nofun nofun fun _ _ => rfl)
  unfold offer
  rw [run_lookThen, run_actThen, run_mark]
  exact offered.later (sending.holds _)

instance rejected_settles (device : DeviceHandle) (seq : UInt8) (f : Fault) :
    Holds (Keeps (σ := σ) (Settles i)) (rejected i device seq f) := by
  have cleared := Settles.of_uneventful (σ := σ) (clearFlight_uneventful (i := i))
  unfold rejected
  infer_instance

instance warnFailure_settles (message : String) (f : Fault) :
    Holds (Keeps (σ := σ) (Settles i)) (warnFailure i message f) :=
  Settles.of_uneventful (warnFailure_uneventful message f)

variable (env) in
theorem attempt_settles (opened : (w.interface i).closed = false) (p : PipeId) (frame : Frame)
    {react : Fault → Act σ Unit} (reacts : ∀ f, Holds (Keeps (Settles i)) (react f)) :
    Settles i w ((onFailure (offer env i p frame) react).run.run w).2 ∧
      Settles i w ((recover (offer env i p frame) react).run w).2 := by
  have offered := offer_settles env opened p frame
  rw [run_onFailure, run_recover]
  generalize (offer env i p frame).run.run w = r at offered ⊢
  obtain ⟨result, w₁⟩ := r
  cases result with
  | ok => exact ⟨offered, offered⟩
  | error f =>
    have all := offered.later ((reacts f).holds w₁)
    exact ⟨all, all⟩

instance pump_settles : Holds (Keeps (Settles i)) (pump env i).run := by
  refine ⟨fun w => ?_⟩
  by_cases rests : (w.interface i).closed = true ∨ (w.interface i).inFlight.isSome ∨
      (w.interface i).queue = []
  · rw [pump_idles env rests]
    exact (Uneventful.refl w).settles
  · simp only [not_or, Bool.not_eq_true, Option.isSome_eq_false_iff,
      Option.isNone_iff_eq_none] at rests
    obtain ⟨opened, idle, waits⟩ := rests
    obtain ⟨x, row, opened⟩ := World.find?_of_open opened
    rw [World.interface_of_find? row] at idle waits
    obtain ⟨data, rest, queue⟩ := List.exists_cons_of_ne_nil waits
    obtain ⟨w₁, desk, same⟩ := pump_begins env row opened idle queue rfl
    have row₁ := World.interface_of_find? (congrArg Desk.row desk)
    have launched : Uneventful i w w₁ := by
      refine ⟨Nat.le_of_eq (congrArg Desk.next desk).symm, ?_, congrArg Desk.chronicle desk⟩
      rw [row₁, World.interface_of_find? row]
    rw [same]
    exact launched.settles.later
      (attempt_settles env (by rw [row₁]; exact opened) _ _ fun f => rejected_settles _ _ f).1

theorem retry_settles : Holds (Keeps (Settles i)) (retry env i) := by
  refine Settles.of_open retry_closed fun w x row opened => ?_
  have rests : Settles i w w := (Uneventful.refl w).settles
  unfold retry
  rw [run_bind, run_get]
  dsimp only
  rw [World.interface_of_find? row, if_neg (by simp [opened])]
  cases flying : x.inFlight with
  | none => exact rests
  | some f =>
    dsimp only
    split
    · rw [run_bind]
      have launched := (launch_uneventful (i := i) { f with retries := f.retries + 1 }).holds w
      have open₁ := launched.closed.trans (by rw [World.interface_of_find? row, opened])
      exact launched.settles.later
        (attempt_settles env open₁ _ _ fun f => warnFailure_settles _ f).2
    · have cleared := Settles.of_uneventful (σ := σ) (clearFlight_uneventful (i := i))
      have spent : Holds (Keeps (Settles i)) (do
          log .warn "Ack command not acknowledged, dropping"
            [("device", x.device.label), ("seq", Text.Decimal.render f.seq.toNat),
              ("retries", Text.Decimal.render f.retries)]
          clearFlight i
          recover (pump env i) (warnFailure i "Failed to send ack command")) := inferInstance
      exact spent.holds w

theorem send_settles (c : Command) : Holds (Keeps (Settles i)) (send env i c).run := by
  refine Settles.of_open (send_closed c) fun w x row opened => ?_
  have traced := Settles.of_uneventful (σ := σ) (trace_uneventful (i := i) .sent c)
  unfold send
  rw [run_lookThen]
  dsimp only
  rw [World.interface_of_find? row]
  cases c.delivery with
  | invalid => exact (Uneventful.refl w).settles
  | nonAck =>
    dsimp only
    rw [if_neg (by simp [opened]), run_actThen, run_actThen]
    have drawn := (drawSeq_uneventful (i := i) BufferId.toDeviceNonAck).holds w
    generalize (drawSeq i BufferId.toDeviceNonAck).run w = r at drawn ⊢
    obtain ⟨seq, w₁⟩ := r
    have noted := drawn.trans ((trace_uneventful (i := i) .sent c).holds w₁)
    have open₁ := noted.closed.trans (by rw [World.interface_of_find? row, opened])
    exact noted.settles.later (offer_settles env open₁ _ _)
  | ack =>
    dsimp only
    rw [if_neg (by simp [opened]), run_actThen, run_modify, run_actThen, run_mark]
    have rest : Holds (Keeps (Settles i)) (do
        act (trace i .sent c)
        if x.inFlight.isNone then pump env i : Try σ Unit).run := inferInstance
    have waits : Uneventful i w (w.updateInterface i fun x => { x with queue := x.queue ++ [c.data] }) :=
      (Uneventful.update (f := fun x => { x with queue := x.queue ++ [c.data] }) fun _ => rfl).holds w
    have open₁ := waits.closed.trans (by rw [World.interface_of_find? row, opened])
    have queued : Settles i _ (World.mark _ (.queued i c.data)) :=
      .of_recedes (.mark_open open₁ nofun nofun fun _ _ => rfl)
    exact (waits.settles.later queued).later (rest.holds _)

/-! ## Receiving -/

variable (env) in
theorem answer_settles (opened : (w.interface i).closed = false) (frame : Frame)
    (complaint : String) : Settles i w ((answer env i frame complaint).run w).2 := by
  unfold answer
  rw [run_bind, run_get]
  exact (attempt_settles env opened _ frame fun f => warnFailure_settles complaint f).2

theorem hand_settles {w₀ : World σ} {c : Command} (may : Settles i w₀ (w.mark (.delivered i c))) :
    Settles i w₀ ((hand env i c).run w).2 := by
  have later {a : Act σ Unit} (told : Holds (Keeps (Settles i)) a) :
      Settles i w₀ (a.run (w.mark (.delivered i c))).2 :=
    may.later (told.holds _)
  unfold hand
  rw [run_bind, run_mark, run_bind, run_get]
  dsimp only
  cases ((w.mark (.delivered i c)).interface i).sink with
  | listener l => exact later inferInstance
  | controller k => exact later inferInstance

theorem deliver_settles {w₀ : World σ} (payload : Bytes) (quiet : Settles i w₀ w)
    (may : ∀ c w₁, Command.decode payload = .ok c → Uneventful i w w₁ →
      Settles i w₀ (w₁.mark (.delivered i c))) :
    Settles i w₀ ((deliver env i payload).run w).2 := by
  unfold deliver
  cases decoded : Command.decode payload with
  | error f =>
    have warned := (warnFailure_uneventful (i := i) "Undecodable command" f).holds w
    exact quiet.later warned.settles
  | ok c =>
    have traced := (trace_uneventful (i := i) .received c).holds w
    dsimp only
    rw [run_bind]
    exact hand_settles (may c _ decoded traced)

theorem deliver_open (opened : (w.interface i).closed = false) (payload : Bytes) :
    Settles i w ((deliver env i payload).run w).2 :=
  deliver_settles payload (Uneventful.refl w).settles fun _ _ _ same =>
    same.settles.later (.of_recedes (.mark_open (same.closed.trans opened) nofun nofun fun _ _ => rfl))

theorem receive_settles (frame : Frame) : Holds (Keeps (Settles i)) (receive env i frame) := by
  refine Settles.of_open (receive_closed frame) fun w x row opened => ?_
  have opened' : (w.interface i).closed = false := by rw [World.interface_of_find? row, opened]
  have opened₁ : ((w.mark (.arrived i frame)).interface i).closed = false := opened'
  unfold receive
  rw [run_bind, run_get]
  dsimp only
  rw [World.interface_of_find? row, if_neg (by simp [opened]), run_bind, run_mark]
  have arrived (plain : frame.header.kind ≠ .dataWithAck) : Settles i w (w.mark (.arrived i frame)) :=
    .of_recedes (.mark_open opened' nofun nofun fun _ _ => if_neg fun same => plain same.2)
  dsimp only
  cases kind : frame.header.kind with
  | ack =>
    replace arrived := arrived (by simp [kind])
    have acknowledges (seq : UInt8) : Holds (Keeps (Settles i)) (acknowledged env i seq) := by
      have cleared := Settles.of_uneventful (σ := σ) (clearFlight_uneventful (i := i))
      unfold acknowledged
      infer_instance
    cases frame.payload with
    | nil => exact arrived
    | cons seq _ =>
      dsimp only
      split
      · exact arrived.later ((acknowledges seq).holds _)
      · exact arrived
  | dataWithAck =>
    -- The only frame that may find the interface closed when its command is to be handed over.
    dsimp only
    rw [run_bind]
    have drawn := (drawSeq_uneventful (i := i) (BufferId.ackOf frame.header.id)).holds
      (w.mark (.arrived i frame))
    generalize (drawSeq i (BufferId.ackOf frame.header.id)).run _ = r at drawn ⊢
    obtain ⟨seq, w₁⟩ := r
    dsimp only
    rw [run_bind]
    have answered := answer_settles env (drawn.closed.trans opened₁)
      { header := ⟨.ack, BufferId.ackOf frame.header.id, seq⟩, payload := [frame.header.seq] }
      "Failed to acknowledge frame"
    generalize ((answer env i _ "Failed to acknowledge frame").run w₁).2 = w₂ at answered ⊢
    rw [run_bind, run_mark, run_bind]
    have acknowledged := drawn.settles.later answered
    have noted := (noteReceived_uneventful (i := i) frame.header.id frame.header.seq).holds
      (w₂.mark (.answered i w.history.length))
    generalize (StateT.run _ (w₂.mark (.answered i w.history.length))) = r at noted ⊢
    obtain ⟨repeated, w₃⟩ := r
    have quiet {w' : World σ} (same : Uneventful i w₃ w') : Settles i w w' :=
      Recedes.confirm opened' kind acknowledged []
        (by rw [same.chronicle, noted.chronicle, List.append_nil]) (by simp) (by simp)
        fun was => same.shut (noted.shut ⟨was.known, was.closed⟩)
    dsimp only
    split
    · have logged : Holds (Keeps (Uneventful (σ := σ) i)) (log .debug "Duplicate frame"
          [("device", x.device.label), ("id", Text.Decimal.render frame.header.id.toNat),
            ("seq", Text.Decimal.render frame.header.seq.toNat)]) := inferInstance
      exact quiet (logged.holds _)
    · refine deliver_settles _ (quiet (.refl w₃)) fun c w₄ decoded same => ?_
      refine Recedes.confirm opened' kind acknowledged [⟨w₄.loop.clock, .delivered i c⟩] ?_ ?_ ?_
        fun was => ?_
      · rw [World.chronicle_mark, same.chronicle, noted.chronicle]
      · simp
      · simp [Occurrence.delivered?, decoded, Except.toOption]
      · have := same.shut (noted.shut ⟨was.known, was.closed⟩)
        exact ⟨this.known, this.closed⟩
  | data | lowLatency =>
    replace arrived := arrived (by simp [kind])
    dsimp only
    split
    · exact arrived.later (answer_settles env opened₁ _ _)
    · split
      · exact arrived.later (deliver_open opened₁ _)
      · exact arrived

end

end Interface

/-! ## Runs -/

namespace Settles

theorem add (device : DeviceHandle) (pipe : PipeId) (sink : CommandSink)
    (traceCell : TraceCellId) : Keeps (σ := σ) (Settles i) InterfaceId (modifyGet fun w =>
      let (i, interfaces) := w.interfaces.add { device, pipe, sink, traceCell }
      (i, { w with interfaces })) := fun w =>
  ⟨[], .of_aside (List.append_nil _).symm
    (fun was => (Spares.add w _ (Nat.ne_of_lt was.known)).shut was) (by simp)⟩

theorem close : Holds (Keeps (σ := σ) (Settles i)) (Interface.close i) := by
  refine of_open Interface.close_closed fun w x row opened => ?_
  have shut : (w.updateInterface i fun x => { x with closed := true, queue := [] }).Shut i := by
    refine ⟨Nat.lt_of_lt_of_eq (Table.lt_next row) (Table.next_update _ _ _).symm, ?_⟩
    simp [World.interface, World.updateInterface, Table.get, Table.find?_update, row]
  unfold Interface.close
  rw [run_bind, run_get]
  dsimp only
  rw [World.interface_of_find? row, if_neg (by simp [opened]), run_bind, run_modify, run_bind,
    run_bind, run_mark]
  have cleared := (Interface.clearFlight_uneventful (i := i)).holds
    (w.updateInterface i fun x => { x with closed := true, queue := [] })
  generalize ((Interface.clearFlight i).run _).2 = w₁ at cleared ⊢
  have rest : Holds (Keeps (σ := σ) (Uneventful i)) (do
      Pipe.clearReceiver x.pipe
      log .debug "Command interface closed" [("device", x.device.label)]) := inferInstance
  have done := rest.holds (w₁.mark (.closed i))
  have shut₁ := cleared.shut shut
  refine ⟨[⟨w₁.loop.clock, .closed i⟩], ?_, fun was => ?_, fun _ _ => ?_, fun before t after split => ?_,
    by simp, rfl⟩
  · rw [done.chronicle, World.chronicle_mark, cleared.chronicle]
    rfl
  · exact absurd was.closed (by simp [World.interface_of_find? row, opened])
  · exact done.shut ⟨shut₁.known, shut₁.closed⟩
  · cases before with
    | nil =>
      obtain ⟨-, rest⟩ := List.cons.inj split
      exact rest ▸ .nil i _
    | cons y before => simp at split

instance interfaceLives : InterfaceLives (Keeps (σ := σ) (Settles i)) :=
  Watches.interfaceLives add close

theorem together (_ : Upheld (Keeps (Settles i)) env) : Together (Keeps (Settles i)) env := by
  have : InterfaceCalls (Keeps (Settles i)) env :=
    Watches.interfaceCalls Interface.send_settles Interface.receive_settles
  have : InterfaceRetries (Keeps (Settles i)) env :=
    ⟨Watches.of_own Interface.retry_settles fun _ _ => Interface.retry_of_steps⟩
  have : LoopCalls (Keeps (Settles i)) env := Loop.calls_of_steps
  exact Watches.together

end Settles

/-- Once an interface has closed it does nothing more in a run but hand over commands of the frames that it
was acknowledging when it closed, at most one for each, from the latest on.  Between calls it acknowledges
none. -/
theorem Reached.subsides (reached : Reached w) (i : InterfaceId) :
    owed i w.chronicle = [] ∧ ∀ before t after, w.chronicle = before ++ ⟨t, .closed i⟩ :: after →
      Subsides i (owed i before) after := by
  obtain ⟨host, verbosity, more, settled⟩ :
      ∃ host verbosity, Settles i ({ host, verbosity } : World σ) w :=
    reached.related fun _ u _ => Settles.together u
  have all : w.chronicle = more := settled.grown
  rw [all]
  exact ⟨by rw [owed, show owing i 0 more [] = [] from settled.even]; rfl, settled.after⟩

def severingHost : Env Unit :=
  { silentHost with
    ask := fun request =>
      match request with
      | .sendFrame _ _ => act (Interface.close ⟨1⟩)
      | _ => pure ()
    reap := reap silentHost }

theorem severingHost_hosted : Hosted severingHost := by
  refine .around silentHost_hosted ⟨?_, fun request _ => ?_, ?_, ?_, ?_, ?_⟩ rfl
  case refine_2 =>
    cases request with
    | sendFrame link frame =>
      exact .bind (.basic (.inr (.closeInterface _))) fun _ => .pure _
    | _ => exact .pure _
  all_goals intros; exact .pure _

def closedMeanwhile : Act Unit (Except Fault Unit) := do
  let p ← Pipe.create (.supplied ⟨1⟩)
  let _ ← (Pipe.start severingHost p).run
  let _ ← Interface.create ⟨1⟩ p (.listener ⟨1⟩) ⟨1⟩
  (Pipe.receive severingHost p ⟨⟨.dataWithAck, 127, 0⟩, [1, 0, 0, 0, 170], none⟩).run

theorem closedMeanwhile_reached : Reached (closedMeanwhile.run { host := () }).2 := by
  refine ⟨severingHost, (), none, _, closedMeanwhile, severingHost_hosted, ?_, rfl⟩
  refine .bind (.basic (.inr (.createPipe _))) fun p => ?_
  refine .bind (.basic (.inr (.startPipe _))) fun _ => ?_
  refine .bind (.basic (.inr (.createInterface _ _ _ _))) fun i => ?_
  exact .basic (.inr (.receiveFrame _ _))

theorem closedMeanwhile_subsides :
    let w := (closedMeanwhile.run { host := () }).2
    let before := w.chronicle.take 2
    let after := w.chronicle.drop 3
    w.chronicle = before ++ ⟨0, .closed ⟨1⟩⟩ :: after ∧ owed ⟨1⟩ w.chronicle = [] ∧
      Subsides ⟨1⟩ (owed ⟨1⟩ before) after ∧
      after.filterMap (·.what.delivered? ⟨1⟩) = owed ⟨1⟩ before ∧ (owed ⟨1⟩ before).length = 1 := by
  intro w before after
  have reached : Reached w := closedMeanwhile_reached
  have split : w.chronicle = before ++ ⟨0, .closed ⟨1⟩⟩ :: after := by decide +kernel
  have handed : after.filterMap (·.what.delivered? ⟨1⟩) = owed ⟨1⟩ before := by decide +kernel
  have one : (owed ⟨1⟩ before).length = 1 := by decide +kernel
  obtain ⟨even, subsides⟩ := reached.subsides ⟨1⟩
  exact ⟨split, even, subsides before 0 after split, handed, one⟩

end DroneControl
