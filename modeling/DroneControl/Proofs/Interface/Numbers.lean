import DroneControl.Proofs.Interface.Answering

/-!
# The numbers that an interface takes

Commands that are sent once, first attempts at commands to be acknowledged, and acknowledgements of
what comes in take fresh numbers, on each buffer one after the other.  A roll of these frames is kept
along the history of a world.  Whatever else the interface offers to its pipe has no number of its
own: it repeats the latest command to be acknowledged, or gives a ping back with the ping's number.
-/

namespace DroneControl

variable {i : InterfaceId} {chronicle : List Happening}

def Interface.onceFrame (seq : UInt8) (data : Bytes) : Frame :=
  { header := ⟨.data, BufferId.toDeviceNonAck, seq⟩, payload := data }

/-! ## What the history tells about a frame -/

def numbersOn (b : UInt8) (frames : List (Nat × Frame)) : List UInt8 :=
  (frames.filter (·.2.header.id = b)).map (·.2.header.seq)

def commandsOf (frames : List (Nat × Frame)) : List (Nat × Frame) :=
  frames.filter (·.2.isCommand)

def Answers (i : InterfaceId) (chronicle : List Happening) (place : Nat) (frame : Frame) : Prop :=
  ∃ before t inbound, place = before + 1 ∧ chronicle[before]? = some ⟨t, .arrived i inbound⟩ ∧
    frame ∈ inbound.answers frame.header.seq

/-- The frame at the place is of one of the kinds that take numbers. -/
def TakesNumber (i : InterfaceId) (chronicle : List Happening) (place : Nat) (frame : Frame) :
    Prop :=
  frame.isCommand ∨ (∃ seq data, frame = Interface.onceFrame seq data) ∨
    frame.header.kind = .ack ∧ Answers i chronicle place frame

/-- The frame is the latest command to be acknowledged before the place. -/
def Repeats (fresh : List (Nat × Frame)) (place : Nat) (frame : Frame) : Prop :=
  ∃ first, (first, frame) ∈ commandsOf fresh ∧ first < place ∧
    ∀ entry ∈ commandsOf fresh, entry.1 < place → entry.1 ≤ first

/-- These frames, each with its place in the history, take numbers, and no others do.  The numbers on
each buffer count up from zero. -/
structure CountedIn (i : InterfaceId) (chronicle : List Happening) (fresh : List (Nat × Frame)) :
    Prop where
  offered : ∀ place frame, (place, frame) ∈ fresh →
    (∃ t, chronicle[place]? = some ⟨t, .offered i frame⟩) ∧ TakesNumber i chronicle place frame
  ordered : fresh.Pairwise (·.1 < ·.1)
  numbers : ∀ b, numbersOn b fresh = (List.range (numbersOn b fresh).length).map UInt8.ofNat
  /-- First attempts are made at the commands that were taken, in order. -/
  commands : (commandsOf fresh).map (·.2.payload) <+: accepted i chronicle
  confirmed : ∀ place t inbound, chronicle[place]? = some ⟨t, .arrived i inbound⟩ →
    inbound.header.kind = .dataWithAck → ∃ frame, (place + 1, frame) ∈ fresh ∧
      frame.header.kind = .ack ∧ frame ∈ inbound.answers frame.header.seq
  rest : ∀ place t frame, chronicle[place]? = some ⟨t, .offered i frame⟩ →
    (place, frame) ∈ fresh ∨ Repeats fresh place frame ∨
      frame.header.kind ≠ .ack ∧ Answers i chronicle place frame

/-! ## The roll -/

/-- The commands that wait for a number, and the frames that have taken one. -/
structure Roll where
  waiting : List Bytes := []
  fresh : List (Nat × Frame) := []

namespace Roll

variable {r r' : Roll} {xs : List Happening} {x : Happening}

def next (r : Roll) (b : UInt8) : UInt8 := UInt8.ofNat (numbersOn b r.fresh).length

def enqueue (r : Roll) (data : Bytes) : Roll := { r with waiting := r.waiting ++ [data] }

def take (r : Roll) (place : Nat) (frame : Frame) : Roll :=
  { r with fresh := r.fresh ++ [(place, frame)] }

/-- The occurrence is none that the roll is about. -/
def Ignores (i : InterfaceId) : Occurrence → Prop
  | .queued i' _ => i' ≠ i
  | .offered i' _ => i' ≠ i
  | .arrived i' frame => i' = i → frame.header.kind ≠ .dataWithAck
  | _ => True

/-- What happens from a place of the history on, and what becomes of the roll.  An answer follows what
it answers. -/
inductive Step (i : InterfaceId) (place : Nat) : List Happening → Roll → Roll → Prop where
  | queued (r : Roll) (t : Nat) (data : Bytes) :
      Step i place [⟨t, .queued i data⟩] r (r.enqueue data)
  | begin {r : Roll} {data : Bytes} {rest : List Bytes} (t : Nat)
      (waits : r.waiting = data :: rest) :
      Step i place [⟨t, .offered i (Interface.ackFrame (r.next BufferId.toDeviceAck) data)⟩] r
        ({ r with waiting := rest }.take place
          (Interface.ackFrame (r.next BufferId.toDeviceAck) data))
  | once (r : Roll) (t : Nat) (data : Bytes) :
      Step i place [⟨t, .offered i (Interface.onceFrame (r.next BufferId.toDeviceNonAck) data)⟩] r
        (r.take place (Interface.onceFrame (r.next BufferId.toDeviceNonAck) data))
  | confirm {r : Roll} {inbound frame : Frame} (t t' : Nat) (kind : frame.header.kind = .ack)
      (answers : frame ∈ inbound.answers frame.header.seq)
      (number : frame.header.seq = r.next frame.header.id) :
      Step i place [⟨t, .arrived i inbound⟩, ⟨t', .offered i frame⟩] r (r.take (place + 1) frame)
  | again {r : Roll} {first : Nat} {frame : Frame} (t : Nat)
      (latest : (commandsOf r.fresh).getLast? = some (first, frame)) :
      Step i place [⟨t, .offered i frame⟩] r r
  | echo {inbound frame : Frame} (r : Roll) (t t' : Nat) (kind : frame.header.kind ≠ .ack)
      (plain : inbound.header.kind ≠ .dataWithAck)
      (answers : frame ∈ inbound.answers frame.header.seq) :
      Step i place [⟨t, .arrived i inbound⟩, ⟨t', .offered i frame⟩] r r
  | aside {x : Happening} (r : Roll) (ignores : Ignores i x.what) : Step i place [x] r r

/-- A history reads as a roll. -/
inductive Reads (i : InterfaceId) : List Happening → Roll → Prop where
  | empty : Reads i [] {}
  | entry {past xs : List Happening} {r r' : Roll} (reads : Reads i past r)
      (step : Step i past.length xs r r') : Reads i (past ++ xs) r'

/-! ## What a roll tells -/

theorem numbersOn_take (r : Roll) (b : UInt8) (place : Nat) (frame : Frame) :
    numbersOn b (r.take place frame).fresh =
      numbersOn b r.fresh ++ if frame.header.id = b then [frame.header.seq] else [] := by
  by_cases same : frame.header.id = b <;> simp [numbersOn, take, same]

theorem commandsOf_take (r : Roll) (place : Nat) (frame : Frame) :
    commandsOf (r.take place frame).fresh =
      commandsOf r.fresh ++ if frame.isCommand then [(place, frame)] else [] := by
  by_cases command : frame.isCommand <;> simp [commandsOf, take, command]

theorem next_take_same (r : Roll) (place : Nat) (frame : Frame) :
    (r.take place frame).next frame.header.id = r.next frame.header.id + 1 := by
  rw [next, numbersOn_take, if_pos rfl, List.length_append, next]
  exact UInt8.ofNat_add _ _

theorem next_take_other (r : Roll) (place : Nat) {b : UInt8} {frame : Frame}
    (other : frame.header.id ≠ b) : (r.take place frame).next b = r.next b := by
  rw [next, numbersOn_take, if_neg other, List.append_nil, next]

end Roll

namespace CountedIn

variable {fresh : List (Nat × Frame)} {place : Nat} {frame : Frame} {xs : List Happening}

theorem getElem?_later {p : Nat} {y : Happening} (there : chronicle[p]? = some y)
    (xs : List Happening) : (chronicle ++ xs)[p]? = some y := by
  obtain ⟨bound, -⟩ := List.getElem?_eq_some_iff.mp there
  rw [List.getElem?_append_left bound, there]

theorem answers_later (answers : Answers i chronicle place frame) (xs : List Happening) :
    Answers i (chronicle ++ xs) place frame := by
  obtain ⟨before, t, inbound, next, there, answers⟩ := answers
  exact ⟨before, t, inbound, next, getElem?_later there xs, answers⟩

theorem takesNumber_later (takes : TakesNumber i chronicle place frame) (xs : List Happening) :
    TakesNumber i (chronicle ++ xs) place frame :=
  takes.imp_right fun takes => takes.imp_right fun takes => ⟨takes.1, answers_later takes.2 xs⟩

theorem repeats_later (repeats : Repeats fresh place frame) {new : List (Nat × Frame)}
    (later : ∀ entry ∈ new, place ≤ entry.1) : Repeats (fresh ++ new) place frame := by
  obtain ⟨first, among, before, latest⟩ := repeats
  refine ⟨first, ?_, before, fun entry among' before' => ?_⟩
  · rw [commandsOf, List.filter_append]
    exact List.mem_append_left _ among
  · rw [commandsOf, List.filter_append, List.mem_append] at among'
    rcases among' with old | added
    · exact latest entry old before'
    · have := later entry (List.mem_of_mem_filter added)
      omega

theorem mem_append_place {p : Nat} {y : Happening} (there : (chronicle ++ xs)[p]? = some y) :
    chronicle[p]? = some y ∨ ∃ k, p = chronicle.length + k ∧ xs[k]? = some y := by
  rcases Nat.lt_or_ge p chronicle.length with old | new
  · rw [List.getElem?_append_left old] at there
    exact .inl there
  · rw [List.getElem?_append_right new] at there
    exact .inr ⟨p - chronicle.length, by omega, there⟩

theorem grow (counted : CountedIn i chronicle fresh) (xs : List Happening)
    (new : List (Nat × Frame))
    (offered : ∀ place frame, (place, frame) ∈ new → chronicle.length ≤ place ∧
      (∃ t, (chronicle ++ xs)[place]? = some ⟨t, .offered i frame⟩) ∧
      TakesNumber i (chronicle ++ xs) place frame)
    (ordered : new.Pairwise (·.1 < ·.1))
    (numbers : ∀ b, numbersOn b (fresh ++ new) =
      (List.range (numbersOn b (fresh ++ new)).length).map UInt8.ofNat)
    (commands : (commandsOf (fresh ++ new)).map (·.2.payload) <+: accepted i (chronicle ++ xs))
    (confirmed : ∀ k t inbound, xs[k]? = some ⟨t, .arrived i inbound⟩ →
      inbound.header.kind = .dataWithAck → ∃ frame, (chronicle.length + k + 1, frame) ∈ new ∧
        frame.header.kind = .ack ∧ frame ∈ inbound.answers frame.header.seq)
    (rest : ∀ k t frame, xs[k]? = some ⟨t, .offered i frame⟩ →
      (chronicle.length + k, frame) ∈ new ∨ Repeats (fresh ++ new) (chronicle.length + k) frame ∨
        frame.header.kind ≠ .ack ∧ Answers i (chronicle ++ xs) (chronicle.length + k) frame) :
    CountedIn i (chronicle ++ xs) (fresh ++ new) where
  offered place frame among := by
    rcases List.mem_append.mp among with old | added
    · obtain ⟨⟨t, there⟩, takes⟩ := counted.offered place frame old
      exact ⟨⟨t, getElem?_later there xs⟩, takesNumber_later takes xs⟩
    · exact (offered place frame added).2
  ordered := by
    refine List.pairwise_append.mpr ⟨counted.ordered, ordered, ?_⟩
    intro entry old entry' added
    obtain ⟨⟨t, there⟩, -⟩ := counted.offered entry.1 entry.2 old
    obtain ⟨bound, -⟩ := List.getElem?_eq_some_iff.mp there
    exact bound.trans_le (offered entry'.1 entry'.2 added).1
  numbers := numbers
  commands := commands
  confirmed place t inbound there asks := by
    rcases mem_append_place there with old | ⟨k, rfl, now⟩
    · obtain ⟨frame, among, answers⟩ := counted.confirmed place t inbound old asks
      exact ⟨frame, List.mem_append_left _ among, answers⟩
    · obtain ⟨frame, among, answers⟩ := confirmed k t inbound now asks
      exact ⟨frame, List.mem_append_right _ among, answers⟩
  rest place t frame there := by
    rcases mem_append_place there with old | ⟨k, rfl, now⟩
    · obtain ⟨bound, -⟩ := List.getElem?_eq_some_iff.mp old
      have later : ∀ entry ∈ new, place ≤ entry.1 := fun entry added =>
        bound.le.trans (offered entry.1 entry.2 added).1
      exact (counted.rest place t frame old).imp (List.mem_append_left _) fun others =>
        others.imp (repeats_later · later) fun echo => ⟨echo.1, answers_later echo.2 xs⟩
    · exact (rest k t frame now).imp_left (List.mem_append_right _)

end CountedIn

namespace Roll

variable {r r' : Roll} {xs : List Happening}

/-- The roll tells what the frames are that take numbers, and which commands still wait. -/
structure Sound (i : InterfaceId) (chronicle : List Happening) (r : Roll) : Prop
    extends CountedIn i chronicle r.fresh where
  taken : accepted i chronicle = (commandsOf r.fresh).map (·.2.payload) ++ r.waiting

namespace Sound

theorem pass (sound : r.Sound i chronicle) (fresh : r'.fresh = r.fresh)
    (taken : accepted i (chronicle ++ xs) = (commandsOf r'.fresh).map (·.2.payload) ++ r'.waiting)
    (confirmed : ∀ (k t : Nat) (inbound : Frame), xs[k]? = some ⟨t, .arrived i inbound⟩ →
      inbound.header.kind ≠ .dataWithAck)
    (rest : ∀ k t frame, xs[k]? = some ⟨t, .offered i frame⟩ →
      Repeats r.fresh (chronicle.length + k) frame ∨
        frame.header.kind ≠ .ack ∧ Answers i (chronicle ++ xs) (chronicle.length + k) frame) :
    r'.Sound i (chronicle ++ xs) where
  taken := taken
  toCountedIn := by
    have prefixed := List.prefix_append ((commandsOf r'.fresh).map (·.2.payload)) r'.waiting
    rw [← taken, fresh] at prefixed
    have grown := sound.toCountedIn.grow xs []
    rw [List.append_nil] at grown
    rw [fresh]
    refine grown (fun _ _ => nofun) .nil sound.numbers prefixed ?_ ?_
    · intro k t inbound there asks
      exact absurd asks (confirmed k t inbound there)
    · intro k t frame there
      exact .inr (rest k t frame there)

theorem numbers_take (sound : r.Sound i chronicle) (place : Nat) {frame : Frame}
    (number : frame.header.seq = r.next frame.header.id) (b : UInt8) :
    numbersOn b (r.take place frame).fresh =
      (List.range (numbersOn b (r.take place frame).fresh).length).map UInt8.ofNat := by
  rw [numbersOn_take]
  split
  · next same =>
    subst same
    rw [List.length_append, List.length_singleton, List.range_succ, List.map_append,
      ← sound.numbers, number]
    rfl
  · rw [List.append_nil]
    exact sound.numbers b

theorem take (sound : r.Sound i chronicle) (now : List Happening) {t : Nat} {frame : Frame}
    {waiting : List Bytes}
    (number : frame.header.seq = r.next frame.header.id)
    (takes : TakesNumber i (chronicle ++ (now ++ [⟨t, .offered i frame⟩]))
      (chronicle.length + now.length) frame)
    (taken : accepted i (chronicle ++ (now ++ [⟨t, .offered i frame⟩])) =
      (commandsOf (r.take (chronicle.length + now.length) frame).fresh).map (·.2.payload) ++
        waiting)
    (confirmed : ∀ (k t : Nat) (inbound : Frame), now[k]? = some ⟨t, .arrived i inbound⟩ →
      k + 1 = now.length ∧ frame.header.kind = .ack ∧ frame ∈ inbound.answers frame.header.seq)
    (still : ∀ (k t : Nat) (frame : Frame), now[k]? ≠ some ⟨t, .offered i frame⟩) :
    ({ r with waiting }.take (chronicle.length + now.length) frame).Sound i
      (chronicle ++ (now ++ [(⟨t, .offered i frame⟩ : Happening)])) where
  taken := taken
  toCountedIn := by
    refine sound.toCountedIn.grow _ [(chronicle.length + now.length, frame)] ?_
      (List.pairwise_singleton _ _) (sound.numbers_take _ number) ⟨waiting, taken.symm⟩ ?_ ?_
    · intro place frame' among
      cases List.mem_singleton.mp among
      refine ⟨by omega, ⟨t, ?_⟩, takes⟩
      rw [List.getElem?_append_right (by omega), Nat.add_sub_cancel_left]
      simp
    · intro k t' inbound there asks
      rcases CountedIn.mem_append_place there with before | ⟨k', rfl, last⟩
      · obtain ⟨next, kind, answers⟩ := confirmed k t' inbound before
        refine ⟨frame, ?_, kind, answers⟩
        rw [Nat.add_assoc, next]
        exact .head _
      · cases k' <;> cases last
    · intro k t' frame' there
      rcases CountedIn.mem_append_place there with before | ⟨k', rfl, last⟩
      · exact absurd before (still k t' frame')
      · cases k' with
        | zero =>
          cases last
          exact .inl (.head _)
        | succ k' => cases last

theorem take_sole (sound : r.Sound i chronicle) {t : Nat} {frame : Frame} {waiting : List Bytes}
    (number : frame.header.seq = r.next frame.header.id)
    (takes : TakesNumber i (chronicle ++ [⟨t, .offered i frame⟩]) chronicle.length frame)
    (taken : accepted i (chronicle ++ [⟨t, .offered i frame⟩]) =
      (commandsOf (r.take chronicle.length frame).fresh).map (·.2.payload) ++ waiting) :
    ({ r with waiting }.take chronicle.length frame).Sound i
      (chronicle ++ [(⟨t, .offered i frame⟩ : Happening)]) := by
  apply sound.take [] number takes taken
  · simp
  · simp

theorem le_last (sound : r.Sound i chronicle) {entry last : Nat × Frame}
    (latest : (commandsOf r.fresh).getLast? = some last) (among : entry ∈ commandsOf r.fresh) :
    entry.1 ≤ last.1 := by
  obtain ⟨earlier, split⟩ := List.getLast?_eq_some_iff.mp latest
  have ordered : (commandsOf r.fresh).Pairwise (·.1 < ·.1) := sound.ordered.filter _
  rw [split] at ordered among
  rcases List.mem_append.mp among with before | same
  · exact ((List.pairwise_append.mp ordered).2.2 entry before last (.head _)).le
  · cases List.mem_singleton.mp same
    exact le_rfl

theorem step (sound : r.Sound i chronicle) (step : Step i chronicle.length xs r r') :
    r'.Sound i (chronicle ++ xs) := by
  have more : accepted i (chronicle ++ xs) = accepted i chronicle ++ accepted i xs :=
    List.filterMap_append
  cases step with
  | queued _ t data =>
    refine sound.pass rfl ?_ ?_ ?_
    · rw [more, sound.taken, List.append_assoc]
      simp [accepted, Occurrence.queued?, enqueue]
    · rintro (_ | k) t' inbound there <;> cases there
    · rintro (_ | k) t' frame there <;> cases there
  | @begin _ data rest t waits =>
    have number : (Interface.ackFrame (r.next BufferId.toDeviceAck) data).header.seq =
        r.next BufferId.toDeviceAck := rfl
    apply sound.take_sole number (.inl rfl)
    rw [more, sound.taken, waits, commandsOf_take]
    simp [accepted, Occurrence.queued?, Frame.isCommand, Interface.ackFrame]
  | once _ t data =>
    have number : (Interface.onceFrame (r.next BufferId.toDeviceNonAck) data).header.seq =
        r.next BufferId.toDeviceNonAck := rfl
    apply sound.take_sole number (.inr (.inl ⟨_, _, rfl⟩))
    rw [more, sound.taken, commandsOf_take]
    simp [accepted, Occurrence.queued?, Frame.isCommand, Interface.onceFrame]
  | @confirm _ inbound frame t t' kind answers number =>
    refine sound.take [⟨t, .arrived i inbound⟩] number
      (.inr (.inr ⟨kind, chronicle.length, t, inbound, rfl, ?_, answers⟩)) ?_ ?_ ?_
    · rw [List.getElem?_append_right (Nat.le_refl _), Nat.sub_self]
      rfl
    · rw [List.singleton_append, more, sound.taken, commandsOf_take]
      simp [accepted, Occurrence.queued?, Frame.isCommand, kind]
    · rintro (_ | k) t₂ inbound₂ there
      · cases there
        exact ⟨rfl, kind, answers⟩
      · cases there
    · rintro (_ | k) t₂ frame₂ there <;> cases there
  | @again _ first frame t latest =>
    have among := List.mem_of_getLast? latest
    obtain ⟨⟨t', there⟩, -⟩ := sound.offered first frame (List.mem_of_mem_filter among)
    obtain ⟨bound, -⟩ := List.getElem?_eq_some_iff.mp there
    refine sound.pass rfl ?_ ?_ ?_
    · rw [more, sound.taken]
      simp [accepted, Occurrence.queued?]
    · rintro (_ | k) t₂ inbound there <;> cases there
    · rintro (_ | k) t₂ frame₂ there
      · cases there
        exact .inl ⟨first, among, by omega, fun entry among' _ => sound.le_last latest among'⟩
      · cases there
  | @echo inbound frame _ t t' kind plain answers =>
    refine sound.pass rfl ?_ ?_ ?_
    · rw [more, sound.taken]
      simp [accepted, Occurrence.queued?]
    · rintro (_ | _ | k) t₂ inbound₂ there
      · cases there
        exact plain
      all_goals cases there
    · rintro (_ | _ | k) t₂ frame₂ there
      · cases there
      · cases there
        refine .inr ⟨kind, chronicle.length, t, inbound, rfl, ?_, answers⟩
        rw [List.getElem?_append_right (Nat.le_refl _), Nat.sub_self]
        rfl
      · cases there
  | @aside x _ ignores =>
    have unasked : x.what.queued? i = none := by
      cases what : x.what <;> simp_all [Ignores, Occurrence.queued?]
    refine sound.pass rfl ?_ ?_ ?_
    · rw [more, sound.taken]
      simp [accepted, unasked]
    · rintro (_ | k) t₂ inbound there
      · cases there
        exact ignores rfl
      · cases there
    · rintro (_ | k) t₂ frame₂ there
      · cases there
        exact absurd rfl ignores
      · cases there

theorem empty : ({} : Roll).Sound i [] where
  offered _ _ := nofun
  ordered := .nil
  numbers _ := rfl
  commands := List.prefix_rfl
  confirmed _ _ _ := nofun
  rest _ _ _ := nofun
  taken := rfl

end Sound

theorem Reads.sound (reads : Reads i chronicle r) : r.Sound i chronicle := by
  induction reads with
  | empty => exact .empty
  | entry _ step sound => exact sound.step step

end Roll

end DroneControl
