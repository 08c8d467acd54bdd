import DroneControl.Interface.Outbound
import Mathlib.Data.List.Chain

/-!
# The ledger of an interface

What an interface sends to be acknowledged falls into blocks, one for each command: the attempts at the
command, and what put an end to them.  A ledger is kept along the history of a world, one entry for each
occurrence that concerns the interface.  Whatever history reads as a ledger has the order that a receiver
may count on: commands in turn, few attempts at each and those well apart, none before the one ahead of
it was acknowledged, given up or refused.
-/

namespace DroneControl

/-! ## What concerns an interface -/

def Occurrence.queued? (i : InterfaceId) : Occurrence → Option Bytes
  | .queued i' data => if i' = i then some data else none
  | _ => none

/-- The commands that an interface has taken, in order. -/
def accepted (i : InterfaceId) (chronicle : List Happening) : List Bytes :=
  chronicle.filterMap (·.what.queued? i)

namespace Frame

def isCommand (f : Frame) : Bool :=
  f.header.kind = .dataWithAck && f.header.id = BufferId.toDeviceAck

def acks (f : Frame) (seq : UInt8) : Bool :=
  f.header.acknowledges BufferId.toDeviceAck && f.payload.head? = some seq

/-- Is itself acknowledged with a number that commands count with. -/
def drawsOnCommands (f : Frame) : Bool :=
  f.header.kind = .dataWithAck && BufferId.ackOf f.header.id = BufferId.toDeviceAck

end Frame

/-- An attempt to send a command: its place in the history, and its time. -/
structure Offer where
  place : Nat
  time : Nat
  deriving DecidableEq, Repr

def Occurrence.command? (i : InterfaceId) : Occurrence → Option Frame
  | .offered i' frame => if i' = i ∧ frame.isCommand then some frame else none
  | _ => none

def transmissions (i : InterfaceId) (chronicle : List Happening) : List (Offer × Frame) :=
  chronicle.zipIdx.filterMap fun (x, place) =>
    (x.what.command? i).map fun frame => (⟨place, x.time⟩, frame)

/-! ## Ledgers -/

/-- What put an end to the attempts, and its place in the history. -/
inductive Release where
  | acknowledged (place : Nat)
  | refused (place : Nat)
  deriving DecidableEq, Repr

def Release.place : Release → Nat
  | acknowledged place => place
  | refused place => place

/-- The attempts at one command. -/
structure Block where
  seq : UInt8
  data : Bytes
  first : Offer
  /-- The attempts after the first, the latest first. -/
  again : List Offer := []
  release : Option Release := none
  deriving DecidableEq, Repr

namespace Block

variable (b : Block)

def frame : Frame := Interface.ackFrame b.seq b.data

def latest : Offer := b.again.headD b.first

def offers : List Offer := b.first :: b.again.reverse

/-- The next command may be sent. -/
def Over (time : Nat) : Prop :=
  b.release.isSome ∨ b.again.length = maxRetries ∧ b.latest.time + retryDelay ≤ time

/-- The attempts at a command come to an end before the next one is sent. -/
def Precedes (b b' : Block) : Prop :=
  (∃ r, b.release = some r ∧ r.place < b'.first.place) ∨
    b.again.length = maxRetries ∧ b.latest.time + retryDelay ≤ b'.first.time

end Block

structure Ledger where
  waiting : List Bytes := []
  /-- The last number that was drawn. -/
  counter : UInt8 := 255
  /-- The latest first. -/
  blocks : List Block := []

namespace Ledger

variable (l : Ledger)

def begun : List (Nat × UInt8) := l.blocks.map fun b => (b.first.place, b.seq)

def enqueue (data : Bytes) : Ledger := { l with waiting := l.waiting ++ [data] }

def draw : Ledger := { l with counter := l.counter + 1 }

def begin (data : Bytes) (rest : List Bytes) (o : Offer) : Ledger where
  waiting := rest
  counter := l.counter + 1
  blocks := { seq := l.counter + 1, data, first := o } :: l.blocks

/-- The latest command is sent again. -/
def resend (o : Offer) : Ledger :=
  { l with blocks := l.blocks.modifyHead fun b => { b with again := o :: b.again } }

def conclude (r : Release) : Ledger :=
  { l with blocks := l.blocks.modifyHead fun b => { b with release := some r } }

/-- The occurrence is no entry. -/
def Ignores (i : InterfaceId) : Occurrence → Prop
  | .queued i' _ => i' ≠ i
  | .offered i' frame => i' ≠ i ∨ ¬frame.isCommand
  | .arrived i' frame => i' ≠ i ∨ ¬frame.drawsOnCommands ∧
      ∀ b ∈ l.blocks.head?, b.release = none → ¬frame.acks b.seq
  | _ => True

/-- An entry is made for what happens at a place of the history. -/
inductive Step (i : InterfaceId) (place : Nat) : Happening → Ledger → Ledger → Prop where
  | queued (l : Ledger) (t : Nat) (data : Bytes) :
      Step i place ⟨t, .queued i data⟩ l (l.enqueue data)
  | begin {l : Ledger} {t : Nat} {data : Bytes} {rest : List Bytes}
      (waits : l.waiting = data :: rest) (free : ∀ b ∈ l.blocks.head?, b.Over t) :
      Step i place ⟨t, .offered i (Interface.ackFrame (l.counter + 1) data)⟩ l
        (l.begin data rest ⟨place, t⟩)
  | again {l : Ledger} {t : Nat} {b : Block} (latest : l.blocks.head? = some b)
      (held : b.release = none) (more : b.again.length < maxRetries)
      (late : b.latest.time + retryDelay ≤ t) :
      Step i place ⟨t, .offered i b.frame⟩ l
        (l.resend ⟨place, t⟩)
  | acknowledged {l : Ledger} {t : Nat} {b : Block} {frame : Frame}
      (latest : l.blocks.head? = some b) (held : b.release = none) (acks : frame.acks b.seq) :
      Step i place ⟨t, .arrived i frame⟩ l
        (l.conclude (.acknowledged place))
  | drawn (l : Ledger) (t : Nat) {frame : Frame} (draws : frame.drawsOnCommands) :
      Step i place ⟨t, .arrived i frame⟩ l l.draw
  | refused {l : Ledger} {t q : Nat} {b : Block} (latest : l.blocks.head? = some b)
      (held : b.release = none) (first : (q, b.seq) ∈ l.begun) :
      Step i place ⟨t, .refused i q⟩ l (l.conclude (.refused place))
  | aside {l : Ledger} {x : Happening} (ignores : l.Ignores i x.what) : Step i place x l l

/-- A history reads as a ledger. -/
inductive Reads (i : InterfaceId) : List Happening → Ledger → Prop where
  | empty : Reads i [] {}
  | entry {past : List Happening} {x : Happening} {l l' : Ledger} (reads : Reads i past l)
      (step : Step i past.length x l l') : Reads i (past ++ [x]) l'

variable {l l' : Ledger} {i : InterfaceId} {chronicle : List Happening} {x : Happening}

/-! ## First attempts -/

@[simp] theorem begun_begin (data : Bytes) (rest : List Bytes) (o : Offer) :
    (l.begin data rest o).begun = (o.place, l.counter + 1) :: l.begun := rfl

theorem blocks_resend {b : Block} {earlier : List Block} (blocks : l.blocks = b :: earlier)
    (o : Offer) : (l.resend o).blocks = { b with again := o :: b.again } :: earlier := by
  simp [Ledger.resend, blocks]

theorem blocks_conclude {b : Block} {earlier : List Block} (blocks : l.blocks = b :: earlier)
    (r : Release) : (l.conclude r).blocks = { b with release := some r } :: earlier := by
  simp [conclude, blocks]

@[simp] theorem begun_resend (o : Offer) : (l.resend o).begun = l.begun := by
  cases blocks : l.blocks <;> simp [Ledger.begun, Ledger.resend, blocks]

@[simp] theorem begun_conclude (r : Release) : (l.conclude r).begun = l.begun := by
  cases blocks : l.blocks <;> simp [Ledger.begun, conclude, blocks]

theorem Step.begun {place : Nat} (step : Step i place x l l') : l.begun <:+ l'.begun := by
  cases step with
  | begin => exact List.suffix_cons _ _
  | again => simp
  | acknowledged => simp
  | refused => simp
  | _ => exact List.suffix_refl _

end Ledger

/-! ## What was sent, and what is waiting -/

theorem accepted_append (i : InterfaceId) (chronicle : List Happening) (x : Happening) :
    accepted i (chronicle ++ [x]) = accepted i chronicle ++ (x.what.queued? i).toList := by
  cases queued : x.what.queued? i <;> simp [accepted, queued]

theorem transmissions_append (i : InterfaceId) (chronicle : List Happening) (x : Happening) :
    transmissions i (chronicle ++ [x]) = transmissions i chronicle ++
      ((x.what.command? i).map fun frame => (⟨chronicle.length, x.time⟩, frame)).toList := by
  cases command : x.what.command? i <;> simp [transmissions, List.zipIdx_append, command]

def Block.sent (b : Block) : List (Offer × Frame) := b.offers.map (·, b.frame)

namespace Ledger

variable {l l' : Ledger} {i : InterfaceId} {chronicle : List Happening} {x : Happening}

@[simp] theorem command?_ackFrame (i : InterfaceId) (seq : UInt8) (data : Bytes) :
    Occurrence.command? i (.offered i (Interface.ackFrame seq data)) =
      some (Interface.ackFrame seq data) := by
  rw [Occurrence.command?, if_pos ⟨rfl, rfl⟩]

theorem Ignores.queued? {o : Occurrence} (ignores : l.Ignores i o) : o.queued? i = none := by
  cases o <;> simp_all [Ignores, Occurrence.queued?]

theorem Ignores.command? {o : Occurrence} (ignores : l.Ignores i o) : o.command? i = none := by
  cases o with
  | offered i' frame =>
      refine if_neg ?_
      rintro ⟨same, command⟩
      exact ignores.elim (· same) (· command)
  | _ => rfl

theorem sent_conclude (r : Release) :
    (l.conclude r).blocks.reverse.flatMap Block.sent = l.blocks.reverse.flatMap Block.sent := by
  cases blocks : l.blocks with
  | nil => simp [conclude, blocks]
  | cons b earlier => simp [blocks_conclude blocks, Block.sent, Block.offers, Block.frame]

theorem Step.sent (step : Step i chronicle.length x l l')
    (sent : transmissions i chronicle = l.blocks.reverse.flatMap Block.sent) :
    transmissions i (chronicle ++ [x]) = l'.blocks.reverse.flatMap Block.sent := by
  rw [transmissions_append, sent]
  cases step with
  | begin => simp [Ledger.begin, Block.sent, Block.offers, Block.frame]
  | again latest =>
      obtain ⟨earlier, blocks⟩ := List.head?_eq_some_iff.mp latest
      simp [blocks_resend blocks, blocks, Block.sent, Block.offers, Block.frame]
  | acknowledged => simp [sent_conclude, Occurrence.command?]
  | refused => simp [sent_conclude, Occurrence.command?]
  | queued => simp [enqueue, Occurrence.command?]
  | drawn => simp [draw, Occurrence.command?]
  | aside ignores => simp [ignores.command?]

theorem Step.taken (step : Step i chronicle.length x l l')
    (taken : accepted i chronicle = l.blocks.reverse.map (·.data) ++ l.waiting) :
    accepted i (chronicle ++ [x]) = l'.blocks.reverse.map (·.data) ++ l'.waiting := by
  rw [accepted_append, taken]
  cases step with
  | queued => simp [enqueue, Occurrence.queued?]
  | begin waits => simp [Ledger.begin, waits, Occurrence.queued?]
  | again latest =>
      obtain ⟨earlier, blocks⟩ := List.head?_eq_some_iff.mp latest
      simp [Ledger.resend, blocks, Occurrence.queued?]
  | acknowledged latest =>
      obtain ⟨earlier, blocks⟩ := List.head?_eq_some_iff.mp latest
      simp [conclude, blocks, Occurrence.queued?]
  | refused latest =>
      obtain ⟨earlier, blocks⟩ := List.head?_eq_some_iff.mp latest
      simp [conclude, blocks, Occurrence.queued?]
  | drawn => simp [draw, Occurrence.queued?]
  | aside ignores => simp [ignores.queued?]

end Ledger

/-! ## What the history has to show for a block -/

/-- The attempts are few and well apart, and whatever put an end to them happened. -/
structure Block.Witnessed (i : InterfaceId) (chronicle : List Happening)
    (begun : List (Nat × UInt8)) (b : Block) : Prop where
  ordered : b.first.place ≤ b.latest.place
  past : b.latest.place < chronicle.length
  few : b.again.length ≤ maxRetries
  spaced : (b.again ++ [b.first]).IsChain fun o o' => o'.time + retryDelay ≤ o.time
  acknowledged : ∀ p, b.release = some (.acknowledged p) → b.latest.place < p ∧
    ∃ t frame, chronicle[p]? = some ⟨t, .arrived i frame⟩ ∧ frame.acks b.seq
  refused : ∀ p, b.release = some (.refused p) → b.latest.place < p ∧
    ∃ t q, chronicle[p]? = some ⟨t, .refused i q⟩ ∧ q ≤ b.first.place ∧ (q, b.seq) ∈ begun

/-- From a place on, the peer sends nothing that draws on the numbers of the commands. -/
def Undrawn (i : InterfaceId) (chronicle : List Happening) (start stop : Nat) : Prop :=
  ∀ p t frame, start < p → p < stop → chronicle[p]? = some ⟨t, .arrived i frame⟩ →
    ¬frame.drawsOnCommands

/-- One block comes after another, with the next number unless the peer draws on the numbers. -/
structure Block.Follows (i : InterfaceId) (chronicle : List Happening) (b' b : Block) : Prop where
  begun : b'.first.place < chronicle.length
  released : b.Precedes b'
  counted : Undrawn i chronicle b.first.place b'.first.place → b'.seq = b.seq + 1

section

variable {i : InterfaceId} {chronicle : List Happening} {begun begun' : List (Nat × UInt8)}
  {b b' : Block} {start stop : Nat}

theorem getElem?_append_singleton {p : Nat} {y : Happening} (x : Happening)
    (there : chronicle[p]? = some y) : (chronicle ++ [x])[p]? = some y := by
  obtain ⟨bound, -⟩ := List.getElem?_eq_some_iff.mp there
  rw [List.getElem?_append_left bound, there]

theorem Undrawn.of_append {x : Happening} (undrawn : Undrawn i (chronicle ++ [x]) start stop) :
    Undrawn i chronicle start stop :=
  fun p t frame after before there =>
    undrawn p t frame after before (getElem?_append_singleton x there)

namespace Block

theorem latest_eq_of_head? {o : Offer} (head : o ∈ (b.again ++ [b.first]).head?) : b.latest = o := by
  unfold latest
  cases again : b.again with
  | nil => simpa [again] using head
  | cons => simpa [again] using head

theorem Witnessed.later (witnessed : b.Witnessed i chronicle begun) (x : Happening)
    (grows : begun <:+ begun') : b.Witnessed i (chronicle ++ [x]) begun' where
  ordered := witnessed.ordered
  past := by
    have := witnessed.past
    simp only [List.length_append]
    omega
  few := witnessed.few
  spaced := witnessed.spaced
  acknowledged p released := by
    obtain ⟨after, t, frame, there, acks⟩ := witnessed.acknowledged p released
    exact ⟨after, t, frame, getElem?_append_singleton x there, acks⟩
  refused p released := by
    obtain ⟨after, t, q, there, early, first⟩ := witnessed.refused p released
    exact ⟨after, t, q, getElem?_append_singleton x there, early, grows.subset first⟩

theorem Witnessed.release_lt (witnessed : b.Witnessed i chronicle begun) {r : Release}
    (released : b.release = some r) : r.place < chronicle.length := by
  cases r with
  | acknowledged p =>
      obtain ⟨-, t, frame, there, -⟩ := witnessed.acknowledged p released
      exact (List.getElem?_eq_some_iff.mp there).1
  | refused p =>
      obtain ⟨-, t, q, there, -⟩ := witnessed.refused p released
      exact (List.getElem?_eq_some_iff.mp there).1

theorem Follows.later (follows : b'.Follows i chronicle b) (x : Happening) :
    b'.Follows i (chronicle ++ [x]) b where
  begun := by
    have := follows.begun
    simp only [List.length_append]
    omega
  released := follows.released
  counted undrawn := follows.counted undrawn.of_append

end Block

end

namespace Ledger

variable {l l' : Ledger} {i : InterfaceId} {chronicle : List Happening} {x : Happening}

/-- The ledger is what the history has to show. -/
structure Sound (i : InterfaceId) (chronicle : List Happening) (l : Ledger) : Prop where
  sent : transmissions i chronicle = l.blocks.reverse.flatMap Block.sent
  taken : accepted i chronicle = l.blocks.reverse.map (·.data) ++ l.waiting
  witnessed : ∀ b ∈ l.blocks, b.Witnessed i chronicle l.begun
  follows : l.blocks.IsChain (Block.Follows i chronicle)
  latest : ∀ b ∈ l.blocks.head?, ∀ y ∈ l.begun, y.1 ≤ b.first.place
  counter : ∀ b ∈ l.blocks.head?, Undrawn i chronicle b.first.place chronicle.length →
    l.counter = b.seq

theorem sound_empty (i : InterfaceId) : ({} : Ledger).Sound i [] where
  sent := rfl
  taken := rfl
  witnessed := nofun
  follows := .nil
  latest := nofun
  counter := nofun

theorem Sound.counter_eq (sound : l.Sound i chronicle) {b : Block}
    (latest : b ∈ l.blocks.head?)
    (undrawn : Undrawn i (chronicle ++ [x]) b.first.place (chronicle ++ [x]).length) :
    l.counter = b.seq := by
  refine sound.counter b latest fun p t frame after before => ?_
  refine undrawn.of_append p t frame after ?_
  simp only [List.length_append]
  omega

theorem Step.sound_of_amended (step : Step i chronicle.length x l l') (sound : l.Sound i chronicle)
    {b b' : Block} {earlier : List Block} (blocks : l.blocks = b :: earlier)
    (blocks' : l'.blocks = b' :: earlier) (first : b'.first = b.first) (seq : b'.seq = b.seq)
    (counter : l'.counter = l.counter)
    (witnessed : b'.Witnessed i (chronicle ++ [x]) l.begun) : l'.Sound i (chronicle ++ [x]) := by
  have begun : l'.begun = l.begun := by simp [Ledger.begun, blocks, blocks', first, seq]
  have head : b ∈ l.blocks.head? := by rw [blocks]; rfl
  refine ⟨step.sent sound.sent, step.taken sound.taken, ?_, ?_, ?_, ?_⟩
  · rw [blocks', begun]
    intro b'' among
    rcases List.mem_cons.mp among with rfl | among
    · exact witnessed
    · refine (sound.witnessed b'' ?_).later x (List.suffix_refl _)
      rw [blocks]
      exact List.mem_cons_of_mem b among
  · have follows := sound.follows
    rw [blocks, List.isChain_cons] at follows
    rw [blocks', List.isChain_cons]
    refine ⟨fun b'' next => ?_, follows.2.imp fun _ _ follows => follows.later x⟩
    obtain ⟨begun, released, counted⟩ := (follows.1 b'' next).later x
    exact ⟨first ▸ begun, by simpa [Block.Precedes, first] using released,
      fun undrawn => seq.trans (counted (first ▸ undrawn))⟩
  · rw [blocks', begun]
    rintro _ ⟨⟩ y among
    rw [first]
    exact sound.latest b head y among
  · rw [blocks', counter]
    rintro _ ⟨⟩ undrawn
    rw [seq]
    rw [first] at undrawn
    exact sound.counter_eq head undrawn

theorem Step.sound_of_same (step : Step i chronicle.length x l l') (sound : l.Sound i chronicle)
    (same : l'.blocks = l.blocks)
    (counter : ∀ b ∈ l.blocks.head?,
      Undrawn i (chronicle ++ [x]) b.first.place (chronicle ++ [x]).length →
        l'.counter = b.seq) : l'.Sound i (chronicle ++ [x]) := by
  have begun : l'.begun = l.begun := by rw [Ledger.begun, same, Ledger.begun]
  refine ⟨step.sent sound.sent, step.taken sound.taken, ?_, ?_, ?_, ?_⟩
  · rw [same, begun]
    exact fun b among => (sound.witnessed b among).later x (List.suffix_refl _)
  · rw [same]
    exact sound.follows.imp fun _ _ follows => follows.later x
  · rw [same, begun]
    exact sound.latest
  · rw [same]
    exact counter

theorem Step.sound (step : Step i chronicle.length x l l') (sound : l.Sound i chronicle) :
    l'.Sound i (chronicle ++ [x]) := by
  -- The latest block changes, or a new one follows it; what came before has its evidence already.
  have keep := step
  cases step with
  | queued => exact keep.sound_of_same sound rfl fun b latest => sound.counter_eq latest
  | aside => exact keep.sound_of_same sound rfl fun b latest => sound.counter_eq latest
  | @drawn _ t frame draws =>
      refine keep.sound_of_same sound rfl fun b latest undrawn => ?_
      have := sound.witnessed b (List.mem_of_mem_head? latest)
      have early := this.ordered.trans_lt this.past
      exact absurd draws (undrawn _ _ _ early (by simp) List.getElem?_concat_length)
  | @again _ t b latest held more late =>
      obtain ⟨earlier, blocks⟩ := List.head?_eq_some_iff.mp latest
      have witnessed := sound.witnessed b (List.mem_of_mem_head? latest)
      refine keep.sound_of_amended sound blocks (blocks_resend blocks _) rfl rfl rfl ?_
      refine ⟨witnessed.ordered.trans witnessed.past.le, by simp [Block.latest], more, ?_, ?_, ?_⟩
      · refine List.isChain_cons.mpr ⟨fun o previous => ?_, witnessed.spaced⟩
        rwa [← Block.latest_eq_of_head? previous]
      · rw [held]
        nofun
      · rw [held]
        nofun
  | @acknowledged _ t b frame latest held acks =>
      obtain ⟨earlier, blocks⟩ := List.head?_eq_some_iff.mp latest
      have witnessed := (sound.witnessed b (List.mem_of_mem_head? latest)).later
        ⟨t, .arrived i frame⟩ (List.suffix_refl _)
      refine keep.sound_of_amended sound blocks (blocks_conclude blocks _) rfl rfl rfl ?_
      refine { witnessed with acknowledged := ?_, refused := nofun }
      rintro _ ⟨⟩
      exact ⟨(sound.witnessed b (List.mem_of_mem_head? latest)).past, t, frame,
        List.getElem?_concat_length, acks⟩
  | @refused _ t q b latest held first =>
      obtain ⟨earlier, blocks⟩ := List.head?_eq_some_iff.mp latest
      have witnessed := (sound.witnessed b (List.mem_of_mem_head? latest)).later
        ⟨t, .refused i q⟩ (List.suffix_refl _)
      refine keep.sound_of_amended sound blocks (blocks_conclude blocks _) rfl rfl rfl ?_
      refine { witnessed with acknowledged := nofun, refused := ?_ }
      rintro _ ⟨⟩
      exact ⟨(sound.witnessed b (List.mem_of_mem_head? latest)).past, t, q,
        List.getElem?_concat_length, sound.latest b latest _ first, first⟩
  | @begin _ t data rest waits free =>
      refine ⟨keep.sent sound.sent, keep.taken sound.taken, ?_, ?_, ?_, ?_⟩
      · intro b among
        rcases List.mem_cons.mp among with rfl | among
        · exact ⟨le_rfl, by simp [Block.latest], Nat.zero_le _, .singleton _, nofun, nofun⟩
        · exact (sound.witnessed b among).later _ keep.begun
      · refine List.isChain_cons.mpr ⟨fun b previous => ?_,
          sound.follows.imp fun _ _ follows => follows.later _⟩
        have witnessed := sound.witnessed b (List.mem_of_mem_head? previous)
        refine ⟨by simp, ?_, fun undrawn => ?_⟩
        · rcases free b previous with released | expired
          · obtain ⟨r, released⟩ := Option.isSome_iff_exists.mp released
            exact .inl ⟨r, released, witnessed.release_lt released⟩
          · exact .inr expired
        · exact congrArg (· + 1) (sound.counter b previous undrawn.of_append)
      · rintro _ ⟨⟩ y among
        rcases List.mem_cons.mp among with rfl | among
        · exact le_rfl
        · obtain ⟨b, member, rfl⟩ := List.mem_map.mp among
          have witnessed := sound.witnessed b member
          exact (witnessed.ordered.trans_lt witnessed.past).le
      · rintro _ ⟨⟩ -
        rfl

theorem Reads.sound (reads : Reads i chronicle l) : l.Sound i chronicle := by
  induction reads with
  | empty => exact sound_empty i
  | entry _ step ih => exact step.sound ih

theorem Reads.append_aside (reads : Reads i chronicle l) {more : List Happening}
    (aside : ∀ y ∈ more, l.Ignores i y.what) : Reads i (chronicle ++ more) l := by
  induction more using List.reverseRecOn with
  | nil => simpa using reads
  | append_singleton more y ih =>
      rw [← List.append_assoc]
      exact .entry (ih fun y among => aside y (by simp [among])) (.aside (aside y (by simp)))

end Ledger

/-! ## Blocks -/

/-- The blocks in which an interface has sent its commands, and what the history has to show for them. -/
structure InBlocks (i : InterfaceId) (chronicle : List Happening) (blocks : List Block) : Prop where
  sent : transmissions i chronicle = blocks.flatMap Block.sent
  inTurn : blocks.map (·.data) <+: accepted i chronicle
  few : ∀ b ∈ blocks, b.offers.length ≤ maxRetries + 1
  spaced : ∀ b ∈ blocks, b.offers.IsChain fun o o' => o.time + retryDelay ≤ o'.time
  /-- No command is sent before the one ahead of it is done with. -/
  handedOver : blocks.IsChain Block.Precedes
  acknowledged : ∀ b ∈ blocks, ∀ p, b.release = some (.acknowledged p) → b.latest.place < p ∧
    ∃ t frame, chronicle[p]? = some ⟨t, .arrived i frame⟩ ∧ frame.acks b.seq
  /-- The transport refused the first attempt of this block, or of one before it with its number. -/
  refused : ∀ b ∈ blocks, ∀ p, b.release = some (.refused p) → b.latest.place < p ∧
    ∃ b' ∈ blocks, b'.seq = b.seq ∧ b'.first.place ≤ b.first.place ∧
      ∃ t, chronicle[p]? = some ⟨t, .refused i b'.first.place⟩
  numbered : blocks.IsChain fun b b' =>
    Undrawn i chronicle b.first.place b'.first.place → b'.seq = b.seq + 1

theorem Ledger.Sound.inBlocks {i : InterfaceId} {chronicle : List Happening} {l : Ledger}
    (sound : l.Sound i chronicle) : InBlocks i chronicle l.blocks.reverse where
  sent := sound.sent
  inTurn := ⟨l.waiting, sound.taken.symm⟩
  few b among := by
    have := (sound.witnessed b (List.mem_reverse.mp among)).few
    simpa [Block.offers] using this
  spaced b among := by
    have spaced := (sound.witnessed b (List.mem_reverse.mp among)).spaced
    rw [← List.isChain_reverse] at spaced
    simpa [Block.offers] using spaced
  handedOver := List.isChain_reverse.mpr (sound.follows.imp fun _ _ follows => follows.released)
  acknowledged b among := (sound.witnessed b (List.mem_reverse.mp among)).acknowledged
  refused b among p released := by
    obtain ⟨after, t, q, there, early, first⟩ :=
      (sound.witnessed b (List.mem_reverse.mp among)).refused p released
    obtain ⟨b', member, same⟩ := List.mem_map.mp first
    obtain ⟨rfl, seq⟩ := Prod.mk.inj same
    exact ⟨after, b', List.mem_reverse.mpr member, seq, early, t, there⟩
  numbered := List.isChain_reverse.mpr (sound.follows.imp fun _ _ follows => follows.counted)

end DroneControl
