import Mathlib.Data.Option.Basic
import Mathlib.Order.Nat
import DroneControl.Interface.Basic

/-!
# The exchange of numbered commands

One command at a time is on its way from a sender to a receiver, and is repeated until the sender hears
an acknowledgement or gives up.  Both wires keep the order but may lose and repeat what they carry.  Here
every command is known by its number among all that the sender ever launched, while the two ends see only
the last eight bits of it: the receiver drops what looks like the command before it, and the sender takes
any acknowledgement that looks like the one it waits for.  What looks alike is the same as long as the
sender has not given up 255 commands in a row.
-/

namespace DroneControl

structure Exchange where
  launched : Nat
  /-- The command launched last is neither acknowledged nor given up. -/
  waiting : Bool
  there : List Nat
  back : List Nat
  last : Option Nat
  heard : List Nat
  released : List Nat

namespace Exchange

/-- Two numbers that cannot be told apart on a wire. -/
def Alike (m n : Nat) : Prop := m % 256 = n % 256

instance (m n : Nat) : Decidable (Alike m n) := inferInstanceAs (Decidable (_ = _))

theorem eq_or_far_of_alike {m n : Nat} (alike : Alike m n) (le : m ≤ n) :
    m = n ∨ m + 256 ≤ n := by
  unfold Alike at alike
  omega

/-! ## Wires -/

section Wires

variable {α : Type}

def pass (wire : List α) (a : α) (taken : Bool) : List α := if taken then wire ++ [a] else wire

/-- A wire on which something was lost or repeated. -/
inductive Worn : List α → List α → Prop
  | lost (before : List α) (a : α) (after : List α) : Worn (before ++ a :: after) (before ++ after)
  | repeated (before : List α) (a : α) (after : List α) :
      Worn (before ++ a :: after) (before ++ a :: a :: after)

theorem mem_pass {wire : List α} {a b : α} {taken : Bool} (mem : b ∈ pass wire a taken) :
    b ∈ wire ∨ b = a := by
  cases taken <;> simp_all [pass]

theorem map_pass {β : Type} (f : α → β) (wire : List α) (a : α) (taken : Bool) :
    (pass wire a taken).map f = pass (wire.map f) (f a) taken := by
  cases taken <;> simp [pass]

theorem pass_sorted {wire : List Nat} {n : Nat} (sorted : wire.Pairwise (· ≤ ·))
    (le : ∀ k ∈ wire, k ≤ n) (taken : Bool) : (pass wire n taken).Pairwise (· ≤ ·) := by
  cases taken
  · exact sorted
  · simp only [pass, if_true, List.pairwise_append, List.pairwise_singleton, List.mem_singleton,
      forall_eq]
    exact ⟨sorted, trivial, le⟩

theorem Worn.mem {wire wire' : List α} (worn : Worn wire wire') :
    ∀ {a : α}, a ∈ wire' → a ∈ wire := by
  intro a mem
  cases worn with
  | lost before x after =>
      rcases List.mem_append.mp mem with before | after
      · exact List.mem_append_left _ before
      · exact List.mem_append_right _ (.tail _ after)
  | repeated before x after => simpa using mem

theorem Worn.map {β : Type} (f : α → β) {wire wire' : List α} (worn : Worn wire wire') :
    Worn (wire.map f) (wire'.map f) := by
  cases worn
  · simpa using Worn.lost _ _ _
  · simpa using Worn.repeated _ _ _

theorem Worn.sorted {wire wire' : List Nat} (worn : Worn wire wire')
    (sorted : wire.Pairwise (· ≤ ·)) : wire'.Pairwise (· ≤ ·) := by
  cases worn with
  | lost before a after =>
      exact sorted.sublist (List.Sublist.append_left (List.sublist_cons_self a after) before)
  | repeated before a after =>
      simp only [List.pairwise_append, List.pairwise_cons, List.mem_cons] at sorted ⊢
      obtain ⟨before, ⟨after, rest⟩, across⟩ := sorted
      exact ⟨before, ⟨by simp_all, after, rest⟩, by simp_all⟩

end Wires

/-! ## What can happen -/

variable (s : Exchange)

def settled : Nat := if s.waiting then s.launched - 1 else s.launched

/-- Of any 255 commands in a row that are settled, one was acknowledged. -/
def Unbroken : Prop :=
  ∀ start, start + 255 ≤ s.settled → ∃ n ∈ s.released, start ≤ n ∧ n < start + 255

def launch (taken : Bool) : Exchange :=
  { s with
    launched := s.launched + 1
    waiting := taken
    there := pass s.there s.launched taken }

def resend (taken : Bool) : Exchange := { s with there := pass s.there (s.launched - 1) taken }

def giveUp : Exchange := { s with waiting := false }

def receive (n : Nat) (rest : List Nat) (taken : Bool) : Exchange :=
  { s with
    there := rest
    back := pass s.back n taken
    last := some n
    heard := if s.last.any fun m => Alike m n then s.heard else s.heard ++ [n] }

def acknowledge (n : Nat) (rest : List Nat) : Exchange :=
  if s.waiting ∧ Alike n (s.launched - 1) then
    { s with back := rest, waiting := false, released := s.released ++ [s.launched - 1] }
  else { s with back := rest }

/-! ## What is always true -/

/-- Numbers go over both wires in order, behind what was launched. -/
structure Sound : Prop where
  waiting : s.waiting → 0 < s.launched
  there_sorted : s.there.Pairwise (· ≤ ·)
  there_lt : ∀ n ∈ s.there, n < s.launched
  last_le : ∀ m ∈ s.last, ∀ n ∈ s.there, m ≤ n
  last_lt : ∀ m ∈ s.last, m < s.launched
  heard_sorted : s.heard.Pairwise (· < ·)
  heard_le : ∀ n ∈ s.heard, ∃ m ∈ s.last, n ≤ m
  back_sorted : s.back.Pairwise (· ≤ ·)
  back_le : ∀ n ∈ s.back, ∃ m ∈ s.last, n ≤ m
  released_lt : ∀ n ∈ s.released, n < s.settled

/-- Nothing was taken for what it only looks like. -/
structure Faithful : Prop where
  released_heard : ∀ n ∈ s.released, n ∈ s.heard
  last_heard : ∀ m ∈ s.last, m ∈ s.heard
  released_le : ∀ n ∈ s.released, ∀ k ∈ s.back, n ≤ k

structure Orderly : Prop where
  sound : s.Sound
  faithful : s.Unbroken → s.Faithful

variable {s} {s' : Exchange}

theorem Unbroken.of_later (unbroken : s'.Unbroken) (settled : s.settled ≤ s'.settled)
    (released : ∀ n ∈ s'.released, n < s.settled → n ∈ s.released) : s.Unbroken := by
  intro start le
  obtain ⟨n, mem, ge, lt⟩ := unbroken start (by omega)
  exact ⟨n, released n mem (by omega), ge, lt⟩

theorem settled_le (s : Exchange) : s.settled ≤ s.launched := by
  unfold settled
  split <;> omega

theorem le_settled (s : Exchange) : s.launched - 1 ≤ s.settled := by
  unfold settled
  split <;> omega

theorem settled_of_waiting (waiting : s.waiting) : s.settled = s.launched - 1 := by
  simp [settled, waiting]

theorem settled_le_launch (idle : s.waiting = false) (taken : Bool) :
    s.settled ≤ (s.launch taken).settled := by
  cases taken <;> simp [settled, launch, idle]

theorem Orderly.eq_last {m n : Nat} (orderly : s.Orderly) (unbroken : s.Unbroken)
    (last : m ∈ s.last) (le : m ≤ n) (lt : n < s.launched) (alike : Alike m n) : m = n := by
  obtain ⟨sound, faithful⟩ := orderly
  rcases eq_or_far_of_alike alike le with eq | far
  · exact eq
  · have := s.le_settled
    obtain ⟨j, released, ge, -⟩ := unbroken (m + 1) (by omega)
    obtain ⟨m', last', le⟩ := sound.heard_le j ((faithful unbroken).released_heard j released)
    obtain rfl : m = m' := Option.mem_unique last last'
    omega

theorem Orderly.eq_waiting {n : Nat} (orderly : s.Orderly) (unbroken : s.Unbroken)
    (waiting : s.waiting) (back : n ∈ s.back) (alike : Alike n (s.launched - 1)) :
    n = s.launched - 1 := by
  obtain ⟨sound, faithful⟩ := orderly
  obtain ⟨m, last, le⟩ := sound.back_le n back
  have := sound.last_lt m last
  rcases eq_or_far_of_alike alike (by omega) with eq | far
  · exact eq
  · have := settled_of_waiting waiting
    obtain ⟨j, released, ge, -⟩ := unbroken (n + 1) (by omega)
    have := (faithful unbroken).released_le j released n back
    omega

/-! ## Steps -/

theorem Sound.launch (sound : s.Sound) (idle : s.waiting = false) (taken : Bool) :
    (s.launch taken).Sound where
  waiting _ := Nat.succ_pos _
  there_sorted := pass_sorted sound.there_sorted (fun n there => (sound.there_lt n there).le) _
  there_lt n there := by
    rcases mem_pass there with before | rfl
    · exact Nat.lt_succ_of_lt (sound.there_lt n before)
    · exact Nat.lt_succ_self _
  last_le m last n there := by
    rcases mem_pass there with before | rfl
    · exact sound.last_le m last n before
    · exact (sound.last_lt m last).le
  last_lt m last := Nat.lt_succ_of_lt (sound.last_lt m last)
  heard_sorted := sound.heard_sorted
  heard_le := sound.heard_le
  back_sorted := sound.back_sorted
  back_le := sound.back_le
  released_lt n released := (sound.released_lt n released).trans_le (settled_le_launch idle taken)

theorem Sound.resend (sound : s.Sound) (waiting : s.waiting) (taken : Bool) :
    (s.resend taken).Sound where
  waiting := sound.waiting
  there_sorted :=
    pass_sorted sound.there_sorted (fun n there => Nat.le_pred_of_lt (sound.there_lt n there)) _
  there_lt n there := by
    rcases mem_pass there with before | rfl
    · exact sound.there_lt n before
    · exact Nat.sub_one_lt_of_lt (sound.waiting waiting)
  last_le m last n there := by
    rcases mem_pass there with before | rfl
    · exact sound.last_le m last n before
    · exact Nat.le_pred_of_lt (sound.last_lt m last)
  last_lt := sound.last_lt
  heard_sorted := sound.heard_sorted
  heard_le := sound.heard_le
  back_sorted := sound.back_sorted
  back_le := sound.back_le
  released_lt := sound.released_lt

theorem Sound.giveUp (sound : s.Sound) : s.giveUp.Sound :=
  { sound with
    waiting := nofun
    released_lt := fun n released => (sound.released_lt n released).trans_le s.settled_le }

theorem Sound.receive {n : Nat} {rest : List Nat} (sound : s.Sound) (next : s.there = n :: rest)
    (taken : Bool) : (s.receive n rest taken).Sound := by
  have sorted : (n :: rest).Pairwise (· ≤ ·) := next ▸ sound.there_sorted
  have ahead : ∀ m ∈ s.last, m ≤ n := fun m last => sound.last_le m last n (by simp [next])
  have behind : ∀ k ∈ s.back, k ≤ n := by
    intro k back
    obtain ⟨m, last, le⟩ := sound.back_le k back
    exact le.trans (ahead m last)
  have caught : ∀ k ∈ s.heard, k ≤ n := by
    intro k heard
    obtain ⟨m, last, le⟩ := sound.heard_le k heard
    exact le.trans (ahead m last)
  refine {
    waiting := sound.waiting
    there_sorted := (List.pairwise_cons.mp sorted).2
    there_lt := fun k there => sound.there_lt k (by rw [next]; exact .tail _ there)
    last_le := ?_
    last_lt := ?_
    heard_sorted := ?_
    heard_le := fun k heard => ⟨n, rfl, ?_⟩
    back_sorted := pass_sorted sound.back_sorted behind _
    back_le := fun k back => ⟨n, rfl, ?_⟩
    released_lt := sound.released_lt }
  · rintro m ⟨⟩ k there
    exact (List.pairwise_cons.mp sorted).1 k there
  · rintro m ⟨⟩
    exact sound.there_lt n (by simp [next])
  · unfold Exchange.receive
    dsimp only
    split
    · exact sound.heard_sorted
    · next unlike =>
        simp only [List.pairwise_append, List.pairwise_singleton, List.mem_singleton, forall_eq]
        refine ⟨sound.heard_sorted, trivial, fun k heard => ?_⟩
        obtain ⟨m, last, le⟩ := sound.heard_le k heard
        -- What looks different from the last number is not that number.
        have ne : m ≠ n := by
          rintro rfl
          rw [Option.mem_def] at last
          simp [last, Alike] at unlike
        have := ahead m last
        omega
  · unfold Exchange.receive at heard
    dsimp only at heard
    split at heard
    · exact caught k heard
    · rcases List.mem_append.mp heard with before | here
      · exact caught k before
      · exact (List.mem_singleton.mp here).le
  · rcases mem_pass back with before | rfl
    · exact behind k before
    · exact le_rfl

theorem Sound.acknowledge {n : Nat} {rest : List Nat} (sound : s.Sound)
    (next : s.back = n :: rest) : (s.acknowledge n rest).Sound := by
  have sorted : (n :: rest).Pairwise (· ≤ ·) := next ▸ sound.back_sorted
  have back_le : ∀ k ∈ rest, ∃ m ∈ s.last, k ≤ m :=
    fun k mem => sound.back_le k (by rw [next]; exact .tail _ mem)
  unfold Exchange.acknowledge
  split
  · next released =>
      have settled := settled_of_waiting released.1
      have := sound.waiting released.1
      refine { sound with
        waiting := nofun
        back_sorted := (List.pairwise_cons.mp sorted).2
        back_le
        released_lt := fun j released => ?_ }
      rcases List.mem_append.mp released with before | here
      · exact (sound.released_lt j before).trans_le s.settled_le
      · rw [List.mem_singleton.mp here]
        exact Nat.sub_one_lt_of_lt this
  · exact { sound with back_sorted := (List.pairwise_cons.mp sorted).2, back_le }

namespace Orderly

theorem launch (orderly : s.Orderly) (idle : s.waiting = false) (taken : Bool) :
    (s.launch taken).Orderly := by
  refine ⟨orderly.sound.launch idle taken, fun unbroken => ?_⟩
  have settled := settled_le_launch idle taken
  have faithful := orderly.faithful (unbroken.of_later settled fun _ released _ => released)
  exact ⟨faithful.released_heard, faithful.last_heard, faithful.released_le⟩

theorem resend (orderly : s.Orderly) (waiting : s.waiting) (taken : Bool) :
    (s.resend taken).Orderly := by
  refine ⟨orderly.sound.resend waiting taken, fun unbroken => ?_⟩
  have faithful := orderly.faithful unbroken
  exact ⟨faithful.released_heard, faithful.last_heard, faithful.released_le⟩

theorem giveUp (orderly : s.Orderly) : s.giveUp.Orderly := by
  refine ⟨orderly.sound.giveUp, fun unbroken => ?_⟩
  have faithful := orderly.faithful (unbroken.of_later s.settled_le fun _ released _ => released)
  exact ⟨faithful.released_heard, faithful.last_heard, faithful.released_le⟩

theorem receive {n : Nat} {rest : List Nat} (orderly : s.Orderly) (next : s.there = n :: rest)
    (taken : Bool) : (s.receive n rest taken).Orderly := by
  have sound := orderly.sound
  have first : n ∈ s.there := by simp [next]
  refine ⟨sound.receive next taken, fun (unbroken : s.Unbroken) => ?_⟩
  have faithful := orderly.faithful unbroken
  have kept : ∀ k ∈ s.heard, k ∈ (s.receive n rest taken).heard := by
    intro k heard
    unfold Exchange.receive
    dsimp only
    split
    · exact heard
    · exact List.mem_append_left _ heard
  refine ⟨fun j released => kept j (faithful.released_heard j released), ?_, ?_⟩
  · rintro m ⟨⟩
    unfold Exchange.receive
    dsimp only
    split
    · next repeated =>
        obtain ⟨m, last, alike⟩ := (Option.any_eq_true _ _).mp repeated
        have eq := orderly.eq_last unbroken last (sound.last_le m last n first)
          (sound.there_lt n first) (of_decide_eq_true alike)
        exact eq ▸ faithful.last_heard m last
    · simp
  · intro j released k back
    rcases mem_pass back with before | rfl
    · exact faithful.released_le j released k before
    · obtain ⟨m, last, le⟩ := sound.heard_le j (faithful.released_heard j released)
      exact le.trans (sound.last_le m last k first)

theorem acknowledge {n : Nat} {rest : List Nat} (orderly : s.Orderly) (next : s.back = n :: rest) :
    (s.acknowledge n rest).Orderly := by
  have sound := orderly.sound
  have first : n ∈ s.back := by simp [next]
  have later : ∀ k ∈ rest, k ∈ s.back := fun k mem => by rw [next]; exact .tail _ mem
  refine ⟨sound.acknowledge next, fun unbroken => ?_⟩
  unfold Exchange.acknowledge at unbroken ⊢
  split at unbroken
  · next released =>
      obtain ⟨waiting, alike⟩ := released
      have unbroken : s.Unbroken := by
        refine unbroken.of_later s.settled_le fun j released lt => ?_
        rw [settled_of_waiting waiting] at lt
        rcases List.mem_append.mp released with before | here
        · exact before
        · exact absurd (List.mem_singleton.mp here) lt.ne
      have faithful := orderly.faithful unbroken
      have eq := orderly.eq_waiting unbroken waiting first alike
      rw [if_pos ⟨waiting, alike⟩]
      refine ⟨fun j released => ?_, faithful.last_heard, fun j released k mem => ?_⟩
      · rcases List.mem_append.mp released with before | here
        · exact faithful.released_heard j before
        · -- The receiver has got as far as the command that is waited for.
          obtain ⟨m, last, le⟩ := sound.back_le n first
          have := sound.last_lt m last
          have : j = m := by
            rw [List.mem_singleton] at here
            omega
          exact this ▸ faithful.last_heard m last
      · rcases List.mem_append.mp released with before | here
        · exact faithful.released_le j before k (later k mem)
        · rw [List.mem_singleton.mp here, ← eq]
          exact (List.pairwise_cons.mp (next ▸ sound.back_sorted)).1 k mem
  · next unlike =>
      have faithful := orderly.faithful unbroken
      rw [if_neg unlike]
      exact ⟨faithful.released_heard, faithful.last_heard,
        fun j released k mem => faithful.released_le j released k (later k mem)⟩

theorem wearThere {there : List Nat} (orderly : s.Orderly) (worn : Worn s.there there) :
    { s with there }.Orderly where
  sound := { orderly.sound with
    there_sorted := worn.sorted orderly.sound.there_sorted
    there_lt := fun n mem => orderly.sound.there_lt n (worn.mem mem)
    last_le := fun m last n mem => orderly.sound.last_le m last n (worn.mem mem) }
  faithful unbroken := { orderly.faithful unbroken with }

theorem wearBack {back : List Nat} (orderly : s.Orderly) (worn : Worn s.back back) :
    { s with back }.Orderly where
  sound := { orderly.sound with
    back_sorted := worn.sorted orderly.sound.back_sorted
    back_le := fun n mem => orderly.sound.back_le n (worn.mem mem) }
  faithful unbroken :=
    { orderly.faithful unbroken with
      released_le := fun n released k mem =>
        (orderly.faithful unbroken).released_le n released k (worn.mem mem) }

end Orderly

end Exchange

end DroneControl
