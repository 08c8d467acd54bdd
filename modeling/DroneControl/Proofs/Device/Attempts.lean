import DroneControl.Proofs.Connection.Course
import Mathlib.Data.List.Induction

/-!
# Attempts to connect a device

What a listener is told of a device is read one milestone after another: it stands idle, or on an
attempt that has got some way.  A reading that never gets stuck is a sequence of whole attempts, of
which the last may still be under way.
-/

namespace DroneControl

abbrev Notice := ConnectionId × Milestone

structure Attempt where
  connection : ConnectionId
  course : Course
  deriving DecidableEq, Repr

def Attempt.notices (a : Attempt) : List Notice := a.course.script.map (a.connection, ·)

inductive Standing where
  | idle
  | trying (connection : ConnectionId)
  | established (connection : ConnectionId)
  deriving DecidableEq, Repr

namespace Standing

def next : Standing → Notice → Option Standing
  | idle, (c, .connecting) => some (trying c)
  | trying own, (c, .connected) => if c = own then some (established c) else none
  | trying own, (c, .canceled) => if c = own then some idle else none
  | established own, (c, .disconnected) => if c = own then some idle else none
  | established own, (c, .canceled) => if c = own then some idle else none
  | _, _ => none

/-- What was told since the last attempt ended. -/
def begun : Standing → List Notice
  | idle => []
  | trying c => [(c, .connecting)]
  | established c => [(c, .connecting), (c, .connected)]

/-- Where a connection that has told so much puts whoever follows it. -/
def of (c : ConnectionId) : List Milestone → Standing
  | [.connecting] => trying c
  | [.connecting, .connected] => established c
  | _ => idle

end Standing

def standing (notices : List Notice) : Option Standing := notices.foldlM Standing.next .idle

theorem standing_concat (notices : List Notice) (n : Notice) :
    standing (notices ++ [n]) = (standing notices).bind (·.next n) := by
  simp only [standing, List.foldlM_append, List.foldlM_cons, List.foldlM_nil]
  cases notices.foldlM Standing.next .idle <;> simp

theorem last_of_standing {notices : List Notice} {c : ConnectionId}
    (stands : standing notices = some (.established c)) : notices.getLast? = some (c, .connected) := by
  rcases List.eq_nil_or_concat notices with rfl | ⟨before, ⟨c', m⟩, rfl⟩
  · cases stands
  rw [List.concat_eq_append] at stands ⊢
  rw [standing_concat, Option.bind_eq_some_iff] at stands
  obtain ⟨was, -, step⟩ := stands
  cases was <;> cases m <;> simp only [Standing.next, Option.ite_none_right_eq_some, Option.some.injEq,
    reduceCtorEq, and_false] at step
  obtain ⟨rfl, established⟩ := step
  cases established
  simp

/-- The course of a connection has not come to its end. -/
def Underway (told : List Milestone) : Prop :=
  told = [] ∨ told = [.connecting] ∨ told = [.connecting, .connected]

def Continues (told : List Milestone) (m : Milestone) : Prop :=
  ∃ course : Course, told ++ [m] <+: course.script

theorem Continues.cases {told : List Milestone} {m : Milestone} (h : Continues told m) :
    told = [] ∧ m = .connecting ∨
      told = [.connecting] ∧ m = .connected ∨
      told = [.connecting] ∧ m = .canceled ∨
      told = [.connecting, .connected] ∧ m = .disconnected ∨
      told = [.connecting, .connected] ∧ m = .canceled := by
  obtain ⟨course, rest, same⟩ := h
  match told, course, same with
  | [], .full, same | [], .cut, same | [], .vain, same =>
      simp_all [Course.script]
  | [_], .full, same | [_], .cut, same | [_], .vain, same =>
      simp_all [Course.script]
  | [_, _], .full, same | [_, _], .cut, same =>
      simp_all [Course.script]
  | _ :: _ :: _ :: _, .full, same | _ :: _ :: _ :: _, .cut, same | _ :: _ :: _, .vain, same =>
      simp [Course.script] at same

theorem Continues.underway {told : List Milestone} {m : Milestone} (h : Continues told m) :
    Underway told := by
  unfold Underway
  rcases h.cases with ⟨rfl, -⟩ | ⟨rfl, -⟩ | ⟨rfl, -⟩ | ⟨rfl, -⟩ | ⟨rfl, -⟩ <;> simp

theorem Underway.of_append {told : List Milestone} {more : List Milestone}
    (h : Underway (told ++ more)) : Underway told := by
  unfold Underway at h ⊢
  match told, more, h with
  | [], _, _ => simp
  | [m], _, h => rcases h with h | h | h <;> simp_all
  | [m, m'], _, h => rcases h with h | h | h <;> simp_all
  | m :: m' :: m'' :: told, _, h => simp at h

theorem Standing.of_ended {told : List Milestone} (h : ¬Underway told) (c : ConnectionId) :
    Standing.of c told = .idle := by
  unfold Standing.of
  split
  · simp [Underway] at h
  · simp [Underway] at h
  · rfl

theorem Standing.next_of {told : List Milestone} {m : Milestone} (h : Continues told m)
    (c : ConnectionId) : (Standing.of c told).next (c, m) = some (.of c (told ++ [m])) := by
  rcases h.cases with ⟨rfl, rfl⟩ | ⟨rfl, rfl⟩ | ⟨rfl, rfl⟩ | ⟨rfl, rfl⟩ | ⟨rfl, rfl⟩ <;>
    simp [Standing.of, Standing.next]

theorem Standing.next_begun {s s' : Standing} {n : Notice} (h : s.next n = some s') :
    s.begun ++ [n] = s'.begun ∨ s' = .idle ∧ ∃ a : Attempt, s.begun ++ [n] = a.notices := by
  obtain ⟨c, m⟩ := n
  cases s with
  | idle =>
      cases m <;> simp only [next, Option.some.injEq, reduceCtorEq] at h
      subst h
      exact .inl rfl
  | trying own =>
      cases m <;>
        simp only [next, Option.ite_none_right_eq_some, Option.some.injEq, reduceCtorEq] at h
      · obtain ⟨rfl, rfl⟩ := h
        exact .inl rfl
      · obtain ⟨rfl, rfl⟩ := h
        exact .inr ⟨rfl, ⟨c, .vain⟩, rfl⟩
  | established own =>
      cases m <;>
        simp only [next, Option.ite_none_right_eq_some, Option.some.injEq, reduceCtorEq] at h
      · obtain ⟨rfl, rfl⟩ := h
        exact .inr ⟨rfl, ⟨c, .full⟩, rfl⟩
      · obtain ⟨rfl, rfl⟩ := h
        exact .inr ⟨rfl, ⟨c, .cut⟩, rfl⟩

theorem standing_eq_some {notices : List Notice} {s : Standing} (h : standing notices = some s) :
    ∃ attempts : List Attempt, notices = attempts.flatMap Attempt.notices ++ s.begun := by
  induction notices using List.reverseRecOn generalizing s with
  | nil =>
      obtain rfl : Standing.idle = s := Option.some.inj h
      exact ⟨[], rfl⟩
  | append_singleton notices n ih =>
      rw [standing_concat, Option.bind_eq_some_iff] at h
      obtain ⟨before, reads, step⟩ := h
      obtain ⟨attempts, rfl⟩ := ih reads
      rcases Standing.next_begun step with more | ⟨rfl, a, ended⟩
      · exact ⟨attempts, by rw [List.append_assoc, more]⟩
      · refine ⟨attempts ++ [a], ?_⟩
        rw [List.append_assoc, ended]
        simp [Standing.begun]

theorem prefix_attempts {notices : List Notice} (h : (standing notices).isSome) :
    ∃ attempts : List Attempt, notices <+: attempts.flatMap Attempt.notices := by
  obtain ⟨s, reads⟩ := Option.isSome_iff_exists.mp h
  obtain ⟨attempts, rfl⟩ := standing_eq_some reads
  cases s with
  | idle => exact ⟨attempts, by simp [Standing.begun]⟩
  | trying c =>
      refine ⟨attempts ++ [⟨c, .vain⟩], ?_⟩
      simp [Standing.begun, Attempt.notices, Course.script]
  | established c =>
      refine ⟨attempts ++ [⟨c, .full⟩], ?_⟩
      simp [Standing.begun, Attempt.notices, Course.script]

end DroneControl
