import DroneControl.World.Keeping

/-!
# Properties of actions that pass from the parts to the whole

A property is closed if it holds of a sequence whenever it holds of the parts.  To keep a reflexive
and transitive relation between the worlds before and after is such a property, and so is to be made
of given actions.  `Holds` is a class, so that a closed property is found to hold of an operation
from the way in which the operation is put together; the instances below are the ways there are.
-/

namespace DroneControl

variable {σ α β : Type}

class Closed (Q : (α : Type) → Act σ α → Prop) : Prop where
  pure : ∀ {α : Type} (a : α), Q α (pure a)
  look : Q (World σ) get
  bind : ∀ {α β : Type} {a : Act σ α} {f : α → Act σ β},
    Q α a → (∀ x, Q β (f x)) → Q β (a >>= f)

class Holds (Q : (α : Type) → Act σ α → Prop) {α : Type} (a : Act σ α) : Prop where
  holds : Q α a

namespace Holds

variable {Q : (α : Type) → Act σ α → Prop} [q : Closed Q]

instance pure (a : α) : Holds Q (Pure.pure a : Act σ α) := ⟨q.pure a⟩

instance look : Holds Q (get : Act σ (World σ)) := ⟨q.look⟩

instance bind {a : Act σ α} {f : α → Act σ β} [ha : Holds Q a] [h : ∀ x, Holds Q (f x)] :
    Holds Q (a >>= f) :=
  ⟨q.bind ha.holds fun x => (h x).holds⟩

instance map {a : Act σ α} (f : α → β) [Holds Q a] : Holds Q (f <$> a) := by
  rw [map_eq_pure_bind]
  infer_instance

instance discard {a : Act σ α} [Holds Q a] : Holds Q (Functor.discard a) := map _

instance ite {p : Prop} [Decidable p] {a b : Act σ α} [Holds Q a] [Holds Q b] :
    Holds Q (if p then a else b) := by
  split <;> infer_instance

instance forM {items : List α} {f : α → Act σ PUnit} [h : ∀ x, Holds Q (f x)] :
    Holds Q (items.forM f) := by
  induction items with
  | nil => exact pure _
  | cons item items ih => exact bind (a := f item) (f := fun _ => items.forM f)

/-! ## Actions that may fail -/

instance tryPure (a : α) : Holds Q (Pure.pure a : Try σ α).run := ⟨q.pure _⟩

instance throw (f : Fault) : Holds Q (MonadExcept.throw f : Try σ α).run := ⟨q.pure _⟩

instance throwThen (f : Fault) (next : β → Try σ α) :
    Holds Q ((MonadExcept.throw f : Try σ β) >>= next).run :=
  ⟨q.pure _⟩

instance tryBind {a : Try σ α} {f : α → Try σ β} [ha : Holds Q a.run]
    [h : ∀ x, Holds Q (f x).run] : Holds Q (a >>= f).run := by
  rw [ExceptT.run_bind]
  refine ⟨q.bind ha.holds fun result => ?_⟩
  cases result with
  | ok x => exact (h x).holds
  | error f => exact q.pure _

instance act {a : Act σ α} [Holds Q a] : Holds Q (DroneControl.act a).run :=
  ⟨(map (Q := Q) (a := a) Except.ok).holds⟩

instance tryLook : Holds Q (get : Try σ (World σ)).run :=
  ⟨(map (Q := Q) (a := (get : Act σ (World σ))) Except.ok).holds⟩

instance attempt {a : Try σ α} [Holds Q a.run] : Holds Q (DroneControl.attempt a).run :=
  ⟨(map (Q := Q) (a := a.run) Except.ok).holds⟩

instance outcome {a : Try σ α} [Holds Q a.run] : Holds Q (DroneControl.outcome a) :=
  ‹Holds Q a.run›

instance tryMap {a : Try σ α} (f : α → β) [Holds Q a.run] : Holds Q (f <$> a).run := by
  rw [map_eq_pure_bind]
  infer_instance

instance tryDiscard {a : Try σ α} [Holds Q a.run] : Holds Q (Functor.discard a).run := tryMap _

instance tryIte {p : Prop} [Decidable p] {a b : Try σ α} [Holds Q a.run] [Holds Q b.run] :
    Holds Q (if p then a else b).run := by
  split <;> infer_instance

instance wrapped {a : Act σ (Except Fault α)} [Holds Q a] : Holds Q (ExceptT.mk a : Try σ α).run :=
  ‹Holds Q a›

instance lifted (result : Except Fault α) : Holds Q (liftExcept result : Try σ α).run := by
  cases result with
  | ok a => exact tryPure a
  | error f => exact throw f

instance recover {a : Try σ α} {react : Fault → Act σ α} [Holds Q a.run]
    [∀ f, Holds Q (react f)] : Holds Q (recover a react) := by
  refine bind (h := fun result => ?_)
  cases result with
  | ok a => exact pure a
  | error f => exact inferInstanceAs (Holds Q (react f))

instance onFailure {a : Try σ α} {react : Fault → Act σ Unit} [Holds Q a.run]
    [∀ f, Holds Q (react f)] : Holds Q (onFailure a react).run := by
  refine tryBind (h := fun result => ?_)
  cases result with
  | ok a => exact tryPure a
  | error f => exact tryBind (f := fun _ => MonadExcept.throw f)

end Holds

/-! ## Relations between the worlds before and after -/

/-- The worlds before and after an action are related. -/
def Keeps (R : World σ → World σ → Prop) (α : Type) (a : Act σ α) : Prop :=
  ∀ w, R w (a.run w).2

theorem Keeps.closed {R : World σ → World σ → Prop} (refl : ∀ w, R w w)
    (trans : ∀ {w₁ w₂ w₃}, R w₁ w₂ → R w₂ w₃ → R w₁ w₃) : Closed (Keeps R) where
  pure _ w := refl w
  look w := refl w
  bind ha hf w := trans (ha w) (hf _ _)

/-! ## Actions made of actions of one kind -/

/-- An action is put together from actions of one kind, looking at the world on the way. -/
inductive Program (basic : (α : Type) → Act σ α → Prop) : (α : Type) → Act σ α → Prop where
  | pure {α : Type} (a : α) : Program basic α (pure a)
  | look : Program basic (World σ) get
  | basic {α : Type} {a : Act σ α} (h : basic α a) : Program basic α a
  | bind {α β : Type} {a : Act σ α} {f : α → Act σ β} :
      Program basic α a → (∀ x, Program basic β (f x)) → Program basic β (a >>= f)

theorem Program.holds {basic Q : (α : Type) → Act σ α → Prop} [q : Closed Q]
    (h : ∀ {α : Type} {a : Act σ α}, basic α a → Q α a) {a : Act σ α} (p : Program basic α a) :
    Q α a := by
  induction p with
  | pure a => exact q.pure a
  | look => exact q.look
  | basic hb => exact h hb
  | bind _ _ iha ihf => exact q.bind iha ihf

end DroneControl
