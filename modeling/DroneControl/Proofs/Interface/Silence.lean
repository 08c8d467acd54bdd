import DroneControl.Proofs.Interface.Watching

/-!
# Closed interfaces

An interface that is closed does nothing when it is asked for something, and whatever leaves it alone leaves
it closed.
-/

namespace DroneControl

variable {σ : Type} {i : InterfaceId} {w w' : World σ} {env : Env σ}

/-- A command that an interface hands over. -/
def Occurrence.delivered? (i : InterfaceId) : Occurrence → Option Command
  | .delivered i' c => if i' = i then some c else none
  | _ => none

def World.deliveries (w : World σ) (i : InterfaceId) : List Command :=
  w.chronicle.filterMap (·.what.delivered? i)

/-- The interface was made, and is closed or gone. -/
structure World.Shut (w : World σ) (i : InterfaceId) : Prop where
  known : i.number < w.interfaces.next
  closed : (w.interface i).closed = true

namespace Spares

theorem closed (spares : Spares i w w') (closed : (w.interface i).closed = true) :
    (w'.interface i).closed = true := by
  unfold World.interface Table.get at closed ⊢
  cases row : w'.interfaces.find? i with
  | none => rfl
  | some x' =>
    obtain ⟨x, found, same⟩ := spares.row x' row
    rw [found] at closed
    rw [Option.getD_some, same]
    exact closed

theorem shut (spares : Spares i w w') (shut : w.Shut i) : w'.Shut i :=
  ⟨Nat.lt_of_lt_of_le shut.known spares.known, spares.closed shut.closed⟩

end Spares

namespace Interface

theorem close_closed (w : World σ) (closed : (w.interface i).closed = true) :
    ((close i).run w).2 = w := by
  unfold close
  rw [run_bind, run_get]
  dsimp only
  rw [closed]
  rfl

theorem send_closed (c : Command) (w : World σ) (closed : (w.interface i).closed = true) :
    ((send env i c).run.run w).2 = w := by
  unfold send
  rw [run_lookThen]
  dsimp only
  cases c.delivery <;> simp only [closed, if_true] <;> rfl

theorem receive_closed (frame : Frame) (w : World σ) (closed : (w.interface i).closed = true) :
    ((receive env i frame).run w).2 = w := by
  unfold receive
  rw [run_bind, run_get]
  dsimp only
  rw [if_pos closed]
  rfl

theorem retry_closed (w : World σ) (closed : (w.interface i).closed = true) :
    ((retry env i).run w).2 = w := by
  unfold retry
  rw [run_bind, run_get]
  dsimp only
  rw [if_pos closed]
  rfl

end Interface

end DroneControl
