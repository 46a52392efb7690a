import AutoGpt.Library.Machine

/-
  Locks with an owner, as a discipline on the steps of a
  machine: a free lock may be taken by anyone, a held lock
  changes only under a step that names its owner, and a
  sealed lock never changes again.

  Key definitions: `OwnedLock`, `OwnedLock.Allows`

  A machine whose every step is allowed keeps sealed locks
  for good and held locks until their owner acts:
    * `OwnedLock.sealed_run`
    * `OwnedLock.held_run`
-/

/- The state of a lock: free, held by an owner with some content, or sealed with its final content.
   -/
inductive OwnedLock (Owner Content : Type) where
| free : OwnedLock Owner Content
| held : Owner → Content → OwnedLock Owner Content
| «sealed» : Content → OwnedLock Owner Content

open Machine

namespace OwnedLock

variable {Owner Content : Type}

/- The changes a step may make to a lock when it names the owner `actor`, if any. -/
def Allows (actor : Option Owner) :
    OwnedLock Owner Content → OwnedLock Owner Content → Prop
| .free, _ => True
| .held o c, l => l = .held o c ∨ actor = some o
| .sealed c, l => l = .sealed c

/- Leaving a lock as it is is always allowed. -/
theorem Allows.refl (actor : Option Owner) (l : OwnedLock Owner Content) : Allows actor l l := by
  cases l with
  | free => trivial
  | held o c => exact .inl rfl
  | «sealed» c => rfl

variable {S I O : Type}
variable {step : S → I → S × O}

/- A sealed lock stays sealed with the same content. -/
theorem sealed_run (lock : S → OwnedLock Owner Content) (actor : I → Option Owner)
    (hAllows : ∀ s i, Allows (actor i) (lock s) (lock (step s i).1))
    (hSealed : lock s = .sealed c) (is : List I) : lock (run step s is) = .sealed c := by
  refine run_induction (P := fun s => lock s = .sealed c) ?_ hSealed is
  intro t i hLock
  have hStep := hAllows t i
  rw [hLock] at hStep
  exact hStep

/- A held lock stays held while no input names its owner. -/
theorem held_run (lock : S → OwnedLock Owner Content) (actor : I → Option Owner)
    (hAllows : ∀ s i, Allows (actor i) (lock s) (lock (step s i).1)) (hHeld : lock s = .held o c)
    (hOthers : ∀ i ∈ is, actor i ≠ some o) : lock (run step s is) = .held o c := by
  refine run_induction_of_steps (P := fun s => lock s = .held o c)
    (C := fun _ i => actor i ≠ some o) ?_ hHeld (steps_of_forall_mem hOthers s)
  intro t i hLock hOther
  have hStep := hAllows t i
  rw [hLock] at hStep
  rcases hStep with hSame | hOwner
  · exact hSame
  · exact absurd hOwner hOther

end OwnedLock
