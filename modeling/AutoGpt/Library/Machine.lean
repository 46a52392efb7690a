import Mathlib.Data.List.Infix

/-
  Machines with inputs and answers, and the rules by which a
  property of one step becomes a property of a whole run.

  A machine is a function from a state and an input to the
  next state and an answer. An interleaving of several
  parties is an input list whose items name the party.

  Key definitions: `Machine.run`, `Machine.trace`, `Machine.Steps`

  The rules used by clients are:
    * `Machine.run_rel`
    * `Machine.run_history`
    * `Machine.exists_step_of_mem_trace`
-/

----
-- Runs And Traces
----

namespace Machine

variable {S I O : Type}

/- The state after the inputs, taken in order. -/
def run (step : S → I → S × O) :
    S → List I → S
| s, [] => s
| s, i :: is => run step (step s i).1 is

/- The inputs of a run, each with the answer it got. -/
def trace (step : S → I → S × O) :
    S → List I → List (I × O)
| _, [] => []
| s, i :: is => (i, (step s i).2) :: trace step (step s i).1 is

/- Every step of the run meets the condition on the state it starts from and on its input. -/
def Steps (step : S → I → S × O) (C : S → I → Prop) :
    S → List I → Prop
| _, [] => True
| s, i :: is => C s i ∧ Steps step C (step s i).1 is

variable {step : S → I → S × O}

instance decidableSteps {C : S → I → Prop} [∀ s i, Decidable (C s i)] :
    ∀ s is, Decidable (Steps step C s is)
| _, [] => isTrue trivial
| s, i :: is =>
    have : Decidable (Steps step C (step s i).1 is) := decidableSteps _ is
    inferInstanceAs (Decidable (C s i ∧ _))

@[simp] theorem run_nil (s : S) :
    run step s [] = s := rfl

@[simp] theorem run_cons (s : S) (i : I) (is : List I) :
    run step s (i :: is) = run step (step s i).1 is := rfl

@[simp] theorem trace_nil (s : S) :
    trace step s [] = [] := rfl

@[simp] theorem trace_cons (s : S) (i : I) (is : List I) :
    trace step s (i :: is) = (i, (step s i).2) :: trace step (step s i).1 is := rfl

/- A run over appended inputs continues the first run. -/
theorem run_append (s : S) (is js : List I) :
    run step s (is ++ js) = run step (run step s is) js := by
  induction is generalizing s with
  | nil => rfl
  | cons i is ih => exact ih (step s i).1

/- The trace over appended inputs is the appended trace. -/
theorem trace_append (s : S) (is js : List I) :
    trace step s (is ++ js) = trace step s is ++ trace step (run step s is) js := by
  induction is generalizing s with
  | nil => rfl
  | cons i is ih => simp only [List.cons_append, trace_cons, run_cons, ih]

/- A step condition of a whole run holds of both its parts. -/
theorem steps_append (s : S) (is js : List I) :
    Steps step C s (is ++ js) ↔ Steps step C s is ∧ Steps step C (run step s is) js := by
  induction is generalizing s with
  | nil => simp [Steps]
  | cons i is ih => simp only [List.cons_append, Steps, run_cons, ih, and_assoc]

/- A step condition of a run is a condition on each input in the state that the inputs before it
   have reached. -/
theorem steps_iff_forall_split (s : S) (is : List I) :
    Steps step C s is ↔ ∀ before i after, is = before ++ i :: after → C (run step s before) i := by
  constructor
  · intro hSteps before i after hSplit
    rw [hSplit, steps_append] at hSteps
    exact hSteps.2.1
  · intro hAll
    induction is generalizing s with
    | nil => trivial
    | cons i is ih =>
      constructor
      · exact hAll [] i is rfl
      · apply ih
        intro before j after hSplit
        exact hAll (i :: before) j after (by simp [hSplit])

----
-- Invariant Rules
----

/- What every conditioned step preserves, the run preserves. -/
theorem run_induction_of_steps {P : S → Prop} {C : S → I → Prop}
    (hStep : ∀ s i, P s → C s i → P (step s i).1) {s : S} (hInit : P s) {is : List I}
    (hSteps : Steps step C s is) : P (run step s is) := by
  induction is generalizing s with
  | nil => exact hInit
  | cons i is ih => exact ih (hStep s i hInit hSteps.1) hSteps.2

/- Every run meets the trivial step condition. -/
theorem steps_true (s : S) (is : List I) : Steps step (fun _ _ => True) s is := by
  induction is generalizing s with
  | nil => trivial
  | cons i is ih => exact ⟨trivial, ih _⟩

/- What every step preserves, every run preserves. -/
theorem run_induction {P : S → Prop} (hStep : ∀ s i, P s → P (step s i).1) {s : S} (hInit : P s)
    (is : List I) : P (run step s is) :=
  run_induction_of_steps (C := fun _ _ => True) (fun s i hInv _ => hStep s i hInv) hInit
    (steps_true s is)

/- A step condition on inputs alone is a condition on the members of the input list. -/
theorem steps_of_forall_mem {C : I → Prop} (hAll : ∀ i ∈ is, C i) (s : S) :
    Steps step (fun _ i => C i) s is := by
  induction is generalizing s with
  | nil => trivial
  | cons i is ih => exact ⟨hAll i (by simp), ih (fun j hj => hAll j (by simp [hj])) _⟩

/- A reflexive and transitive relation that every conditioned step from a good state respects
   relates the two ends of every run from a good state whose steps meet the condition. -/
theorem run_rel_of_steps {P : S → Prop} {R : S → S → Prop} (hRefl : ∀ s, R s s)
    (hTrans : ∀ s t u, R s t → R t u → R s u) (hInv : ∀ s i, P s → C s i → P (step s i).1)
    (hRel : ∀ s i, P s → C s i → R s (step s i).1) (hInit : P s)
    (hSteps : Steps step C s is) : R s (run step s is) := by
  induction is generalizing s with
  | nil => exact hRefl s
  | cons i is ih =>
    exact hTrans _ _ _ (hRel s i hInit hSteps.1) (ih (hInv s i hInit hSteps.1) hSteps.2)

/- The rule without a step condition. -/
theorem run_rel {P : S → Prop} {R : S → S → Prop} (hRefl : ∀ s, R s s)
    (hTrans : ∀ s t u, R s t → R t u → R s u) (hInv : ∀ s i, P s → P (step s i).1)
    (hRel : ∀ s i, P s → R s (step s i).1) {s : S} (hInit : P s) (is : List I) :
    R s (run step s is) :=
  run_rel_of_steps (C := fun _ _ => True) hRefl hTrans (fun s i hInv' _ => hInv s i hInv')
    (fun s i hInv' _ => hRel s i hInv') hInit (steps_true s is)

/- A relation between the history so far and the state that every step extends holds at the end of
   every run. -/
theorem run_history {J : List (I × O) → S → Prop}
    (hStep : ∀ h s i, J h s → J (h ++ [(i, (step s i).2)]) (step s i).1) {h : List (I × O)} {s : S}
    (hInit : J h s) (is : List I) : J (h ++ trace step s is) (run step s is) := by
  induction is generalizing h s with
  | nil => simpa using hInit
  | cons i is ih =>
    have hNext := ih (hStep h s i hInit)
    simpa using hNext

/- Every item of a trace was answered in the state that the inputs before it had reached. -/
theorem exists_step_of_mem_trace (hMem : (i, o) ∈ trace step s is) :
    ∃ before after, is = before ++ i :: after ∧ o = (step (run step s before) i).2 := by
  induction is generalizing s with
  | nil => simp at hMem
  | cons j js ih =>
    rcases List.mem_cons.mp hMem with hHead | hTail
    · cases hHead
      exact ⟨[], js, rfl, rfl⟩
    · rcases ih hTail with ⟨before, after, hSplit, hOut⟩
      exact ⟨j :: before, after, by simp [hSplit], hOut⟩

end Machine
