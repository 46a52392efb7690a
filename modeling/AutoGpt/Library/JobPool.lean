import AutoGpt.Library.Machine

/-
  Pools of jobs that share one state. A job is the rest of a
  request as data; its steps and those of all other jobs
  interleave. A job may be dropped at any point, and a restart
  drops all of them.

  Key definitions: `JobPool.Program`, `JobPool.step`, `JobPool.Holds`

  The rules used by clients are:
    * `JobPool.run_holds_of_steps`
    * `JobPool.step_advance_cases`
    * `JobPool.step_rel`
-/

open List
open Option

----
-- Pools
----

namespace JobPool

/- The first step of a request, the steps of a job with what the outside answers, the jobs without
   further steps, and one of them. -/
structure Program (S J R D : Type) where
  start : R → J
  advance : D → S → J → S × J
  done : J → Bool
  ended : J

/- What can happen to a pool. -/
inductive Op (R D : Type) where
| arrive (request : R)
| advance (i : Nat) (draw : D)
| drop (i : Nat)
| restart

/- The shared state and the jobs, ended ones included. -/
structure State (S J : Type) where
  shared : S
  jobs : List J := []

variable {S J R D : Type}

/- A job that has a next step. -/
def pending? (program : Program S J R D) (st : State S J) (i : Nat) : Option J :=
  st.jobs[i]?.filter fun job => !program.done job

/- One operation; a step answers with what is left of its job. -/
def step (program : Program S J R D) (st : State S J) :
    Op R D → State S J × Option J
| .arrive request => ({ st with jobs := st.jobs ++ [program.start request] }, none)
| .advance i draw =>
    match pending? program st i with
    | none => (st, none)
    | some job =>
      ({ shared := (program.advance draw st.shared job).1
         jobs := st.jobs.set i
             (program.advance draw st.shared job).2 },
        some (program.advance draw st.shared job).2)
| .drop i => ({ st with jobs := st.jobs.set i program.ended }, none)
| .restart => ({ st with jobs := [] }, none)

/- The state after some operations. -/
abbrev run (program : Program S J R D) (s : S) (ops : List (Op R D)) : State S J :=
  Machine.run (step program) { shared := s } ops

/- A condition on the steps of jobs. -/
def OnJob (program : Program S J R D) (C : State S J → D → J → Prop) (st : State S J) :
    Op R D → Prop
| .advance i draw =>
    match pending? program st i with
    | none => True
    | some job => C st draw job
| _ => True

instance
    {program : Program S J R D} {C : State S J → D → J → Prop}
    [∀ st draw job, Decidable (C st draw job)] (st : State S J) (op : Op R D) :
    Decidable (OnJob program C st op) := by
  unfold OnJob
  split
  · split <;> infer_instance
  · infer_instance

----
-- Rules
----

variable {program : Program S J R D}
variable {P : S → Prop} {Q : S → J → Prop}
variable {C : State S J → D → J → Prop}

/- A property of the shared state, and one of all jobs. -/
structure Holds (P : S → Prop) (Q : S → J → Prop) (st : State S J) : Prop where
  shared : P st.shared
  jobs : ∀ job ∈ st.jobs, Q st.shared job

theorem getElem?_of_pending?
    (hJob : pending? program st i = some job) : st.jobs[i]? = some job :=
  (filter_eq_some_iff.mp hJob).1

theorem mem_of_pending?
    (hJob : pending? program st i = some job) : job ∈ st.jobs ∧ program.done job = false := by
  have hFound := filter_eq_some_iff.mp hJob
  exact ⟨mem_of_getElem? hFound.1, by simpa using hFound.2⟩

/- The step of a job that exists. -/
theorem step_advance (hJob : pending? program st i = some job) :
    step program st (.advance i draw) =
      ({ shared := (program.advance draw st.shared job).1
         jobs := st.jobs.set i
             (program.advance draw st.shared job).2 },
        some (program.advance draw st.shared job).2) := by
  simp only [step, hJob]

/- Only the step of a job answers. -/
theorem step_answer {next : J} (hAnswer : (step program st op).2 = some next) :
    ∃ i draw job, op = .advance i draw ∧ pending? program st i = some job ∧
        (program.advance draw st.shared job).2 = next := by
  cases op with
  | arrive request => cases hAnswer
  | drop i => cases hAnswer
  | restart => cases hAnswer
  | advance i draw =>
    cases hJob : pending? program st i with
    | none =>
      simp only [step, hJob] at hAnswer
      cases hAnswer
    | some job =>
      rw [step_advance hJob] at hAnswer
      exact ⟨i, draw, job, rfl, hJob, some.inj hAnswer⟩

/- What an operation does to the shared state. -/
theorem step_advance_cases (program : Program S J R D) (st : State S J) (op : Op R D) :
    (step program st op).1.shared = st.shared ∨ ∃ i draw job, op = .advance i draw ∧
          pending? program st i = some job ∧
          (step program st op).1.shared = (program.advance draw st.shared job).1 := by
  cases op with
  | arrive request => exact .inl rfl
  | drop i => exact .inl rfl
  | restart => exact .inl rfl
  | advance i draw =>
    cases hJob : pending? program st i with
    | none =>
      left
      simp only [step, hJob]
    | some job =>
      right
      exact ⟨i, draw, job, rfl, hJob, by rw [step_advance hJob]⟩

section

variable (hStart : ∀ s request, P s → Q s (program.start request))
  (hEnded : ∀ s, P s → Q s program.ended)
  (hAdvance : ∀ draw st job, Holds P Q st → job ∈ st.jobs →
        program.done job = false → C st draw job → P (program.advance draw st.shared job).1 ∧
          Q (program.advance draw st.shared job).1 (program.advance draw st.shared job).2 ∧
          ∀ other ∈ st.jobs, Q (program.advance draw st.shared job).1 other)
include hStart hEnded hAdvance

/- The rule for one operation: requests begin with the property of jobs, and a step that meets its
   condition keeps both properties. -/
theorem step_holds (st : State S J) (op : Op R D) (hHolds : Holds P Q st)
    (hCondition : OnJob program C st op) :
    Holds P Q (step program st op).1 := by
  cases op with
  | arrive request =>
    refine ⟨hHolds.shared, ?_⟩
    intro job hMem
    rcases mem_append.mp hMem with hOld | hNew
    · exact hHolds.jobs job hOld
    · rw [mem_singleton.mp hNew]
      exact hStart _ request hHolds.shared
  | drop i =>
    refine ⟨hHolds.shared, ?_⟩
    intro job hMem
    rcases mem_or_eq_of_mem_set hMem with hOld | hNew
    · exact hHolds.jobs job hOld
    · rw [hNew]
      exact hEnded _ hHolds.shared
  | restart =>
    refine ⟨hHolds.shared, ?_⟩
    intro job hMem
    cases hMem
  | advance i draw =>
    simp only [OnJob] at hCondition
    cases hJob : pending? program st i with
    | none =>
      simp only [step, hJob]
      exact hHolds
    | some job =>
      rw [hJob] at hCondition
      rw [step_advance hJob]
      have hPending := mem_of_pending? hJob
      rcases hAdvance draw st job hHolds hPending.1
          hPending.2 hCondition with
        ⟨hShared, hNext, hOthers⟩
      refine ⟨hShared, ?_⟩
      intro other hMem
      rcases mem_or_eq_of_mem_set hMem with hOld | hNew
      · exact hOthers other hOld
      · rw [hNew]
        exact hNext

/- The rule for runs whose steps all meet their condition. -/
theorem run_holds_of_steps (hHolds : Holds P Q st)
    (hSteps : Machine.Steps (step program) (OnJob program C) st ops) :
    Holds P Q (Machine.run (step program) st ops) :=
  Machine.run_induction_of_steps
    (fun st op hStart' hStep => step_holds hStart hEnded hAdvance st op hStart' hStep) hHolds hSteps

end

/- A condition that a state meets for every step of a job. -/
theorem onJob_of_forall (hAll : ∀ draw job, C st draw job) (op : Op R D) :
    OnJob program C st op := by
  unfold OnJob
  split
  next i draw =>
    cases pending? program st i with
    | none => exact trivial
    | some job => exact hAll draw job
  next _ => exact trivial

/- What the steps of jobs do to the shared state, operations do. -/
theorem step_rel {T : S → S → Prop} (hRefl : ∀ s, T s s)
    (hAdvance : ∀ draw job, job ∈ st.jobs → C st draw job →
        T st.shared (program.advance draw st.shared job).1)
    (op : Op R D) (hCondition : OnJob program C st op) :
    T st.shared (step program st op).1.shared := by
  rcases step_advance_cases program st op with hSame | ⟨i, draw, job, hIs, hJob, hNext⟩
  · rw [hSame]
    exact hRefl st.shared
  · rw [hNext]
    rw [hIs] at hCondition
    simp only [OnJob, hJob] at hCondition
    exact hAdvance draw job (mem_of_pending? hJob).1 hCondition

/- The jobs after a step of one of them. -/
theorem getElem?_set_cases {jobs : List J} {next : J}
    (hOther : (jobs.set i next)[j]? = some other) :
    (i = j ∧ other = next) ∨ (i ≠ j ∧ jobs[j]? = some other) := by
  by_cases hSame : i = j
  · rw [hSame, getElem?_set_self'] at hOther
    rcases map_eq_some_iff.mp hOther with ⟨_, _, hIs⟩
    exact .inl ⟨hSame, hIs.symm⟩
  · rw [getElem?_set_ne hSame] at hOther
    exact .inr ⟨hSame, hOther⟩

/- A job is still there after a step, unless it is the one that has made the step. -/
theorem mem_set_of_mem {jobs : List J} (next : J)
    (hJob : jobs[i]? = some job) (hMem : other ∈ jobs) : other ∈ jobs.set i next ∨ other = job := by
  rcases getElem?_of_mem hMem with ⟨j, hOther⟩
  by_cases hSame : i = j
  · rw [← hSame, hJob] at hOther
    exact .inr (some.inj hOther).symm
  · left
    rw [← getElem?_set_ne hSame] at hOther
    exact mem_of_getElem? hOther

end JobPool
