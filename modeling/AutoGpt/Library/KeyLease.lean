import Mathlib.Data.Finset.Basic
import Mathlib.Data.Finset.Lattice.Basic

/-
  Leases of identities that each occupy a set of keys. A
  book records what was granted, what was returned and which
  keys are active; an identity may be granted only once and
  only while none of its keys is active.

  Key definitions: `KeyLease.Book`, `KeyLease.Outstanding`, `KeyLease.Step`

  The rules used by clients are:
    * `KeyLease.Sound.step`
    * `KeyLease.outstanding_grant`
    * `KeyLease.outstanding_release`
-/

open List

namespace KeyLease

/- What was granted, what was returned, what is active. -/
structure Book (Id Key : Type) where
  granted : List Id
  returned : List Id
  active : Finset Key

variable {Id Key : Type}

/- Granted and not yet returned. -/
def Outstanding (b : Book Id Key) (a : Id) : Prop := a ∈ b.granted ∧ a ∉ b.returned

variable (keys : Id → Finset Key)

/- One step: nothing changes, a fresh identity with free keys is granted, or an outstanding one is
   returned and its keys are dropped. -/
inductive Step [DecidableEq Key] (b b' : Book Id Key) : Prop where
| keep (hSame : b' = b)
| grant
    (a : Id) (hFresh : a ∉ b.granted) (hFree : Disjoint (keys a) b.active)
    (hNext : b' = ⟨a :: b.granted, b.returned, b.active ∪ keys a⟩)
| release
    (a : Id) (hOut : Outstanding b a) (hNext : b' = ⟨b.granted, a :: b.returned, b.active \ keys a⟩)

/- No identity is granted twice, outstanding identities share no key, and the active keys are
   exactly theirs. -/
structure Sound (b : Book Id Key) : Prop where
  granted_nodup : b.granted.Nodup
  returned_granted : ∀ a ∈ b.returned, a ∈ b.granted
  apart : ∀ a a', Outstanding b a → Outstanding b a' → a ≠ a' → Disjoint (keys a) (keys a')
  active_iff : ∀ k, k ∈ b.active ↔ ∃ a, Outstanding b a ∧ k ∈ keys a

theorem sound_nil : Sound keys (⟨[], [], ∅⟩ : Book Id Key) where
  granted_nodup := nodup_nil
  returned_granted := by
    intro a hMem
    cases hMem
  apart := by
    intro a a' hOut
    cases hOut.1
  active_iff := by
    intro k
    constructor
    · intro hMem
      simp at hMem
    · rintro ⟨a, hOut, _⟩
      cases hOut.1

variable {keys}
variable {b b' : Book Id Key} {a : Id}

/- What is outstanding after a grant. -/
theorem outstanding_grant (hSound : Sound keys b) (hFresh : a ∉ b.granted) (active : Finset Key)
    (c : Id) : Outstanding ⟨a :: b.granted, b.returned, active⟩ c ↔ c = a ∨ Outstanding b c := by
  constructor
  · rintro ⟨hGranted, hKept⟩
    rcases mem_cons.mp hGranted with hSame | hOld
    · exact .inl hSame
    · exact .inr ⟨hOld, hKept⟩
  · rintro (rfl | hOut)
    · refine ⟨by simp, ?_⟩
      intro hReturned
      exact hFresh (hSound.returned_granted c hReturned)
    · exact ⟨mem_cons_of_mem _ hOut.1, hOut.2⟩

/- What is outstanding after a return. -/
theorem outstanding_release (active : Finset Key) (c : Id) :
    Outstanding ⟨b.granted, a :: b.returned, active⟩ c ↔ c ≠ a ∧ Outstanding b c := by
  simp only [Outstanding, mem_cons, not_or]
  constructor
  · rintro ⟨hGranted, hNe, hKept⟩
    exact ⟨hNe, hGranted, hKept⟩
  · rintro ⟨hNe, hGranted, hKept⟩
    exact ⟨hGranted, hNe, hKept⟩

/- The keys of an outstanding identity are active. -/
theorem Sound.active_of_outstanding (hSound : Sound keys b) (hOut : Outstanding b a) :
    keys a ⊆ b.active :=
  fun k hk => (hSound.active_iff k).mpr ⟨a, hOut, hk⟩

variable [DecidableEq Key]

/- A grant of free keys to a fresh identity stays sound. -/
theorem Sound.grant (hSound : Sound keys b) (hFresh : a ∉ b.granted)
    (hFree : Disjoint (keys a) b.active) :
    Sound keys ⟨a :: b.granted, b.returned, b.active ∪ keys a⟩ := by
  have hApart : ∀ c, Outstanding b c → Disjoint (keys a) (keys c) := by
    intro c hOut
    exact Finset.disjoint_of_subset_right (hSound.active_of_outstanding hOut) hFree
  constructor
  · exact nodup_cons.mpr ⟨hFresh, hSound.granted_nodup⟩
  · intro c hReturned
    exact mem_cons_of_mem _ (hSound.returned_granted c hReturned)
  · intro c c' hOut hOut' hNe
    rw [outstanding_grant hSound hFresh] at hOut hOut'
    rcases hOut with rfl | hOld
    · rcases hOut' with rfl | hOld'
      · exact absurd rfl hNe
      · exact hApart c' hOld'
    · rcases hOut' with rfl | hOld'
      · exact (hApart c hOld).symm
      · exact hSound.apart c c' hOld hOld' hNe
  · intro k
    simp only [Finset.mem_union, hSound.active_iff, outstanding_grant hSound hFresh]
    constructor
    · rintro (⟨c, hOut, hKey⟩ | hKey)
      · exact ⟨c, .inr hOut, hKey⟩
      · exact ⟨a, .inl rfl, hKey⟩
    · rintro ⟨c, rfl | hOut, hKey⟩
      · exact .inr hKey
      · exact .inl ⟨c, hOut, hKey⟩

/- The return of an outstanding identity stays sound. -/
theorem Sound.release (hSound : Sound keys b) (hOut : Outstanding b a) :
    Sound keys ⟨b.granted, a :: b.returned, b.active \ keys a⟩ := by
  constructor
  · exact hSound.granted_nodup
  · intro c hReturned
    rcases mem_cons.mp hReturned with rfl | hOld
    · exact hOut.1
    · exact hSound.returned_granted c hOld
  · intro c c' hLeft hRight hNe
    rw [outstanding_release] at hLeft hRight
    exact hSound.apart c c' hLeft.2 hRight.2 hNe
  · intro k
    simp only [Finset.mem_sdiff, hSound.active_iff, outstanding_release]
    constructor
    · rintro ⟨⟨c, hOld, hKey⟩, hNot⟩
      refine ⟨c, ⟨?_, hOld⟩, hKey⟩
      rintro rfl
      exact hNot hKey
    · rintro ⟨c, ⟨hNe, hOld⟩, hKey⟩
      refine ⟨⟨c, hOld, hKey⟩, ?_⟩
      exact Finset.disjoint_left.mp (hSound.apart c a hOld hOut hNe) hKey

/- A step keeps the book sound. -/
theorem Sound.step (hSound : Sound keys b) (hStep : Step keys b b') : Sound keys b' := by
  cases hStep with
  | keep hSame =>
    rw [hSame]
    exact hSound
  | grant a hFresh hFree hNext =>
    rw [hNext]
    exact hSound.grant hFresh hFree
  | release a hOut hNext =>
    rw [hNext]
    exact hSound.release hOut

end KeyLease
