import Mathlib.Logic.Relation

/-
  Allocations: partial maps from holders to contents, where
  each content carries the name of the resource it uses. An
  allocation may only ever give an unused resource to a
  holder that has none.

  Key definitions: `Allocation`, `Allocation.Exclusive`, `Allocation.Extends`

  The rules used by clients are:
    * `Allocation.Step.exclusive`
    * `Allocation.Step.extends`
-/

/- The content that each holder has, if any. -/
abbrev Allocation (Holder Content : Type) := Holder → Option Content

namespace Allocation

variable {Holder Content Resource : Type}

/- No two holders use one resource. -/
def Exclusive (resource : Content → Resource) (m : Allocation Holder Content) : Prop :=
  ∀ h h' c c', m h = some c → m h' = some c' → resource c = resource c' → h = h'

/- Every holder keeps what it has. -/
def Extends (m m' : Allocation Holder Content) : Prop := ∀ h c, m h = some c → m' h = some c

/- One step: nothing changes, or one holder without content gets a resource that no holder uses. -/
inductive Step (resource : Content → Resource) (m m' : Allocation Holder Content) : Prop where
| keep (hSame : ∀ h, m' h = m h)
| assign
    (holder : Holder) (content : Content) (hNone : m holder = none)
    (hFree : ∀ h c, m h = some c → resource c ≠ resource content) (hSelf : m' holder = some content)
    (hOther : ∀ h, h ≠ holder → m' h = m h)

theorem Extends.refl (m : Allocation Holder Content) : Extends m m := fun _ _ h => h

theorem Extends.trans {m m' m'' : Allocation Holder Content} (hLeft : Extends m m')
    (hRight : Extends m' m'') : Extends m m'' :=
  fun h c hc => hRight h c (hLeft h c hc)

variable {m m' : Allocation Holder Content}

/- A step takes nothing back. -/
theorem Step.extends (hStep : Step resource m m') : Extends m m' := by
  intro h c hc
  cases hStep with
  | keep hSame => rw [hSame h, hc]
  | assign holder content hNone hFree hSelf hOther =>
    by_cases hHolder : h = holder
    · rw [hHolder, hNone] at hc
      cases hc
    · rw [hOther h hHolder, hc]

/- After an assignment every other content is an old one. -/
theorem old_or_new_of_assign
    (hSelf : m' holder = some content) (hOther : ∀ h, h ≠ holder → m' h = m h)
    (hc : m' h = some c) :
    (h = holder ∧ c = content) ∨ (h ≠ holder ∧ m h = some c) := by
  by_cases hHolder : h = holder
  · left
    rw [hHolder, hSelf] at hc
    cases hc
    exact ⟨hHolder, rfl⟩
  · right
    rw [hOther h hHolder] at hc
    exact ⟨hHolder, hc⟩

/- A step keeps the use of resources exclusive. -/
theorem Step.exclusive (hExclusive : Exclusive resource m) (hStep : Step resource m m') :
    Exclusive resource m' := by
  intro h h' c c' hc hc' hSame
  cases hStep with
  | keep hKeep =>
    rw [hKeep h] at hc
    rw [hKeep h'] at hc'
    exact hExclusive h h' c c' hc hc' hSame
  | assign holder content hNone hFree hSelf hOther =>
    rcases old_or_new_of_assign hSelf hOther hc with ⟨hNew, hContent⟩ | ⟨hOld, hBefore⟩
    · rcases old_or_new_of_assign hSelf hOther hc' with
        ⟨hNew', _⟩ | ⟨_, hBefore'⟩
      · rw [hNew, hNew']
      · rw [hContent] at hSame
        exact absurd hSame.symm (hFree h' c' hBefore')
    · rcases old_or_new_of_assign hSelf hOther hc' with
        ⟨_, hContent'⟩ | ⟨_, hBefore'⟩
      · rw [hContent'] at hSame
        exact absurd hSame (hFree h c hBefore)
      · exact hExclusive h h' c c' hBefore hBefore' hSame

end Allocation
