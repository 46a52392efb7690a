import AutoGpt.PaymentLinks.Cleanup
import Mathlib

/-
  The daily rollover of PIX links: the deadline of a link is
  the next eleven o'clock in Beijing, the cutoff of a cleanup
  the last one.

  Main theorems: `schedule_next`, `cutoff_latest`, `pix_rollover_cut`
-/

----
-- Rollovers
----

namespace PaymentLinks

/- Eleven o'clock of some date in Beijing. -/
def IsRollover (t : Int) : Prop := ∃ date, t = daily_expiry date

theorem IsRollover.eq_or_day_apart (hA : IsRollover a) (hB : IsRollover b)
    (hLe : a ≤ b) : a = b ∨ a + hours 24 ≤ b := by
  rcases hA with ⟨first, rfl⟩
  rcases hB with ⟨second, rfl⟩
  unfold daily_expiry hours at *
  omega

theorem schedule_next (g : Int) :
    IsRollover (pix_schedule_expires_at g) ∧ g < pix_schedule_expires_at g ∧
      pix_schedule_expires_at g ≤ g + hours 24 := by
  unfold pix_schedule_expires_at
  split
  · next hPast =>
    refine ⟨⟨_, rfl⟩, ?_⟩
    unfold daily_expiry beijing_time beijing_date PIX_DAILY_EXPIRY_TIME hours at *
    omega
  · next hBefore =>
    refine ⟨⟨_, rfl⟩, ?_⟩
    unfold daily_expiry beijing_time beijing_date PIX_DAILY_EXPIRY_TIME hours at *
    omega

theorem cutoff_latest (n : Int) :
    IsRollover (latest_pix_expiry_cutoff n) ∧ latest_pix_expiry_cutoff n ≤ n ∧
      n < latest_pix_expiry_cutoff n + hours 24 := by
  refine ⟨?_, latest_pix_expiry_cutoff_bounds n⟩
  unfold latest_pix_expiry_cutoff
  split
  · exact ⟨_, rfl⟩
  · exact ⟨_, rfl⟩

/- Rollovers lie a day apart, so the cutoff is either before
   the deadline by a day or not before it at all. -/
theorem expires_le_iff (g n : Int) :
    pix_schedule_expires_at g ≤ n ↔ g < latest_pix_expiry_cutoff n := by
  rcases schedule_next g with ⟨hDeadline, hAfter, hDay⟩
  rcases cutoff_latest n with ⟨hCutoff, hReached, hNow⟩
  rcases lt_or_ge (latest_pix_expiry_cutoff n) (pix_schedule_expires_at g) with hEarly | hLate
  · have hApart := (hCutoff.eq_or_day_apart hDeadline hEarly.le).resolve_left hEarly.ne
    exact iff_of_false (by omega) (by omega)
  · exact iff_of_true (by omega) (by omega)

----
-- The Cut
----

/- A link is past its deadline just when it was generated before the cutoff, also for what a payload
   holds as its time; the deadline comes within a day, later for later links, and what is due stays
   due. -/
theorem pix_rollover_cut :
    (∀ g n, pix_schedule_expires_at g ≤ n ↔ g < latest_pix_expiry_cutoff n) ∧
      (∀ (env : ScanEnv) (v : Value) (n : Int),
        due ((utc_datetime env v).map pix_schedule_expires_at) (some n) =
          (utc_datetime env v).any (· < latest_pix_expiry_cutoff n)) ∧
      (∀ g, g < pix_schedule_expires_at g ∧ pix_schedule_expires_at g ≤ g + hours 24) ∧
      Monotone pix_schedule_expires_at ∧
      ∀ g, Monotone (fun n => due (some (pix_schedule_expires_at g)) (some n)) := by
  refine ⟨expires_le_iff, ?_, fun g => (schedule_next g).2, ?_, ?_⟩
  · intro env v n
    cases utc_datetime env v with
    | none => rfl
    | some g => exact decide_eq_decide.mpr (expires_le_iff g n)
  · intro first second hLe
    rw [expires_le_iff]
    have hCut := (expires_le_iff second (pix_schedule_expires_at second)).mp le_rfl
    omega
  · intro g first second hLe hDue
    have hDeadline : pix_schedule_expires_at g ≤ first := of_decide_eq_true hDue
    exact decide_eq_true (hDeadline.trans hLe)

end PaymentLinks
