import AutoGpt.HmeMailbox.Model
import Mathlib.Data.List.Basic

/-
  The baseline of an HME mailbox over any sequence of calls:
  when the ids of all scans tell the messages apart, no wait
  returns a message of the baseline and none skips a message
  because of another one.

  Main theorems: `wait_for_code_sound`, `baseline_respected`
-/

open Machine (run)
open List

----
-- One Wait
----

namespace HmeMailbox

variable {Detail : Type}
variable {cfg : Config Detail} {server : Server Detail}
/- The seen ids are those the wait was given and those of the messages that it met; it skipped only
   messages with such ids, and it looked only at what was listed. -/
structure Wait.Sound (before : List String) (w : Wait) : Prop where
  seen : ∀ id, id ∈ w.seen ↔ id ∈ before ∨ ∃ e ∈ w.met, e.scoped = id
  met_listed : ∀ e ∈ w.met, e ∈ w.listed
  skipped_listed : ∀ e ∈ w.skipped, e ∈ w.listed
  skipped_seen : ∀ e ∈ w.skipped, e.scoped ∈ w.seen

/- A hit is a listed message whose id the wait was not given. -/
def Ended.Sound (before : List String) (w : Wait) (ended : Ended) : Prop :=
  ∀ e, ended.entry = some e → e ∈ w.listed ∧ e.scoped ∉ before

/- Sets that the bookkeeping of mailboxes leaves alone. -/
structure SameMessages (w w' : Wait) : Prop where
  seen : w'.seen = w.seen
  listed : w'.listed = w.listed
  met : w'.met = w.met
  skipped : w'.skipped = w.skipped

theorem Wait.Sound.congr {w w' : Wait} (hSound : w.Sound before) (hSame : SameMessages w w') :
    w'.Sound before := by
  constructor
  · rw [hSame.seen, hSame.met]
    exact hSound.seen
  · rw [hSame.met, hSame.listed]
    exact hSound.met_listed
  · rw [hSame.skipped, hSame.listed]
    exact hSound.skipped_listed
  · rw [hSame.skipped, hSame.seen]
    exact hSound.skipped_seen

theorem rebind_same (w : Wait) (b : Box) (mailbox_id : String) :
    SameMessages w (rebind_after_not_found cfg server w b mailbox_id).1 := by
  unfold rebind_after_not_found
  dsimp only
  split
  · exact ⟨rfl, rfl, rfl, rfl⟩
  · exact ⟨rfl, rfl, rfl, rfl⟩

theorem tick_same (w : Wait) : SameMessages w w.tick := ⟨rfl, rfl, rfl, rfl⟩

theorem Wait.Sound.meet {w : Wait} (hSound : w.Sound before) (hListed : e ∈ w.listed) :
    (w.meet e).Sound before := by
  unfold Wait.meet
  constructor
  · intro id
    simp only [mem_append, mem_singleton, hSound.seen id]
    constructor
    · rintro ((hGiven | ⟨e', he', hId⟩) | hNew)
      · exact .inl hGiven
      · exact .inr ⟨e', .inl he', hId⟩
      · exact .inr ⟨e, .inr rfl, hNew.symm⟩
    · rintro (hGiven | ⟨e', he' | he', hId⟩)
      · exact .inl (.inl hGiven)
      · exact .inl (.inr ⟨e', he', hId⟩)
      · exact .inr (he' ▸ hId.symm)
  · intro e' he'
    rcases mem_append.mp he' with hOld | hNew
    · exact hSound.met_listed e' hOld
    · rw [mem_singleton.mp hNew]
      exact hListed
  · exact hSound.skipped_listed
  · intro e' he'
    exact mem_append_left _ (hSound.skipped_seen e' he')

theorem Wait.Sound.skip {w : Wait} (hSound : w.Sound before) (hListed : e ∈ w.listed)
    (hSeen : e.scoped ∈ w.seen) :
    ({ w with skipped := w.skipped ++ [e] } : Wait).Sound
      before := by
  constructor
  · exact hSound.seen
  · exact hSound.met_listed
  · intro e' he'
    rcases mem_append.mp he' with hOld | hNew
    · exact hSound.skipped_listed e' hOld
    · rw [mem_singleton.mp hNew]
      exact hListed
  · intro e' he'
    rcases mem_append.mp he' with hOld | hNew
    · exact hSound.skipped_seen e' hOld
    · rw [mem_singleton.mp hNew]
      exact hSeen

theorem Wait.Sound.list {w : Wait} (hSound : w.Sound before) (es : List Entry) :
    ({ w.tick with listed := w.listed ++ es } : Wait).Sound
      before := by
  constructor
  · exact hSound.seen
  · intro e he
    exact mem_append_left _ (hSound.met_listed e he)
  · intro e he
    exact mem_append_left _ (hSound.skipped_listed e he)
  · exact hSound.skipped_seen

theorem seen_of_skip {e : Entry} {seen : List String}
    (hSkip : e.scoped ∈ seen ∨ (e.namespaced = false ∧ e.raw ∈ seen)) : e.scoped ∈ seen := by
  rcases hSkip with hScoped | ⟨hPlain, hRaw⟩
  · exact hScoped
  · unfold Entry.scoped
    rw [if_neg (by simp [hPlain])]
    exact hRaw

theorem poll_mails_sound (p : WaitParams) (b : Box) {es : List Entry} {w : Wait}
    (hSound : w.Sound before) (hListed : ∀ e ∈ es, e ∈ w.listed) :
    (poll_mails cfg server p b es w).1.Sound before ∧
      (poll_mails cfg server p b es w).2.Sound before (poll_mails cfg server p b es w).1 := by
  induction es generalizing w with
  | nil =>
    refine ⟨hSound, ?_⟩
    intro e hHit
    cases hHit
  | cons e es ih =>
    have hHead := hListed e mem_cons_self
    have hTail : ∀ e' ∈ es, e' ∈ w.listed := fun e' he' => hListed e' (mem_cons_of_mem _ he')
    unfold poll_mails
    by_cases hSkip : e.scoped ∈ w.seen ∨ (e.namespaced = false ∧ e.raw ∈ w.seen)
    · rw [if_pos hSkip]
      exact ih (hSound.skip hHead (seen_of_skip hSkip)) hTail
    · rw [if_neg hSkip]
      have hNew : e.scoped ∉ w.seen := fun h => hSkip (.inl h)
      have hMet : (w.tick.meet e).Sound before := (hSound.congr (tick_same w)).meet hHead
      split
      · refine ⟨(hSound.congr (tick_same w)).congr (rebind_same _ _ _), ?_⟩
        intro e' hHit
        cases hHit
      · refine ⟨hSound.congr (tick_same w), ?_⟩
        intro e' hHit
        cases hHit
      · dsimp only
        split
        · exact ih hMet hTail
        · split
          · exact ih hMet hTail
          · split
            · exact ih hMet hTail
            · refine ⟨hMet.congr ⟨rfl, rfl, rfl, rfl⟩, ?_⟩
              intro e' hHit
              cases hHit
              refine ⟨hHead, fun hGiven => hNew ?_⟩
              exact (hSound.seen _).mpr (.inl hGiven)

theorem poll_boxes_sound (p : WaitParams) (namespaced : Bool)
    (bs : List Box) (retry_requested : Bool) {w : Wait} (hSound : w.Sound before) :
    (poll_boxes cfg server p namespaced bs retry_requested w).1.Sound before ∧
      (poll_boxes cfg server p namespaced bs retry_requested w).2.Sound before
        (poll_boxes cfg server p namespaced bs retry_requested w).1 := by
  induction bs generalizing retry_requested w with
  | nil =>
    refine ⟨hSound, ?_⟩
    intro e hHit
    cases hHit
  | cons b bs ih =>
    unfold poll_boxes
    dsimp only
    split
    · exact ih _ hSound
    · split
      · refine ⟨hSound.congr (tick_same w), ?_⟩
        intro e hHit
        cases hHit
      · exact ih _ ((hSound.congr (tick_same w)).congr (rebind_same _ _ _))
      next all _ =>
        have hMails := @poll_mails_sound _ cfg server _ p b _ _
            (hSound.list (listing (PyText.strip b.account_id) namespaced all))
            (fun e he => mem_append_right _ he)
        split
        next w' retry hEnded =>
          rw [hEnded] at hMails
          split
          · refine ⟨hMails.1, ?_⟩
            intro e hHit
            cases hHit
          · exact ih _ hMails.1
        · exact hMails

theorem poll_pass_sound (p : WaitParams) {w : Wait} (hSound : w.Sound before) :
    (poll_pass cfg server p w).1.Sound before ∧
      (poll_pass cfg server p w).2.Sound before (poll_pass cfg server p w).1 := by
  unfold poll_pass
  split
  · refine ⟨hSound.congr ⟨rfl, rfl, rfl, rfl⟩, ?_⟩
    intro e hHit
    cases hHit
  · exact poll_boxes_sound p _ _ _ (hSound.congr ⟨rfl, rfl, rfl, rfl⟩)

theorem poll_once_sound (p : WaitParams) {w : Wait} (hSound : w.Sound before) :
    (poll_once cfg server p w).1.Sound before ∧
      (poll_once cfg server p w).2.Sound before (poll_once cfg server p w).1 := by
  have hFirst := @poll_pass_sound _ cfg server _ p _ hSound
  unfold poll_once
  split
  next w' hEnded =>
    rw [hEnded] at hFirst
    exact poll_pass_sound p hFirst.1
  · exact hFirst

theorem poll_until_sound (p : WaitParams) (polls : Nat) (hSound : w.Sound before) :
    (poll_until cfg server p polls w).1.Sound before ∧
      (poll_until cfg server p polls w).2.Sound before (poll_until cfg server p polls w).1 := by
  induction polls generalizing w with
  | zero =>
    refine ⟨hSound, ?_⟩
    intro e hHit
    cases hHit
  | succ polls ih =>
    have hOnce := @poll_once_sound _ cfg server _ p _ hSound
    unfold poll_until
    split
    next w' _ hEnded =>
      rw [hEnded] at hOnce
      exact ih hOnce.1
    · exact hOnce

theorem wait_for_code_sound (p : WaitParams) (before : List String) (c : Client) :
    (wait_for_code cfg server p before c).1.Sound before ∧
      (wait_for_code cfg server p before c).2.Sound before
        (wait_for_code cfg server p before c).1 := by
  apply poll_until_sound
  constructor
  · intro id
    simp
  · intro e he
    cases he
  · intro e he
    cases he
  · intro e he
    cases he

----
-- Session Invariant
----

/- What the baseline of a wait listed or recorded. -/
def WaitReport.baseline (r : WaitReport) : List Entry := baseline_entries r.contents ++ r.recorded

/- A wait returned only what it listed outside of the ids of its baseline, and it skipped only for
   an id of the baseline or of a message that it had met. -/
structure WaitReport.Kept (r : WaitReport) : Prop where
  hit_listed : ∀ e, r.hit = some e → e ∈ r.listed
  hit_new : ∀ e, r.hit = some e → ∀ e' ∈ r.baseline, e'.scoped ≠ e.scoped
  met_listed : ∀ e ∈ r.met, e ∈ r.listed
  skipped_listed : ∀ e ∈ r.skipped, e ∈ r.listed
  skipped_seen : ∀ e ∈ r.skipped, ∃ e' ∈ r.baseline ++ r.met, e'.scoped = e.scoped

/- What the session has listed covers all its waits. -/
structure Session.Kept (s : Session) : Prop where
  contents_listed : ∀ e ∈ baseline_entries s.contents, e ∈ s.listed
  recorded_listed : ∀ e ∈ s.recorded, e ∈ s.listed
  kept : ∀ r ∈ s.waits, r.Kept
  wait_contents : ∀ r ∈ s.waits, r.contents ⊆ s.contents
  wait_baseline : ∀ r ∈ s.waits, r.baseline ⊆ s.listed
  wait_listed : ∀ r ∈ s.waits, r.listed ⊆ s.listed

theorem newSession_kept (c : Client) : (newSession c).Kept := by
  constructor
  all_goals
    intro x hx
    cases hx

theorem Session.Kept.scanned (hKept : s.Kept) :
    (sessionStep cfg server s .get_current_ids).1.Kept := by
  unfold sessionStep
  constructor
  · intro e he
    dsimp only at he ⊢
    split at he
    · exact mem_append_left _ (hKept.contents_listed e he)
    · unfold baseline_entries at he
      rw [flatMap_append] at he
      rcases mem_append.mp he with hOld | hNew
      · exact mem_append_left _ (hKept.contents_listed e hOld)
      · exact mem_append_right _ hNew
  · intro e he
    exact mem_append_left _ (hKept.recorded_listed e he)
  · exact hKept.kept
  · intro r hr x hx
    have hOld := hKept.wait_contents r hr hx
    dsimp only
    split
    · exact hOld
    · exact mem_append_left _ hOld
  · intro r hr e he
    exact mem_append_left _ (hKept.wait_baseline r hr he)
  · intro r hr e he
    exact mem_append_left _ (hKept.wait_listed r hr he)

theorem report_kept (p : WaitParams) (contents : List Content) (recorded : List Entry) (c : Client)
    (hWait : wait = wait_for_code cfg server p
        ((baseline_entries contents ++ recorded).map Entry.scoped) c) :
    WaitReport.Kept
      { contents := contents, recorded := recorded, listed := wait.1.listed, met := wait.1.met,
        skipped := wait.1.skipped, hit := wait.2.entry } := by
  have hSound :=
    @wait_for_code_sound _ cfg server p ((baseline_entries contents ++ recorded).map Entry.scoped) c
  rw [← hWait] at hSound
  constructor
  · intro e hHit
    exact (hSound.2 e hHit).1
  · intro e hHit e' he' hId
    exact (hSound.2 e hHit).2 (mem_map.mpr ⟨e', he', hId⟩)
  · exact hSound.1.met_listed
  · exact hSound.1.skipped_listed
  · intro e he
    rcases (hSound.1.seen _).mp
        (hSound.1.skipped_seen e he) with
      hGiven | ⟨e', he', hId⟩
    · rcases mem_map.mp hGiven with ⟨e', he', hId⟩
      exact ⟨e', mem_append_left _ he', hId⟩
    · exact ⟨e', mem_append_right _ he', hId⟩

theorem Session.Kept.waited (hKept : s.Kept) (p : WaitParams) :
    (sessionStep cfg server s (.wait_for_code p)).1.Kept := by
  have hReport := report_kept p s.contents s.recorded s.client
      (rfl : _ = wait_for_code cfg server p s.before_ids s.client)
  constructor
  · intro e he
    exact mem_append_left _ (hKept.contents_listed e he)
  · intro e he
    rcases mem_append.mp he with hOld | hNew
    · exact mem_append_left _ (hKept.recorded_listed e hOld)
    · exact mem_append_right _ (hReport.hit_listed e (Option.mem_toList.mp hNew))
  · intro r hr
    rcases mem_append.mp hr with hOld | hNew
    · exact hKept.kept r hOld
    · rw [mem_singleton.mp hNew]
      exact hReport
  · intro r hr
    rcases mem_append.mp hr with hOld | hNew
    · exact hKept.wait_contents r hOld
    · rw [mem_singleton.mp hNew]
      exact List.Subset.refl _
  · intro r hr e he
    rcases mem_append.mp hr with hOld | hNew
    · exact mem_append_left _ (hKept.wait_baseline r hOld he)
    · rw [mem_singleton.mp hNew] at he
      rcases mem_append.mp he with hScan | hRecorded
      · exact mem_append_left _ (hKept.contents_listed e hScan)
      · exact mem_append_left _ (hKept.recorded_listed e hRecorded)
  · intro r hr e he
    rcases mem_append.mp hr with hOld | hNew
    · exact mem_append_left _ (hKept.wait_listed r hOld he)
    · rw [mem_singleton.mp hNew] at he
      exact mem_append_right _ he

theorem sessionStep_kept (s : Session) (call : Call) (hKept : s.Kept) :
    (sessionStep cfg server s call).1.Kept := by
  cases call with
  | get_current_ids => exact hKept.scanned
  | wait_for_code p => exact hKept.waited p
  | changed c => exact ⟨hKept.contents_listed, hKept.recorded_listed,
          hKept.kept, hKept.wait_contents, hKept.wait_baseline, hKept.wait_listed⟩

theorem session_kept (c : Client) (calls : List Call) :
    (run (sessionStep cfg server) (newSession c) calls).Kept :=
  Machine.run_induction (fun s call hKept => sessionStep_kept s call hKept)
    (newSession_kept c) calls

----
-- Ids That Tell Messages Apart
----

/- The scans of a session name the messages apart: a baseline fits on a page; no mailbox id holds
   the separator and none begins a raw id; a raw id stays with its message; a message is scanned
   always with or always without a namespace; and of two mailboxes with the same raw id one at least
   is scanned with it. -/
structure Steady (s : Session) : Prop where
  page : ∀ x ∈ s.contents, x.all.length ≤ page_size
  mailbox : ∀ e ∈ s.listed, ':' ∉ e.mailbox.toList
  raw : ∀ e ∈ s.listed, ∀ e' ∈ s.listed,
      e'.namespaced = false → ¬ (e.mailbox ++ ":").toList <+: e'.raw.toList
  own_id : ∀ e ∈ s.listed, ∀ e' ∈ s.listed,
      e.mailbox = e'.mailbox → (e.raw = e'.raw ↔ e.mail.uid = e'.mail.uid)
  alike : ∀ e ∈ s.listed, ∀ e' ∈ s.listed, e.message = e'.message → e.namespaced = e'.namespaced
  apart : ∀ e ∈ s.listed, ∀ e' ∈ s.listed,
      e.mailbox ≠ e'.mailbox → e.raw = e'.raw → e.namespaced ∨ e'.namespaced

/- A wait respected its baseline: its hit was in no mailbox when the baseline was taken and is not a
   recorded one, and what it skipped was, or had been met in the same wait. -/
structure Respected (r : WaitReport) : Prop where
  hit_absent :
    ∀ e, r.hit = some e → ∀ x ∈ r.contents, ∀ mail ∈ x.all, (x.mailbox, mail.uid) ≠ e.message
  hit_unrecorded : ∀ e, r.hit = some e → ∀ e' ∈ r.recorded, e'.message ≠ e.message
  skipped_known : ∀ e ∈ r.skipped, ∃ e' ∈ r.baseline ++ r.met, e'.message = e.message

theorem split_inj (ha : sep ∉ as) (hb : sep ∉ bs)
    (hEq : as ++ sep :: xs = bs ++ sep :: ys) : as = bs ∧ xs = ys := by
  induction as generalizing bs with
  | nil =>
    cases bs with
    | nil => exact ⟨rfl, (cons.inj hEq).2⟩
    | cons b bs => exact absurd ((cons.inj hEq).1 ▸ mem_cons_self) hb
  | cons a as ih =>
    cases bs with
    | nil => exact absurd ((cons.inj hEq).1 ▸ mem_cons_self) ha
    | cons b bs =>
      have hParts := cons.inj hEq
      have hRest := ih (fun h => ha (mem_cons_of_mem _ h))
          (fun h => hb (mem_cons_of_mem _ h)) hParts.2
      exact ⟨by rw [hParts.1, hRest.1], hRest.2⟩

theorem namespaced_inj (ha : ':' ∉ a.toList) (hb : ':' ∉ b.toList)
    (hEq : a ++ ":" ++ x = b ++ ":" ++ y) : a = b ∧ x = y := by
  have hChars : a.toList ++ ':' :: x.toList = b.toList ++ ':' :: y.toList := by
    have hLists := congrArg String.toList hEq
    simpa using hLists
  have hParts := split_inj ha hb hChars
  exact ⟨String.toList_inj.mp hParts.1, String.toList_inj.mp hParts.2⟩

theorem prefix_of_namespaced (mailbox raw : String) :
    (mailbox ++ ":").toList <+: (mailbox ++ ":" ++ raw).toList := by
  have hSplit : (mailbox ++ ":" ++ raw).toList = (mailbox ++ ":").toList ++ raw.toList :=
    String.toList_append
  exact ⟨raw.toList, hSplit.symm⟩

theorem message_of_scoped (hSteady : Steady s)
    (he : e ∈ s.listed) (he' : e' ∈ s.listed) (hId : e.scoped = e'.scoped) :
    e.message = e'.message := by
  unfold Entry.scoped at hId
  unfold Entry.message
  cases hFlag : e.namespaced with
  | true =>
    cases hFlag' : e'.namespaced with
    | true =>
      rw [hFlag, hFlag', if_pos rfl, if_pos rfl] at hId
      have hParts := namespaced_inj (hSteady.mailbox e he) (hSteady.mailbox e' he') hId
      rw [hParts.1, (hSteady.own_id e he e' he' hParts.1).mp hParts.2]
    | false =>
      exfalso
      apply hSteady.raw e he e' he' hFlag'
      rw [hFlag, hFlag', if_pos rfl, if_neg Bool.false_ne_true] at hId
      rw [← hId]
      exact prefix_of_namespaced _ _
  | false =>
    cases hFlag' : e'.namespaced with
    | true =>
      exfalso
      apply hSteady.raw e' he' e he hFlag
      rw [hFlag, hFlag', if_pos rfl, if_neg Bool.false_ne_true] at hId
      rw [hId]
      exact prefix_of_namespaced _ _
    | false =>
      rw [hFlag, hFlag', if_neg Bool.false_ne_true, if_neg Bool.false_ne_true] at hId
      have hSame : e.mailbox = e'.mailbox := by
        by_contra hOther
        rcases hSteady.apart e he e' he' hOther hId with hOne | hOne
        · rw [hFlag] at hOne
          cases hOne
        · rw [hFlag'] at hOne
          cases hOne
      rw [hSame, (hSteady.own_id e he e' he' hSame).mp hId]

theorem scoped_of_message (hSteady : Steady s)
    (he : e ∈ s.listed) (he' : e' ∈ s.listed) (hMessage : e.message = e'.message) :
    e.scoped = e'.scoped := by
  have hFlag := hSteady.alike e he e' he' hMessage
  have hMailbox : e.mailbox = e'.mailbox := congrArg Prod.fst hMessage
  have hUid : e.mail.uid = e'.mail.uid := congrArg Prod.snd hMessage
  have hRaw := (hSteady.own_id e he e' he' hMailbox).mpr hUid
  unfold Entry.scoped
  rw [hFlag, hMailbox, hRaw]

theorem exists_listed
    (hPage : x.all.length ≤ page_size) (hContent : x ∈ contents) (hMail : mail ∈ x.all) :
    ∃ e ∈ baseline_entries contents, e.message = (x.mailbox, mail.uid) := by
  rcases mem_iff_getElem.mp hMail with ⟨i, hi, hAt⟩
  have hTake : x.all.take page_size = x.all := take_of_length_le hPage
  have hListed : (⟨x.mailbox, x.namespaced, mail.message_id i, mail⟩ :
        Entry) ∈ listing x.mailbox x.namespaced x.all := by
    unfold listing
    rw [hTake]
    apply mem_map.mpr
    refine ⟨(mail, i), ?_, rfl⟩
    rw [mem_zipIdx_iff_getElem?]
    rw [← hAt]
    exact getElem?_eq_getElem hi
  exact ⟨_, mem_flatMap.mpr ⟨x, hContent, hListed⟩, rfl⟩

theorem respected_of_kept (hKept : s.Kept) (hSteady : Steady s)
    (hWait : r ∈ s.waits) : Respected r := by
  have hReport := hKept.kept r hWait
  have hBaseline := hKept.wait_baseline r hWait
  have hListed := hKept.wait_listed r hWait
  constructor
  · intro e hHit x hx mail hMail hSame
    have hPage := hSteady.page x (hKept.wait_contents r hWait hx)
    rcases exists_listed hPage hx hMail with ⟨e', he', hMessage⟩
    have hIn : e' ∈ r.baseline := mem_append_left _ he'
    apply hReport.hit_new e hHit e' hIn
    exact scoped_of_message hSteady (hBaseline hIn) (hListed (hReport.hit_listed e hHit))
        (hMessage.trans hSame)
  · intro e hHit e' he' hSame
    have hIn : e' ∈ r.baseline := mem_append_right _ he'
    apply hReport.hit_new e hHit e' hIn
    exact scoped_of_message hSteady (hBaseline hIn) (hListed (hReport.hit_listed e hHit)) hSame
  · intro e he
    rcases hReport.skipped_seen e he with ⟨e', he', hId⟩
    refine ⟨e', he', ?_⟩
    have hIn : e' ∈ s.listed := by
      rcases mem_append.mp he' with hOld | hMet
      · exact hBaseline hOld
      · exact hListed (hReport.met_listed e' hMet)
    exact message_of_scoped hSteady hIn (hListed (hReport.skipped_listed e he)) hId

/- Over any sequence of calls whose scans name the messages apart, every wait respects its baseline.
   -/
theorem baseline_respected (cfg : Config Detail) (server : Server Detail)
    (c : Client) (calls : List Call)
    (hSteady : Steady (run (sessionStep cfg server) (newSession c) calls)) :
    ∀ r ∈ (run (sessionStep cfg server) (newSession c) calls).waits, Respected r :=
  fun _ hWait => respected_of_kept (session_kept c calls) hSteady hWait

/- Every message matches the alias and has a code. -/
def sampleConfig : Config Unit where
  lower := id
  icloud_forward_to := ""
  icloud_forward_tos := []
  matches_alias := fun _ => true
  safe_extract := fun _ _ => some "123456"

/- Mailboxes `ma` and `mb` of two forward addresses; `mb` has an old message and, from the arrival
   time, a new one. -/
def sampleServer (arrival : Nat) : Server Unit where
  ensure_mailbox_by_email := fun _ email => some ⟨email, if email = "a@x" then "ma" else "mb"⟩
  list_emails := fun time mailbox =>
    if mailbox = "ma" then .mails []
    else if time < arrival then .mails [⟨0, "1", "", none⟩]
    else .mails [⟨0, "1", "", none⟩, ⟨1, "2", "", none⟩]
  get_email_detail := fun _ _ _ => .found ()

/- An account that is bound to `mailbox_id`, or to none. -/
def sampleClient (mailbox_id : String) : Client where
  forward_mailbox_id := mailbox_id
  forward_to := "a@x,b@x"
  nested_forward_to := ""
  by_email := fun _ => none
  accounts := []
  clock := 0

def samplePoll : WaitParams where
  otp_sent_at := none
  exclude_codes := []
  polls := 1

def sampleSession (arrival : Nat) (mailbox_id : String) : Session :=
  run (sessionStep sampleConfig (sampleServer arrival)) (newSession (sampleClient mailbox_id))
    [.get_current_ids, .wait_for_code samplePoll, .wait_for_code samplePoll]

theorem sample_steady : Steady (sampleSession 1 "mb") := by
  have hListed : ∀ e ∈ (sampleSession 1 "mb").listed, e = ⟨"mb", false, "1", ⟨0, "1", "", none⟩⟩ ∨
          e = ⟨"mb", false, "2", ⟨1, "2", "", none⟩⟩ := by
    decide +kernel
  constructor
  · decide +kernel
  · decide +kernel
  · intro e _ e' he' _
    rintro ⟨rest, hRest⟩
    have hSep : ':' ∈ e'.raw.toList := by
      rw [← hRest]
      simp
    rcases hListed e' he' with rfl | rfl
    · revert hSep
      decide
    · revert hSep
      decide
  · intro e he e' he' _
    rcases hListed e he with rfl | rfl
    · rcases hListed e' he' with rfl | rfl
      · decide
      · decide
    · rcases hListed e' he' with rfl | rfl
      · decide
      · decide
  · intro e he e' he' _
    rcases hListed e he with rfl | rfl
    · rcases hListed e' he' with rfl | rfl
      · rfl
      · rfl
    · rcases hListed e' he' with rfl | rfl
      · rfl
      · rfl
  · intro e he e' he' hOther
    exfalso
    apply hOther
    rcases hListed e he with rfl | rfl
    · rcases hListed e' he' with rfl | rfl
      · rfl
      · rfl
    · rcases hListed e' he' with rfl | rfl
      · rfl
      · rfl

/- A bound account gets the message that came later. -/
theorem bound_mailbox_respected :
    (∃ r ∈ (sampleSession 1 "mb").waits, r.hit.map Entry.message = some ("mb", 1)) ∧
    (∀ r ∈ (sampleSession 1 "mb").waits, Respected r) :=
  ⟨by decide +kernel,
    baseline_respected sampleConfig (sampleServer 1) (sampleClient "mb") _ sample_steady⟩

/- Two forward addresses: the first hit binds the account to one mailbox, and the next wait, which
   has the ids of the baseline with a namespace, returns a message of it. -/
theorem bound_after_hit_returns_old :
    ¬ (∀ (cfg : Config Unit) (server : Server Unit) (c : Client) (calls : List Call),
        ∀ r ∈ (run (sessionStep cfg server) (newSession c) calls).waits, Respected r) := by
  intro hAll
  have hOld : ∃ r ∈ (sampleSession 4 "").waits, ∃ e ∈ r.hit.toList,
          ∃ x ∈ r.contents, ∃ mail ∈ x.all, (x.mailbox, mail.uid) = e.message := by
    decide +kernel
  rcases hOld with ⟨r, hr, e, he, x, hx, mail, hMail, hSame⟩
  have hRespected := hAll sampleConfig (sampleServer 4) (sampleClient "")
      [.get_current_ids, .wait_for_code samplePoll, .wait_for_code samplePoll] r hr
  exact hRespected.hit_absent e (Option.mem_toList.mp he) x hx mail hMail hSame

end HmeMailbox
