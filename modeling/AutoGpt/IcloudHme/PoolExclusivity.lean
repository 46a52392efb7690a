import AutoGpt.IcloudHme.Pool

/-
  The exclusivity of the alias pool. An alias that was handed
  out is not handed out again before its task has released it
  or reported its failure, and no claim returns an alias that
  is disabled or bound, in every run in which no writer puts
  an alias back into stock that is handed out, or spoils one
  that an unfinished claim has selected.

  Main theorems:
    * `IcloudHme.hands_out_safely`
    * `IcloudHme.hands_out_twice`
-/

open PyText (orElse strip)
open List
open KeyedTable

----
-- Stock
----

namespace IcloudHme

abbrev Alias.InStock (row : Alias) : Prop := row.status = "reserved" ∧ row.task_id = ""

abbrev Alias.Ready (row : Alias) : Prop := row.enabled ∧ row.bound_account_email = ""

abbrev NotOut (handouts : List Handout) (anonymous_id : String) : Prop :=
  ∀ h ∈ handouts, h.isOpen → h.anonymous_id ≠ anonymous_id

/- The rows that a claim has selected and not yet tried. -/
def PoolJob.selected : PoolJob → List Alias
| .claiming _ rows => rows
| _ => []

/- Some unfinished claim has selected the row id. -/
abbrev Selected (jobs : List PoolJob) (id : Nat) : Prop :=
  ∃ job ∈ jobs, ∃ row ∈ job.selected, row.id = id

theorem claimable_iff {row : Alias} {id : Nat} :
    row.claimable id ↔ row.id = id ∧ row.InStock := by
  simp [Alias.claimable, Alias.InStock, and_assoc]

/- What the pool promises: a step that answers with an alias finds it unheld, enabled and unbound.
   -/
def HandsOutSafely (env : Env) (st : JobPool.State PoolState PoolJob) (op : PoolOp) : Prop :=
  ∀ row, (JobPool.step (pool env) st op).2 = some (.finished (.claimed row)) →
      NotOut st.shared.handouts row.anonymous_id ∧ row.Ready

----
-- The Condition
----

/- The item of an import leaves the row out of stock. -/
abbrev Import.Withholds (i : Import) (item : Item) (existing : Option Alias) :
    Prop :=
  (i.item item).status ≠ "reserved" ∨ item.task_id ≠ "" ∨
    ∃ row ∈ existing, row.existingUsed ∧ row.task_id ≠ ""

/- The item and the row are enabled and unbound. -/
abbrev Item.KeepsReady (item : Item) (existing : Option Alias) : Prop :=
  item.enabled ∧ item.bound_account_email = "" ∧
    ∀ row ∈ existing, row.bound_account_email = ""

/- The id of the row that an import writes. -/
def writtenId (aliases : Aliases) (existing : Option Alias) : Nat :=
  match existing with
  | none => nextAliasId aliases
  | some row => row.id

/- The condition on a step of the writers. It puts no alias into stock that a task holds, and leaves
   none there disabled or bound that an unfinished claim has selected. -/
def Undisturbed (env : Env) (st : JobPool.State PoolState PoolJob) (_ : Unit) : PoolJob → Prop
| .importWrite i _ item _ =>
    let anonymous_id := strip item.anonymous_id
    let existing := st.shared.aliases.find? anonymous_id
    i.Withholds item existing ∨ (NotOut st.shared.handouts anonymous_id ∧
        (Selected st.jobs (writtenId st.shared.aliases existing) → item.KeepsReady existing))
| .report handout (.release _) =>
    ∀ h ∈ st.shared.handouts[handout]?,
      (h.isOpen ∨ NotOut st.shared.handouts h.anonymous_id) ∧
      ∀ row ∈ st.shared.aliases.find? h.anonymous_id, Selected st.jobs row.id → row.Ready
| .bulkEnable request =>
    ∀ row ∈ st.shared.aliases.rows, request.skips env row = false →
      row.recyclable env → NotOut st.shared.handouts row.anonymous_id
| .bulkDisableUsed forward_to =>
    ∀ row ∈ st.shared.aliases.rows,
      (strip forward_to = "" ∨ strip row.forward_to = strip forward_to) →
      row.usedBySystem → row.InStock → ¬ Selected st.jobs row.id
| _ => True

instance
    (env : Env) (st : JobPool.State PoolState PoolJob) (draw : Unit) (job : PoolJob) :
    Decidable (Undisturbed env st draw job) := by
  unfold Undisturbed
  split <;> infer_instance

----
-- Invariants
----

structure Consistent (s : PoolState) : Prop where
  ids : (s.aliases.rows.map Alias.id).Nodup
  stock : ∀ row ∈ s.aliases.rows, row.InStock → NotOut s.handouts row.anonymous_id
  held : ∀ (i j : Nat) (a b : Handout), s.handouts[i]? = some a → s.handouts[j]? = some b →
      a.isOpen → b.isOpen → a.anonymous_id = b.anonymous_id → i = j

/- What a claim knows about the rows that it has selected. -/
def PoolJob.Knows (s : PoolState) (job : PoolJob) : Prop :=
  ∀ sel ∈ job.selected, ∀ row ∈ s.aliases.rows, row.id = sel.id → row.InStock → row.Ready

/- How a write changes rows: a row in stock was there before and is as ready as it was, or nobody
   holds it and it is ready if it is selected. -/
def Admits (jobs : List PoolJob) (handouts : List Handout) (before after : Aliases) : Prop :=
  ∀ row ∈ after.rows, row.InStock → (∃ old ∈ before.rows, old.id = row.id ∧
        old.anonymous_id = row.anonymous_id ∧ old.InStock ∧ (old.Ready → row.Ready)) ∨
    (NotOut handouts row.anonymous_id ∧ (Selected jobs row.id → row.Ready))

variable {aliases : Aliases} {s : PoolState}

theorem Admits.stock {before after : Aliases} (hAdmits : Admits jobs handouts before after)
    (hStock : ∀ row ∈ before.rows, row.InStock → NotOut handouts row.anonymous_id) :
    ∀ row ∈ after.rows, row.InStock → NotOut handouts row.anonymous_id := by
  intro row hMem hIn
  rcases hAdmits row hMem hIn with ⟨old, hOld, _, hSame, hWas, _⟩ | ⟨hOut, _⟩
  · rw [← hSame]
    exact hStock old hOld hWas
  · exact hOut

theorem Admits.knows (after : PoolState)
    (hAdmits : Admits jobs handouts before.aliases after.aliases)
    (hJob : job ∈ jobs) (hKnows : job.Knows before) : job.Knows after := by
  intro sel hSel row hMem hId hIn
  rcases hAdmits row hMem hIn with ⟨old, hOld, hSame, _, hWas, hReady⟩ | ⟨_, hReady⟩
  · exact hReady (hKnows sel hSel old hOld (hSame.trans hId) hWas)
  · exact hReady ⟨job, hJob, sel, hSel, hId.symm⟩

theorem admits_updateWhere
    (hKey : ∀ row, (f row).anonymous_id = row.anonymous_id) (hId : ∀ row, (f row).id = row.id)
    (hRows : ∀ row ∈ aliases.rows, p row → (f row).InStock →
        (row.InStock ∧ (row.Ready → (f row).Ready)) ∨
        (NotOut handouts row.anonymous_id ∧ (Selected jobs row.id → (f row).Ready))) :
    Admits jobs handouts aliases (aliases.updateWhere p f hKey) := by
  intro row hMem hIn
  rcases mem_map.mp hMem with ⟨old, hOld, hIs⟩
  by_cases hHit : p old
  · rw [if_pos hHit] at hIs
    rw [← hIs] at hIn
    rw [← hIs, hKey, hId]
    rcases hRows old hOld hHit hIn with hWas | hNew
    · exact .inl ⟨old, hOld, rfl, rfl, hWas⟩
    · exact .inr hNew
  · rw [if_neg hHit] at hIs
    rw [← hIs] at hIn ⊢
    exact .inl ⟨old, hOld, rfl, rfl, hIn, id⟩

theorem ids_updateWhere {p : Alias → Bool} {f : Alias → Alias}
    (hKey : ∀ row, (f row).anonymous_id = row.anonymous_id) (hId : ∀ row, (f row).id = row.id)
    (hIds : (aliases.rows.map Alias.id).Nodup) :
    ((aliases.updateWhere p f hKey).rows.map Alias.id).Nodup := by
  have hSame : (aliases.updateWhere p f hKey).rows.map Alias.id = aliases.rows.map Alias.id := by
    unfold updateWhere
    rw [map_map]
    apply map_congr_left
    intro row _
    by_cases hHit : p row <;> simp [hHit, hId]
  rw [hSame]
  exact hIds

theorem Consistent.eq_of_id {row row' : Alias} (hConsistent : Consistent s)
    (hRow : row ∈ s.aliases.rows) (hRow' : row' ∈ s.aliases.rows) (hId : row.id = row'.id) :
    row = row' :=
  inj_on_of_nodup_map hConsistent.ids hRow hRow' hId

theorem Consistent.of_admits (hConsistent : Consistent s) (hIds : (aliases.rows.map Alias.id).Nodup)
    (hAdmits : Admits jobs s.handouts s.aliases aliases) :
    Consistent { s with aliases := aliases } where
  ids := hIds
  stock := hAdmits.stock hConsistent.stock
  held := hConsistent.held

----
-- Writers
----

theorem Import.item_status_ne (i : Import) (item : Item) : (i.item item).status ≠ "" := by
  unfold Import.item
  generalize strip (orElse item.status "reserved") = status
  by_cases hEmpty : status = "" <;>
    simp [orElse, hEmpty]

variable {i : Import}
variable {outcome : Outcome}
theorem Item.writtenTo_inStock (hIn : ((i.item item).writtenTo row).InStock) :
    ¬ i.Withholds item (some row) := by
  have hStatus := i.item_status_ne item
  rcases hIn with ⟨hReserved, hTask⟩
  simp only [Item.writtenTo] at hReserved hTask
  have hTaskIs : (i.item item).task_id = item.task_id := rfl
  rw [hTaskIs] at hTask
  intro hOut
  rcases hOut with hNot | hNot | ⟨found, hFound, hUsed, hNot⟩
  · by_cases hUsed : row.existingUsed
    · simp [hUsed, orElse, hStatus] at hReserved
      exact hNot hReserved
    · simp [hUsed, orElse, hStatus] at hReserved
      exact hNot hReserved
  · by_cases hUsed : row.existingUsed
    · simp [hUsed, orElse, hNot] at hTask
    · simp [hUsed, hNot] at hTask
  · cases hFound
    by_cases hEmpty : item.task_id = ""
    · simp [hUsed, orElse, hEmpty, hNot] at hTask
    · simp [hUsed, orElse, hEmpty] at hTask

theorem Item.newRow_inStock {id : Nat} (hIn : ((i.item item).newRow id).InStock) :
    ¬ i.Withholds item none := by
  have hStatus := i.item_status_ne item
  rcases hIn with ⟨hReserved, hTask⟩
  have hTaskIs : (i.item item).task_id = item.task_id := rfl
  simp only [Item.newRow, hTaskIs] at hReserved hTask
  intro hOut
  rcases hOut with hNot | hNot | ⟨found, hFound, _⟩
  · simp [orElse, hStatus] at hReserved
    exact hNot hReserved
  · exact hNot hTask
  · cases hFound

theorem Item.writtenTo_ready (hReady : item.KeepsReady (some row)) :
    ((i.item item).writtenTo row).Ready := by
  rcases hReady with ⟨hEnabled, hBound, hRow⟩
  have hRowBound := hRow row rfl
  have hBoundIs : (i.item item).bound_account_email = item.bound_account_email := rfl
  constructor
  · exact hEnabled
  · simp only [Item.writtenTo, hBoundIs]
    split <;> simp [orElse, hBound, hRowBound]

/- An import meets the rule for writes. -/
theorem admits_insertAlias
    (hCondition : i.Withholds item (s.aliases.find? (strip item.anonymous_id)) ∨
        (NotOut s.handouts (strip item.anonymous_id) ∧ (Selected jobs
              (writtenId s.aliases (s.aliases.find? (strip item.anonymous_id))) →
            item.KeepsReady (s.aliases.find? (strip item.anonymous_id))))) :
    Admits jobs s.handouts s.aliases (insertAlias (i.item item) s.aliases) := by
  have hIdIs : (i.item item).anonymous_id = strip item.anonymous_id := rfl
  unfold insertAlias
  rw [hIdIs]
  cases hFind : s.aliases.find? (strip item.anonymous_id) with
  | none =>
    rw [hFind] at hCondition
    have hRows := rows_insertNew s.aliases
        (r := (i.item item).newRow (nextAliasId s.aliases)) hFind
    intro row hMem hIn
    simp only [hRows] at hMem
    rcases mem_append.mp hMem with hOld | hNew
    · exact .inl ⟨row, hOld, rfl, rfl, hIn, id⟩
    · right
      rw [mem_singleton.mp hNew] at hIn ⊢
      rcases hCondition with hOut | ⟨hNotOut, hKeeps⟩
      · exact absurd hOut (Item.newRow_inStock hIn)
      · refine ⟨hNotOut, ?_⟩
        intro hSelected
        have hReady := hKeeps hSelected
        exact ⟨hReady.1, hReady.2.1⟩
  | some found =>
    rw [hFind] at hCondition
    apply admits_updateWhere
    · intro row
      rfl
    · intro row hMem hHit hIn
      have hIs : row = found := by
        have hFound := mem_of_find? hFind
        have hKey : row.anonymous_id = _ := of_decide_eq_true hHit
        exact eq_of_mem_of_key_eq hMem hFound.1 (hKey.trans hFound.2.symm)
      right
      rw [of_decide_eq_true hHit]
      rw [hIs] at hIn ⊢
      rcases hCondition with hOut | ⟨hNotOut, hKeeps⟩
      · exact absurd hOut (Item.writtenTo_inStock hIn)
      · refine ⟨hNotOut, ?_⟩
        intro hSelected
        exact Item.writtenTo_ready (hKeeps hSelected)

theorem ids_insertAlias (item : Item) (hIds : (s.aliases.rows.map Alias.id).Nodup) :
    ((insertAlias item s.aliases).rows.map Alias.id).Nodup := by
  unfold insertAlias
  cases hFind : s.aliases.find? item.anonymous_id with
  | none =>
    have hRows := rows_insertNew s.aliases (r := item.newRow (nextAliasId s.aliases)) hFind
    simp only [hRows, map_append, map_cons, map_nil]
    refine nodup_append.mpr ⟨hIds, by simp, ?_⟩
    intro id hOld other hNew hSame
    rw [mem_singleton.mp hNew] at hSame
    have hLe := le_foldr_max hOld
    have hIs : id = nextAliasId s.aliases := hSame
    unfold nextAliasId at hIs
    omega
  | some found => exact ids_updateWhere _ (fun _ => rfl) hIds

theorem Outcome.writtenTo_inStock (hIn : (outcome.writtenTo row).InStock) :
    ∃ error_message, outcome = .release error_message := by
  cases outcome with
  | release error_message => exact ⟨error_message, rfl⟩
  | success bound_account_email task_id => exact absurd hIn.1 (by simp [Outcome.writtenTo])
  | failure error_message task_id => exact absurd hIn.1 (by simp [Outcome.writtenTo])
  | deactivated error_message task_id => exact absurd hIn.1 (by simp [Outcome.writtenTo])

theorem notOut_report (hFound : handouts[handout]? = some h) (hOut : NotOut handouts anonymous_id) :
    NotOut
      (handouts.set handout { h with isOpen := h.isOpen && keeps })
      anonymous_id := by
  intro other hMem hOpen
  rcases mem_or_eq_of_mem_set hMem with hOld | hNew
  · exact hOut other hOld hOpen
  · rw [hNew] at hOpen ⊢
    exact hOut h (mem_of_getElem? hFound) (Bool.and_eq_true_iff.mp hOpen).1

theorem notOut_release (hConsistent : Consistent s) (hFound : s.handouts[handout]? = some h)
    (hMay : h.isOpen ∨ NotOut s.handouts h.anonymous_id) :
    NotOut
      (s.handouts.set handout { h with isOpen := h.isOpen && false })
      h.anonymous_id := by
  rcases hMay with hOpen | hOut
  · intro other hMem hOtherOpen hSame
    rcases getElem?_of_mem hMem with ⟨j, hOther⟩
    by_cases hIs : handout = j
    · rw [← hIs, getElem?_set_self'] at hOther
      rcases Option.map_eq_some_iff.mp hOther with ⟨_, _, hNew⟩
      rw [← hNew, Bool.and_false] at hOtherOpen
      cases hOtherOpen
    · rw [getElem?_set_ne hIs] at hOther
      exact hIs (hConsistent.held handout j h other hFound hOther hOpen hOtherOpen hSame.symm)
  · exact notOut_report hFound hOut

theorem held_report (hConsistent : Consistent s) (hFound : s.handouts[handout]? = some h)
    (i j : Nat) (a b : Handout)
    (hA : (s.handouts.set handout { h with isOpen := h.isOpen && keeps })[i]? = some a)
    (hB : (s.handouts.set handout { h with isOpen := h.isOpen && keeps })[j]? = some b)
    (hOpenA : a.isOpen) (hOpenB : b.isOpen)
    (hSame : a.anonymous_id = b.anonymous_id) : i = j := by
  have hBefore : ∀ (k : Nat) (c : Handout),
        (s.handouts.set handout { h with isOpen := h.isOpen && keeps })[k]? = some c →
        c.isOpen → ∃ old, s.handouts[k]? = some old ∧ old.isOpen ∧
            old.anonymous_id = c.anonymous_id := by
    intro k c hC hOpen
    rcases JobPool.getElem?_set_cases hC with ⟨hIs, hNew⟩ | ⟨_, hOld⟩
    · rw [hNew] at hOpen ⊢
      exact ⟨h, hIs ▸ hFound, (Bool.and_eq_true_iff.mp hOpen).1, rfl⟩
    · exact ⟨c, hOld, hOpen, rfl⟩
  rcases hBefore i a hA hOpenA with ⟨x, hX, hOpenX, hIsX⟩
  rcases hBefore j b hB hOpenB with ⟨y, hY, hOpenY, hIsY⟩
  exact hConsistent.held i j x y hX hY hOpenX hOpenY (hIsX.trans (hSame.trans hIsY.symm))

/- A report keeps what holds of the tables, and of the rows that claims have selected. -/
theorem report_keeps (hConsistent : Consistent s)
    (hCondition : ∀ error_message, outcome = .release error_message → ∀ h ∈ s.handouts[handout]?,
          (h.isOpen ∨ NotOut s.handouts h.anonymous_id) ∧
          ∀ row ∈ s.aliases.find? h.anonymous_id, Selected jobs row.id → row.Ready) :
    Consistent (reportOutcome handout outcome s) ∧
      ∃ handouts, Admits jobs handouts s.aliases (reportOutcome handout outcome s).aliases := by
  unfold reportOutcome
  cases hFound : s.handouts[handout]? with
  | none =>
    refine ⟨hConsistent, s.handouts, ?_⟩
    intro row hMem hIn
    exact .inl ⟨row, hMem, rfl, rfl, hIn, id⟩
  | some h =>
    have hAdmits : Admits jobs
          (s.handouts.set handout { h with isOpen := h.isOpen && outcome.keeps })
          s.aliases
          (s.aliases.updateKey h.anonymous_id outcome.writtenTo
            (by intro row; cases outcome <;> rfl)) := by
      apply admits_updateWhere
      · intro row
        cases outcome <;> rfl
      · intro row hMem hHit hIn
        have hKey : row.anonymous_id = h.anonymous_id := of_decide_eq_true hHit
        rcases Outcome.writtenTo_inStock hIn with ⟨error_message, hIs⟩
        rcases hCondition error_message hIs h hFound with ⟨hMay, hReady⟩
        right
        rw [hIs, hKey]
        refine ⟨notOut_release hConsistent hFound hMay, ?_⟩
        intro hSelected
        apply hReady row ?_ hSelected
        rw [← hKey]
        exact find?_of_mem hMem
    refine ⟨⟨?_, ?_, ?_⟩, _, hAdmits⟩
    · exact ids_updateWhere (f := outcome.writtenTo) (by intro row; cases outcome <;> rfl)
          (by intro row; cases outcome <;> rfl) hConsistent.ids
    · apply hAdmits.stock
      intro row hMem hIn
      exact notOut_report hFound (hConsistent.stock row hMem hIn)
    · exact held_report hConsistent hFound

theorem admits_bulkEnable {request : BulkEnable}
    (hCondition : ∀ row ∈ s.aliases.rows, request.skips env row = false →
        row.recyclable env → NotOut s.handouts row.anonymous_id) :
    Admits jobs s.handouts s.aliases (bulkEnable env request s.aliases) := by
  apply admits_updateWhere
  · intro row
    unfold BulkEnable.writtenTo
    split <;> rfl
  · intro row hMem hHit hIn
    have hTaken : request.skips env row = false := by simpa using hHit
    by_cases hRecyclable : row.recyclable env
    · right
      refine ⟨hCondition row hMem hTaken hRecyclable, ?_⟩
      intro _
      rw [BulkEnable.writtenTo, if_pos hRecyclable]
      exact ⟨rfl, rfl⟩
    · left
      rw [BulkEnable.writtenTo, if_neg hRecyclable] at hIn ⊢
      exact ⟨hIn, fun hReady => ⟨rfl, hReady.2⟩⟩

theorem admits_bulkDisableUsed {forward_to : String} (hConsistent : Consistent s)
    (hCondition : ∀ row ∈ s.aliases.rows,
        (strip forward_to = "" ∨ strip row.forward_to = strip forward_to) →
        row.usedBySystem → row.InStock → ¬ Selected jobs row.id) :
    Admits jobs s.handouts s.aliases (bulkDisableUsed forward_to s.aliases) := by
  apply admits_updateWhere
  · intro row
    rfl
  · intro row hMem hHit hIn
    have hIs : (strip forward_to = "" ∨ strip row.forward_to = strip forward_to) ∧
          row.usedBySystem := by
      simpa using hHit
    right
    refine ⟨hConsistent.stock row hMem hIn, ?_⟩
    intro hSelected
    exact absurd hSelected (hCondition row hMem hIs.1 hIs.2 hIn)

theorem ids_bulkEnable (request : BulkEnable) (hIds : (s.aliases.rows.map Alias.id).Nodup) :
    ((bulkEnable env request s.aliases).rows.map Alias.id).Nodup := by
  apply ids_updateWhere _ ?_ hIds
  intro row
  unfold BulkEnable.writtenTo
  split <;> rfl

theorem ids_bulkDisableUsed (forward_to : String) (hIds : (s.aliases.rows.map Alias.id).Nodup) :
    ((bulkDisableUsed forward_to s.aliases).rows.map Alias.id).Nodup :=
  ids_updateWhere _ (fun _ => rfl) hIds

theorem admits_markUsed (anonymous_id : String) :
    Admits jobs s.handouts s.aliases
      (s.aliases.updateKey anonymous_id Alias.markUsed (fun _ => rfl)) := by
  apply admits_updateWhere
  · intro row
    rfl
  · intro row _ _ hIn
    have hStatus := hIn.1
    simp only [Alias.markUsed] at hStatus
    by_cases hReserved : strip row.status = "reserved"
    · rw [if_pos hReserved] at hStatus
      exact absurd hStatus (by decide)
    · rw [if_neg hReserved] at hStatus
      rw [hStatus] at hReserved
      exact absurd (by decide +kernel) hReserved

theorem admits_pruneAliases (remote_ids : List String) (purpose bound_service forward_to : String) :
    Admits jobs s.handouts s.aliases
      (pruneAliases remote_ids purpose bound_service forward_to s.aliases) := by
  intro row hMem hIn
  exact .inl ⟨row, mem_of_mem_filter hMem, rfl, rfl, hIn, id⟩

theorem ids_pruneAliases (remote_ids : List String) (purpose bound_service forward_to : String)
    (hIds : (s.aliases.rows.map Alias.id).Nodup) :
    ((pruneAliases remote_ids purpose bound_service forward_to
        s.aliases).rows.map Alias.id).Nodup :=
  hIds.sublist (filter_sublist.map Alias.id)

----
-- Claims Of Stock
----

theorem admits_claim (handouts : List Handout) (id : Nat) (task_id : String) :
    Admits jobs handouts s.aliases
      (s.aliases.updateWhere (Alias.claimable id) (Alias.claimedBy task_id) (fun _ => rfl)) := by
  apply admits_updateWhere
  · intro row
    rfl
  · intro row _ _ hIn
    exact absurd hIn.1 (by simp [Alias.claimedBy])

abbrev claimUpdate (request : ClaimRequest) (id : Nat) (aliases : Aliases) :
    Aliases :=
  aliases.updateWhere (Alias.claimable id) (Alias.claimedBy (strip request.task_id))
    (fun row => Eq.refl row.anonymous_id)

/- What one turn of a claim does: it ends without rows, it returns the row in stock with the id of
   the first one, or it goes on with the others. -/
theorem tryClaim_cases (request : ClaimRequest) (rows : List Alias) (s : PoolState) :
    (rows = [] ∧ tryClaim request rows s = (s, .finished .noAlias)) ∨
    (∃ sel rest found, rows = sel :: rest ∧ found ∈ s.aliases.rows ∧
      found.id = sel.id ∧ found.InStock ∧
      tryClaim request rows s =
        ({ aliases := claimUpdate request sel.id s.aliases
           handouts := s.handouts ++ [{ anonymous_id := found.anonymous_id }] },
          .finished (.claimed (found.claimedBy (strip request.task_id))))) ∨
    (∃ sel rest, rows = sel :: rest ∧ tryClaim request rows s =
        ({ s with aliases := claimUpdate request sel.id s.aliases }, .claiming request rest)) := by
  cases rows with
  | nil => exact .inl ⟨rfl, rfl⟩
  | cons sel rest =>
    right
    simp only [tryClaim]
    split
    · next found hFilter =>
        have hMem : found ∈ s.aliases.rows.filter (Alias.claimable sel.id) := by
          rw [hFilter]
          exact mem_singleton_self found
        rcases mem_filter.mp hMem with ⟨hRow, hIs⟩
        have hBoth := claimable_iff.mp hIs
        exact .inl ⟨sel, rest, found, rfl, hRow, hBoth.1, hBoth.2, rfl⟩
    · exact .inr ⟨sel, rest, rfl, rfl⟩

theorem held_claim {anonymous_id : String} (hConsistent : Consistent s)
    (hFree : NotOut s.handouts anonymous_id) (i j : Nat) (a b : Handout)
    (hA : (s.handouts ++ [{ anonymous_id := anonymous_id }])[i]? = some a)
    (hB : (s.handouts ++ [{ anonymous_id := anonymous_id }])[j]? = some b)
    (hOpenA : a.isOpen) (hOpenB : b.isOpen)
    (hSame : a.anonymous_id = b.anonymous_id) : i = j := by
  have hCases : ∀ (k : Nat) (c : Handout),
        (s.handouts ++ [{ anonymous_id := anonymous_id }])[k]? = some c →
        s.handouts[k]? = some c ∨ (k = s.handouts.length ∧ c.anonymous_id = anonymous_id) := by
    intro k c hC
    rw [getElem?_append] at hC
    by_cases hLt : k < s.handouts.length
    · rw [if_pos hLt] at hC
      exact .inl hC
    · rw [if_neg hLt] at hC
      have hMem := mem_singleton.mp (mem_of_getElem? hC)
      have hBound := (List.getElem?_eq_some_iff.mp hC).1
      rw [length_singleton] at hBound
      refine .inr ⟨by omega, ?_⟩
      rw [hMem]
  rcases hCases i a hA with hI | ⟨hI, hIsA⟩
  · rcases hCases j b hB with hJ | ⟨hJ, hIsB⟩
    · exact hConsistent.held i j a b hI hJ hOpenA hOpenB hSame
    · exact absurd (hSame.trans hIsB) (hFree a (mem_of_getElem? hI) hOpenA)
  · rcases hCases j b hB with hJ | ⟨hJ, hIsB⟩
    · exact absurd (hSame.symm.trans hIsA) (hFree b (mem_of_getElem? hJ) hOpenB)
    · omega

/- A claim keeps what holds of the tables, and of the rows that other claims have selected. -/
theorem tryClaim_keeps (jobs : List PoolJob) (request : ClaimRequest) (rows : List Alias)
    (hConsistent : Consistent s) :
    Consistent (tryClaim request rows s).1 ∧
      ∃ handouts, Admits jobs handouts s.aliases (tryClaim request rows s).1.aliases := by
  have hIds : ∀ id : Nat, ((claimUpdate request id s.aliases).rows.map Alias.id).Nodup :=
    fun id => ids_updateWhere (p := Alias.claimable id)
        (f := Alias.claimedBy (strip request.task_id)) (fun _ => rfl) (fun _ => rfl) hConsistent.ids
  rcases tryClaim_cases request rows s with
    ⟨_, hIs⟩ | ⟨sel, rest, found, _, hRow, hId, hIn, hIs⟩ | ⟨sel, rest, _, hIs⟩
  · rw [hIs]
    refine ⟨hConsistent, s.handouts, ?_⟩
    intro row hMem hIn
    exact .inl ⟨row, hMem, rfl, rfl, hIn, id⟩
  · rw [hIs]
    have hAdmits : Admits jobs s.handouts s.aliases (claimUpdate request sel.id s.aliases) :=
      admits_claim _ _ _
    have hFree := hConsistent.stock found hRow hIn
    refine ⟨⟨hIds sel.id, ?_, held_claim hConsistent hFree⟩, s.handouts, hAdmits⟩
    -- the claimed row is the only one of its alias
    intro row hNew hNewIn h hHandout hOpen
    rcases mem_append.mp hHandout with hOld | hLast
    · exact hAdmits.stock hConsistent.stock row hNew hNewIn h hOld hOpen
    · rw [mem_singleton.mp hLast]
      intro hClash
      rcases mem_map.mp hNew with ⟨old, hOld, hRowIs⟩
      by_cases hHit : old.claimable sel.id
      · rw [if_pos hHit] at hRowIs
        rw [← hRowIs] at hNewIn
        exact absurd hNewIn.1 (by simp [Alias.claimedBy])
      · rw [if_neg hHit] at hRowIs
        rw [← hRowIs] at hClash
        have hIsFound := eq_of_mem_of_key_eq hOld hRow hClash.symm
        rw [hIsFound] at hHit
        exact hHit (claimable_iff.mpr ⟨hId, hIn⟩)
  · rw [hIs]
    have hAdmits : Admits jobs s.handouts s.aliases (claimUpdate request sel.id s.aliases) :=
      admits_claim _ _ _
    exact ⟨hConsistent.of_admits (hIds sel.id) hAdmits, s.handouts, hAdmits⟩

----
-- Runs
----

/- A state of the pool in which all promises are kept. -/
abbrev Sound (st : JobPool.State PoolState PoolJob) : Prop :=
  JobPool.Holds Consistent (fun s job => job.Knows s) st

theorem selected_start (request : PoolRequest) : request.job.selected = [] := by
  cases request <;> simp only [PoolRequest.job]
  case sync request live => split <;> rfl
  case importCsv purpose bound_service forward_to items => split <;> rfl
  all_goals rfl

theorem Knows.of_selected {job : PoolJob} (hNone : job.selected = []) : job.Knows s := by
  intro sel hSel
  rw [hNone] at hSel
  cases hSel

theorem knows_select {request : ClaimRequest} (hConsistent : Consistent s) :
    (PoolJob.claiming request (selectAliases request s.aliases)).Knows s := by
  intro sel hSel row hMem hId _
  have hFiltered := (perm_insertionSort _ _).mem_iff.mp (mem_of_mem_take hSel)
  rcases mem_filter.mp hFiltered with ⟨hRow, hSelects⟩
  rw [hConsistent.eq_of_id hMem hRow hId]
  simp only [ClaimRequest.selects, Bool.and_eq_true, decide_eq_true_eq] at hSelects
  exact ⟨hSelects.1.1.1.1.1.2, hSelects.1.2⟩

/- The step lemma: a step that meets the condition keeps the tables consistent, and what its job and
   all others know. -/
theorem advance_keeps (draw : Unit) (st : JobPool.State PoolState PoolJob) (job : PoolJob)
    (hSound : Sound st) (hJob : job ∈ st.jobs) (_ : (pool env).done job = false)
    (hCondition : Undisturbed env st draw job) :
    Consistent ((pool env).advance draw st.shared job).1 ∧
      ((pool env).advance draw st.shared job).2.Knows ((pool env).advance draw st.shared job).1 ∧
      ∀ other ∈ st.jobs, other.Knows ((pool env).advance draw st.shared job).1 := by
  have hConsistent := hSound.shared
  have hAll := hSound.jobs
  -- a write of the rows, by a job that has selected none
  have hWrite : ∀ (aliases : Aliases) (next : PoolJob), (aliases.rows.map Alias.id).Nodup →
        Admits st.jobs st.shared.handouts st.shared.aliases aliases →
        next.selected = [] →
        Consistent { st.shared with aliases := aliases } ∧
          next.Knows { st.shared with aliases := aliases } ∧
          ∀ other ∈ st.jobs, other.Knows { st.shared with aliases := aliases } := by
    intro aliases next hIds hAdmits hNone
    refine ⟨hConsistent.of_admits hIds hAdmits, Knows.of_selected hNone, ?_⟩
    intro other hMem
    exact Admits.knows { st.shared with aliases := aliases } hAdmits hMem (hAll other hMem)
  cases job with
  | select request => exact ⟨hConsistent, knows_select hConsistent, hAll⟩
  | claiming request rows =>
    rcases tryClaim_keeps st.jobs request rows
        hConsistent with
      ⟨hAfter, handouts, hAdmits⟩
    have hOthers : ∀ other ∈ st.jobs, other.Knows (tryClaim request rows st.shared).1 :=
      fun other hMem => Admits.knows _ hAdmits hMem (hAll other hMem)
    refine ⟨hAfter, ?_, hOthers⟩
    have hOwn := hOthers _ hJob
    show (tryClaim request rows st.shared).2.Knows _
    intro sel hSel
    apply hOwn
    rcases tryClaim_cases request rows st.shared with
      ⟨_, hIs⟩ | ⟨_, _, _, _, _, _, _, hIs⟩ | ⟨first, rest, hRows, hIs⟩
    · rw [hIs] at hSel
      cases hSel
    · rw [hIs] at hSel
      cases hSel
    · rw [hIs] at hSel
      rw [hRows]
      exact mem_cons_of_mem first hSel
  | syncRead request left items =>
    refine ⟨hConsistent, ?_, hAll⟩
    apply Knows.of_selected
    cases left <;> rfl
  | importRead i items =>
    refine ⟨hConsistent, ?_, hAll⟩
    apply Knows.of_selected
    show (IcloudHme.importRead i items st.shared).selected = []
    cases items with
    | nil =>
      simp only [IcloudHme.importRead]
      split <;> rfl
    | cons item items =>
      simp only [IcloudHme.importRead]
      split <;> rfl
  | importWrite i existed item items =>
    exact hWrite _ _ (ids_insertAlias _ hConsistent.ids) (admits_insertAlias hCondition) rfl
  | prune i remote_ids =>
    exact hWrite _ _ (ids_pruneAliases _ _ _ _ hConsistent.ids) (admits_pruneAliases _ _ _ _) rfl
  | report handout outcome =>
    have hMay : ∀ error_message, outcome = .release error_message →
          ∀ h ∈ st.shared.handouts[handout]?,
            (h.isOpen ∨ NotOut st.shared.handouts h.anonymous_id) ∧
            ∀ row ∈ st.shared.aliases.find? h.anonymous_id,
              Selected st.jobs row.id → row.Ready := by
      intro error_message hIs
      rw [hIs] at hCondition
      exact hCondition
    rcases report_keeps hConsistent hMay with ⟨hAfter, handouts, hAdmits⟩
    exact ⟨hAfter, Knows.of_selected rfl,
        fun other hMem => Admits.knows _ hAdmits hMem (hAll other hMem)⟩
  | bulkEnable request =>
    exact hWrite (IcloudHme.bulkEnable env request _) _ (ids_bulkEnable request hConsistent.ids)
        (admits_bulkEnable hCondition) rfl
  | bulkDisableUsed forward_to =>
    exact hWrite (IcloudHme.bulkDisableUsed forward_to _) _
        (ids_bulkDisableUsed forward_to hConsistent.ids)
        (admits_bulkDisableUsed hConsistent hCondition) rfl
  | markUsed anonymous_id =>
    exact hWrite _ _
        (ids_updateWhere (f := Alias.markUsed) (fun _ => rfl) (fun _ => rfl) hConsistent.ids)
        (admits_markUsed (strip anonymous_id)) rfl
  | finished answer => exact ⟨hConsistent, Knows.of_selected rfl, hAll⟩

/- A claim that ends with an alias has found it in stock. -/
theorem handsOutSafely_of_sound {st : JobPool.State PoolState PoolJob} (hSound : Sound st)
    (op : PoolOp) : HandsOutSafely env st op := by
  intro row hClaimed
  rcases JobPool.step_answer hClaimed with ⟨i, draw, job, _, hJob, hNext⟩
  have hPending := JobPool.mem_of_pending? hJob
  have hKnows := hSound.jobs job hPending.1
  cases job with
  | claiming request rows =>
    have hIs : (tryClaim request rows st.shared).2 = .finished (.claimed row) := hNext
    rcases tryClaim_cases request rows st.shared with
      ⟨_, hOther⟩ | ⟨sel, rest, found, hRows, hRow, hId, hIn, hOther⟩ | ⟨_, _, _, hOther⟩
    · rw [hOther] at hIs
      cases hIs
    · rw [hOther] at hIs
      cases hIs
      have hSel : sel ∈ rows := hRows ▸ mem_cons_self
      exact ⟨hSound.shared.stock found hRow hIn, hKnows sel hSel found hRow hId hIn⟩
    · rw [hOther] at hIs
      cases hIs
  | finished answer => cases hPending.2
  | syncRead request left items => cases left <;> cases hNext
  | importRead i items =>
    have hIs : IcloudHme.importRead i items st.shared = .finished (.claimed row) := hNext
    cases items with
    | nil =>
      simp only [IcloudHme.importRead] at hIs
      split at hIs <;> cases hIs
    | cons item items =>
      simp only [IcloudHme.importRead] at hIs
      split at hIs <;> cases hIs
  | select request => cases hNext
  | importWrite i existed item items => cases hNext
  | prune i remote_ids => cases hNext
  | report handout outcome => cases hNext
  | bulkEnable request => cases hNext
  | bulkDisableUsed forward_to => cases hNext
  | markUsed anonymous_id => cases hNext

/- Claims hand out what nobody holds, enabled and unbound, in every run in which the writers meet
   the condition. -/
theorem hands_out_safely (env : Env) (aliases : Aliases) (hIds : (aliases.rows.map Alias.id).Nodup)
    (ops : List PoolOp) (op : PoolOp)
    (hSteps : Machine.Steps (JobPool.step (pool env)) (JobPool.OnJob (pool env) (Undisturbed env))
        { shared := { aliases := aliases } } ops) :
    HandsOutSafely env (poolRun env aliases ops) op := by
  apply handsOutSafely_of_sound
  apply JobPool.run_holds_of_steps (C := Undisturbed env)
  · intro s request _
    exact Knows.of_selected (selected_start request)
  · intro s _
    exact Knows.of_selected rfl
  · exact advance_keeps
  · refine ⟨⟨hIds, ?_, ?_⟩, ?_⟩
    · intro row _ _ h hMem
      cases hMem
    · intro i j a b hA
      cases hA
    · intro job hMem
      cases hMem
  · exact hSteps

----
-- A Second Hand-Out
----

def poolEnv : Env where
  lower := fun s => s
  lower_empty := rfl
  lower_invalid := rfl
  classifyRecheckError := fun _ => "keep"
  isAccountDeactivatedMessage := fun _ => false

def oneInStock (use_count : Nat) : Aliases where
  rows :=
    [{ id := 1, anonymous_id := "anon-1", hme := "a@icloud.com", enabled := true,
       use_count := use_count }]
  keys_nodup := nodup_singleton _

/- A request that makes some steps at once. -/
def request (i steps : Nat) (r : PoolRequest) : List PoolOp :=
  .arrive r :: List.replicate steps (.advance i ())

/- Two claims; the first one reports a failure, and an operator enables the alias again. -/
def claimedAgain : List PoolOp := request 0 2 (.claim { task_id := "task-1" }) ++
    request 1 1 (.report 0 (.failure "timeout" "task-1")) ++
    request 2 1 (.bulkEnable {}) ++
    request 3 1 (.claim { task_id := "task-2" })

theorem hands_out_safely_again :
    HandsOutSafely poolEnv (poolRun poolEnv (oneInStock 0) claimedAgain) (.advance 3 ()) :=
  hands_out_safely poolEnv (oneInStock 0) (by decide) claimedAgain _ (by decide +kernel)

/- A claim without a task id, while a sync has read the row before and writes it after the claim. -/
def syncBehindClaim : List PoolOp := request 0 2
      (.sync {}
        [{ anonymous_id := "anon-1", hme := "a@icloud.com", forward_to := "b@cccy.me",
           isActive := true }]) ++
    request 1 2 (.claim {}) ++
    [.advance 0 (), .advance 0 ()] ++
    request 2 1 (.claim {})

/- A claim that has selected an alias which an operator disables before its update. -/
def disableBehindSelect : List PoolOp :=
  request 0 1 (.claim { task_id := "task-1" }) ++ request 1 1 (.bulkDisableUsed "")

/- The promise as a check on one answer. -/
def Answered.safe (handouts : List Handout) : Option PoolJob → Bool
| some (.finished (.claimed row)) => decide (NotOut handouts row.anonymous_id ∧ row.Ready)
| _ => true

theorem not_handsOutSafely
    (hNot : Answered.safe st.shared.handouts (JobPool.step (pool env) st op).2 = false) :
    ¬ HandsOutSafely env st op := by
  intro hSafely
  unfold Answered.safe at hNot
  split at hNot
  · next row hAnswer => exact absurd (hSafely row hAnswer) (of_decide_eq_false hNot)
  · cases hNot

theorem hands_out_twice :
    ¬ HandsOutSafely poolEnv (poolRun poolEnv (oneInStock 0) syncBehindClaim) (.advance 2 ()) ∧
      ¬ HandsOutSafely poolEnv (poolRun poolEnv (oneInStock 1) disableBehindSelect)
        (.advance 0 ()) :=
  ⟨not_handsOutSafely (by decide +kernel), not_handsOutSafely (by decide +kernel)⟩

end IcloudHme
