import Mathlib.Data.List.Infix
import AutoGpt.Library.PyText

/-
  Splitting texts as Python's `str` methods do, on texts as
  lists of characters.

  Key definitions: `PySplit.strip`, `PySplit.splitlines`, `PySplit.cut`
  Main theorems: `PySplit.cut_append`, `PySplit.cut_eq_none_iff`, `PySplit.eq_of_cut`
-/

open PyText (isDecimal isSpace)

----
-- Operations
----

namespace PySplit

abbrev Text := List Char

/- `s.strip()`. -/
def strip (s : Text) : Text := (s.dropWhile isSpace).rdropWhile isSpace

/- The line boundaries of `str.splitlines`. -/
def isLineBreak (c : Char) : Bool := c.toNat ∈ [10, 11, 12, 13, 28, 29, 30, 133, 8232, 8233]

/- The lines after the text `line`, which is kept reversed. -/
def linesFrom (line : Text) : Text → List Text
| [] => if line = [] then [] else [line.reverse]
| '\r' :: '\n' :: rest => line.reverse :: linesFrom [] rest
| c :: rest =>
    if isLineBreak c then line.reverse :: linesFrom [] rest
    else linesFrom (c :: line) rest

/- `s.splitlines()`. -/
def splitlines (s : Text) : List Text := linesFrom [] s

/- The texts before and after the first `sep`, if any. -/
def cut (sep : Text) : Text → Option (Text × Text)
| [] => if sep = [] then some ([], []) else none
| c :: rest =>
    if sep.isPrefixOf (c :: rest) then some ([], (c :: rest).drop sep.length)
    else (cut sep rest).map fun p => (c :: p.1, p.2)

/- `s.split(sep, n)`. -/
def splitMax (sep : Text) : Nat → Text → List Text
| 0, s => [s]
| n + 1, s =>
    match cut sep s with
    | none => [s]
    | some (before, after) => before :: splitMax sep n after

/- `s.split(sep)`: a text has fewer separators than characters. -/
def split (sep s : Text) : List Text := splitMax sep s.length s

/- The digits that are not decimal: superscripts, circled
   digits and the like, by first and last code point. -/
def otherDigits : List (Nat × Nat) := [(178, 179), (185, 185), (4969, 4977), (6618, 6618),
    (8304, 8304), (8308, 8313), (8320, 8329), (9312, 9320),
    (9332, 9340), (9352, 9360), (9450, 9450), (9461, 9469),
    (9471, 9471), (10102, 10110), (10112, 10120),
    (10122, 10130), (68160, 68163), (69216, 69224),
    (69714, 69722), (127232, 127242)]

/- `c.isdigit()`. -/
def isDigit (c : Char) : Bool := isDecimal c ||
    otherDigits.any fun range => decide (range.1 ≤ c.toNat ∧ c.toNat ≤ range.2)

----
-- Plain Texts
----

/- Line boundaries are white space. -/
theorem isSpace_of_isLineBreak (hBreak : isLineBreak c) : isSpace c := by
  unfold isLineBreak at hBreak
  unfold isSpace
  rw [decide_eq_true_iff] at hBreak ⊢
  have hSubset : [10, 11, 12, 13, 28, 29, 30, 133, 8232, 8233] ⊆
        [9, 10, 11, 12, 13, 28, 29, 30, 31, 32, 133, 160,
          5760, 8192, 8193, 8194, 8195, 8196, 8197, 8198,
          8199, 8200, 8201, 8202, 8232, 8233, 8239, 8287, 12288] := by
    decide
  exact hSubset hBreak

theorem not_space_of_isDigit (hDigit : isDigit c) : isSpace c = false := by
  cases hSpace : isSpace c with
  | false => rfl
  | true =>
    unfold isSpace at hSpace
    rw [decide_eq_true_iff] at hSpace
    unfold isDigit isDecimal at hDigit
    generalize c.toNat = n at hSpace hDigit
    have hNone : ∀ n ∈ [9, 10, 11, 12, 13, 28, 29, 30, 31, 32, 133, 160,
            5760, 8192, 8193, 8194, 8195, 8196, 8197, 8198,
            8199, 8200, 8201, 8202, 8232, 8233, 8239, 8287,
            12288],
          ((PyText.decimalZeros.any fun first => decide (first ≤ n ∧ n < first + 10)) ||
            otherDigits.any fun range => decide (range.1 ≤ n ∧ n ≤ range.2)) =
            false := by
      decide +kernel
    rw [hNone n hSpace] at hDigit
    cases hDigit

/- Stripping leaves a text without white space as it is. -/
theorem strip_of_plain (hPlain : ∀ c ∈ s, isSpace c = false) : strip s = s := by
  exact PyText.strip_of_ends (fun c hMem => hPlain c (List.mem_of_mem_head? hMem))
    (fun h => hPlain _ (List.getLast_mem h))

theorem linesFrom_of_plain (hPlain : ∀ c ∈ s, isLineBreak c = false) (line : Text)
    (hSome : line ≠ [] ∨ s ≠ []) : linesFrom line s = [line.reverse ++ s] := by
  induction s generalizing line with
  | nil =>
    have hLine : line ≠ [] := hSome.resolve_right (fun hNil => hNil rfl)
    unfold linesFrom
    rw [if_neg hLine, List.append_nil]
  | cons c s ih =>
    have hFirst := hPlain c List.mem_cons_self
    have hRest := ih (fun d hd => hPlain d (List.mem_cons_of_mem _ hd))
        (c :: line) (.inl (List.cons_ne_nil _ _))
    rw [List.reverse_cons, List.append_assoc] at hRest
    rw [← List.singleton_append, ← hRest]
    rw [linesFrom.eq_def]
    split
    next hNil => cases hNil
    next hReturn =>
      cases hReturn
      cases hFirst
    next hNext =>
      cases hNext
      rw [hFirst]
      rfl

/- A text without line boundaries is its only line. -/
theorem splitlines_of_plain (hPlain : ∀ c ∈ s, isLineBreak c = false) (hSome : s ≠ []) :
    splitlines s = [s] :=
  linesFrom_of_plain hPlain [] (.inr hSome)

end PySplit

----
-- Cuts
----

namespace PySplit

/- A cut takes the text apart. -/
theorem eq_of_cut (hCut : cut sep s = some (before, after)) : s = before ++ sep ++ after := by
  induction s generalizing before with
  | nil =>
    unfold cut at hCut
    split at hCut
    next hSep =>
      cases hCut
      rw [hSep]
      rfl
    · cases hCut
  | cons c s ih =>
    unfold cut at hCut
    split at hCut
    next hHere =>
      cases hCut
      rw [List.nil_append]
      rcases List.isPrefixOf_iff_prefix.mp hHere with ⟨rest, hRest⟩
      rw [← hRest, List.drop_left]
    · rcases Option.map_eq_some_iff.mp hCut with
        ⟨p, hRest, hSame⟩
      cases hSame
      rw [List.cons_append, List.cons_append, ← ih hRest]

/- There is no cut when the separator does not occur. -/
theorem cut_eq_none_iff : cut sep s = none ↔ ¬ sep <:+: s := by
  induction s with
  | nil =>
    unfold cut
    by_cases hSep : sep = []
    · simp [hSep]
    · simp [hSep]
  | cons c s ih =>
    unfold cut
    rw [List.infix_cons_iff, not_or, ← ih]
    by_cases hHere : sep.isPrefixOf (c :: s)
    · rw [if_pos hHere]
      simp [List.isPrefixOf_iff_prefix.mp hHere]
    · rw [if_neg hHere, Option.map_eq_none_iff]
      have hNot : ¬ sep <+: c :: s := fun hHere' => hHere (List.isPrefixOf_iff_prefix.mpr hHere')
      simp [hNot]

/- Before the first separator no character starts one. -/
theorem cut_append (hNot : d ∉ before) :
    cut (d :: ds) (before ++ ((d :: ds) ++ after)) = some (before, after) := by
  induction before with
  | nil =>
    rw [List.nil_append, List.cons_append]
    unfold cut
    have hHere : (d :: ds).isPrefixOf (d :: (ds ++ after)) :=
      List.isPrefixOf_iff_prefix.mpr ⟨after, rfl⟩
    rw [if_pos hHere, ← List.cons_append, List.drop_left]
  | cons c before ih =>
    rcases not_or.mp (mt List.mem_cons.mpr hNot) with ⟨hFirst, hRest⟩
    rw [List.cons_append]
    unfold cut
    have hThere : ¬ (d :: ds).isPrefixOf (c :: (before ++ ((d :: ds) ++ after))) := by
      rw [List.isPrefixOf_iff_prefix, List.cons_prefix_cons]
      exact fun hBoth => hFirst hBoth.1
    rw [if_neg hThere, ih hRest]
    rfl

end PySplit
