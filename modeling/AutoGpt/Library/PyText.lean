import Mathlib.Data.List.DropRight

/-
  The Python `str` operations the modelled services share.

  Key definitions: `PyText.isSpace`, `PyText.strip`, `PyText.orElse`
-/

open List

namespace PyText

/- The characters `str.strip()` removes from both ends. -/
def isSpace (c : Char) : Bool := c.toNat ∈ [9, 10, 11, 12, 13, 28, 29, 30, 31, 32, 133, 160, 5760,
      8192, 8193, 8194, 8195, 8196, 8197, 8198, 8199, 8200,
      8201, 8202, 8232, 8233, 8239, 8287, 12288]

/- `value or other`. -/
def orElse (value other : String) : String := if value = "" then other else value

/- `str.strip()`. -/
def strip (s : String) : String := String.ofList ((s.toList.dropWhile isSpace).rdropWhile isSpace)

/- `str.isascii()`. -/
def isAscii (s : String) : Bool := s.toList.all fun c => decide (c.toNat < 128)

/- The code points of the digits zero of Unicode 15. -/
def decimalZeros : List Nat := [48, 1632, 1776, 1984, 2406, 2534, 2662, 2790, 2918, 3046,
    3174, 3302, 3430, 3558, 3664, 3792, 3872, 4160, 4240, 6112,
    6160, 6470, 6608, 6784, 6800, 6992, 7088, 7232, 7248,
    42528, 43216, 43264, 43472, 43504, 43600, 44016, 65296,
    66720, 68912, 69734, 69872, 69942, 70096, 70384, 70736,
    70864, 71248, 71360, 71472, 71904, 72016, 72784, 73040,
    73120, 73552, 92768, 92864, 93008, 120782, 120792, 120802,
    120812, 120822, 123200, 123632, 124144, 125264, 130032]

/- `\d` in a pattern for `str`. -/
def isDecimal (c : Char) : Bool := decimalZeros.any fun first =>
    decide (first ≤ c.toNat ∧ c.toNat < first + 10)

/- `re.fullmatch(r"\d{6}", s)`. -/
def isSixDigits (s : String) : Bool := decide (s.toList.length = 6) && s.toList.all isDecimal

/- `re.sub("p+", "_", text)`, inside a run or not. -/
def squeeze (p : Char → Bool) : Bool → List Char → List Char
| _, [] => []
| run, c :: cs =>
  if p c then (if run then squeeze p true cs else '_' :: squeeze p true cs)
  else c :: squeeze p false cs

theorem squeeze_of_none (hNone : ∀ c ∈ cs, p c = false) : squeeze p false cs = cs := by
  induction cs with
  | nil => rfl
  | cons c cs ih =>
    have hFirst : p c = false := hNone c mem_cons_self
    rw [squeeze, hFirst, ih fun d hMem => hNone d (mem_cons_of_mem c hMem)]
    rfl

/- A text whose ends are no white space is left as it is. -/
theorem strip_of_ends (hFirst : ∀ c ∈ s.head?, isSpace c = false)
    (hLast : ∀ h : s ≠ [], isSpace (s.getLast h) = false) :
    (s.dropWhile isSpace).rdropWhile isSpace = s := by
  have hLeft : s.dropWhile isSpace = s := by
    cases s with
    | nil => rfl
    | cons c s => exact dropWhile_cons_of_neg (by simp [hFirst c rfl])
  rw [hLeft, rdropWhile_eq_self_iff]
  intro hSome
  simp [hLast hSome]

theorem strip_of_plain (hPlain : ∀ c ∈ s.toList, isSpace c = false) : strip s = s := by
  unfold strip
  rw [strip_of_ends (fun c hMem => hPlain c (mem_of_mem_head? hMem))
    (fun h => hPlain _ (getLast_mem h)), String.ofList_toList]

/- Stripping a stripped text changes nothing. -/
@[simp] theorem strip_strip (s : String) : strip (strip s) = strip s := by
  unfold strip
  rw [String.toList_ofList]
  generalize hLeft : s.toList.dropWhile isSpace = left
  have hHead : (left.rdropWhile isSpace).dropWhile isSpace = left.rdropWhile isSpace := by
    cases hCore : left.rdropWhile isSpace with
    | nil => rfl
    | cons c cs =>
      have hPrefix := rdropWhile_prefix isSpace left
      rw [hCore] at hPrefix
      rcases hPrefix with ⟨rest, hRest⟩
      have hc : ¬ isSpace c := by
        have hFirst := head?_dropWhile_not isSpace s.toList
        rw [hLeft, ← hRest] at hFirst
        simpa using hFirst
      exact dropWhile_cons_of_neg hc
  rw [hHead, rdropWhile_idempotent]

end PyText
