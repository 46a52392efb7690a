import Mathlib

/-
  The Python standard library's `urlsplit`, on texts as lists
  of characters, and the parts of a network location.

  Key definitions: `PyUrl.partition`, `PyUrl.urlsplit`, `PyUrl.hostPort`
  Main theorems: `PyUrl.urlsplit_join`, `PyUrl.urlsplit_clean`
-/

open List

----
-- Splitting
----

namespace PyUrl

abbrev Text := List Char

/- `s.partition(c)` without the separator: the texts before and after its first occurrence. -/
def partition (c : Char) (s : Text) : Text × Text :=
  (s.takeWhile (· != c), (s.dropWhile (· != c)).tail)

/- The C0 control characters and the space. -/
def isC0OrSpace (c : Char) : Bool := c.toNat ≤ 32

/- The characters that `urlsplit` removes everywhere. -/
def isUnsafe (c : Char) : Bool := c == '\t' || c == '\r' || c == '\n'

def isSchemeChar (c : Char) : Bool := c.isAlphanum || c == '+' || c == '-' || c == '.'

/- The characters that end a network location. -/
def isDelim (c : Char) : Bool := c == '/' || c == '?' || c == '#'

structure SplitResult where
  scheme : Text
  netloc : Text
  path : Text
  query : Text
  fragment : Text

/- The scheme, lower-cased, and the rest. -/
def splitScheme (url : Text) : Text × Text :=
  let scheme := url.takeWhile (· != ':')
  match scheme, url.dropWhile (· != ':') with
  | c :: _, _ :: rest =>
    if c.isAlpha ∧ scheme.all isSchemeChar then (scheme.map Char.toLower, rest)
    else ([], url)
  | _, _ => ([], url)

/- The network location after a double slash, and the rest. -/
def splitNetloc (url : Text) : Text × Text :=
  match url with
  | '/' :: '/' :: rest =>
    (rest.takeWhile (fun c => !isDelim c), rest.dropWhile (fun c => !isDelim c))
  | _ => ([], url)

/- `urlsplit(url)`, without the checks that raise. -/
def urlsplit (url : Text) : SplitResult :=
  let url := (url.dropWhile isC0OrSpace).filter (fun c => !isUnsafe c)
  let scheme := splitScheme url
  let netloc := splitNetloc scheme.2
  let fragment := partition '#' netloc.2
  let query := partition '?' fragment.1
  { scheme := scheme.1, netloc := netloc.1, path := query.1, query := query.2,
    fragment := fragment.2 }

----
-- Network Locations
----

/- `netloc.rpartition('@')[2]`. -/
def hostinfo (netloc : Text) : Text := (netloc.reverse.takeWhile (· != '@')).reverse

/- `parts.username or parts.password`. -/
def hasCredentials (netloc : Text) : Bool :=
  let userinfo := ((netloc.reverse.dropWhile (· != '@')).tail).reverse
  '@' ∈ netloc ∧ userinfo ≠ [] ∧ userinfo ≠ [':']

/- The texts of the host and of the port. -/
def hostPort (netloc : Text) : Text × Text :=
  let info := hostinfo netloc
  if '[' ∈ info then
    let inner := partition ']' (partition '[' info).2
    (inner.1, (partition ':' inner.2).2)
  else partition ':' info

/- `parts.hostname`; the empty text stands for `None`. -/
def hostname (lower : Text → Text) (netloc : Text) : Text :=
  let host := (hostPort netloc).1
  let zone := partition '%' host
  if host = [] then []
  else if '%' ∈ host then lower zone.1 ++ '%' :: zone.2
  else lower host

/- The value of a text of ASCII digits. -/
def digitsValue (s : Text) : Nat := s.foldl (fun n c => n * 10 + (c.toNat - '0'.toNat)) 0

/- `parts.port`, which raises on a text that is no port. -/
def port (netloc : Text) : Except Unit (Option Nat) :=
  let text := (hostPort netloc).2
  if text = [] then .ok none
  else if text.all Char.isDigit then
    if digitsValue text ≤ 65535 then .ok (some (digitsValue text))
    else .error ()
  else .error ()

----
-- What A Split Contains
----

theorem mem_partition_left (hMem : d ∈ (partition c s).1) : d ∈ s ∧ d ≠ c := by
  have hTake := mem_takeWhile_imp hMem
  refine ⟨( takeWhile_prefix _).mem hMem, ?_⟩
  simpa using hTake

theorem mem_partition_right (hMem : d ∈ (partition c s).2) : d ∈ s :=
  (dropWhile_suffix _).mem (mem_of_mem_tail hMem)

theorem partition_append (hNot : c ∉ a) : partition c (a ++ c :: b) = (a, b) := by
  have hAll : ∀ x ∈ a, (x != c) := by
    intro x hx
    simpa using fun hSame : x = c => hNot (hSame ▸ hx)
  unfold partition
  rw [takeWhile_append_of_pos hAll, dropWhile_append_of_pos hAll]
  simp

theorem partition_of_not_mem (hNot : c ∉ a) : partition c a = (a, []) := by
  have hAll : ∀ x ∈ a, (x != c) := by
    intro x hx
    simpa using fun hSame : x = c => hNot (hSame ▸ hx)
  unfold partition
  rw [takeWhile_eq_self_iff.mpr hAll, dropWhile_eq_nil_iff.mpr hAll]
  rfl

/- A host is made of characters of its location. -/
theorem mem_hostPort (hMem : d ∈ (hostPort netloc).1) : d ∈ netloc := by
  have hInfo : ∀ x ∈ hostinfo netloc, x ∈ netloc := by
    intro x hx
    rw [hostinfo, mem_reverse] at hx
    exact mem_reverse.mp (( takeWhile_prefix _).mem hx)
  unfold hostPort at hMem
  dsimp only at hMem
  split at hMem
  · have hInner := (mem_partition_left hMem).1
    exact hInfo d (mem_partition_right hInner)
  · exact hInfo d (mem_partition_left hMem).1

----
-- Splits Of Any Text
----

/- The parts of a split hold none of the removed characters, none holds the delimiter that ends it,
   and after a network location the path is empty or starts at the root. -/
structure Clean (r : SplitResult) : Prop where
  netloc_safe : ∀ d ∈ r.netloc, isUnsafe d = false
  path_safe : ∀ d ∈ r.path, isUnsafe d = false
  query_safe : ∀ d ∈ r.query, isUnsafe d = false
  netloc_plain : ∀ d ∈ r.netloc, isDelim d = false
  path_plain : ∀ d ∈ r.path, d ≠ '?' ∧ d ≠ '#'
  query_plain : ∀ d ∈ r.query, d ≠ '#'
  path_root : r.netloc ≠ [] → r.path = [] ∨ ∃ rest, r.path = '/' :: rest

/- The rest after the scheme is a part of the text. -/
theorem mem_splitScheme (hMem : d ∈ (splitScheme url).2) : d ∈ url := by
  unfold splitScheme at hMem
  dsimp only at hMem
  split at hMem
  next c cs skipped rest hLeft hRight =>
    split at hMem
    · have hTail : d ∈ url.dropWhile (· != ':') := by
        rw [hRight]
        exact mem_cons_of_mem _ hMem
      exact (dropWhile_suffix _).mem hTail
    · exact hMem
  · exact hMem

theorem mem_splitNetloc :
    (d ∈ (splitNetloc url).1 → d ∈ url ∧ isDelim d = false) ∧
      (d ∈ (splitNetloc url).2 → d ∈ url) := by
  unfold splitNetloc
  split
  next rest =>
    constructor
    · intro hMem
      have hOld := ( takeWhile_prefix _).mem hMem
      have hPlain := mem_takeWhile_imp hMem
      exact ⟨by simp [hOld], by simpa using hPlain⟩
    · intro hMem
      have hOld := (dropWhile_suffix _).mem hMem
      simp [hOld]
  · exact ⟨fun hMem => (by cases hMem), id⟩

/- What follows a network location starts with a delimiter. -/
theorem splitNetloc_rest (hNetloc : (splitNetloc url).1 ≠ []) :
    (splitNetloc url).2 = [] ∨ ∃ c rest, (splitNetloc url).2 = c :: rest ∧ isDelim c := by
  unfold splitNetloc at hNetloc ⊢
  split
  next rest =>
    cases hRest : rest.dropWhile (fun c => !isDelim c) with
    | nil => exact .inl rfl
    | cons c tail =>
      right
      refine ⟨c, tail, rfl, ?_⟩
      have hFirst := head?_dropWhile_not (fun c => !isDelim c) rest
      rw [hRest] at hFirst
      simpa using hFirst
  next hNone =>
    split at hNetloc
    next rest =>
      exact absurd rfl (hNone rest)
    · exact absurd rfl hNetloc

theorem urlsplit_clean (url : Text) : Clean (urlsplit url) := by
  have hSafe :
      ∀ d, d ∈ (url.dropWhile isC0OrSpace).filter (fun c => !isUnsafe c) → isUnsafe d = false := by
    intro d hd
    simpa using (mem_filter.mp hd).2
  unfold urlsplit
  generalize (url.dropWhile isC0OrSpace).filter (fun c => !isUnsafe c) = text at hSafe ⊢
  have hRest : ∀ d, d ∈ (splitNetloc (splitScheme text).2).2 → isUnsafe d = false :=
    fun d hd => hSafe d (mem_splitScheme (mem_splitNetloc.2 hd))
  constructor
  · intro d hd
    exact hSafe d (mem_splitScheme (mem_splitNetloc.1 hd).1)
  · intro d hd
    exact hRest d (mem_partition_left (mem_partition_left hd).1).1
  · intro d hd
    exact hRest d (mem_partition_left (mem_partition_right hd)).1
  · intro d hd
    exact (mem_splitNetloc.1 hd).2
  · intro d hd
    have hPath := mem_partition_left hd
    exact ⟨hPath.2, (mem_partition_left hPath.1).2⟩
  · intro d hd
    exact (mem_partition_left (mem_partition_right hd)).2
  · intro hNetloc
    rcases splitNetloc_rest hNetloc with hNil | ⟨c, rest, hCons, hDelim⟩
    · left
      simp only [hNil]
      rfl
    · simp only [hCons]
      unfold isDelim at hDelim
      by_cases hSlash : c = '/'
      · right
        rw [hSlash]
        exact ⟨(partition '?' (partition '#' rest).1).1, by simp [partition]⟩
      · left
        have hOther : c = '?' ∨ c = '#' := by simpa [hSlash] using hDelim
        rcases hOther with rfl | rfl
        · simp [partition]
        · simp [partition]

----
-- Joining And Splitting Again
----

/- `path?query`, or `path` alone without a query. -/
def pathQuery (path query : Text) : Text := if query = [] then path else path ++ '?' :: query

/- No character that ends a location or is removed. -/
def Plain (s : Text) : Prop := ∀ d ∈ s, isDelim d = false ∧ isUnsafe d = false

/- A scheme as `urlsplit` returns it. -/
structure IsScheme (scheme : Text) : Prop where
  head : ∃ c cs, scheme = c :: cs ∧ c.isAlpha
  chars : ∀ d ∈ scheme, isSchemeChar d
  lower : scheme.map Char.toLower = scheme

theorem isC0OrSpace_of_isAlpha (hAlpha : c.isAlpha) : isC0OrSpace c = false := by
  simp only [isC0OrSpace, decide_eq_false_iff_not, not_le]
  simp only [Char.isAlpha, Char.isUpper, Char.isLower,
    Bool.or_eq_true, Bool.and_eq_true, decide_eq_true_eq,
    UInt32.le_iff_toNat_le, ge_iff_le] at hAlpha
  have hA : 'A'.val.toNat = 65 := rfl
  have ha : 'a'.val.toNat = 97 := rfl
  have hc : c.toNat = c.val.toNat := rfl
  omega

theorem splitScheme_join (hScheme : IsScheme scheme) :
    splitScheme (scheme ++ ':' :: rest) = (scheme, rest) := by
  rcases hScheme.head with ⟨c, cs, hCons, hAlpha⟩
  have hNot : ':' ∉ scheme := by
    intro hMem
    have hChar := hScheme.chars ':' hMem
    revert hChar
    decide
  have hAll : ∀ x ∈ scheme, (x != ':') := by
    intro x hx
    simpa using fun hSame : x = ':' => hNot (hSame ▸ hx)
  have hChars : scheme.all isSchemeChar := all_eq_true.mpr hScheme.chars
  unfold splitScheme
  rw [takeWhile_append_of_pos hAll, dropWhile_append_of_pos hAll]
  simp only [takeWhile_cons, dropWhile_cons]
  simp only [bne_self_eq_false, Bool.false_eq_true, if_false, append_nil]
  rw [hCons] at hChars ⊢
  simp only [hAlpha, hChars, and_self, if_true]
  rw [← hCons, hScheme.lower]

theorem splitNetloc_join (hPlain : ∀ d ∈ netloc, isDelim d = false) :
    splitNetloc ('/' :: '/' :: (netloc ++ '/' :: rest)) = (netloc, '/' :: rest) := by
  have hAll : ∀ x ∈ netloc, (!isDelim x) := by
    intro x hx
    simp [hPlain x hx]
  have hSlash : isDelim '/' := by decide
  simp only [splitNetloc]
  rw [takeWhile_append_of_pos hAll, dropWhile_append_of_pos hAll]
  simp [hSlash]

/- The characters of a scheme are kept by `urlsplit`. -/
theorem isUnsafe_of_isSchemeChar (hChar : isSchemeChar c) : isUnsafe c = false := by
  cases hUnsafe : isUnsafe c with
  | false => rfl
  | true =>
    have hCases : (c = '\t' ∨ c = '\r') ∨ c = '\n' := by simpa [isUnsafe] using hUnsafe
    revert hChar
    rcases hCases with (rfl | rfl) | rfl
    · decide
    · decide
    · decide

/- Splitting off the query of a joined path and query. -/
theorem partition_pathQuery (hPath : ∀ d ∈ path, d ≠ '?' ∧ d ≠ '#')
    (hQuery : ∀ d ∈ query, d ≠ '#') :
    partition '#' (pathQuery path query) = (pathQuery path query, []) ∧
      partition '?' (pathQuery path query) = (path, query) := by
  have hNo : '?' ∉ path := fun hMem => (hPath _ hMem).1 rfl
  constructor
  · apply partition_of_not_mem
    intro hMem
    unfold pathQuery at hMem
    split at hMem
    · exact (hPath _ hMem).2 rfl
    · rcases mem_append.mp hMem with hLeft | hRight
      · exact (hPath _ hLeft).2 rfl
      · rcases mem_cons.mp hRight with hHead | hTail
        · revert hHead
          decide
        · exact hQuery _ hTail rfl
  · unfold pathQuery
    split
    next hNil =>
      rw [hNil]
      exact partition_of_not_mem hNo
    · exact partition_append hNo

/- Splitting a joined URL gives its parts back. -/
theorem urlsplit_join (hScheme : IsScheme scheme)
    (hNetloc : Plain netloc) (hPath : ∀ d ∈ '/' :: rest, (d ≠ '?' ∧ d ≠ '#') ∧ isUnsafe d = false)
    (hQuery : ∀ d ∈ query, d ≠ '#' ∧ isUnsafe d = false) :
    urlsplit (scheme ++ ':' :: '/' :: '/' :: (netloc ++ pathQuery ('/' :: rest) query)) =
      ⟨scheme, netloc, '/' :: rest, query, []⟩ := by
  rcases hScheme.head with ⟨c, cs, hCons, hAlpha⟩
  have hStart : (scheme ++ ':' :: '/' :: '/' ::
          (netloc ++ pathQuery ('/' :: rest) query)).dropWhile
          isC0OrSpace =
        scheme ++ ':' :: '/' :: '/' :: (netloc ++ pathQuery ('/' :: rest) query) := by
    rw [hCons, cons_append]
    apply dropWhile_cons_of_neg
    simp [isC0OrSpace_of_isAlpha hAlpha]
  have hTarget : ∀ d ∈ pathQuery ('/' :: rest) query, isUnsafe d = false := by
    intro d hd
    unfold pathQuery at hd
    split at hd
    · exact (hPath d hd).2
    · rcases mem_append.mp hd with hLeft | hRight
      · exact (hPath d hLeft).2
      · rcases mem_cons.mp hRight with rfl | hTail
        · decide
        · exact (hQuery d hTail).2
  have hFilter : (scheme ++ ':' :: '/' :: '/' ::
          (netloc ++ pathQuery ('/' :: rest) query)).filter
          (fun c => !isUnsafe c) =
        scheme ++ ':' :: '/' :: '/' :: (netloc ++ pathQuery ('/' :: rest) query) := by
    apply filter_eq_self.mpr
    intro d hd
    simp only [mem_append, mem_cons] at hd
    rcases hd with hIn | rfl | rfl | rfl | hIn | hIn
    · simp [isUnsafe_of_isSchemeChar (hScheme.chars d hIn)]
    · decide
    · decide
    · decide
    · simp [(hNetloc d hIn).2]
    · simp [hTarget d hIn]
  have hSplit := partition_pathQuery (fun d hd => (hPath d hd).1) (fun d hd => (hQuery d hd).1)
  have hHead : ∃ tail, pathQuery ('/' :: rest) query = '/' :: tail := by
    unfold pathQuery
    split
    · exact ⟨rest, rfl⟩
    · exact ⟨rest ++ '?' :: query, rfl⟩
  unfold urlsplit
  dsimp only
  rw [hStart, hFilter, splitScheme_join hScheme]
  rcases hHead with ⟨tail, hTail⟩
  rw [hTail, splitNetloc_join (fun d hd => (hNetloc d hd).1)]
  rw [← hTail, hSplit.1]
  rw [hSplit.2]

end PyUrl
