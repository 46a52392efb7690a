import Mathlib

/-
  Texts as bytes: the UTF-8 encoding, the percent-encoding
  of what is not ASCII, and the Latin-1 decoding that reads
  one character from each byte.

  Key definitions: `ByteText.utf8`, `ByteText.quote`, `ByteText.latin1`
  Main theorems: `ByteText.latin1_utf8_iff`, `ByteText.latin1_quote_iff`
-/

open List

namespace ByteText

/- `text.encode("utf-8")`. -/
def utf8 (s : List Char) : List UInt8 := s.flatMap String.utf8EncodeChar

/- `data.decode("latin-1")`. -/
def latin1 (bytes : List UInt8) : List Char := bytes.map (fun b => Char.ofNat b.toNat)

def isAscii (c : Char) : Bool := c.toNat < 128

def hexDigit (n : Nat) : UInt8 := UInt8.ofNat (if n < 10 then 48 + n else 55 + n)

/- One byte as a percent sign and two hexadecimal digits. -/
def percentByte (b : UInt8) : List UInt8 := [37, hexDigit (b.toNat / 16), hexDigit (b.toNat % 16)]

/- UTF-8 with the non-ASCII characters percent-encoded. -/
def quote (s : List Char) : List UInt8 := s.flatMap (fun c =>
    if isAscii c then String.utf8EncodeChar c
    else (String.utf8EncodeChar c).flatMap percentByte)

variable {c : Char} {s : List Char}

/- Every character of the text is ASCII. -/
def AllAscii (s : List Char) : Prop := ∀ c ∈ s, isAscii c

instance (s : List Char) : Decidable (AllAscii s) :=
  inferInstanceAs (Decidable (∀ c ∈ s, isAscii c))

theorem utf8EncodeChar_of_isAscii (hAscii : isAscii c) :
    String.utf8EncodeChar c = [UInt8.ofNat c.toNat] := by
  have hLow : c.val.toNat ≤ 127 := by
    have hLt : c.toNat < 128 := by simpa [isAscii] using hAscii
    exact Nat.le_of_lt_succ hLt
  simp only [String.utf8EncodeChar]
  rw [if_pos hLow]
  rfl

/- A byte below 128 is read as the character it encodes. -/
theorem latin1_ascii_byte (hAscii : isAscii c) :
    Char.ofNat (UInt8.ofNat c.toNat).toNat = c := by
  have hLow : c.toNat < 128 := by simpa [isAscii] using hAscii
  have hByte : (UInt8.ofNat c.toNat).toNat = c.toNat := by
    rw [UInt8.toNat_ofNat']
    omega
  rw [hByte, Char.ofNat_toNat]

theorem latin1_utf8_of_ascii (hAscii : AllAscii s) : latin1 (utf8 s) = s := by
  induction s with
  | nil => rfl
  | cons c s ih =>
    have hHead := hAscii c mem_cons_self
    have hTail := ih (fun d hd => hAscii d (mem_cons_of_mem _ hd))
    unfold utf8 latin1 at hTail ⊢
    rw [flatMap_cons, utf8EncodeChar_of_isAscii hHead, map_append, hTail]
    simp only [map_cons, map_nil, latin1_ascii_byte hHead]
    rfl

/- Without other characters nothing is percent-encoded. -/
theorem quote_of_ascii (hAscii : AllAscii s) : quote s = utf8 s := by
  unfold quote utf8
  apply flatMap_congr
  intro c hc
  rw [if_pos (hAscii c hc)]

/- A character that is not ASCII takes at least two bytes. -/
theorem two_le_length_utf8EncodeChar (hOther : isAscii c = false) :
    2 ≤ (String.utf8EncodeChar c).length := by
  have hHigh : ¬ c.val.toNat ≤ 127 := by
    have hGe : ¬ c.toNat < 128 := by simpa [isAscii] using hOther
    exact fun hLe => hGe (Nat.lt_succ_of_le hLe)
  simp only [String.utf8EncodeChar]
  rw [if_neg hHigh]
  split
  · simp
  · split
    · simp
    · simp

theorem length_le_utf8 (s : List Char) : s.length ≤ (utf8 s).length := by
  induction s with
  | nil => simp
  | cons c s ih =>
    have hOne : 1 ≤ (String.utf8EncodeChar c).length := by
      rw [String.length_utf8EncodeChar]
      exact Char.utf8Size_pos c
    unfold utf8 at ih ⊢
    rw [flatMap_cons, length_append, length_cons]
    omega

/- The encoding is longer than a text that is not ASCII. -/
theorem length_lt_utf8 (hOther : ¬ AllAscii s) : s.length < (utf8 s).length := by
  induction s with
  | nil => exact absurd (fun d hd => by cases hd) hOther
  | cons c s ih =>
    have hRest := length_le_utf8 s
    cases hHead : isAscii c with
    | false =>
      have hTwo := two_le_length_utf8EncodeChar hHead
      unfold utf8 at hRest ⊢
      rw [flatMap_cons, length_append, length_cons]
      omega
    | true =>
      have hTail : ¬ AllAscii s := by
        intro hAll
        apply hOther
        intro d hd
        rcases mem_cons.mp hd with rfl | hIn
        · exact hHead
        · exact hAll d hIn
      have hLess := ih hTail
      unfold utf8 at hLess ⊢
      rw [flatMap_cons, length_append, length_cons, utf8EncodeChar_of_isAscii hHead]
      simp only [length_singleton]
      omega

/- Reading the UTF-8 bytes of a text as Latin-1 gives the text back exactly when it is ASCII. -/
theorem latin1_utf8_iff : latin1 (utf8 s) = s ↔ AllAscii s := by
  constructor
  · intro hSame
    by_contra hOther
    have hLess := length_lt_utf8 hOther
    have hLength := congrArg List.length hSame
    rw [latin1, length_map] at hLength
    omega
  · exact latin1_utf8_of_ascii

theorem hexDigit_lt (hDigit : n < 16) : (hexDigit n).toNat < 128 := by
  unfold hexDigit
  rw [UInt8.toNat_ofNat']
  split <;> omega

/- Percent-encoded text is made of ASCII bytes. -/
theorem lt_of_mem_quote (hMem : b ∈ quote s) : b.toNat < 128 := by
  unfold quote at hMem
  rcases mem_flatMap.mp hMem with ⟨c, _, hByte⟩
  split at hByte
  next hAscii =>
    rw [utf8EncodeChar_of_isAscii hAscii] at hByte
    rw [mem_singleton.mp hByte, UInt8.toNat_ofNat']
    have hLow : c.toNat < 128 := by simpa [isAscii] using hAscii
    omega
  · rcases mem_flatMap.mp hByte with ⟨b', _, hCode⟩
    have hSize : b'.toNat < 256 := UInt8.toNat_lt b'
    simp only [percentByte, mem_cons, not_mem_nil, or_false] at hCode
    rcases hCode with rfl | rfl | rfl
    · decide
    · exact hexDigit_lt (by omega)
    · exact hexDigit_lt (by omega)

/- Reading the percent-encoded bytes of a text as Latin-1 gives the text back exactly when it is
   ASCII. -/
theorem latin1_quote_iff : latin1 (quote s) = s ↔ AllAscii s := by
  constructor
  · intro hSame c hc
    rw [← hSame, latin1, mem_map] at hc
    rcases hc with ⟨b, hb, rfl⟩
    have hLow := lt_of_mem_quote hb
    have hChar : (Char.ofNat b.toNat).toNat = b.toNat := by
      have hValid : b.toNat.isValidChar := .inl (by omega)
      simp [Char.ofNat, hValid, Char.toNat, Char.ofNatAux]
    simp only [isAscii, hChar, decide_eq_true_eq]
    exact hLow
  · intro hAscii
    rw [quote_of_ascii hAscii]
    exact latin1_utf8_of_ascii hAscii

end ByteText
