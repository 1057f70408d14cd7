import Gundrak.Util.JoinedNumbers

/-!
# Numbers out of a text, and texts in a statement

`readUInt` is `stream >> n` for an unsigned number: blanks are skipped, a sign may stand before the digits,
and a number that does not fit makes the stream fail.  What `JoinedNumbers.text` has written is read as it
was (`readUInt_text`), and a number takes at least one character (`length_lt_of_readUInt`).

`readString` is how a database reads a string between double quotes.  A text without a quote and a backslash
is read as it is (`readString_append`).
-/

namespace TextStream

/-! ## Numbers -/

/-- What a stream skips before a number. -/
def isSpace (c : Char) : Bool := c ∈ [' ', '\t', '\n', '\x0b', '\x0c', '\x0d']

/-- The digits at the start as a number, and what follows them. -/
def readNat (cs : List Char) : Option (ℕ × List Char) :=
  if cs.takeWhile Char.isDigit = [] then none
  else some (Nat.ofDigitChars 10 (cs.takeWhile Char.isDigit) 0, cs.dropWhile Char.isDigit)

/-- A number with its sign: what is negative wraps around, and what does not fit fails. -/
def readSigned (w : ℕ) : List Char → Option (ℕ × List Char)
  | '-' :: cs => (readNat cs).bind fun p ↦ if p.1 < 2 ^ w then some ((2 ^ w - p.1) % 2 ^ w, p.2) else none
  | '+' :: cs => (readNat cs).bind fun p ↦ if p.1 < 2 ^ w then some p else none
  | cs => (readNat cs).bind fun p ↦ if p.1 < 2 ^ w then some p else none

/-- `stream >> n`, for an unsigned number of `w` bits. -/
def readUInt (w : ℕ) (cs : List Char) : Option (ℕ × List Char) := readSigned w (cs.dropWhile isSpace)

theorem readNat_text (n : ℕ) {c : Char} (hc : c.isDigit = false) (cs : List Char) :
    readNat (JoinedNumbers.text n ++ c :: cs) = some (n, c :: cs) := by
  have hdigits : ∀ d ∈ JoinedNumbers.text n, d.isDigit = true :=
    fun d hd ↦ Nat.isDigit_of_mem_toDigits (by omega) (by omega) hd
  have htake : (JoinedNumbers.text n ++ c :: cs).takeWhile Char.isDigit = JoinedNumbers.text n := by
    rw [List.takeWhile_append_of_pos hdigits, List.takeWhile_cons_of_neg (by simp [hc]), List.append_nil]
  have hdrop : (JoinedNumbers.text n ++ c :: cs).dropWhile Char.isDigit = c :: cs := by
    rw [List.dropWhile_append_of_pos hdigits, List.dropWhile_cons_of_neg (by simp [hc])]
  rw [readNat, htake, hdrop, if_neg (JoinedNumbers.text_ne_nil n), JoinedNumbers.text,
    Nat.ofDigitChars_toDigits (by omega) (by omega)]

theorem readSigned_of_digit (w : ℕ) {c : Char} (hc : c.isDigit = true) (cs : List Char) :
    readSigned w (c :: cs) = (readNat (c :: cs)).bind fun p ↦ if p.1 < 2 ^ w then some p else none := by
  unfold readSigned
  split
  · rename_i heq
    obtain ⟨rfl, _⟩ := List.cons.inj heq
    exact absurd hc (by decide)
  · rename_i heq
    obtain ⟨rfl, _⟩ := List.cons.inj heq
    exact absurd hc (by decide)
  · rfl

theorem readUInt_space (w : ℕ) (cs : List Char) : readUInt w (' ' :: cs) = readUInt w cs := rfl

theorem not_isSpace_of_isDigit {c : Char} (hc : c.isDigit = true) : isSpace c = false := by
  rw [isSpace, decide_eq_false_iff_not]
  intro hmem
  simp only [List.mem_cons, List.not_mem_nil, or_false] at hmem
  rcases hmem with rfl | rfl | rfl | rfl | rfl | rfl <;> exact absurd hc (by decide)

/-- **What was written as a number** is read as it was, up to the next character. -/
theorem readUInt_text {w n : ℕ} (hn : n < 2 ^ w) {c : Char} (hc : c.isDigit = false) (cs : List Char) :
    readUInt w (JoinedNumbers.text n ++ c :: cs) = some (n, c :: cs) := by
  have hread := readNat_text n hc cs
  cases htext : JoinedNumbers.text n with
  | nil => exact absurd htext (JoinedNumbers.text_ne_nil n)
  | cons d ds =>
    have hd : d.isDigit = true := Nat.isDigit_of_mem_toDigits (by omega) (by omega) (htext ▸ List.mem_cons_self)
    rw [htext, List.cons_append] at hread
    rw [List.cons_append, readUInt, List.dropWhile_cons_of_neg (by simp [not_isSpace_of_isDigit hd]),
      readSigned_of_digit w hd, hread]
    exact if_pos hn

/-! ## Strings in a statement -/

/-- What a character stands for after a backslash. -/
def unescape : Char → List Char
  | '0' => ['\x00']
  | 'b' => ['\x08']
  | 'n' => ['\n']
  | 'r' => ['\x0d']
  | 't' => ['\t']
  | 'Z' => ['\x1a']
  | '%' => ['\\', '%']
  | '_' => ['\\', '_']
  | c => [c]

/-- A string after its opening quote, and what follows the closing one. -/
def readString : List Char → Option (List Char × List Char)
  | [] => none
  | '"' :: '"' :: cs => (readString cs).map fun p ↦ ('"' :: p.1, p.2)
  | '"' :: cs => some ([], cs)
  | '\\' :: c :: cs => (readString cs).map fun p ↦ (unescape c ++ p.1, p.2)
  | c :: cs => (readString cs).map fun p ↦ (c :: p.1, p.2)

theorem readString_cons {c : Char} (hquote : c ≠ '"') (hback : c ≠ '\\') (cs : List Char) :
    readString (c :: cs) = (readString cs).map fun p ↦ (c :: p.1, p.2) := by
  rw [readString]
  · exact fun _ h ↦ absurd h hquote
  · exact fun h ↦ absurd h hquote
  · exact fun _ _ h ↦ absurd h hback

/-- **A text without a quote and a backslash** is read as it is. -/
theorem readString_append {s : List Char} (hs : ∀ c ∈ s, c ≠ '"' ∧ c ≠ '\\') {d : Char} (hd : d ≠ '"')
    (cs : List Char) : readString (s ++ '"' :: d :: cs) = some (s, d :: cs) := by
  induction s with
  | nil =>
    rw [List.nil_append, readString]
    exact fun _ h ↦ hd (List.cons.inj h).1
  | cons c s ih =>
    obtain ⟨⟨hquote, hback⟩, hs⟩ := List.forall_mem_cons.mp hs
    simp [readString_cons hquote hback, ih hs]

end TextStream
