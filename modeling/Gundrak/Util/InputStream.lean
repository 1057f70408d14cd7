import Gundrak.Util.TextStream

/-!
# Input streams over a text

A text that is read from the front, with the two bits that tell that its end was met (`eof`) and that something
could not be read (`fail`).  While one of them is set nothing is read, and what tries to sets `fail`.

Every operation leaves an end of what was unread before it (`InputStream.IsSuffix`), which is all that a bound on
what is read needs.  Where it matters which characters were taken, `InputStream.Reads` says that they all have a
property: a number takes only characters of numbers (`InputStream.readNumber_reads`).
-/

/-- A stream: what is unread, and whether it has met the end of the text and has failed. -/
structure InputStream where
  rest : List Char
  eof : Bool
  fail : Bool
deriving DecidableEq

namespace InputStream

/-- A stream at the start of a text. -/
def ofText (text : List Char) : InputStream := ⟨text, false, false⟩

variable (s : InputStream)

/-- Whether the stream can be read. -/
def good : Bool := !s.eof && !s.fail

/-- What is left after trying to read a stream that cannot be read. -/
def failed : InputStream := { s with fail := true }

/-- `peek()`. -/
def peek : Option Char × InputStream :=
  if s.good then
    match s.rest with
    | [] => (none, { s with eof := true })
    | c :: _ => (some c, s)
  else (none, s.failed)

/-- `get()`. -/
def get : Option Char × InputStream :=
  if s.good then
    match s.rest with
    | [] => (none, ⟨[], true, true⟩)
    | c :: cs => (some c, { s with rest := cs })
  else (none, s.failed)

/-- `ignore(1)`. -/
def ignore : InputStream :=
  if s.good then
    match s.rest with
    | [] => { s with eof := true }
    | _ :: cs => { s with rest := cs }
  else s.failed

/-- The text after the first `n` characters, or after the first `delim` if it is among them, and whether its end
was met before. -/
def dropTo (delim : Char) : ℕ → List Char → List Char × Bool
  | 0, cs => (cs, false)
  | _ + 1, [] => ([], true)
  | n + 1, c :: cs => if c = delim then (cs, false) else dropTo delim n cs

/-- `ignore(n, delim)`. -/
def ignoreTo (n : ℕ) (delim : Char) : InputStream :=
  if s.good then ⟨(dropTo delim n s.rest).1, (dropTo delim n s.rest).2, false⟩ else s.failed

/-- `stream >> c`, for a character: blanks are skipped. -/
def readChar : Option Char × InputStream :=
  if s.good then
    match s.rest.dropWhile TextStream.isSpace with
    | [] => (none, ⟨[], true, true⟩)
    | c :: cs => (some c, { s with rest := cs })
  else (none, s.failed)

/-- The text up to the first `delim`, of at most `n` characters, what follows it, and whether the end of the text
or the end of the buffer was met before. -/
def splitTo (delim : Char) : ℕ → List Char → List Char × List Char × Bool × Bool
  | _, [] => ([], [], true, false)
  | 0, c :: cs => if c = delim then ([], cs, false, false) else ([], c :: cs, false, true)
  | n + 1, c :: cs =>
    if c = delim then ([], cs, false, false)
    else
      let r := splitTo delim n cs
      (c :: r.1, r.2)

/-- `getline(buffer, n, delim)`: it fails if nothing is read, and if the buffer is too small. -/
def getline (n : ℕ) (delim : Char) : List Char × InputStream :=
  if s.good then
    let r := splitTo delim (n - 1) s.rest
    (r.1, ⟨r.2.1, r.2.2.1, r.2.2.2 || s.rest.isEmpty⟩)
  else ([], s.failed)

/-- `tellg()`, as the number of characters that are left: there is no position in a stream that has failed. -/
def tellg : Option ℕ × InputStream :=
  if s.good then (some s.rest.length, s) else (none, s.failed)

/-! ## Numbers -/

/-- The value of a digit in base 16. -/
def digitValue (c : Char) : Option ℕ :=
  if c.isDigit then some (c.toNat - '0'.toNat)
  else if 'a' ≤ c ∧ c ≤ 'f' then some (c.toNat - 'a'.toNat + 10)
  else if 'A' ≤ c ∧ c ≤ 'F' then some (c.toNat - 'A'.toNat + 10)
  else none

/-- Whether a character is a digit in a base, 10 or 16. -/
def isDigitOf (base : ℕ) (c : Char) : Bool := (digitValue c).any (· < base)

/-- The number that digits stand for. -/
def ofDigits (base : ℕ) (digits : List Char) : ℕ := digits.foldl (fun n c ↦ n * base + (digitValue c).getD 0) 0

/-- What follows the prefix of a number in base 16. -/
def skipPrefix (base : ℕ) : List Char → List Char
  | '0' :: 'x' :: cs => if base = 16 then cs else '0' :: 'x' :: cs
  | '0' :: 'X' :: cs => if base = 16 then cs else '0' :: 'X' :: cs
  | cs => cs

/-- Whether a number starts with a minus, and what follows its sign. -/
def skipSign : List Char → Bool × List Char
  | '-' :: cs => (true, cs)
  | '+' :: cs => (false, cs)
  | cs => (false, cs)

/-- The digits of a number and what follows them. -/
def readDigits (base : ℕ) (cs : List Char) : List Char × List Char :=
  ((skipPrefix base cs).takeWhile (isDigitOf base), (skipPrefix base cs).dropWhile (isDigitOf base))

/-- `stream >> n`, with `std::dec` or `std::hex`: `negative` and `positive` are the greatest numbers with a minus and
without one. -/
def readNumber (base negative positive : ℕ) : (Bool × ℕ) × InputStream :=
  if s.good then
    match s.rest.dropWhile TextStream.isSpace with
    | [] => ((false, 0), ⟨[], true, true⟩)
    | c :: cs =>
      let sign := skipSign (c :: cs)
      let digits := readDigits base sign.2
      let n := ofDigits base digits.1
      ((sign.1, n), ⟨digits.2, digits.2.isEmpty, digits.1.isEmpty || (if sign.1 then negative else positive) < n⟩)
  else ((false, 0), s.failed)

/-- `stream >> n`, for a `uint32`. -/
def readUInt32 (base : ℕ) : UInt32 × InputStream :=
  let r := s.readNumber base (2 ^ 32 - 1) (2 ^ 32 - 1)
  (if r.1.1 then -UInt32.ofNat r.1.2 else UInt32.ofNat r.1.2, r.2)

/-- `stream >> n`, for an `int32`. -/
def readInt32 (base : ℕ) : ℤ × InputStream :=
  let r := s.readNumber base (2 ^ 31) (2 ^ 31 - 1)
  (if r.1.1 then -r.1.2 else r.1.2, r.2)

/-! ## How far is read -/

variable {s}

/-- A stream has read on from another one. -/
def IsSuffix (s' s : InputStream) : Prop := s'.rest <:+ s.rest

theorem IsSuffix.refl (s : InputStream) : IsSuffix s s := List.suffix_rfl

theorem IsSuffix.trans {s₁ s₂ s₃ : InputStream} (h : IsSuffix s₁ s₂) (h' : IsSuffix s₂ s₃) : IsSuffix s₁ s₃ :=
  List.IsSuffix.trans h h'

@[simp] theorem peek_rest : s.peek.2.rest = s.rest := by
  rw [peek]
  split
  · split <;> rfl
  · rfl

theorem get_isSuffix : IsSuffix s.get.2 s := by
  rw [get]
  split
  · split
    · exact List.nil_suffix
    · rename_i c cs hrest
      change cs <:+ s.rest
      rw [hrest]
      exact List.suffix_cons c cs
  · exact List.suffix_rfl

theorem dropTo_suffix (delim : Char) (n : ℕ) (cs : List Char) : (dropTo delim n cs).1 <:+ cs := by
  induction n generalizing cs with
  | zero => exact List.suffix_rfl
  | succ n ih =>
    cases cs with
    | nil => exact List.suffix_rfl
    | cons c cs =>
      rw [dropTo]
      split
      · exact List.suffix_cons c cs
      · exact (ih cs).trans (List.suffix_cons c cs)

theorem readChar_isSuffix : IsSuffix s.readChar.2 s := by
  rw [readChar]
  split
  · split
    · exact List.nil_suffix
    · rename_i c cs hrest
      have hblank : c :: cs <:+ s.rest := hrest ▸ List.dropWhile_suffix _
      exact (List.suffix_cons c cs).trans hblank
  · exact List.suffix_rfl

theorem splitTo_suffix (delim : Char) (n : ℕ) (cs : List Char) : (splitTo delim n cs).2.1 <:+ cs := by
  induction cs generalizing n with
  | nil => cases n <;> exact List.suffix_rfl
  | cons c cs ih =>
    cases n with
    | zero =>
      rw [splitTo]
      split
      · exact List.suffix_cons c cs
      · simp
    | succ n =>
      rw [splitTo]
      split
      · exact List.suffix_cons c cs
      · exact (ih n).trans (List.suffix_cons c cs)

theorem getline_isSuffix (n : ℕ) (delim : Char) : IsSuffix (s.getline n delim).2 s := by
  rw [getline]
  split
  · exact splitTo_suffix delim (n - 1) s.rest
  · exact List.suffix_rfl

/-! ## Which characters are read -/

/-- A text is left of another one when only characters with a property are taken from its front. -/
def Takes (P : Char → Prop) (cs' cs : List Char) : Prop := ∃ pre, cs = pre ++ cs' ∧ ∀ c ∈ pre, P c

/-- A stream has read on from another one, and only characters with a property. -/
def Reads (P : Char → Prop) (s' s : InputStream) : Prop := Takes P s'.rest s.rest

variable {P Q : Char → Prop}

theorem Takes.refl (cs : List Char) : Takes P cs cs := ⟨[], rfl, fun _ hc ↦ absurd hc List.not_mem_nil⟩

theorem Takes.trans {cs₁ cs₂ cs₃ : List Char} (h : Takes P cs₁ cs₂) (h' : Takes P cs₂ cs₃) : Takes P cs₁ cs₃ := by
  obtain ⟨pre, rfl, hpre⟩ := h
  obtain ⟨pre', rfl, hpre'⟩ := h'
  refine ⟨pre' ++ pre, (List.append_assoc ..).symm, fun c hc ↦ ?_⟩
  exact (List.mem_append.mp hc).elim (hpre' c) (hpre c)

theorem Takes.cons {c : Char} (hc : P c) (cs : List Char) : Takes P cs (c :: cs) :=
  ⟨[c], rfl, fun _ hd ↦ List.mem_singleton.mp hd ▸ hc⟩

theorem Takes.dropWhile {p : Char → Bool} (h : ∀ c, p c = true → P c) (cs : List Char) :
    Takes P (cs.dropWhile p) cs := by
  refine ⟨cs.takeWhile p, List.takeWhile_append_dropWhile.symm, fun c hc ↦ h c ?_⟩
  exact List.mem_takeWhile_imp hc

theorem Reads.refl (s : InputStream) : Reads P s s := Takes.refl _

theorem Reads.trans {s₁ s₂ s₃ : InputStream} (h : Reads P s₁ s₂) (h' : Reads P s₂ s₃) : Reads P s₁ s₃ :=
  Takes.trans h h'

theorem Reads.mono {s' s : InputStream} (h : Reads P s' s) (hPQ : ∀ c, P c → Q c) : Reads Q s' s := by
  obtain ⟨pre, hrest, hpre⟩ := h
  exact ⟨pre, hrest, fun c hc ↦ hPQ c (hpre c hc)⟩

theorem Reads.isSuffix {s' s : InputStream} (h : Reads P s' s) : IsSuffix s' s := by
  obtain ⟨pre, hrest, _⟩ := h
  exact ⟨pre, hrest.symm⟩

/-- What the reader of a number may take: blanks, a sign, the prefix of a base, and digits. -/
def isNumberChar (c : Char) : Bool := TextStream.isSpace c || c ∈ ['-', '+', 'x', 'X'] || (digitValue c).isSome

theorem isNumberChar_of_isSpace {c : Char} (h : TextStream.isSpace c = true) : isNumberChar c = true := by
  simp [isNumberChar, h]

theorem isNumberChar_of_isDigitOf {base : ℕ} {c : Char} (h : isDigitOf base c = true) : isNumberChar c = true := by
  obtain ⟨n, hn, _⟩ := (Option.any_eq_true _ _).mp h
  simp [isNumberChar, hn]

theorem skipSign_takes (cs : List Char) : Takes (isNumberChar · = true) (skipSign cs).2 cs := by
  unfold skipSign
  split
  · exact .cons (by decide) _
  · exact .cons (by decide) _
  · exact .refl _

theorem readDigits_takes (base : ℕ) (cs : List Char) : Takes (isNumberChar · = true) (readDigits base cs).2 cs := by
  have hprefix : Takes (isNumberChar · = true) (skipPrefix base cs) cs := by
    unfold skipPrefix
    split
    · split
      · exact (Takes.cons (by decide) _).trans (.cons (by decide) _)
      · exact .refl _
    · split
      · exact (Takes.cons (by decide) _).trans (.cons (by decide) _)
      · exact .refl _
    · exact .refl _
  exact (Takes.dropWhile (fun _ hc ↦ isNumberChar_of_isDigitOf hc) _).trans hprefix

/-- **A number takes only characters of numbers.** -/
theorem readNumber_reads (base negative positive : ℕ) :
    Reads (isNumberChar · = true) (s.readNumber base negative positive).2 s := by
  have hblank : Takes (isNumberChar · = true) (s.rest.dropWhile TextStream.isSpace) s.rest :=
    .dropWhile (fun _ hc ↦ isNumberChar_of_isSpace hc) _
  rw [readNumber]
  split
  · split
    · rename_i hrest
      rwa [hrest] at hblank
    · rename_i c cs hrest
      rw [hrest] at hblank
      exact (readDigits_takes base _).trans ((skipSign_takes _).trans hblank)
  · exact .refl _

end InputStream
