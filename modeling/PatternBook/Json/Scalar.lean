import PatternBook.Json.Document
import PatternBook.Json.Numeral

/-!
# Scalars in a text

The words, numerals and strings at the start of a text.  A string may hold an escape that stands
for no character, such as half of a surrogate pair; then it has no text, but it still has an end.

* `length_readLowHalf`: an escape takes something off the text, so reading a string ends.
-/

namespace PatternBook.Json

namespace Document

/-! ### Words and numerals -/

/-- A blank between tokens. -/
def isSpace (c : Char) : Bool := c == ' ' || c == '\n' || c == '\t' || c == '\r'

/-- The text from its first token on. -/
def skipSpace (t : Text) : Text := t.dropWhile isSpace

/-- What was read of a text, and what is left of it; nothing is left after a flaw that no one can
pass over. -/
abbrev Reading (α : Type) := α × Option Text

/-- A flaw that no one can pass over. -/
def stopAt (flaw : Flaw) : Reading Document := (.flawed flaw, none)

/-- The rest of a word whose first letter has been read; `short` is the flaw if it breaks off. -/
def readWord (value : Document) (short : Flaw) : (word : Text) → Text → Reading Document
  | [], t => (value, some t)
  | _ :: _, [] => stopAt short
  | w :: word, c :: t =>
    if w = c then readWord value short word t else stopAt (.ofFault .malformed)

/-- The flaw of a truth value that breaks off. -/
def shortBool : Flaw := ⟨.truncated, .malformed, some .truncated⟩

/-- The value of a decimal digit. -/
def digitValue (c : Char) : Nat := c.toNat - '0'.toNat

/-- The flaw where a digit must stand: whoever skips a numeral does not ask for its end. -/
def missingDigit (t : Text) : Flaw :=
  if t.isEmpty then ⟨.truncated, .malformed, some .malformed⟩ else .ofFault .malformed

/-- A numeral whose sign and digits have been read, with what is left. -/
def finishNumeral (n : Numeral) (rest : Text) : Reading Document :=
  match n.value with
  | some value => (.number value, some rest)
  | none => (.flawed ⟨.malformed, .malformed, none⟩, some rest)

/-- The exponent of a numeral, if there is one. -/
def readExponent (n : Numeral) (t : Text) : Reading Document :=
  match t with
  | c :: t =>
    if c = 'e' ∨ c = 'E' then
      let (down, t) : Bool × Text :=
        match t with
        | '+' :: t => (false, t)
        | '-' :: t => (true, t)
        | t => (false, t)
      let digits := t.takeWhile Char.isDigit
      if digits.isEmpty then stopAt (missingDigit t)
      else finishNumeral { n with exponent := some (down, digits.map digitValue) }
        (t.dropWhile Char.isDigit)
    else finishNumeral n (c :: t)
  | [] => finishNumeral n []

/-- The places after the point of a numeral, if there is one. -/
def readPlaces (n : Numeral) (t : Text) : Reading Document :=
  match t with
  | '.' :: t =>
    let digits := t.takeWhile Char.isDigit
    if digits.isEmpty then stopAt (missingDigit t)
    else readExponent { n with places := some (digits.map digitValue) } (t.dropWhile Char.isDigit)
  | t => readExponent n t

/-- A numeral whose sign has been read: a zero stands alone before the point. -/
def readNumeral (negative : Bool) (t : Text) : Reading Document :=
  let digits := t.takeWhile Char.isDigit
  match digits with
  | [] => stopAt (missingDigit t)
  | '0' :: _ :: _ => stopAt (.ofFault .malformed)
  | digits =>
    readPlaces ⟨negative, digits.map digitValue, none, none⟩ (t.dropWhile Char.isDigit)

/-! ### Strings -/

/-- The value of a hexadecimal digit. -/
def hexValue? (c : Char) : Option Nat :=
  if '0' ≤ c ∧ c ≤ '9' then some (c.toNat - '0'.toNat)
  else if 'a' ≤ c ∧ c ≤ 'f' then some (c.toNat - 'a'.toNat + 10)
  else if 'A' ≤ c ∧ c ≤ 'F' then some (c.toNat - 'A'.toNat + 10)
  else none

/-- Four hexadecimal digits; with fewer than four bytes left the text ends too early. -/
def readHex (t : Text) : Except Fault (Nat × Text) :=
  match t with
  | a :: b :: c :: d :: rest =>
    match hexValue? a, hexValue? b, hexValue? c, hexValue? d with
    | some a, some b, some c, some d => .ok (((a * 16 + b) * 16 + c) * 16 + d, rest)
    | _, _, _, _ => .error .malformed
  | t => if Text.size t < 4 then .error .truncated else .error .malformed

/-- What a letter after a backslash stands for. -/
def unescape? : Char → Option Char
  | '"' => some '"'
  | '\\' => some '\\'
  | '/' => some '/'
  | 'b' => some '\x08'
  | 'f' => some '\x0C'
  | 'n' => some '\n'
  | 'r' => some '\r'
  | 't' => some '\t'
  | _ => none

/-- The second half of a surrogate pair. -/
inductive LowHalf where
  | found (code : Nat) (rest : Text)
  | missing
  | truncated

/-- The escape of a second half at the start of a text. -/
def readLowHalf (t : Text) : LowHalf :=
  match t with
  | [] => .truncated
  | ['\\'] => .truncated
  | '\\' :: 'u' :: t =>
    match readHex t with
    | .error .truncated => .truncated
    | .error .malformed => .missing
    | .ok (code, rest) => if 0xDC00 ≤ code ∧ code ≤ 0xDFFF then .found code rest else .missing
  | _ => .missing

/-- A string after its opening quote: its text, unless an escape in it stands for no character,
and what follows its closing quote, or why there is none. -/
structure StringReading where
  content : Option Text
  rest    : Except Fault Text

/-- The string with one more character at its start. -/
def StringReading.cons (c : Char) (r : StringReading) : StringReading :=
  { r with content := r.content.map (c :: ·) }

/-- The string with no text. -/
def StringReading.spoiled (r : StringReading) : StringReading :=
  { r with content := none }

/-- The string breaks off. -/
def StringReading.broken (f : Fault) : StringReading := ⟨some [], .error f⟩

theorem length_readHex {t rest : Text} {n : Nat} (h : readHex t = .ok (n, rest)) :
    rest.length < t.length := by
  unfold readHex at h
  split at h
  · split at h
    · simp only [Except.ok.injEq, Prod.mk.injEq] at h
      obtain ⟨-, rfl⟩ := h
      simp only [List.length_cons]
      omega
    · simp at h
  · split at h <;> simp at h

theorem length_readLowHalf {t rest : Text} {n : Nat} (h : readLowHalf t = .found n rest) :
    rest.length < t.length := by
  unfold readLowHalf at h
  split at h
  · simp at h
  · simp at h
  · split at h
    · simp at h
    · simp at h
    · next hr =>
      have := length_readHex hr
      split at h
      · simp only [LowHalf.found.injEq] at h
        obtain ⟨-, rfl⟩ := h
        simp only [List.length_cons]
        omega
      · simp at h
  · simp at h

/-- A string after its opening quote. -/
def readString : Text → StringReading
  | [] => .broken .truncated
  | c :: t =>
    if c = '"' then ⟨some [], .ok t⟩
    else if c = '\\' then
      match t with
      | [] => .broken .truncated
      | e :: t =>
        if e = 'u' then
          match _h : readHex t with
          | .error f => .broken f
          | .ok (code, rest) =>
            if 0xDC00 ≤ code ∧ code ≤ 0xDFFF then (readString rest).spoiled
            else if 0xD800 ≤ code ∧ code ≤ 0xDBFF then
              match _k : readLowHalf rest with
              | .found low after =>
                (readString after).cons
                  (Char.ofNat (0x10000 + (code - 0xD800) * 0x400 + (low - 0xDC00)))
              | .missing => (readString rest).spoiled
              | .truncated => readString rest
            else (readString rest).cons (Char.ofNat code)
        else match unescape? e with
          | some d => (readString t).cons d
          | none => .broken .malformed
    else if c.toNat < 0x20 then .broken .malformed
    else (readString t).cons c
  termination_by t => t.length
  decreasing_by
    · have := length_readHex _h
      simp only [List.length_cons]
      omega
    · have := length_readHex _h
      have := length_readLowHalf _k
      simp only [List.length_cons]
      omega
    · have := length_readHex _h
      simp only [List.length_cons]
      omega
    · have := length_readHex _h
      simp only [List.length_cons]
      omega
    · have := length_readHex _h
      simp only [List.length_cons]
      omega
    · simp only [List.length_cons]
      omega
    · simp only [List.length_cons]
      omega

/-- The flaw of a string that breaks off, or of one without a text. -/
def StringReading.flaw (r : StringReading) (f : Option Fault) : Flaw :=
  match r.content, f with
  | none, f => ⟨.malformed, .malformed, f⟩
  | some _, some f => .ofFault f
  | some _, none => ⟨.malformed, .malformed, none⟩

/-- A string as a document. -/
def readStringValue (t : Text) : Reading Document :=
  let r := readString t
  match r.rest, r.content with
  | .ok rest, some s => (.string s, some rest)
  | .ok rest, none => (.flawed (r.flaw none), some rest)
  | .error f, _ => stopAt (r.flaw (some f))

end Document

end PatternBook.Json
