import PatternBook.Record.Basic

/-!
# Declared variables

Declarations of custom properties and preprocessor variables in a piece of code: a name that
starts with `--`, `$` or `@`, a colon, a value and a semicolon, all on one line, at the start of
the line or after white space, `;` or `{`.  A comment right after the semicolon belongs to the
declaration.
-/

namespace PatternBook

namespace Declaration

/-- A character of a name after its sigil. -/
def isNameChar (c : Char) : Bool := c.isAlphanum || c == '_' || c == '-'

/-- A character that a name can follow. -/
def isBoundary (c : Char) : Bool :=
  c == ' ' || c == '\t' || c == '\n' || c == '\x0B' || c == '\x0C' || c == '\r' ||
    c == ';' || c == '\x7b'

/-- A character that ends a value. -/
def endsValue (c : Char) : Bool := c == ';' || c == '\x7b' || c == '\x7d'

/-- The mark in front of a name, and what follows it. -/
def sigil? : Text → Option (Text × Text)
  | '-' :: '-' :: t => some (['-', '-'], t)
  | '$' :: t => some (['$'], t)
  | '@' :: t => some (['@'], t)
  | _ => none

/-- The name at the start of a text, and what follows it. -/
def name? (t : Text) : Option (Text × Text) :=
  match sigil? t with
  | none => none
  | some (mark, rest) =>
    let word := rest.takeWhile isNameChar
    if word.isEmpty then none else some (mark ++ word, rest.dropWhile isNameChar)

/-- The value at the start of a text up to its semicolon, and what follows that. -/
def value? (t : Text) : Option (Text × Text) :=
  let raw := t.takeWhile (!endsValue ·)
  match t.dropWhile (!endsValue ·) with
  | ';' :: rest => if raw.isEmpty then none else some (Text.trim raw, rest)
  | _ => none

/-- A comment's text, unless it is blank. -/
def remark (t : Text) : Option Text :=
  let text := Text.trim t
  if text.isEmpty then none else some text

/-- The comment at the start of what follows a semicolon on its line, and what follows that. -/
def comment (t : Text) : Option Text × Text :=
  match t.dropWhile isSpaceOrTab with
  | '/' :: '*' :: inner =>
    match Text.splitAt? "*/" inner with
    | some (text, rest) => (remark text, rest)
    | none => (none, t)
  | '/' :: '/' :: text => (remark text, [])
  | _ => (none, t)

/-- The declaration at the start of a text, and what follows it. -/
def first? (t : Text) : Option (Variable × Text) :=
  match name? t with
  | none => none
  | some (name, afterName) =>
    match afterName.dropWhile isSpaceOrTab with
    | ':' :: afterColon =>
      match value? afterColon with
      | none => none
      | some (value, afterValue) =>
        some (⟨name, value, (comment afterValue).1⟩, (comment afterValue).2)
    | _ => none

/-! ### What is left is shorter -/

theorem length_dropWhile_le (p : Char → Bool) (t : Text) : (t.dropWhile p).length ≤ t.length :=
  (List.dropWhile_suffix p).sublist.length_le

theorem length_sigil? {t mark rest : Text} (h : sigil? t = some (mark, rest)) :
    rest.length < t.length := by
  unfold sigil? at h
  split at h <;> grind

theorem length_name? {t name rest : Text} (h : name? t = some (name, rest)) :
    rest.length < t.length := by
  unfold name? at h
  split at h
  · simp at h
  · next mark after hs =>
    have := length_sigil? hs
    have := length_dropWhile_le isNameChar after
    dsimp only at h
    split at h
    · simp at h
    · simp only [Option.some.injEq, Prod.mk.injEq] at h
      obtain ⟨-, rfl⟩ := h
      omega

theorem length_value? {t value rest : Text} (h : value? t = some (value, rest)) :
    rest.length < t.length := by
  unfold value? at h
  dsimp only at h
  have hle := length_dropWhile_le (!endsValue ·) t
  split at h
  · next after hd =>
    rw [hd] at hle
    split at h
    · simp at h
    · simp only [Option.some.injEq, Prod.mk.injEq] at h
      obtain ⟨-, rfl⟩ := h
      simp at hle
      omega
  · simp at h

theorem length_comment (t : Text) : (comment t).2.length ≤ t.length := by
  unfold comment
  have hle := length_dropWhile_le isSpaceOrTab t
  split
  · next inner hd =>
    rw [hd] at hle
    split
    · next text rest hs =>
      have := congrArg List.length (Text.eq_of_splitAt? hs)
      simp at this hle ⊢
      omega
    · simp
  · simp
  · simp

theorem length_first? {t rest : Text} {v : Variable} (h : first? t = some (v, rest)) :
    rest.length < t.length := by
  unfold first? at h
  split at h
  · simp at h
  · next name afterName hn =>
    have := length_name? hn
    have hle := length_dropWhile_le isSpaceOrTab afterName
    split at h
    · next afterColon hd =>
      rw [hd] at hle
      split at h
      · simp at h
      · next value afterValue hv =>
        have := length_value? hv
        have := length_comment afterValue
        simp only [Option.some.injEq, Prod.mk.injEq] at h
        obtain ⟨-, rfl⟩ := h
        simp at hle
        omega
    · simp at h

/-! ### Scanning -/

/-- The declarations of the rest of a line, at a place that is not its start: a declaration needs
a boundary character in front of it, and the next one is looked for after it. -/
def inLine : Text → List Variable
  | [] => []
  | c :: t =>
    if isBoundary c then
      match _h : first? t with
      | some (v, rest) => v :: inLine rest
      | none => inLine t
    else inLine t
  termination_by t => t.length
  decreasing_by
    · have := length_first? _h
      simp only [List.length_cons]
      omega
    · simp
    · simp

/-- The declarations of a line. -/
def ofLine (line : Text) : List Variable :=
  match first? line with
  | some (v, rest) => v :: inLine rest
  | none => inLine line

/-- The declarations of a piece of code, in order. -/
def ofCode (code : Text) : List Variable :=
  (Text.lines code).flatMap ofLine

end Declaration

end PatternBook
