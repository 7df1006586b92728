import PatternBook.Json.Value

/-!
# JSON documents

A text read as JSON as far as it goes.  Reading a text always gives a document; where the text
stops being JSON the document has a flaw, and what stands before the flaw can still be looked at.
Some flaws matter only to those who want the value (a number out of range, half of a surrogate
pair) and are passed over where a part of the text is skipped.
-/

namespace PatternBook.Json

/-- Why a text is not a document. -/
inductive Fault where
  /-- Something stands where nothing like it may stand. -/
  | malformed
  /-- The text ends too early. -/
  | truncated
  deriving DecidableEq, Repr

/-- What a flaw is to those who come upon it. -/
structure Flaw where
  /-- To those who want the value, whatever it is. -/
  reading  : Fault
  /-- To those who want a string or an object, and see at the first character what there is. -/
  choosing : Fault
  /-- To those who skip the value. -/
  skipping : Option Fault
  deriving DecidableEq, Repr

/-- The same fault for all. -/
def Flaw.ofFault (f : Fault) : Flaw := ⟨f, f, some f⟩

/-- A value of which parts may be flawed. -/
inductive Document where
  | null
  | bool (b : Bool)
  | number (n : Number)
  | string (s : Text)
  /-- `stop` is the flaw in place of the closing bracket. -/
  | array (items : List Document) (stop : Option Flaw)
  /-- `stop` is the flaw in place of the closing brace. -/
  | object (fields : List (Except Fault Text × Document)) (stop : Option Flaw)
  | flawed (flaw : Flaw)

namespace Document

/-! ### Documents as values -/

mutual

/-- The first fault that skipping the document meets. -/
def skip : Document → Option Fault
  | .null | .bool _ | .number _ | .string _ => none
  | .array items stop => (skipItems items).or (stop.bind (·.skipping))
  | .object fields stop => (skipFields fields).or (stop.bind (·.skipping))
  | .flawed flaw => flaw.skipping

/-- The first fault among items. -/
def skipItems : List Document → Option Fault
  | [] => none
  | d :: rest => (skip d).or (skipItems rest)

/-- The first fault among fields. -/
def skipFields : List (Except Fault Text × Document) → Option Fault
  | [] => none
  | field :: rest => (skipField field).or (skipFields rest)

/-- The first fault of a field. -/
def skipField : Except Fault Text × Document → Option Fault
  | (_, d) => skip d

end

/-- The fault of a missing closing bracket, for those who want the value. -/
def endOf (stop : Option Flaw) : Except Fault Unit :=
  match stop with
  | some flaw => .error flaw.reading
  | none => .ok ()

/-- The depth left inside an array or an object, if one may stand here; `none` is no limit. -/
def descend : Option Nat → Option (Option Nat)
  | none => some none
  | some 0 => none
  | some (depth + 1) => some (some depth)

mutual

/-- The value of the document, if it has no flaw and arrays and objects nest at most `depth` deep.
Of equal keys the last wins, and the fields are put into the order of their keys. -/
def toValue (depth : Option Nat) : Document → Except Fault Value
  | .null => .ok .null
  | .bool b => .ok (.bool b)
  | .number n => .ok (.number n)
  | .string s => .ok (.string s)
  | .array items stop =>
    match descend depth with
    | none => .error .malformed
    | some depth => do
      let values ← itemValues depth items
      endOf stop
      return .array values
  | .object fields stop =>
    match descend depth with
    | none => .error .malformed
    | some depth => do
      let values ← fieldValues depth [] fields
      endOf stop
      return .object values
  | .flawed flaw => .error flaw.reading

/-- The values of items. -/
def itemValues (depth : Option Nat) : List Document → Except Fault (List Value)
  | [] => .ok []
  | d :: rest => do
    let v ← toValue depth d
    let vs ← itemValues depth rest
    return v :: vs

/-- The values of fields, added to those before them. -/
def fieldValues (depth : Option Nat) (before : List (Text × Value)) :
    List (Except Fault Text × Document) → Except Fault (List (Text × Value))
  | [] => .ok before
  | field :: rest => do
    let (key, v) ← fieldValue depth field
    fieldValues depth (insertField key v before) rest

/-- The key and the value of a field. -/
def fieldValue (depth : Option Nat) : Except Fault Text × Document → Except Fault (Text × Value)
  | (key, d) => do
    let key ← key
    let v ← toValue depth d
    return (key, v)

end

mutual

/-- A value as a document without flaws. -/
def ofValue : Value → Document
  | .null => .null
  | .bool b => .bool b
  | .number n => .number n
  | .string s => .string s
  | .array items => .array (ofItems items) none
  | .object fields => .object (ofFields fields) none

/-- Items as documents. -/
def ofItems : List Value → List Document
  | [] => []
  | v :: rest => ofValue v :: ofItems rest

/-- Fields as documents. -/
def ofFields : List (Text × Value) → List (Except Fault Text × Document)
  | [] => []
  | field :: rest => ofField field :: ofFields rest

/-- A field as a document. -/
def ofField : Text × Value → Except Fault Text × Document
  | (key, v) => (.ok key, ofValue v)

end

end Document

end PatternBook.Json
