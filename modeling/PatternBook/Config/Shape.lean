import PatternBook.Json.Document
import PatternBook.Text.Quoted

/-!
# Reading typed values

Typed values are read from JSON documents: texts, lists of texts, and structures whose fields come
by name from an object or in order from an array.  Fields are read as they come, and the first
failure is the answer, be it a flaw of the document or a value of the wrong shape.  Where a value
was in memory before and where it is read from a text, a few rules differ (`Origin`).
-/

namespace PatternBook

open Json (Document Fault Flaw Number)

/-- Where a document comes from. -/
inductive Origin where
  /-- A value that was read as a whole before. -/
  | value
  /-- A text that is read as it is taken apart. -/
  | text
  deriving DecidableEq, Repr

/-- What stands in a document. -/
inductive Found where
  | null
  | bool (b : Bool)
  | number (n : Number)
  | string (s : Text)
  | sequence
  | map
  deriving DecidableEq, Repr

/-- What was found, in words. -/
def Found.toText : Found → Text
  | .null => "null"
  | .bool true => "boolean \x60true\x60"
  | .bool false => "boolean \x60false\x60"
  | .number (.integer n) =>
    "integer \x60" ++ (if n < 0 then ['-'] else []) ++ Text.ofNat n.natAbs ++ "\x60"
  | .number (.real negative x) =>
    "floating point \x60" ++ (if negative then ['-'] else []) ++ x.toText ++ "\x60"
  | .string s => "string " ++ Text.quoted s
  | .sequence => "sequence"
  | .map => "map"

/-- A value of the wrong shape. -/
inductive ShapeError where
  | wrongType (found : Found) (expected : Text)
  | wrongLength (length : Nat) (expected : Text)
  | wrongValue (found : Found) (expected : Text)
  | unknownWord (word : Text) (expected : Text)
  | repeatedField (name : Text)
  /-- Neither a text nor a list of texts. -/
  | neitherForm
  deriving DecidableEq, Repr

/-- The wording of an error. -/
def ShapeError.message : ShapeError → Text
  | .wrongType found expected => "invalid type: " ++ found.toText ++ ", expected " ++ expected
  | .wrongLength length expected =>
    "invalid length " ++ Text.ofNat length ++ ", expected " ++ expected
  | .wrongValue found expected => "invalid value: " ++ found.toText ++ ", expected " ++ expected
  | .unknownWord word expected =>
    "unknown variant \x60" ++ word ++ "\x60, expected " ++ expected
  | .repeatedField name => "duplicate field \x60" ++ name ++ "\x60"
  | .neitherForm => "data did not match any variant of untagged enum OneOrMany"

/-- Why a document does not give a value. -/
inductive Refusal where
  | fault (f : Fault)
  | shape (e : ShapeError)
  deriving DecidableEq, Repr

/-- The wording of a refusal. -/
def Refusal.message : Refusal → Text
  | .shape e => e.message
  | .fault .malformed => "malformed JSON"
  | .fault .truncated => "JSON ends too early"

/-- A typed value, or the first failure. -/
abbrev Typed (α : Type) := Except Refusal α

namespace Typed

/-- What stands in the document instead of what was wanted. -/
def unexpected {α : Type} (expected : Text) : Document → Typed α
  | .null => .error (.shape (.wrongType .null expected))
  | .bool b => .error (.shape (.wrongType (.bool b) expected))
  | .number n => .error (.shape (.wrongType (.number n) expected))
  | .string s => .error (.shape (.wrongType (.string s) expected))
  | .array _ _ => .error (.shape (.wrongType .sequence expected))
  | .object _ _ => .error (.shape (.wrongType .map expected))
  | .flawed flaw => .error (.fault flaw.reading)

/-- The end of an array or an object. -/
def ended (stop : Option Flaw) : Typed Unit :=
  match stop with
  | some flaw => .error (.fault flaw.reading)
  | none => .ok ()

/-- A text. -/
def text : Document → Typed Text
  | .string s => .ok s
  | d => unexpected "a string" d

/-- Null, or a value. -/
def optional {α : Type} (read : Document → Typed α) : Document → Typed (Option α)
  | .null => .ok none
  | d => (read d).map some

/-- Texts, one after the other. -/
def textItems : List Document → Typed (List Text)
  | [] => .ok []
  | d :: rest => do
    let t ← text d
    let ts ← textItems rest
    return t :: ts

/-- A list of texts. -/
def texts : Document → Typed (List Text)
  | .array items stop => do
    let ts ← textItems items
    ended stop
    return ts
  | d => unexpected "a sequence" d

/-- The texts of a document that is a text or a list of texts. -/
def oneOrMany? : Document → Option (List Text)
  | .string s => some [s]
  | .array items _ => items.mapM fun
    | .string s => some s
    | _ => none
  | _ => none

/-- A text or a list of texts.  Both forms are tried, so the document is read as a whole first. -/
def oneOrMany (origin : Origin) (depth : Nat) (d : Document) : Typed (List Text) := do
  if origin = .text then
    match d.toValue (some depth) with
    | .error f => .error (.fault f)
    | .ok _ => pure ()
  match oneOrMany? d with
  | some ts => .ok ts
  | none => .error (.shape .neitherForm)

end Typed

/-! ### Structures -/

/-- How a structure is read. -/
structure Schema (σ : Type) where
  /-- The structure in words. -/
  label   : Text
  /-- The names of its fields in order. -/
  fields  : List Text
  /-- Other names for fields. -/
  aliases : List (Text × Text) := []
  /-- Fields may be missing at the end of an array. -/
  lenient : Bool := false
  /-- The structure without any field. -/
  initial : σ
  /-- A field is read. -/
  set     : σ → (name : Text) → Document → Typed σ

namespace Schema

variable {σ : Type}

/-- The field that a key names. -/
def fieldOf (s : Schema σ) (key : Text) : Option Text :=
  (s.fields.find? (· = key)).or ((s.aliases.find? (·.1 = key)).map (·.2))

/-- Fields by name: a field may come once, and what is no field is skipped. -/
def readFields (s : Schema σ) (seen : List Text) (state : σ) :
    List (Except Fault Text × Document) → Typed σ
  | [] => .ok state
  | (.error f, _) :: _ => .error (.fault f)
  | (.ok key, d) :: rest =>
    match s.fieldOf key with
    | none =>
      match d.skip with
      | some f => .error (.fault f)
      | none => s.readFields seen state rest
    | some name =>
      if name ∈ seen then .error (.shape (.repeatedField name))
      else do
        let state ← s.set state name d
        s.readFields (name :: seen) state rest

/-- The structure with the number of its fields, in words. -/
def labelWithCount (s : Schema σ) : Text :=
  s.label ++ " with " ++ Text.ofNat s.fields.length ++
    (if s.fields.length = 1 then " element" else " elements" : String)

/-- Fields in order, `count` of them read before, and the documents left. -/
def readItems (s : Schema σ) (stop : Option Flaw) (count : Nat) (state : σ) :
    (names : List Text) → List Document → Typed (σ × List Document)
  | [], rest => .ok (state, rest)
  | _ :: names, [] => do
    Typed.ended stop
    if s.lenient then s.readItems stop count state names []
    else .error (.shape (.wrongLength count s.labelWithCount))
  | name :: names, d :: rest => do
    let state ← s.set state name d
    s.readItems stop (count + 1) state names rest

/-- Nothing is left after the fields. -/
def finish (origin : Origin) (length : Nat) (stop : Option Flaw) (left : List Document) :
    Typed Unit :=
  match left, origin with
  | [], _ => Typed.ended stop
  | _ :: _, .value => .error (.shape (.wrongLength length "fewer elements in array"))
  | _ :: _, .text => .error (.fault .malformed)

/-- The structure of a document. -/
def read (s : Schema σ) (origin : Origin) : Document → Typed σ
  | .object fields stop => do
    let state ← s.readFields [] s.initial fields
    Typed.ended stop
    return state
  | .array items stop => do
    let (state, left) ← s.readItems stop 0 s.initial s.fields items
    finish origin items.length stop left
    return state
  | d => Typed.unexpected s.label d

end Schema

end PatternBook
