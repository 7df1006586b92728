import PatternBook.Json.Scalar

/-!
# Reading a text as a document

Reading never fails: it goes as far as the text is JSON, and the document shows where that ends.
-/

namespace PatternBook.Json

namespace Document

mutual

/-- The document at the start of a text. -/
def readValue : (fuel : Nat) → Text → Reading Document
  | 0, _ => stopAt (.ofFault .malformed)
  | fuel + 1, t =>
    match skipSpace t with
    | [] => stopAt (.ofFault .truncated)
    | c :: t =>
      if c = '\x7b' then
        match skipSpace t with
        | [] => (.object [] (some (.ofFault .truncated)), none)
        | '\x7d' :: rest => (.object [] none, some rest)
        | t =>
          let (fields, stop, rest) := readFields fuel t
          (.object fields stop, rest)
      else if c = '[' then
        match skipSpace t with
        | [] => (.array [] (some (.ofFault .truncated)), none)
        | ']' :: rest => (.array [] none, some rest)
        | t =>
          let (items, stop, rest) := readItems fuel t
          (.array items stop, rest)
      else if c = '"' then readStringValue t
      else if c = '-' then readNumeral true t
      else if c.isDigit then readNumeral false (c :: t)
      else if c = 't' then readWord (.bool true) shortBool "rue" t
      else if c = 'f' then readWord (.bool false) shortBool "alse" t
      else if c = 'n' then readWord .null (.ofFault .truncated) "ull" t
      else stopAt (.ofFault .malformed)

/-- The items of an array from one of them on. -/
def readItems : (fuel : Nat) → Text → List Document × Option Flaw × Option Text
  | 0, _ => ([], some (.ofFault .malformed), none)
  | fuel + 1, t =>
    match readValue fuel t with
    | (item, none) => ([item], none, none)
    | (item, some t) =>
      match skipSpace t with
      | [] => ([item], some (.ofFault .truncated), none)
      | ']' :: rest => ([item], none, some rest)
      | ',' :: t =>
        let (items, stop, rest) := readItems fuel t
        (item :: items, stop, rest)
      | _ => ([item], some (.ofFault .malformed), none)

/-- The fields of an object from one of them on. -/
def readFields : (fuel : Nat) → Text →
    List (Except Fault Text × Document) × Option Flaw × Option Text
  | 0, _ => ([], some (.ofFault .malformed), none)
  | fuel + 1, t =>
    match skipSpace t with
    | [] => ([(.error .truncated, .flawed (.ofFault .truncated))], none, none)
    | '"' :: t =>
      let name := readString t
      match name.rest with
      | .error f =>
        let flaw := name.flaw (some f)
        ([(.error flaw.reading, .flawed flaw)], none, none)
      | .ok t =>
        let key : Except Fault Text :=
          match name.content with
          | some s => .ok s
          | none => .error .malformed
        match skipSpace t with
        | [] => ([(key, .flawed (.ofFault .truncated))], none, none)
        | ':' :: t =>
          match readValue fuel t with
          | (item, none) => ([(key, item)], none, none)
          | (item, some t) =>
            match skipSpace t with
            | [] => ([(key, item)], some (.ofFault .truncated), none)
            | '\x7d' :: rest => ([(key, item)], none, some rest)
            | ',' :: t =>
              let (fields, stop, rest) := readFields fuel t
              ((key, item) :: fields, stop, rest)
            | _ => ([(key, item)], some (.ofFault .malformed), none)
        | _ => ([(key, .flawed (.ofFault .malformed))], none, none)
    | _ => ([(.error .malformed, .flawed (.ofFault .malformed))], none, none)

end

/-- The document of a text, and the fault of what follows it.  Of two steps at least one takes a
character off the text, so twice its length is fuel enough. -/
def ofText (t : Text) : Document × Option Fault :=
  match readValue (2 * t.length + 2) t with
  | (d, none) => (d, none)
  | (d, some rest) => (d, if (skipSpace rest).isEmpty then none else some .malformed)

end Document

end PatternBook.Json
