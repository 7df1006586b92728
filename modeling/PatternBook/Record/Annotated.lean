import PatternBook.Record.TagLine

/-!
# Annotated blocks

Reading one comment block line by line.  A tag stays open for the lines of prose that follow it,
up to the next tag; whatever no tag of the vocabulary owns is the body of the record.  Of a tag
that occurs twice the later value is kept.
-/

namespace PatternBook

/-- What becomes of a block without any tag of the vocabulary. -/
inductive UntaggedPolicy where
  /-- It is no record. -/
  | drop
  /-- It is a record if it has a body. -/
  | keep
  deriving DecidableEq, Repr

/-- A tag whose text may go on. -/
structure OpenTag where
  keyword : Keyword
  line    : Nat
  /-- The parts of its text so far. -/
  parts   : List Text
  deriving DecidableEq, Repr

/-- A block of which some lines have been read. -/
structure Draft where
  tags        : Tags := {}
  variants    : List Variant := []
  body        : List Text := []
  diagnostics : List Diagnostic := []
  /-- A tag of the vocabulary has been met. -/
  recognized  : Bool := false
  open?       : Option OpenTag := none
  deriving DecidableEq, Repr

/-- A text as one part, unless it is empty. -/
def partOf (t : Text) : List Text := if t.isEmpty then [] else [t]

/-- A variant from the value of its tag: its first word, and the rest. -/
def Variant.ofValue (kind : VariantKind) (value : Text) : Variant :=
  ⟨kind, value.takeWhile (!isBlank ·), Text.trim (value.dropWhile (!isBlank ·))⟩

/-- The diagnostic for a tag without the value it needs. -/
def Diagnostic.emptyTag (keyword : Keyword) (line : Nat) : Diagnostic :=
  ⟨.emptyTag, some line, "empty @" ++ keyword.name ++ " tag"⟩

/-- The diagnostic for a tag that was there before. -/
def Diagnostic.duplicateTag (tag : Tag) (line : Nat) : Diagnostic :=
  ⟨.duplicateTag, some line, "duplicate @" ++ tag.name ++ " tag; the later value is kept"⟩

namespace Draft

/-- The tag with its value is entered. -/
def enter (d : Draft) (tag : OpenTag) : Draft :=
  let value := Text.joinWith " " tag.parts
  let empties :=
    if value.isEmpty && tag.keyword.needsValue then [Diagnostic.emptyTag tag.keyword tag.line]
    else []
  match tag.keyword with
  | .single name =>
    let repeats :=
      if (d.tags.get name).isSome then [Diagnostic.duplicateTag name tag.line] else []
    { d with tags := d.tags.set name value, diagnostics := d.diagnostics ++ empties ++ repeats }
  | .variant kind =>
    { d with
      variants := d.variants ++ [Variant.ofValue kind value]
      diagnostics := d.diagnostics ++ empties }

/-- The open tag, if there is one, is entered. -/
def close (d : Draft) : Draft :=
  match d.open? with
  | some tag => { d.enter tag with open? := none }
  | none => d

/-- The next line of the block, with its number. -/
def read (d : Draft) (number : Nat) : Line → Draft
  | .tag keyword text =>
    { d.close with recognized := true, open? := some ⟨keyword, number, partOf text⟩ }
  | .unknownTag text =>
    let closed := d.close
    { closed with body := closed.body ++ [text] }
  | .prose text =>
    match d.open? with
    | some tag =>
      { d with open? := some { tag with parts := tag.parts ++ partOf (Text.trim text) } }
    | none => { d with body := d.body ++ [text] }

/-- The lines of the block from the given number on. -/
def readLines (d : Draft) (number : Nat) : List Text → Draft
  | [] => d
  | line :: rest =>
    (d.read number (Line.ofText (dropGutter line))).readLines (number + 1) rest

end Draft

/-- What a block says. -/
structure Annotated where
  /-- `none` if the block is no record. -/
  record?     : Option Record
  diagnostics : List Diagnostic
  deriving DecidableEq, Repr

/-- A block is read: its text stands between its delimiters and starts on `firstLine`. -/
def annotate (policy : UntaggedPolicy) (firstLine : Nat) (text : Text) : Annotated :=
  let draft := (Draft.readLines {} firstLine (Text.lines text)).close
  let body := Text.trim (Text.joinWith "\n" draft.body)
  let isRecord := draft.recognized || (policy = .keep && !body.isEmpty)
  { record? :=
      if isRecord then some { tags := draft.tags, variants := draft.variants, body := body }
      else none
    diagnostics := draft.diagnostics }

end PatternBook
