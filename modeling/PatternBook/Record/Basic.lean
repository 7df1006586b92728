import PatternBook.Path
import PatternBook.Text.Blank

/-!
# Records

What one comment block documents: its tags, its variants, its prose, the code below it and the
variables declared there; and the problems met on the way, which never stop a run.

* `Tags.get_set`: setting a tag changes that tag and no other.
-/

namespace PatternBook

/-! ### Tags -/

/-- A tag that a record carries at most once. -/
inductive Tag where
  | title
  | description
  | usage
  /-- Markup that shows the pattern in use. -/
  | sample
  /-- The record is left out of the page. -/
  | hidden
  | deprecated
  deriving DecidableEq, Repr

namespace Tag

/-- All tags, in the order in which they are listed. -/
def all : List Tag := [.title, .description, .usage, .sample, .hidden, .deprecated]

/-- The word after the `@`. -/
def name : Tag → Text
  | .title => "title"
  | .description => "description"
  | .usage => "usage"
  | .sample => "example"
  | .hidden => "private"
  | .deprecated => "deprecated"

/-- A flag says something by being there, without a value. -/
def isFlag : Tag → Bool
  | .hidden | .deprecated => true
  | _ => false

theorem mem_all (tag : Tag) : tag ∈ all := by
  cases tag <;> simp [all]

end Tag

/-- The tags of a record with their values. -/
structure Tags where
  title       : Option Text := none
  description : Option Text := none
  usage       : Option Text := none
  sample      : Option Text := none
  hidden      : Option Text := none
  deprecated  : Option Text := none
  deriving DecidableEq, Repr, Inhabited

namespace Tags

/-- No tags. -/
def empty : Tags := {}

/-- The value of a tag. -/
def get (tags : Tags) : Tag → Option Text
  | .title => tags.title
  | .description => tags.description
  | .usage => tags.usage
  | .sample => tags.sample
  | .hidden => tags.hidden
  | .deprecated => tags.deprecated

/-- The tags with one value changed. -/
def set (tags : Tags) (tag : Tag) (value : Text) : Tags :=
  match tag with
  | .title => { tags with title := some value }
  | .description => { tags with description := some value }
  | .usage => { tags with usage := some value }
  | .sample => { tags with sample := some value }
  | .hidden => { tags with hidden := some value }
  | .deprecated => { tags with deprecated := some value }

/-- The tags that are present with their values, in the order of `Tag.all`. -/
def toList (tags : Tags) : List (Tag × Text) :=
  Tag.all.filterMap fun tag => (tags.get tag).map fun value => (tag, value)

@[simp] theorem get_empty (tag : Tag) : empty.get tag = none := by
  cases tag <;> rfl

theorem get_set (tags : Tags) (tag other : Tag) (value : Text) :
    (tags.set tag value).get other = if other = tag then some value else tags.get other := by
  cases tag <;> cases other <;> rfl

theorem ext_get {s t : Tags} (h : ∀ tag, s.get tag = t.get tag) : s = t := by
  cases s
  cases t
  simp only [mk.injEq]
  exact ⟨h .title, h .description, h .usage, h .sample, h .hidden, h .deprecated⟩

end Tags

/-! ### Variants and variables -/

/-- A way in which a pattern varies. -/
inductive VariantKind where
  | modifier
  | state
  deriving DecidableEq, Repr

/-- The word after the `@`. -/
def VariantKind.name : VariantKind → Text
  | .modifier => "modifier"
  | .state => "state"

/-- A variant of a pattern. -/
structure Variant where
  kind        : VariantKind
  /-- The first word, such as a class or a pseudo-class. -/
  name        : Text
  description : Text
  deriving DecidableEq, Repr

/-- A declared variable. -/
structure Variable where
  name    : Text
  value   : Text
  /-- The comment that ends its line. -/
  comment : Option Text
  deriving DecidableEq, Repr

/-! ### Diagnostics -/

/-- What went wrong in a file. -/
inductive Problem where
  /-- The file could not be read. -/
  | unreadable
  /-- A comment is never closed. -/
  | unclosedComment
  /-- A tag that needs a value has none. -/
  | emptyTag
  /-- A tag occurs twice in a block. -/
  | duplicateTag
  deriving DecidableEq, Repr

/-- The word for a problem. -/
def Problem.name : Problem → Text
  | .unreadable => "read"
  | .unclosedComment => "unterminatedComment"
  | .emptyTag => "emptyTag"
  | .duplicateTag => "duplicateTag"

/-- A problem with a file, and where in the file it is. -/
structure Diagnostic where
  problem : Problem
  line    : Option Nat
  message : Text
  deriving DecidableEq, Repr

/-- The message with its line. -/
def Diagnostic.toText (d : Diagnostic) : Text :=
  match d.line with
  | some line => "line " ++ Text.ofNat line ++ ": " ++ d.message
  | none => d.message

/-! ### Records -/

/-- What one comment block documents. -/
structure Record where
  tags            : Tags := {}
  variants        : List Variant := []
  body            : Text := []
  /-- The source from the block to the next one that heads code. -/
  code            : Text := []
  /-- The line of the block. -/
  line            : Nat := 0
  declared        : List Variable := []
  sourcePath      : Path := ⟨[]⟩
  sourceExtension : Text := []
  deriving DecidableEq, Repr, Inhabited

namespace Record

/-- The value of the title tag. -/
def title (r : Record) : Option Text := r.tags.get .title

/-- The record is left out of the page. -/
def isHidden (r : Record) : Bool := (r.tags.get .hidden).isSome

/-- The record should no longer be used. -/
def isDeprecated (r : Record) : Bool := (r.tags.get .deprecated).isSome

/-- The variants of one kind, in block order. -/
def variantsOf (r : Record) (kind : VariantKind) : List Variant :=
  r.variants.filter (·.kind = kind)

end Record

end PatternBook
