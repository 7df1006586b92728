import PatternBook.Comment.Block
import PatternBook.Record.Annotated
import PatternBook.Record.Declaration

/-!
# Findings of a source

The records and the diagnostics of one source text: each chapter is read, and the declarations in
its code are collected where the dialect asks for them.
-/

namespace PatternBook

/-- What is read beside the tags. -/
inductive Dialect where
  | standard
  /-- The variables declared in the code of each record, too. -/
  | variable
  deriving DecidableEq, Repr

/-- The records and diagnostics of a source. -/
structure Findings where
  records     : List Record := []
  diagnostics : List Diagnostic := []
  deriving DecidableEq, Repr

namespace Findings

/-- The variables of a piece of code, as far as the dialect collects them. -/
def declarations (dialect : Dialect) (code : Text) : List Variable :=
  match dialect with
  | .standard => []
  | .variable => Declaration.ofCode code

/-- What one chapter says. -/
def ofChapter (dialect : Dialect) (policy : UntaggedPolicy) (c : Chapter) : Findings :=
  let block := annotate policy c.head.line c.head.text
  let code := Text.trim c.code
  { records := block.record?.toList.map fun record =>
      { record with line := c.head.line, code := code, declared := declarations dialect code }
    diagnostics := block.diagnostics }

/-- The diagnostic for a comment that is never closed. -/
def unclosedComment (f : Family) (line : Nat) : Diagnostic :=
  ⟨.unclosedComment, some line,
    "unterminated comment: \x60" ++ f.opening ++ "\x60 is never closed"⟩

/-- The records and diagnostics of a source. -/
def ofSource (f : Family) (dialect : Dialect) (policy : UntaggedPolicy) (source : Text) :
    Findings :=
  let parts := (chapters f source).map (ofChapter dialect policy)
  { records := parts.flatMap (·.records)
    diagnostics := parts.flatMap (·.diagnostics) ++
      (extract f source).unclosed.toList.map (unclosedComment f) }

end Findings

end PatternBook
