import ChatFlow.Source.Construct
import ChatFlow.Text.Lines

/-!
# Meaningful lines of flow source

A line is meaningful if something other than white space stands in it and it
is no comment.  Lines are numbered from one over all lines of the source, the
meaningless ones included.
-/

namespace ChatFlow.Source

open ChatFlow.Text

structure Line where
  number : Nat
  construct : Construct
deriving DecidableEq, Repr

/-- A comment starts with two slashes or a number sign. -/
def isComment (text : List Char) : Bool :=
  ['/', '/'].isPrefixOf text || ['#'].isPrefixOf text

/-- Reads one line of the source, unless it is blank or a comment. -/
def Line.ofText? (number : Nat) (raw : List Char) : Option Line :=
  let text := trim raw
  if text.isEmpty || isComment text then none
  else some ⟨number, .ofLine (String.ofList text)⟩

/-- The meaningful lines of a source, in order. -/
def lines (source : String) : List Line :=
  ((Text.lines source.toList).zipIdx 1).filterMap fun (raw, number) =>
    Line.ofText? number raw

end ChatFlow.Source
