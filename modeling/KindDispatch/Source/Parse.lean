import KindDispatch.Source.Grammar.File
import KindDispatch.Source.Lowering
import KindDispatch.Source.TokenStream

/-!
# Parsing

From a source text to its forest: the text is cut into tokens, these are read as a file, and the
file is lowered.  A byte order mark in front of the text is no part of it, and neither is a first
line that names an interpreter.
-/

namespace KindDispatch.Source

def withoutMark (text : List Char) : List Char :=
  if byteOrderMark.toList.isPrefixOf text then text.drop 1 else text

/-- Whether the first line names an interpreter: it starts with `#!`, and not an attribute. -/
def namesInterpreter (text : List Char) : Bool :=
  match text with
  | '#' :: '!' :: rest => !(Cursor.ofList rest).skipBlanks.nextIs (· == '[')
  | _ => false

/-- A text without a first line that names an interpreter; the end of that line is kept, so that
the other lines keep their numbers. -/
def withoutInterpreter (text : List Char) : List Char :=
  if namesInterpreter text then text.dropWhile (· ≠ '\n') else text

def parseFile (source : String) : Except ParseFailure SourceFile := do
  SourceFile.ofTokens? (← tokenTrees (withoutInterpreter (withoutMark source.toList)))

def parse (source : String) : Except ParseFailure Forest :=
  (parseFile source).map SourceFile.lower

end KindDispatch.Source
