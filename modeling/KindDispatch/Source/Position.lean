/-!
# Positions and parse failures

Lines and columns count from one, columns in characters.
-/

namespace KindDispatch.Source

structure Position where
  line : Nat
  column : Nat
deriving DecidableEq, Repr, Inhabited

namespace Position

def start : Position := ⟨1, 1⟩

def next (position : Position) (c : Char) : Position :=
  if c = '\n' then ⟨position.line + 1, 1⟩ else ⟨position.line, position.column + 1⟩

def left (position : Position) : Position := ⟨position.line, position.column - 1⟩

end Position

structure ParseFailure where
  line : Nat
  column : Nat
  message : String
deriving DecidableEq, Repr, Inhabited

namespace ParseFailure

def ofPosition (position : Position) (message : String) : ParseFailure :=
  ⟨position.line, position.column, message⟩

def display (failure : ParseFailure) : String :=
  s!"{failure.line}:{failure.column}: " ++ failure.message

end ParseFailure

end KindDispatch.Source
