/-!
# Paths

A path is a text whose components are separated by slashes.  Two texts can name the same path: a
slash more than needed and a dot inside a path say nothing.  Paths are compared by component.
-/

namespace KindDispatch.Path

/-- A step of a path; the order of the constructors is the order of paths. -/
inductive Component where
  /-- The slash an absolute path starts with. -/
  | root
  /-- A dot at the start of a path. -/
  | here
  | up
  | name (text : String)
deriving DecidableEq, Repr, Inhabited

namespace Component

def rank : Component → Nat
  | root => 0
  | here => 1
  | up => 2
  | name _ => 3

def compare : Component → Component → Ordering
  | name a, name b => Ord.compare a b
  | a, b => Ord.compare a.rank b.rank

end Component

def segmentsFrom (current : List Char) : List Char → List String
  | [] => [String.ofList current.reverse]
  | c :: rest =>
    if c = '/' then String.ofList current.reverse :: segmentsFrom [] rest
    else segmentsFrom (c :: current) rest

def segments (path : String) : List String := segmentsFrom [] path.toList

def component? (segment : String) : Option Component :=
  if segment = "" || segment = "." then none
  else if segment = ".." then some .up
  else some (.name segment)

def isAbsolute (path : String) : Bool := path.toList.head? = some '/'

def components (path : String) : List Component :=
  let steps := (segments path).filterMap component?
  if isAbsolute path then .root :: steps
  else if (segments path).head? = some "." then .here :: steps
  else steps

def compareComponents : List Component → List Component → Ordering
  | [], [] => .eq
  | [], _ :: _ => .lt
  | _ :: _, [] => .gt
  | a :: as, b :: bs => (a.compare b).then (compareComponents as bs)

def compare (a b : String) : Ordering := compareComponents (components a) (components b)

def join (directory name : String) : String :=
  if directory = "" || isAbsolute name then name
  else if directory.toList.getLast? = some '/' then directory ++ name
  else directory ++ "/" ++ name

def fileName? (path : String) : Option String :=
  match (components path).getLast? with
  | some (.name text) => some text
  | _ => none

def nameHasExtension (name ext : List Char) : Bool :=
  let stem := name.take (name.length - ext.length)
  ext.isSuffixOf name && 1 < stem.length && stem.getLast? = some '.'

def hasExtension (path : String) (extensions : List String) : Bool :=
  match fileName? path with
  | none => false
  | some name => extensions.any fun ext => nameHasExtension name.toList ext.toList

end KindDispatch.Path
