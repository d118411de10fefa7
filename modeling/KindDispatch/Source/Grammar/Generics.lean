import KindDispatch.Source.Grammar.Path

/-!
# Generic parameters and where clauses
-/

namespace KindDispatch.Source.Grammar

open Source.Parser

def lifetimeBounds (stop : Tokens → Bool) : Parser Unit := discard (joined stop "+" lifetime)

def endsParameter (tokens : Tokens) : Bool :=
  tokens.isEmpty || tokens.punct "," || tokens.punct ">"

def lifetimeParam (attributes : List Element) : Parser Element := do
  lifetime
  if ← optPunct ":" then lifetimeBounds endsParameter
  return ⟨.lifetimeParam, none, attributes, []⟩

def typeParam (grammar : Grammar) (attributes : List Element) : Parser Element := do
  let name ← identifier
  let bounds ←
    if ← optPunct ":" then
      joined (fun tokens => endsParameter tokens || tokens.punct "=") "+"
        (grammar.bound false true)
    else pure []
  let default ← if ← optPunct "=" then pure [← grammar.type] else pure []
  return ⟨.typeParam, some name, attributes, bounds.map Bound.element ++ default⟩

def constParam (grammar : Grammar) (attributes : List Element) : Parser Element := do
  keyword "const"
  let name ← identifier
  punct ":"
  let type ← grammar.type
  let default ← if ← optPunct "=" then pure [← grammar.constArgument] else pure []
  return ⟨.constParam, some name, attributes, type :: default⟩

/-- One generic parameter of a declaration; only there may a type be left without a name. -/
def genericParam (grammar : Grammar) : Parser Element := do
  let attributes ← grammar.outerAttributes
  let tokens ← ahead
  if tokens.lifetime then lifetimeParam attributes
  else if tokens.identifier then grammar.typeParam attributes
  else if tokens.keyword "const" then grammar.constParam attributes
  else if tokens.keyword "_" then return ⟨.typeParam, some (← anyWord), attributes, []⟩
  else unmet [.lifetime, .identifier, .keyword "const"]

def readQuantified (grammar : Grammar) : Parser Element := do
  let attributes ← grammar.outerAttributes
  let tokens ← ahead
  if tokens.identifier then grammar.typeParam attributes
  else if tokens.lifetime then lifetimeParam attributes
  else if tokens.keyword "const" then grammar.constParam attributes
  else unmet [.identifier, .lifetime, .keyword "const"]

def genericParams (grammar : Grammar) : Parser (Option (List Element)) := do
  unless ← peekPunct "<" do return none
  punct "<"
  let params ← separated (·.punct ">") "," grammar.genericParam
  punct ">"
  return some params

/-- Whether an angle bracket opens generic parameters, and not a type that a path starts with. -/
def opensGenericParams (tokens : Tokens) : Bool :=
  let second : Tokens := tokens.after 1
  let third : Tokens := tokens.after 2
  tokens.punct "<" &&
    (second.punct ">" || second.punct "#" ||
      ((second.lifetime || second.identifier) &&
        (third.punct ">" || third.punct "," || (third.punct ":" && !third.punct "::") ||
          third.punct "=")) ||
      second.keyword "const")

def endsPredicates (tokens : Tokens) : Bool :=
  tokens.isEmpty || tokens.group .brace || tokens.punct "," || tokens.punct ";" ||
    (tokens.punct ":" && !tokens.punct "::") || tokens.punct "="

def predicate (grammar : Grammar) : Parser Element := do
  let tokens ← ahead
  if tokens.lifetime && (tokens.after 1 : Tokens).punct ":" then
    lifetime
    punct ":"
    lifetimeBounds fun tokens => endsPredicates tokens || tokens.punct ":"
    return .plain .predicate []
  else
    let binder ← grammar.optBinder
    let type ← grammar.type
    punct ":"
    let bounds ← joined endsPredicates "+" (grammar.bound false true)
    return .plain .predicate (binder ++ type :: bounds.map Bound.element)

def whereClause (grammar : Grammar) : Parser (Option Element) := do
  unless ← optKeyword "where" do return none
  if opensGenericParams (← ahead) then
    fail "generic parameters on `where` clauses are reserved for future use"
  let predicates ← joined endsPredicates "," grammar.predicate
  return some (.plain .whereClause predicates)

def genericsElement (params : Option (List Element)) (clause : Option Element) : Element :=
  .plain .generics (params.getD [] ++ clause.toList)

end KindDispatch.Source.Grammar
