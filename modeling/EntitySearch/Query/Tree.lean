import EntitySearch.Error
import EntitySearch.Query.Scope

/-!
# Scope trees and the flat entries they are written as

A request is a list of keys with values.

| key             | meaning                                                   |
|-----------------|-----------------------------------------------------------|
| `title`         | a field of the scope `0`                                  |
| `match_all`     | the match-all flag of the scope `0`                       |
| `__A__title`    | a field of the scope `A`                                  |
| `__A__match_all`| the match-all flag of the scope `A`                       |
| `__op__A_B`     | with value `and=R` or `or=R`: the operator `R` of `A`, `B` |
| `__result`      | the scope or operator whose results are asked for         |

Scope identifiers are not empty and hold no underscore.  Each entry is read on its own
(`Entry.read`) and the entries are put into the tree in order, so the last one for a target wins.
-/
set_option autoImplicit false
namespace EntitySearch

abbrev Request := List (String × String)

namespace Request

/-- The entry an argument `KEY=VALUE` stands for: the first equals sign parts it. -/
def entryOfArgument (argument : String) : Except SearchError (String × String) :=
  match Text.cut? ['='] argument.toList with
  | some (key, value) => .ok (String.ofList key, String.ofList value)
  | none => .error (.notAnEntry argument)

def ofArguments (arguments : List String) : Except SearchError Request :=
  arguments.mapM entryOfArgument

end Request

inductive Combinator where
  | and
  | or
deriving DecidableEq, Repr

structure Operator where
  operands : List String
  combinator : Combinator
deriving DecidableEq

structure QueryTree where
  scopes : SortedMap String Scope := .empty
  operators : SortedMap String Operator := .empty
  resultScope : String := "0"
deriving DecidableEq

def defaultScope : String := "0"

/-- What one entry of a request says. -/
inductive Entry where
  | result (name : String)
  | operator (name : String) (definition : Operator)
  /-- A match-all flag; `none` for a value that is no flag. -/
  | matchAll (scope value : String) (flag : Option Bool)
  | field (scope name value : String)
  | malformed (key : String)
deriving DecidableEq

namespace Entry

def marker : List Char := ['_', '_']

def operatorMarker : List Char := ['_', '_', 'o', 'p', '_', '_']

def resultKey : String := "__result"

def matchAllKey : String := "match_all"

def plainWord (value : String) : String :=
  String.ofList ((Text.trim value.toList).map Char.toLower)

def flag? (value : String) : Option Bool :=
  let word := plainWord value
  if word ∈ ["true", "1", "yes", "on"] then some true
  else if word ∈ ["false", "0", "no", "off"] then some false
  else none

def combinator (value : String) : Except SearchError Combinator :=
  let word := plainWord value
  if word = "and" then .ok .and
  else if word = "or" then .ok .or
  else .error (.configuration (.unknownCombinator word))

/-- Can a text be a scope identifier? -/
def isScopeId (id : List Char) : Bool := !id.isEmpty && !id.contains '_'

def readOperator (definition : List Char) (value : String) : Except SearchError Entry := do
  let operands := Text.splitOn '_' definition
  if operands.length < 2 || operands.any List.isEmpty then
    throw (.configuration (.tooFewOperands (String.ofList definition)))
  match Text.cut? ['='] value.toList with
  | none => throw (.configuration (.operatorValue (String.ofList definition)))
  | some (word, name) =>
    let name := Text.trim name
    if name.isEmpty then throw (.configuration (.emptyAlias (String.ofList definition)))
    let combinator ← combinator (String.ofList word)
    return .operator (String.ofList name) ⟨operands.map String.ofList, combinator⟩

def ofField (scope name value : String) : Entry :=
  if name = matchAllKey then .matchAll scope value (flag? value) else .field scope name value

/-- What a key and its value say.  Only a malformed operator definition fails. -/
def read (key value : String) : Except SearchError Entry :=
  let cs := key.toList
  if key = resultKey then .ok (.result (trimmedValue value))
  else if operatorMarker.isPrefixOf cs then
    readOperator (cs.drop operatorMarker.length) value
  else if marker.isPrefixOf cs then
    match Text.cut? marker (cs.drop marker.length) with
    | some (scope, name) =>
      if isScopeId scope && !name.isEmpty then
        .ok (ofField (String.ofList scope) (String.ofList name) value)
      else .ok (.malformed key)
    | none => .ok (.malformed key)
  else .ok (ofField defaultScope key value)

def warning? : Entry → Option LogEntry
  | malformed key => some (.warning s!"dropping malformed scoped key '{key}'")
  | matchAll scope value none =>
    some (.warning s!"dropping malformed match_all value '{value}' of scope '{scope}'")
  | _ => none

end Entry

namespace QueryTree

def scopeOr (matchAllDefault : Bool) (tree : QueryTree) (id : String) : Scope :=
  (tree.scopes.get? id).getD { matchAll := matchAllDefault }

def add (matchAllDefault : Bool) (tree : QueryTree) : Entry → QueryTree
  | .result name => { tree with resultScope := name }
  | .operator name definition => { tree with operators := tree.operators.insert name definition }
  | .matchAll id _ flag =>
    let scope := tree.scopeOr matchAllDefault id
    { tree with scopes := tree.scopes.insert id { scope with matchAll := flag.getD scope.matchAll } }
  | .field id name value =>
    let scope := tree.scopeOr matchAllDefault id
    { tree with scopes := tree.scopes.insert id (scope.setField name value) }
  | .malformed _ => tree

/-- The tree a request stands for.  Scopes start with the flag `matchAllDefault`. -/
def decode (request : Request) (matchAllDefault : Bool) : Except SearchError QueryTree :=
  (request.mapM fun e => Entry.read e.1 e.2).map fun entries =>
    entries.foldl (add matchAllDefault) {}

def decodeLog : Request → List LogEntry
  | [] => []
  | (key, value) :: rest =>
    match Entry.read key value with
    | .ok entry => entry.warning?.toList ++ decodeLog rest
    | .error _ => []

end QueryTree
end EntitySearch
