import EntitySearch.Json.Basic
import EntitySearch.Query.Predicate
import EntitySearch.Query.Term
import EntitySearch.Query.Tree

/-!
# Documents for queries

Terms, predicates, scopes, operators and scope trees can be written as documents.
-/
set_option autoImplicit false
namespace EntitySearch

def Term.toJson (term : Term) : Json :=
  .object [("text", .string term.text), ("neg", .bool term.isNegated),
    ("meta", .bool term.isKeyword), ("display", .string term.render)]

namespace Predicate

mutual

def toJson : Predicate → Json
  | contains field term => .object [("contains", .strings [field, term])]
  | arrayContains field term => .object [("array", .strings [field, term])]
  | not inner => .object [("not", toJson inner)]
  | and clauses => .object [("and", .array (toJsonAll clauses))]
  | or clauses => .object [("or", .array (toJsonAll clauses))]

def toJsonAll : List Predicate → List Json
  | [] => []
  | clause :: rest => toJson clause :: toJsonAll rest

end

end Predicate

def Scope.toJson (scope : Scope) : Json :=
  .object [("match_all", .bool scope.matchAll),
    ("fields", .ofMap (scope.fields.map fun _ value => .string value))]

def Combinator.word : Combinator → String
  | .and => "and"
  | .or => "or"

def Operator.toJson (operator : Operator) : Json :=
  .object [("operands", .strings operator.operands),
    ("combinator", .string operator.combinator.word)]

def QueryTree.toJson (tree : QueryTree) : Json :=
  .object [("scopes", .ofMap (tree.scopes.map fun _ scope => scope.toJson)),
    ("operators", .ofMap (tree.operators.map fun _ operator => operator.toJson)),
    ("result_scope", .string tree.resultScope)]

def QueryMode.word : QueryMode → String
  | .freeText => "free_text"
  | .structured => "structured"

end EntitySearch
