import EntitySearch.Data.Distinct
import EntitySearch.Text.Lowercase
import EntitySearch.Text.Quoted
import EntitySearch.Text.Space

/-!
# Predicates over indexed texts

A predicate says of the texts that a document holds in its fields whether the document is wanted.
Letter case does not count.  `accepts` looks a document up only in the fields that `fields` lists.
-/
set_option autoImplicit false
namespace EntitySearch

inductive Predicate where
  | contains (field term : String)
  | arrayContains (field term : String)
  | not (inner : Predicate)
  | and (clauses : List Predicate)
  | or (clauses : List Predicate)
deriving Inhabited

namespace Predicate

def negate : Predicate → Predicate
  | not inner => inner
  | other => not other

/-- Both predicates; a conjunction on the left takes the other one in. -/
def both : Predicate → Predicate → Predicate
  | and clauses, other => and (clauses ++ [other])
  | left, other => and [left, other]

/-- One of the predicates; a disjunction on the left takes the other one in. -/
def either : Predicate → Predicate → Predicate
  | or clauses, other => or (clauses ++ [other])
  | left, other => or [left, other]

def join (all : Bool) (left right : Predicate) : Predicate :=
  if all then left.both right else left.either right

/-- All or one of some predicates; of none there is no predicate. -/
def combine (all : Bool) : List Predicate → Option Predicate
  | [] => none
  | first :: rest => some (rest.foldl (join all) first)

abbrev Texts := String → List String

/-- Does a text contain a term, letter case aside? -/
def textContains (text term : String) : Bool :=
  Text.occursIn (Text.lower term).toList (Text.lower text).toList

mutual

def accepts (texts : Texts) : Predicate → Bool
  | contains field term => (texts field).any fun text => textContains text term
  | arrayContains field term =>
    (texts field).any fun text => Text.lower text == Text.lower term
  | not inner => !accepts texts inner
  | and clauses => acceptsAll texts clauses
  | or clauses => acceptsAny texts clauses

def acceptsAll (texts : Texts) : List Predicate → Bool
  | [] => true
  | clause :: rest => accepts texts clause && acceptsAll texts rest

def acceptsAny (texts : Texts) : List Predicate → Bool
  | [] => false
  | clause :: rest => accepts texts clause || acceptsAny texts rest

end

mutual

def mentions : Predicate → List String
  | contains field _ => [field]
  | arrayContains field _ => [field]
  | not inner => mentions inner
  | and clauses => mentionsOf clauses
  | or clauses => mentionsOf clauses

def mentionsOf : List Predicate → List String
  | [] => []
  | clause :: rest => mentions clause ++ mentionsOf rest

end

/-- The field names of a predicate in the order of their first use. -/
def fields (p : Predicate) : List String := distinct p.mentions

mutual

def render : Predicate → String
  | contains field term => field ++ " ~ " ++ Text.quoted term
  | arrayContains field term => field ++ " ∋ " ++ Text.quoted term
  | not inner => "NOT (" ++ render inner ++ ")"
  | and clauses => "(" ++ String.intercalate " AND " (renderAll clauses) ++ ")"
  | or clauses => "(" ++ String.intercalate " OR " (renderAll clauses) ++ ")"

def renderAll : List Predicate → List String
  | [] => []
  | clause :: rest => render clause :: renderAll rest

end

end Predicate
end EntitySearch
