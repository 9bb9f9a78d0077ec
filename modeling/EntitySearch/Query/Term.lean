import EntitySearch.Text.Space

/-!
# Terms of a field value

A field value is read as a sequence of terms.  White space separates terms, double quotes group a
phrase into one term, a leading dash negates a term, and the bare word `OR` is a keyword.  A quote
that is never closed stands for itself.

`Term.scan` reads character by character; `Term.ofText` takes a shorter way through texts that
hold neither a quote, nor a dash, nor the letters of the keyword.
-/
set_option autoImplicit false
namespace EntitySearch

inductive Term where
  | plain (text : String)
  | negated (text : String)
  /-- The boolean keyword. -/
  | keyword (text : String)
deriving DecidableEq, Repr

namespace Term

def text : Term → String
  | plain t | negated t | keyword t => t

def isNegated : Term → Bool
  | negated _ => true
  | _ => false

def isKeyword : Term → Bool
  | keyword _ => true
  | _ => false

/-- The written form: a text with white space in it stands between quotes. -/
def render (term : Term) : String :=
  (if term.isNegated then "-" else "") ++
    (if term.text.toList.any Text.isSpace then "\"" ++ term.text ++ "\"" else term.text)

def onlyKeywords (terms : List Term) : Bool := terms.all isKeyword

def quote : Char := '"'

def dash : Char := '-'

def orKeyword : List Char := ['O', 'R']

/-- A term being read. -/
structure Draft where
  letters : List Char := []
  begun : Bool := false
  quoted : Bool := false
  negated : Bool := false

namespace Draft

def inside (draft : Draft) (c : Char) : Draft := { draft with letters := c :: draft.letters }

/-- The draft with a further letter outside quotes: a dash that begins the term negates it. -/
def outside (draft : Draft) (c : Char) : Draft :=
  if c = dash ∧ !draft.begun ∧ !draft.quoted ∧ !draft.negated then
    { draft with negated := true, begun := true }
  else { draft with letters := c :: draft.letters, begun := true }

def openQuote (draft : Draft) : Draft := { draft with quoted := true, begun := true }

def finish (draft : Draft) : Option Term :=
  let letters := draft.letters.reverse
  if !draft.begun then none
  else if !draft.quoted && !draft.negated && letters == orKeyword then
    some (.keyword (String.ofList letters))
  else if draft.negated then
    if letters.isEmpty then some (.plain (String.ofList [dash]))
    else some (.negated (String.ofList letters))
  else if letters.isEmpty then none
  else some (.plain (String.ofList letters))

end Draft

/-- Reads the rest of a text, which begins `offset` bytes into it.  The quote at the byte
`literal` counts as a letter; `openAt` is where the quote was opened that is not closed yet.
Fails with the place of a quote that is never closed. -/
def scanFrom (literal : Option Nat) (offset : Nat) (draft : Draft) (openAt : Option Nat) :
    List Char → Except Nat (List Term)
  | [] =>
    match openAt with
    | some place => .error place
    | none => .ok draft.finish.toList
  | c :: rest =>
    let next := offset + c.utf8Size
    if c = quote ∧ literal ≠ some offset then
      match openAt with
      | some _ => scanFrom literal next draft none rest
      | none => scanFrom literal next draft.openQuote (some offset) rest
    else if openAt.isSome then scanFrom literal next (draft.inside c) openAt rest
    else if Text.isSpace c then
      (scanFrom literal next {} none rest).map fun terms => draft.finish.toList ++ terms
    else scanFrom literal next (draft.outside c) none rest

def scanWith (cs : List Char) (literal : Option Nat) : Except Nat (List Term) :=
  scanFrom literal 0 {} none cs

def scan (cs : List Char) : List Term :=
  match scanWith cs none with
  | .ok terms => terms
  | .error place =>
    match scanWith cs (some place) with
    | .ok terms => terms
    | .error _ => []

def ofWords (cs : List Char) : List Term :=
  (Text.words cs).map fun word => .plain (String.ofList word)

def needsScan (cs : List Char) : Bool :=
  cs.contains quote || Text.occursIn orKeyword cs || cs.contains dash

def ofChars (cs : List Char) : List Term := if needsScan cs then scan cs else ofWords cs

def ofText (s : String) : List Term := ofChars s.toList

example : ofText "a -\"b c\" OR \"OR\" -" =
    [.plain "a", .negated "b c", .keyword "OR", .plain "OR", .plain "-"] := by decide +kernel
example : ofText "say \"hello" = [.plain "say", .plain "\"hello"] := by decide +kernel

end Term
end EntitySearch
