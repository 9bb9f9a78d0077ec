import EntitySearch.CommandLine.Invocation
import EntitySearch.Json.Writer

/-!
# Output

Documents are shown as JSON or for people to read.  For people, a document with the member `results`
is shown as the hits of a search, one with the member `entity_types` as the description of a dataset,
and any other one member by member.  Members that are missing or of the wrong shape are shown as
empty texts and as zero.
-/
set_option autoImplicit false
namespace EntitySearch.CommandLine

namespace Display

def text? (key : String) (j : Json) : Option String := (j.get? key).bind Json.string?

def textOf (key : String) (j : Json) : String := (text? key j).getD ""

def numberOf (key : String) (j : Json) : Nat := ((j.get? key).bind Json.unsigned?).getD 0

def itemsOf (key : String) (j : Json) : List Json := ((j.get? key).bind Json.array?).getD []

def isTrue (key : String) (j : Json) : Bool := ((j.get? key).bind Json.bool?).getD false

def padded (width : Nat) (text : String) : String :=
  text ++ String.ofList (List.replicate (width - text.length) ' ')

def ruler (mark : Char) (width : Nat) : String := String.ofList (List.replicate width mark)

def hitLine (row : Json) : String :=
  let id := padded 6 (toString (numberOf "id" row))
  let key := (text? "key" row).getD "-"
  match text? "label" row with
  | some label => "  #" ++ id ++ " " ++ padded 12 key ++ " " ++ label
  | none => "  #" ++ id ++ " " ++ key

def searchLines (j : Json) : List String :=
  ["Search Results (" ++ textOf "entity_type" j ++ ", as " ++ textOf "actor" j ++ "):",
    ruler '═' 15] ++
  (itemsOf "results" j).map hitLine ++
  ["", "Total: " ++ toString (numberOf "total" j),
    "Search time: " ++ toString (numberOf "duration_ms" j) ++ "ms"]

/-- The line of a field; a star marks those that free text is bound to. -/
def fieldLine (field : Json) : String :=
  let start := (if isTrue "free_text" field then "  * " else "    ") ++ textOf "name" field
  match text? "related" field with
  | some related =>
    let back := (itemsOf "reverse_path" field).filterMap Json.string?
    start ++ " -> " ++ related ++ " (back: " ++ String.intercalate "." back ++ ")"
  | none => start

def typeLines (type : Json) : List String :=
  ["", textOf "name" type ++ " (" ++ toString (numberOf "documents" type) ++ " documents)"] ++
  ((text? "permission" type).map fun permission => "  permission: " ++ permission).toList ++
  (itemsOf "aliases" type).map (fun other => "  alias: " ++ (other.string?).getD "") ++
  (itemsOf "fields" type).map fieldLine

def junctionLine (j : Json) : String :=
  "  " ++ textOf "junction" j ++ " (" ++ textOf "left" j ++ " <-> " ++ textOf "right" j ++
    ") for " ++ textOf "owner" j ++ "." ++ textOf "field" j

def datasetLines (j : Json) : List String :=
  let junctions := itemsOf "junctions" j
  ["Entity Types:", ruler '═' 13] ++ (itemsOf "entity_types" j).flatMap typeLines ++
  if junctions.isEmpty then []
  else ["", "Junctions:", ruler '─' 10] ++ junctions.map junctionLine

def memberLines (j : Json) : List String :=
  match j.canonical with
  | .object members => members.map fun (key, value) => key ++ ": " ++ value.compact
  | other => [other.compact]

def humanLines (j : Json) : List String :=
  if (j.get? "results").isSome then searchLines j
  else if (j.get? "entity_types").isSome then datasetLines j
  else memberLines j

def ofLines (lines : List String) : String := String.join (lines.map fun line => line ++ "\n")

end Display

/-- The output of a document.  People who ask for more are told first what was done. -/
def Options.output (options : Options) (done : String) (j : Json) : String :=
  match options.format with
  | .json => (if options.pretty then j.pretty else j.compact) ++ "\n"
  | .human =>
    let heading := if 1 < options.verbosity then [done, ""] else []
    Display.ofLines (heading ++ Display.humanLines j)

end EntitySearch.CommandLine
