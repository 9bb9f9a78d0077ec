import EntitySearch.Error
import EntitySearch.Text.Space

/-!
# Files

An invocation names its files by paths.  `Files` says what a path leads to.

In a directory of texts (`Files.inDirectory`) a path is a list of names between slashes.  An empty
name or a dot stays where it is, so `a`, `./a` and `.//a` lead to the same text; at the end of a path
it says that the path leads to a directory, so `a/` and `a/.` lead to no text.
-/
set_option autoImplicit false
namespace EntitySearch.CommandLine

/-- The texts of files by path; `none` for a path that leads to no text. -/
abbrev Files := String → Option String

def readFile (files : Files) (path : String) : Except SearchError String :=
  match files path with
  | some text => .ok text
  | none => .error .unreadable

namespace Files

/-- The names on a path without those that stay where they are, except at the end. -/
def namesOn (path : List Char) : List (List Char) :=
  let names := Text.splitOn '/' path
  (names.dropLast.filter fun name => name ≠ [] && name ≠ ['.']) ++ names.getLast?.toList

def below? (root path : List Char) : Option (List Char) :=
  if root.isPrefixOf path then some (path.drop root.length) else none

/-- The texts of a directory by their names; the paths into the directory begin with `root`.  Of two
texts with the same name the later one counts. -/
def inDirectory (root : String) (texts : List (String × String)) : Files := fun path => do
  let inside ← below? root.toList path.toList
  let text ← texts.reverse.find? fun text => namesOn text.1.toList == namesOn inside
  return text.2

example : namesOn ".//a/./b".toList = ["a".toList, "b".toList] := by decide +kernel
example : namesOn "a/".toList = ["a".toList, []] := by decide +kernel

end Files
end EntitySearch.CommandLine
