import EntitySearch.Error
import EntitySearch.Query.Filter

/-!
# Configuration

The limits of searches, the result cache, the fields that free text prefers, and the workers that
index in the background.  A configuration with a limit of zero is not valid.
-/
set_option autoImplicit false
namespace EntitySearch

structure IndexingConfig where
  /-- How many workers there are; `none` is one for each processor. -/
  workers : Option Nat := none
  maxRetries : Nat := 3
deriving DecidableEq

structure Config where
  maxResults : Nat := 1000
  maxScopeDepth : Nat := 32
  /-- Is a search without an index an error? -/
  strict : Bool := false
  cacheEnabled : Bool := true
  cacheSeconds : Nat := 30
  freeTextFieldLimit : Nat := 5
  priorityFieldNames : List String :=
    ["label", "title", "name", "file_name", "filename", "content", "description"]
  indexing : IndexingConfig := {}
deriving DecidableEq

namespace Config

def validate (config : Config) : Except SearchError Unit := do
  if config.maxResults = 0 then throw (.invalidArgument (.zero "max_results"))
  if config.maxScopeDepth = 0 then throw (.invalidArgument (.zero "max_scope_depth"))
  if config.indexing.workers = some 0 then throw (.invalidArgument (.zero "indexing.workers"))

/-- How scopes are bound to fields, for an index that can or cannot be asked for elements. -/
def binding (config : Config) (arrays : Bool) : Binding where
  arrays
  priority := config.priorityFieldNames
  limit := config.freeTextFieldLimit

end Config
end EntitySearch
