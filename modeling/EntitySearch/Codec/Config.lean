import EntitySearch.Config
import EntitySearch.Json.Fields
import EntitySearch.Json.Reader

/-!
# Documents for configurations

A configuration is a record in which every field has a default.  `Config.ofText` reads a
configuration file and checks it.
-/
set_option autoImplicit false
namespace EntitySearch

namespace IndexingConfig

def toJson (config : IndexingConfig) : Json :=
  let workers := match config.workers with
    | some count => .nat count
    | none => .string "default"
  .object [("workers", workers), ("max_retries", .nat config.maxRetries)]

def fieldSpecs : List Json.FieldSpec := [("workers", .default), ("max_retries", .default)]

def ofJson? (j : Json) : Option IndexingConfig :=
  match j.fields? fieldSpecs with
  | some [workers, maxRetries] => do
    let workers ← Json.orDefault none (fun j => j.unsigned?.map some) workers
    let maxRetries ← Json.orDefault ({} : IndexingConfig).maxRetries (Json.natUpTo? 255) maxRetries
    return { workers, maxRetries }
  | _ => none

end IndexingConfig

namespace Config

def fieldSpecs : List Json.FieldSpec :=
  ["max_results", "max_scope_depth", "strict", "cache_enabled", "cache_ttl_secs",
    "free_text_field_limit", "priority_field_names", "indexing"].map fun key => (key, .default)

def shape : Json.Shape := .ofFields fieldSpecs [("indexing", .ofFields IndexingConfig.fieldSpecs [])]

def ofJson? (j : Json) : Option Config :=
  let fallback : Config := {}
  match j.fields? fieldSpecs with
  | some [results, depth, strict, cached, seconds, limit, priority, indexing] => do
    let maxResults ← Json.orDefault fallback.maxResults Json.unsigned? results
    let maxScopeDepth ← Json.orDefault fallback.maxScopeDepth Json.unsigned? depth
    let strict ← Json.orDefault fallback.strict Json.bool? strict
    let cacheEnabled ← Json.orDefault fallback.cacheEnabled Json.bool? cached
    let cacheSeconds ← Json.orDefault fallback.cacheSeconds Json.unsigned? seconds
    let freeTextFieldLimit ← Json.orDefault fallback.freeTextFieldLimit Json.unsigned? limit
    let priorityFieldNames ←
      Json.orDefault fallback.priorityFieldNames (Json.list? Json.string?) priority
    let indexing ← Json.orDefault fallback.indexing IndexingConfig.ofJson? indexing
    return { maxResults, maxScopeDepth, strict, cacheEnabled, cacheSeconds, freeTextFieldLimit,
             priorityFieldNames, indexing }
  | _ => none

def toMembers (config : Config) : List (String × Json) :=
  [("max_results", .nat config.maxResults), ("max_scope_depth", .nat config.maxScopeDepth),
    ("strict", .bool config.strict), ("cache_enabled", .bool config.cacheEnabled),
    ("cache_ttl_secs", .nat config.cacheSeconds),
    ("free_text_field_limit", .nat config.freeTextFieldLimit),
    ("priority_field_names", .strings config.priorityFieldNames),
    ("indexing", config.indexing.toJson)]

def ofText (text : String) : Except SearchError Config :=
  match (Json.parseAs shape text).bind ofJson? with
  | none => .error .json
  | some config => config.validate.map fun _ => config

end Config
end EntitySearch
