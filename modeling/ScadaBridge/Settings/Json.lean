import ScadaBridge.Catalog.Json
import ScadaBridge.Settings.Basic

/-!
# Settings in JSON

Documents of settings have their members in a fixed order. Reading accepts any order and any part of
them; what is missing has its default. The form tells whether the document is read as it was written.
-/

namespace ScadaBridge

/-- The logging as a document. -/
def Logging.toJson (l : Logging) : Json :=
  .obj [("level", .str l.level), ("console", .bool l.console),
    ("file",
      match l.file with
      | some path => .str path
      | none => .null),
    ("format", .str l.format.name), ("ansi", .bool l.ansi), ("span_events", .bool l.spanEvents)]

/-- The settings as a document. -/
def Settings.toJson (s : Settings) : Json :=
  .obj [("group_id", .str s.groupId), ("edge_node_id", .str s.edgeNodeId),
    ("app_name", .str s.appName),
    ("death_error_codes", .arr (s.deathErrorCodes.map fun c => .ofNat c.toNat)),
    ("internal_timeout_secs", .ofNat s.outageSeconds.toNat), ("logging", s.logging.toJson),
    ("catalog", s.catalog.toJson)]

/-- Reads a form of log lines. -/
def LogFormat.ofJson? (form : RecordForm) (j : Json) : Option LogFormat :=
  (j.plainAlternative? form).bind ofName?

def Logging.ofJson? (form : RecordForm) (j : Json) : Option Logging := do
  let standard : Logging := {}
  let fields ← j.fields? form ["level", "console", "file", "format", "ansi", "span_events"]
  let level ← fields.defaulted "level" Json.text? standard.level
  let console ← fields.defaulted "console" Json.bool? standard.console
  let file ← fields.optional "file" Json.text?
  let format ← fields.defaulted "format" (LogFormat.ofJson? form) standard.format
  let ansi ← fields.defaulted "ansi" Json.bool? standard.ansi
  let spanEvents ← fields.defaulted "span_events" Json.bool? standard.spanEvents
  return ⟨level, console, file, format, ansi, spanEvents⟩

def Settings.ofJson? (form : RecordForm) (j : Json) : Option Settings := do
  let standard : Settings := {}
  let fields ← j.fields? form ["group_id", "edge_node_id", "app_name", "death_error_codes",
    "internal_timeout_secs", "logging", "catalog"]
  let groupId ← fields.defaulted "group_id" Json.text? standard.groupId
  let edgeNodeId ← fields.defaulted "edge_node_id" Json.text? standard.edgeNodeId
  let appName ← fields.defaulted "app_name" Json.text? standard.appName
  let deathErrorCodes ←
    fields.defaulted "death_error_codes" (Json.listOf? Json.uint64?) standard.deathErrorCodes
  let outageSeconds ← fields.defaulted "internal_timeout_secs" Json.uint64? standard.outageSeconds
  let logging ← fields.defaulted "logging" (Logging.ofJson? form) standard.logging
  let catalog ← fields.defaulted "catalog" (Catalog.ofJson? form) standard.catalog
  return ⟨groupId, edgeNodeId, appName, deathErrorCodes, outageSeconds, logging, catalog⟩

end ScadaBridge
