import ScadaBridge.Catalog.Basic

/-!
# Settings

The settings of the bridge: its identity on the SCADA side, when devices count as dead, the logging and
the catalog. Every setting has a default. `Settings.validate` checks that the identifiers can stand in
topics and that the outage timeout is positive.
-/

namespace ScadaBridge

/-- The form of log lines. -/
inductive LogFormat where
  /-- One JSON object a line. -/
  | json
  /-- Several lines for a reader. -/
  | pretty
  /-- One short line. -/
  | compact
deriving DecidableEq, Repr

namespace LogFormat

def all : List LogFormat := [.json, .pretty, .compact]

def name : LogFormat → String
  | .json => "json"
  | .pretty => "pretty"
  | .compact => "compact"

def ofName? (s : String) : Option LogFormat := all.find? fun f => f.name == s

end LogFormat

structure Logging where
  /-- The level, or a filter. -/
  level : String := "info"
  console : Bool := true
  file : Option String := none
  /-- The form of the lines. -/
  format : LogFormat := .pretty
  /-- Whether the console shows colours. -/
  ansi : Bool := true
  /-- Whether entering and leaving of spans is logged. -/
  spanEvents : Bool := false
deriving DecidableEq, Repr

/-- The settings of the bridge. -/
structure Settings where
  groupId : String := "UWC nodes"
  edgeNodeId : String := ""
  /-- The name that the birth of the edge node carries. -/
  appName : String := "SPARKPLUG-BRIDGE"
  /-- The error codes of readings that tell that a device cannot be reached. -/
  deathErrorCodes : List UInt64 := [2003]
  /-- After how many seconds of a bus outage devices count as dead. -/
  outageSeconds : UInt64 := 60
  logging : Logging := {}
  catalog : Catalog := ⟨[]⟩
deriving DecidableEq, Repr

namespace Settings

/-- The name of the service, from which file names and environment variables are derived. -/
def serviceName : String := "sparkplug-bridge"

/-- Whether a text can be an identifier in a topic. -/
def isIdentifier (s : String) : Bool := s != "" && s.toList.all fun c => c != '/' && c != '+' && c != '#'

/-- Why the settings are refused, if they are. -/
def refusal? (s : Settings) : Option SettingsFault :=
  if !isIdentifier s.groupId then some (.identifier "group_id" s.groupId)
  else if !isIdentifier s.edgeNodeId then some (.identifier "edge_node_id" s.edgeNodeId)
  else if s.outageSeconds = 0 then some .timeout
  else none

/-- Checks the settings. -/
def validate (s : Settings) : Except Fault Unit :=
  match s.refusal? with
  | some cause => .error (.settings cause)
  | none => .ok ()

end Settings

end ScadaBridge
