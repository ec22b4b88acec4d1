import ScadaBridge.DataType
import ScadaBridge.Json.Printer
import ScadaBridge.Text.Hex
import ScadaBridge.Text.Utf8
import ScadaBridge.Wire.Message

/-!
# What can go wrong

Every failure is a cause. `Fault` sorts the causes by what failed: a type, a metric, a record, a
device, a topic, the settings. Most faults concern one metric or one message and are skipped over by
those who process many. `Fault.message` is the wording; it has none where the wording is that of the
text format at fault.
-/

namespace ScadaBridge

/-- Why a type cannot be used. -/
inductive TypeFault where
  /-- The Sparkplug code has no counterpart. -/
  | code (code : UInt32)
  /-- The name is not one of a type. -/
  | name (text : String)
  /-- An integer of a catalog cannot have this many registers. -/
  | registerWidth (kind : String) (width : UInt32)
  /-- A catalog has no such kind of data. -/
  | catalogKind (kind : String)
  /-- A template was used as a single value. -/
  | templateAsScalar
  /-- The unknown type has no values. -/
  | noValues
  /-- The type cannot be read from registers. -/
  | registers (type : DataType)
deriving DecidableEq, Repr

/-- Why a record or payload cannot be used. -/
inductive RecordFault where
  /-- The text is not a document of the expected form. -/
  | notJson
  | noMetrics
  /-- The message of definitions has no list of metrics. -/
  | noDefinitions
  | notAnObject
  | noName
  | noType (metric : String)
  | noValue (metric : String)
  | udtNotAnObject (metric : String)
  | udtNoMetrics (metric : String)
  /-- The reference of a UDT to its definition lacks name or version. -/
  | udtIncompleteReference (metric : String)
  /-- The UDT neither refers to a definition nor has a version. -/
  | udtNoReference (metric : String)
  /-- A record was applied to a metric of another name. -/
  | otherMetric (record metric : String)
  | wireValue (value : Wire.Value) (type : DataType)
  /-- A template metric carries something else. -/
  | templateValue (metric : String) (value : Wire.Value)
  | jsonValue (value : Json) (type : DataType)
  /-- The registers are not hexadecimal. -/
  | hex (raw : String) (fault : Hex.Fault)
  /-- The registers hold too large a number. -/
  | tooWide (raw : String) (bytes : Nat)
  /-- The registers do not hold a text. -/
  | utf8 (raw : String) (fault : Utf8.Fault)
  /-- The text is too long for the registers. -/
  | tooLong (bytes : Nat) (width : UInt32)
  /-- A field that should hold a natural number holds something else. -/
  | notUnsigned (value : Json)
  /-- The reading has neither kind of value. -/
  | noReading (metric : String)

/-- Why settings are refused. -/
inductive SettingsFault where
  /-- An identifier is empty or holds a character that topics reserve. -/
  | identifier (field value : String)
  /-- The outage timeout is zero. -/
  | timeout
deriving DecidableEq, Repr

/-- Failures of the services around the bridge. -/
inductive ServiceFault where
  /-- The configuration is at fault, in these words. -/
  | configuration (text : String)
  /-- A configuration could not be loaded. -/
  | loading
  /-- A file has no ending that tells its format. -/
  | noExtension
  | notFound (path : String)
  | unknownFormat (extension : String)
  /-- A file could not be read or written. -/
  | storage
  /-- A value could not be written in a format. -/
  | serialization
  /-- A parameter is at fault, in these words. -/
  | invalidInput (text : String)
  /-- Any other failure, in these words, possibly caused by another one. -/
  | other (text : String) (hasCause : Bool)
deriving DecidableEq, Repr

/-- A failure of the bridge. -/
inductive Fault where
  | unsupportedType (cause : TypeFault)
  /-- A metric or command has an incompatible type. -/
  | typeMismatch (metric : String) (expected actual : DataType)
  /-- An update does not fit the stored metric. -/
  | incompatibleUpdate (metric : String) (expected : DataType)
  | unknownMetric (device metric : String)
  /-- The record cannot be used. -/
  | malformedRecord (cause : RecordFault)
  | unknownDevice (name : String)
  /-- A UDT refers to a definition that was never registered. -/
  | unknownDefinition (name version : String)
  | invalidTopic (topic : String)
  /-- The settings are refused. -/
  | settings (cause : SettingsFault)
  /-- A service failed. -/
  | service (cause : ServiceFault)

/-- The wording of a type fault. -/
def TypeFault.message : TypeFault → String
  | .code c => s!"Sparkplug datatype code {c.toNat}"
  | .name text => text
  | .registerWidth kind width => s!"{kind} with register width {width.toNat}"
  | .catalogKind kind => s!"catalog data type '{kind}'"
  | .templateAsScalar => "Template is not a scalar value"
  | .noValues => DataType.unknown.name
  | .registers type => s!"{type.name} cannot be read from registers"

/-- The wording of a record fault. -/
def RecordFault.message? : RecordFault → Option String
  | .notJson => none
  | .noMetrics => some "message has no metrics array"
  | .noDefinitions => some "TemplateDef has no metrics array"
  | .notAnObject => some "metric record is not an object"
  | .noName => some "metric record has no name"
  | .noType metric => some s!"metric '{metric}' has no dataType"
  | .noValue metric => some s!"metric '{metric}' has no value"
  | .udtNotAnObject metric => some s!"UDT '{metric}' value is not an object"
  | .udtNoMetrics metric => some s!"UDT '{metric}' has no metrics array"
  | .udtIncompleteReference metric => some s!"UDT '{metric}' has an incomplete udt_ref"
  | .udtNoReference metric => some s!"UDT '{metric}' has neither udt_ref nor version"
  | .otherMetric record metric => some s!"record for '{record}' applied to '{metric}'"
  | .wireValue value type => some s!"wire value {value.message} does not carry a {type.name}"
  | .templateValue metric value => some s!"template metric '{metric}' carries {value.message}"
  | .jsonValue value type => some s!"value {value.compact} is not a valid {type.name}"
  | .hex raw fault =>
    let quoted := Quoted.messageOfChar (Char.ofNat fault.byte.toNat)
    some s!"bad hex '{raw}': Invalid character {quoted} at position {fault.position}"
  | .tooWide raw bytes => some s!"'{raw}' does not fit in {bytes} bytes"
  | .utf8 raw fault => some s!"'{raw}' is not UTF-8: {fault.message}"
  | .tooLong bytes width => some s!"string of {bytes} bytes exceeds {width.toNat} registers"
  | .notUnsigned value => some s!"expected unsigned number, got {value.compact}"
  | .noReading metric => some s!"update for '{metric}' carries no value"

/-- The wording of a settings fault. -/
def SettingsFault.message : SettingsFault → String
  | .identifier field value => s!"{field} '{value}' must be non-empty and free of '/', '+', '#'"
  | .timeout => "internal_timeout_secs must be positive"

/-- The wording of a service fault. -/
def ServiceFault.message? : ServiceFault → Option String
  | .configuration text => some s!"Configuration error: {text}"
  | .noExtension => some "Configuration error: Config file must have an extension"
  | .notFound path => some s!"Configuration error: Config file not found: {path}"
  | .unknownFormat extension =>
    some s!"Configuration error: Unsupported config file format: {extension}"
  | .invalidInput text => some s!"Invalid input: {text}"
  | .other text _ => some text
  | .loading | .storage | .serialization => none

/-- Whether a service fault was caused by another one. -/
def ServiceFault.hasCause : ServiceFault → Bool
  | .other _ hasCause => hasCause
  | _ => false

/-- The wording of a fault. -/
def Fault.message? : Fault → Option String
  | .unsupportedType cause => some s!"Unsupported data type: {cause.message}"
  | .typeMismatch metric expected actual =>
    some s!"Type mismatch for metric '{metric}': expected {expected.name}, got {actual.name}"
  | .incompatibleUpdate metric expected =>
    some s!"Type mismatch for metric '{metric}': expected {expected.name}, got incompatible update"
  | .unknownMetric device metric => some s!"Unknown metric '{metric}' on device '{device}'"
  | .malformedRecord cause => cause.message?.map fun text => s!"Malformed record: {text}"
  | .unknownDevice name => some s!"Unknown device: {name}"
  | .unknownDefinition name version =>
    some s!"Unknown UDT definition: {name} (version {version})"
  | .invalidTopic topic => some s!"Invalid topic: {topic}"
  | .settings cause => some s!"Configuration error: {cause.message}"
  | .service cause => cause.message?

namespace DataType

/-- The type of a Sparkplug code. -/
def ofCode (c : UInt32) : Except Fault DataType :=
  match ofCode? c with
  | some t => .ok t
  | none => .error (.unsupportedType (.code c))

def ofName (s : String) : Except Fault DataType :=
  match ofName? s with
  | some t => .ok t
  | none => .error (.unsupportedType (.name s))

/-- The integer type of a catalog point of one, two or four registers. -/
def ofRegisterWidth (kind : String) (signed : Bool) (width : UInt32) : Except Fault DataType :=
  if width = 1 then .ok (.integer ⟨signed, .w16⟩)
  else if width = 2 then .ok (.integer ⟨signed, .w32⟩)
  else if width = 4 then .ok (.integer ⟨signed, .w64⟩)
  else .error (.unsupportedType (.registerWidth kind width))

/-- The type of a catalog point from its kind of data and its number of registers. -/
def ofCatalog (kind : String) (width : UInt32) : Except Fault DataType :=
  let k := lowerCase kind
  if k = "boolean" || k = "bool" then .ok .boolean
  else if k = "uint" then ofRegisterWidth kind false width
  else if k = "int" then ofRegisterWidth kind true width
  else if k = "float" then .ok .float
  else if k = "double" then .ok .double
  else if k = "string" then .ok .string
  else .error (.unsupportedType (.catalogKind k))

end DataType

end ScadaBridge
