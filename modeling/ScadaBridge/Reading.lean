import ScadaBridge.Json.Parser
import ScadaBridge.Json.Record
import ScadaBridge.Number.Numeral
import ScadaBridge.Scalar.Json
import ScadaBridge.Scalar.Register

/-!
# Readings of catalog devices

A reading is a JSON record published for one point: the registers as a hexadecimal text, possibly the
value in engineering units, and whether reading succeeded. Times and the error code may be written as
numbers or as decimal texts.

`Reading.parse` takes the fields in the order of the text, so of several faults the first is reported.
`Reading.evaluate` says what a reading means for a point of a declared type.
-/

namespace ScadaBridge

structure Reading where
  metric : String
  raw : Option String
  /-- The value in engineering units; it counts before the registers. -/
  scaled : Option Json
  /-- Whether reading succeeded. -/
  isGood : Bool
  /-- When the point was read, in microseconds since the epoch; zero if that is not known. -/
  time : UInt64
  /-- When the point was last read with success. -/
  lastGood : UInt64
  errorCode : UInt64

/-- What a reading means. -/
inductive Evaluation where
  /-- The point has this value. -/
  | value (v : Scalar)
  /-- The device cannot be reached. -/
  | deviceDead
  /-- Reading failed, which says nothing about the device. -/
  | badRead (code : UInt64)

namespace Reading

/-- The fields of a reading, in the order in which an array gives them. -/
def fieldNames : List String :=
  ["metric", "value", "scaledValue", "status", "usec", "lastGoodUsec", "error_code"]

/-- A reading of which nothing but the name of the point is known. -/
def ofMetric (metric : String) : Reading := ⟨metric, none, none, true, 0, 0, 0⟩

/-- Reads a natural number below `2 ^ 64` that may be written as a text with blanks around it; null and
the empty text are zero. -/
def lenientNumber (j : Json) : Except RecordFault UInt64 :=
  match j.canonical with
  | none => .error .notJson
  | some j =>
    let read :=
      match j with
      | .null => some 0
      | .str s => if s = "" then some 0 else (Numeral.natural? UInt64.size (Blank.trim s.toList)).map .ofNat
      | j => j.uint64?
    match read with
    | some n => .ok n
    | none => .error (.notUnsigned j)

/-- Reads a part whose faults are not told apart. -/
def plainly {α : Type} (part : Option α) : Except RecordFault α :=
  match part with
  | some a => .ok a
  | none => .error .notJson

/-- Reads a status, true for a good one. -/
def status? (j : Json) : Option Bool :=
  match j.plainAlternative? .exact with
  | some name =>
    if ["Good", "good", "GOOD"].contains name then some true
    else if ["Bad", "bad", "BAD"].contains name then some false
    else none
  | none => none

/-- Reads a part that null leaves out. -/
def nullable? {α : Type} (reader : Json → Option α) : Json → Option (Option α)
  | .null => some none
  | j => (reader j).map some

/-- A reading whose fields are being read: the name of the point may still be missing. -/
abbrev Partial := Option String × Reading

/-- Takes up one field. -/
def takeField (known : Partial) (name : String) (j : Json) : Except RecordFault Partial :=
  let (metric, r) := known
  match name with
  | "metric" => do return (some (← plainly j.text?), r)
  | "value" => do return (metric, { r with raw := ← plainly (nullable? Json.text? j) })
  | "scaledValue" => do return (metric, { r with scaled := ← plainly (nullable? Json.canonical j) })
  | "status" => do return (metric, { r with isGood := ← plainly (status? j) })
  | "usec" => do return (metric, { r with time := ← lenientNumber j })
  | "lastGoodUsec" => do return (metric, { r with lastGood := ← lenientNumber j })
  | "error_code" => do return (metric, { r with errorCode := ← lenientNumber j })
  | _ => .ok known

/-- Takes up fields in their order; `seen` are those taken up before. -/
def takeFields (known : Partial) (seen : List String) : Json.Fields → Except RecordFault Partial
  | [] => .ok known
  | (name, j) :: rest =>
    if seen.contains name then .error .notJson
    else
      match takeField known name j with
      | .error fault => .error fault
      | .ok known' =>
        takeFields known' (if fieldNames.contains name then name :: seen else seen) rest

/-- The reading of the fields, of which `complete` says that the text is sound beyond them. -/
def ofFields (fields : Json.Fields) (complete : Bool) : Except RecordFault Reading :=
  match takeFields (none, ofMetric "") [] fields with
  | .error fault => .error fault
  | .ok (some metric, r) => if complete then .ok { r with metric := metric } else .error .notJson
  | .ok (none, _) => .error .notJson

def read (bytes : List UInt8) : Except RecordFault Reading :=
  match Json.parseOpening bytes with
  | .members entries complete => ofFields entries complete
  | .items entries complete =>
    ofFields (fieldNames.zip entries) (complete && entries.length ≤ fieldNames.length)
  | .other => .error .notJson

def parse (bytes : List UInt8) : Except Fault Reading :=
  match read bytes with
  | .ok r => .ok r
  | .error cause => .error (.malformedRecord cause)

def rawValue (r : Reading) (declared : DataType) : Except Fault Evaluation :=
  match r.raw with
  | none => .error (.malformedRecord (.noReading r.metric))
  | some raw =>
    match Scalar.ofRegisters raw declared with
    | .ok v => .ok (.value v)
    | .error fault => .error fault

/-- What a good reading means: the value in engineering units if it fits the type, else that of the
registers. -/
def goodValue (r : Reading) (declared : DataType) : Except Fault Evaluation :=
  match r.scaled with
  | none => r.rawValue declared
  | some j =>
    match Scalar.ofJson declared j with
    | .ok v => .ok (.value v)
    | .error fault => if r.raw.isNone then .error fault else r.rawValue declared

/-- What a reading means for a point of the declared type, where the error codes `deathCodes` tell that
a device cannot be reached. -/
def evaluate (r : Reading) (declared : DataType) (deathCodes : List UInt64) :
    Except Fault Evaluation :=
  if r.isGood then r.goodValue declared
  else if deathCodes.contains r.errorCode then .ok .deviceDead
  else .ok (.badRead r.errorCode)

end Reading

end ScadaBridge
