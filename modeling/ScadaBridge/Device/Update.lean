import ScadaBridge.Definitions
import ScadaBridge.Device.Basic

/-!
# Updates of devices

`ingest` merges one incoming metric, `applyData` a batch of data, in which new metrics are accepted only
if they are UDTs with a registered definition, and `ingestBirth` an announcement of all metrics. An
announcement that has the structure already published is treated as data; any other replaces the
metrics and calls for a birth.
-/

namespace ScadaBridge

/-- The metrics after one of them arrived under `name`, and what that did. A metric of another name is
refused; the time of the metric is that of its source. -/
def ingestInto (metrics : List Metric) (name : String) (incoming : Metric) (timestamp : UInt64) :
    List Metric × Assignment :=
  if incoming.name ≠ name then (metrics, .typeMismatch)
  else
    match Ordered.find? Metric.name name metrics with
    | none => (Ordered.insert Metric.name (incoming.atTime timestamp) metrics, .assigned .whole)
    | some existing =>
      match existing.assign (incoming.atTime timestamp) with
      | (existing', .assigned change) =>
        (Ordered.insert Metric.name existing' metrics, .assigned change)
      | (_, refused) => (metrics, refused)

/-- What a batch of data did so far. -/
structure DataBatch where
  metrics : List Metric
  changes : ChangeSet
  /-- Why metrics were refused; the others were applied all the same. -/
  rejected : List Fault

/-- What an announcement calls for. -/
inductive BirthOutcome where
  /-- The metrics were replaced; a birth is owed. -/
  | rebirth
  /-- Only these values changed. -/
  | dataOnly (changes : ChangeSet)

namespace Device

/-- Merges one incoming metric, and adds it if it is unknown. -/
def ingest (d : Device) (name : String) (incoming : Metric) (timestamp : UInt64) :
    Device × Assignment :=
  match ingestInto d.metrics name incoming timestamp with
  | (metrics, result) => ({ d with metrics := metrics }, result)

/-- Whether data may bring a metric that is not there yet: an instance of a registered definition. -/
def acceptsNew (definitions : Definitions) (incoming : Metric) : Bool :=
  match incoming with
  | .leaf _ => false
  | .udt head _ => (definitions.lookup? head.definition head.version).isSome

/-- One step of a batch, for the device called `device`. -/
def applyMetric (definitions : Definitions) (device : String) (timestamp : UInt64) (batch : DataBatch)
    (incoming : Metric) : DataBatch :=
  let name := incoming.name
  if Ordered.contains Metric.name name batch.metrics || acceptsNew definitions incoming then
    match ingestInto batch.metrics name incoming timestamp with
    | (metrics, .assigned change) =>
      { batch with metrics := metrics, changes := batch.changes.record name change }
    | (metrics, .noChange) => { batch with metrics := metrics }
    | (metrics, .typeMismatch) =>
      let expected :=
        match Ordered.find? Metric.name name batch.metrics with
        | some existing => existing.declaredType
        | none => .unknown
      { batch with
        metrics := metrics
        rejected := batch.rejected ++ [.incompatibleUpdate name expected] }
  else
    { batch with rejected := batch.rejected ++ [.unknownMetric device name] }

def applyData (d : Device) (incoming : List Metric) (definitions : Definitions) (timestamp : UInt64) :
    Device × DataBatch :=
  let batch := incoming.foldl (applyMetric definitions d.telemetryName timestamp) ⟨d.metrics, [], []⟩
  ({ d with metrics := batch.metrics }, batch)

/-- Whether the announced metrics have the structure of those that the device has. -/
def announcesSame (d : Device) (announced : List Metric) : Bool :=
  d.metrics.length == announced.length &&
    announced.all fun incoming =>
      match d.metric? incoming.name with
      | some existing => existing.sameStructure incoming
      | none => false

/-- One step of an announcement that is treated as data. -/
def mergeAnnounced (timestamp : UInt64) (known : List Metric × ChangeSet) (incoming : Metric) :
    List Metric × ChangeSet :=
  match ingestInto known.1 incoming.name incoming timestamp with
  | (metrics, .assigned change) => (metrics, known.2.record incoming.name change)
  | (metrics, _) => (metrics, known.2)

/-- Applies an announcement of all metrics. -/
def ingestBirth (d : Device) (announced : List Metric) (timestamp : UInt64) :
    Device × BirthOutcome :=
  if d.announcesSame announced && !d.needsBirth then
    match announced.foldl (mergeAnnounced timestamp) (d.metrics, []) with
    | (metrics, changes) => ({ d.markAlive with metrics := metrics }, .dataOnly changes)
  else
    let metrics := Ordered.ofList Metric.name (announced.map fun m => m.atTime timestamp)
    ({ d.markAlive with metrics := metrics }, .rebirth)

/-- The declared type of the metric to which a command of the given type is addressed. -/
def checkMetric (d : Device) (name : String) (type : DataType) : Except Fault DataType :=
  match d.metric? name with
  | none => .error (.unknownMetric d.telemetryName name)
  | some m =>
    if m.declaredType.compatible type then .ok m.declaredType
    else .error (.typeMismatch name m.declaredType type)

end Device

end ScadaBridge
