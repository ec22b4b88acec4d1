import ScadaBridge.Bridge.Session

/-!
# Devices as shared objects

`Bridge` names its devices. `SharedBridge` is the bridge over a memory of device objects, to which others refer: the
registry under telemetry names, each vendor application under telemetry names of its own, the list of devices that an
outage declared dead, and actions. A device is changed at its place in the memory, through whatever refers to it, and
a reference that nobody replaces goes on leading to the object that it led to.

All functions of the bridge that reach devices are written for references here; what does not reach devices is done
by the bridge without devices at the core.
-/

namespace ScadaBridge

/-- The place of a device object in the memory. -/
abbrev Ref := Nat

/-- A vendor application that refers to its devices. -/
structure SharedApp where
  name : String
  isDead : Bool
  /-- The devices, under their telemetry names. -/
  devices : List (String × Ref)

namespace SharedApp

def fresh (name : String) : SharedApp := ⟨name, false, []⟩

/-- The application with one more device, unless it has one of this name. -/
def addDevice (app : SharedApp) (name : String) (r : Ref) : SharedApp :=
  if Ordered.contains Prod.fst name app.devices then app
  else { app with devices := Ordered.insert Prod.fst (name, r) app.devices }

def markDead (app : SharedApp) : SharedApp := { app with isDead := true }

def markAlive (app : SharedApp) : SharedApp := { app with isDead := false }

end SharedApp

/-- What a message calls for on the SCADA side. -/
inductive SharedAction where
  | nodeRebirth
  | birth (device : Ref)
  | data (device : Ref) (changes : ChangeSet)
  | death (device : Ref)

structure SharedBridge where
  /-- The bridge without its devices: those of the core, its applications and its list of devices that an outage
  declared dead are not used. -/
  core : Bridge
  /-- The objects that were made so far. -/
  objects : List Device
  /-- The registered devices, under their telemetry names. -/
  registry : List (String × Ref)
  apps : List SharedApp
  /-- The devices that an outage of the plant bus declared dead. -/
  timedOut : List Ref

namespace SharedBridge

/-! ## Objects and those who refer to them -/

def object? (s : SharedBridge) (r : Ref) : Option Device := s.objects[r]?

/-- A device is changed in its place. -/
def put (s : SharedBridge) (r : Ref) (d : Device) : SharedBridge := { s with objects := s.objects.set r d }

def lookup? (s : SharedBridge) (name : String) : Option Ref :=
  (Ordered.find? Prod.fst name s.registry).map Prod.snd

/-- The device that is registered under a name. -/
def device? (s : SharedBridge) (name : String) : Option (Ref × Device) :=
  (s.lookup? name).bind fun r => (s.object? r).map (r, ·)

def catalogDevice? (s : SharedBridge) (device site : String) : Option (Ref × Device) :=
  (s.device? (Device.joinedName device site)).filter fun found => !found.2.isExternal

def vendorDevice? (s : SharedBridge) (app device : String) : Option (Ref × Device) :=
  (s.device? (Device.joinedName app device)).filter fun found => found.2.isExternal

/-- A device is made and registered under its telemetry name. -/
def add (s : SharedBridge) (d : Device) : SharedBridge :=
  { s with
    objects := s.objects ++ [d]
    registry := Ordered.insert Prod.fst (d.telemetryName, s.objects.length) s.registry }

def app? (s : SharedBridge) (name : String) : Option SharedApp := Ordered.find? SharedApp.name name s.apps

def putApp (s : SharedBridge) (app : SharedApp) : SharedBridge :=
  { s with apps := Ordered.insert SharedApp.name app s.apps }

/-- Changes an application, if there is one of that name. -/
def updateApp (s : SharedBridge) (name : String) (change : SharedApp → SharedApp) : SharedBridge :=
  match s.app? name with
  | some app => s.putApp (change app)
  | none => s

/-- A device is added to the list of an application, which is created when it is first heard of. -/
def enlist (s : SharedBridge) (app : String) (r : Ref) : SharedBridge :=
  match s.object? r with
  | none => s
  | some d => s.putApp (((s.app? app).getD (.fresh app)).addDevice d.telemetryName r)

/-- The device that a vendor application announces, which is created when it is first heard of. -/
def claimVendorDevice (s : SharedBridge) (app device : String) : SharedBridge × Ref :=
  let candidate := Device.ofVendor app device
  match s.lookup? candidate.telemetryName with
  | some r => (s.enlist app r, r)
  | none => ((s.add candidate).enlist app s.objects.length, s.objects.length)

def addNew (s : SharedBridge) (d : Device) : SharedBridge :=
  match s.lookup? d.telemetryName with
  | some _ => s
  | none => s.add d

def addCatalog (s : SharedBridge) (catalog : Catalog) (now : UInt64) : SharedBridge :=
  catalog.devices.foldl (fun s c => s.addNew (c.toDevice now)) s

/-- The bridge at the start, with the devices of its catalog. -/
def start (settings : Settings) (now : UInt64) : SharedBridge :=
  addCatalog ⟨{ Bridge.start settings now with devices := [] }, [], [], [], []⟩ settings.catalog now

/-! ## Messages of the plant bus -/

def birthOrData (owesBirth : Bool) (r : Ref) (changes : ChangeSet) : List SharedAction :=
  if owesBirth then [.birth r]
  else if changes.isEmpty then []
  else [.data r changes]

def vendorBirth (s : SharedBridge) (app device : String) (payload : List UInt8) (now : UInt64) :
    SharedBridge × Except Fault (List SharedAction) :=
  match s.core.metricsOf payload now with
  | .error fault => (s, .error fault)
  | .ok metrics =>
    let (s, r) := s.claimVendorDevice app device
    let s := s.updateApp app SharedApp.markAlive
    match s.object? r with
    | none => (s, .ok [])
    | some d =>
      let (d, outcome) := d.ingestBirth metrics now
      let actions :=
        match outcome with
        | .rebirth => [.birth r]
        | .dataOnly changes => birthOrData false r changes
      (s.put r d, .ok actions)

def vendorData (s : SharedBridge) (app device : String) (payload : List UInt8) (now : UInt64) :
    SharedBridge × Except Fault (List SharedAction) :=
  match s.vendorDevice? app device with
  | none => (s, .error (.unknownDevice (Device.joinedName app device)))
  | some (r, d) =>
    match s.core.metricsOf payload now with
    | .error fault => (s, .error fault)
    | .ok metrics =>
      let (d', batch) := d.applyData metrics s.core.definitions now
      (s.put r d'.markAlive, .ok (birthOrData d.needsBirth r batch.changes))

def declareDead (s : SharedBridge) (r : Ref) (timestamp : UInt64) : SharedBridge × List SharedAction :=
  match s.object? r with
  | none => (s, [])
  | some d =>
    if d.known = .down then (s, [])
    else (s.put r (d.markDead timestamp), if d.published = .up then [.death r] else [])

def declareAllDead (s : SharedBridge) (timestamp : UInt64) : List Ref → SharedBridge × List SharedAction
  | [] => (s, [])
  | r :: rest =>
    let (s, first) := s.declareDead r timestamp
    let (s, more) := s.declareAllDead timestamp rest
    (s, first ++ more)

def vendorDeath (s : SharedBridge) (app : String) (device : Option String) (now : UInt64) :
    SharedBridge × Except Fault (List SharedAction) :=
  match s.app? app with
  | none => (s, .error (.unknownDevice app))
  | some known =>
    match device with
    | none =>
      let (s, actions) := (s.putApp known.markDead).declareAllDead now (known.devices.map Prod.snd)
      (s, .ok actions)
    | some device =>
      match s.vendorDevice? app device with
      | none => (s, .error (.unknownDevice (Device.joinedName app device)))
      | some (r, _) =>
        let (s, actions) := s.declareDead r now
        (s, .ok actions)

def takeValue (s : SharedBridge) (r : Ref) (d : Device) (point : String) (v : Scalar) (timestamp : UInt64) :
    SharedBridge × List SharedAction :=
  let (d', result) := d.ingest point (.leaf (.ofValue point v timestamp)) timestamp
  let changes :=
    match result with
    | .assigned change => [(point, change)]
    | .noChange | .typeMismatch => []
  (s.put r d'.markAlive, birthOrData d.needsBirth r changes)

def deviceUpdate (s : SharedBridge) (device site point : String) (payload : List UInt8) (now : UInt64) :
    SharedBridge × Except Fault (List SharedAction) :=
  match s.catalogDevice? device site with
  | none => (s, .error (.unknownDevice (Device.joinedName device site)))
  | some (r, d) =>
    match d.metric? point with
    | none => (s, .error (.unknownMetric d.telemetryName point))
    | some m =>
      match Reading.parse payload with
      | .error fault => (s, .error fault)
      | .ok reading =>
        let timestamp := if reading.time = 0 then now else reading.time
        match reading.evaluate m.declaredType s.core.settings.deathErrorCodes with
        | .error fault => (s, .error fault)
        | .ok .deviceDead =>
          let (s, actions) := s.declareDead r timestamp
          (s, .ok actions)
        | .ok (.badRead _) => (s, .ok [])
        | .ok (.value v) =>
          let (s, actions) := s.takeValue r d point v timestamp
          (s, .ok actions)

def announceDefinitions (s : SharedBridge) (payload : List UInt8) (now : UInt64) :
    SharedBridge × Except Fault (List SharedAction) :=
  match Bridge.recordsOf payload .noDefinitions with
  | .error fault => (s, .error fault)
  | .ok records =>
    let announced := records.filterMap (Bridge.definitionOf? now)
    let definitions := announced.foldl (fun known u => (known.register u).1) s.core.definitions
    ({ s with core := { s.core with definitions := definitions } },
      .ok (if announced.isEmpty then [] else [.nodeRebirth]))

def process (s : SharedBridge) (now : UInt64) (topic : String) (payload : List UInt8) :
    SharedBridge × Except Fault (List SharedAction) :=
  match BusTopic.parse topic with
  | .error fault => (s, .error fault)
  | .ok (.birth app device) => s.vendorBirth app device payload now
  | .ok (.data app device) => s.vendorData app device payload now
  | .ok (.death app device) => s.vendorDeath app device now
  | .ok (.update device site point) => s.deviceUpdate device site point payload now
  | .ok .definitions => s.announceDefinitions payload now

/-! ## Publishing -/

def deviceMessage (s : SharedBridge) (kind : MessageKind) (r : Ref) (d : Device) (payload : Wire.Payload) :
    SharedBridge × Outbound :=
  let (core, payload) := s.core.stamp payload
  ({ s.put r d with core := core }, .sparkplug (core.deviceTopic kind d.telemetryName) payload)

def deviceBirth (s : SharedBridge) (now : UInt64) (r : Ref) (d : Device) : SharedBridge × Outbound :=
  let (d, payload) := d.birth now
  s.deviceMessage .deviceBirth r d payload

def liveBirths (s : SharedBridge) (now : UInt64) : List Ref → SharedBridge × List Outbound
  | [] => (s, [])
  | r :: rest =>
    match s.object? r with
    | none => s.liveBirths now rest
    | some d =>
      if d.hasMetrics && d.known != .down then
        let (s, first) := s.deviceBirth now r d
        let (s, more) := s.liveBirths now rest
        (s, first :: more)
      else s.liveBirths now rest

def render (s : SharedBridge) (now : UInt64) : SharedAction → SharedBridge × List Outbound
  | .nodeRebirth =>
    let (core, payload) := s.core.nodeBirth now s.core.session
    let (s', births) := { s with core := core }.liveBirths now (s.registry.map Prod.snd)
    (s', .sparkplug (s.core.nodeTopic .nodeBirth) payload :: births)
  | .birth r =>
    match s.object? r with
    | none => (s, [])
    | some d =>
      let (s, message) := s.deviceBirth now r d
      (s, [message])
  | .data r changes =>
    match s.object? r with
    | none => (s, [])
    | some d =>
      match d.data changes now with
      | (_, none) => (s, [])
      | (d', some payload) =>
        let (s, message) := s.deviceMessage .deviceData r d' payload
        (s, [message])
  | .death r =>
    match s.object? r with
    | none => (s, [])
    | some d =>
      let (d, payload) := d.death
      let (s, message) := s.deviceMessage .deviceDeath r d payload
      (s, [message])

def publish (s : SharedBridge) (now : UInt64) : List SharedAction → SharedBridge × List Outbound
  | [] => (s, [])
  | action :: rest =>
    let (s, messages) := s.render now action
    let (s', more) := s.publish now rest
    (s', s.core.send messages ++ more)

/-! ## Commands and connections -/

def command (s : SharedBridge) (now : UInt64) (topic : SparkplugTopic) (payload : Wire.Payload) :
    SharedBridge × Except Fault (List Outbound) :=
  match topic.kind, topic.device with
  | .deviceCommand, some name =>
    match s.device? name with
    | none => (s, .error (.unknownDevice name))
    | some (_, d) =>
      let accepted := payload.metrics.filterMap (Bridge.accept? d now)
      if accepted.isEmpty then (s, .ok [])
      else if d.isExternal then (s, .ok [Bridge.vendorCommand d topic accepted now])
      else
        let (core, requests) := s.core.writeRequests d now accepted
        ({ s with core := core }, .ok requests)
  | _, _ => (s, .error (.invalidTopic topic.text))

def prepareSession (s : SharedBridge) (now : UInt64) : SharedBridge × Outbound :=
  let (core, message) := s.core.prepareSession now
  ({ s with core := core }, message)

def withOutage (s : SharedBridge) (outage : Outage) : SharedBridge := { s with core := { s.core with outage := outage } }

def withOnline (s : SharedBridge) (online : Bool) : SharedBridge := { s with core := { s.core with online := online } }

def expireOutage (s : SharedBridge) (now : UInt64) : SharedBridge × List SharedAction :=
  let (s, actions) := s.declareAllDead now (s.registry.map Prod.snd)
  let died := actions.filterMap fun
    | .death r => some r
    | _ => none
  ({ s with timedOut := s.timedOut ++ died }, actions)

def reviveAll (s : SharedBridge) : List Ref → SharedBridge × List SharedAction
  | [] => (s, [])
  | r :: rest =>
    match s.object? r with
    | none => s.reviveAll rest
    | some d =>
      if d.known = .down ∧ d.hasMetrics then
        let (s, more) := (s.put r d.markAlive).reviveAll rest
        (s, .birth r :: more)
      else s.reviveAll rest

def restore (s : SharedBridge) : SharedBridge × List SharedAction :=
  ({ s with timedOut := [] }).reviveAll s.timedOut

def checkTimeout (s : SharedBridge) (now : UInt64) (instant : Nat) : SharedBridge × List Outbound :=
  match s.core.outage.check instant with
  | (outage, true) =>
    let (s, actions) := (s.withOutage outage).expireOutage now
    s.publish now actions
  | (outage, false) => (s.withOutage outage, [])

def handleConnection (s : SharedBridge) (now : UInt64) (instant : Nat) :
    ConnectionEvent → SharedBridge × List Outbound
  | .scadaConnected =>
    let (s, births) := (s.withOnline true).publish now [.nodeRebirth]
    (s, births ++ s.core.send [Bridge.announceRequest])
  | .scadaLost => (s.withOnline false, [])
  | .busLost => (s.withOutage (s.core.outage.lost instant), [])
  | .busConnected =>
    match s.core.outage.connected with
    | (outage, expired) =>
      let s := s.withOutage outage
      let request := s.core.send [Bridge.announceRequest]
      if expired then
        let (s, actions) := s.restore
        let (s, births) := s.publish now actions
        (s, request ++ births)
      else (s, request)

def handle (s : SharedBridge) (now : UInt64) (instant : Nat) : Inbound → SharedBridge × List Outbound
  | .bus topic payload =>
    match s.process now topic payload with
    | (s, .ok actions) => s.publish now actions
    | (s, .error _) => (s, [])
  | .command topic payload =>
    match SparkplugTopic.parse topic with
    | .error _ => (s, [])
    | .ok topic =>
      match s.command now topic payload with
      | (s, .ok messages) => (s, s.core.send messages)
      | (s, .error _) => (s, [])
  | .connection event => s.handleConnection now instant event

end SharedBridge

end ScadaBridge
