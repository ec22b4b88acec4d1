import ScadaBridge.Bridge.Basic
import ScadaBridge.Device.Message

/-!
# Publishing

`Bridge.render` turns an action into messages with their sequence numbers, and records in the devices
what they say, whether or not the SCADA broker is connected. `Bridge.send` lets messages for the SCADA
broker through only while it is connected.
-/

namespace ScadaBridge.Bridge

def nodeTopic (b : Bridge) (kind : MessageKind) : SparkplugTopic :=
  ⟨b.settings.groupId, kind, b.settings.edgeNodeId, none⟩

def deviceTopic (b : Bridge) (kind : MessageKind) (device : String) : SparkplugTopic :=
  ⟨b.settings.groupId, kind, b.settings.edgeNodeId, some device⟩

/-- The metric that tells the number of a session. -/
def sessionMetric (session : UInt64) (timestamp : UInt64) : Wire.Metric :=
  Device.valueMetric "bdSeq" (.ofPattern ⟨false, .w64⟩ session.toNat) timestamp

/-- The birth of the edge node in a session: its name, the number of the session and all definitions.
The sequence numbers start over with it. -/
def nodeBirth (b : Bridge) (now session : UInt64) : Bridge × Wire.Payload :=
  let (number, seq) := (Counter.zero : Counter 255).next
  let timestamp := millis now
  ({ b with seq := seq },
    { Wire.Payload.empty timestamp with
      seq := some (.ofNat number)
      metrics :=
        Device.valueMetric "Name" (.text b.settings.appName) timestamp ::
          sessionMetric session timestamp ::
          b.definitions.entries.map fun u => u.metric.birth })

def nodeDeath (now session : UInt64) : Wire.Payload :=
  { Wire.Payload.empty (millis now) with metrics := [sessionMetric session (millis now)] }

/-- The number of the next session. -/
def beginSession (b : Bridge) : Bridge × Nat :=
  let (number, sessions) := b.sessions.next
  ({ b with sessions := sessions }, number)

/-- Starts a session; the message is the one that the broker is to publish when the session breaks. -/
def prepareSession (b : Bridge) (now : UInt64) : Bridge × Outbound :=
  let (b, number) := b.beginSession
  let session := UInt64.ofNat number
  ({ b with session := session }, .sparkplug (b.nodeTopic .nodeDeath) (nodeDeath now session))

/-- A payload with the next sequence number. -/
def stamp (b : Bridge) (payload : Wire.Payload) : Bridge × Wire.Payload :=
  let (number, seq) := b.seq.next
  ({ b with seq := seq }, { payload with seq := some (.ofNat number) })

/-- The message about a device with a payload, and the device as it is after it. -/
def deviceMessage (b : Bridge) (kind : MessageKind) (d : Device) (payload : Wire.Payload) :
    Bridge × Outbound :=
  let (b, payload) := (b.putDevice d).stamp payload
  (b, .sparkplug (b.deviceTopic kind d.telemetryName) payload)

def deviceBirth (b : Bridge) (now : UInt64) (d : Device) : Bridge × Outbound :=
  let (d, payload) := d.birth now
  b.deviceMessage .deviceBirth d payload

/-- The births of those devices that have metrics and are not known to be dead. -/
def liveBirths (b : Bridge) (now : UInt64) : List Device → Bridge × List Outbound
  | [] => (b, [])
  | d :: rest =>
    if d.hasMetrics && d.known != .down then
      let (b, first) := b.deviceBirth now d
      let (b, more) := b.liveBirths now rest
      (b, first :: more)
    else b.liveBirths now rest

def render (b : Bridge) (now : UInt64) : Action → Bridge × List Outbound
  | .nodeRebirth =>
    let (b', payload) := b.nodeBirth now b.session
    let (b', births) := b'.liveBirths now b.devices
    (b', .sparkplug (b.nodeTopic .nodeBirth) payload :: births)
  | .birth name =>
    match b.device? name with
    | none => (b, [])
    | some d =>
      let (b, message) := b.deviceBirth now d
      (b, [message])
  | .data name changes =>
    match b.device? name with
    | none => (b, [])
    | some d =>
      match d.data changes now with
      | (_, none) => (b, [])
      | (d', some payload) =>
        let (b, message) := b.deviceMessage .deviceData d' payload
        (b, [message])
  | .death name =>
    match b.device? name with
    | none => (b, [])
    | some d =>
      let (d, payload) := d.death
      let (b, message) := b.deviceMessage .deviceDeath d payload
      (b, [message])

/-- Whether a message is let through. -/
def passes (b : Bridge) : Outbound → Bool
  | .sparkplug _ _ => b.online && b.outletOpen
  | .bus _ _ => b.outletOpen

/-- The messages that are let through. -/
def send (b : Bridge) (messages : List Outbound) : List Outbound := messages.filter b.passes

/-- Renders and sends actions in their order. -/
def publish (b : Bridge) (now : UInt64) : List Action → Bridge × List Outbound
  | [] => (b, [])
  | action :: rest =>
    let (b, messages) := b.render now action
    let (b', more) := b.publish now rest
    (b', b.send messages ++ more)

end ScadaBridge.Bridge
