import ScadaBridge.Bridge.Command
import ScadaBridge.Bridge.Inbound
import ScadaBridge.Bridge.Publish

/-!
# Running the bridge

`Bridge.handle` takes one inbound message, a command or a change of a connection, and gives the messages
that are published. Faults end here: a message that cannot be used is dropped. `Bridge.checkTimeout`
lets an outage of the plant bus expire, and `Bridge.drain` works off a queue.
-/

namespace ScadaBridge

inductive ConnectionEvent where
  | scadaConnected
  | scadaLost
  | busConnected
  | busLost
deriving DecidableEq, Repr

/-- What the bridge takes in. -/
inductive Inbound where
  /-- A message of the plant bus. -/
  | bus (topic : String) (payload : List UInt8)
  /-- A command of the SCADA side. -/
  | command (topic : String) (payload : Wire.Payload)
  | connection (event : ConnectionEvent)

namespace Bridge

/-- The message that asks vendor applications to announce themselves. -/
def announceRequest : Outbound := .bus BusTopic.announceRequest (.obj [])

/-- An outage of the plant bus expires: every published device dies, and is kept in mind. -/
def expireOutage (b : Bridge) (now : UInt64) : Bridge × List Action :=
  let (b, actions) := b.declareAllDead now (b.devices.map Device.telemetryName)
  let died := actions.filterMap fun
    | .death name => some name
    | _ => none
  ({ b with timedOut := b.timedOut ++ died }, actions)

/-- Revives those devices that are still dead and have metrics. -/
def reviveAll (b : Bridge) : List String → Bridge × List Action
  | [] => (b, [])
  | name :: rest =>
    match b.device? name with
    | none => b.reviveAll rest
    | some d =>
      if d.known = .down ∧ d.hasMetrics then
        let (b, more) := (b.putDevice d.markAlive).reviveAll rest
        (b, .birth name :: more)
      else b.reviveAll rest

/-- An outage that had expired is over: the devices that it declared dead are born again. -/
def restore (b : Bridge) : Bridge × List Action :=
  ({ b with timedOut := [] }).reviveAll b.timedOut

/-- Lets an outage expire that has lasted for the timeout. -/
def checkTimeout (b : Bridge) (now : UInt64) (instant : Nat) : Bridge × List Outbound :=
  match b.outage.check instant with
  | (outage, true) =>
    let (b, actions) := { b with outage := outage }.expireOutage now
    b.publish now actions
  | (outage, false) => ({ b with outage := outage }, [])

def handleConnection (b : Bridge) (now : UInt64) (instant : Nat) :
    ConnectionEvent → Bridge × List Outbound
  | .scadaConnected =>
    let (b, births) := { b with online := true }.publish now [.nodeRebirth]
    (b, births ++ b.send [announceRequest])
  | .scadaLost => ({ b with online := false }, [])
  | .busLost => ({ b with outage := b.outage.lost instant }, [])
  | .busConnected =>
    match b.outage.connected with
    | (outage, expired) =>
      let b := { b with outage := outage }
      let request := b.send [announceRequest]
      if expired then
        let (b, actions) := b.restore
        let (b, births) := b.publish now actions
        (b, request ++ births)
      else (b, request)

def handle (b : Bridge) (now : UInt64) (instant : Nat) : Inbound → Bridge × List Outbound
  | .bus topic payload =>
    match b.process now topic payload with
    | (b, .ok actions) => b.publish now actions
    | (b, .error _) => (b, [])
  | .command topic payload =>
    match SparkplugTopic.parse topic with
    | .error _ => (b, [])
    | .ok topic =>
      match b.command now topic payload with
      | (b, .ok messages) => (b, b.send messages)
      | (b, .error _) => (b, [])
  | .connection event => b.handleConnection now instant event

/-- Works off a queue; the outage is checked after each message. -/
def drain (b : Bridge) (now : UInt64) (instant : Nat) : List Inbound → Bridge × List Outbound
  | [] => (b, [])
  | message :: rest =>
    let (b, first) := b.handle now instant message
    let (b, second) := b.checkTimeout now instant
    let (b, more) := b.drain now instant rest
    (b, first ++ second ++ more)

end Bridge

end ScadaBridge
