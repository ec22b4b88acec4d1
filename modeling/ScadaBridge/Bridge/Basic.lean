import ScadaBridge.Bridge.Counter
import ScadaBridge.Bridge.Outage
import ScadaBridge.Definitions
import ScadaBridge.Device.Update
import ScadaBridge.Settings.Basic
import ScadaBridge.Topic.Bus
import ScadaBridge.Topic.Sparkplug
import ScadaBridge.VendorApp

/-!
# The bridge

The bridge knows the devices of its catalog and those that vendor applications announced, by their
telemetry names, and the UDT definitions. It keeps the state of its two connections and the sequence
numbers of what it sends. This module holds the state and the registry of devices; other modules hold
what messages do to it (`Bridge.Inbound`), what is published (`Bridge.Publish`), commands
(`Bridge.Command`) and connections (`Bridge.Session`). `Bridge.Shared` is the bridge with references to
devices in the place of their names.
-/

namespace ScadaBridge

structure Bridge where
  settings : Settings
  /-- The devices, in the order of their telemetry names. -/
  devices : List Device
  apps : VendorApps
  definitions : Definitions
  /-- The sequence number of Sparkplug messages. -/
  seq : Counter 255
  /-- The number of sessions with the SCADA broker. -/
  sessions : Counter 255
  session : UInt64
  /-- The sequence number of write requests. -/
  writeSeq : Counter 65535
  /-- Whether the SCADA broker is connected. -/
  online : Bool
  /-- The connection to the plant bus. -/
  outage : Outage
  /-- The devices that an outage of the plant bus declared dead, by telemetry name. -/
  timedOut : List String
  /-- Whether what is published still has a receiver. -/
  outletOpen : Bool

/-- What a message calls for on the SCADA side. Devices are given by their telemetry names. -/
inductive Action where
  /-- A birth of the edge node, followed by births of all live devices. -/
  | nodeRebirth
  | birth (device : String)
  | data (device : String) (changes : ChangeSet)
  | death (device : String)

inductive Outbound where
  | sparkplug (topic : SparkplugTopic) (payload : Wire.Payload)
  | bus (topic : String) (content : Json)

namespace Bridge

def device? (b : Bridge) (name : String) : Option Device :=
  Ordered.find? Device.telemetryName name b.devices

/-- The bridge with a device added or replaced. -/
def putDevice (b : Bridge) (d : Device) : Bridge :=
  { b with devices := Ordered.insert Device.telemetryName d b.devices }

def catalogDevice? (b : Bridge) (device site : String) : Option Device :=
  (b.device? (Device.joinedName device site)).filter fun d => !d.isExternal

def vendorDevice? (b : Bridge) (app device : String) : Option Device :=
  (b.device? (Device.joinedName app device)).filter Device.isExternal

/-- The device that a vendor application announces, which is created when it is first heard of. -/
def claimVendorDevice (b : Bridge) (app device : String) : Bridge × Device :=
  let candidate := Device.ofVendor app device
  let d := (b.device? candidate.telemetryName).getD candidate
  ({ b.putDevice d with apps := (b.apps.register app d.telemetryName).1 }, d)

def addNew (b : Bridge) (d : Device) : Bridge :=
  match b.device? d.telemetryName with
  | some _ => b
  | none => b.putDevice d

def addCatalog (b : Bridge) (catalog : Catalog) (now : UInt64) : Bridge :=
  catalog.devices.foldl (fun b c => b.addNew (c.toDevice now)) b

/-- The bridge at the start, with the devices of its catalog. -/
def start (settings : Settings) (now : UInt64) : Bridge :=
  addCatalog
    { settings := settings
      devices := []
      apps := []
      definitions := .empty
      seq := .zero
      sessions := .zero
      session := 0
      writeSeq := .zero
      online := false
      outage := .none (settings.outageSeconds.toNat * 1000)
      timedOut := []
      outletOpen := true }
    settings.catalog now

/-- The bridge after the receiver of what it publishes is gone. -/
def closeOutlet (b : Bridge) : Bridge := { b with outletOpen := false }

end Bridge

end ScadaBridge
