import ScadaBridge.Fault
import ScadaBridge.Topic.Segments

/-!
# Topics of the plant bus

On the plant bus, vendor applications announce devices, send their data and report deaths, the
register readers publish readings, and UDT definitions are distributed. `BusTopic` is what such a
topic says, `BusTopic.parse` classifies a topic text and `BusTopic.text` is the text of a topic. The
bridge itself publishes commands for vendor applications, write requests, and a request that vendor
applications announce themselves.
-/

namespace ScadaBridge

/-- A topic on which the bridge listens. -/
inductive BusTopic where
  /-- A vendor application announces a device with all its metrics. -/
  | birth (app device : String)
  /-- A vendor application sends new values of a device. -/
  | data (app device : String)
  /-- A vendor application, or one of its devices, is dead. -/
  | death (app : String) (device : Option String)
  /-- A reading of a point of a catalog device. -/
  | update (device site point : String)
  /-- UDT definitions. -/
  | definitions
deriving DecidableEq, Repr

namespace BusTopic

/-- The topic with these levels. Names must not be empty. -/
def ofSegments? : List String → Option BusTopic
  | ["TemplateDef"] => some .definitions
  | ["BIRTH", app, device] => if app ≠ "" ∧ device ≠ "" then some (.birth app device) else none
  | ["DATA", app, device] => if app ≠ "" ∧ device ≠ "" then some (.data app device) else none
  | ["DEATH", app] => if app ≠ "" then some (.death app none) else none
  | ["DEATH", app, device] =>
    if app ≠ "" ∧ device ≠ "" then some (.death app (some device)) else none
  | ["", device, site, point, "update"] =>
    if device ≠ "" ∧ site ≠ "" ∧ point ≠ "" then some (.update device site point) else none
  | _ => none

/-- Classifies a topic text. -/
def parse (topic : String) : Except Fault BusTopic :=
  match ofSegments? (Topic.segments topic) with
  | some t => .ok t
  | none => .error (.invalidTopic topic)

/-- The levels of a topic. -/
def segments : BusTopic → List String
  | .birth app device => ["BIRTH", app, device]
  | .data app device => ["DATA", app, device]
  | .death app none => ["DEATH", app]
  | .death app (some device) => ["DEATH", app, device]
  | .update device site point => ["", device, site, point, "update"]
  | .definitions => ["TemplateDef"]

def text (t : BusTopic) : String := Topic.ofSegments t.segments

def vendorCommand (app device : String) : String := Topic.ofSegments ["CMD", app, device]

def writeRequest (device site point : String) : String :=
  Topic.ofSegments ["", device, site, point, "write"]

/-- The topic that asks vendor applications to announce themselves. -/
def announceRequest : String := "START_BIRTH_PROCESS"

example : ofSegments? (Topic.segments "BIRTH/app/device") = some (.birth "app" "device") := by
  decide +kernel
example : ofSegments? (Topic.segments "/a/b/c/write") = none := by decide +kernel

end BusTopic

end ScadaBridge
