import ScadaBridge.Fault
import ScadaBridge.Topic.Segments

/-!
# Topics of the SCADA broker

A Sparkplug topic names a group, a kind of message and an edge node, and for messages about one
device the device too. `SparkplugTopic.parse` reads a topic text and `SparkplugTopic.text` writes it.
-/

namespace ScadaBridge

inductive MessageKind where
  /-- The edge node comes online. -/
  | nodeBirth
  /-- The edge node goes offline. -/
  | nodeDeath
  /-- New values of the edge node. -/
  | nodeData
  /-- A command for the edge node. -/
  | nodeCommand
  /-- A device comes online. -/
  | deviceBirth
  /-- A device goes offline. -/
  | deviceDeath
  /-- New values of a device. -/
  | deviceData
  | deviceCommand
deriving DecidableEq, Repr

namespace MessageKind

def all : List MessageKind :=
  [.nodeBirth, .nodeDeath, .nodeData, .nodeCommand, .deviceBirth, .deviceDeath, .deviceData,
    .deviceCommand]

def word : MessageKind → String
  | .nodeBirth => "NBIRTH"
  | .nodeDeath => "NDEATH"
  | .nodeData => "NDATA"
  | .nodeCommand => "NCMD"
  | .deviceBirth => "DBIRTH"
  | .deviceDeath => "DDEATH"
  | .deviceData => "DDATA"
  | .deviceCommand => "DCMD"

def ofWord? (s : String) : Option MessageKind := all.find? fun k => k.word == s

/-- Whether messages of the kind are about one device. -/
def isDeviceLevel : MessageKind → Bool
  | .nodeBirth | .nodeDeath | .nodeData | .nodeCommand => false
  | .deviceBirth | .deviceDeath | .deviceData | .deviceCommand => true

theorem ofWord?_word (k : MessageKind) : ofWord? k.word = some k := by cases k <;> decide

theorem word_of_ofWord?_eq_some {s : String} {k : MessageKind} (h : ofWord? s = some k) :
    k.word = s := by
  simpa using List.find?_some h

end MessageKind

/-- A topic of the SCADA broker. -/
structure SparkplugTopic where
  group : String
  kind : MessageKind
  edgeNode : String
  /-- The device, for messages about one. -/
  device : Option String
deriving DecidableEq, Repr

namespace SparkplugTopic

/-- The first level of every Sparkplug topic. -/
def namespaceLevel : String := "spBv1.0"

/-- The topic with these parts, if the kind has the given word and fits a device being named. -/
def ofParts? (group word edgeNode : String) (device : Option String) : Option SparkplugTopic :=
  match MessageKind.ofWord? word with
  | some kind =>
    if kind.isDeviceLevel = device.isSome then some ⟨group, kind, edgeNode, device⟩ else none
  | none => none

/-- The topic with these levels. -/
def ofSegments? : List String → Option SparkplugTopic
  | [first, group, word, edgeNode] =>
    if first = namespaceLevel then ofParts? group word edgeNode none else none
  | [first, group, word, edgeNode, device] =>
    if first = namespaceLevel then ofParts? group word edgeNode (some device) else none
  | _ => none

def parse (topic : String) : Except Fault SparkplugTopic :=
  match ofSegments? (Topic.segments topic) with
  | some t => .ok t
  | none => .error (.invalidTopic topic)

def segments (t : SparkplugTopic) : List String :=
  namespaceLevel :: t.group :: t.kind.word :: t.edgeNode :: t.device.toList

def text (t : SparkplugTopic) : String := Topic.ofSegments t.segments

example : (SparkplugTopic.mk "g" .deviceData "e" (some "d")).text = "spBv1.0/g/DDATA/e/d" := by
  decide +kernel
example : ofSegments? (Topic.segments "spBv1.0/g/DDATA/e") = none := by decide +kernel

end SparkplugTopic

end ScadaBridge
