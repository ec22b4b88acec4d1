import ScadaBridge.Metric.Assign

/-!
# UDT definitions

The definitions that were announced, in the order of their first announcement. A definition is known
by its name and version; announcing it again replaces it in its place, so its index, which instances
keep as their handle, stays valid.

`Metric.bind` resolves the handles of a metric, and `Metric.validate` checks that bound instances have
only children that their definition declares, with compatible types.
-/

namespace ScadaBridge

/-- A UDT: a metric that groups others. -/
structure Udt where
  /-- Everything but the children. -/
  head : UdtHead
  /-- The children, in the order of their names. -/
  children : List Metric

def Udt.metric (u : Udt) : Metric := .udt u.head u.children

def Metric.udt? : Metric → Option Udt
  | .leaf _ => none
  | .udt head children => some ⟨head, children⟩

structure Definitions where
  /-- The definitions in the order of their first registration. -/
  entries : List Udt

namespace Definitions

def empty : Definitions := ⟨[]⟩

def isCalled (name version : String) (u : Udt) : Bool :=
  u.head.definition == name && u.head.version == version

def lookup? (d : Definitions) (name version : String) : Option Nat :=
  d.entries.findIdx? (isCalled name version)

def get? (d : Definitions) (index : Nat) : Option Udt := d.entries[index]?

def register (d : Definitions) (u : Udt) : Definitions × Nat :=
  let u' : Udt := { u with head := u.head.asDefinition }
  match d.lookup? u'.head.definition u'.head.version with
  | some index => (⟨d.entries.set index u'⟩, index)
  | none => (⟨d.entries ++ [u']⟩, d.entries.length)

end Definitions

namespace UdtHead

/-- The head with its handle resolved. Definitions, and instances of an unnamed definition, are left as
they are. -/
def bind (definitions : Definitions) (head : UdtHead) : Except Fault UdtHead :=
  if head.isDefinition || head.definition == "" then .ok head
  else
    match definitions.lookup? head.definition head.version with
    | some index => .ok { head with handle := some index }
    | none => .error (.unknownDefinition head.definition head.version)

end UdtHead

namespace Metric

mutual

/-- The metric with its handles resolved, up to the first definition that is missing. -/
def bind (definitions : Definitions) : Metric → Metric × Option Fault
  | .leaf l => (.leaf l, none)
  | .udt head children =>
    match head.bind definitions with
    | .error fault => (.udt head children, some fault)
    | .ok head' =>
      match bindAll definitions children with
      | (children', fault) => (.udt head' children', fault)

/-- The metrics with their handles resolved, up to the first definition that is missing. -/
def bindAll (definitions : Definitions) : List Metric → List Metric × Option Fault
  | [] => ([], none)
  | m :: rest =>
    match bind definitions m with
    | (m', some fault) => (m' :: rest, some fault)
    | (m', none) =>
      match bindAll definitions rest with
      | (rest', fault) => (m' :: rest', fault)

end

/-- Checks one child of an instance against the definition. -/
def validateChild (head : UdtHead) (definition : Udt) (child : Metric) : Except Fault Unit :=
  match Ordered.find? name child.name definition.children with
  | none => .error (.unknownMetric s!"UDT {head.definition}" child.name)
  | some declared =>
    if declared.declaredType.compatible child.declaredType then .ok ()
    else
      .error (.typeMismatch s!"{head.label.name}/{child.name}" declared.declaredType
        child.declaredType)

/-- Checks the children of an instance that has a handle. -/
def validateMembers (definitions : Definitions) (head : UdtHead) (children : List Metric) :
    Except Fault Unit :=
  match head.isDefinition, head.handle with
  | false, some index =>
    match definitions.get? index with
    | none => .error (.unknownDefinition head.definition head.version)
    | some definition => children.forM (validateChild head definition)
  | _, _ => .ok ()

mutual

/-- Checks the instances in a metric against their definitions. -/
def validate (definitions : Definitions) : Metric → Except Fault Unit
  | .leaf _ => .ok ()
  | .udt head children =>
    match validateMembers definitions head children with
    | .error fault => .error fault
    | .ok () => validateAll definitions children

def validateAll (definitions : Definitions) : List Metric → Except Fault Unit
  | [] => .ok ()
  | m :: rest =>
    match validate definitions m with
    | .error fault => .error fault
    | .ok () => validateAll definitions rest

end

end Metric

end ScadaBridge
