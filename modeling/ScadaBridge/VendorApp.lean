import ScadaBridge.Ordered

/-!
# Vendor applications

A vendor application announces devices on the plant bus. The list of applications knows of each whether
it is dead, and its devices by their telemetry names. Applications and device names are kept in order.
-/

namespace ScadaBridge

/-- A vendor application. -/
structure VendorApp where
  name : String
  /-- Whether it was reported dead and was not heard since. -/
  isDead : Bool
  /-- The telemetry names of its devices. -/
  devices : List String
deriving DecidableEq, Repr

/-- The known vendor applications. -/
abbrev VendorApps := List VendorApp

namespace VendorApp

/-- An application without devices. -/
def fresh (name : String) : VendorApp := ⟨name, false, []⟩

/-- The application with one more device, and whether the device is new. -/
def addDevice (app : VendorApp) (device : String) : VendorApp × Bool :=
  if Ordered.contains id device app.devices then (app, false)
  else ({ app with devices := Ordered.insert id device app.devices }, true)

/-- The application after it was reported dead. -/
def markDead (app : VendorApp) : VendorApp := { app with isDead := true }

/-- The application after it was heard. -/
def markAlive (app : VendorApp) : VendorApp := { app with isDead := false }

end VendorApp

namespace VendorApps

/-- The application called `name`. -/
def get? (apps : VendorApps) (name : String) : Option VendorApp :=
  Ordered.find? VendorApp.name name apps

/-- The applications with one of them replaced. -/
def put (apps : VendorApps) (app : VendorApp) : VendorApps := Ordered.insert VendorApp.name app apps

/-- The applications after a change to one of them, if there is one of that name. -/
def update (apps : VendorApps) (name : String) (change : VendorApp → VendorApp) : VendorApps :=
  match apps.get? name with
  | some app => apps.put (change app)
  | none => apps

/-- Adds a device to an application, which is created when it is first heard of. Tells whether the
device is new to the application. -/
def register (apps : VendorApps) (name device : String) : VendorApps × Bool :=
  match ((apps.get? name).getD (.fresh name)).addDevice device with
  | (app, isNew) => (apps.put app, isNew)

end VendorApps

end ScadaBridge
