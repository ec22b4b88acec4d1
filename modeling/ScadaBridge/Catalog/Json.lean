import ScadaBridge.Catalog.Basic
import ScadaBridge.Json.Record

/-!
# The catalog in JSON

Documents of a catalog have their members in a fixed order. Reading accepts any order, and supplies the
width, the polling interval and the list of points where they are missing.
-/

namespace ScadaBridge

def CatalogPoint.toJson (p : CatalogPoint) : Json :=
  .obj [("id", .str p.id), ("data_type", .str p.kind), ("width", .ofNat p.width.toNat),
    ("address", .ofNat p.address.toNat), ("register_type", .str p.registers.name),
    ("poll_interval_ms", .ofNat p.pollInterval.toNat), ("realtime", .bool p.realtime)]

def CatalogDevice.toJson (d : CatalogDevice) : Json :=
  .obj [("site", .str d.site), ("device", .str d.device),
    ("points", .arr (d.points.map CatalogPoint.toJson))]

def Catalog.toJson (c : Catalog) : Json :=
  .obj [("devices", .arr (c.devices.map CatalogDevice.toJson))]

def RegisterType.ofJson? (form : RecordForm) (j : Json) : Option RegisterType :=
  (j.plainAlternative? form).bind ofName?

def CatalogPoint.ofJson? (form : RecordForm) (j : Json) : Option CatalogPoint := do
  let fields ← j.fields? form ["id", "data_type", "width", "address", "register_type",
    "poll_interval_ms", "realtime"]
  let id ← fields.required "id" Json.text?
  let kind ← fields.required "data_type" Json.text?
  let width ← fields.defaulted "width" Json.uint32? 1
  let address ← fields.required "address" Json.uint32?
  let registers ← fields.required "register_type" (RegisterType.ofJson? form)
  let pollInterval ← fields.defaulted "poll_interval_ms" Json.uint32? 1000
  let realtime ← fields.defaulted "realtime" Json.bool? false
  return ⟨id, kind, width, address, registers, pollInterval, realtime⟩

def CatalogDevice.ofJson? (form : RecordForm) (j : Json) : Option CatalogDevice := do
  let fields ← j.fields? form ["site", "device", "points"]
  let site ← fields.required "site" Json.text?
  let device ← fields.required "device" Json.text?
  let points ← fields.defaulted "points" (Json.listOf? (CatalogPoint.ofJson? form)) []
  return ⟨site, device, points⟩

def Catalog.ofJson? (form : RecordForm) (j : Json) : Option Catalog := do
  let fields ← j.fields? form ["devices"]
  let devices ← fields.defaulted "devices" (Json.listOf? (CatalogDevice.ofJson? form)) []
  return ⟨devices⟩

end ScadaBridge
