import ScadaBridge.Number.Layout
import ScadaBridge.Text.Quoted
import ScadaBridge.Wire.Basic

/-!
# Wire values in messages

When a wire value does not fit its datatype code, the fault quotes the value. This module is the
form in which it is quoted: the kind of the value with its content, and for a template the whole
tree.
-/

namespace ScadaBridge.Wire

/-- Items between square brackets. -/
def bracketed (items : List String) : String := "[" ++ ", ".intercalate items ++ "]"

/-- Named parts between braces, after the kind of the record. -/
def braced (kind : String) (parts : List (String × String)) : String :=
  kind ++ " \x7b " ++ ", ".intercalate (parts.map fun p => p.1 ++ ": " ++ p.2) ++ " \x7d"

/-- A part that may be missing. -/
def optionText (text : Option String) : String :=
  match text with
  | some s => s!"Some({s})"
  | none => "None"

def boolText (b : Bool) : String := if b then "true" else "false"

mutual

def Value.message : Value → String
  | .int pattern => s!"IntValue({pattern.toNat})"
  | .long pattern => s!"LongValue({pattern.toNat})"
  | .float bits => s!"FloatValue({DecimalLayout.message.singleText bits})"
  | .double bits => s!"DoubleValue({DecimalLayout.message.doubleText bits})"
  | .boolean b => s!"BooleanValue({boolText b})"
  | .string s => s!"StringValue({Quoted.message s})"
  | .template t => s!"TemplateValue({t.message})"
  | .null => "Null"

/-- A template body as messages quote it. -/
def Template.message : Template → String
  | ⟨version, metrics, parameters, definition, isDefinition⟩ =>
    braced "WireTemplate"
      [("version", optionText (version.map Quoted.message)),
        ("metrics", bracketed (metricMessages metrics)),
        ("parameters", bracketed (entryMessages "WireParameter" "name" parameters)),
        ("template_ref", optionText (definition.map Quoted.message)),
        ("is_definition", boolText isDefinition)]

def metricMessages : List Metric → List String
  | [] => []
  | ⟨name, aliasNumber, timestamp, datatype, isNull, properties, value⟩ :: rest =>
    braced "WireMetric"
      [("name", Quoted.message name),
        ("alias", optionText (aliasNumber.map fun a => toString a.toNat)),
        ("timestamp", toString timestamp.toNat),
        ("datatype", toString datatype.toNat),
        ("is_null", boolText isNull),
        ("properties", bracketed (entryMessages "WireProperty" "key" properties)),
        ("value", value.message)] :: metricMessages rest

/-- Entries as messages quote them: properties and parameters differ in the words. -/
def entryMessages (kind label : String) : List Entry → List String
  | [] => []
  | ⟨name, datatype, value⟩ :: rest =>
    braced kind
      [(label, Quoted.message name), ("datatype", toString datatype.toNat),
        ("value", value.message)] :: entryMessages kind label rest

end

example : (Value.float 0x3fc00000).message = "FloatValue(1.5)" := by decide +kernel

end ScadaBridge.Wire
