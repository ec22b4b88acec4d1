import ScadaBridge.Fault
import ScadaBridge.FilePath
import ScadaBridge.Json.Parser
import ScadaBridge.Settings.Environment
import ScadaBridge.Settings.Json
import ScadaBridge.Settings.Provenance
import ScadaBridge.Yaml.Reader
import ScadaBridge.Yaml.Writer

/-!
# Settings in files

Settings are read from one file, or from the standard files one after the other, and environment
variables count before all of them. The ending of a file name tells its format.
-/

namespace ScadaBridge

inductive FileFormat where
  | yaml
  | json
deriving DecidableEq, Repr

namespace FileFormat

/-- The ending of the file name in a path: what follows its last point. A name has none if it has no
point, or only one at its front. -/
def extension? (path : String) : Option String :=
  (FilePath.fileName? path).bind fun name =>
    let (reversed, before) := name.reverse.span (· != '.')
    match before with
    | _ :: _ :: _ => some (String.ofList reversed.reverse)
    | _ => none

/-- The format of files with an ending. -/
def ofExtension? (extension : String) : Option FileFormat :=
  if extension = "yaml" || extension = "yml" then some .yaml
  else if extension = "json" then some .json
  else none

/-- The ending of the file name in a path, which must have one. -/
def extension (path : String) : Except Fault String :=
  match extension? path with
  | some extension => .ok extension
  | none => .error (.service .noExtension)

/-- The format of files with an ending, which must be known. -/
def ofExtension (extension : String) : Except Fault FileFormat :=
  match ofExtension? extension with
  | some format => .ok format
  | none => .error (.service (.unknownFormat extension))

/-- The settings in a text that is a layer. -/
def read? : FileFormat → String → Option Json
  | .yaml, text => (Yaml.read? text).bind Yaml.Value.layer?
  | .json, text => (Json.parseText text).bind Json.layer?

/-- The text of a document. -/
def write : FileFormat → Json → String
  | .yaml, j => Yaml.write j
  | .json, j => j.pretty

/-- The settings that a text holds, which must be an object. -/
def layer (format : FileFormat) (text : String) : Except Fault Json :=
  match format.read? text with
  | some document => .ok document
  | none => .error (.service .loading)

end FileFormat

namespace Settings

/-- The settings in a document that was gathered from layers. -/
def ofDocument (j : Json) : Except Fault Settings :=
  match ofJson? .loose j with
  | some s => .ok s
  | none => .error (.service .loading)

/-- The document in a file with a path and, if it exists, this content. -/
def documentOfFile (path : String) (content : Option String) : Except Fault Json := do
  let extension ← FileFormat.extension path
  match content with
  | none => .error (.service (.notFound path))
  | some text =>
    let format ← FileFormat.ofExtension extension
    format.layer text

/-- The settings in a file alone. -/
def ofFile (path : String) (content : Option String) : Except Fault Settings := do
  let document ← documentOfFile path content
  ofDocument document

/-- The settings in a file and in environment variables, if they are valid. -/
def load (path : String) (content : Option String) (environment : List (String × String)) :
    Except Fault Settings := do
  let document ← documentOfFile path content
  let start := Environment.prefixOf serviceName
  let settings ← ofDocument (document.overlay (Environment.document start environment))
  settings.validate
  return settings

/-- The directory of the standard files, in the working directory. -/
def directory : String := "config"

/-- The standard files of a service with their formats, later ones counting before earlier ones. -/
def standardFiles (service : String) : List (String × FileFormat) :=
  [("default.yaml", .yaml), ("default.json", .json), (service ++ ".yaml", .yaml)]

/-- The place to which a path leads from the directory of the standard files. -/
def place? (isDirectory : FilePath.Place → Bool) (path : String) : Option FilePath.Place :=
  FilePath.follow? isDirectory [directory.toList] (FilePath.parts path)

/-- The files with their places; their directories are made with them. -/
def placed (files : List (String × String)) : List (FilePath.Place × String) :=
  files.filterMap fun (path, text) => (place? (fun _ => true) path).map fun place => (place, text)

/-- Whether there is a directory at a place: that of the standard files, or one on the way to it or to a
file. -/
def isDirectory (files : List (FilePath.Place × String)) (place : FilePath.Place) : Bool :=
  place.isSuffixOf [directory.toList] || files.any fun f => place.isSuffixOf f.1.tail

/-- The text of a file, if a path leads to it; of several texts for one file the last. -/
def textOf? (files : List (String × String)) (path : String) : Option String :=
  let files := placed files
  if FilePath.isStorable path then
    (place? (isDirectory files) path).bind fun place =>
      (files.reverse.find? fun f => f.1 == place).map Prod.snd
  else none

/-- Lays those of the files that exist over a document. -/
def overlayFiles (files : List (String × String)) (under : Json) :
    List (String × FileFormat) → Except Fault Json
  | [] => .ok under
  | (name, format) :: rest =>
    match textOf? files name with
    | none => overlayFiles files under rest
    | some text =>
      match format.layer text with
      | .error fault => .error fault
      | .ok upper => overlayFiles files (under.overlay upper) rest

/-- The settings of a service in the standard files, of which `files` are there, and in environment
variables; what none of them tells has its default. -/
def loadLayers (service : String) (files : List (String × String))
    (environment : List (String × String)) : Except Fault Settings := do
  let standard : Settings := {}
  let document ←
    overlayFiles files (standard.toJson.canonical.getD (.obj [])) (standardFiles service)
  let start := Environment.prefixOf service
  ofDocument (document.overlay (Environment.document start environment))

/-- The text with which settings are saved in a file. The directories of the path are made before the
format is chosen, the file after that. -/
def save (s : Settings) (path : String) : Except Fault String := do
  let extension ← FileFormat.extension path
  unless FilePath.isStorable (FilePath.directory path) do throw (.service .storage)
  let format ← FileFormat.ofExtension extension
  if FilePath.endsInDirectory path || !FilePath.isStorable path then throw (.service .storage)
  return format.write s.toJson

end Settings

example : FileFormat.extension? "config/c.d/o.yaml" = some "yaml" := by decide +kernel
example : FileFormat.extension? "config/o.json/./" = some "json" := by decide +kernel
example : FileFormat.extension? "config/.." = none := by decide +kernel
example : FileFormat.extension? "c." = some "" ∧ FileFormat.extension? ".yaml" = none := by
  decide +kernel
example : Settings.textOf? [("x.yaml", "a: 1")] "../config/x.yaml" = some "a: 1" := by decide +kernel
example : Settings.textOf? [("x.yaml", "a: 1")] "x.yaml/../x.yaml" = none := by decide +kernel

end ScadaBridge
