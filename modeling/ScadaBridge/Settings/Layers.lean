import ScadaBridge.Json.Basic

/-!
# Layers of settings

Settings come from several documents, one laid over the other. Where both are objects, they are merged
member by member; anywhere else the later document counts. A layer may also tell one member alone, by the
names that lead to it (`Json.nest`).
-/

namespace ScadaBridge.Json

/-- The document in which the member at a path has a value. -/
def nest (j : Json) : List String → Json
  | [] => j
  | name :: rest => .obj [(name, nest j rest)]

mutual

/-- The document `over` laid over the document `under`. Members are kept in the order of their names. -/
def overlay (under : Json) : Json → Json
  | .obj members =>
    match under with
    | .obj known => .obj (overlayMembers known members)
    | _ => .obj members
  | j => j

/-- Members laid over others. -/
def overlayMembers (known : List (String × Json)) : List (String × Json) → List (String × Json)
  | [] => known
  | (name, j) :: rest =>
    let merged :=
      match Ordered.find? Prod.fst name known with
      | some (_, under) => overlay under j
      | none => j
    overlayMembers (Ordered.insert Prod.fst (name, merged) known) rest

end

end ScadaBridge.Json
