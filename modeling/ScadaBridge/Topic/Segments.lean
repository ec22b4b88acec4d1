/-!
# Topic levels

A topic is a text whose levels are separated by slashes. `segments` splits a topic into its levels,
`ofSegments` puts levels together; a topic is the text of its levels (`ofSegments_segments`).
-/

namespace ScadaBridge.Topic

/-- The levels of a topic; there is at least one, and levels may be empty. -/
def segments (topic : String) : List String := (topic.toList.splitOn '/').map String.ofList

def ofSegments (levels : List String) : String :=
  String.ofList (['/'].intercalate (levels.map String.toList))

/-- Whether a text can be one level of a topic. -/
def IsLevel (s : String) : Prop := '/' ∉ s.toList

instance (s : String) : Decidable (IsLevel s) := inferInstanceAs (Decidable (_ ∉ _))

theorem ofSegments_segments (topic : String) : ofSegments (segments topic) = topic := by
  have h : ((topic.toList.splitOn '/').map String.ofList).map String.toList =
      topic.toList.splitOn '/' := by simp
  rw [ofSegments, segments, h, List.intercalate_splitOn, String.ofList_toList]

example : segments "/a//b" = ["", "a", "", "b"] := by decide +kernel
example : ofSegments ["", "a", "", "b"] = "/a//b" := by decide +kernel

end ScadaBridge.Topic
