import ScadaBridge.Topic.Bus
import ScadaBridge.Topic.Sparkplug

/-!
# Topics and their levels

The levels of a text that is put together from parts are the levels of the parts
(`Topic.segments_ofSegments`). So a Sparkplug topic is read back from its text exactly if each part is one
level and a device is named if the kind asks for one (`SparkplugTopic.parse_text_iff`). A slash in the name of
the device alone makes a text that no topic has. Such texts are all that is read (`SparkplugTopic.parse_exact`).

On the plant bus the readable texts are those of `BusTopic.Canonical`, each with one reading, and the texts on
which the bridge itself publishes are not among them, whatever names it puts into them (`BusTopic.parse_canonical`).
-/

namespace ScadaBridge

namespace Topic

theorem segments_of_isLevel {s : String} (h : IsLevel s) : segments s = [s] := by
  rw [segments, List.splitOn_eq_singleton h, List.map_singleton, String.ofList_toList]

theorem two_le_length_segments {s : String} (h : ¬IsLevel s) : 2 ≤ (segments s).length := by
  obtain ⟨first, second, hsplit⟩ := List.append_of_mem (Decidable.not_not.1 h)
  have hfirst := List.length_pos_iff.2 (List.splitOn_ne_nil '/' first)
  have hsecond := List.length_pos_iff.2 (List.splitOn_ne_nil '/' second)
  rw [segments, List.length_map, hsplit, List.splitOn_append_cons_self, List.length_append]
  omega

theorem not_mem_of_mem_splitOn {text level : List Char} (h : level ∈ text.splitOn '/') : '/' ∉ level := by
  induction text generalizing level with
  | nil =>
    rw [List.splitOn_nil, List.mem_singleton] at h
    simp [h]
  | cons c rest ih =>
    rw [List.splitOn_cons_eq_if_modifyHead] at h
    split at h
    · rcases List.mem_cons.1 h with rfl | h
      · simp
      · exact ih h
    · next hc =>
      obtain ⟨first, more, hrest⟩ := List.exists_cons_of_ne_nil (List.splitOn_ne_nil '/' rest)
      rw [hrest, List.modifyHead_cons] at h
      rcases List.mem_cons.1 h with rfl | h
      · have hfirst : '/' ∉ first := ih (by rw [hrest]; exact List.mem_cons_self)
        have hne : '/' ≠ c := fun heq => hc (beq_iff_eq.2 heq.symm)
        simp [hfirst, hne]
      · exact ih (by rw [hrest]; exact List.mem_cons_of_mem _ h)

theorem isLevel_of_mem_segments {topic level : String} (h : level ∈ segments topic) : IsLevel level := by
  obtain ⟨chars, hchars, rfl⟩ := List.mem_map.1 h
  rw [IsLevel, String.toList_ofList]
  exact not_mem_of_mem_splitOn hchars

/-- The levels of a joined text are those of its parts. -/
theorem segments_ofSegments {levels : List String} (h : levels ≠ []) :
    segments (ofSegments levels) = levels.flatMap segments := by
  induction levels with
  | nil => exact absurd rfl h
  | cons first rest ih =>
    cases rest with
    | nil => simp [ofSegments, List.intercalate_singleton]
    | cons second rest =>
      have hrest := ih (List.cons_ne_nil _ _)
      rw [ofSegments, segments, String.toList_ofList] at hrest
      rw [ofSegments, segments, String.toList_ofList, List.map_cons, List.map_cons, List.intercalate_cons_cons,
        List.append_assoc, List.singleton_append, List.splitOn_append_cons_self, List.map_append, List.flatMap_cons,
        ← hrest]
      rfl

theorem flatMap_segments {levels : List String} (h : ∀ level ∈ levels, IsLevel level) :
    levels.flatMap segments = levels := by
  induction levels with
  | nil => rfl
  | cons first rest ih =>
    obtain ⟨hfirst, hrest⟩ := List.forall_mem_cons.1 h
    rw [List.flatMap_cons, segments_of_isLevel hfirst, ih hrest, List.singleton_append]

theorem ofSegments_singleton (level : String) : ofSegments [level] = level := by
  rw [ofSegments, List.map_singleton, List.intercalate_singleton, String.ofList_toList]

theorem ofSegments_cons_cons (first second : String) (rest : List String) :
    ofSegments (first :: second :: rest) = first ++ "/" ++ ofSegments (second :: rest) := by
  apply String.toList_injective
  simp [ofSegments, List.intercalate_cons_cons]

end Topic

namespace SparkplugTopic

/-- The parts are levels, and a device is named if messages of the kind are about one. -/
structure WellFormed (t : SparkplugTopic) : Prop where
  group : Topic.IsLevel t.group
  edgeNode : Topic.IsLevel t.edgeNode
  device : ∀ name ∈ t.device, Topic.IsLevel name
  kind : t.kind.isDeviceLevel = t.device.isSome

theorem isLevel_word (k : MessageKind) : Topic.IsLevel k.word := by cases k <;> decide

theorem segments_text {t : SparkplugTopic} (group : Topic.IsLevel t.group) (edgeNode : Topic.IsLevel t.edgeNode) :
    Topic.segments t.text =
      namespaceLevel :: t.group :: t.kind.word :: t.edgeNode :: t.device.toList.flatMap Topic.segments := by
  have hnamespace : Topic.IsLevel namespaceLevel := by decide
  rw [text, segments, Topic.segments_ofSegments (List.cons_ne_nil _ _)]
  simp only [List.flatMap_cons, Topic.segments_of_isLevel hnamespace, Topic.segments_of_isLevel group,
    Topic.segments_of_isLevel (isLevel_word _), Topic.segments_of_isLevel edgeNode, List.singleton_append]

/-- The levels of a text that is read are those of the topic, whose kind fits its device. -/
theorem segments_of_parse {topic : String} {t : SparkplugTopic} (h : parse topic = .ok t) :
    Topic.segments topic = t.segments ∧ t.kind.isDeviceLevel = t.device.isSome := by
  have hparts : ∀ {group word edgeNode device}, ofParts? group word edgeNode device = some t →
      t.segments = namespaceLevel :: group :: word :: edgeNode :: device.toList ∧
        t.kind.isDeviceLevel = t.device.isSome := by
    intro group word edgeNode device hparts
    unfold ofParts? at hparts
    split at hparts
    · next kind hkind =>
      split at hparts
      · next hfits =>
        cases hparts
        exact ⟨by rw [segments, MessageKind.word_of_ofWord?_eq_some hkind], hfits⟩
      · simp at hparts
    · simp at hparts
  unfold parse at h
  split at h
  · next t' ht' =>
    cases h
    unfold ofSegments? at ht'
    split at ht'
    · next first group word edgeNode hsegments =>
      split at ht'
      · next hfirst =>
        obtain ⟨heq, hkind⟩ := hparts ht'
        exact ⟨by rw [hsegments, heq, hfirst]; rfl, hkind⟩
      · simp at ht'
    · next first group word edgeNode device hsegments =>
      split at ht'
      · next hfirst =>
        obtain ⟨heq, hkind⟩ := hparts ht'
        exact ⟨by rw [hsegments, heq, hfirst]; rfl, hkind⟩
      · simp at ht'
    · simp at ht'
  · simp at h

theorem parse_text {t : SparkplugTopic} (h : t.WellFormed) : parse t.text = .ok t := by
  obtain ⟨group, kind, edgeNode, device⟩ := t
  have hsegments := segments_text h.group h.edgeNode
  have hkind := h.kind
  unfold parse
  rw [hsegments]
  cases device with
  | none => simp_all [ofSegments?, ofParts?, MessageKind.ofWord?_word]
  | some name =>
    have hname := Topic.segments_of_isLevel (h.device name rfl)
    simp_all [ofSegments?, ofParts?, MessageKind.ofWord?_word]

/-- A topic is read back from its text exactly if it is well-formed. -/
theorem parse_text_iff {t : SparkplugTopic} : parse t.text = .ok t ↔ t.WellFormed := by
  refine ⟨fun h => ?_, parse_text⟩
  obtain ⟨hsegments, hkind⟩ := segments_of_parse h
  have hlevel : ∀ s ∈ t.segments, Topic.IsLevel s := fun s hs =>
    Topic.isLevel_of_mem_segments (hsegments ▸ hs)
  refine ⟨hlevel _ ?_, hlevel _ ?_, fun name hname => hlevel _ ?_, hkind⟩
  · simp [segments]
  · simp [segments]
  · simp [segments, Option.mem_def.1 hname]

/-- A device name of several levels makes a text that is no topic. -/
theorem parse_text_of_not_isLevel {t : SparkplugTopic} (group : Topic.IsLevel t.group)
    (edgeNode : Topic.IsLevel t.edgeNode) {name : String} (named : t.device = some name)
    (h : ¬Topic.IsLevel name) : ∃ fault, parse t.text = .error fault := by
  cases hparsed : parse t.text with
  | error fault => exact ⟨fault, rfl⟩
  | ok t' =>
    have hmany := Topic.two_le_length_segments h
    have hfew : t'.segments.length ≤ 5 := by cases hdevice : t'.device <;> simp [segments, hdevice]
    rw [← (segments_of_parse hparsed).1, segments_text group edgeNode, named, Option.toList_some,
      List.flatMap_singleton] at hfew
    simp only [List.length_cons] at hfew
    omega

theorem text_eq (t : SparkplugTopic) :
    t.text = "spBv1.0/" ++ t.group ++ "/" ++ t.kind.word ++ "/" ++ t.edgeNode ++ t.device.elim "" ("/" ++ ·) := by
  obtain ⟨group, kind, edgeNode, device⟩ := t
  have hfirst : "spBv1.0/" = namespaceLevel ++ "/" := rfl
  cases device <;>
    simp [text, segments, Topic.ofSegments_cons_cons, Topic.ofSegments_singleton, hfirst, String.append_assoc]

theorem parse_eq_ok_iff {topic : String} {t : SparkplugTopic} :
    parse topic = .ok t ↔ t.WellFormed ∧ t.text = topic := by
  constructor
  · intro h
    have htext : t.text = topic := by rw [text, ← (segments_of_parse h).1, Topic.ofSegments_segments]
    exact ⟨parse_text_iff.1 (htext.symm ▸ h), htext⟩
  · rintro ⟨hwell, rfl⟩
    exact parse_text hwell

theorem eq_invalidTopic_of_parse {topic : String} {fault : Fault} (h : parse topic = .error fault) :
    fault = .invalidTopic topic := by
  unfold parse at h
  split at h
  · cases h
  · exact (Except.error.inj h).symm

theorem parse_eq_error_iff {topic : String} {fault : Fault} :
    parse topic = .error fault ↔
      fault = .invalidTopic topic ∧ ¬∃ t : SparkplugTopic, t.WellFormed ∧ t.text = topic := by
  constructor
  · intro h
    refine ⟨eq_invalidTopic_of_parse h, ?_⟩
    rintro ⟨t, ht⟩
    rw [parse_eq_ok_iff.2 ht] at h
    cases h
  · rintro ⟨rfl, hnone⟩
    cases hparsed : parse topic with
    | ok t => exact absurd ⟨t, parse_eq_ok_iff.1 hparsed⟩ hnone
    | error fault => rw [eq_invalidTopic_of_parse hparsed]

/-- A text is read as a topic exactly if that topic is well-formed and has this text; every other text is refused. -/
theorem parse_exact :
    (∀ topic t, parse topic = .ok t ↔ t.WellFormed ∧ t.text = topic) ∧
    (∀ topic fault, parse topic = .error fault ↔
      fault = .invalidTopic topic ∧ ¬∃ t : SparkplugTopic, t.WellFormed ∧ t.text = topic) ∧
    ∀ t : SparkplugTopic,
      t.text = "spBv1.0/" ++ t.group ++ "/" ++ t.kind.word ++ "/" ++ t.edgeNode ++ t.device.elim "" ("/" ++ ·) :=
  ⟨fun _ _ => parse_eq_ok_iff, fun _ _ => parse_eq_error_iff, text_eq⟩

end SparkplugTopic

namespace BusTopic

/-- The names in a topic. -/
def names : BusTopic → List String
  | .birth app device => [app, device]
  | .data app device => [app, device]
  | .death app device => app :: device.toList
  | .update device site point => [device, site, point]
  | .definitions => []

/-- What can be a name in a topic. -/
def IsName (s : String) : Prop := s ≠ "" ∧ Topic.IsLevel s

instance (s : String) : Decidable (IsName s) := inferInstanceAs (Decidable (_ ∧ _))

theorem ofSegments?_eq_some_iff {levels : List String} {t : BusTopic} :
    ofSegments? levels = some t ↔ t.segments = levels ∧ ∀ name ∈ t.names, name ≠ "" := by
  constructor
  · intro h
    unfold ofSegments? at h
    split at h <;> (try split at h) <;> simp only [Option.some.injEq, reduceCtorEq] at h <;> subst h <;>
      simp_all [names, segments]
  · rintro ⟨rfl, hnames⟩
    cases t with
    | death app device => cases device <;> simp_all [names, segments, ofSegments?]
    | _ => simp_all [names, segments, ofSegments?]

theorem parse_eq_ok_iff_ofSegments? {topic : String} {t : BusTopic} :
    parse topic = .ok t ↔ ofSegments? (Topic.segments topic) = some t := by
  unfold parse
  split <;> simp_all

/-- The levels of a text that is read are those of the topic. -/
theorem segments_of_parse {topic : String} {t : BusTopic} (h : parse topic = .ok t) :
    Topic.segments topic = t.segments :=
  (ofSegments?_eq_some_iff.1 (parse_eq_ok_iff_ofSegments?.1 h)).1.symm

/-! ## Canonical texts -/

/-- The texts of the topics with names in them. -/
inductive Canonical : String → BusTopic → Prop where
  | birth {app device : String} (happ : IsName app) (hdevice : IsName device) :
      Canonical ("BIRTH/" ++ app ++ "/" ++ device) (.birth app device)
  | data {app device : String} (happ : IsName app) (hdevice : IsName device) :
      Canonical ("DATA/" ++ app ++ "/" ++ device) (.data app device)
  | appDeath {app : String} (happ : IsName app) : Canonical ("DEATH/" ++ app) (.death app none)
  | deviceDeath {app device : String} (happ : IsName app) (hdevice : IsName device) :
      Canonical ("DEATH/" ++ app ++ "/" ++ device) (.death app (some device))
  | update {device site point : String} (hdevice : IsName device) (hsite : IsName site) (hpoint : IsName point) :
      Canonical ("/" ++ device ++ "/" ++ site ++ "/" ++ point ++ "/update") (.update device site point)
  | definitions : Canonical "TemplateDef" .definitions

theorem text_eq (t : BusTopic) :
    t.text = match t with
      | .birth app device => "BIRTH/" ++ app ++ "/" ++ device
      | .data app device => "DATA/" ++ app ++ "/" ++ device
      | .death app none => "DEATH/" ++ app
      | .death app (some device) => "DEATH/" ++ app ++ "/" ++ device
      | .update device site point => "/" ++ device ++ "/" ++ site ++ "/" ++ point ++ "/update"
      | .definitions => "TemplateDef" := by
  have hbirth : "BIRTH/" = "BIRTH" ++ "/" := rfl
  have hdata : "DATA/" = "DATA" ++ "/" := rfl
  have hdeath : "DEATH/" = "DEATH" ++ "/" := rfl
  have hupdate : "/update" = "/" ++ "update" := rfl
  split <;>
    simp [text, segments, Topic.ofSegments_cons_cons, Topic.ofSegments_singleton, hbirth, hdata, hdeath, hupdate,
      String.append_assoc]

/-- The canonical text of a topic is its text, provided that its names are names. -/
theorem canonical_iff {topic : String} {t : BusTopic} :
    Canonical topic t ↔ (∀ name ∈ t.names, IsName name) ∧ t.text = topic := by
  constructor
  · intro h
    cases h <;> simp_all [names, text_eq]
  · rintro ⟨hnames, rfl⟩
    rw [text_eq]
    cases t with
    | birth app device => exact .birth (hnames _ (by simp [names])) (hnames _ (by simp [names]))
    | data app device => exact .data (hnames _ (by simp [names])) (hnames _ (by simp [names]))
    | death app device =>
      cases device with
      | none => exact .appDeath (hnames _ (by simp [names]))
      | some device => exact .deviceDeath (hnames _ (by simp [names])) (hnames _ (by simp [names]))
    | update device site point =>
      exact .update (hnames _ (by simp [names])) (hnames _ (by simp [names])) (hnames _ (by simp [names]))
    | definitions => exact .definitions

theorem mem_segments_of_mem_names {t : BusTopic} {name : String} (h : name ∈ t.names) : name ∈ t.segments := by
  cases t with
  | death app device => cases device <;> grind [names, segments]
  | _ => grind [names, segments]

/-- The levels of a topic besides its names are words, so its text is cut where it was put together. -/
theorem segments_text {t : BusTopic} (h : ∀ name ∈ t.names, Topic.IsLevel name) :
    Topic.segments t.text = t.segments := by
  have hwords : ∀ word ∈ ["BIRTH", "DATA", "DEATH", "", "update", "TemplateDef"], Topic.IsLevel word := by decide
  have hlevels : t.segments ≠ [] ∧ ∀ level ∈ t.segments, Topic.IsLevel level := by
    cases t with
    | death app device => cases device <;> simp_all [names, segments]
    | _ => simp_all [names, segments]
  rw [text, Topic.segments_ofSegments hlevels.1, Topic.flatMap_segments hlevels.2]

/-- The texts that are read are the canonical ones. -/
theorem parse_eq_ok_iff {topic : String} {t : BusTopic} : parse topic = .ok t ↔ Canonical topic t := by
  rw [parse_eq_ok_iff_ofSegments?, ofSegments?_eq_some_iff, canonical_iff]
  constructor
  · rintro ⟨hsegments, hnames⟩
    refine ⟨fun name hname => ⟨hnames name hname, ?_⟩, ?_⟩
    · exact Topic.isLevel_of_mem_segments (hsegments ▸ mem_segments_of_mem_names hname)
    · rw [text, hsegments, Topic.ofSegments_segments]
  · rintro ⟨hnames, rfl⟩
    exact ⟨(segments_text fun name hname => (hnames name hname).2).symm, fun name hname => (hnames name hname).1⟩

/-! ## Texts on which the bridge publishes -/

/-- A text with levels that no topic has is refused. -/
theorem parse_of_segments_ne {topic : String} (h : ∀ t : BusTopic, t.segments ≠ Topic.segments topic) :
    parse topic = .error (.invalidTopic topic) := by
  unfold parse
  split
  · next t ht => exact absurd (ofSegments?_eq_some_iff.1 ht).1 (h t)
  · rfl

/-- Commands begin with a word of their own. -/
theorem parse_vendorCommand (app device : String) :
    parse (vendorCommand app device) = .error (.invalidTopic (vendorCommand app device)) := by
  have hword : Topic.IsLevel "CMD" := by decide
  refine parse_of_segments_ne fun t ht => ?_
  rw [vendorCommand, Topic.segments_ofSegments (List.cons_ne_nil _ _), List.flatMap_cons,
    Topic.segments_of_isLevel hword] at ht
  cases t with
  | death app device => cases device <;> simp [segments] at ht
  | _ => simp [segments] at ht

/-- Requests to write begin as readings do, but end with a word of their own. -/
theorem parse_writeRequest (device site point : String) :
    parse (writeRequest device site point) = .error (.invalidTopic (writeRequest device site point)) := by
  have hfirst : Topic.IsLevel "" := by decide
  have hlast : Topic.IsLevel "write" := by decide
  -- the names may hold any levels, so the first and the last one decide
  refine parse_of_segments_ne fun t ht => ?_
  rw [writeRequest, Topic.segments_ofSegments (List.cons_ne_nil _ _)] at ht
  have hhead := congrArg List.head? ht
  have hend := congrArg List.getLast? ht
  simp only [List.flatMap_cons, List.flatMap_nil, Topic.segments_of_isLevel hfirst,
    Topic.segments_of_isLevel hlast] at hhead hend
  cases t with
  | death app device => cases device <;> simp [segments] at hhead
  | update => simp [segments, List.getLast?_cons, List.getLast?_append] at hend
  | _ => simp [segments] at hhead

/-- The texts that are read are the canonical ones, of which each topic has one and no two topics have the same; the
texts on which the bridge publishes commands and requests to write are refused, whatever stands in them. -/
theorem parse_canonical :
    (∀ topic t, parse topic = .ok t ↔ Canonical topic t) ∧
    (∀ topic topic' t, parse topic = .ok t → parse topic' = .ok t → topic = topic') ∧
    (∀ topic t t', Canonical topic t → Canonical topic t' → t = t') ∧
    (∀ app device, parse (vendorCommand app device) = .error (.invalidTopic (vendorCommand app device))) ∧
    ∀ device site point,
      parse (writeRequest device site point) = .error (.invalidTopic (writeRequest device site point)) := by
  refine ⟨fun _ _ => parse_eq_ok_iff, ?_, ?_, parse_vendorCommand, parse_writeRequest⟩
  · intro topic topic' t h h'
    rw [parse_eq_ok_iff, canonical_iff] at h h'
    exact h.2.symm.trans h'.2
  · intro topic t t' h h'
    rw [← parse_eq_ok_iff] at h h'
    exact Except.ok.inj (h.symm.trans h')

/-- Keywords may be names, and names with the levels of a reading in them do not make a request readable. -/
theorem parse_canonical_keywords :
    (Canonical "DEATH/DATA/BIRTH" (.death "DATA" (some "BIRTH")) ∧
      parse "DEATH/DATA/BIRTH" = .ok (.death "DATA" (some "BIRTH"))) ∧
    (∀ topic, parse topic = .ok (.death "DATA" (some "BIRTH")) → topic = "DEATH/DATA/BIRTH") ∧
    (∀ t, Canonical "DEATH/DATA/BIRTH" t → t = .death "DATA" (some "BIRTH")) ∧
    parse (writeRequest "a/b" "c/d/update" "update") =
      .error (.invalidTopic (writeRequest "a/b" "c/d/update" "update")) := by
  have happ : IsName "DATA" := by decide
  have hdevice : IsName "BIRTH" := by decide
  have hcanonical : Canonical "DEATH/DATA/BIRTH" (.death "DATA" (some "BIRTH")) := .deviceDeath happ hdevice
  obtain ⟨hread, hone, hunique, -, hrefused⟩ := parse_canonical
  have hparsed := (hread _ _).2 hcanonical
  exact ⟨⟨hcanonical, hparsed⟩, fun topic h => hone topic _ _ h hparsed, fun t h => hunique _ t _ h hcanonical,
    hrefused "a/b" "c/d/update" "update"⟩

end BusTopic

end ScadaBridge
