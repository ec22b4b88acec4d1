import ScadaBridge.Metric.Record
import ScadaBridge.Proofs.Json

/-!
# Records with unreadable parts

A child or a parameter of a UDT that cannot be read does not count: the record is read like the one from which it
was deleted. `Metric.pruned` deletes all of them at every depth, and nothing else (`Metric.prunes_pruned`); what is
read stays the same (`Metric.ofRecord_pruned`).
-/

namespace ScadaBridge

namespace Metric

/-! ## What can be read

A record gets a time from those around it, but whether it can be read does not depend on that time. -/

/-- Whether a record can be read. -/
def readable (record : Json) : Bool := (ofRecord 0 record).isOk

section Times

variable (name : String) (t t' : UInt64)

theorem isSome_childrenOfMembers (parts : List (String × Json)) :
    (childrenOfMembers t parts).isSome = (childrenOfMembers t' parts).isSome := by
  induction parts with
  | nil => simp [childrenOfMembers]
  | cons part rest ih =>
    obtain ⟨key, value⟩ := part
    simp only [childrenOfMembers]
    split
    · cases value <;> simp [childrenOfList]
    · exact ih

theorem isOk_recordHead (parts : List (String × Json)) :
    (recordHead name t parts).isOk = (recordHead name t' parts).isOk := by
  unfold recordHead
  split
  · split <;> rfl
  · split <;> rfl

theorem isOk_recordUdt (parts : List (String × Json)) (children : Option (List Metric)) :
    (recordUdt name t parts children).isOk = (children.isSome && (recordHead name t parts).isOk) := by
  cases children with
  | none => rfl
  | some children =>
    unfold recordUdt
    cases recordHead name t parts <;> rfl

theorem isOk_ofUdtValue (value : Json) : (ofUdtValue name t value).isOk = (ofUdtValue name t' value).isOk := by
  cases value with
  | obj parts =>
    unfold ofUdtValue
    rw [isOk_recordUdt, isOk_recordUdt, isSome_childrenOfMembers t t', isOk_recordHead name t t']
  | _ => simp only [ofUdtValue]

theorem isOk_recordLeaf (type : DataType) (value : Json) :
    (recordLeaf name t type value).isOk = (recordLeaf name t' type value).isOk := by
  unfold recordLeaf
  split
  · rfl
  · split <;> rfl

theorem isOk_ofValueMember (type : DataType) (members : List (String × Json)) :
    (ofValueMember name type t members).map Except.isOk = (ofValueMember name type t' members).map Except.isOk := by
  induction members with
  | nil => simp [ofValueMember]
  | cons member rest ih =>
    obtain ⟨key, value⟩ := member
    simp only [ofValueMember]
    split
    · rw [Option.map_some, Option.map_some]
      split
      · rw [isOk_ofUdtValue name t t']
      · rw [isOk_recordLeaf name t t']
    · exact ih

theorem isOk_ofRecord (record : Json) : (ofRecord t record).isOk = (ofRecord t' record).isOk := by
  cases record with
  | obj members =>
    unfold ofRecord
    split
    · rfl
    · next name _ =>
      split
      · rfl
      · next type _ =>
        have hvalue := isOk_ofValueMember name (recordTime members t) (recordTime members t') type members
        cases hfirst : ofValueMember name type (recordTime members t) members with
        | none =>
          rw [hfirst, Option.map_none, eq_comm, Option.map_eq_none_iff] at hvalue
          rw [hvalue]
        | some result =>
          rw [hfirst, Option.map_some, eq_comm, Option.map_eq_some_iff] at hvalue
          obtain ⟨result', hsecond, heq⟩ := hvalue
          rw [hsecond]
          exact heq.symm
  | _ => simp only [ofRecord]

end Times

theorem readable_eq_isOk (t : UInt64) (record : Json) : readable record = (ofRecord t record).isOk :=
  isOk_ofRecord 0 t record

theorem exists_of_not_readable {record : Json} (h : readable record = false) (t : UInt64) :
    ∃ fault, ofRecord t record = .error fault := by
  rw [readable_eq_isOk t] at h
  cases hread : ofRecord t record with
  | ok m => rw [hread] at h; cases h
  | error fault => exact ⟨fault, rfl⟩

/-! ## Pruning -/

/-- Whether a record says that it is one of a UDT. -/
def saysUdt (record : Json) : Bool :=
  ((record.get? "dataType").bind Json.text?).bind DataType.ofName? == some .template

/-- The parameters that can be read, of a list of them. -/
def prunedParameters : Json → Json
  | .arr records => .arr (records.filter fun p => (Parameter.ofRecord? p).isSome)
  | j => j

mutual

/-- The record of a UDT without those of its children and parameters, at any depth, that cannot be read. Another
record stays as it is. -/
def pruned : Json → Json
  | .obj members => .obj (if saysUdt (.obj members) then prunedMembers members else members)
  | j => j

def prunedMembers : List (String × Json) → List (String × Json)
  | [] => []
  | (key, value) :: rest => (key, if key = "value" then prunedValue value else value) :: prunedMembers rest

def prunedValue : Json → Json
  | .obj parts => .obj (prunedParts parts)
  | j => j

def prunedParts : List (String × Json) → List (String × Json)
  | [] => []
  | (key, part) :: rest =>
    (key,
      if key = "metrics" then prunedChildren part
      else if key = "parameters" then prunedParameters part
      else part) :: prunedParts rest

def prunedChildren : Json → Json
  | .arr records => .arr (prunedAll records)
  | j => j

def prunedAll : List Json → List Json
  | [] => []
  | record :: rest => if readable record then pruned record :: prunedAll rest else prunedAll rest

end

theorem prunedAll_eq (records : List Json) : prunedAll records = (records.filter readable).map pruned := by
  induction records with
  | nil => simp [prunedAll]
  | cons record rest ih =>
    rw [prunedAll, ih]
    cases hread : readable record with
    | true => simp [hread]
    | false => simp [hread]

theorem prunedMembers_eq (members : List (String × Json)) :
    prunedMembers members = members.map fun m => (m.1, if m.1 = "value" then prunedValue m.2 else m.2) := by
  induction members with
  | nil => simp [prunedMembers]
  | cons m rest ih => rw [prunedMembers, ih, List.map_cons]

theorem prunedParts_eq (parts : List (String × Json)) :
    prunedParts parts = parts.map fun p => (p.1,
      if p.1 = "metrics" then prunedChildren p.2
      else if p.1 = "parameters" then prunedParameters p.2
      else p.2) := by
  induction parts with
  | nil => simp [prunedParts]
  | cons p rest ih => rw [prunedParts, ih, List.map_cons]

theorem member?_prunedMembers (name : String) (members : List (String × Json)) :
    Json.member? name (prunedMembers members) =
      (Json.member? name members).map fun value => if name = "value" then prunedValue value else value := by
  rw [prunedMembers_eq]
  exact Json.member?_map (fun key value => if key = "value" then prunedValue value else value) name members

theorem member?_prunedParts (name : String) (parts : List (String × Json)) :
    Json.member? name (prunedParts parts) =
      (Json.member? name parts).map fun part =>
        if name = "metrics" then prunedChildren part
        else if name = "parameters" then prunedParameters part
        else part := by
  rw [prunedParts_eq]
  exact Json.member?_map (fun key part => if key = "metrics" then prunedChildren part
    else if key = "parameters" then prunedParameters part else part) name parts

/-! ## What is deleted -/

/-- The records of the children in the record of a UDT. -/
def childRecords (record : Json) : List Json :=
  (((record.get? "value").bind (Json.get? "metrics")).bind Json.items?).getD []

/-- The records of the parameters in the record of a UDT. -/
def parameterRecords (record : Json) : List Json :=
  (((record.get? "value").bind (Json.get? "parameters")).bind Json.items?).getD []

/-- The second record is the first without those of its children and parameters that cannot be read; so are the
records of its children. -/
structure Prunes (record less : Json) : Prop where
  children : childRecords less = ((childRecords record).filter readable).map pruned
  parameters : parameterRecords less = (parameterRecords record).filter fun p => (Parameter.ofRecord? p).isSome
  members : ∀ name, name ≠ "value" → less.get? name = record.get? name
  parts : ∀ name, name ≠ "metrics" → name ≠ "parameters" →
    (less.get? "value").bind (Json.get? name) = (record.get? "value").bind (Json.get? name)

theorem get?_prunedValue (name : String) (value : Json) :
    (prunedValue value).get? name = (value.get? name).map fun part =>
      if name = "metrics" then prunedChildren part
      else if name = "parameters" then prunedParameters part
      else part := by
  cases value with
  | obj parts => exact member?_prunedParts name parts
  | _ => rfl

/-- Pruning the record of a UDT deletes what cannot be read, and nothing else. -/
theorem prunes_pruned {record : Json} (h : saysUdt record = true) : Prunes record (pruned record) := by
  cases record with
  | obj members =>
    have hget : ∀ name, (pruned (.obj members)).get? name =
        ((Json.obj members).get? name).map fun value => if name = "value" then prunedValue value else value := by
      intro name
      rw [pruned, if_pos h]
      exact member?_prunedMembers name members
    have hvalue : (pruned (.obj members)).get? "value" = ((Json.obj members).get? "value").map prunedValue :=
      hget "value"
    have hpart : ∀ name, ((pruned (.obj members)).get? "value").bind (Json.get? name) =
        (((Json.obj members).get? "value").bind (Json.get? name)).map fun part =>
          if name = "metrics" then prunedChildren part
          else if name = "parameters" then prunedParameters part
          else part := by
      intro name
      rw [hvalue]
      cases (Json.obj members).get? "value" with
      | none => rfl
      | some value => exact get?_prunedValue name value
    refine ⟨?_, ?_, fun name hname => ?_, fun name hmetrics hparameters => ?_⟩
    · unfold childRecords
      rw [hpart]
      cases ((Json.obj members).get? "value").bind (Json.get? "metrics") with
      | none => rfl
      | some list =>
        cases list with
        | arr records =>
          show prunedAll records = _
          exact prunedAll_eq records
        | _ => rfl
    · unfold parameterRecords
      rw [hpart]
      cases ((Json.obj members).get? "value").bind (Json.get? "parameters") with
      | none => rfl
      | some list => cases list <;> rfl
    · rw [hget]
      simp [hname]
    · rw [hpart]
      simp [hmetrics, hparameters]
  | _ => simp [saysUdt, Json.get?] at h

/-! ## Reading what is left -/

theorem recordName_prunedMembers (members : List (String × Json)) :
    recordName (prunedMembers members) = recordName members := by
  unfold recordName
  rw [member?_prunedMembers]
  simp

theorem recordType_prunedMembers (name : String) (members : List (String × Json)) :
    recordType name (prunedMembers members) = recordType name members := by
  unfold recordType
  rw [member?_prunedMembers]
  simp

theorem recordTime_prunedMembers (members : List (String × Json)) (otherwise : UInt64) :
    recordTime (prunedMembers members) otherwise = recordTime members otherwise := by
  unfold recordTime
  rw [member?_prunedMembers]
  simp

theorem recordHead_prunedParts (name : String) (timestamp : UInt64) (parts : List (String × Json)) :
    recordHead name timestamp (prunedParts parts) = recordHead name timestamp parts := by
  unfold recordHead
  rw [member?_prunedParts, member?_prunedParts]
  simp

/-- Of the parameters those that cannot be read are left out in any case. -/
theorem recordParameters_prunedParts (parts : List (String × Json)) :
    recordParameters (prunedParts parts) = recordParameters parts := by
  unfold recordParameters
  rw [member?_prunedParts]
  cases Json.member? "parameters" parts with
  | none => rfl
  | some list =>
    cases list with
    | arr records =>
      show Ordered.ofList Parameter.name ((records.filter _).filterMap _) = _
      rw [List.filterMap_filter]
      congr 2
      funext p
      cases Parameter.ofRecord? p <;> rfl
    | _ => rfl

theorem template_of_saysUdt {members : List (String × Json)} {name : String} {type : DataType}
    (h : saysUdt (.obj members) = true) (typed : recordType name members = .ok type) : type = .template := by
  unfold saysUdt at h
  unfold recordType at typed
  rw [show (Json.obj members).get? "dataType" = Json.member? "dataType" members from rfl] at h
  cases htext : (Json.member? "dataType" members).bind Json.text? with
  | none => simp [htext] at h
  | some text =>
    have hname : DataType.ofName? text = some .template := by simpa [htext] using h
    simp only [htext, DataType.ofName, hname] at typed
    exact (Except.ok.inj typed).symm

mutual

theorem ofRecord_pruned (otherwise : UInt64) : ∀ record, ofRecord otherwise (pruned record) = ofRecord otherwise record
  | .obj members => by
    rw [pruned]
    split
    · next hudt =>
      rw [ofRecord, ofRecord, recordName_prunedMembers]
      cases recordName members with
      | error fault => rfl
      | ok name =>
        dsimp only
        rw [recordType_prunedMembers, recordTime_prunedMembers]
        cases htype : recordType name members with
        | error fault => rfl
        | ok type =>
          dsimp only
          rw [template_of_saysUdt hudt htype, ofValueMember_prunedMembers name _ members]
    · rfl
  | .null | .bool _ | .num _ | .str _ | .arr _ | .unreadable => by simp only [pruned]

theorem ofValueMember_prunedMembers (name : String) (timestamp : UInt64) : ∀ members : List (String × Json),
    ofValueMember name .template timestamp (prunedMembers members) = ofValueMember name .template timestamp members
  | [] => by rw [prunedMembers]
  | (key, value) :: rest => by
    rw [prunedMembers, ofValueMember, ofValueMember]
    split
    · rw [if_pos rfl, if_pos rfl, ofUdtValue_prunedValue name timestamp value]
    · exact ofValueMember_prunedMembers name timestamp rest

theorem ofUdtValue_prunedValue (name : String) (timestamp : UInt64) : ∀ value : Json,
    ofUdtValue name timestamp (prunedValue value) = ofUdtValue name timestamp value
  | .obj parts => by
    have hchildren := childrenOfMembers_prunedParts timestamp parts
    rw [prunedValue, ofUdtValue, ofUdtValue, hchildren]
    unfold recordUdt
    rw [recordHead_prunedParts, recordParameters_prunedParts]
  | .null | .bool _ | .num _ | .str _ | .arr _ | .unreadable => by simp only [prunedValue]

theorem childrenOfMembers_prunedParts (otherwise : UInt64) : ∀ parts : List (String × Json),
    childrenOfMembers otherwise (prunedParts parts) = childrenOfMembers otherwise parts
  | [] => by rw [prunedParts]
  | (key, part) :: rest => by
    rw [prunedParts, childrenOfMembers, childrenOfMembers]
    split
    · rw [childrenOfList_prunedChildren otherwise part]
    · exact childrenOfMembers_prunedParts otherwise rest

theorem childrenOfList_prunedChildren (otherwise : UInt64) : ∀ list : Json,
    childrenOfList otherwise (prunedChildren list) = childrenOfList otherwise list
  | .arr records => by
    rw [prunedChildren, childrenOfList, childrenOfList, ofRecords_prunedAll otherwise records]
  | .null | .bool _ | .num _ | .str _ | .obj _ | .unreadable => by simp only [prunedChildren]

theorem ofRecords_prunedAll (otherwise : UInt64) : ∀ records : List Json,
    ofRecords otherwise (prunedAll records) = ofRecords otherwise records
  | [] => by rw [prunedAll]
  | record :: rest => by
    have hrest := ofRecords_prunedAll otherwise rest
    cases hread : readable record with
    | true =>
      rw [prunedAll, hread, if_pos rfl, ofRecords, ofRecords, hrest, ofRecord_pruned otherwise record]
    | false =>
      obtain ⟨fault, hfault⟩ := exists_of_not_readable hread otherwise
      rw [prunedAll, hread, if_neg Bool.false_ne_true, hrest, ofRecords, hfault]

end

end Metric

end ScadaBridge
