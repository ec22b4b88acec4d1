import ScadaBridge.Proofs.Metric.Content

/-!
# Births carry whole metrics

A well-formed metric is read back from its birth as it was, at every level, but for what a payload has no
room for: the part of its times below a millisecond, and the handle of the resolved definition
(`ofWire_birth`). A metric that was read back once is therefore sent and read back unchanged.
-/

namespace ScadaBridge

/-- A time in microseconds, rounded down to a whole millisecond. -/
def wholeMillis (timestamp : UInt64) : UInt64 := timestamp / 1000 * 1000

theorem toNat_wholeMillis (timestamp : UInt64) :
    (wholeMillis timestamp).toNat = timestamp.toNat / 1000 * 1000 := by
  have hlt : timestamp.toNat < 2 ^ 64 := timestamp.toNat_lt
  have hle : timestamp.toNat / 1000 * 1000 ≤ timestamp.toNat := Nat.div_mul_le_self _ _
  unfold wholeMillis
  rw [UInt64.toNat_mul, UInt64.toNat_div]
  exact Nat.mod_eq_of_lt (Nat.lt_of_le_of_lt hle hlt)

theorem wholeMillis_wholeMillis (timestamp : UInt64) :
    wholeMillis (wholeMillis timestamp) = wholeMillis timestamp := by
  rw [← UInt64.toNat_inj, toNat_wholeMillis, toNat_wholeMillis, Nat.mul_div_cancel _ (by decide)]

/-- A rounded time is not so great that the reader cuts it off. -/
theorem micros_millis (timestamp : UInt64) : micros (millis timestamp) = wholeMillis timestamp := by
  have hlt : timestamp.toNat < UInt64.size := timestamp.toNat_lt
  have hle : timestamp.toNat / 1000 * 1000 ≤ timestamp.toNat := Nat.div_mul_le_self _ _
  have hmillis : (millis timestamp).toNat = timestamp.toNat / 1000 := UInt64.toNat_div _ _
  have hmin : min ((millis timestamp).toNat * 1000) (UInt64.size - 1) = timestamp.toNat / 1000 * 1000 := by
    rw [hmillis]
    omega
  have hsmall : timestamp.toNat / 1000 * 1000 < UInt64.size := Nat.lt_of_le_of_lt hle hlt
  rw [← UInt64.toNat_inj, toNat_wholeMillis]
  unfold micros
  rw [hmin]
  exact UInt64.toNat_ofNat_of_lt hsmall

def Label.rounded (label : Label) : Label := { label with timestamp := wholeMillis label.timestamp }

/-- The leaf with its time rounded. -/
def Leaf.rounded (l : Leaf) : Leaf := { l with label := l.label.rounded }

def UdtHead.rounded (head : UdtHead) : UdtHead := { head with label := head.label.rounded, handle := none }

/-- The metric with every time in it rounded and without any handle. -/
def Metric.rounded (m : Metric) : Metric := m.map Leaf.rounded UdtHead.rounded

theorem Leaf.WellFormed.received_true {l : Leaf} (h : l.WellFormed) : l.received true = l.rounded := by
  obtain ⟨⟨name, published, timestamp⟩, declared, value, properties⟩ := l
  obtain rfl : published = name := h.published
  simp only [received, rounded, Label.rounded, Label.plain, micros_millis, if_true]

theorem UdtHead.WellFormed.received_eq {head : UdtHead} (h : head.WellFormed) :
    head.received = head.rounded := by
  obtain ⟨⟨name, published, timestamp⟩, definition, version, isDefinition, handle, parameters⟩ := head
  obtain rfl : published = name := h.published
  simp only [received, rounded, Label.rounded, Label.plain, micros_millis]

namespace Metric

theorem WellFormed.received_true {m : Metric} (h : m.WellFormed) : m.received true = m.rounded :=
  map_congr h (fun _ hl => hl.received_true) fun _ hhead => hhead.received_eq

@[simp] theorem rounded_leaf (l : Leaf) : (Metric.leaf l).rounded = .leaf l.rounded := rfl

@[simp] theorem rounded_udt (head : UdtHead) (children : List Metric) :
    (Metric.udt head children).rounded = .udt head.rounded (children.map rounded) := map_udt _ _ _ _

/-- Rounding changes neither names nor kinds, so a rounded metric can still be sent. -/
theorem WellFormed.rounded {m : Metric} (h : m.WellFormed) : m.rounded.WellFormed := by
  induction m using Metric.induction with
  | leaf l =>
    have hl := WellFormed.leaf_iff.1 h
    exact .leaf ⟨hl.published, hl.declared, hl.value⟩
  | udt head children ih =>
    have hname : ∀ m : Metric, m.rounded.name = m.name := by
      intro m
      cases m <;> rfl
    rw [rounded_udt]
    refine .udt ⟨h.head.published, h.head.definition, h.head.sorted, h.head.parameters⟩
      (h.children.sorted.map hname) fun m hm => ?_
    obtain ⟨c, hc, rfl⟩ := List.mem_map.1 hm
    exact ih c hc (h.children.each c hc)

theorem rounded_rounded (m : Metric) : m.rounded.rounded = m.rounded := by
  have hlabel : ∀ label : Label, label.rounded.rounded = label.rounded := by
    intro label
    unfold Label.rounded
    rw [wholeMillis_wholeMillis]
  have hleaf : Leaf.rounded ∘ Leaf.rounded = Leaf.rounded := by
    funext l
    show ({ l with label := l.label.rounded.rounded } : Leaf) = _
    rw [hlabel]
    rfl
  have hhead : UdtHead.rounded ∘ UdtHead.rounded = UdtHead.rounded := by
    funext head
    show ({ head with label := head.label.rounded.rounded, handle := none } : UdtHead) = _
    rw [hlabel]
    rfl
  unfold rounded
  rw [map_map, hleaf, hhead]

/-- A well-formed metric of any depth is read back from its birth, with its times rounded down to whole
milliseconds and without the handles of definitions, and otherwise as it was. -/
theorem ofWire_birth {m : Metric} (h : m.WellFormed) : ofWire m.birth = .ok m.rounded := by
  unfold birth
  rw [ofWire_toWire true m h, h.received_true]

/-- What was read back is sent and read back unchanged. -/
theorem ofWire_birth_of_read {m read : Metric} (h : m.WellFormed) (hread : ofWire m.birth = .ok read) :
    ofWire read.birth = .ok read := by
  rw [ofWire_birth h] at hread
  cases hread
  rw [ofWire_birth h.rounded, rounded_rounded]

/-- A pump is an instance of a resolved definition without a version. It has a parameter, a speed that was
never read, and a motor that is itself a UDT. -/
theorem ofWire_birth_nested :
    let speed (timestamp : UInt64) : Metric :=
      .leaf ⟨.plain "speed" timestamp, .float, none, [⟨"Scale", 9, .float 0⟩]⟩
    let running (timestamp : UInt64) : Metric := .leaf (.ofValue "running" (.boolean true) timestamp)
    let motor (timestamp : UInt64) : Metric :=
      .udt ⟨.plain "motor" timestamp, "Motor", "2", false, none, []⟩ [running timestamp]
    let pump (timestamp : UInt64) (handle : Option Nat) : Metric :=
      .udt ⟨.plain "pump" timestamp, "Pump", "", false, handle, [⟨"vendor", .text "ACME"⟩]⟩
        [motor timestamp, speed timestamp]
    (pump 1700000000123456 (some 3)).WellFormed ∧
      ofWire (pump 1700000000123456 (some 3)).birth = .ok (pump 1700000000123000 none) := by
  intro speed running motor pump
  have hrunning : (running 1700000000123456).WellFormed := .leaf (.ofValue _ (by simp) _)
  have hspeed : (speed 1700000000123456).WellFormed :=
    .leaf ⟨rfl, ⟨by decide, by decide⟩, fun v hv => by simp at hv⟩
  have hmotor : (motor 1700000000123456).WellFormed :=
    .udt ⟨rfl, by simp, Ordered.sorted_nil _, by simp⟩ (List.pairwise_singleton _ _)
      fun m hm => List.mem_singleton.1 hm ▸ hrunning
  have hpump : (pump 1700000000123456 (some 3)).WellFormed := by
    refine .udt ⟨rfl, by simp, List.pairwise_singleton _ _, by simp⟩ ?_ ?_
    · exact List.pairwise_pair.2 (by decide +kernel)
    · intro m hm
      rcases List.mem_pair.1 hm with rfl | rfl
      · exact hmotor
      · exact hspeed
  exact ⟨hpump, ofWire_birth hpump⟩

end Metric

end ScadaBridge
