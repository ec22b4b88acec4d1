import ScadaBridge.Proofs.Bridge.Call

/-!
# The sequence numbers of what is published

A Sparkplug host drops an edge node whose sequence numbers have a gap. `Continues` says how a message
must follow what was seen before it, and `run_numbered` that every published message does, whatever was
rendered in between while the SCADA broker was away.

The invariant is `Counting`: while the broker is connected, the counter stands one after the number that
was published last. Messages that do not pass use up numbers too, but then the broker is away, and the
first message that passes again is the birth of the edge node, with which the numbers start over.
-/

namespace ScadaBridge

def Event.published? : Event → Option Wire.Payload
  | .published (.sparkplug _ payload) => some payload
  | .published (.bus _ _) | .will _ => none

/-- The payload of the message that is handed out for the end of a session. -/
def Event.will? : Event → Option Wire.Payload
  | .will (.sparkplug _ payload) => some payload
  | .will (.bus _ _) | .published _ => none

/-- The number of a session in a payload. -/
def Wire.Payload.session? (payload : Wire.Payload) : Option Wire.Value :=
  (payload.metric? "bdSeq").map Wire.Metric.value

namespace Bridge

/-- The Sparkplug message that was published last. -/
def lastPublished? (seen : List Event) : Option Wire.Payload :=
  (seen.filterMap Event.published?).getLast?

/-- The number of the session in the latest message that was handed out for its end; zero if there was
none. -/
def announcedSession? (seen : List Event) : Option Wire.Value :=
  match (seen.filterMap Event.will?).getLast? with
  | some will => will.session?
  | none => some (.long 0)

/-- How a published message continues what was seen before it. -/
structure Continues (seen : List Event) (topic : SparkplugTopic) (payload : Wire.Payload) : Prop where
  /-- The first message is a birth of the edge node. -/
  first : lastPublished? seen = none → topic.kind = .nodeBirth
  /-- With a birth of the edge node the numbers start over, and it tells the announced session. -/
  nodeBirth : topic.kind = .nodeBirth →
    payload.seq = some 0 ∧ payload.session? = announcedSession? seen
  /-- Any other message carries the number after that of the message before it. -/
  other : topic.kind ≠ .nodeBirth →
    ∃ last n, lastPublished? seen = some last ∧ last.seq = some n ∧
      payload.seq = some ((n + 1) % 256)

/-- Every published Sparkplug message continues what was seen before it. -/
def Numbered (events : List Event) : Prop := Respects Continues [] events

/-! ## Appending events -/

theorem lastPublished?_sparkplug (seen : List Event) (topic : SparkplugTopic) (payload : Wire.Payload) :
    lastPublished? (seen ++ [.published (.sparkplug topic payload)]) = some payload := by
  simp [lastPublished?, Event.published?]

theorem lastPublished?_of_none {e : Event} (h : e.published? = none) (seen : List Event) :
    lastPublished? (seen ++ [e]) = lastPublished? seen := by
  simp [lastPublished?, h]

theorem announcedSession?_of_none {e : Event} (h : e.will? = none) (seen : List Event) :
    announcedSession? (seen ++ [e]) = announcedSession? seen := by
  simp [announcedSession?, h]

theorem announcedSession?_will (seen : List Event) (topic : SparkplugTopic) (payload : Wire.Payload) :
    announcedSession? (seen ++ [.will (.sparkplug topic payload)]) = payload.session? := by
  simp [announcedSession?, Event.will?]

theorem Numbered.snoc {events : List Event} (h : Numbered events) {e : Event}
    (he : ∀ topic payload, e = .published (.sparkplug topic payload) →
      Continues events topic payload) : Numbered (events ++ [e]) :=
  h.append (respects_singleton he)

/-! ## The invariant -/

/-- The counter stands one after the number that was published last. -/
def Follows (b : Bridge) (seen : List Event) : Prop :=
  ∃ last n, n < 256 ∧ lastPublished? seen = some last ∧ last.seq = some (.ofNat n) ∧
    b.seq.value.val = (n + 1) % 256

/-- What holds of the bridge and of what was seen of it at every point of a run. -/
structure Counting (b : Bridge) (seen : List Event) : Prop where
  sorted : b.Sorted
  /-- What is published has a receiver. -/
  outlet : b.outletOpen = true
  session : announcedSession? seen = some (.long b.session)
  numbered : Numbered seen
  /-- While the broker is connected, the counter follows what was published. -/
  follows : b.online = true → b.Follows seen

theorem value_sessionMetric (session timestamp : UInt64) :
    (sessionMetric session timestamp).value = .long session := by
  have hlt : session.toNat < UInt64.size := session.toNat_lt
  have hpattern : (⟨false, .w64⟩ : IntKind).ofPattern session.toNat = session.toNat := by
    show ((session.toNat % UInt64.size : Nat) : Int) = _
    rw [Nat.mod_eq_of_lt hlt]
  have hword : Scalar.word64 session.toNat = session := by
    have hmod : ((session.toNat : Int) % (UInt64.size : Nat)).toNat = session.toNat := by
      rw [Int.emod_eq_of_lt (by omega) (by omega), Int.toNat_natCast]
    unfold Scalar.word64
    rw [hmod, UInt64.ofNat_toNat]
  show (Scalar.ofPattern ⟨false, .w64⟩ session.toNat).toWire = _
  simp only [Scalar.ofPattern, Scalar.toWire, if_true, hpattern, hword]

theorem session?_nodeBirth (b : Bridge) (now session : UInt64) :
    (b.nodeBirth now session).2.session? = some (.long session) := by
  have hname : ¬("Name" == "bdSeq") = true := by decide
  show Option.map Wire.Metric.value (List.find? _ (_ :: sessionMetric session (millis now) :: _)) = _
  rw [List.find?_cons_of_neg (p := fun m : Wire.Metric => m.name == "bdSeq") hname,
    List.find?_cons_of_pos (by rfl), Option.map_some, value_sessionMetric]

theorem session?_nodeDeath (now session : UInt64) :
    (nodeDeath now session).session? = some (.long session) := by
  show Option.map Wire.Metric.value (List.find? _ [sessionMetric session (millis now)]) = _
  rw [List.find?_cons_of_pos (by rfl), Option.map_some, value_sessionMetric]

/-- The number of the next message, as it is written. -/
theorem ofNat_succ_mod {n : Nat} (h : n < 256) :
    UInt64.ofNat ((n + 1) % 256) = (UInt64.ofNat n + 1) % 256 := by
  have hn : n % 2 ^ 64 = n := Nat.mod_eq_of_lt (Nat.lt_trans h (by decide))
  apply UInt64.toNat_inj.1
  simp only [UInt64.toNat_ofNat', UInt64.toNat_mod, UInt64.toNat_add, UInt64.reduceToNat, hn]
  omega

namespace Counting

variable {b b' : Bridge} {seen : List Event}

/-- The invariant speaks of little of the bridge. -/
theorem congr (h : b.Counting seen) (sorted : b'.Sorted) (outlet : b'.outletOpen = b.outletOpen)
    (session : b'.session = b.session) (online : b'.online = b.online) (seq : b'.seq = b.seq) :
    b'.Counting seen := by
  refine ⟨sorted, ?_, ?_, h.numbered, fun honline => ?_⟩
  · rw [outlet]
    exact h.outlet
  · rw [session]
    exact h.session
  · rw [online] at honline
    unfold Follows
    rw [seq]
    exact h.follows honline

/-- A birth of the edge node may be published at any time, also when the broker is just back; the counter
follows it. -/
theorem nodeBirth (h : b.Counting seen) (now : UInt64) (online : Bool) :
    ({ (b.nodeBirth now b.session).1 with online := online } : Bridge).Counting
      (seen ++ [.published (.sparkplug (b.nodeTopic .nodeBirth) (b.nodeBirth now b.session).2)]) := by
  have hsession : ∀ payload topic, announcedSession? (seen ++ [.published (.sparkplug topic payload)]) =
      announcedSession? seen := fun _ _ => announcedSession?_of_none rfl seen
  refine ⟨h.sorted, h.outlet, ?_, h.numbered.snoc ?_, fun _ => ?_⟩
  · rw [hsession]
    exact h.session
  · intro topic payload heq
    cases heq
    refine ⟨fun _ => rfl, fun _ => ⟨rfl, ?_⟩, fun hkind => absurd rfl hkind⟩
    rw [h.session, session?_nodeBirth]
  · exact ⟨_, 0, by decide, lastPublished?_sparkplug _ _ _, rfl, rfl⟩

/-- A message about a device takes the next number. -/
theorem deviceMessage (h : b.Counting seen) (online : b.online = true) {kind : MessageKind}
    (hkind : kind ≠ .nodeBirth) (d : Device) (payload : Wire.Payload) :
    (b.deviceMessage kind d payload).1.Counting
      (seen ++ [.published (b.deviceMessage kind d payload).2]) := by
  obtain ⟨last, n, hn, hlast, hseq, hnext⟩ := h.follows online
  have hsession : announcedSession? (seen ++ [.published (b.deviceMessage kind d payload).2]) =
      announcedSession? seen := announcedSession?_of_none rfl seen
  refine ⟨h.sorted.deviceMessage kind d payload, h.outlet, ?_, h.numbered.snoc ?_, fun _ => ?_⟩
  · rw [hsession]
    exact h.session
  · intro topic stamped heq
    cases heq
    refine ⟨fun hnone => ?_, fun heq => absurd heq hkind, fun _ => ⟨last, .ofNat n, hlast, hseq, ?_⟩⟩
    · rw [hlast] at hnone
      simp at hnone
    · show some (UInt64.ofNat b.seq.value.val) = _
      rw [hnext, ofNat_succ_mod hn]
  · have hlt : b.seq.value.val < 256 := b.seq.value.isLt
    exact ⟨_, b.seq.value.val, hlt, lastPublished?_sparkplug _ _ _, rfl, rfl⟩

end Counting

theorem Saying.kind_ne {now : UInt64} {d d' : Device} {kind : MessageKind} {payload : Wire.Payload}
    (h : Saying now d kind d' payload) : kind ≠ .nodeBirth := by
  cases h <;> simp

namespace Counting

variable {b b' : Bridge} {seen : List Event} {now : UInt64} {messages : List Outbound}

/-- While the broker is connected, every rendered message continues the ones before it. -/
theorem emits_online (h : b.Counting seen) (he : Emits now b messages b') (online : b.online = true) :
    b'.Counting (seen ++ messages.map .published) := by
  induction he generalizing seen with
  | done => simpa using h
  | node _ ih =>
    have hrest := ih (h.nodeBirth now _) online
    rw [List.append_assoc] at hrest
    exact hrest
  | device _ said _ ih =>
    have hrest := ih (h.deviceMessage online said.kind_ne _ _) online
    rw [List.append_assoc] at hrest
    exact hrest

theorem emits (h : b.Counting seen) (he : Emits now b messages b') :
    b'.Counting (seen ++ (b.send messages).map .published) := by
  rw [he.send_eq h.outlet]
  split
  · next online => exact h.emits_online he online
  · next online =>
    rw [List.map_nil, List.append_nil]
    refine ⟨he.sorted h.sorted, ?_, ?_, h.numbered, fun honline => ?_⟩
    · rw [he.outletOpen_eq]
      exact h.outlet
    · rw [he.session_eq]
      exact h.session
    · rw [he.online_eq] at honline
      exact absurd honline online

theorem publish (h : b.Counting seen) (now : UInt64) (actions : List Action) :
    (b.publish now actions).1.Counting (seen ++ (b.publish now actions).2.map .published) := by
  obtain ⟨messages, he, hsent⟩ := publish_emits h.sorted now actions
  rw [hsent]
  exact h.emits he

/-- Messages on the plant bus do not count. -/
theorem bus (h : b.Counting seen) (hm : OnBus messages) :
    b.Counting (seen ++ messages.map .published) := by
  induction messages generalizing seen with
  | nil => simpa using h
  | cons message rest ih =>
    obtain ⟨topic, content, rfl⟩ := hm message List.mem_cons_self
    have hfirst : b.Counting (seen ++ [.published (.bus topic content)]) := by
      refine ⟨h.sorted, h.outlet, ?_, h.numbered.snoc (by simp), fun honline => ?_⟩
      · rw [announcedSession?_of_none rfl]
        exact h.session
      · unfold Follows
        rw [lastPublished?_of_none rfl]
        exact h.follows honline
    have hrest := ih hfirst fun x hx => hm x (List.mem_cons_of_mem _ hx)
    rw [List.append_assoc] at hrest
    exact hrest

/-! ## The calls -/

/-- The edge node is born when the broker is connected, whatever was counted before. -/
theorem connected (h : b.Counting seen) (now : UInt64) :
    (({ b with online := true } : Bridge).publish now [.nodeRebirth]).1.Counting
      (seen ++ (({ b with online := true } : Bridge).publish now [.nodeRebirth]).2.map .published) := by
  let online : Bridge := { b with online := true }
  have hs : online.Sorted := h.sorted
  have hsent : (online.publish now [.nodeRebirth]).2 = (online.render now .nodeRebirth).2 :=
    (publish_cons_online hs h.outlet rfl now .nodeRebirth []).trans (List.append_nil _)
  -- the birth of the edge node comes first, so the counter need not follow anything before it
  have hlive : Emits now (online.nodeBirth now b.session).1 _ _ :=
    liveBirths_emits now h.sorted fun d hd => h.sorted.device?_of_mem hd
  have hall := (h.nodeBirth now true).emits_online hlive rfl
  rw [hsent]
  show Counting (online.render now .nodeRebirth).1 _
  rw [List.append_assoc] at hall
  exact hall

/-- The invariant is kept by every move and what is published after it. -/
theorem moves (h : b.Counting seen) {s : Step} {actions : List Action} (hmoves : b.Moves s b' actions)
    (now : UInt64) :
    (b'.publish now actions).1.Counting (seen ++ (b'.publish now actions).2.map .published) := by
  have hstays : b'.online = b.online → b'.Counting seen := by
    intro online
    refine h.congr (hmoves.sorted h.sorted) ?_ ?_ online ?_ <;> rw [hmoves.frame]
  cases hmoves with
  | idle _ hframe =>
    refine (hstays ?_).publish now _
    rw [hframe]
  | fault => exact h.publish now _
  | turn _ _ hturn =>
    refine (hstays ?_).publish now _
    rw [hturn.frame]
  | connected => exact h.connected now
  | lost =>
    have hlost : ({ b with online := false } : Bridge).Counting seen :=
      ⟨h.sorted, h.outlet, h.session, h.numbered, by simp⟩
    exact hlost.publish now _
  | restored =>
    refine (hstays ?_).publish now _
    rw [restore_frame]
  | expired =>
    refine (hstays ?_).publish now _
    rw [expireOutage_frame]

/-- The invariant is kept by every call. -/
theorem calls (h : b.Counting seen) {s : Step} {events : List Event} (hcalls : b.Calls s b' events) :
    b'.Counting (seen ++ events) := by
  cases hcalls with
  | prepare now =>
    refine ⟨h.sorted, h.outlet, ?_, h.numbered.snoc (by simp), fun honline => ?_⟩
    · show announcedSession? (seen ++ [.will (.sparkplug _ (nodeDeath now _))]) = _
      rw [announcedSession?_will, session?_nodeDeath]
      rfl
    · obtain ⟨last, n, hn, hlast, hfollows⟩ := h.follows honline
      refine ⟨last, n, hn, ?_, hfollows⟩
      rw [← hlast]
      exact lastPublished?_of_none rfl seen
  | publish now hmoves before after =>
    rw [← List.append_assoc, ← List.append_assoc]
    exact ((h.bus before).moves hmoves now).bus after

end Counting

theorem counting_start (settings : Settings) (now : UInt64) : (start settings now).Counting [] := by
  have hframe := start_frame settings now
  refine ⟨start_sorted settings now, ?_, ?_, ?_, fun honline => ?_⟩
  · rw [hframe]
    rfl
  · rw [hframe]
    rfl
  · exact respects_nil
  · rw [hframe] at honline
    exact absurd honline Bool.false_ne_true

/-- Over every run, the published Sparkplug messages are numbered without gap: the first is a birth of the
edge node, every birth of the edge node carries zero and the session announced last, and every other
message the number after that of the message before it. -/
theorem run_numbered (settings : Settings) (now : UInt64) (steps : List Step) :
    Numbered ((start settings now).run steps).2 := by
  have hcount : ((start settings now).run steps).1.Counting ((start settings now).run steps).2 :=
    run_induction (P := fun _ b seen => b.Counting seen) (counting_start settings now)
      (fun _ before _ s h => h.calls (before.step_calls s)) steps
  exact hcount.numbered

end Bridge

end ScadaBridge
