import ScriptHost.Lua.Guest
import ScriptHost.Proofs.Lua.Arguments
import ScriptHost.Proofs.Network.Replies
import ScriptHost.Proofs.Text.Utf8

/-!
# Payloads on their way to the guest

The bytes of a stream reach the guest as they are.  A datagram is delivered as data with a text in
it, so its bytes pass through text: they are read lossily, become a field of an object, and are
written as bytes again when the object becomes a table.  So a datagram reaches the guest as it was
sent exactly if its bytes are well formed as text.
-/

namespace ScriptHost.Lua

/-! ## Fields of tables -/

namespace Tab

/-- What stands at the place of a key is the key, with its value. -/
def IsPlaced (t : Tab) : Prop :=
  ∀ (k : Key) (i : Nat), t.places[k]? = some i → ∃ v, t.fields[i]? = some (k, v)

/-- The value of a key among the fields. -/
def inFields (t : Tab) (k : Key) : Val :=
  match t.places[k]? with
  | some i => (t.fields[i]?.map (·.2)).getD .nil
  | none => .nil

theorem isPlaced_empty : empty.IsPlaced := fun k i h => by
  rw [show empty.places = ∅ from rfl, Std.HashMap.getElem?_empty] at h
  cases h

variable {t : Tab} {k k' : Key}

theorem inFields_of_placed {i : Nat} {v : Val} (hplace : t.places[k]? = some i)
    (hfield : t.fields[i]? = some (k, v)) : t.inFields k = v := by
  simp only [inFields, hplace, hfield, Option.map_some, Option.getD_some]

theorem inFields_of_new (hplace : t.places[k]? = none) : t.inFields k = .nil := by
  simp only [inFields, hplace]

/-- One key is set, and all others are where they were. -/
theorem isPlaced_of_agree {u : Tab} {v : Val} {i : Nat} (h : t.IsPlaced)
    (hplace : u.places[k]? = some i) (hfield : u.fields[i]? = some (k, v))
    (hagree : ∀ k', k' ≠ k → u.places[k']? = t.places[k']? ∧
      ∀ j, t.places[k']? = some j → u.fields[j]? = t.fields[j]?) :
    u.IsPlaced ∧ u.inFields k = v ∧ ∀ k', k' ≠ k → u.inFields k' = t.inFields k' := by
  refine ⟨fun k' j hj => ?_, inFields_of_placed hplace hfield, fun k' hk => ?_⟩
  · by_cases hk : k' = k
    · subst hk
      cases hplace.symm.trans hj
      exact ⟨v, hfield⟩
    · obtain ⟨hplaces, hfields⟩ := hagree k' hk
      rw [hplaces] at hj
      rw [hfields j hj]
      exact h k' j hj
  · obtain ⟨hplaces, hfields⟩ := hagree k' hk
    simp only [inFields, hplaces]
    cases hj : t.places[k']? with
    | none => rfl
    | some j => simp only [hfields j hj]

/-- Setting a key sets it, and leaves all other keys. -/
theorem setField_spec (h : t.IsPlaced) (k : Key) (v : Val) :
    (t.setField k v).IsPlaced ∧ (t.setField k v).inFields k = v ∧
      ∀ k', k' ≠ k → (t.setField k v).inFields k' = t.inFields k' := by
  cases hplace : t.places[k]? with
  | some i =>
      obtain ⟨old, hold⟩ := h k i hplace
      simp only [setField, hplace]
      refine isPlaced_of_agree h hplace (by simp [Array.getElem?_modify, hold]) fun k' hk =>
        ⟨rfl, fun j hj => ?_⟩
      -- no two keys have the same place
      have hne : i ≠ j := by
        rintro rfl
        obtain ⟨_, hat⟩ := h k' i hj
        cases hold.symm.trans hat
        exact hk rfl
      simp [Array.getElem?_modify, hne]
  | none =>
      simp only [setField, hplace]
      split
      · exact ⟨h, inFields_of_new hplace, fun _ _ => rfl⟩
      · refine isPlaced_of_agree h (i := t.fields.size) (by simp) (by simp) fun k' hk => ⟨?_, ?_⟩
        · simp [Std.HashMap.getElem?_insert, Ne.symm hk]
        · intro j hj
          obtain ⟨_, hat⟩ := h k' j hj
          obtain ⟨hlt, -⟩ := Array.getElem?_eq_some_iff.1 hat
          simp [Array.getElem?_push, Nat.ne_of_lt hlt]

end Tab

/-! ## What the guest is called with -/

theorem key_injective {name other : String} (h : Key.str name.toUTF8 = .str other.toUTF8) :
    name = other := String.toByteArray_inj.1 (Key.str.inj h)

/-- Texts as members of an object. -/
def textMembers (members : List (String × String)) : List (String × Value) :=
  members.map fun m => (m.1, .string m.2)

/-- The members are added one by one, each under its name. -/
theorem ofMembers_texts (h : Heap) (members : List (String × String)) :
    ∀ t : Tab, t.IsPlaced → (members.map (·.1)).Nodup →
      ∃ u, ofMembers h t (textMembers members) = (u, h) ∧
        (∀ m ∈ members, u.inFields (.str m.1.toUTF8) = .ofString m.2) ∧
        ∀ k, (∀ m ∈ members, k ≠ .str m.1.toUTF8) → u.inFields k = t.inFields k := by
  induction members with
  | nil => exact fun t _ _ => ⟨t, rfl, nofun, fun _ _ => rfl⟩
  | cons m members ih =>
      intro t ht hnodup
      obtain ⟨hnew, hrest⟩ := List.nodup_cons.1 hnodup
      obtain ⟨hplaced, hself, hothers⟩ := Tab.setField_spec ht (.str m.1.toUTF8) (.ofString m.2)
      obtain ⟨u, hu, hmembers, hkept⟩ := ih _ hplaced hrest
      refine ⟨u, hu, fun m' hm' => ?_, fun k hk => ?_⟩
      · rcases List.mem_cons.1 hm' with rfl | hm'
        · rw [hkept, hself]
          intro other hother hsame
          exact hnew (List.mem_map.2 ⟨other, hother, (key_injective hsame).symm⟩)
        · exact hmembers m' hm'
      · rw [hkept k fun other hother => hk other (List.mem_cons_of_mem _ hother),
          hothers k (hk m List.mem_cons_self)]

/-- The guest is called with a table of all the texts of an object, as bytes. -/
theorem outcomeArguments_texts (h : Heap) {members : List (String × String)}
    (hnodup : (members.map (·.1)).Nodup) :
    ∃ ref heap, outcomeArguments h (some (.success (.value (.object (textMembers members))))) =
        ([.bool true, .table ref], heap) ∧
      ∀ m ∈ members, heap.field ref m.1 = .str m.2.toUTF8 := by
  obtain ⟨u, hu, hmembers, -⟩ := ofMembers_texts h members .empty Tab.isPlaced_empty hnodup
  refine ⟨h.tables.size, { h with tables := h.tables.push u }, ?_, fun m hm => ?_⟩
  · simp only [outcomeArguments, ofDatum, hu, Heap.newTable]
  · rw [Heap.field, Heap.tab, Array.getElem?_push_size]
    exact hmembers m hm

/-! ## The trip of a datagram -/

open Network in
/-- The reply to a receive, for a datagram that has come in: what is beyond the room is cut off. -/
def arrival (room : Nat) (payload : ByteArray) (peer : String) : Reply :=
  .datagram (payload.extract 0 room) peer

theorem extract_of_size_le {payload : ByteArray} {room : Nat} (h : payload.size ≤ room) :
    payload.extract 0 room = payload := by
  apply ByteArray.ext
  rw [ByteArray.data_extract, Array.extract_eq_self_of_le h]

/-- The outcome of a receive. -/
def received (payload : ByteArray) (peer : String) : Ready.Outcome :=
  .success (.value (.object (textMembers [("data", Text.lossy payload), ("peer", peer)])))

theorem conclusion_arrival {payload : ByteArray} {room : Nat} (h : payload.size ≤ room)
    (socket : Nat) (peer : String) :
    (Network.Request.receive socket room).conclusion (arrival room payload peer) =
      .settled (.ok (received payload peer)) := by
  rw [arrival, extract_of_size_le h]
  rfl

/-- Bytes that the guest sends are handed to the system as they are. -/
theorem payload_of_ask {heap : Heap} {args : List Val} {sent : ByteArray}
    (hargument : Arguments.get args 3 = .str sent) {closure : Val} {id port : Nat} {host : String}
    {payload : ByteArray}
    (hask : HostFunction.send.ask heap args = .ok (.start closure (.send id host port payload))) :
    payload = sent := by
  obtain ⟨_, -, hask⟩ := exists_of_bind_eq_ok hask
  obtain ⟨_, -, hask⟩ := exists_of_bind_eq_ok hask
  obtain ⟨_, -, hask⟩ := exists_of_bind_eq_ok hask
  obtain ⟨bytes, hbytes, hask⟩ := exists_of_bind_eq_ok hask
  obtain ⟨_, -, hask⟩ := exists_of_bind_eq_ok hask
  rw [Arguments.bytes, hargument] at hbytes
  cases hbytes
  cases hask
  rfl

/-- What the guest is called with for a datagram. -/
theorem outcomeArguments_received (h : Heap) (payload : ByteArray) (peer : String) :
    ∃ ref heap, outcomeArguments h (some (received payload peer)) =
        ([.bool true, .table ref], heap) ∧
      heap.field ref "data" = .str (Text.lossy payload).toUTF8 ∧
      heap.field ref "peer" = .str peer.toUTF8 := by
  have hnodup : ([("data", Text.lossy payload), ("peer", peer)].map (·.1)).Nodup := by simp
  obtain ⟨ref, heap, hcalled, hfields⟩ := outcomeArguments_texts h hnodup
  exact ⟨ref, heap, hcalled, hfields ("data", _) List.mem_cons_self,
    hfields ("peer", peer) (List.mem_cons_of_mem _ List.mem_cons_self)⟩

section

open Network

variable {α : Type} {s : Shared α} {events : List Network.Event} {settings : NetworkSettings}
  {op completion socket room : Nat} {payload : ByteArray} {peer : String}

theorem queued_of_arrival (hrun : Shared.Run (.start settings) events s)
    (hstarted : .op op (.start completion (.receive socket room)) ∈ events)
    (hheard : .op op (.hear (arrival room payload peer)) ∈ events)
    (hkept : ∀ ran, .op op (.drop ran) ∉ events) (hsize : payload.size ≤ room) :
    queuedFor completion events = [] ∨
      queuedFor completion events = [.completion completion (received payload peer)] := by
  rw [hrun.queuedFor_eq hstarted]
  rcases (hrun.record hstarted).returned fun ran => mt (mem_acts op events _).1 (hkept ran) with
    ⟨hnone, -⟩ | ⟨result, hreturned, hone⟩
  · exact .inl hnone
  · have hreturns := (hrun.replied hstarted hheard).returns hreturned.results
    rw [conclusion_arrival hsize] at hreturns
    generalize attempts (acts op events) = tried at hreturns
    cases hreturns
    exact .inr hone

/-- **A datagram reaches the guest as it was sent exactly if its bytes are well formed as text.**

The system gets the bytes as the guest has them.  A receive that has room for the datagram, whose
task is not dropped, comes to its end by its own steps, and its completion is queued with what the
datagram has become: its closure is called with a table whose data are the bytes of the text that
the datagram reads as.  These are the bytes that were sent if the bytes are well formed, and other
ones if they are not. -/
theorem datagram_arrives_iff_well_formed (hrun : Shared.Run (.start settings) events s)
    (hstarted : .op op (.start completion (.receive socket room)) ∈ events)
    (hheard : .op op (.hear (arrival room payload peer)) ∈ events)
    (hkept : ∀ ran, .op op (.drop ran) ∉ events) (hsize : payload.size ≤ room) :
    (∀ heap args closure id host port sent, Arguments.get args 3 = .str sent →
      HostFunction.send.ask heap args = .ok (.start closure (.send id host port payload)) →
      payload = sent) ∧
    s.CanEnd op ∧
    (queuedFor completion events = [] ∨
      queuedFor completion events = [.completion completion (received payload peer)]) ∧
    ∀ h, ∃ ref heap, outcomeArguments h (some (received payload peer)) =
        ([.bool true, .table ref], heap) ∧
      heap.field ref "data" = .str (Text.lossy payload).toUTF8 ∧
      (heap.field ref "data" = .str payload ↔ payload.IsValidUTF8) ∧
      heap.field ref "peer" = .str peer.toUTF8 := by
  refine ⟨fun _ _ _ _ _ _ _ hargument hask => payload_of_ask hargument hask,
    hrun.canEnd_of_hear hstarted hheard hkept,
    queued_of_arrival hrun hstarted hheard hkept hsize, fun h => ?_⟩
  obtain ⟨ref, heap, hcalled, hdata, hpeer⟩ := outcomeArguments_received h payload peer
  refine ⟨ref, heap, hcalled, hdata, ?_, hpeer⟩
  rw [hdata, ← Text.toUTF8_lossy_iff]
  exact ⟨Val.str.inj, congrArg Val.str⟩

/-- A socket is bound, a datagram is sent, and a receive waits for it. -/
def sendEvents (payload : ByteArray) : List Network.Event :=
  [.numbered 1, .op 0 (.start 1 (.bind "127.0.0.1" 9000)), .op 0 .find,
    .op 0 (.hear (.bound "127.0.0.1:9000")), .op 0 (.draw 1), .op 0 (.enter .datagram 1),
    .numbered 2, .op 1 (.start 2 (.send 1 "127.0.0.1" 9000 payload)), .op 1 .find,
    .op 1 (.hear (.sent payload.size)), .numbered 3, .op 2 (.start 3 (.receive 1 16)),
    .op 2 .find]

/-- The datagram comes in, and the completion of the receive is queued. -/
def tripEvents (payload : ByteArray) : List Network.Event :=
  sendEvents payload ++
    [.op 2 (.hear (arrival 16 payload "127.0.0.1:9000")),
      .op 2 (.settle (.ok (received payload "127.0.0.1:9000"))),
      .op 2 (.queue (.completion 3 (received payload "127.0.0.1:9000")))]

theorem run_trip {payload : ByteArray} (hsize : payload.size ≤ 16) :
    ∃ s : Shared Unit, Shared.Run (.start ⟨1000, 16, 0⟩) (tripEvents payload) s := by
  obtain ⟨s, hrun, hat⟩ : ∃ s : Shared Unit,
      Shared.Run (.start ⟨1000, 16, 0⟩) (sendEvents payload) s ∧
      s.At 2 3 (.receive 1 16) .waiting (.waits false false) :=
    ⟨_, .cons (.number ()) <| .cons (.start _ List.mem_cons_self) <| .cons (.find ⟨rfl, rfl⟩ rfl) <|
      .cons (.hear ⟨rfl, rfl⟩ (fun _ h => by cases h) _) <| .cons (.draw ⟨rfl, rfl⟩) <|
      .cons (.enter ⟨rfl, rfl⟩) <| .cons (.number ()) <| .cons (.start _ List.mem_cons_self) <|
      .cons (.find ⟨rfl, rfl⟩ rfl) <| .cons (.hear ⟨rfl, rfl⟩ (fun _ h => by cases h) _) <|
      .cons (.number ()) <| .cons (.start _ List.mem_cons_self) <| .cons (.find ⟨rfl, rfl⟩ rfl) <| .nil _,
      rfl, rfl⟩
  have hheard := Shared.Step.hear hat (fun _ h => by cases h)
    (arrival 16 payload "127.0.0.1:9000")
  rw [conclusion_arrival hsize] at hheard
  have hturned : (s.turn (.receive 1 16) (·.leave 2)).At 2 3 (.receive 1 16) .waiting
      (.waits false false) := ⟨hat.operation, hat.footing⟩
  have hsettled := hturned.place (.heard (.settled (.ok (received payload "127.0.0.1:9000"))))
  exact ⟨_, hrun.append (.cons hheard <| .cons (.settle hsettled) <|
    .cons (.queue (Shared.at_of_standing
      ((hsettled.standing_setStage _ _ 2).trans (if_pos rfl)))) <| .nil _)⟩

/-- A datagram of well-formed text reaches the guest as it was sent. -/
theorem text_arrives :
    ∃ s : Shared Unit, Shared.Run (.start ⟨1000, 16, 0⟩) (tripEvents "é".toUTF8) s ∧
      ∀ h, ∃ ref heap, outcomeArguments h (some (received "é".toUTF8 "127.0.0.1:9000")) =
          ([.bool true, .table ref], heap) ∧
        heap.field ref "data" = .str "é".toUTF8 := by
  have hsize : "é".toUTF8.size ≤ 16 := by decide
  obtain ⟨s, hrun⟩ := run_trip hsize
  have hstarted : Network.Event.op 2 (.start 3 (.receive 1 16)) ∈ tripEvents "é".toUTF8 := by
    simp [tripEvents, sendEvents]
  have hheard : Network.Event.op 2 (.hear (arrival 16 "é".toUTF8 "127.0.0.1:9000")) ∈
      tripEvents "é".toUTF8 := by
    simp [tripEvents]
  obtain ⟨-, -, -, hcalled⟩ := datagram_arrives_iff_well_formed hrun hstarted hheard
    (by simp [tripEvents, sendEvents]) hsize
  refine ⟨s, hrun, fun h => ?_⟩
  obtain ⟨ref, heap, harguments, -, hdata, -⟩ := hcalled h
  exact ⟨ref, heap, harguments, hdata.2 "é".isValidUTF8⟩

/-- One byte that is no text comes in, and the guest gets three other bytes. -/
theorem lone_byte_becomes_replacement :
    ∃ s : Shared Unit, Shared.Run (.start ⟨1000, 16, 0⟩) (tripEvents ⟨#[0xFF]⟩) s ∧
      queuedFor 3 (tripEvents ⟨#[0xFF]⟩) = [.completion 3 (received ⟨#[0xFF]⟩ "127.0.0.1:9000")] ∧
      ∀ h, ∃ ref heap, outcomeArguments h (some (received ⟨#[0xFF]⟩ "127.0.0.1:9000")) =
          ([.bool true, .table ref], heap) ∧
        heap.field ref "data" = .str ⟨#[0xEF, 0xBF, 0xBD]⟩ ∧
        heap.field ref "data" ≠ .str ⟨#[0xFF]⟩ := by
  have hsize : (⟨#[0xFF]⟩ : ByteArray).size ≤ 16 := by decide
  obtain ⟨s, hrun⟩ := run_trip hsize
  have hread : (Text.lossy ⟨#[0xFF]⟩).toUTF8 = ⟨#[0xEF, 0xBF, 0xBD]⟩ := by
    rw [Text.lossy, Text.toList_eq]
    rfl
  refine ⟨s, hrun, rfl, fun h => ?_⟩
  obtain ⟨ref, heap, harguments, hdata, -⟩ :=
    outcomeArguments_received h ⟨#[0xFF]⟩ "127.0.0.1:9000"
  rw [hread] at hdata
  refine ⟨ref, heap, harguments, hdata, ?_⟩
  rw [hdata]
  simp

end

end ScriptHost.Lua
