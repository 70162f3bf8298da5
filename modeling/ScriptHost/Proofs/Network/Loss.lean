import ScriptHost.Proofs.Network.Replies

/-!
# Lost connections

A read asks the system once, for as many bytes as it has room for, and it has room for one byte at
least (`readLimit`).  So no bytes at all mean that the stream has ended.  The end of the stream and a
failure that does not mean "nothing yet" are the two ways in which a connection is lost
(`Inbound.ReadEnds`, `WriteEnds`), and an operation takes its connection out exactly then.

Nothing else is ever taken out by an operation: no datagram socket, no listener and nobody else's
connection.  An operation that has not found its handle changes no table at all.
-/

namespace ScriptHost.Network

/-! ## One attempt -/

/-- The kinds of failure that mean "nothing yet". -/
def nothingYet : List IoKind := [.wouldBlock, .interrupted, .timedOut]

theorem isTransient_iff (cause : IoFault) : cause.isTransient = true ↔ cause.kind ∈ nothingYet := by
  rw [IoFault.isTransient]
  cases cause.kind <;> simp [IoKind.isTransient, nothingYet]

/-- The receiving side of a connection: the bytes that have come in and have not been read, and
whether the peer has ended the stream behind them. -/
structure Inbound where
  pending : List UInt8
  ended : Bool

/-- What the system can reply to one attempt to read, with so much room for bytes. -/
inductive Inbound.Replies (i : Inbound) (room : Nat) : Reply → Prop where
  | some {count : Nat} (hpos : 0 < count) (hroom : count ≤ room)
      (hpending : count ≤ i.pending.length) :
      Replies i room (.bytes ⟨(i.pending.take count).toArray⟩)
  | ended (hpending : i.pending = []) (hended : i.ended = true) : Replies i room (.bytes .empty)
  | noRoom (hroom : room = 0) : Replies i room (.bytes .empty)
  /-- The time for the attempt is up. -/
  | expired : Replies i room (.fault (.ofKind .timedOut))
  | fault (cause : IoFault) : Replies i room (.fault cause)

/-- How a read ends with a reply: what it returns, and whether its connection is lost. -/
inductive Inbound.ReadEnds (i : Inbound) (limit : Nat) : Reply → Result → Bool → Prop where
  | bytes {data : ByteArray} (hpos : 1 ≤ data.size) (hlimit : data.size ≤ limit)
      (hpending : data.data.toList <+: i.pending) :
      ReadEnds i limit (.bytes data) (.ok (.success (.bytes data))) false
  | ended (hpending : i.pending = []) (hended : i.ended = true) :
      ReadEnds i limit (.bytes .empty) (.error (.lost endOfStream)) true
  | nothing {cause : IoFault} (hkind : cause.kind ∈ nothingYet) :
      ReadEnds i limit (.fault cause) (.ok .noData) false
  | broken {cause : IoFault} (hkind : cause.kind ∉ nothingYet) :
      ReadEnds i limit (.fault cause) (.error (.lost cause)) true

/-- How a write of bytes ends with a reply: what it returns, and whether its connection is lost. -/
inductive WriteEnds (data : ByteArray) : Reply → Result → Bool → Prop where
  | written : WriteEnds data .written (.ok (delivered (.int data.size))) false
  | unfinished {cause : IoFault} (hkind : cause.kind ∈ nothingYet) :
      WriteEnds data (.fault cause) (.error (.io cause)) false
  | broken {cause : IoFault} (hkind : cause.kind ∉ nothingYet) :
      WriteEnds data (.fault cause) (.error (.lost cause)) true

/-- An operation tries to take its connection out, once, exactly if it is lost. -/
def TriedIfLost (id : Nat) (tried : List (Nat × Bool)) : Bool → Prop
  | true => ∃ found, tried = [(id, found)]
  | false => tried = []

section

variable {id limit : Nat} {data : ByteArray} {r : Reply} {result : Result}
  {tried : List (Nat × Bool)} {i : Inbound}

theorem one_le_readLimit (settings : NetworkSettings) (requested : Option Nat) :
    1 ≤ settings.readLimit requested := Nat.le_max_left ..

theorem readLimit_le (settings : NetworkSettings) (requested : Option Nat) :
    settings.readLimit requested ≤ max 1 settings.maxReadBytes :=
  Nat.max_le.2 ⟨Nat.le_max_left .., Nat.min_le_right ..⟩

theorem Conclusion.Returns.of_loses {cause : IoFault}
    (h : (Conclusion.loses id cause).Returns result tried) :
    result = .error (.lost cause) ∧ TriedIfLost id tried true := by
  cases h with
  | loses _ _ found => exact ⟨rfl, found, rfl⟩

theorem Conclusion.Returns.of_settled {settled : Result}
    (h : (Conclusion.settled settled).Returns result tried) :
    result = settled ∧ TriedIfLost id tried false := by
  cases h
  exact ⟨rfl, rfl⟩

theorem size_take {bytes : List UInt8} {count : Nat} (h : count ≤ bytes.length) :
    (⟨(bytes.take count).toArray⟩ : ByteArray).size = count := by
  simp [ByteArray.size, h]

/-- A read with room for a byte ends as the reply says. -/
theorem Inbound.Replies.readEnds (h : i.Replies limit r) (hroom : 1 ≤ limit)
    (hreturns : ((Request.read id limit).conclusion r).Returns result tried) :
    ∃ lost, i.ReadEnds limit r result lost ∧ TriedIfLost id tried lost := by
  have hfault : ∀ cause, r = .fault cause →
      ∃ lost, i.ReadEnds limit r result lost ∧ TriedIfLost id tried lost := by
    rintro cause rfl
    rw [Request.conclusion] at hreturns
    split at hreturns
    · rename_i htransient
      obtain ⟨rfl, htried⟩ := hreturns.of_settled
      exact ⟨false, .nothing ((isTransient_iff cause).1 htransient), htried⟩
    · rename_i hbroken
      obtain ⟨rfl, htried⟩ := hreturns.of_loses
      exact ⟨true, .broken (mt (isTransient_iff cause).2 hbroken), htried⟩
  cases h with
  | @some count hpos hcount hpending =>
      have hsize := size_take hpending
      rw [Request.conclusion, if_neg (by omega)] at hreturns
      obtain ⟨rfl, htried⟩ := hreturns.of_settled
      exact ⟨false, .bytes (by omega) (by omega) (List.take_prefix _ _), htried⟩
  | ended hpending hended =>
      obtain ⟨rfl, htried⟩ := hreturns.of_loses
      exact ⟨true, .ended hpending hended, htried⟩
  | noRoom hnone => omega
  | expired => exact hfault _ rfl
  | fault cause => exact hfault cause rfl

/-- A write ends as the reply says. -/
theorem writeEnds_of_returns (hreply : r = .written ∨ ∃ cause, r = .fault cause)
    (hreturns : ((Request.write id data).conclusion r).Returns result tried) :
    ∃ lost, WriteEnds data r result lost ∧ TriedIfLost id tried lost := by
  rcases hreply with rfl | ⟨cause, rfl⟩
  · obtain ⟨rfl, htried⟩ := hreturns.of_settled
    exact ⟨false, .written, htried⟩
  · rw [Request.conclusion] at hreturns
    split at hreturns
    · rename_i htransient
      obtain ⟨rfl, htried⟩ := hreturns.of_settled
      exact ⟨false, .unfinished ((isTransient_iff cause).1 htransient), htried⟩
    · rename_i hbroken
      obtain ⟨rfl, htried⟩ := hreturns.of_loses
      exact ⟨true, .broken (mt (isTransient_iff cause).2 hbroken), htried⟩

end

/-! ## What an operation leaves alone -/

/-- The connection that an operation is about to lose, or is losing. -/
def Footing.loses? : Footing → Option Nat
  | .heard (.loses id _) | .losing id _ => some id
  | _ => Option.none

section

variable {acts : List Act} {here : Standing} {act : Act} {completion id : Nat} {request : Request}
  {footing : Footing} {cause : NetworkFault}

/-- An operation loses no connection but its own. -/
theorem Course.handle?_of_loses (h : Course acts here)
    (hhere : here = (some ⟨completion, request, .waiting⟩, footing))
    (hloses : footing.loses? = some id) : request.handle? = some (.stream, id) := by
  induction h generalizing footing with
  | nil => cases hhere
  | snoc _ goes ih =>
      cases goes with
      | hear r =>
          cases hhere
          generalize hconclusion : request.conclusion r = conclusion at hloses
          cases conclusion with
          | loses =>
              cases hloses
              exact Request.handle?_of_loses hconclusion
          | _ => cases hloses
      | remove =>
          cases hhere
          exact ih rfl hloses
      | _ =>
          cases hhere
          all_goals cases hloses

/-- An operation that is refused has returned with it, and does nothing to the handles ever. -/
theorem Course.refused (h : Course acts here) (hrefused : .refuse cause ∈ acts) :
    here.IsBack ∧ results acts = [.error cause] := by
  induction h with
  | nil => cases hrefused
  | @snoc acts _ _ act h goes ih =>
      rcases List.mem_append.1 hrefused with hearlier | hlast
      · obtain ⟨hback, hresults⟩ := ih hearlier
        obtain ⟨hafter, hnone, -⟩ := goes.of_back hback
        exact ⟨hafter, (results_snoc_of_none _ hnone).trans hresults⟩
      · rw [List.mem_singleton] at hlast
        subst hlast
        cases goes with
        | refuse =>
            refine ⟨trivial, ?_⟩
            rw [results_snoc, (h.ahead trivial).1]
            rfl

/-- An operation that has heard nothing yet, is refused or has returned does nothing to the handles
with its next step. -/
theorem Goes.handles_eq {there : Standing} (goes : Goes here act there)
    (hidle : there.IsAhead ∨ here.IsBack ∨ act = .refuse cause) (op : Nat) (h : Handles) :
    (Event.op op act).handles h = h := by
  cases goes with
  | start | refuse | find | ask | watch | giveUp | hear | settle | queue | uncount | finish
  | drop => rfl
  | draw | enter | remove | miss | signal =>
      rcases hidle with hahead | hback | hrefuse
      · exact hahead.elim
      · exact hback.elim
      · cases hrefuse

theorem Goes.of_ahead {there : Standing} (goes : Goes here act there) (hahead : there.IsAhead) :
    here.IsAhead := by
  cases goes with
  | start | find | ask | watch => trivial
  | _ => exact hahead.elim

/-- An operation that has heard nothing yet, or has been refused, has never done anything to the
handles. -/
theorem Course.handles_eq (h : Course acts here) (hidle : here.IsAhead ∨ .refuse cause ∈ acts)
    (hmem : act ∈ acts) (op : Nat) (handles : Handles) :
    (Event.op op act).handles handles = handles := by
  induction h with
  | nil => cases hmem
  | @snoc acts here there last h goes ih =>
      have hbefore : here.IsAhead ∨ .refuse cause ∈ acts := by
        rcases hidle with hahead | hrefused
        · exact .inl (goes.of_ahead hahead)
        · rcases List.mem_append.1 hrefused with hearlier | hlast
          · exact .inr hearlier
          · rw [List.mem_singleton] at hlast
            subst hlast
            cases goes with
            | refuse => exact .inl trivial
      rcases List.mem_append.1 hmem with hearlier | hlast
      · exact ih hbefore hearlier
      · rw [List.mem_singleton] at hlast
        subst hlast
        have hends : there.IsAhead ∨ here.IsBack ∨ act = .refuse cause := by
          refine hidle.imp_right fun hrefused => ?_
          rcases List.mem_append.1 hrefused with hearlier | hlast
          · exact .inl (h.refused hearlier).1
          · exact .inr (List.mem_singleton.1 hlast).symm
        exact goes.handles_eq hends op handles

end

namespace Shared

variable {α : Type} {s t : Shared α} {events : List Event} {settings : NetworkSettings}
  {op completion id : Nat} {request : Request} {r : Reply} {act : Act}

theorem Step.at_of_signal (h : Step s (.op op (.signal id)) t) :
    ∃ completion request cause, s.At op completion request .waiting (.losing id cause) := by
  generalize hevent : Event.op op (.signal id) = e at h
  cases h with
  | signal hat =>
      cases hevent
      exact ⟨_, _, _, hat⟩
  | _ => cases hevent

/-- A connection that an operation loses is its own. -/
theorem Run.handle?_of_loses {footing : Footing} (h : Run (start settings) events s)
    (hstarted : .op op (.start completion request) ∈ events) {completion' : Nat}
    {request' : Request} (hat : s.At op completion' request' .waiting footing)
    (hloses : footing.loses? = some id) : request.handle? = some (.stream, id) := by
  obtain ⟨-, rfl⟩ := h.request_eq hstarted (h.started_of_at hat)
  exact (h.course op).handle?_of_loses hat.standing hloses

/-- An operation takes nothing out but its own connection. -/
theorem Run.removes_own (h : Run (start settings) events s)
    (hstarted : .op op (.start completion request) ∈ events) (hmem : .op op act ∈ events)
    (hremoves : id ∈ (Event.op op act).removes) :
    act = .remove id true ∧ request.handle? = some (.stream, id) := by
  cases act with
  | remove j found =>
      obtain ⟨rfl, rfl⟩ : found = true ∧ id = j := by simpa [Event.removes] using hremoves
      obtain ⟨before, after, a, b, rfl, hbefore, hstep, -⟩ := h.split hmem
      obtain ⟨_, _, _, hat⟩ := hstep.at_of_remove
      have hearlier := hbefore.started_of_at hat
      obtain ⟨rfl, rfl⟩ := h.request_eq hstarted (List.mem_append_left _ hearlier)
      exact ⟨rfl, hbefore.handle?_of_loses hearlier hat rfl⟩
  | _ => cases hremoves

/-- What one step of an operation does to a handle that is not its connection: the step may open
the handle, as a new one. -/
theorem Run.others (h : Run (start settings) events s) (step : Step s (.op op act) t)
    (hother : ∀ completion request, .op op (.start completion request) ∈ events →
      request.handle? ≠ some (.stream, id)) (kind : Kind) :
    (t.network.handles.isOpen kind id = true ↔
      s.network.handles.isOpen kind id = true ∨ act = .enter kind id) ∧
    (t.network.handles.isSignalled id = true ↔ s.network.handles.isSignalled id = true) ∧
    (act = .enter kind id → ∀ kind', (id, kind') ∉ issued events) := by
  have hown : ∀ {completion request footing j},
      s.At op completion request .waiting footing → footing.loses? = some j → id ≠ j := by
    rintro completion request footing j hat hloses rfl
    have hstarted := h.started_of_at hat
    exact hother _ _ hstarted (h.handle?_of_loses hstarted hat hloses)
  have hhandles := step.handles
  cases act with
  | enter kind' j =>
      obtain ⟨hnone, hnew⟩ := h.ledger.new h.fresh step (List.mem_singleton_self (j, kind'))
      refine ⟨?_, by rw [hhandles]; rfl, ?_⟩
      · rw [hhandles, Handles.isOpen_iff, Handles.isOpen_iff, Event.handles, Table.get?_insert]
        by_cases hj : id = j
        · subst hj
          simp [hnone]
        · simp [hj, Ne.symm hj]
      · rintro ⟨⟩ other hissued
        exact hnew (List.mem_map.2 ⟨_, hissued, rfl⟩)
  | remove j found =>
      obtain ⟨_, _, _, hat⟩ := step.at_of_remove
      have hj := hown hat rfl
      refine ⟨?_, ?_, fun heq => by cases heq⟩
      · rw [hhandles, Event.handles, Handles.isOpen_detach]
        simp [hj]
      · rw [hhandles, Event.isSignalled_handles]
        exact or_iff_right (fun hfires => hfires.elim)
  | signal j =>
      obtain ⟨_, _, _, hat⟩ := step.at_of_signal
      have hj := hown hat rfl
      refine ⟨?_, ?_, fun heq => by cases heq⟩
      · rw [hhandles]
        exact (or_iff_left fun heq => by cases heq).symm
      · rw [hhandles, Event.isSignalled_handles]
        exact or_iff_right hj
  | start | refuse | find | ask | watch | giveUp | hear | draw | settle | queue | uncount | finish
  | drop =>
      rw [hhandles]
      exact ⟨(or_iff_left fun heq => by cases heq).symm, .rfl, fun heq => by cases heq⟩

/-! ## The whole of it -/

/-- Nobody but an operation takes a handle out. -/
def LeftTo (op id : Nat) (events : List Event) : Prop :=
  ∀ e ∈ events, id ∈ e.removes → ∃ act, e = .op op act

/-- An operation has lost its connection exactly if it has taken the connection out, and then the
connection is closed; otherwise it is open, if it has been left to the operation. -/
theorem Run.closed_of_tried (h : Run (start settings) events s)
    (hstarted : .op op (.start completion request) ∈ events) (hheard : .op op (.hear r) ∈ events)
    (hhandle : request.handle? = some (.stream, id)) {lost : Bool}
    (htried : TriedIfLost id (attempts (acts op events)) lost) (hleft : LeftTo op id events) :
    (.op op (.remove id true) ∈ events ↔ lost = true) ∧
      s.network.handles.isOpen .stream id = !lost := by
  have hopen := h.isOpen_iff (h.issued_of_hear hstarted hheard hhandle)
  have hremoved : id ∈ removals events ↔ .op op (.remove id true) ∈ events := by
    constructor
    · intro hmem
      obtain ⟨e, hevent, hremoves⟩ := List.mem_flatMap.1 hmem
      obtain ⟨act, rfl⟩ := hleft e hevent hremoves
      rwa [← (h.removes_own hstarted hevent hremoves).1]
    · exact fun hmem => List.mem_flatMap.2 ⟨_, hmem, List.mem_singleton_self id⟩
  have hattempts (found : Bool) :
      (id, found) ∈ attempts (acts op events) ↔ .op op (.remove id found) ∈ events := by
    rw [mem_attempts, mem_acts]
  cases lost with
  | false =>
      have hnone : .op op (.remove id true) ∉ events := by
        rw [← hattempts, show attempts (acts op events) = [] from htried]
        exact List.not_mem_nil
      exact ⟨iff_of_false hnone Bool.false_ne_true, hopen.2 (mt hremoved.1 hnone)⟩
  | true =>
      obtain ⟨found, htried⟩ := htried
      -- if it comes too late then somebody has taken the connection out, and nobody else may
      have hmem : id ∈ removals events := by
        have hmem := (hattempts found).1 (htried ▸ List.mem_singleton_self _)
        cases found with
        | true => exact hremoved.2 hmem
        | false => exact h.removed_of_missed hstarted hhandle hmem
      refine ⟨iff_of_true (hremoved.1 hmem) rfl, ?_⟩
      rw [Bool.not_true, ← Bool.not_eq_true, hopen, Classical.not_not]
      exact hmem

/-- How an operation on a connection ends, where `Ends` says what it returns and whether the
connection is lost: it comes to its end by its own steps, unless its task is dropped, and it has taken
the connection out exactly if this is lost. -/
structure EndsBy (s : Shared α) (events : List Event) (op completion id : Nat)
    (Ends : Result → Bool → Prop) : Prop where
  canEnd : (∀ ran, .op op (.drop ran) ∉ events) → s.CanEnd op
  ends : ∀ result, results (acts op events) = [result] → ∃ lost, Ends result lost ∧
    ((∀ ran, .op op (.drop ran) ∉ events) → queuedFor completion events = [] ∨
      queuedFor completion events = [.completion completion (ofResult result)]) ∧
    (lost = true ↔ ∃ found, .op op (.remove id found) ∈ events) ∧
    (LeftTo op id events → (.op op (.remove id true) ∈ events ↔ lost = true) ∧
      s.network.handles.isOpen .stream id = !lost)

theorem Run.queuedFor_of_results (h : Run (start settings) events s)
    (hstarted : .op op (.start completion request) ∈ events) {result : Result}
    (hresults : results (acts op events) = [result])
    (hkept : ∀ ran, .op op (.drop ran) ∉ events) :
    queuedFor completion events = [] ∨
      queuedFor completion events = [.completion completion (ofResult result)] := by
  rw [h.queuedFor_eq hstarted]
  rcases (h.record hstarted).returned fun ran => mt (mem_acts op events _).1 (hkept ran) with
    ⟨hnone, -⟩ | ⟨returned, hreturned, hone⟩
  · exact .inl hnone
  · cases hreturned.results.symm.trans hresults
    exact .inr hone

theorem Run.endsBy (h : Run (start settings) events s)
    (hstarted : .op op (.start completion request) ∈ events) (hheard : .op op (.hear r) ∈ events)
    (hhandle : request.handle? = some (.stream, id)) {Ends : Result → Bool → Prop}
    (hends : ∀ result tried, (request.conclusion r).Returns result tried →
      ∃ lost, Ends result lost ∧ TriedIfLost id tried lost) :
    EndsBy s events op completion id Ends where
  canEnd := h.canEnd_of_hear hstarted hheard
  ends result hresults := by
    obtain ⟨lost, hlost, htried⟩ :=
      hends result _ ((h.replied hstarted hheard).returns hresults)
    refine ⟨lost, hlost, h.queuedFor_of_results hstarted hresults, ?_,
      h.closed_of_tried hstarted hheard hhandle htried⟩
    simp only [← mem_acts, ← mem_attempts]
    cases lost with
    | false => simp [show attempts (acts op events) = [] from htried]
    | true =>
        obtain ⟨found, htried⟩ := htried
        simp [htried]

/-- An operation on a datagram socket leaves its socket open. -/
theorem Run.datagram_kept (h : Run (start settings) events s)
    (hstarted : .op op (.start completion request) ∈ events)
    (hhandle : request.handle? = some (.datagram, id)) :
    (∀ act, .op op act ∈ events → id ∉ (Event.op op act).removes) ∧
    (∀ r, .op op (.hear r) ∈ events → LeftTo op id events →
      s.network.handles.isOpen .datagram id = true) := by
  have hnever : ∀ act, .op op act ∈ events → id ∉ (Event.op op act).removes := by
    intro act hmem hremoves
    cases hhandle.symm.trans (h.removes_own hstarted hmem hremoves).2
  refine ⟨hnever, fun r hheard hleft => ?_⟩
  refine (h.isOpen_iff (h.issued_of_hear hstarted hheard hhandle)).2 fun hmem => ?_
  obtain ⟨e, hevent, hremoves⟩ := List.mem_flatMap.1 hmem
  obtain ⟨act, rfl⟩ := hleft e hevent hremoves
  exact hnever act hevent hremoves

/-- **An operation closes a connection exactly when the connection is lost**, whatever operations and
threads do in between.

A read has room for one byte at least and for no more than the settings allow, so no bytes mean that
the stream has ended.  A read loses its connection at the end of the stream and by a failure that
does not mean "nothing yet", and then it fails; otherwise it delivers bytes up to its limit, or has
no data.  A write loses its connection only by such a failure.  Who loses a connection takes it out
of its table, and the connection stays open if nobody does.  Sends and receives never take their
socket out.  A step of an operation does nothing to other handles but to open a new one, and an
operation whose handle is unknown does nothing to the handles at all. -/
theorem closed_exactly_when_lost (hrun : Run (start settings) events s) :
    (∀ requested, 1 ≤ settings.readLimit requested ∧
      settings.readLimit requested ≤ max 1 settings.maxReadBytes ∧
      ∀ i data, Inbound.Replies i (settings.readLimit requested) (.bytes data) → data.size = 0 →
        i.pending = [] ∧ i.ended = true) ∧
    (∀ op completion id requested i r,
      .op op (.start completion (.read id (settings.readLimit requested))) ∈ events →
      .op op (.hear r) ∈ events → Inbound.Replies i (settings.readLimit requested) r →
      EndsBy s events op completion id (i.ReadEnds (settings.readLimit requested) r)) ∧
    (∀ op completion id data r, .op op (.start completion (.write id data)) ∈ events →
      .op op (.hear r) ∈ events → (r = .written ∨ ∃ cause, r = .fault cause) →
      EndsBy s events op completion id (WriteEnds data r)) ∧
    (∀ op completion request id, .op op (.start completion request) ∈ events →
      request.handle? = some (.datagram, id) →
      (∀ act, .op op act ∈ events → id ∉ (Event.op op act).removes) ∧
      (∀ r, .op op (.hear r) ∈ events → LeftTo op id events →
        s.network.handles.isOpen .datagram id = true)) ∧
    (∀ op act t id kind, Step s (.op op act) t →
      (∀ completion request, .op op (.start completion request) ∈ events →
        request.handle? ≠ some (.stream, id)) →
      (t.network.handles.isOpen kind id = true ↔
        s.network.handles.isOpen kind id = true ∨ act = .enter kind id) ∧
      (t.network.handles.isSignalled id = true ↔ s.network.handles.isSignalled id = true) ∧
      (act = .enter kind id → ∀ kind', (id, kind') ∉ issued events)) ∧
    (∀ op completion request kind id, s.At op completion request .spawned .none →
      request.handle? = some (kind, id) → s.network.handles.isOpen kind id = false →
      ∀ act t, Step s (.op op act) t →
        (act = .refuse (.unknownHandle id) ∨ act = .drop false) ∧
        t.network.handles = s.network.handles) ∧
    (∀ op cause, .op op (.refuse cause) ∈ events → results (acts op events) = [.error cause] ∧
      ∀ act, .op op act ∈ events → ∀ handles, (Event.op op act).handles handles = handles) := by
  refine ⟨fun requested => ?_, ?_, ?_, ?_, ?_, ?_, ?_⟩
  · have hroom := one_le_readLimit settings requested
    refine ⟨hroom, readLimit_le settings requested, fun i data hreplies hsize => ?_⟩
    generalize hr : Reply.bytes data = r at hreplies
    cases hreplies with
    | some hpos _ hpending =>
        cases hr
        rw [size_take hpending] at hsize
        omega
    | ended hpending hended => exact ⟨hpending, hended⟩
    | noRoom hnone => omega
    | expired | fault => cases hr
  · intro op completion id requested i r hstarted hheard hreplies
    exact hrun.endsBy hstarted hheard rfl fun result tried =>
      hreplies.readEnds (one_le_readLimit settings requested)
  · intro op completion id data r hstarted hheard hreply
    exact hrun.endsBy hstarted hheard rfl fun result tried => writeEnds_of_returns hreply
  · exact fun op completion request id => hrun.datagram_kept
  · exact fun op act t id kind step hother => hrun.others step hother kind
  · intro op completion request kind id hat hhandle hclosed act t step
    have hact := (hat.refused hrun.tidy hhandle hclosed).2 act t step
    refine ⟨hact, ?_⟩
    rw [step.handles]
    rcases hact with rfl | rfl <;> rfl
  · intro op cause hrefused
    have hmem := (mem_acts op events _).2 hrefused
    refine ⟨((hrun.course op).refused hmem).2, fun act hact handles => ?_⟩
    exact (hrun.course op).handles_eq (.inr hmem) ((mem_acts op events _).2 hact) op handles

/-- A read with room for one byte, as the settings allow no more, meets the end of the stream. -/
theorem read_meets_the_end :
    ∃ (events : List Event) (s : Shared Unit), Run (start ⟨0, 0, 0⟩) events s ∧
      .op 1 (.start 2 (.read 1 1)) ∈ events ∧
      results (acts 1 events) = [.error (.lost endOfStream)] ∧
      s.network.handles.isOpen .stream 1 = false := by
  obtain ⟨s, hrun⟩ : ∃ s : Shared Unit, Run (start ⟨0, 0, 0⟩)
      [.numbered 1, .op 0 (.start 1 (.connect "peer" 80)), .op 0 .find, .op 0 (.hear .connected),
        .op 0 (.draw 1), .op 0 (.enter .stream 1), .numbered 2, .op 1 (.start 2 (.read 1 1)),
        .op 1 .find, .op 1 .ask, .op 1 (.hear (.bytes .empty)), .op 1 (.remove 1 true),
        .op 1 (.signal 1), .op 1 (.settle (.error (.lost endOfStream)))] s :=
    ⟨_, .cons (.number ()) <| .cons (.start _ (by decide)) <| .cons (.find ⟨rfl, rfl⟩ rfl) <|
      .cons (.hear ⟨rfl, rfl⟩ (fun _ h => by cases h) _) <| .cons (.draw ⟨rfl, rfl⟩) <|
      .cons (.enter ⟨rfl, rfl⟩) <| .cons (.number ()) <| .cons (.start _ (by decide)) <|
      .cons (.find ⟨rfl, rfl⟩ rfl) <| .cons (.ask ⟨rfl, rfl⟩ rfl) <|
      .cons (.hear ⟨rfl, rfl⟩ (fun _ h => by cases h; rfl) _) <| .cons (.remove ⟨rfl, rfl⟩) <|
      .cons (.signal ⟨rfl, rfl⟩) <| .cons (.settle ⟨rfl, rfl⟩) <| .nil _⟩
  obtain ⟨-, hreads, -⟩ := closed_exactly_when_lost hrun
  obtain ⟨lost, hends, -, -, hleft⟩ := (hreads 1 2 1 (some 0) ⟨[], true⟩ (.bytes .empty)
    (by simp [NetworkSettings.readLimit]) (by simp) (.ended rfl rfl)).ends _ rfl
  refine ⟨_, s, hrun, by simp, rfl, ?_⟩
  cases hends
  refine (hleft fun e hmem hremoves => ?_).2
  simp only [List.mem_cons, List.not_mem_nil, or_false] at hmem
  rcases hmem with rfl | rfl | rfl | rfl | rfl | rfl | rfl | rfl | rfl | rfl | rfl | rfl | rfl | rfl
  all_goals first | exact ⟨_, rfl⟩ | cases hremoves

end Shared

end ScriptHost.Network
