import ScriptHost.Proofs.Network.Completion

/-!
# Bytes beside the steps of tasks

The machine of `Shared` says which operation has its turn at a connection.  Here the bytes are put
beside it: those that have come in and have not been read, those that have gone out, and those that
the system has taken of each write.  A read gets bytes from the front of what has come in, and only
while it has its turn; of a write the system takes bytes piece by piece, and only while the write has
its turn.  A write is told that all is written when its last byte has been taken.  Everything else
moves no bytes, and may come in between at any point.

The operations that have asked for their turn at one side of a connection stand in line
(`lineup`), in the order of asking.  Turns go down this line: whoever waits comes after the one who
has the turn, and nobody behind has moved a byte (`Turns.InLine`).
-/

namespace ScriptHost.Network

/-! ## Turns in line -/

namespace Turns

/-- The operations that have the turn or wait for it. -/
def holders (t : Turns Unit) : List Nat := (t.current.toList ++ t.waiting).map (·.1)

/-- The turns go down a line, and whoever is in line behind the turn is untouched. -/
inductive InLine (line : List Nat) (untouched : Nat → Prop) : Turns Unit → Prop where
  | free : InLine line untouched ⟨none, []⟩
  | held {before after : List Nat} {op : Nat} {waiting : List (Nat × Unit)}
      (hline : line = before ++ op :: after) (hwaiting : (waiting.map (·.1)).Sublist after)
      (huntouched : ∀ j ∈ after, untouched j) : InLine line untouched ⟨some (op, ()), waiting⟩

namespace InLine

variable {line : List Nat} {untouched : Nat → Prop} {t : Turns Unit} {op : Nat}

/-- Whoever asks goes to the end of the line. -/
theorem ask (h : InLine line untouched t) (hop : untouched op) :
    InLine (line ++ [op]) untouched (t.ask op ()) := by
  cases h with
  | free => exact .held rfl (List.Sublist.refl _) fun j hj => by cases hj
  | held hline hwaiting huntouched =>
      refine .held (by rw [hline, List.append_assoc, List.cons_append]) ?_ ?_
      · rw [List.map_append]
        exact hwaiting.append (List.Sublist.refl _)
      · intro j hj
        rcases List.mem_append.1 hj with hj | hj
        · exact huntouched j hj
        · rw [List.mem_singleton] at hj
          exact hj ▸ hop

/-- The turn goes to the first who waits. -/
theorem pass (h : InLine line untouched t) : InLine line untouched t.pass := by
  cases h with
  | free => exact .free
  | @held before after op waiting hline hwaiting huntouched =>
      cases waiting with
      | nil => exact .free
      | cons next waiting =>
          -- those between the two turns have left while they waited
          obtain ⟨between, rest, rfl, hnext, hrest⟩ := List.cons_sublist_iff.1 hwaiting
          obtain ⟨skipped, left, rfl⟩ := List.append_of_mem hnext
          have hcut : line = (before ++ op :: skipped) ++ next.1 :: (left ++ rest) := by
            rw [hline]
            simp
          refine .held hcut (hrest.trans (List.sublist_append_right _ _)) fun j hj => ?_
          refine huntouched j ?_
          rcases List.mem_append.1 hj with hj | hj
          · exact List.mem_append_left _ (List.mem_append_right _ (List.mem_cons_of_mem _ hj))
          · exact List.mem_append_right _ hj

theorem leave (h : InLine line untouched t) (op : Nat) : InLine line untouched (t.leave op) := by
  cases h with
  | free => exact .free
  | @held before after holder waiting hline hwaiting huntouched =>
      simp only [Turns.leave]
      split
      · exact (InLine.held hline hwaiting huntouched).pass
      · exact .held hline ((List.filter_sublist.map _).trans hwaiting) huntouched

/-- The line before and behind the one who has the turn. -/
theorem split (h : InLine line untouched t) (hturn : t.current = some (op, ())) :
    ∃ before after, line = before ++ op :: after ∧ (t.waiting.map (·.1)).Sublist after ∧
      ∀ j ∈ after, untouched j := by
  cases h with
  | free => cases hturn
  | held hline hwaiting huntouched =>
      cases hturn
      exact ⟨_, _, hline, hwaiting, huntouched⟩

theorem mem_of_current (h : InLine line untouched t) (hturn : t.current = some (op, ())) :
    op ∈ line := by
  obtain ⟨before, after, rfl, -, -⟩ := h.split hturn
  exact List.mem_append_right _ List.mem_cons_self

/-- Whatever happens, only the one who has the turn is touched. -/
theorem touch (h : InLine line untouched t) (hnodup : line.Nodup) {later : Nat → Prop}
    (hlater : ∀ j ∈ line, untouched j → later j ∨ t.current = some (j, ())) :
    InLine line later t := by
  cases h with
  | free => exact .free
  | @held before after holder waiting hline hwaiting huntouched =>
      refine .held hline hwaiting fun j hj => ?_
      have hmem : j ∈ line := hline ▸ List.mem_append_right _ (List.mem_cons_of_mem _ hj)
      refine (hlater j hmem (huntouched j hj)).resolve_right fun hturn => ?_
      obtain rfl : holder = j := congrArg Prod.fst (Option.some.inj hturn)
      rw [hline] at hnodup
      exact (List.nodup_cons.1 (List.nodup_append.1 hnodup).2.1).1 hj

end InLine
end Turns

/-! ## Acts that are still to come -/

/-- An operation has not done what it cannot have done where it stands, if it could not have done it
anywhere on the way. -/
theorem Course.not_mem_of {stands : Standing → Prop} {act : Act}
    (hback : ∀ {here there : Standing} {last : Act}, Goes here last there → stands there →
      stands here ∧ last ≠ act)
    {acts : List Act} {here : Standing} (h : Course acts here) (hstands : stands here) :
    act ∉ acts := by
  induction h with
  | nil => exact List.not_mem_nil
  | snoc _ goes ih =>
      obtain ⟨hbefore, hlast⟩ := hback goes hstands
      rw [List.mem_append, List.mem_singleton]
      rintro (hmem | heq)
      · exact ih hbefore hmem
      · exact hlast heq.symm

/-- An operation that stands so has not asked for its turn. -/
def IsUnasked : Standing → Prop
  | (none, .none) | (some ⟨_, _, .spawned⟩, .none) | (some ⟨_, _, .waiting⟩, .waits false _) => True
  | _ => False

theorem Course.unasked {acts : List Act} {here : Standing} (h : Course acts here)
    (hhere : IsUnasked here) : .ask ∉ acts := by
  refine h.not_mem_of (fun goes hthere => ?_) hhere
  cases goes with
  | start | find => exact ⟨trivial, by simp⟩
  | @watch completion request asked =>
      cases asked with
      | false => exact ⟨trivial, by simp⟩
      | true => exact hthere.elim
  | refuse | ask | giveUp | hear | draw | enter | remove | miss | signal | settle | queue | uncount
  | finish | drop => exact hthere.elim

/-! ## The machine -/

/-- The bytes of a byte string, in order. -/
def bytesOf (data : ByteArray) : List UInt8 := data.data.toList

theorem length_bytesOf (data : ByteArray) : (bytesOf data).length = data.size :=
  Array.length_toList

/-- The operations with the bytes on their way, connection by connection, and the bytes that the
system has taken of each write. -/
structure Wired (α : Type) where
  shared : Shared α
  incoming : Nat → List UInt8
  outgoing : Nat → List UInt8
  taken : Nat → List UInt8

/-- What happens on the wires or beside them. -/
inductive Traffic where
  /-- A step that is none of those below. -/
  | dry (e : Event)
  | ask (op : Nat) (side : Side × Nat)
  | read (op id : Nat) (data : ByteArray)
  | take (op id : Nat) (bytes : List UInt8)
  /-- A write is told that all its bytes have been taken. -/
  | written (op id : Nat)
  /-- A read queues its callback with the bytes that it has got. -/
  | deliver (op id completion : Nat) (data : ByteArray)
  /-- Bytes come in from the peer. -/
  | arrive (id : Nat) (bytes : List UInt8)

/-- The step of a task or of a thread, if it is one. -/
def Traffic.event? : Traffic → Option Event
  | dry e => some e
  | ask op _ => some (.op op .ask)
  | read op _ data => some (.op op (.hear (.bytes data)))
  | written op _ => some (.op op (.hear .written))
  | deliver op _ completion data =>
      some (.op op (.queue (.completion completion (.success (.bytes data)))))
  | take _ _ _ | arrive _ _ => none

/-- The operation for which, and the side of the connection at which, something happens. -/
def Traffic.site? : Traffic → Option (Nat × Side × Nat)
  | ask op side => some (op, side)
  | read op id _ | deliver op id _ _ => some (op, .reader, id)
  | take op id _ | written op id => some (op, .writer, id)
  | dry _ | arrive _ _ => none

/-- Neither a turn is asked for, nor are bytes moved or delivered. -/
def Event.isDry : Event → Bool
  | .op _ .ask | .op _ (.hear (.bytes _)) | .op _ (.hear .written)
  | .op _ (.queue (.completion _ (.success (.bytes _)))) => false
  | _ => true

namespace Wired

variable {α : Type}

/-- Nothing open, nothing running, and no bytes. -/
def start (settings : NetworkSettings) : Wired α :=
  ⟨.start settings, fun _ => [], fun _ => [], fun _ => []⟩

/-- One step with its bytes. -/
inductive Step (w : Wired α) : Traffic → Wired α → Prop where
  | dry {e : Event} {t : Shared α} (hdry : e.isDry = true) (step : Shared.Step w.shared e t) :
      Step w (.dry e) { w with shared := t }
  | ask {op completion : Nat} {request : Request} {watching : Bool} {side : Side × Nat}
      (hat : w.shared.At op completion request .waiting (.waits false watching))
      (hside : request.side? = some side) :
      Step w (.ask op side)
        { w with
          shared := (w.shared.turn request (·.ask op ())).place op (.waits true watching) }
  | read {op completion id limit : Nat} {data : ByteArray} {asked watching : Bool}
      (hat : w.shared.At op completion (.read id limit) .waiting (.waits asked watching))
      (hturn : w.shared.HasTurn op (.read id limit)) (hlimit : data.size ≤ limit)
      (hfront : bytesOf data <+: w.incoming id) :
      Step w (.read op id data)
        { w with
          shared := (w.shared.turn (.read id limit) (·.leave op)).place op
            (.heard ((Request.read id limit).conclusion (.bytes data)))
          incoming := fun j =>
            if j = id then (w.incoming id).drop data.size else w.incoming j }
  | take {op completion id : Nat} {data : ByteArray} {bytes : List UInt8} {asked watching : Bool}
      (hat : w.shared.At op completion (.write id data) .waiting (.waits asked watching))
      (hturn : w.shared.HasTurn op (.write id data))
      (hnext : w.taken op ++ bytes <+: bytesOf data) :
      Step w (.take op id bytes)
        { w with
          outgoing := fun j => if j = id then w.outgoing id ++ bytes else w.outgoing j
          taken := fun j => if j = op then w.taken op ++ bytes else w.taken j }
  | written {op completion id : Nat} {data : ByteArray} {asked watching : Bool}
      (hat : w.shared.At op completion (.write id data) .waiting (.waits asked watching))
      (hturn : w.shared.HasTurn op (.write id data)) (hall : w.taken op = bytesOf data) :
      Step w (.written op id)
        { w with
          shared := (w.shared.turn (.write id data) (·.leave op)).place op
            (.heard ((Request.write id data).conclusion .written)) }
  | deliver {op completion id limit : Nat} {data : ByteArray}
      (hat : w.shared.At op completion (.read id limit) (.finished (.success (.bytes data)))
        .none) :
      Step w (.deliver op id completion data)
        { w with
          shared := { w.shared with
            network := (w.shared.network.deliver w.shared.queue op).1
            queue := (w.shared.network.deliver w.shared.queue op).2 }.place op .none }
  | arrive (id : Nat) (bytes : List UInt8) :
      Step w (.arrive id bytes)
        { w with
          incoming := fun j => if j = id then w.incoming id ++ bytes else w.incoming j }

/-- What can happen from some moment on. -/
inductive Steps : Wired α → List Traffic → Wired α → Prop where
  | nil (w : Wired α) : Steps w [] w
  | cons {w w' w'' : Wired α} {l : Traffic} {later : List Traffic} (first : Step w l w')
      (rest : Steps w' later w'') : Steps w (l :: later) w''

/-- What can happen from the start on. -/
inductive Run (settings : NetworkSettings) : List Traffic → Wired α → Prop where
  | nil : Run settings [] (start settings)
  | snoc {traffic : List Traffic} {w w' : Wired α} {l : Traffic} (h : Run settings traffic w)
      (step : Step w l w') : Run settings (traffic ++ [l]) w'

end Wired

/-- The request at a side of a connection is a read or a write. -/
theorem Request.of_reader {request : Request} {id : Nat}
    (hside : request.side? = some (.reader, id)) : ∃ limit, request = .read id limit := by
  cases request with
  | read other limit =>
      cases hside
      exact ⟨limit, rfl⟩
  | write => cases congrArg (·.map Prod.fst) hside
  | connect | listen | accept | bind | send | receive | fetch => cases hside

theorem Request.of_writer {request : Request} {id : Nat}
    (hside : request.side? = some (.writer, id)) : ∃ data, request = .write id data := by
  cases request with
  | write other data =>
      cases hside
      exact ⟨data, rfl⟩
  | read => cases congrArg (·.map Prod.fst) hside
  | connect | listen | accept | bind | send | receive | fetch => cases hside

/-- Who needs a turn at a connection finds the connection. -/
theorem Request.handle?_of_side {request : Request} {side : Side} {id : Nat}
    (hside : request.side? = some (side, id)) : request.handle? = some (.stream, id) := by
  cases request with
  | read | write =>
      cases hside
      rfl
  | connect | listen | accept | bind | send | receive | fetch => cases hside

theorem Request.obstacle?_of_side {request : Request} {side : Side} {id : Nat} {h : Handles}
    (hside : request.side? = some (side, id)) (hopen : h.isOpen .stream id = true) :
    request.obstacle? h = none :=
  (Request.obstacle?_of_handle (Request.handle?_of_side hside) h).trans (if_pos hopen)

/-! ## What has happened -/

/-- The steps of tasks and threads. -/
def events (traffic : List Traffic) : List Event := traffic.filterMap Traffic.event?

/-- Who asks for a turn at a side of a connection. -/
def Traffic.asks? (side : Side × Nat) : Traffic → Option Nat
  | .ask op other => if other = side then some op else none
  | _ => none

/-- Those who have asked for a turn at a side of a connection, in this order. -/
def lineup (side : Side × Nat) (traffic : List Traffic) : List Nat :=
  traffic.filterMap (Traffic.asks? side)

theorem events_snoc (traffic : List Traffic) (l : Traffic) :
    events (traffic ++ [l]) = events traffic ++ l.event?.toList :=
  filterMap_snoc Traffic.event? traffic l

theorem mem_events_snoc {e : Event} {traffic : List Traffic} (hmem : e ∈ events traffic)
    (l : Traffic) : e ∈ events (traffic ++ [l]) :=
  events_snoc traffic l ▸ List.mem_append_left _ hmem

theorem lineup_snoc (side : Side × Nat) (traffic : List Traffic) (l : Traffic) :
    lineup side (traffic ++ [l]) = lineup side traffic ++ (l.asks? side).toList :=
  filterMap_snoc (Traffic.asks? side) traffic l

theorem lineup_of_silent {side : Side × Nat} {l : Traffic} (hl : l.asks? side = none)
    (traffic : List Traffic) : lineup side (traffic ++ [l]) = lineup side traffic := by
  rw [lineup_snoc, hl]
  exact List.append_nil _

theorem mem_lineup {op : Nat} {side : Side × Nat} {traffic : List Traffic} :
    op ∈ lineup side traffic ↔ .ask op side ∈ traffic := by
  rw [lineup, List.mem_filterMap]
  constructor
  · rintro ⟨l, hmem, hasks⟩
    cases l with
    | ask other otherSide =>
        rw [Traffic.asks?] at hasks
        split at hasks
        · rename_i hside
          cases hasks
          rwa [← hside]
        · cases hasks
    | dry | read | take | written | deliver | arrive => cases hasks
  · exact fun hmem => ⟨_, hmem, if_pos rfl⟩

theorem mem_events_of_event? {l : Traffic} {e : Event} {traffic : List Traffic} (hmem : l ∈ traffic)
    (hl : l.event? = some e) : e ∈ events traffic :=
  List.mem_filterMap.2 ⟨l, hmem, hl⟩

/-! ## Runs of the tasks -/

namespace Shared

variable {α : Type} {s t : Shared α} {e : Event} {settings : NetworkSettings}
  {events : List Event} {op completion : Nat} {request : Request}

/-- Unless an operation asks for its turn, turns change only because somebody leaves. -/
theorem Step.turns (h : Step s e t) (hask : ∀ op, e ≠ .op op .ask) (side : Side × Nat) :
    t.turns side = s.turns side ∨ ∃ op, t.turns side = (s.turns side).leave op := by
  have hturn (request : Request) (op : Nat) :
      (s.turn request (·.leave op)).turns side = s.turns side ∨
        (s.turn request (·.leave op)).turns side = (s.turns side).leave op := by
    simp only [turn]
    split
    · exact .inr rfl
    · exact .inl rfl
  cases h with
  | ask => exact absurd rfl (hask _)
  | giveUp => exact (hturn _ _).imp_right fun heq => ⟨_, heq⟩
  | hear => exact (hturn _ _).imp_right fun heq => ⟨_, heq⟩
  | drop => exact (hturn _ _).imp_right fun heq => ⟨_, heq⟩
  | number | start | refuse | find | watch | draw | enter | remove | signal | settle | queue
  | uncount | finish | detach | fire | answer | detachAll | answerAll | aside => exact .inl rfl

/-- An operation that finds its handle waits. -/
theorem At.begin {footing : Footing} (hat : s.At op completion request .spawned footing)
    (hclear : request.obstacle? s.network.handles = none) (footing' : Footing) :
    ({ s with network := s.network.begin op }.place op footing').At op completion request .waiting
      footing' := by
  rw [Coordinator.begin_of_clear hat.operation hclear]
  exact at_of_standing ((hat.standing_setStage .waiting footing' op).trans (if_pos rfl))

/-- An operation that stands somewhere has been started with its request. -/
theorem Run.started_of_at (h : Run (start settings) events s) {stage : Stage} {footing : Footing}
    (hat : s.At op completion request stage footing) :
    .op op (.start completion request) ∈ events := by
  rw [← mem_acts]
  have hcourse := h.course op
  rw [hat.standing] at hcourse
  rcases hcourse.record with ⟨-, hnowhere⟩ | ⟨first, firstRequest, rest, hacts, -, hrecord⟩
  · cases hnowhere
  · have hsame : first = completion ∧ firstRequest = request := by
      generalize acts op events = done at hrecord
      cases hrecord <;> exact ⟨rfl, rfl⟩
    rw [hacts, hsame.1, hsame.2]
    exact List.mem_cons_self

theorem Run.request_eq (h : Run (start settings) events s)
    (hstarted : .op op (.start completion request) ∈ events) {completion' : Nat}
    {request' : Request} (hother : .op op (.start completion' request') ∈ events) :
    completion' = completion ∧ request' = request :=
  ((h.course op).record_of_start ((mem_acts op events _).2 hstarted)).2 _ _
    ((mem_acts op events _).2 hother)

end Shared

namespace Wired

variable {α : Type} {settings : NetworkSettings} {traffic : List Traffic} {w w' : Wired α}
  {l : Traffic} {op : Nat} {side : Side × Nat}

theorem Run.append {later : List Traffic} (h : Run settings traffic w)
    (steps : Steps w later w') : Run settings (traffic ++ later) w' := by
  induction steps generalizing traffic with
  | nil =>
      rw [List.append_nil]
      exact h
  | cons first _ ih =>
      have hlater := ih (h.snoc first)
      rwa [List.append_assoc] at hlater

theorem Step.event (h : Step w l w') :
    match l.event? with
    | some e => Shared.Step w.shared e w'.shared
    | none => w'.shared = w.shared := by
  cases h with
  | dry hdry step => exact step
  | ask hat hside => exact .ask hat (by rw [hside]; rfl)
  | read hat hturn hlimit hfront => exact .hear hat hturn _
  | take hat hturn hnext => rfl
  | written hat hturn hall => exact .hear hat hturn _
  | deliver hat => exact .queue hat
  | arrive id bytes => rfl

/-- The bytes aside, a run is one of the tasks and threads. -/
theorem Run.shared (h : Run settings traffic w) :
    Shared.Run (.start settings) (events traffic) w.shared := by
  induction h with
  | nil => exact .nil _
  | snoc _ step ih =>
      rename_i l _
      have hevent := step.event
      rw [events_snoc]
      cases hl : l.event? with
      | none =>
          rw [hl] at hevent
          rw [Option.toList_none, List.append_nil, hevent]
          exact ih
      | some e =>
          rw [hl] at hevent
          exact ih.snoc hevent

theorem Step.turns (h : Step w l w') (side : Side × Nat) :
    (∃ op, l.asks? side = some op ∧
        w'.shared.turns side = (w.shared.turns side).ask op ()) ∨
      l.asks? side = none ∧ (w'.shared.turns side = w.shared.turns side ∨
        ∃ op, w'.shared.turns side = (w.shared.turns side).leave op) := by
  have hevent := h.event
  cases h with
  | dry hdry step =>
      refine .inr ⟨rfl, step.turns ?_ side⟩
      rintro op rfl
      cases hdry
  | @ask op completion request watching other hat hside =>
      simp only [Traffic.asks?, Shared.turn, Shared.place, hside, Option.some.injEq]
      split
      · exact .inl ⟨op, rfl, rfl⟩
      · exact .inr ⟨rfl, .inl rfl⟩
  | read | written | deliver => exact .inr ⟨rfl, hevent.turns (by simp) side⟩
  | take | arrive => exact .inr ⟨rfl, .inl rfl⟩

theorem Step.standing_of_ne (h : Step w l w') (htidy : w.shared.Tidy) {act : Act}
    (hl : l.event? = some (.op op act)) {j : Nat} (hj : j ≠ op) :
    w'.shared.standing j = w.shared.standing j := by
  have hevent := h.event
  rw [hl] at hevent
  obtain ⟨there, -, hstanding⟩ := hevent.goes htidy
  rw [hstanding, if_neg hj]

/-! ## Where things happen -/

theorem Step.at_site (h : Step w l w') (hl : l.site? = some (op, side)) :
    ∃ completion request stage footing, w.shared.At op completion request stage footing ∧
      request.side? = some side := by
  cases h with
  | ask hat hside =>
      cases hl
      exact ⟨_, _, _, _, hat, hside⟩
  | read hat | take hat | written hat | deliver hat =>
      cases hl
      exact ⟨_, _, _, _, hat, rfl⟩
  | dry | arrive => cases hl

/-- What happens at a side of a connection happens for an operation that needs a turn there. -/
theorem Run.started_of_site (h : Run settings traffic w) (hmem : l ∈ traffic)
    (hl : l.site? = some (op, side)) :
    ∃ completion request, .op op (.start completion request) ∈ events traffic ∧
      request.side? = some side := by
  induction h with
  | nil => cases hmem
  | snoc hrun step ih =>
      rcases List.mem_append.1 hmem with hearlier | hlast
      · obtain ⟨completion, request, hstarted, hside⟩ := ih hearlier
        exact ⟨completion, request, mem_events_snoc hstarted _, hside⟩
      · rw [List.mem_singleton] at hlast
        subst hlast
        obtain ⟨completion, request, _, _, hat, hside⟩ := step.at_site hl
        exact ⟨completion, request, mem_events_snoc (hrun.shared.started_of_at hat) _, hside⟩

/-- Whatever happens for an operation happens at one side of one connection. -/
theorem Run.side_eq (h : Run settings traffic w) {l' : Traffic} {other : Side × Nat}
    (hmem : l ∈ traffic) (hl : l.site? = some (op, side)) (hmem' : l' ∈ traffic)
    (hl' : l'.site? = some (op, other)) : other = side := by
  obtain ⟨_, request, hstarted, hside⟩ := h.started_of_site hmem hl
  obtain ⟨_, request', hstarted', hside'⟩ := h.started_of_site hmem' hl'
  obtain ⟨-, rfl⟩ := h.shared.request_eq hstarted hstarted'
  exact Option.some.inj (hside'.symm.trans hside)

theorem Run.isDry (h : Run settings traffic w) {e : Event} (hmem : .dry e ∈ traffic) :
    e.isDry = true := by
  induction h with
  | nil => cases hmem
  | snoc hrun step ih =>
      rcases List.mem_append.1 hmem with hearlier | hlast
      · exact ih hearlier
      · rw [List.mem_singleton] at hlast
        subst hlast
        cases step with
        | dry hdry step => exact hdry

/-! ## The line -/

/-- An operation that has yet to ask stands in no line. -/
theorem Run.not_mem_lineup (h : Run settings traffic w) {completion : Nat} {request : Request}
    {watching : Bool}
    (hat : w.shared.At op completion request .waiting (.waits false watching))
    (side : Side × Nat) : op ∉ lineup side traffic := by
  intro hmem
  have hcourse := h.shared.course op
  rw [hat.standing] at hcourse
  refine hcourse.unasked trivial ((mem_acts _ _ _).2 ?_)
  exact mem_events_of_event? (mem_lineup.1 hmem) rfl

theorem Run.nodup_lineup (h : Run settings traffic w) (side : Side × Nat) :
    (lineup side traffic).Nodup := by
  induction h with
  | nil => exact List.nodup_nil
  | snoc hrun step ih =>
      cases step with
      | ask hat hside =>
          rw [lineup_snoc, Traffic.asks?]
          split
          · refine List.nodup_append.2 ⟨ih, List.nodup_singleton _, ?_⟩
            rintro j hj _ hop rfl
            cases Option.mem_toList.1 hop
            exact hrun.not_mem_lineup hat side hj
          · rw [Option.toList_none, List.append_nil]
            exact ih
      | dry | read | take | written | deliver | arrive =>
          rw [lineup_of_silent rfl]
          exact ih

theorem mem_lineup_snoc (hmem : op ∈ lineup side traffic) (l : Traffic) :
    op ∈ lineup side (traffic ++ [l]) :=
  mem_lineup.2 (List.mem_append_left _ (mem_lineup.1 hmem))

/-- Turns go down the line, whatever is meant by an operation that is untouched: that who has yet to
ask is, and that in the line a step touches only the one who has the turn. -/
theorem Run.inLine_of (untouched : List Traffic → Wired α → Nat → Prop) (side : Side × Nat)
    (hfresh : ∀ {traffic : List Traffic} {w : Wired α} {op : Nat}, Run settings traffic w →
      (∀ other, op ∉ lineup other traffic) → untouched traffic w op)
    (htouch : ∀ {traffic : List Traffic} {w w' : Wired α} {l : Traffic}, Run settings traffic w →
      Step w l w' → ∀ j ∈ lineup side (traffic ++ [l]), untouched traffic w j →
        untouched (traffic ++ [l]) w' j ∨ (w.shared.turns side).current = some (j, ()))
    (h : Run settings traffic w) :
    (w.shared.turns side).InLine (lineup side traffic) (untouched traffic w) := by
  induction h with
  | nil => exact .free
  | snoc hrun step ih =>
      rename_i traffic w w' l
      have hlater := ih.touch (hrun.nodup_lineup side) fun j hj =>
        htouch hrun step j (mem_lineup_snoc hj l)
      rcases step.turns side with ⟨op, hasks, hturns⟩ | ⟨hasks, hturns⟩
      · have hnew : ∀ other, op ∉ lineup other traffic := by
          cases step with
          | ask hat hside =>
              rw [Traffic.asks?] at hasks
              split at hasks
              · cases hasks
                exact hrun.not_mem_lineup hat
              · cases hasks
          | dry | read | take | written | deliver | arrive => cases hasks
        have hline : lineup side (traffic ++ [l]) = lineup side traffic ++ [op] := by
          rw [lineup_snoc, hasks, Option.toList_some]
        have hlast : op ∈ lineup side (traffic ++ [l]) :=
          hline ▸ List.mem_append_right _ (List.mem_singleton_self _)
        rw [hline, hturns]
        refine hlater.ask ((htouch hrun step op hlast (hfresh hrun hnew)).resolve_right ?_)
        exact fun hturn => hnew side (ih.mem_of_current hturn)
      · rw [lineup_of_silent hasks]
        rcases hturns with hsame | ⟨op, hleft⟩
        · rw [hsame]
          exact hlater
        · rw [hleft]
          exact hlater.leave op

/-- Whoever has the turn has asked for it. -/
theorem Run.mem_lineup_of_current (h : Run settings traffic w)
    (hturn : (w.shared.turns side).current = some (op, ())) : op ∈ lineup side traffic :=
  (Run.inLine_of (fun _ _ _ => True) side (fun _ _ => trivial) (fun _ _ _ _ _ => .inl trivial)
    h).mem_of_current hturn

end Wired
end ScriptHost.Network
