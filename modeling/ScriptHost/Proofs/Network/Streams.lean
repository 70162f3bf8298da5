import ScriptHost.Proofs.Network.Wire

/-!
# The bytes of a connection in one go

With nothing in between, the steps of a read or of a write are the operations of `Streams`: a
connection of `Streams` that looks like one on the wires (`Stream.Fits`) still does when both have
gone on.  The turns there say what each operation wants; on the wires this is known from the request
and from what has been taken of it.
-/

namespace ScriptHost.Network

namespace Turns

variable {β : Type} (t : Turns β) (op : Nat)

/-- Who has the turn and who waits, whatever they want with it. -/
def bare : Turns Unit := ⟨t.current.map fun c => (c.1, ()), t.waiting.map fun c => (c.1, ())⟩

theorem bare_ask (want : β) : (t.ask op want).bare = t.bare.ask op () := by
  rcases t with ⟨_ | holder, waiting⟩ <;> simp [ask, bare]

theorem bare_leave : (t.leave op).bare = t.bare.leave op := by
  rcases t with ⟨_ | holder, waiting⟩
  · rfl
  · by_cases hop : holder.1 = op
    · simp [leave, bare, hop, pass]
    · simp [leave, bare, hop, List.filter_map, Function.comp_def]

theorem bare_current {t : Turns β} {op : Nat} {want : β} (h : t.current = some (op, want)) :
    t.bare.current = some (op, ()) := by
  rw [bare, h]
  rfl

/-- Who has the turn leaves by passing it on. -/
theorem bare_leave_of_current {t : Turns β} {op : Nat} {want : β}
    (h : t.current = some (op, want)) : t.bare.leave op = t.pass.bare := by
  rw [← bare_leave]
  simp [leave, h]

end Turns

/-- The turns at either side of a connection. -/
def Stream.turns (c : Stream) : Side → Turns Unit
  | .reader => c.readers.bare
  | .writer => c.writers.bare

/-- A connection is as it is on the wires. -/
structure Stream.Fits {α : Type} (c : Stream) (w : Wired α) (id : Nat) : Prop where
  incoming : w.incoming id = c.incoming
  outgoing : w.outgoing id = c.outgoing
  turns : ∀ side, w.shared.turns (side, id) = c.turns side

namespace Wired

variable {α : Type} {w w' : Wired α} {l : Traffic} {op completion : Nat} {request : Request}

/-- Steps that move no bytes may be taken as steps of the tasks. -/
theorem Steps.of_dry {s t : Shared α} {events : List Event} (h : Shared.Run s events t)
    (hdry : ∀ e ∈ events, e.isDry = true) (w : Wired α) (hw : w.shared = s) :
    Steps w (events.map .dry) { w with shared := t } := by
  induction h generalizing w with
  | nil =>
      subst hw
      exact .nil w
  | @cons s t u e events first rest ih =>
      subst hw
      refine .cons (.dry (hdry e List.mem_cons_self) first) ?_
      exact ih (fun e hmem => hdry e (List.mem_cons_of_mem _ hmem)) { w with shared := t } rfl

/-- What an operation does once it has got its reply moves no bytes. -/
theorem isDry_acts (conclusion : Conclusion) (h : Handles) :
    ∀ e ∈ (conclusion.acts h).map (Event.op op), e.isDry = true := by
  cases conclusion with
  | settled | opens => simp [Conclusion.acts, Event.isDry]
  | loses =>
      rw [Conclusion.acts]
      split <;> simp [Event.isDry]

/-- An operation gets a reply, and does what is left to do. -/
theorem Step.reply (h : Step w l w') {footing : Footing} (r : Reply)
    (hat : w.shared.At op completion request .waiting footing)
    (hheard : w'.shared =
      (w.shared.turn request (·.leave op)).place op (.heard (request.conclusion r))) :
    ∃ t : Shared α, Steps w (l :: (((request.conclusion r).acts w.shared.network.handles).map
        (Event.op op)).map .dry) { w' with shared := t } ∧
      t.network = w.shared.network.reply op r ∧
      t.turns = (w.shared.turn request (·.leave op)).turns := by
  have hreplied : w'.shared.At op completion request .waiting (.heard (request.conclusion r)) := by
    rw [hheard]
    exact ⟨hat.operation, if_pos rfl⟩
  obtain ⟨t, hrun, hturns, -, hnetwork⟩ := Shared.run_conclusion hreplied
  have hsame : w'.shared.network = w.shared.network := by
    rw [hheard]
    rfl
  rw [hsame] at hrun hnetwork
  refine ⟨t, .cons h (Steps.of_dry hrun (isDry_acts _ _) w' rfl), ?_, ?_⟩
  · rw [hnetwork, Coordinator.reply_of_waiting hat.operation]
  · rw [hturns, hheard]
    rfl

end Wired

/-- Turns change at the side at which a request needs one. -/
theorem Stream.Fits.turn {α : Type} {c : Stream} {w : Wired α} {id : Nat} {side : Side}
    {request : Request} (h : c.Fits w id) (hside : request.side? = some (side, id))
    (f : Turns Unit → Turns Unit) (other : Side) :
    (w.shared.turn request f).turns (other, id) =
      if other = side then f (c.turns side) else c.turns other := by
  simp only [Shared.turn, hside, Option.some.injEq, Prod.mk.injEq, and_true, eq_comm (a := side)]
  split
  · rename_i heq
    rw [heq, h.turns]
  · exact h.turns other

theorem Stream.Fits.hasTurn {α : Type} {c : Stream} {w : Wired α} {id op : Nat} {side : Side}
    {request : Request} (h : c.Fits w id) (hside : request.side? = some (side, id))
    (hcurrent : (c.turns side).current = some (op, ())) : w.shared.HasTurn op request := by
  intro other hother
  cases hside.symm.trans hother
  rw [h.turns, hcurrent]

/-- A read that has got its reply passes its turn on. -/
theorem Stream.Fits.reader_passes {α : Type} {c : Stream} {w : Wired α} {t : Shared α}
    {id op want limit : Nat} (h : c.Fits w id) (hcurrent : c.readers.current = some (op, want))
    (hturns : t.turns = (w.shared.turn (.read id limit) (·.leave op)).turns) (side : Side) :
    t.turns (side, id) = ({ c with readers := c.readers.pass } : Stream).turns side := by
  rw [hturns, h.turn rfl]
  cases side with
  | reader => exact Turns.bare_leave_of_current hcurrent
  | writer => rfl

namespace Streams

variable {α : Type} {s : Streams} {w : Wired α} {op completion id limit : Nat} {data : ByteArray}
  {asked watching : Bool}

@[simp] theorem stream_update (s : Streams) (id : Nat) (f : Stream → Stream) :
    (s.update id f).stream id = f (s.stream id) := by
  simp [update, stream]

@[simp] theorem stream_mk (c : Coordinator) (s : Streams) (id : Nat) :
    (⟨c, s.connections⟩ : Streams).stream id = s.stream id := rfl

@[simp] theorem coordinator_update (s : Streams) (id : Nat) (f : Stream → Stream) :
    (s.update id f).coordinator = s.coordinator := rfl

theorem arrive_fits (hfits : (s.stream id).Fits w id) (bytes : List UInt8) :
    ∃ w' : Wired α, Wired.Step w (.arrive id bytes) w' ∧ w'.shared = w.shared ∧
      ((s.arrive id bytes).stream id).Fits w' id := by
  refine ⟨_, .arrive id bytes, rfl, ?_⟩
  rw [arrive, stream_update]
  exact ⟨by simp [hfits.incoming], hfits.outgoing, hfits.turns⟩

theorem read_of_current (hcurrent : (s.stream id).readers.current = some (op, limit))
    (hsome : (s.stream id).incoming ≠ []) :
    (s.read id).coordinator =
        s.coordinator.reply op (.bytes ⟨((s.stream id).incoming.take limit).toArray⟩) ∧
      (s.read id).stream id =
        { s.stream id with
          incoming := (s.stream id).incoming.drop limit
          readers := (s.stream id).readers.pass } := by
  obtain ⟨byte, rest, hincoming⟩ := List.exists_cons_of_ne_nil hsome
  rw [read]
  simp only [hcurrent]
  split
  · rename_i heq _
    cases heq
    simp
  · rename_i hnone
    exact absurd hincoming (hnone _ _ _ _ rfl)

/-- What an operation does when it gets a reply. -/
def replying (w : Wired α) (op : Nat) (request : Request) (r : Reply) : List Traffic :=
  (((request.conclusion r).acts w.shared.network.handles).map (Event.op op)).map .dry

/-- A read gets what has come in, up to its limit, and returns it. -/
theorem read_fits (hnetwork : w.shared.network = s.coordinator) (hfits : (s.stream id).Fits w id)
    (hat : w.shared.At op completion (.read id limit) .waiting (.waits asked watching))
    (hcurrent : (s.stream id).readers.current = some (op, limit))
    (hsome : (s.stream id).incoming ≠ []) :
    ∃ (chunk : ByteArray) (w' : Wired α), bytesOf chunk = (s.stream id).incoming.take limit ∧
      Wired.Steps w (.read op id chunk :: replying w op (.read id limit) (.bytes chunk)) w' ∧
      w'.shared.network = (s.read id).coordinator ∧ ((s.read id).stream id).Fits w' id := by
  let chunk : ByteArray := ⟨((s.stream id).incoming.take limit).toArray⟩
  have hchunk : bytesOf chunk = (s.stream id).incoming.take limit := rfl
  have hlength : chunk.size = min limit (s.stream id).incoming.length := by
    rw [← length_bytesOf, hchunk, List.length_take]
  have hturn : w.shared.HasTurn op (.read id limit) :=
    hfits.hasTurn rfl (Turns.bare_current hcurrent)
  have hfront : bytesOf chunk <+: w.incoming id := by
    rw [hchunk, hfits.incoming]
    exact List.take_prefix _ _
  have hread := Wired.Step.read hat hturn (by omega) hfront
  obtain ⟨t, hsteps, hreplied, hturns⟩ := hread.reply (.bytes chunk) hat rfl
  obtain ⟨hcoordinator, hstream⟩ := read_of_current hcurrent hsome
  refine ⟨chunk, _, hchunk, hsteps, hreplied.trans (hcoordinator ▸ hnetwork ▸ rfl), ?_⟩
  rw [hstream]
  refine ⟨(if_pos rfl).trans ?_, hfits.outgoing, fun side => ?_⟩
  · rw [hfits.incoming, hlength]
    exact List.drop_eq_drop_iff.2 (by omega)
  · exact hfits.reader_passes hcurrent hturns side

theorem readFault_of_current (r : Reply)
    (hcurrent : (s.stream id).readers.current = some (op, limit)) :
    (s.readFault id r).coordinator = s.coordinator.reply op r ∧
      (s.readFault id r).stream id =
        { s.stream id with readers := (s.stream id).readers.pass } := by
  rw [readFault, hcurrent]
  simp

/-- A read that meets a failure gives its turn back and returns. -/
theorem readFault_fits (hnetwork : w.shared.network = s.coordinator)
    (hfits : (s.stream id).Fits w id)
    (hat : w.shared.At op completion (.read id limit) .waiting (.waits asked watching))
    (hcurrent : (s.stream id).readers.current = some (op, limit)) (cause : IoFault) :
    ∃ w' : Wired α,
      Wired.Steps w (.dry (.op op (.hear (.fault cause))) ::
        replying w op (.read id limit) (.fault cause)) w' ∧
      w'.shared.network = (s.readFault id (.fault cause)).coordinator ∧
      ((s.readFault id (.fault cause)).stream id).Fits w' id := by
  have hturn : w.shared.HasTurn op (.read id limit) :=
    hfits.hasTurn rfl (Turns.bare_current hcurrent)
  have hhear := Wired.Step.dry (w := w) rfl (.hear hat hturn (.fault cause))
  obtain ⟨t, hsteps, hreplied, hturns⟩ := hhear.reply (.fault cause) hat rfl
  obtain ⟨hcoordinator, hstream⟩ := readFault_of_current (.fault cause) hcurrent
  refine ⟨_, hsteps, hreplied.trans (hcoordinator ▸ hnetwork ▸ rfl), ?_⟩
  rw [hstream]
  exact ⟨hfits.incoming, hfits.outgoing, hfits.reader_passes hcurrent hturns⟩

/-- A read that finds the stream at its end gives its turn back and returns. -/
theorem readEnd_fits (hnetwork : w.shared.network = s.coordinator) (hfits : (s.stream id).Fits w id)
    (hat : w.shared.At op completion (.read id limit) .waiting (.waits asked watching))
    (hcurrent : (s.stream id).readers.current = some (op, limit)) :
    ∃ w' : Wired α,
      Wired.Steps w (.read op id .empty :: replying w op (.read id limit) (.bytes .empty)) w' ∧
      w'.shared.network = (s.readFault id (.bytes .empty)).coordinator ∧
      ((s.readFault id (.bytes .empty)).stream id).Fits w' id := by
  have hturn : w.shared.HasTurn op (.read id limit) :=
    hfits.hasTurn rfl (Turns.bare_current hcurrent)
  have hlimit : ByteArray.empty.size ≤ limit := Nat.zero_le limit
  have hfront : bytesOf .empty <+: w.incoming id := List.nil_prefix
  have hread := Wired.Step.read hat hturn hlimit hfront
  obtain ⟨t, hsteps, hreplied, hturns⟩ := hread.reply (.bytes .empty) hat rfl
  obtain ⟨hcoordinator, hstream⟩ := readFault_of_current (.bytes .empty) hcurrent
  refine ⟨_, hsteps, hreplied.trans (hcoordinator ▸ hnetwork ▸ rfl), ?_⟩
  rw [hstream]
  exact ⟨(if_pos rfl).trans hfits.incoming, hfits.outgoing, hfits.reader_passes hcurrent hturns⟩

theorem accept_of_current {rest : List UInt8} (count : Nat)
    (hcurrent : (s.stream id).writers.current = some (op, rest)) :
    (s.accept id count).coordinator = s.coordinator ∧
      (s.accept id count).stream id =
        { s.stream id with
          outgoing := (s.stream id).outgoing ++ rest.take count
          writers := { (s.stream id).writers with current := some (op, rest.drop count) } } := by
  rw [accept]
  simp [hcurrent]

/-- The system takes some bytes of a write, and the rest is what it has not taken. -/
theorem accept_fits (hnetwork : w.shared.network = s.coordinator) (hfits : (s.stream id).Fits w id)
    (hat : w.shared.At op completion (.write id data) .waiting (.waits asked watching))
    {rest : List UInt8} (hcurrent : (s.stream id).writers.current = some (op, rest))
    (hrest : bytesOf data = w.taken op ++ rest) (count : Nat) :
    ∃ w' : Wired α, Wired.Step w (.take op id (rest.take count)) w' ∧
      w'.shared.network = (s.accept id count).coordinator ∧
      ((s.accept id count).stream id).Fits w' id ∧
      bytesOf data = w'.taken op ++ rest.drop count := by
  have hturn : w.shared.HasTurn op (.write id data) :=
    hfits.hasTurn rfl (Turns.bare_current hcurrent)
  have hnext : w.taken op ++ rest.take count <+: bytesOf data :=
    ⟨rest.drop count, by rw [hrest, List.append_assoc, List.take_append_drop]⟩
  obtain ⟨hcoordinator, hstream⟩ := accept_of_current count hcurrent
  refine ⟨_, .take hat hturn hnext, hnetwork.trans hcoordinator.symm, ?_, ?_⟩
  · rw [hstream]
    refine ⟨hfits.incoming, (if_pos rfl).trans (by rw [hfits.outgoing]), fun side => ?_⟩
    refine (hfits.turns side).trans ?_
    cases side with
    | reader => rfl
    | writer => simp [Stream.turns, Turns.bare, hcurrent]
  · rw [hrest]
    simp

theorem finish_of_current (hcurrent : (s.stream id).writers.current = some (op, [])) :
    (s.finish id).coordinator = s.coordinator.reply op .written ∧
      (s.finish id).stream id = { s.stream id with writers := (s.stream id).writers.pass } := by
  rw [finish, hcurrent]
  simp

/-- A write of which all bytes have been taken is told so and returns. -/
theorem finish_fits (hnetwork : w.shared.network = s.coordinator) (hfits : (s.stream id).Fits w id)
    (hat : w.shared.At op completion (.write id data) .waiting (.waits asked watching))
    (hcurrent : (s.stream id).writers.current = some (op, []))
    (hall : w.taken op = bytesOf data) :
    ∃ w' : Wired α,
      Wired.Steps w (.written op id :: replying w op (.write id data) .written) w' ∧
      w'.shared.network = (s.finish id).coordinator ∧ ((s.finish id).stream id).Fits w' id := by
  have hturn : w.shared.HasTurn op (.write id data) :=
    hfits.hasTurn rfl (Turns.bare_current hcurrent)
  obtain ⟨t, hsteps, hreplied, hturns⟩ := (Wired.Step.written hat hturn hall).reply .written hat rfl
  obtain ⟨hcoordinator, hstream⟩ := finish_of_current hcurrent
  refine ⟨_, hsteps, hreplied.trans (hcoordinator ▸ hnetwork ▸ rfl), ?_⟩
  rw [hstream]
  refine ⟨hfits.incoming, hfits.outgoing, fun side => ?_⟩
  show t.turns (side, id) = _
  rw [hturns, hfits.turn rfl]
  cases side with
  | reader => rfl
  | writer => exact Turns.bare_leave_of_current hcurrent

theorem begin_of_spawned {request : Request} {side : Side}
    (hget : s.coordinator.operations.get? op = some ⟨completion, request, .spawned⟩)
    (hopen : s.coordinator.handles.isOpen .stream id = true)
    (hside : request.side? = some (side, id)) :
    (s.begin op).coordinator = s.coordinator.begin op ∧
      ((s.begin op).stream id).incoming = (s.stream id).incoming ∧
      ((s.begin op).stream id).outgoing = (s.stream id).outgoing ∧
      ∀ other, ((s.begin op).stream id).turns other =
        if other = side then ((s.stream id).turns side).ask op () else (s.stream id).turns other := by
  have hwaits :
      (s.coordinator.begin op).operations.get? op = some ⟨completion, request, .waiting⟩ := by
    rw [Coordinator.begin_of_clear hget (Request.obstacle?_of_side hside hopen),
      Coordinator.get?_setStage hget, if_pos rfl]
  cases side with
  | reader =>
      obtain ⟨limit, rfl⟩ := Request.of_reader hside
      simp only [begin, hget, hwaits]
      refine ⟨rfl, by simp, by simp, fun other => ?_⟩
      cases other <;> simp [Stream.turns, Turns.bare_ask]
  | writer =>
      obtain ⟨data, rfl⟩ := Request.of_writer hside
      simp only [begin, hget, hwaits]
      refine ⟨rfl, by simp, by simp, fun other => ?_⟩
      cases other <;> simp [Stream.turns, Turns.bare_ask]

/-- A read or a write that finds its connection asks for its turn, and watches the close signal. -/
theorem begin_fits (hnetwork : w.shared.network = s.coordinator) (hfits : (s.stream id).Fits w id)
    {request : Request} {side : Side} (hat : w.shared.At op completion request .spawned .none)
    (hopen : w.shared.network.handles.isOpen .stream id = true)
    (hside : request.side? = some (side, id)) :
    ∃ w' : Wired α,
      Wired.Steps w [.dry (.op op .find), .ask op (side, id), .dry (.op op .watch)] w' ∧
      w'.shared.network = (s.begin op).coordinator ∧ ((s.begin op).stream id).Fits w' id ∧
      w'.shared.At op completion request .waiting (.waits true true) := by
  have hclear := Request.obstacle?_of_side hside hopen
  have hwaits := hat.begin hclear (.waits false false)
  have hwatches : request.watches w.shared.settings = true := by
    cases request <;> cases hside <;> rfl
  let found : Wired α :=
    { w with
      shared := { w.shared with network := w.shared.network.begin op }.place op
        (.waits false false) }
  let lined : Wired α :=
    { found with
      shared := (found.shared.turn request (·.ask op ())).place op (.waits true false) }
  have hfind : Wired.Step w (.dry (.op op .find)) found := .dry rfl (.find hat hclear)
  have hask : Wired.Step found (.ask op (side, id)) lined := .ask hwaits hside
  have hlined : lined.shared.At op completion request .waiting (.waits true false) :=
    ⟨hwaits.operation, if_pos rfl⟩
  have hwatch := Wired.Step.dry (w := lined) rfl (.watch hlined hwatches)
  obtain ⟨hcoordinator, hincoming, houtgoing, hturns⟩ :=
    begin_of_spawned (hnetwork ▸ hat.operation) (hnetwork ▸ hopen) hside
  refine ⟨_, .cons hfind (.cons hask (.cons hwatch (.nil _))), ?_, ?_, hlined.place _⟩
  · rw [hcoordinator, ← hnetwork]
    rfl
  · refine ⟨hfits.incoming.trans hincoming.symm, hfits.outgoing.trans houtgoing.symm,
      fun other => ?_⟩
    rw [hturns]
    exact hfits.turn hside (·.ask op ()) other

theorem giveUp_of_signalled {request : Request} {side : Side}
    (hget : s.coordinator.operations.get? op = some ⟨completion, request, .waiting⟩)
    (hsignalled : s.coordinator.handles.isSignalled id = true)
    (hside : request.side? = some (side, id)) :
    (s.giveUp op).coordinator = s.coordinator.giveUp op ∧
      ((s.giveUp op).stream id).incoming = (s.stream id).incoming ∧
      ((s.giveUp op).stream id).outgoing = (s.stream id).outgoing ∧
      ∀ other, ((s.giveUp op).stream id).turns other =
        if other = side then ((s.stream id).turns side).leave op else (s.stream id).turns other := by
  have hfinished : (s.coordinator.giveUp op).operations.get? op =
      some ⟨completion, request, .finished (failed (.closed id))⟩ := by
    rw [Coordinator.giveUp_of_signalled hget (Request.handle?_of_side hside) hsignalled,
      Coordinator.get?_setStage hget, if_pos rfl]
  cases side with
  | reader =>
      obtain ⟨limit, rfl⟩ := Request.of_reader hside
      simp only [giveUp, hget, hfinished]
      refine ⟨rfl, by simp, by simp, fun other => ?_⟩
      cases other <;> simp [Stream.turns, Turns.bare_leave]
  | writer =>
      obtain ⟨data, rfl⟩ := Request.of_writer hside
      simp only [giveUp, hget, hfinished]
      refine ⟨rfl, by simp, by simp, fun other => ?_⟩
      cases other <;> simp [Stream.turns, Turns.bare_leave]

/-- A read or a write that gives up leaves the line. -/
theorem giveUp_fits (hnetwork : w.shared.network = s.coordinator)
    (hfits : (s.stream id).Fits w id) {request : Request} {side : Side}
    (hat : w.shared.At op completion request .waiting (.waits asked true))
    (hsignalled : w.shared.network.handles.isSignalled id = true)
    (hside : request.side? = some (side, id)) :
    ∃ w' : Wired α, Wired.Step w (.dry (.op op (.giveUp id))) w' ∧
      w'.shared.network = (s.giveUp op).coordinator ∧ ((s.giveUp op).stream id).Fits w' id := by
  have hgiveUp := Wired.Step.dry (w := w) rfl
    (.giveUp hat (Request.handle?_of_side hside) hsignalled)
  obtain ⟨hcoordinator, hincoming, houtgoing, hturns⟩ :=
    giveUp_of_signalled (hnetwork ▸ hat.operation) (hnetwork ▸ hsignalled) hside
  refine ⟨_, hgiveUp, ?_, hfits.incoming.trans hincoming.symm, hfits.outgoing.trans houtgoing.symm,
    fun other => ?_⟩
  · rw [hcoordinator, ← hnetwork]
    rfl
  · rw [hturns]
    exact hfits.turn hside (·.leave op) other

end Streams
end ScriptHost.Network
