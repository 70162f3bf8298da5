import ScriptHost.Proofs.Network.Wire

/-!
# What goes out on a connection

Of each write the system takes a piece from the front, in one go or byte by byte, and the pieces of
different writes are never mixed: they go out one after the other, in the order in which the writes
have asked for their turn.  Which write asks first is a matter of whose task runs first, and not of
the order in which the guest has made the calls.  A write that is told so has gone out as a whole.
One that gives up, fails or is aborted in its turn leaves a piece behind, and the next write in line
may still go out after it.
-/

namespace ScriptHost.Network

/-- The bytes that an operation starts with, if it is a write. -/
def Act.payload? : Act → Option (List UInt8)
  | .start _ (.write _ data) => some (bytesOf data)
  | _ => none

/-- The bytes that an operation is to write; none if it is no write. -/
def payload (events : List Event) (op : Nat) : List UInt8 :=
  ((acts op events).findSome? Act.payload?).getD []

/-- What an operation is to write is known from its start on. -/
theorem payload_mono (events later : List Event) (op : Nat) :
    payload events op <+: payload (events ++ later) op := by
  rw [payload, payload, acts, acts, List.filterMap_append, List.findSome?_append]
  cases (events.filterMap (Event.act? op)).findSome? Act.payload? with
  | none => exact List.nil_prefix
  | some bytes => exact List.prefix_rfl

namespace Shared

variable {α : Type} {s : Shared α} {settings : NetworkSettings} {events : List Event}

theorem Run.payload_eq (h : Run (start settings) events s) {op completion id : Nat}
    {data : ByteArray} (hstarted : .op op (.start completion (.write id data)) ∈ events) :
    payload events op = bytesOf data := by
  have hmem := (mem_acts op events _).2 hstarted
  rcases (h.course op).record with ⟨hnone, -⟩ | ⟨first, request, rest, hacts, hrest, -⟩
  · rw [hnone] at hmem
    cases hmem
  · rw [hacts] at hmem
    rcases List.mem_cons.1 hmem with hfirst | hlater
    · rw [payload, hacts, ← hfirst]
      rfl
    · exact absurd trivial (hrest _ hlater)

end Shared

namespace Wired

variable {α : Type} {settings : NetworkSettings} {traffic : List Traffic} {w w' : Wired α}
  {l : Traffic} {op id : Nat}

/-! ## The line of the writes -/

/-- Only what the system takes of an operation changes what has been taken of it. -/
theorem Step.taken_eq (h : Step w l w') (hother : ∀ id bytes, l ≠ .take op id bytes) :
    w'.taken op = w.taken op := by
  cases h with
  | take => exact if_neg fun heq => hother _ _ (by rw [heq])
  | dry | ask | read | written | deliver | arrive => rfl

theorem Run.mem_lineup_of_taken (h : Run settings traffic w) (htaken : w.taken op ≠ []) :
    ∃ id, op ∈ lineup (.writer, id) traffic := by
  induction h with
  | nil => exact absurd rfl htaken
  | snoc hrun step ih =>
      rename_i traffic w w' l
      by_cases htakes : ∃ id bytes, l = .take op id bytes
      · obtain ⟨id, bytes, rfl⟩ := htakes
        cases step with
        | take hat hturn hnext =>
            exact ⟨id, mem_lineup_snoc (hrun.mem_lineup_of_current (hturn _ rfl)) _⟩
      · have hsame := step.taken_eq fun id bytes heq => htakes ⟨id, bytes, heq⟩
        obtain ⟨id, hmem⟩ := ih (hsame ▸ htaken)
        exact ⟨id, mem_lineup_snoc hmem _⟩

/-- The system has taken nothing of the writes behind the turn. -/
theorem Run.writers_inLine (h : Run settings traffic w) (id : Nat) :
    (w.shared.turns (.writer, id)).InLine (lineup (.writer, id) traffic)
      (fun j => w.taken j = []) := by
  refine Run.inLine_of (fun _ w j => w.taken j = []) (.writer, id) ?_ ?_ h
  · intro traffic w op hrun hnew
    refine Decidable.not_not.1 fun htaken => ?_
    obtain ⟨other, hmem⟩ := hrun.mem_lineup_of_taken htaken
    exact hnew _ hmem
  · intro traffic w w' l hrun step j hmem hnothing
    by_cases htakes : ∃ other bytes, l = .take j other bytes
    · -- a write has the turn at its own connection, so that this is the one of the line
      obtain ⟨other, bytes, rfl⟩ := htakes
      rw [lineup_of_silent rfl] at hmem
      cases step with
      | take hat hturn hnext =>
          have hcurrent := hturn (.writer, other) rfl
          have hside := hrun.side_eq (mem_lineup.1 hmem) rfl
            (mem_lineup.1 (hrun.mem_lineup_of_current hcurrent)) rfl
          rw [hside] at hcurrent
          exact .inr hcurrent
    · exact .inl ((step.taken_eq fun other bytes heq => htakes ⟨other, bytes, heq⟩).trans hnothing)

/-! ## Pieces of payloads -/

theorem Step.taken_mono (h : Step w l w') (op : Nat) : w.taken op <+: w'.taken op := by
  by_cases htakes : ∃ id bytes, l = .take op id bytes
  · obtain ⟨id, bytes, rfl⟩ := htakes
    cases h with
    | take => simp
  · have hsame := h.taken_eq fun id bytes heq => htakes ⟨id, bytes, heq⟩
    exact hsame ▸ List.prefix_rfl

/-- What has been taken of an operation is the front of what it is to write. -/
theorem Run.taken_prefix (h : Run settings traffic w) (op : Nat) :
    w.taken op <+: payload (events traffic) op := by
  induction h with
  | nil => exact List.nil_prefix
  | snoc hrun step ih =>
      rename_i traffic w w' l
      rw [events_snoc]
      refine List.IsPrefix.trans ?_ (payload_mono (events traffic) l.event?.toList op)
      by_cases htakes : ∃ id bytes, l = .take op id bytes
      · obtain ⟨id, bytes, rfl⟩ := htakes
        cases step with
        | take hat hturn hnext =>
            rw [hrun.shared.payload_eq (hrun.shared.started_of_at hat)]
            simpa using hnext
      · rw [step.taken_eq fun id bytes heq => htakes ⟨id, bytes, heq⟩]
        exact ih

/-- A write that is told so has been taken as a whole. -/
theorem Run.taken_of_written (h : Run settings traffic w) (hwritten : .written op id ∈ traffic) :
    w.taken op = payload (events traffic) op := by
  induction h with
  | nil => cases hwritten
  | snoc hrun step ih =>
      rename_i traffic w w' l
      have hlater := hrun.snoc step
      rcases List.mem_append.1 hwritten with hearlier | hlast
      · -- nothing can be added to the whole of what is known by then
        obtain ⟨completion, request, hstarted, hside⟩ := hrun.started_of_site hearlier rfl
        obtain ⟨data, rfl⟩ := Request.of_writer hside
        have hwhole := (ih hearlier).trans (hrun.shared.payload_eq hstarted)
        have hpayload := hlater.shared.payload_eq (mem_events_snoc hstarted l)
        have hpart := hlater.taken_prefix op
        have hmono := step.taken_mono op
        rw [hpayload] at hpart ⊢
        rw [hwhole] at hmono
        exact hpart.eq_of_length (Nat.le_antisymm hpart.length_le hmono.length_le)
      · rw [List.mem_singleton] at hlast
        subst hlast
        cases step with
        | written hat hturn hall =>
            have hstarted := mem_events_snoc (hrun.shared.started_of_at hat) (.written op id)
            exact hall.trans (hlater.shared.payload_eq hstarted).symm

/-! ## What goes out -/

/-- What the system takes goes out behind all that is out already. -/
theorem Run.outgoing_take (h : Run settings traffic w) {bytes : List UInt8}
    (hturn : (w.shared.turns (.writer, id)).current = some (op, ())) :
    (lineup (.writer, id) traffic).flatMap
        (fun j => if j = op then w.taken op ++ bytes else w.taken j) =
      (lineup (.writer, id) traffic).flatMap w.taken ++ bytes := by
  obtain ⟨before, after, hline, -, hnothing⟩ := (h.writers_inLine id).split hturn
  have hnodup := h.nodup_lineup (.writer, id)
  rw [hline] at hnodup ⊢
  obtain ⟨-, hrest, hapart⟩ := List.nodup_append.1 hnodup
  have hbefore : before.flatMap (fun j => if j = op then w.taken op ++ bytes else w.taken j) =
      before.flatMap w.taken :=
    List.flatMap_congr fun j hj => if_neg (hapart j hj op List.mem_cons_self)
  have hafter : after.flatMap (fun j => if j = op then w.taken op ++ bytes else w.taken j) = [] := by
    refine List.flatMap_eq_nil_iff.2 fun j hj => ?_
    have hne : j ≠ op := fun heq => (List.nodup_cons.1 hrest).1 (heq ▸ hj)
    rw [if_neg hne]
    exact hnothing j hj
  have hsilent : after.flatMap w.taken = [] := List.flatMap_eq_nil_iff.2 hnothing
  simp [List.flatMap_append, List.flatMap_cons, hbefore, hafter, hsilent]

/-- What has gone out are the pieces of the writes, one after the other down the line. -/
theorem Run.outgoing_eq (h : Run settings traffic w) (id : Nat) :
    w.outgoing id = (lineup (.writer, id) traffic).flatMap w.taken := by
  induction h with
  | nil => rfl
  | snoc hrun step ih =>
      rename_i traffic w w' l
      cases step with
      | dry | read | written | deliver | arrive =>
          rw [lineup_of_silent rfl]
          exact ih
      | @ask op completion request watching side hat hside =>
          have hnothing : w.taken op = [] := by
            refine Decidable.not_not.1 fun htaken => ?_
            obtain ⟨other, hmem⟩ := hrun.mem_lineup_of_taken htaken
            exact hrun.not_mem_lineup hat _ hmem
          rw [lineup_snoc, List.flatMap_append, Traffic.asks?]
          split
          · simpa [hnothing] using ih
          · simpa using ih
      | @take op completion other data bytes asked watching hat hturn hnext =>
          have hcurrent := hturn (.writer, other) rfl
          rw [lineup_of_silent rfl]
          by_cases hid : id = other
          · subst hid
            rw [hrun.outgoing_take hcurrent, ← ih]
            exact if_pos rfl
          · -- the write is in the line of its own connection and in no other
            have hout : op ∉ lineup (.writer, id) traffic := fun hmem => by
              have hside := hrun.side_eq (mem_lineup.1 hmem) rfl
                (mem_lineup.1 (hrun.mem_lineup_of_current hcurrent)) rfl
              exact hid (congrArg Prod.snd hside).symm
            have hsame : (lineup (.writer, id) traffic).flatMap
                (fun j => if j = op then w.taken op ++ bytes else w.taken j) =
                  (lineup (.writer, id) traffic).flatMap w.taken :=
              List.flatMap_congr fun j hj => if_neg fun heq : j = op => hout (heq ▸ hj)
            rw [hsame, ← ih]
            exact if_neg hid

/-- If all who have left the line have been taken as a whole, what has gone out is the front of all
payloads, down the line. -/
theorem Run.outgoing_prefix (h : Run settings traffic w)
    (hwhole : ∀ op ∈ lineup (.writer, id) traffic,
      op ∉ (w.shared.turns (.writer, id)).holders → w.taken op = payload (events traffic) op) :
    w.outgoing id <+: (lineup (.writer, id) traffic).flatMap (payload (events traffic)) := by
  rw [h.outgoing_eq id]
  have hnodup := h.nodup_lineup (.writer, id)
  have hinLine := h.writers_inLine id
  generalize w.shared.turns (.writer, id) = turns at hinLine hwhole
  cases hinLine with
  | free =>
      have hall : (lineup (.writer, id) traffic).flatMap w.taken =
          (lineup (.writer, id) traffic).flatMap (payload (events traffic)) :=
        List.flatMap_congr fun j hj => hwhole j hj List.not_mem_nil
      exact hall ▸ List.prefix_rfl
  | @held before after op waiting hline hwaiting hnothing =>
      rw [hline] at hnodup hwhole ⊢
      have hapart := (List.nodup_append.1 hnodup).2.2
      have hbefore : before.flatMap w.taken = before.flatMap (payload (events traffic)) := by
        refine List.flatMap_congr fun j hj => hwhole j (List.mem_append_left _ hj) fun hholds => ?_
        have hbehind : j ∈ op :: after := by
          rcases List.mem_cons.1 hholds with heq | hwaits
          · exact heq ▸ List.mem_cons_self
          · exact List.mem_cons_of_mem _ (hwaiting.subset hwaits)
        exact hapart j hj j hbehind rfl
      have hafter : after.flatMap w.taken = [] := List.flatMap_eq_nil_iff.2 hnothing
      rw [List.flatMap_append, List.flatMap_cons, hbefore, hafter, List.append_nil,
        List.flatMap_append, List.flatMap_cons]
      refine (List.prefix_append_right_inj _).2 ?_
      exact (h.taken_prefix op).trans (List.prefix_append _ _)

/-- **Writes go out one after the other, in the order in which they have asked for their turn**,
however the tasks run in between and in whatever pieces the system takes the bytes.

What has gone out on a connection is, for each write that has asked, a piece from the front of its
bytes, and these pieces follow each other down the line.  No write is in the line twice.  A write that
is told that all is written has gone out as a whole.  As long as every write that has left the line
has been taken as a whole, all that has gone out is the front of the payloads down the line. -/
theorem writes_go_out_in_line (hrun : Run settings traffic w) (id : Nat) :
    w.outgoing id = (lineup (.writer, id) traffic).flatMap w.taken ∧
    (lineup (.writer, id) traffic).Nodup ∧
    (∀ op ∈ lineup (.writer, id) traffic, ∃ completion data,
      .op op (.start completion (.write id data)) ∈ events traffic ∧
        w.taken op <+: bytesOf data ∧
        (.written op id ∈ traffic → w.taken op = bytesOf data)) ∧
    ((∀ op ∈ lineup (.writer, id) traffic, op ∉ (w.shared.turns (.writer, id)).holders →
        w.taken op = payload (events traffic) op) →
      w.outgoing id <+: (lineup (.writer, id) traffic).flatMap (payload (events traffic))) := by
  refine ⟨hrun.outgoing_eq id, hrun.nodup_lineup _, fun op hmem => ?_, hrun.outgoing_prefix⟩
  obtain ⟨completion, request, hstarted, hside⟩ := hrun.started_of_site (mem_lineup.1 hmem) rfl
  obtain ⟨data, rfl⟩ := Request.of_writer hside
  have hpayload := hrun.shared.payload_eq hstarted
  exact ⟨completion, data, hstarted, hpayload ▸ hrun.taken_prefix op,
    fun hwritten => (hrun.taken_of_written hwritten).trans hpayload⟩

/-! ## Two writes -/

/-- An operation finds its connection and asks for its turn. -/
def liningUp (op : Nat) (side : Side × Nat) : List Traffic := [.dry (.op op .find), .ask op side]

/-- The system takes all bytes of a write at once, and the write is told so. -/
def goingOut (op id : Nat) (data : ByteArray) : List Traffic :=
  [.take op id (bytesOf data), .written op id]

/-- The system takes a piece of a write, and then the write gives up because a thread closes the
connection. -/
def breakingOff (thread op id : Nat) (piece : List UInt8) : List Traffic :=
  [.dry (.op op .watch), .take op id piece, .dry (.thread thread (.detach .stream id true)),
    .dry (.thread thread (.fire id)), .dry (.op op (.giveUp id))]

theorem Run.line_up (h : Run settings traffic w) {completion : Nat} {request : Request}
    {side : Side × Nat} (hat : w.shared.At op completion request .spawned .none)
    (hclear : request.obstacle? w.shared.network.handles = none)
    (hside : request.side? = some side) :
    ∃ w' : Wired α, Run settings (traffic ++ liningUp op side) w' ∧
      w'.shared.At op completion request .waiting (.waits true false) ∧
      w'.shared.turns side = (w.shared.turns side).ask op () ∧
      w'.shared.network.handles = w.shared.network.handles ∧
      (∀ j, j ≠ op → w'.shared.standing j = w.shared.standing j) ∧
      w'.shared.call = w.shared.call ∧ w'.outgoing = w.outgoing ∧ w'.taken = w.taken := by
  have hfind := Step.dry (w := w) rfl (.find hat hclear)
  have hfound := h.snoc hfind
  have hwaits := hat.begin hclear (.waits false false)
  have hask := Step.ask (w := { w with shared := _ }) hwaits hside
  have hasked := hfound.snoc hask
  rw [List.append_assoc] at hasked
  refine ⟨_, hasked, ⟨hwaits.operation, if_pos rfl⟩, ?_, ?_, fun j hj => ?_, rfl, rfl, rfl⟩
  · exact if_pos hside
  · show (w.shared.network.begin op).handles = w.shared.network.handles
    rw [Coordinator.begin_of_clear hat.operation hclear]
    rfl
  · exact (hask.standing_of_ne hfound.shared.tidy rfl hj).trans
      (hfind.standing_of_ne h.shared.tidy rfl hj)

theorem Run.go_out (h : Run settings traffic w) {completion : Nat} {data : ByteArray}
    {asked watching : Bool} {waiting : List (Nat × Unit)}
    (hat : w.shared.At op completion (.write id data) .waiting (.waits asked watching))
    (hturns : w.shared.turns (.writer, id) = ⟨some (op, ()), waiting⟩) (hnew : w.taken op = []) :
    ∃ w' : Wired α, Run settings (traffic ++ goingOut op id data) w' ∧
      w'.outgoing id = w.outgoing id ++ bytesOf data ∧
      w'.shared.turns (.writer, id) = ⟨waiting.head?, waiting.tail⟩ ∧
      (∀ j, j ≠ op → w'.shared.standing j = w.shared.standing j) ∧
      ∀ j, j ≠ op → w'.taken j = w.taken j := by
  have hturn : w.shared.HasTurn op (.write id data) := by
    rintro side ⟨⟩
    rw [hturns]
  let taking : Wired α :=
    { w with
      outgoing := fun j => if j = id then w.outgoing id ++ bytesOf data else w.outgoing j
      taken := fun j => if j = op then w.taken op ++ bytesOf data else w.taken j }
  have htake : Step w (.take op id (bytesOf data)) taking :=
    .take hat hturn (hnew ▸ List.prefix_rfl)
  have hwhole : taking.taken op = bytesOf data :=
    (if_pos rfl).trans (congrArg (· ++ bytesOf data) hnew)
  have hwritten := Step.written (w := taking) hat hturn hwhole
  have hafter := (h.snoc htake).snoc hwritten
  rw [List.append_assoc] at hafter
  refine ⟨_, hafter, if_pos rfl, ?_, fun j hj => ?_, fun j hj => if_neg hj⟩
  · show (w.shared.turn (.write id data) (·.leave op)).turns (.writer, id) = _
    simp [Shared.turn, Request.side?, hturns, Turns.leave, Turns.pass]
  · exact hwritten.standing_of_ne (h.snoc htake).shared.tidy rfl hj

theorem Run.break_off (h : Run settings traffic w) {completion thread : Nat} {data : ByteArray}
    {piece : List UInt8} {waiting : List (Nat × Unit)}
    (hat : w.shared.At op completion (.write id data) .waiting (.waits true false))
    (hturns : w.shared.turns (.writer, id) = ⟨some (op, ()), waiting⟩) (hnew : w.taken op = [])
    (hpiece : piece <+: bytesOf data) (hopen : w.shared.network.handles.isOpen .stream id = true)
    (hcall : w.shared.call thread = .none) :
    ∃ w' : Wired α, Run settings (traffic ++ breakingOff thread op id piece) w' ∧
      w'.outgoing id = w.outgoing id ++ piece ∧
      w'.shared.turns (.writer, id) = ⟨waiting.head?, waiting.tail⟩ ∧
      (∀ j, j ≠ op → w'.shared.standing j = w.shared.standing j) ∧
      ∀ j, j ≠ op → w'.taken j = w.taken j := by
  have hturn : w.shared.HasTurn op (.write id data) := by
    rintro side ⟨⟩
    rw [hturns]
  let watching : Wired α := { w with shared := w.shared.place op (.waits true true) }
  have hwatch : Step w (.dry (.op op .watch)) watching := .dry rfl (.watch hat rfl)
  let taking : Wired α :=
    { watching with
      outgoing := fun j => if j = id then w.outgoing id ++ piece else w.outgoing j
      taken := fun j => if j = op then w.taken op ++ piece else w.taken j }
  have htake : Step watching (.take op id piece) taking :=
    .take (hat.place _) hturn (show w.taken op ++ piece <+: _ by rw [hnew]; exact hpiece)
  let detaching : Wired α :=
    { taking with
      shared := (taking.shared.withHandles (taking.shared.network.handles.detach .stream id).2).assign
        thread (.closing .stream id true [id]) }
  have hdetach : Step taking (.dry (.thread thread (.detach .stream id true))) detaching := by
    have hfound : (taking.shared.network.handles.detach .stream id).1 = true :=
      (Handles.detach_fst _ _ _).trans hopen
    have step : taking.shared.Step (.thread thread (.detach .stream id _)) _ :=
      .detach .stream id hcall
    rw [hfound] at step
    exact .dry rfl step
  let firing : Wired α :=
    { detaching with
      shared := (detaching.shared.withHandles (detaching.shared.network.handles.signal id)).assign
        thread ((detaching.shared.call thread).fire id) }
  have hleft : id ∈ (detaching.shared.call thread).left := by
    simp [detaching, Shared.assign, Call.left]
  have hfire : Step detaching (.dry (.thread thread (.fire id))) firing := .dry rfl (.fire hleft)
  have hsignalled : firing.shared.network.handles.isSignalled id = true :=
    (Handles.isSignalled_signal _ _ _).2 (.inl rfl)
  have hwatches : firing.shared.At op completion (.write id data) .waiting (.waits true true) :=
    ⟨hat.operation, if_pos rfl⟩
  have hgiveUp := Step.dry (w := firing) rfl (.giveUp hwatches rfl hsignalled)
  have htaken := (h.snoc hwatch).snoc htake
  have hfired := (htaken.snoc hdetach).snoc hfire
  have hafter := hfired.snoc hgiveUp
  refine ⟨_, by simpa [breakingOff] using hafter, if_pos rfl, ?_, fun j hj => ?_, fun j hj => if_neg hj⟩
  · show (w.shared.turn (.write id data) (·.leave op)).turns (.writer, id) = _
    simp [Shared.turn, Request.side?, hturns, Turns.leave, Turns.pass]
  · exact (hgiveUp.standing_of_ne hfired.shared.tidy rfl hj).trans
      (hwatch.standing_of_ne h.shared.tidy rfl hj)

section

variable {first second completion completion' : Nat} {data data' : ByteArray}
  (hrun : Run settings traffic w) (hne : first ≠ second)
  (hfirst : w.shared.At first completion (.write id data) .spawned .none)
  (hsecond : w.shared.At second completion' (.write id data') .spawned .none)
  (hopen : w.shared.network.handles.isOpen .stream id = true)
  (hturns : w.shared.turns (.writer, id) = .free)
  (hnew : w.taken first = []) (hnew' : w.taken second = [])

include hrun hne hfirst hsecond hopen hturns hnew hnew'

/-- Two writes have been called, in whichever order, and ask for their turn one after the other. -/
theorem Run.both_line_up :
    ∃ w' : Wired α, Run settings
        (traffic ++ liningUp first (.writer, id) ++ liningUp second (.writer, id)) w' ∧
      w'.shared.At first completion (.write id data) .waiting (.waits true false) ∧
      w'.shared.At second completion' (.write id data') .waiting (.waits true false) ∧
      w'.shared.turns (.writer, id) = ⟨some (first, ()), [(second, ())]⟩ ∧
      w'.shared.network.handles = w.shared.network.handles ∧ w'.shared.call = w.shared.call ∧
      w'.outgoing = w.outgoing ∧ w'.taken first = [] ∧ w'.taken second = [] := by
  obtain ⟨w₁, hrun₁, hat₁, hturns₁, hhandles₁, hothers₁, hcall₁, hout₁, htaken₁⟩ :=
    hrun.line_up hfirst (Request.obstacle?_of_side rfl hopen) rfl
  have hsecond₁ := Shared.at_of_standing ((hothers₁ second hne.symm).trans hsecond.standing)
  obtain ⟨w₂, hrun₂, hat₂, hturns₂, hhandles₂, hothers₂, hcall₂, hout₂, htaken₂⟩ :=
    hrun₁.line_up hsecond₁ (Request.obstacle?_of_side rfl (hhandles₁ ▸ hopen)) rfl
  have hfirst₂ := Shared.at_of_standing ((hothers₂ first hne).trans hat₁.standing)
  refine ⟨w₂, hrun₂, hfirst₂, hat₂, ?_, hhandles₂.trans hhandles₁, hcall₂.trans hcall₁,
    hout₂.trans hout₁, ?_, ?_⟩
  · rw [hturns₂, hturns₁, hturns]
    rfl
  · rw [htaken₂, htaken₁, hnew]
  · rw [htaken₂, htaken₁, hnew']

/-- The one that asks first goes out first. -/
theorem Run.go_out_as_asked :
    ∃ w' : Wired α, Run settings (traffic ++ liningUp first (.writer, id) ++
        liningUp second (.writer, id) ++ goingOut first id data ++ goingOut second id data') w' ∧
      w'.outgoing id = w.outgoing id ++ bytesOf data ++ bytesOf data' := by
  obtain ⟨w₁, hrun₁, hfirst₁, hsecond₁, hturns₁, -, -, hout₁, hnew₁, hnew₁'⟩ :=
    hrun.both_line_up hne hfirst hsecond hopen hturns hnew hnew'
  obtain ⟨w₂, hrun₂, hout₂, hturns₂, hothers₂, htaken₂⟩ := hrun₁.go_out hfirst₁ hturns₁ hnew₁
  have hsecond₂ := Shared.at_of_standing ((hothers₂ second hne.symm).trans hsecond₁.standing)
  obtain ⟨w₃, hrun₃, hout₃, -⟩ :=
    hrun₂.go_out hsecond₂ hturns₂ ((htaken₂ second hne.symm).trans hnew₁')
  exact ⟨w₃, hrun₃, by rw [hout₃, hout₂, hout₁]⟩

/-- If the connection is closed while the first goes out, the second may still go out behind what
has been taken of the first: it finds out about the close only when it looks. -/
theorem Run.go_out_behind_piece {thread : Nat} {piece : List UInt8}
    (hpiece : piece <+: bytesOf data) (hcall : w.shared.call thread = .none) :
    ∃ w' : Wired α, Run settings (traffic ++ liningUp first (.writer, id) ++
        liningUp second (.writer, id) ++ breakingOff thread first id piece ++
          goingOut second id data') w' ∧
      w'.outgoing id = w.outgoing id ++ piece ++ bytesOf data' := by
  obtain ⟨w₁, hrun₁, hfirst₁, hsecond₁, hturns₁, hhandles₁, hcall₁, hout₁, hnew₁, hnew₁'⟩ :=
    hrun.both_line_up hne hfirst hsecond hopen hturns hnew hnew'
  obtain ⟨w₂, hrun₂, hout₂, hturns₂, hothers₂, htaken₂⟩ := hrun₁.break_off hfirst₁ hturns₁ hnew₁
    hpiece (hhandles₁ ▸ hopen) ((congrFun hcall₁ thread).trans hcall)
  have hsecond₂ := Shared.at_of_standing ((hothers₂ second hne.symm).trans hsecond₁.standing)
  obtain ⟨w₃, hrun₃, hout₃, -⟩ :=
    hrun₂.go_out hsecond₂ hturns₂ ((htaken₂ second hne.symm).trans hnew₁')
  exact ⟨w₃, hrun₃, by rw [hout₃, hout₂, hout₁]⟩

end

/-- A connection has been opened, and two writes on it have been called. -/
def bothCalled : List Traffic :=
  [.dry (.numbered 1), .dry (.op 0 (.start 1 (.connect "peer" 80))), .dry (.op 0 .find),
    .dry (.op 0 (.hear .connected)), .dry (.op 0 (.draw 1)), .dry (.op 0 (.enter .stream 1)),
    .dry (.numbered 2), .dry (.op 1 (.start 2 (.write 1 ⟨#[1, 2]⟩))),
    .dry (.numbered 3), .dry (.op 2 (.start 3 (.write 1 ⟨#[3]⟩)))]

theorem run_bothCalled : ∃ w : Wired Unit, Run ⟨0, 1, 0⟩ bothCalled w ∧
    w.shared.At 1 2 (.write 1 ⟨#[1, 2]⟩) .spawned .none ∧
    w.shared.At 2 3 (.write 1 ⟨#[3]⟩) .spawned .none ∧
    w.shared.network.handles.isOpen .stream 1 = true ∧ w.shared.turns (.writer, 1) = .free ∧
    w.shared.call 0 = .none ∧ w.outgoing 1 = [] ∧ w.taken = fun _ => [] := by
  refine ⟨_, Run.nil.append <| .cons (.dry rfl (.number ())) <|
    .cons (.dry rfl (.start _ (by decide))) <| .cons (.dry rfl (.find ⟨rfl, rfl⟩ rfl)) <|
    .cons (.dry rfl (.hear ⟨rfl, rfl⟩ (fun _ h => by cases h) _)) <|
    .cons (.dry rfl (.draw ⟨rfl, rfl⟩)) <| .cons (.dry rfl (.enter ⟨rfl, rfl⟩)) <|
    .cons (.dry rfl (.number ())) <| .cons (.dry rfl (.start _ (by decide))) <|
    .cons (.dry rfl (.number ())) <| .cons (.dry rfl (.start _ (by decide))) <| .nil _, ?_⟩
  exact ⟨⟨rfl, rfl⟩, ⟨rfl, rfl⟩, rfl, rfl, rfl, rfl, rfl⟩

/-- The second write is run first. -/
def laterFirst : List Traffic :=
  bothCalled ++ liningUp 2 (.writer, 1) ++ liningUp 1 (.writer, 1) ++ goingOut 2 1 ⟨#[3]⟩ ++
    goingOut 1 1 ⟨#[1, 2]⟩

/-- The first write is run first, and the connection is closed when one byte of it has gone out. -/
def closedBetween : List Traffic :=
  bothCalled ++ liningUp 1 (.writer, 1) ++ liningUp 2 (.writer, 1) ++ breakingOff 0 1 1 [1] ++
    goingOut 2 1 ⟨#[3]⟩

theorem run_laterFirst :
    ∃ w : Wired Unit, Run ⟨0, 1, 0⟩ laterFirst w ∧ w.outgoing 1 = [3, 1, 2] := by
  obtain ⟨w, hrun, hfirst, hsecond, hopen, hturns, -, hout, htaken⟩ := run_bothCalled
  obtain ⟨w', hrun', hout'⟩ := hrun.go_out_as_asked (by decide) hsecond hfirst hopen hturns
    (congrFun htaken 2) (congrFun htaken 1)
  rw [hout] at hout'
  exact ⟨w', hrun', hout'⟩

/-- The line is the second write and then the first, and both have gone out as a whole. -/
theorem later_write_goes_out_first :
    ∃ w : Wired Unit, Run ⟨0, 1, 0⟩ laterFirst w ∧ w.outgoing 1 = [3, 1, 2] ∧
      w.outgoing 1 = [2, 1].flatMap w.taken ∧ w.taken 1 = [1, 2] ∧ w.taken 2 = [3] := by
  obtain ⟨w, hrun, hout⟩ := run_laterFirst
  obtain ⟨hpieces, -, hwrites, -⟩ := writes_go_out_in_line hrun 1
  have hwhole (op : Nat) (hmem : op ∈ lineup (.writer, 1) laterFirst)
      (hwritten : .written op 1 ∈ laterFirst) : w.taken op = payload (events laterFirst) op := by
    obtain ⟨completion, data, hstarted, -, hall⟩ := hwrites op hmem
    exact (hall hwritten).trans (hrun.shared.payload_eq hstarted).symm
  exact ⟨w, hrun, hout, hpieces,
    hwhole 1 (by decide) (by simp [laterFirst, bothCalled, liningUp, goingOut]),
    hwhole 2 (by decide) (by simp [laterFirst, bothCalled, liningUp, goingOut])⟩

/-- What goes out is not ordered by the calls: of two writes the later one may go out first, and if
the connection is closed what has gone out need not be the front of their payloads. -/
theorem calls_do_not_order_writes :
    (∃ w : Wired Unit, Run ⟨0, 1, 0⟩ laterFirst w ∧
      [1, 2].flatMap (payload (events laterFirst)) = [1, 2, 3] ∧ w.outgoing 1 = [3, 1, 2]) ∧
    ∃ w : Wired Unit, Run ⟨0, 1, 0⟩ closedBetween w ∧
      [1, 2].flatMap (payload (events closedBetween)) = [1, 2, 3] ∧ w.outgoing 1 = [1, 3] := by
  obtain ⟨w, hrun, hout⟩ := run_laterFirst
  obtain ⟨w', hrun', hfirst, hsecond, hopen, hturns, hcall, hout', htaken⟩ := run_bothCalled
  have hpiece : [1] <+: bytesOf ⟨#[1, 2]⟩ := ⟨[2], rfl⟩
  obtain ⟨w'', hrun'', hout''⟩ := hrun'.go_out_behind_piece (by decide) hfirst hsecond hopen hturns
    (congrFun htaken 1) (congrFun htaken 2) hpiece hcall
  rw [hout'] at hout''
  exact ⟨⟨w, hrun, rfl, hout⟩, w'', hrun'', rfl, hout''⟩

end Wired
end ScriptHost.Network
