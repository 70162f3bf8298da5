import ScriptHost.Proofs.Network.Ledger

/-!
# A close strands nobody

An operation that waits on a handle has found it open.  As long as the handle is open the peer may
still answer.  Whoever takes the handle out of its table owes its signal (`Owed`), can fire it at
any time, and is rid of the debt only by firing it; and a signal that has fired stays so.  So the
handle of an operation that waits is open, or its signal has fired, or the signal is owed
(`Within`).  The operation looks its handle up, asks for its turn and begins to watch the signal in
separate steps; but the signal is a state and not a pulse, and it does not matter between which of
them the close falls.
-/

namespace ScriptHost.Network

/-- Only an operation at work stands anywhere within its stage. -/
theorem Course.waiting {acts : List Act} {here : Standing} (h : Course acts here)
    (hfooting : here.2 ≠ .none ∧ here.2 ≠ .leaving ∧ here.2 ≠ .ended) :
    ∃ completion request, here.1 = some ⟨completion, request, .waiting⟩ := by
  cases h with
  | nil => exact absurd rfl hfooting.1
  | snoc _ goes =>
      cases goes with
      | find | ask | watch | hear | draw | enter | remove | miss | signal => exact ⟨_, _, rfl⟩
      | start | refuse | giveUp | settle | queue => exact absurd rfl hfooting.1
      | uncount => exact absurd rfl hfooting.2.1
      | finish | drop => exact absurd rfl hfooting.2.2

namespace Shared

variable {α : Type} {s t : Shared α} {e : Event} {events : List Event} {settings : NetworkSettings}
  {id : Nat} {kind : Kind}

/-- Somebody has taken a handle out of its table and has not fired its signal. -/
inductive Owed (s : Shared α) (id : Nat) : Prop where
  | call (thread : Nat) (hleft : id ∈ (s.call thread).left)
  | operation (op : Nat) {cause : IoFault} (hlosing : s.footing op = .losing id cause)

/-- A handle is open, or its signal has fired, or is owed. -/
def Within (s : Shared α) (kind : Kind) (id : Nat) : Prop :=
  s.network.handles.isOpen kind id = true ∨ s.network.handles.isSignalled id = true ∨ s.Owed id

/-! ## Debts -/

/-- Whoever takes a handle out owes its signal. -/
theorem Step.owed_of_removes (h : Step s e t) (htidy : s.Tidy) (hmem : id ∈ e.removes) :
    t.Owed id := by
  cases e with
  | op op act =>
      cases act with
      | remove j found =>
          obtain ⟨rfl, rfl⟩ : found = true ∧ id = j := by simpa [Event.removes] using hmem
          have hgoes := h.own htidy
          generalize hthere : t.standing op = there at hgoes
          generalize s.standing op = here at hgoes
          cases hgoes with
          | remove => exact .operation op (congrArg Prod.snd hthere)
      | _ => cases hmem
  | thread thread move =>
      have hcalls := h.ownCall
      generalize hafter : t.call thread = after at hcalls
      generalize s.call thread = before at hcalls
      cases hcalls with
      | detach | detachAll =>
          refine .call thread ?_
          rw [hafter]
          exact hmem
      | fire | answer | answerAll => cases hmem
  | numbered | aside => cases hmem

/-- A debt is paid by firing the signal, and in no other way. -/
theorem Step.owed (h : Step s e t) (htidy : s.Tidy) (howed : s.Owed id) :
    e.Fires id ∨ t.Owed id := by
  cases howed with
  | call thread hleft =>
      rcases h.calls thread with ⟨-, hsame⟩ | ⟨move, rfl, hcalls⟩
      · exact .inr (.call thread (hsame ▸ hleft))
      · generalize hafter : t.call thread = after at hcalls
        generalize s.call thread = before at hcalls hleft
        cases hcalls with
        | @fire _ j =>
            by_cases hj : id = j
            · exact .inl hj
            · refine .inr (.call thread ?_)
              rw [hafter, Call.left_fire]
              exact (List.mem_erase_of_ne hj).2 hleft
        | detach | answer | detachAll | answerAll => cases hleft
  | @operation op cause hlosing =>
      rcases h.course htidy op with ⟨-, hsame⟩ | ⟨act, rfl, hgoes⟩
      · exact .inr (.operation op ((congrArg Prod.snd hsame).trans hlosing))
      · have hhere : (s.standing op).2 = .losing id cause := hlosing
        generalize t.standing op = there at hgoes
        generalize s.standing op = here at hgoes hhere
        cases hgoes with
        | signal =>
            cases hhere
            exact .inl rfl
        | drop hsteady =>
            obtain rfl := hhere
            cases hsteady
        | start | refuse | find | ask | watch | giveUp | hear | draw | enter | remove | miss
        | settle | queue | uncount | finish => cases hhere

/-- Only what is owed is fired. -/
theorem Step.owed_of_fires (h : Step s e t) (hfires : e.Fires id) : s.Owed id := by
  cases h with
  | signal hat =>
      cases hfires
      exact .operation _ hat.footing
  | fire hleft =>
      cases hfires
      exact .call _ hleft
  | _ => cases hfires

/-- Nobody else comes to owe anything. -/
theorem Step.owed_before (h : Step s e t) (htidy : s.Tidy) (howed : t.Owed id) :
    s.Owed id ∨ id ∈ e.removes := by
  cases howed with
  | call thread hleft =>
      rcases h.calls thread with ⟨-, hsame⟩ | ⟨move, rfl, hcalls⟩
      · exact .inl (.call thread (hsame ▸ hleft))
      · generalize t.call thread = after at hcalls hleft
        generalize hbefore : s.call thread = before at hcalls
        cases hcalls with
        | fire =>
            rw [Call.left_fire, ← hbefore] at hleft
            exact .inl (.call thread (List.mem_of_mem_erase hleft))
        | detach | detachAll => exact .inr hleft
        | answer | answerAll => cases hleft
  | @operation op cause hlosing =>
      rcases h.course htidy op with ⟨-, hsame⟩ | ⟨act, rfl, hgoes⟩
      · exact .inl (.operation op ((congrArg Prod.snd hsame).symm.trans hlosing))
      · have hthere : (t.standing op).2 = .losing id cause := hlosing
        generalize t.standing op = there at hgoes hthere
        generalize s.standing op = here at hgoes
        cases hgoes with
        | remove =>
            cases hthere
            exact .inr List.mem_cons_self
        | start | refuse | find | ask | watch | giveUp | hear | draw | enter | miss | signal
        | settle | queue | uncount | finish | drop => cases hthere

/-- A signal is owed, and fires, only for a handle that has been taken out. -/
theorem Run.removed (h : Run (start settings) events s)
    (hid : s.Owed id ∨ s.network.handles.isSignalled id = true) : id ∈ removals events := by
  refine Run.history (P := fun events s => s.Owed id ∨ s.network.handles.isSignalled id = true →
    id ∈ removals events) ?_ ?_ h hid
  · rintro ((⟨_, hleft⟩ | ⟨_, hlosing⟩) | hsignalled)
    · cases hleft
    · cases hlosing
    · cases hsignalled
  · intro earlier a b e hrun ih step hid
    rw [removals_append, removals_singleton, List.mem_append]
    rcases hid with howed | hsignalled
    · exact (step.owed_before hrun.tidy howed).imp_left fun howed => ih (.inl howed)
    · rcases (step.isSignalled_iff id).1 hsignalled with hfires | hsignalled
      · exact .inl (ih (.inl (step.owed_of_fires hfires)))
      · exact .inl (ih (.inr hsignalled))

/-- Who owes a signal can fire it at once. -/
theorem Owed.exists_step (h : s.Owed id) (hrun : Run (start settings) events s) :
    ∃ e t, Step s e t ∧ e.Fires id := by
  cases h with
  | call thread hleft => exact ⟨_, _, .fire hleft, rfl⟩
  | @operation op cause hlosing =>
      have hhere : (s.standing op).2 = .losing id cause := hlosing
      obtain ⟨completion, request, hget⟩ := (hrun.course op).waiting (by rw [hhere]; simp)
      exact ⟨_, _, .signal ⟨hget, hlosing⟩, rfl⟩

/-! ## Waiting on a handle -/

theorem Step.within (h : Step s e t) (htidy : s.Tidy)
    (hnew : ∀ id kind, (id, kind) ∈ e.issues → s.network.handles.table.get? id = none)
    (hwithin : s.Within kind id) : t.Within kind id := by
  -- an open handle stays or becomes owed, what is owed stays so or fires, and what has fired stays
  rcases hwithin with hopen | hsignalled | howed
  · by_cases hmem : id ∈ e.removes
    · exact .inr (.inr (h.owed_of_removes htidy hmem))
    · refine .inl ?_
      rw [Handles.isOpen_iff] at hopen ⊢
      rw [h.handles, h.tells.tables.get?_eq_some_iff hnew]
      exact .inl ⟨hopen, hmem⟩
  · exact .inr (.inl ((h.isSignalled_iff id).2 (.inr hsignalled)))
  · rcases h.owed htidy howed with hfires | howed
    · exact .inr (.inl ((h.isSignalled_iff id).2 (.inl hfires)))
    · exact .inr (.inr howed)

theorem Step.isOpen_of_find {op completion : Nat} {request : Request} {stage : Stage}
    {footing : Footing} (h : Step s (.op op .find) t)
    (hat : s.At op completion request stage footing) (hhandle : request.handle? = some (kind, id)) :
    s.network.handles.isOpen kind id = true := by
  cases h with
  | find hfound hclear =>
      cases hat.operation.symm.trans hfound.operation
      rw [Request.obstacle?_of_handle hhandle] at hclear
      simpa using hclear

/-- The handle of an operation that waits is open, or its signal has fired or is owed. -/
theorem Run.within (h : Run (start settings) events s)
    {op completion : Nat} {request : Request} {asked watching : Bool}
    (hat : s.At op completion request .waiting (.waits asked watching))
    (hhandle : request.handle? = some (kind, id)) : s.Within kind id := by
  refine Run.history (P := fun _ s => ∀ asked watching,
    s.At op completion request .waiting (.waits asked watching) → s.Within kind id) ?_ ?_ h
    asked watching hat
  · intro _ _ hat
    cases hat.operation
  · intro earlier a b e hrun ih step asked watching hat
    have hnew : ∀ id kind, (id, kind) ∈ e.issues → a.network.handles.table.get? id = none :=
      fun _ _ hissues => (hrun.ledger.new hrun.fresh step hissues).1
    refine step.within hrun.tidy hnew ?_
    rcases step.course hrun.tidy op with ⟨-, hsame⟩ | ⟨act, rfl, hgoes⟩
    · exact ih asked watching (at_of_standing (hsame ▸ hat.standing))
    · rw [hat.standing] at hgoes
      generalize hhere : a.standing op = here at hgoes
      -- it has just found its handle, or has waited before
      cases hgoes with
      | find => exact .inl (step.isOpen_of_find (at_of_standing hhere) hhandle)
      | ask => exact ih _ _ (at_of_standing hhere)
      | watch => exact ih _ _ (at_of_standing hhere)

/-! ## Giving up and being refused -/

section

variable {op completion : Nat} {request : Request} {asked watching : Bool}

/-- An operation whose handle has been closed can give up whatever turn it waits for, and whether it
has watched the signal before or not. -/
theorem At.exists_giveUp (hat : s.At op completion request .waiting (.waits asked watching))
    (hhandle : request.handle? = some (kind, id)) (hwatches : request.watches s.settings = true)
    (hsignalled : s.network.handles.isSignalled id = true) :
    ∃ t, Run s ((if watching then [Act.giveUp id] else [.watch, .giveUp id]).map (.op op)) t ∧
      t.At op completion request (.finished (failed (.closed id))) .none := by
  -- Once it watches the signal there is one step to go.
  have hlast : ∀ {u : Shared α}, u.At op completion request .waiting (.waits asked true) →
      u.network.handles.isSignalled id = true → ∃ t, Step u (.op op (.giveUp id)) t ∧
        t.At op completion request (.finished (failed (.closed id))) .none := by
    intro u hwatching hfired
    have hstep := Step.giveUp hwatching hhandle hfired
    obtain ⟨_, _, _, _, -, hbefore, -, hafter⟩ := hstep.at_of_giveUp
    cases hbefore.operation.symm.trans hwatching.operation
    exact ⟨_, hstep, hafter⟩
  cases watching with
  | true =>
      obtain ⟨t, hstep, hafter⟩ := hlast hat hsignalled
      exact ⟨t, .cons hstep (.nil t), hafter⟩
  | false =>
      obtain ⟨t, hstep, hafter⟩ := hlast (hat.place (.waits asked true)) hsignalled
      exact ⟨t, .cons (.watch hat hwatches) (.cons hstep (.nil t)), hafter⟩

/-- An operation that looks a closed handle up is refused, and has nothing else to do. -/
theorem At.refused (hat : s.At op completion request .spawned .none) (htidy : s.Tidy)
    (hhandle : request.handle? = some (kind, id))
    (hclosed : s.network.handles.isOpen kind id = false) :
    (∃ t, Step s (.op op (.refuse (.unknownHandle id))) t ∧
      t.At op completion request (.finished (failed (.unknownHandle id))) .none) ∧
    ∀ act t, Step s (.op op act) t → act = .refuse (.unknownHandle id) ∨ act = .drop false := by
  have hobstacle : request.obstacle? s.network.handles = some (.unknownHandle id) := by
    rw [Request.obstacle?_of_handle hhandle, hclosed]
    rfl
  have hrefused := Step.refuse hat hobstacle
  obtain ⟨_, _, hbefore, hafter⟩ := hrefused.at_of_refuse
  cases hbefore.operation.symm.trans hat.operation
  refine ⟨⟨_, hrefused, hafter⟩, fun act t step => ?_⟩
  have hgoes := step.own htidy
  rw [hat.standing] at hgoes
  generalize t.standing op = there at hgoes
  cases hgoes with
  | refuse cause =>
      cases step with
      | refuse hfound hcause =>
          cases hat.operation.symm.trans hfound.operation
          exact .inl (by rw [Option.some.inj (hcause.symm.trans hobstacle)])
  | find =>
      have hopen := step.isOpen_of_find hat hhandle
      rw [hclosed] at hopen
      cases hopen
  | drop => exact .inr rfl

end

/-! ## The whole of it -/

/-- **Closing a handle strands no operation**, whatever operations and threads do in between.

The handle of an operation that waits is still open, or its signal has fired, unless somebody has
just taken the handle out and can fire its signal at once.  Once the signal has fired the operation
can end with the failure that its handle has been closed, by its own steps and whatever turn it
waits for; and it ends so only if its handle has been closed.  An operation that looks a closed
handle up ends with the failure that the handle is unknown. -/
theorem close_strands_no_operation (hrun : Run (start settings) events s) :
    (∀ op completion request asked watching kind id,
      s.At op completion request .waiting (.waits asked watching) →
      request.handle? = some (kind, id) → ¬s.Owed id →
      s.network.handles.isOpen kind id = true ∨
        s.network.handles.isSignalled id = true ∧
        (request.watches settings = true →
          ∃ t, Run s ((if watching then [Act.giveUp id] else [.watch, .giveUp id]).map (.op op)) t ∧
            t.At op completion request (.finished (failed (.closed id))) .none)) ∧
    (∀ id, s.Owed id → ∃ e t, Step s e t ∧ e.Fires id) ∧
    (∀ id ∈ removals events, ∀ kind, s.network.handles.isOpen kind id = false) ∧
    (∀ op completion request kind id, s.At op completion request .spawned .none →
      request.handle? = some (kind, id) → s.network.handles.isOpen kind id = false →
      (∃ t, Step s (.op op (.refuse (.unknownHandle id))) t ∧
        t.At op completion request (.finished (failed (.unknownHandle id))) .none) ∧
      ∀ act t, Step s (.op op act) t → act = .refuse (.unknownHandle id) ∨ act = .drop false) ∧
    ∀ op id t, Step s (.op op (.giveUp id)) t → id ∈ removals events ∧
      ∃ completion request kind asked, request.handle? = some (kind, id) ∧
        s.At op completion request .waiting (.waits asked true) ∧
        s.network.handles.isSignalled id = true ∧
        t.At op completion request (.finished (failed (.closed id))) .none := by
  refine ⟨?_, fun id howed => howed.exists_step hrun, ?_, ?_, ?_⟩
  · intro op completion request asked watching kind id hat hhandle howed
    rcases hrun.within hat hhandle with hopen | hsignalled | hdebt
    · exact .inl hopen
    · refine .inr ⟨hsignalled, fun hwatches => ?_⟩
      rw [← hrun.settings] at hwatches
      exact hat.exists_giveUp hhandle hwatches hsignalled
    · exact absurd hdebt howed
  · intro id hmem kind
    rw [← Bool.not_eq_true, Handles.isOpen_iff, hrun.ledger.get?_iff]
    exact fun hopen => hopen.2 hmem
  · exact fun op completion request kind id hat => hat.refused hrun.tidy
  · intro op id t step
    obtain ⟨completion, request, kind, asked, hhandle, hat, hsignalled, hafter⟩ := step.at_of_giveUp
    exact ⟨hrun.removed (.inr hsignalled), completion, request, kind, asked, hhandle, hat,
      hsignalled, hafter⟩

/-- A read has found its connection and has not asked for its turn when a thread closes it. -/
theorem read_gives_up_before_its_turn :
    ∃ (events : List Event) (s t : Shared Unit), Run (start ⟨0, 1, 0⟩) events s ∧
      s.At 1 2 (.read 1 16) .waiting (.waits false false) ∧
      s.network.handles.isOpen .stream 1 = false ∧
      Run s [.op 1 .watch, .op 1 (.giveUp 1)] t ∧
      t.At 1 2 (.read 1 16) (.finished (failed (.closed 1))) .none := by
  obtain ⟨s, hrun, hat, hclosed, hcalls, hfooting⟩ :
      ∃ s : Shared Unit, Run (start ⟨0, 1, 0⟩)
        [.numbered 1, .op 0 (.start 1 (.connect "peer" 80)), .op 0 .find, .op 0 (.hear .connected),
          .op 0 (.draw 1), .op 0 (.enter .stream 1), .numbered 2, .op 1 (.start 2 (.read 1 16)),
          .op 1 .find, .thread 0 (.detach .stream 1 true), .thread 0 (.fire 1)] s ∧
        s.At 1 2 (.read 1 16) .waiting (.waits false false) ∧
        s.network.handles.isOpen .stream 1 = false ∧
        (∀ thread, (s.call thread).left = []) ∧ ∀ op cause, s.footing op ≠ .losing 1 cause := by
    refine ⟨_, .cons (.number ()) <| .cons (.start _ (by decide)) <| .cons (.find ⟨rfl, rfl⟩ rfl) <|
      .cons (.hear ⟨rfl, rfl⟩ (fun _ h => by cases h) _) <| .cons (.draw ⟨rfl, rfl⟩) <|
      .cons (.enter ⟨rfl, rfl⟩) <| .cons (.number ()) <| .cons (.start _ (by decide)) <|
      .cons (.find ⟨rfl, rfl⟩ rfl) <| .cons (.detach .stream 1 rfl) <|
      .cons (.fire (by decide)) <| .nil _, ⟨rfl, rfl⟩, rfl, ?_, ?_⟩
    · intro thread
      by_cases hthread : thread = 0
      · subst hthread
        rfl
      · simp [assign, withHandles, place, turn, start, hthread, Call.left]
    · intro op cause
      by_cases hone : op = 1
      · subst hone
        show Footing.waits false false ≠ _
        simp
      · by_cases hzero : op = 0
        · subst hzero
          show Footing.heard _ ≠ _
          simp
        · simp [assign, withHandles, place, turn, start, hone, hzero]
  have howed : ¬s.Owed 1 := by
    rintro (⟨thread, hleft⟩ | ⟨op, hlosing⟩)
    · rw [hcalls] at hleft
      cases hleft
    · exact hfooting op _ hlosing
  obtain ⟨hstands, -⟩ := close_strands_no_operation hrun
  rcases hstands 1 2 _ _ _ .stream 1 hat rfl howed with hopen | ⟨-, hends⟩
  · rw [hclosed] at hopen
    cases hopen
  · obtain ⟨t, hlater, hafter⟩ := hends rfl
    exact ⟨_, s, t, hrun, hat, hclosed, hlater, hafter⟩

end Shared
end ScriptHost.Network
