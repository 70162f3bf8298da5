import Mathlib.Data.List.Perm.Basic
import ScriptHost.Proofs.Network.Ledger

/-!
# Handles are opened once and closed once

An operation that loses its connection takes it out of its table for itself.  A call of a thread
takes out one handle or all that are open, and has them to its credit when it returns; in between
nobody else has them (`Credited`).  By then the call has fired their signals and has done nothing
else (`Underway`).  A call that finds nothing has nothing to fire, and nothing has been changed.
-/

namespace ScriptHost.Network

/-- The handles that the call of a thread has taken out of their tables. -/
def Call.taken : Call → List Nat
  | .none => []
  | .closing _ id found _ => if found then [id] else []
  | .closingAll taken _ => taken

/-- The move with which a call has begun. -/
def Call.opening? : Call → Option Move
  | .none => Option.none
  | .closing kind id found _ => some (.detach kind id found)
  | .closingAll taken _ => some (.detachAll taken)

/-- The handles that are credited to somebody with an event: to an operation that removes its
connection, or to a call that returns. -/
def Event.credits : Event → List Nat
  | .op _ (.remove id found) | .thread _ (.answer _ id found) => if found then [id] else []
  | .thread _ (.answerAll taken) => taken
  | _ => []

/-- The handles that have been credited to somebody. -/
def credits (events : List Event) : List Nat := events.flatMap Event.credits

@[simp] theorem credits_append (events later : List Event) :
    credits (events ++ later) = credits events ++ credits later := List.flatMap_append

@[simp] theorem credits_singleton (e : Event) : credits [e] = e.credits :=
  List.flatMap_singleton ..

theorem Call.taken_fire (call : Call) (id : Nat) : (call.fire id).taken = call.taken := by
  cases call <;> rfl

theorem Call.opening?_fire (call : Call) (id : Nat) : (call.fire id).opening? = call.opening? := by
  cases call <;> rfl

namespace Shared

variable {α : Type} {s t : Shared α} {e : Event} {events : List Event} {settings : NetworkSettings}

/-! ## Who has a handle to its credit -/

/-- The three ways of an event with what has been taken out: who takes it out has it to its credit
at once, or a call takes it out, or a call returns and has it to its credit. -/
theorem Step.credit (h : Step s e t) :
    e.removes = e.credits ∧ (∀ thread, (t.call thread).taken = (s.call thread).taken) ∨
    ∃ thread, (∀ other, other ≠ thread → (t.call other).taken = (s.call other).taken) ∧
      (e.credits = [] ∧ (s.call thread).taken = [] ∧ (t.call thread).taken = e.removes ∨
        e.removes = [] ∧ (s.call thread).taken = e.credits ∧ (t.call thread).taken = []) := by
  cases e with
  | op op act =>
      refine .inl ⟨by cases act <;> rfl, fun thread => ?_⟩
      rcases h.calls thread with ⟨-, hsame⟩ | ⟨move, heq, -⟩
      · rw [hsame]
      · cases heq
  | numbered | aside =>
      refine .inl ⟨rfl, fun thread => ?_⟩
      rcases h.calls thread with ⟨-, hsame⟩ | ⟨move, heq, -⟩
      · rw [hsame]
      · cases heq
  | thread thread move =>
      have hothers : ∀ other, other ≠ thread → (t.call other).taken = (s.call other).taken := by
        intro other hother
        rcases h.calls other with ⟨-, hsame⟩ | ⟨move, heq, -⟩
        · rw [hsame]
        · exact absurd (Event.thread.inj heq).1.symm hother
      have hcalls := h.ownCall
      generalize hbefore : s.call thread = before at hcalls
      generalize hafter : t.call thread = after at hcalls
      cases hcalls with
      | detach | detachAll =>
          exact .inr ⟨thread, hothers, .inl ⟨rfl, by rw [hbefore]; rfl, by rw [hafter]; rfl⟩⟩
      | answer | answerAll =>
          exact .inr ⟨thread, hothers, .inr ⟨rfl, by rw [hbefore]; rfl, by rw [hafter]; rfl⟩⟩
      | fire =>
          -- what the call has taken stays, only what it still has to fire changes
          refine .inl ⟨rfl, fun other => ?_⟩
          by_cases hother : other = thread
          · rw [hother, hafter, Call.taken_fire, hbefore]
          · exact hothers other hother

/-- What has been taken out is to somebody's credit, or a call has still to return with it.  The
threads listed are the only ones that are in such a call. -/
structure Credited (events : List Event) (s : Shared α) (busy : List Nat) : Prop where
  nodup : busy.Nodup
  taken_of_not_mem : ∀ thread, thread ∉ busy → (s.call thread).taken = []
  perm : (removals events).Perm
    (credits events ++ busy.flatMap fun thread => (s.call thread).taken)

/-- Any thread may be put first in the list. -/
theorem Credited.head {busy : List Nat} (h : Credited events s busy) (thread : Nat) :
    ∃ rest, Credited events s (thread :: rest) := by
  by_cases hmem : thread ∈ busy
  · have hperm := List.perm_cons_erase hmem
    refine ⟨_, hperm.nodup_iff.1 h.nodup, ?_, h.perm.trans ?_⟩
    · exact fun j hj => h.taken_of_not_mem j fun hbusy => hj (hperm.mem_iff.1 hbusy)
    · exact (hperm.flatMap fun _ _ => .refl _).append_left _
  · refine ⟨busy, List.nodup_cons.2 ⟨hmem, h.nodup⟩, ?_, ?_⟩
    · exact fun j hj => h.taken_of_not_mem j fun hbusy => hj (List.mem_cons_of_mem _ hbusy)
    · rw [List.flatMap_cons, h.taken_of_not_mem thread hmem]
      exact h.perm

theorem Credited.step {busy : List Nat} (h : Credited events s busy) (step : Step s e t) :
    ∃ busy, Credited (events ++ [e]) t busy := by
  rcases step.credit with ⟨hcredits, hsame⟩ | ⟨thread, hsame, hmove⟩
  · refine ⟨busy, h.nodup, fun j hj => (hsame j).trans (h.taken_of_not_mem j hj), ?_⟩
    simp only [removals_append, removals_singleton, credits_append, credits_singleton, hsame,
      hcredits, List.append_assoc]
    refine (h.perm.append_right _).trans ?_
    rw [List.append_assoc]
    exact List.perm_append_comm.append_left _
  · obtain ⟨rest, hnodup, hothers, hperm⟩ := h.head thread
    have hnot := (List.nodup_cons.1 hnodup).1
    have hrest : (rest.flatMap fun j => (t.call j).taken) =
        rest.flatMap fun j => (s.call j).taken :=
      List.flatMap_congr fun j hj => hsame j fun heq => hnot (heq ▸ hj)
    refine ⟨thread :: rest, hnodup, ?_, ?_⟩
    · intro j hj
      rw [hsame j fun heq => hj (heq ▸ List.mem_cons_self)]
      exact hothers j hj
    · rw [removals_append, removals_singleton, credits_append, credits_singleton, List.flatMap_cons,
        hrest]
      rw [List.flatMap_cons] at hperm
      rcases hmove with ⟨hcredits, hfree, htaken⟩ | ⟨hremoves, hcredits, hfree⟩
      · rw [hfree, List.nil_append] at hperm
        rw [hcredits, htaken, List.append_nil]
        refine (hperm.append_right _).trans ?_
        rw [List.append_assoc]
        exact List.perm_append_comm.append_left _
      · rw [hcredits] at hperm
        rw [hremoves, hfree, List.append_nil, List.nil_append, List.append_assoc]
        exact hperm

theorem Run.credited (h : Run (start settings) events s) :
    ∃ busy, Credited events s busy :=
  Run.history (P := fun events s => ∃ busy, Credited events s busy)
    ⟨[], List.nodup_nil, fun _ _ => rfl, .refl _⟩
    (fun _ ⟨_, hcredited⟩ step => hcredited.step step) h

/-! ## What finds nothing -/

/-- A look at the tables that finds nothing leaves everything as it is. -/
theorem Step.same_of_not_found (h : Step s e t)
    (hevent : (∃ op id, e = .op op (.remove id false)) ∨
      ∃ thread kind id, e = .thread thread (.detach kind id false)) :
    t.network = s.network ∧ t.queue = s.queue := by
  have hdetach : ∀ {kind : Kind} {id : Nat}, (s.network.handles.detach kind id).1 = false →
      { s.network with handles := (s.network.handles.detach kind id).2 } = s.network := by
    intro kind id hfound
    rw [Handles.detach_fst] at hfound
    rw [Handles.detach_of_not_open hfound]
  rcases hevent with ⟨op, id, hevent⟩ | ⟨thread, kind, id, hevent⟩
  · cases h with
    | remove => exact ⟨hdetach (Act.remove.inj (Event.op.inj hevent).2).2, rfl⟩
    | _ => cases hevent
  · cases h with
    | detach => exact ⟨hdetach (Move.detach.inj (Event.thread.inj hevent).2).2.2, rfl⟩
    | _ => cases hevent

/-! ## What a call has done

A call begins with one look at the tables, and then does nothing but fire the signals of what it has
taken out. -/

/-- A run from the start in which a thread has begun a call in a state `s₀`, and is in it. -/
structure Underway (settings : NetworkSettings) (thread : Nat) (opening : Move) (call : Call)
    (earlier : List Event) (s₀ s₁ : Shared α) (since : List Event) (s : Shared α) : Prop where
  reached : Run (start settings) earlier s₀
  opened : Step s₀ (.thread thread opening) s₁
  going : Run s₁ since s
  only_fires : ∀ move, .thread thread move ∈ since → ∃ id ∈ call.taken, move = .fire id
  left_taken : ∀ id ∈ call.left, id ∈ call.taken
  fired : ∀ id ∈ call.taken, id ∈ call.left ∨ .thread thread (.fire id) ∈ since

section

variable {thread : Nat} {opening : Move} {call : Call} {earlier since : List Event}
  {s₀ s₁ : Shared α}

/-- Others go on while a call is under way. -/
theorem Underway.other (h : Underway settings thread opening call earlier s₀ s₁ since s)
    (step : Step s e t) (hother : ∀ move, e ≠ .thread thread move) :
    Underway settings thread opening call earlier s₀ s₁ (since ++ [e]) t where
  reached := h.reached
  opened := h.opened
  going := h.going.snoc step
  only_fires move hmem := by
    rw [List.mem_append, List.mem_singleton] at hmem
    exact h.only_fires move (hmem.resolve_right fun heq => hother move heq.symm)
  left_taken := h.left_taken
  fired id hid := (h.fired id hid).imp_right (List.mem_append_left _)

theorem Underway.fire (h : Underway settings thread opening call earlier s₀ s₁ since s) {id : Nat}
    (step : Step s (.thread thread (.fire id)) t) (hleft : id ∈ call.left) :
    Underway settings thread opening (call.fire id) earlier s₀ s₁
      (since ++ [.thread thread (.fire id)]) t where
  reached := h.reached
  opened := h.opened
  going := h.going.snoc step
  only_fires move hmem := by
    rw [Call.taken_fire]
    rcases List.mem_append.1 hmem with hmem | hmem
    · exact h.only_fires move hmem
    · exact ⟨id, h.left_taken id hleft, (Event.thread.inj (List.mem_singleton.1 hmem)).2⟩
  left_taken j hj := by
    rw [Call.left_fire] at hj
    rw [Call.taken_fire]
    exact h.left_taken j (List.mem_of_mem_erase hj)
  fired j hj := by
    rw [Call.taken_fire] at hj
    rw [Call.left_fire]
    by_cases hid : j = id
    · exact .inr (by simp [hid])
    · exact (h.fired j hj).imp (List.mem_erase_of_ne hid).2 (List.mem_append_left _)

end

/-- A thread is in the call that it has begun last. -/
theorem Run.underway (h : Run (start settings) events s) (thread : Nat) (opening : Move)
    (hopening : (s.call thread).opening? = some opening) :
    ∃ earlier s₀ s₁ since, events = earlier ++ .thread thread opening :: since ∧
      Underway settings thread opening (s.call thread) earlier s₀ s₁ since s := by
  refine Run.history (P := fun events s => (s.call thread).opening? = some opening →
    ∃ earlier s₀ s₁ since, events = earlier ++ .thread thread opening :: since ∧
      Underway settings thread opening (s.call thread) earlier s₀ s₁ since s) ?_ ?_ h hopening
  · intro hnone
    cases hnone
  · intro events s t e hrun ih step hopening
    rcases step.calls thread with ⟨hother, hsame⟩ | ⟨move, rfl, hcalls⟩
    · rw [hsame] at hopening ⊢
      obtain ⟨earlier, s₀, s₁, since, rfl, hunderway⟩ := ih hopening
      exact ⟨earlier, s₀, s₁, since ++ [e], by simp, hunderway.other step hother⟩
    · generalize hbefore : s.call thread = before at hcalls
      generalize hafter : t.call thread = after at hcalls hopening
      cases hcalls with
      | detach | detachAll =>
          -- the call begins with this step, and has fired nothing yet
          cases hopening
          refine ⟨events, s, t, [], rfl, hrun, step, .nil t, fun _ hmem => (by cases hmem), ?_, ?_⟩
          · exact fun _ hid => hid
          · exact fun _ hid => .inl hid
      | fire hleft =>
          rw [Call.opening?_fire, ← hbefore] at hopening
          obtain ⟨earlier, s₀, s₁, since, rfl, hunderway⟩ := ih hopening
          rw [hbefore] at hunderway
          exact ⟨earlier, s₀, s₁, _, by simp, hunderway.fire step hleft⟩
      | answer | answerAll => cases hopening

/-! ## Operations that lose their connection -/

theorem Step.waiting_of_remove {op id : Nat} {found : Bool}
    (h : Step s (.op op (.remove id found)) t) :
    ∃ completion request cause, s.At op completion request .waiting (.heard (.loses id cause)) := by
  cases h with
  | remove hat => exact ⟨_, _, _, hat⟩

/-- An operation that is to lose a connection works on this connection. -/
theorem handle?_of_losing {acts : List Act} {here : Standing} (h : Course acts here)
    {o : Operation} {id : Nat} {cause : IoFault}
    (hhere : here = (some o, .heard (.loses id cause))) :
    o.request.handle? = some (.stream, id) := by
  cases h with
  | nil => cases hhere
  | snoc _ goes =>
      cases goes with
      | hear r =>
          obtain ⟨hsome, hheard⟩ := Prod.mk.inj hhere
          cases hsome
          exact Request.handle?_of_loses (Footing.heard.inj hheard)
      | start | refuse | find | ask | watch | giveUp | draw | enter | remove | miss | signal
      | settle | queue | uncount | finish | drop => cases hhere

/-- An operation that has taken its connection out does nothing before it has fired the signal. -/
theorem losing_or_signal {acts : List Act} {here : Standing} (h : Course acts here) {id : Nat}
    (hmem : .remove id true ∈ acts) :
    (∃ cause, here.2 = .losing id cause) ∨ .signal id ∈ acts := by
  induction h with
  | nil => cases hmem
  | snoc _ goes ih =>
      rw [List.mem_append, List.mem_singleton] at hmem
      rcases hmem with hmem | rfl
      · rcases ih hmem with ⟨cause, hlosing⟩ | hsignal
        · cases goes with
          | signal =>
              cases hlosing
              exact .inr (by simp)
          | drop hsteady =>
              obtain rfl := hlosing
              cases hsteady
          | start | refuse | find | ask | watch | giveUp | hear | draw | enter | remove | miss
          | settle | queue | uncount | finish => cases hlosing
        · exact .inr (List.mem_append_left _ hsignal)
      · cases goes with
        | remove => exact .inl ⟨_, rfl⟩

/-! ## The whole of it -/

/-- What a call has done that is about to answer. -/
theorem Run.answer (h : Run (start settings) events s)
    {thread id : Nat} {kind : Kind} {found : Bool}
    (step : Step s (.thread thread (.answer kind id found)) t) :
    ∃ earlier s₀ s₁ since, events = earlier ++ .thread thread (.detach kind id found) :: since ∧
      Underway settings thread (.detach kind id found) (.closing kind id found []) earlier s₀ s₁
        since s ∧
      found = s₀.network.handles.isOpen kind id ∧
      (∀ other j, s₁.network.handles.isOpen other j = true ↔
        s₀.network.handles.isOpen other j = true ∧ ¬(found = true ∧ j = id)) ∧
      (found = true → .thread thread (.fire id) ∈ since ∧
        s.network.handles.isSignalled id = true) ∧
      (found = false → s₁.network = s₀.network ∧ s₁.queue = s₀.queue ∧
        ∀ move, .thread thread move ∉ since) ∧
      t.network = s.network ∧ t.queue = s.queue := by
  cases step with
  | answer hcall =>
      obtain ⟨earlier, s₀, s₁, since, hevents, hunderway⟩ :=
        h.underway thread (.detach kind id found) (by rw [hcall]; rfl)
      rw [hcall] at hunderway
      have hfound : found = s₀.network.handles.isOpen kind id := hunderway.opened.tells
      refine ⟨earlier, s₀, s₁, since, hevents, hunderway, hfound, ?_, ?_, ?_, rfl, rfl⟩
      · intro other j
        rw [hunderway.opened.handles, hfound]
        exact s₀.network.handles.isOpen_detach kind other id j
      · rintro rfl
        have hfire := (hunderway.fired id (by simp [Call.taken])).resolve_left (by simp [Call.left])
        exact ⟨hfire, hunderway.going.isSignalled (.inr ⟨_, hfire, rfl⟩)⟩
      · rintro rfl
        have hsame := hunderway.opened.same_of_not_found (.inr ⟨thread, kind, id, rfl⟩)
        refine ⟨hsame.1, hsame.2, fun move hmem => ?_⟩
        obtain ⟨j, hj, -⟩ := hunderway.only_fires move hmem
        simp [Call.taken] at hj

/-- What a call has done that is about to answer how many handles it has closed. -/
theorem Run.answerAll (h : Run (start settings) events s)
    {thread : Nat} {taken : List Nat} (step : Step s (.thread thread (.answerAll taken)) t) :
    ∃ earlier s₀ s₁ since, events = earlier ++ .thread thread (.detachAll taken) :: since ∧
      Underway settings thread (.detachAll taken) (.closingAll taken []) earlier s₀ s₁ since s ∧
      (∀ id, id ∈ taken ↔ ∃ kind, s₀.network.handles.isOpen kind id = true) ∧
      taken.length = s₀.network.handles.connections + s₀.network.handles.listeners ∧
      (∀ kind id, s₁.network.handles.isOpen kind id = false) ∧
      (∀ id ∈ taken, .thread thread (.fire id) ∈ since ∧
        s.network.handles.isSignalled id = true) ∧
      t.network = s.network ∧ t.queue = s.queue := by
  cases step with
  | answerAll hcall =>
      obtain ⟨earlier, s₀, s₁, since, hevents, hunderway⟩ :=
        h.underway thread (.detachAll taken) (by rw [hcall]; rfl)
      rw [hcall] at hunderway
      have hkeys : taken = s₀.network.handles.table.keys := hunderway.opened.tells
      refine ⟨earlier, s₀, s₁, since, hevents, hunderway, ?_, ?_, ?_, ?_, rfl, rfl⟩
      · intro id
        simp only [Handles.isOpen_iff]
        rw [hkeys, ← Table.contains_iff, Table.contains, Option.isSome_iff_exists]
      · rw [← Handles.size_eq, hkeys]
        exact List.length_map _
      · intro kind id
        rw [hunderway.opened.handles]
        rfl
      · intro id hid
        have hfire := (hunderway.fired id hid).resolve_left (by simp [Call.left])
        exact ⟨hfire, hunderway.going.isSignalled (.inr ⟨_, hfire, rfl⟩)⟩

/-- **Handles are opened once and closed once**, whatever operations and threads do in between.

A number is given to one handle, whatever its kind is, and this handle leaves its table at most
once.  What has left the tables is to the credit of one party each: of the operation that has
removed its connection, of a call that has answered that the handle was open, or of one that has
answered how many it has closed; or the party is a call that has still to return.  So what is open
are the handles opened less those taken out.

An operation removes nothing but its own connection, and if it finds the connection gone it changes
nothing.  After a removal it does nothing before it has fired the signal.  A call that answers has
found what it says, and has fired the signals of all that it has taken out; if that is nothing, it
has changed nothing. -/
theorem handles_opened_once_and_closed_once (hrun : Run (start settings) events s) :
    Ledger events s ∧ (∃ busy, Credited events s busy) ∧
    s.network.handles.connections + s.network.handles.listeners + (removals events).length =
      (issued events).length ∧
    (∀ op id found t, Step s (.op op (.remove id found)) t →
      (∃ completion request, request.handle? = some (.stream, id) ∧
        s.network.operations.get? op = some ⟨completion, request, .waiting⟩) ∧
      found = s.network.handles.isOpen .stream id ∧
      (∀ kind j, t.network.handles.isOpen kind j = true ↔
        s.network.handles.isOpen kind j = true ∧ ¬(found = true ∧ j = id)) ∧
      (found = false → t.network = s.network ∧ t.queue = s.queue)) ∧
    (∀ op id, .op op (.remove id true) ∈ events → (∃ cause, s.footing op = .losing id cause) ∨
      .op op (.signal id) ∈ events ∧ s.network.handles.isSignalled id = true) ∧
    (∀ thread kind id found t, Step s (.thread thread (.answer kind id found)) t →
      ∃ earlier s₀ s₁ since, events = earlier ++ .thread thread (.detach kind id found) :: since ∧
        Underway settings thread (.detach kind id found) (.closing kind id found []) earlier s₀ s₁
          since s ∧
        found = s₀.network.handles.isOpen kind id ∧
        (∀ other j, s₁.network.handles.isOpen other j = true ↔
          s₀.network.handles.isOpen other j = true ∧ ¬(found = true ∧ j = id)) ∧
        (found = true → .thread thread (.fire id) ∈ since ∧
          s.network.handles.isSignalled id = true) ∧
        (found = false → s₁.network = s₀.network ∧ s₁.queue = s₀.queue ∧
          ∀ move, .thread thread move ∉ since) ∧
        t.network = s.network ∧ t.queue = s.queue) ∧
    ∀ thread taken t, Step s (.thread thread (.answerAll taken)) t →
      ∃ earlier s₀ s₁ since, events = earlier ++ .thread thread (.detachAll taken) :: since ∧
        Underway settings thread (.detachAll taken) (.closingAll taken []) earlier s₀ s₁ since s ∧
        (∀ id, id ∈ taken ↔ ∃ kind, s₀.network.handles.isOpen kind id = true) ∧
        taken.length = s₀.network.handles.connections + s₀.network.handles.listeners ∧
        (∀ kind id, s₁.network.handles.isOpen kind id = false) ∧
        (∀ id ∈ taken, .thread thread (.fire id) ∈ since ∧
          s.network.handles.isSignalled id = true) ∧
        t.network = s.network ∧ t.queue = s.queue := by
  refine ⟨hrun.ledger, hrun.credited, ?_, ?_, ?_, fun _ _ _ _ _ step => hrun.answer step,
    fun _ _ _ step => hrun.answerAll step⟩
  · rw [← Handles.size_eq]
    exact hrun.ledger.balance
  · intro op id found t step
    have hfound : found = s.network.handles.isOpen .stream id := step.tells
    obtain ⟨completion, request, cause, hat⟩ := step.waiting_of_remove
    refine ⟨⟨completion, request, handle?_of_losing (hrun.course op) hat.standing, hat.operation⟩,
      hfound, ?_, ?_⟩
    · intro kind j
      rw [step.handles, hfound]
      exact s.network.handles.isOpen_detach .stream kind id j
    · rintro rfl
      exact step.same_of_not_found (.inl ⟨op, id, rfl⟩)
  · intro op id hmem
    rcases losing_or_signal (hrun.course op) ((mem_acts op events _).2 hmem) with hlosing | hsignal
    · exact .inl hlosing
    · have hevent := (mem_acts op events _).1 hsignal
      exact .inr ⟨hevent, hrun.isSignalled (.inr ⟨_, hevent, rfl⟩)⟩

/-- A read sees the end of its stream, and a thread closes the connection before the read does. -/
theorem connection_closed_before_it_is_lost :
    ∃ (events : List Event) (s t : Shared Unit), Run (start default) events s ∧
      Step s (.thread 0 (.answer .stream 1 true)) t ∧
      .op 1 (.remove 1 false) ∈ events ∧ removals events = [1] ∧
      s.network.handles.connections + s.network.handles.listeners + [1].length = 1 ∧
      s.network.handles.isSignalled 1 = true := by
  obtain ⟨s, hrun, hcall⟩ :
      ∃ s : Shared Unit, Run (start default)
        [.numbered 1, .op 0 (.start 1 (.connect "peer" 80)), .op 0 .find, .op 0 (.hear .connected),
          .op 0 (.draw 1), .op 0 (.enter .stream 1),
          .numbered 2, .op 1 (.start 2 (.read 1 16)), .op 1 .find, .op 1 .ask,
          .op 1 (.hear (.bytes ⟨#[]⟩)), .thread 0 (.detach .stream 1 true),
          .op 1 (.remove 1 false), .thread 0 (.fire 1)] s ∧
        s.call 0 = .closing .stream 1 true [] :=
    ⟨_, .cons (.number ()) <| .cons (.start _ (by decide)) <| .cons (.find ⟨rfl, rfl⟩ rfl) <|
      .cons (.hear ⟨rfl, rfl⟩ (fun _ h => by cases h) _) <| .cons (.draw ⟨rfl, rfl⟩) <|
      .cons (.enter ⟨rfl, rfl⟩) <| .cons (.number ()) <| .cons (.start _ (by decide)) <|
      .cons (.find ⟨rfl, rfl⟩ rfl) <| .cons (.ask ⟨rfl, rfl⟩ rfl) <|
      .cons (.hear ⟨rfl, rfl⟩ (fun _ h => by cases h; rfl) _) <| .cons (.detach .stream 1 rfl) <|
      .cons (.remove ⟨rfl, rfl⟩) <| .cons (.fire (by decide)) <| .nil _, rfl⟩
  obtain ⟨-, -, hbalance, -, -, hanswer, -⟩ := handles_opened_once_and_closed_once hrun
  obtain ⟨_, _, _, _, -, -, -, -, hfound, -⟩ := hanswer 0 .stream 1 true _ (.answer hcall)
  exact ⟨_, s, _, hrun, .answer hcall, by simp, rfl, hbalance, (hfound rfl).2⟩

end Shared
end ScriptHost.Network
