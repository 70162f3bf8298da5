import ScriptHost.Proofs.Network.Course

/-!
# The record of an operation

What an operation has returned, and what it has queued, is a matter of where it stands (`Record`):
it returns once, it queues what it has returned once, and only then it is counted no more.  Every
exit of every operation leads through the same stages, since what a reply leaves to do ends in a
return in any case.  A result that names a handle is made from the number of the handle, and by then
the handle has entered its table.
-/

namespace ScriptHost.Network

open Ready (Callback Outcome)

/-- What an operation returns with a step. -/
def Act.result? : Act → Option Result
  | .refuse cause => some (.error cause)
  | .giveUp id => some (.error (.closed id))
  | .settle result => some result
  | _ => none

/-- The callback that an operation queues with a step. -/
def Act.callback? : Act → Option Callback
  | .queue callback => some callback
  | _ => none

/-- An operation starts with a step. -/
def Act.IsStart : Act → Prop
  | .start _ _ => True
  | _ => False

/-- What an operation has returned. -/
def results (acts : List Act) : List Result := acts.filterMap Act.result?

/-- The callbacks that an operation has queued. -/
def callbacks (acts : List Act) : List Callback := acts.filterMap Act.callback?

theorem results_snoc (acts : List Act) (act : Act) :
    results (acts ++ [act]) = results acts ++ act.result?.toList :=
  filterMap_snoc Act.result? acts act

theorem callbacks_snoc (acts : List Act) (act : Act) :
    callbacks (acts ++ [act]) = callbacks acts ++ act.callback?.toList :=
  filterMap_snoc Act.callback? acts act

/-- An operation has not returned and has queued nothing. -/
structure Quiet (acts : List Act) : Prop where
  results : results acts = []
  callbacks : callbacks acts = []

/-- An operation has returned, and a handle that its outcome names has entered its table. -/
structure Returned (request : Request) (acts : List Act) (result : Result) : Prop where
  results : results acts = [result]
  honest : Honest result
  named : ∀ kind id, request.named? (ofResult result) = some (kind, id) → .enter kind id ∈ acts

/-- What an operation has done, where it stands so. -/
inductive Record (completion : Nat) (request : Request) : List Act → Standing → Prop where
  | spawned {acts : List Act} (hquiet : Quiet acts) :
      Record completion request acts (some ⟨completion, request, .spawned⟩, .none)
  | waits {acts : List Act} {asked watching : Bool} (hquiet : Quiet acts) :
      Record completion request acts
        (some ⟨completion, request, .waiting⟩, .waits asked watching)
  | heard {acts : List Act} {conclusion : Conclusion} (hquiet : Quiet acts)
      (hfits : conclusion.Fits request fun kind id => .enter kind id ∈ acts) :
      Record completion request acts (some ⟨completion, request, .waiting⟩, .heard conclusion)
  | drawn {acts : List Act} {kind : Kind} {id : Nat} {outcome : Outcome} (hquiet : Quiet acts)
      (hsuccess : outcome.isSuccess = true) (hnamed : request.named? outcome = some (kind, id)) :
      Record completion request acts
        (some ⟨completion, request, .waiting⟩, .drawn kind id outcome)
  | losing {acts : List Act} {id : Nat} {cause : IoFault} (hquiet : Quiet acts) :
      Record completion request acts (some ⟨completion, request, .waiting⟩, .losing id cause)
  | finished {acts : List Act} {result : Result} (hcallbacks : callbacks acts = [])
      (hreturned : Returned request acts result) :
      Record completion request acts
        (some ⟨completion, request, .finished (ofResult result)⟩, .none)
  | queued {acts : List Act} {result : Result}
      (hcallbacks : callbacks acts = [.completion completion (ofResult result)])
      (hreturned : Returned request acts result) :
      Record completion request acts (some ⟨completion, request, .queued⟩, .none)
  | leaving {acts : List Act} {result : Result}
      (hcallbacks : callbacks acts = [.completion completion (ofResult result)])
      (hreturned : Returned request acts result) :
      Record completion request (acts ++ [.uncount]) (none, .leaving)
  | ended {acts : List Act} {result : Result}
      (hcallbacks : callbacks acts = [.completion completion (ofResult result)])
      (hreturned : Returned request acts result) :
      Record completion request (acts ++ [.uncount] ++ [.finish]) (none, .ended)
  | dropped {acts : List Act} {ran : Bool} (hdropped : .drop ran ∈ acts)
      (hcallbacks : callbacks acts = [] ∨
        ∃ outcome, callbacks acts = [.completion completion outcome]) :
      Record completion request acts (none, .ended)

section

variable {completion : Nat} {request : Request} {acts : List Act} {here there : Standing}
  {act : Act} {result : Result}

theorem Quiet.snoc (h : Quiet acts) (hresult : act.result? = none)
    (hcallback : act.callback? = none) : Quiet (acts ++ [act]) where
  results := by rw [results_snoc, h.results, hresult]; rfl
  callbacks := by rw [callbacks_snoc, h.callbacks, hcallback]; rfl

theorem Quiet.returned (h : Quiet acts) (hresult : act.result? = some result)
    (honest : Honest result)
    (hnamed : ∀ kind id, request.named? (ofResult result) = some (kind, id) →
      .enter kind id ∈ acts) : Returned request (acts ++ [act]) result where
  results := by rw [results_snoc, h.results, hresult]; rfl
  honest := honest
  named kind id hname := List.mem_append_left _ (hnamed kind id hname)

theorem callbacks_snoc_of_none (acts : List Act) (hcallback : act.callback? = none) :
    callbacks (acts ++ [act]) = callbacks acts := by
  rw [callbacks_snoc, hcallback]
  exact List.append_nil _

/-- A failure is returned as such and names no handle. -/
theorem Quiet.failed (h : Quiet acts) {cause : NetworkFault}
    (hresult : act.result? = some (.error cause)) :
    Returned request (acts ++ [act]) (.error cause) :=
  h.returned hresult (fun _ herror => by cases herror) fun kind id hname => by
    rw [ofResult, Request.named?_failed] at hname
    cases hname

theorem Returned.snoc (h : Returned request acts result) (hresult : act.result? = none) :
    Returned request (acts ++ [act]) result where
  results := by rw [results_snoc, h.results, hresult]; rfl
  honest := h.honest
  named kind id hname := List.mem_append_left _ (h.named kind id hname)

/-- The record after a step.  No operation starts twice. -/
theorem Record.goes (h : Record completion request acts here) (goes : Goes here act there) :
    Record completion request (acts ++ [act]) there ∧ ¬act.IsStart := by
  cases goes with
  | start => cases h
  | refuse cause =>
      cases h with
      | spawned hquiet =>
          exact ⟨.finished ((callbacks_snoc_of_none _ rfl).trans hquiet.callbacks)
            (hquiet.failed rfl), id⟩
  | find =>
      cases h with
      | spawned hquiet => exact ⟨.waits (hquiet.snoc rfl rfl), id⟩
  | ask | watch =>
      cases h with
      | waits hquiet => exact ⟨.waits (hquiet.snoc rfl rfl), id⟩
  | giveUp =>
      cases h with
      | waits hquiet =>
          exact ⟨.finished ((callbacks_snoc_of_none _ rfl).trans hquiet.callbacks)
            (hquiet.failed rfl), id⟩
  | hear r =>
      cases h with
      | waits hquiet => exact ⟨.heard (hquiet.snoc rfl rfl) (request.fits_conclusion r _), id⟩
  | draw id' =>
      cases h with
      | heard hquiet hfits =>
          obtain ⟨hsuccess, hnamed⟩ := hfits id'
          exact ⟨.drawn (hquiet.snoc rfl rfl) hsuccess hnamed, id⟩
  | enter =>
      cases h with
      | drawn hquiet hsuccess hnamed =>
          -- the handle that the outcome names enters its table with this very step
          refine ⟨.heard (hquiet.snoc rfl rfl) ⟨?_, ?_⟩, id⟩
          · rintro outcome ⟨⟩
            exact hsuccess
          · intro kind id hname
            cases hnamed.symm.trans hname
            exact List.mem_append_right _ (List.mem_singleton_self _)
  | remove =>
      cases h with
      | heard hquiet => exact ⟨.losing (hquiet.snoc rfl rfl), id⟩
  | miss =>
      cases h with
      | heard hquiet =>
          refine ⟨.heard (hquiet.snoc rfl rfl) ⟨fun _ h => (by cases h), ?_⟩, id⟩
          simp [ofResult, Request.named?_failed]
  | signal =>
      cases h with
      | losing hquiet =>
          refine ⟨.heard (hquiet.snoc rfl rfl) ⟨fun _ h => (by cases h), ?_⟩, id⟩
          simp [ofResult, Request.named?_failed]
  | settle =>
      cases h with
      | heard hquiet hfits =>
          exact ⟨.finished ((callbacks_snoc_of_none _ rfl).trans hquiet.callbacks)
            (hquiet.returned rfl hfits.1 hfits.2), id⟩
  | queue =>
      cases h with
      | finished hcallbacks hreturned =>
          refine ⟨.queued ?_ (hreturned.snoc rfl), id⟩
          rw [callbacks_snoc, hcallbacks]
          rfl
  | uncount =>
      cases h with
      | queued hcallbacks hreturned => exact ⟨.leaving hcallbacks hreturned, id⟩
  | finish =>
      cases h with
      | leaving hcallbacks hreturned => exact ⟨.ended hcallbacks hreturned, id⟩
  | drop hsteady =>
      refine ⟨.dropped (List.mem_append_right _ (List.mem_singleton_self _)) ?_, id⟩
      rw [callbacks_snoc_of_none _ rfl]
      -- wherever it is dropped, it has queued nothing or just its callback
      cases h with
      | spawned hquiet | waits hquiet | heard hquiet => exact .inl hquiet.callbacks
      | finished hcallbacks => exact .inl hcallbacks
      | queued hcallbacks => exact .inr ⟨_, hcallbacks⟩
      | drawn | losing => cases hsteady

/-- What an operation has queued is its own completion, once. -/
theorem Record.callbacks (h : Record completion request acts here) :
    callbacks acts = [] ∨ ∃ outcome, callbacks acts = [.completion completion outcome] := by
  cases h with
  | spawned hquiet | waits hquiet | heard hquiet | drawn hquiet | losing hquiet =>
      exact .inl hquiet.callbacks
  | finished hcallbacks => exact .inl hcallbacks
  | queued hcallbacks => exact .inr ⟨_, hcallbacks⟩
  | leaving hcallbacks =>
      rw [callbacks_snoc_of_none _ rfl]
      exact .inr ⟨_, hcallbacks⟩
  | ended hcallbacks =>
      rw [callbacks_snoc_of_none _ rfl, callbacks_snoc_of_none _ rfl]
      exact .inr ⟨_, hcallbacks⟩
  | dropped _ hcallbacks => exact hcallbacks

/-- What an operation has queued is what it has returned, and it has queued it if it is counted no
more. -/
theorem Record.returned (h : Record completion request acts here)
    (hkept : ∀ ran, .drop ran ∉ acts) :
    Network.callbacks acts = [] ∧ here.1 ≠ none ∨ ∃ result, Returned request acts result ∧
      Network.callbacks acts = [.completion completion (ofResult result)] := by
  cases h with
  | spawned hquiet | waits hquiet | heard hquiet | drawn hquiet | losing hquiet =>
      exact .inl ⟨hquiet.callbacks, Option.some_ne_none _⟩
  | finished hcallbacks => exact .inl ⟨hcallbacks, Option.some_ne_none _⟩
  | queued hcallbacks hreturned => exact .inr ⟨_, hreturned, hcallbacks⟩
  | leaving hcallbacks hreturned =>
      rw [callbacks_snoc_of_none _ rfl]
      exact .inr ⟨_, hreturned.snoc rfl, hcallbacks⟩
  | ended hcallbacks hreturned =>
      rw [callbacks_snoc_of_none _ rfl, callbacks_snoc_of_none _ rfl]
      exact .inr ⟨_, (hreturned.snoc rfl).snoc rfl, hcallbacks⟩
  | dropped hdropped => exact absurd hdropped (hkept _)

end

/-- Whatever an operation has done, it has started first, and there is a record of the rest. -/
theorem Course.record {acts : List Act} {here : Standing} (h : Course acts here) :
    acts = [] ∧ here = (none, .none) ∨
      ∃ completion request rest, acts = .start completion request :: rest ∧
        (∀ act ∈ rest, ¬act.IsStart) ∧ Record completion request acts here := by
  induction h with
  | nil => exact .inl ⟨rfl, rfl⟩
  | snoc _ goes ih =>
      refine .inr ?_
      rcases ih with ⟨rfl, rfl⟩ | ⟨completion, request, rest, rfl, hrest, hrecord⟩
      · cases goes with
        | start completion request =>
            exact ⟨completion, request, [], rfl, fun _ h => (by cases h), .spawned ⟨rfl, rfl⟩⟩
      · obtain ⟨hafter, hact⟩ := hrecord.goes goes
        refine ⟨completion, request, _, List.cons_append, ?_, hafter⟩
        intro act hmem
        rcases List.mem_append.1 hmem with hmem | hmem
        · exact hrest act hmem
        · rw [List.mem_singleton] at hmem
          exact hmem ▸ hact

/-- An operation starts once, and with what it has started there is a record of it. -/
theorem Course.record_of_start {acts : List Act} {here : Standing} (h : Course acts here)
    {completion : Nat} {request : Request} (hmem : .start completion request ∈ acts) :
    Record completion request acts here ∧ ∀ completion' request',
      .start completion' request' ∈ acts → completion' = completion ∧ request' = request := by
  rcases h.record with ⟨rfl, -⟩ | ⟨first, firstRequest, rest, rfl, hrest, hrecord⟩
  · cases hmem
  · have hfirst : ∀ {completion' : Nat} {request' : Request},
        .start completion' request' ∈ Act.start first firstRequest :: rest →
          Act.start completion' request' = .start first firstRequest := by
      intro completion' request' hmem
      exact (List.mem_cons.1 hmem).resolve_right fun hlater => hrest _ hlater trivial
    obtain ⟨rfl, rfl⟩ := Act.start.inj (hfirst hmem)
    exact ⟨hrecord, fun _ _ hother => Act.start.inj (hfirst hother)⟩

/-- An operation that is counted no more has nothing left to do but to end. -/
theorem Course.gone_of_uncount {acts : List Act} {here : Standing} (h : Course acts here)
    (hmem : .uncount ∈ acts) : here = (none, .leaving) ∨ here = (none, .ended) := by
  induction h with
  | nil => cases hmem
  | snoc _ goes ih =>
      rcases List.mem_append.1 hmem with hmem | hmem
      · rcases ih hmem with rfl | rfl
        · cases goes with
          | finish => exact .inr rfl
        · cases goes
      · rw [List.mem_singleton] at hmem
        subst hmem
        cases goes with
        | uncount => exact .inl rfl

end ScriptHost.Network
