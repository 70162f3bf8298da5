import ScriptHost.Proofs.Host.History

/-!
# Visits to guest code

The interpreter enters guest code to execute a request or to hand over a callback, and leaves it when
the code ends.  A run keeps a log of this (`crossed`), and of what its passes take out of the queue
(`gathered`).

What one event adds to both is read off the interpreter before and after it (`crosses`).  From this it
follows that the log consists of whole visits, one after the other, but for the last one, which guest
code may still be in (`Logged.run`), and that passes hand over what they take, in order, unless a
panic ends the interpreter (`gathered_eq`).
-/

namespace ScriptHost

open Guest (Code Request)
open Ready (Callback Finish PassCounts)
open Submission (Result)

/-- How guest code ended, without what it returned. -/
def Ready.Finish.void {α : Type} : Finish α → Finish Unit
  | .returned _ => .returned ()
  | .raised message => .raised message
  | .panicked message => .panicked message

namespace Host

/-- What guest code is entered for. -/
inductive Errand where
  | execution (request : Request)
  | callback (c : Callback)

/-- A visit to guest code that has come to its end. -/
structure Visit where
  errand : Errand
  ending : Finish Unit

/-- The interpreter enters guest code or leaves it. -/
inductive Crossing where
  | enters (errand : Errand)
  | leaves (ending : Finish Unit)

/-- The crossings of visits that come one after the other. -/
def crossingsOf (visits : List Visit) : List Crossing :=
  visits.flatMap fun v => [.enters v.errand, .leaves v.ending]

theorem crossingsOf_concat (visits : List Visit) (errand : Errand) (ending : Finish Unit) :
    crossingsOf (visits ++ [⟨errand, ending⟩]) =
      crossingsOf visits ++ [.enters errand] ++ [.leaves ending] := by
  simp [crossingsOf]

/-- The callbacks that guest code is entered for. -/
def handed (log : List Crossing) : List Callback :=
  log.filterMap fun
    | .enters (.callback c) => some c
    | _ => none

theorem handed_append (log later : List Crossing) :
    handed (log ++ later) = handed log ++ handed later :=
  List.filterMap_append

/-- Whether a visit is other than that of a callback that panics. -/
def Visit.isHarmless : Visit → Bool
  | ⟨.callback _, .panicked _⟩ => false
  | _ => true

variable {σ : Type}

/-! ## What is recorded -/

/-- Guest code is left when it ends. -/
def leaving {ω α : Type} : Option (Finish α ⊕ Code ω α) × ω → List Crossing
  | (some (.inl ending), _) => [.leaves ending.void]
  | _ => []

/-- What an event adds to the log. -/
def crossings (h : Host σ) : Event → List Crossing
  | .takeJob => (h.takes .takeJob).filterMap fun job => job.request?.map fun r => .enters (.execution r)
  | .work =>
      match h.interpreter with
      | .executing _ _ code => leaving (code.advance (h.services, h.guest))
      | .passing (c :: _) _ => [.enters (.callback c)]
      | .invoking code _ _ => leaving (code.advance (h.services, h.guest))
      | _ => []
  | _ => []

/-- What a pass takes out of the queue. -/
def gathers (h : Host σ) : Event → List Callback
  | .work =>
      match h.interpreter with
      | .draining => h.services.queue.drain.1
      | _ => []
  | _ => []

/-- The log of a run. -/
def crossed (g : Guest σ) : Host σ → List Event → List Crossing
  | _, [] => []
  | h, e :: events => h.crossings e ++ crossed g (react g h e) events

/-- What the passes of a run take out of the queue. -/
def gathered (g : Guest σ) : Host σ → List Event → List Callback
  | _, [] => []
  | h, e :: events => h.gathers e ++ gathered g (react g h e) events

/-- Whether guest code runs. -/
def isInside : Interpreter σ → Bool
  | .executing _ _ _ | .invoking _ _ _ => true
  | _ => false

/-- The callbacks that a pass has taken and not handed over. -/
def remaining : Interpreter σ → List Callback
  | .passing rest _ | .invoking _ rest _ => rest
  | _ => []

/-- Whether a panic has ended the interpreter. -/
def isCrashed : Interpreter σ → Bool
  | .crashed _ => true
  | _ => false

/-- Whether guest code neither runs nor has ended the interpreter. -/
def isOutside (i : Interpreter σ) : Bool := !isInside i && !isCrashed i

/-! ## One event -/

/-- What an event does to the interpreter, with what it takes out of the queue and what it adds to
the log. -/
inductive Crosses (g : Guest σ) : Interpreter σ → Interpreter σ → List Callback → List Crossing → Prop
    where
  | same (i : Interpreter σ) : Crosses g i i [] []
  /-- Outside of guest code and of passes. -/
  | moves {i j : Interpreter σ} (hi : isOutside i = true) (hj : isOutside j = true)
      (hrest : remaining i = []) (hrest' : remaining j = []) : Crosses g i j [] []
  | gathers (batch : List Callback) : Crosses g .draining (.passing batch .zero) batch []
  | begins (request : Request) (since : Nat) :
      Crosses g .selecting (.executing request since (g.execute request)) []
        [.enters (.execution request)]
  | executes (request : Request) (since : Nat) (code rest : Code (Services × σ) Value) :
      Crosses g (.executing request since code) (.executing request since rest) [] []
  | finishes (request : Request) (since : Nat) (code : Code (Services × σ) Value)
      (ending : Finish Value) (result : Result) :
      Crosses g (.executing request since code) (.executed request result) []
        [.leaves ending.void]
  | hands (c : Callback) (rest : List Callback) (counts : PassCounts) :
      Crosses g (.passing (c :: rest) counts) (.invoking (g.invoke c) rest counts) []
        [.enters (.callback c)]
  | goes_on (code next : Code (Services × σ) Ready.Invocation) (rest : List Callback)
      (counts : PassCounts) :
      Crosses g (.invoking code rest counts) (.invoking next rest counts) [] []
  | panics (code : Code (Services × σ) Ready.Invocation) (rest : List Callback)
      (counts : PassCounts) (message : String) :
      Crosses g (.invoking code rest counts) (.crashed message) [] [.leaves (.panicked message)]
  | returns (code : Code (Services × σ) Ready.Invocation) (rest : List Callback)
      (counts : PassCounts) {ending : Finish Ready.Invocation}
      (hending : ∀ message, ending ≠ .panicked message) :
      Crosses g (.invoking code rest counts) (.passing rest (counts.add ending)) []
        [.leaves ending.void]

theorem crosses_work (g : Guest σ) (h : Host σ) :
    Crosses g h.interpreter ((h.work? g).getD h).interpreter (h.gathers .work)
      (h.crossings .work) := by
  obtain ⟨services, guest, bridge, channel, interpreter, held, bridges⟩ := h
  cases interpreter with
  | selecting | stopped | crashed => exact .same _
  | executing request since code =>
      rcases hadvance : code.advance (services, guest) with ⟨_ | ending | rest, services', guest'⟩ <;>
        simp only [work?, gathers, crossings, hadvance]
      · exact .same _
      · exact .finishes request since code ending _
      · exact .executes request since code rest
  | executed request result => exact .moves rfl rfl rfl rfl
  | completed request result =>
      simp only [work?]
      split <;> exact .moves rfl rfl rfl rfl
  | counted request result => exact .moves rfl rfl rfl rfl
  | draining => exact .gathers _
  | passing rest counts =>
      cases rest with
      | nil => exact .moves rfl rfl rfl rfl
      | cons c rest => exact .hands c rest counts
  | invoking code rest counts =>
      rcases hadvance : code.advance (services, guest) with ⟨_ | ending | next, services', guest'⟩
      · simp only [work?, gathers, crossings, hadvance]
        exact .same _
      · cases ending with
        | returned result =>
            simp only [work?, gathers, crossings, hadvance]
            exact .returns code rest counts (by simp)
        | raised message =>
            simp only [work?, gathers, crossings, hadvance]
            exact .returns code rest counts (by simp)
        | panicked message =>
            simp only [work?, gathers, crossings, hadvance]
            exact .panics code rest counts message
      · simp only [work?, gathers, crossings, hadvance]
        exact .goes_on code next rest counts

theorem gathers_eq_nil (h : Host σ) {e : Event} (he : e ≠ .work) : h.gathers e = [] := by
  unfold gathers
  split
  · exact absurd rfl he
  · rfl

theorem crossings_eq_nil (h : Host σ) {e : Event} (hwork : e ≠ .work) (hjob : e ≠ .takeJob) :
    h.crossings e = [] := by
  unfold crossings
  split
  · exact absurd rfl hjob
  · exact absurd rfl hwork
  · rfl

theorem crosses (g : Guest σ) (h : Host σ) (e : Event) :
    Crosses g h.interpreter (react g h e).interpreter (h.gathers e) (h.crossings e) := by
  by_cases hwork : e = .work
  · subst hwork
    exact crosses_work g h
  rw [gathers_eq_nil h hwork]
  by_cases hjob : e = .takeJob
  · subst hjob
    rw [crossings, react]
    rcases takeJob_cases g h with ⟨htakes, hsame⟩ | ⟨job, hselecting, htakes, -, -, hnext⟩
    · rw [htakes, hsame]
      exact .same _
    · rw [hselecting, htakes, hnext]
      cases job with
      | execute request => exact .begins request _
      | releaseClosures => exact .moves rfl rfl rfl rfl
      | stop => exact .moves rfl rfl rfl rfl
  rw [crossings_eq_nil h hwork hjob]
  rcases interpreter_react g h e with heq | heq | hsame | ⟨hselecting, hnext | hnext⟩
  · exact absurd heq hwork
  · exact absurd heq hjob
  · rw [hsame]
    exact .same _
  · rw [hselecting, hnext]
    exact .moves rfl rfl rfl rfl
  · rw [hselecting, hnext]
    exact .moves rfl rfl rfl rfl

/-! ## Whole visits -/

/-- A log agrees with the interpreter: it consists of whole visits but for the one that guest code is
in.  A callback that has panicked was the last one, and it has ended the interpreter. -/
def Logged (log : List Crossing) (i : Interpreter σ) : Prop :=
  ∃ visits,
    match i with
    | .executing request _ _ =>
        (∀ v ∈ visits, v.isHarmless = true) ∧
          log = crossingsOf visits ++ [.enters (.execution request)]
    | .invoking _ _ _ =>
        (∀ v ∈ visits, v.isHarmless = true) ∧
          ∃ c, log = crossingsOf visits ++ [.enters (.callback c)]
    | .crashed message =>
        log = crossingsOf visits ∧ ∃ earlier c,
          visits = earlier ++ [⟨.callback c, .panicked message⟩] ∧ ∀ v ∈ earlier, v.isHarmless = true
    | _ => (∀ v ∈ visits, v.isHarmless = true) ∧ log = crossingsOf visits

theorem logged_iff {log : List Crossing} {i : Interpreter σ} (hi : isOutside i = true) :
    Logged log i ↔ ∃ visits, (∀ v ∈ visits, v.isHarmless = true) ∧ log = crossingsOf visits := by
  cases i with
  | executing | invoking | crashed => cases hi
  | selecting | executed | completed | counted | draining | passing | stopped => exact Iff.rfl

theorem harmless_concat {visits : List Visit} {v : Visit} (hvisits : ∀ v ∈ visits, v.isHarmless = true)
    (hv : v.isHarmless = true) : ∀ w ∈ visits ++ [v], w.isHarmless = true := by
  simpa [or_imp, forall_and] using ⟨hvisits, hv⟩

theorem Logged.crosses {g : Guest σ} {i j : Interpreter σ} {batch : List Callback}
    {log later : List Crossing} (hlogged : Logged log i) (hcrosses : Crosses g i j batch later) :
    Logged (log ++ later) j := by
  cases hcrosses with
  | same =>
      rw [List.append_nil]
      exact hlogged
  | moves hi hj =>
      rw [List.append_nil]
      exact (logged_iff hj).2 ((logged_iff hi).1 hlogged)
  | gathers =>
      rw [List.append_nil]
      exact hlogged
  | begins request =>
      obtain ⟨visits, hharmless, rfl⟩ := hlogged
      exact ⟨visits, hharmless, rfl⟩
  | executes =>
      rw [List.append_nil]
      exact hlogged
  | finishes request since code ending =>
      obtain ⟨visits, hharmless, rfl⟩ := hlogged
      refine ⟨visits ++ [⟨.execution request, ending.void⟩], harmless_concat hharmless ?_, ?_⟩
      · cases ending <;> rfl
      · exact (crossingsOf_concat _ _ _).symm
  | hands c =>
      obtain ⟨visits, hharmless, rfl⟩ := hlogged
      exact ⟨visits, hharmless, c, rfl⟩
  | goes_on =>
      rw [List.append_nil]
      exact hlogged
  | panics _ _ _ message =>
      obtain ⟨visits, hharmless, c, rfl⟩ := hlogged
      refine ⟨visits ++ [⟨.callback c, .panicked message⟩], ?_, visits, c, rfl, hharmless⟩
      exact (crossingsOf_concat _ _ _).symm
  | @returns _ _ _ ending hending =>
      obtain ⟨visits, hharmless, c, rfl⟩ := hlogged
      refine ⟨visits ++ [⟨.callback c, ending.void⟩], harmless_concat hharmless ?_, ?_⟩
      · cases ending with
        | returned | raised => rfl
        | panicked message => exact absurd rfl (hending message)
      · exact (crossingsOf_concat _ _ _).symm

theorem Logged.run {g : Guest σ} {events : List Event} :
    ∀ {h : Host σ} {log : List Crossing}, Logged log h.interpreter →
      Logged (log ++ crossed g h events) (Host.run g h events).interpreter := by
  induction events with
  | nil =>
      intro h log hlogged
      rw [crossed, List.append_nil]
      exact hlogged
  | cons e events ih =>
      intro h log hlogged
      rw [crossed, ← List.append_assoc]
      exact ih (hlogged.crosses (Host.crosses g h e))

/-- The log of a host from its beginning. -/
theorem logged (g : Guest σ) (capacity : Nat) (guest : σ) (events : List Event) :
    Logged (crossed g (fresh capacity guest) events)
      (Host.run g (fresh capacity guest) events).interpreter := by
  have hstart : Logged [] (fresh capacity guest).interpreter := ⟨[], by simp, rfl⟩
  exact hstart.run

/-! ## Batches -/

/-- An interpreter that a panic has ended stays so, and enters guest code no more. -/
theorem Crosses.crashed {g : Guest σ} {i j : Interpreter σ} {batch : List Callback}
    {log : List Crossing} {message : String} (hcrosses : Crosses g i j batch log)
    (hi : i = .crashed message) : j = .crashed message ∧ batch = [] ∧ log = [] := by
  subst hi
  cases hcrosses with
  | same => exact ⟨rfl, rfl, rfl⟩
  | moves hi => cases hi

theorem run_crashed {g : Guest σ} {message : String} {events : List Event} :
    ∀ {h : Host σ}, h.interpreter = .crashed message →
      (Host.run g h events).interpreter = .crashed message ∧ gathered g h events = [] ∧
        crossed g h events = [] := by
  induction events with
  | nil => exact fun hcrashed => ⟨hcrashed, rfl, rfl⟩
  | cons e events ih =>
      intro h hcrashed
      obtain ⟨hnext, hbatch, hlog⟩ := (Host.crosses g h e).crashed hcrashed
      obtain ⟨hend, hbatches, hlogs⟩ := ih (h := react g h e) hnext
      exact ⟨hend, by rw [gathered, hbatch, hbatches]; rfl, by rw [crossed, hlog, hlogs]; rfl⟩

/-- What a pass has taken is handed over or remains. -/
theorem Crosses.remaining {g : Guest σ} {i j : Interpreter σ} {batch : List Callback}
    {log : List Crossing} (hcrosses : Crosses g i j batch log) (hj : isCrashed j = false) :
    Host.remaining i ++ batch = handed log ++ Host.remaining j := by
  cases hcrosses with
  | same => exact List.append_nil _
  | moves _ _ hrest hrest' =>
      rw [hrest, hrest']
      rfl
  | panics => cases hj
  | gathers | begins | hands => simp [Host.remaining, handed]
  | executes | finishes | goes_on | returns => simp [Host.remaining, handed]

/-- **Passes hand over what they take**, in order, as long as no panic ends the interpreter. -/
theorem gathered_eq {g : Guest σ} {events : List Event} :
    ∀ {h : Host σ}, isCrashed (Host.run g h events).interpreter = false →
      remaining h.interpreter ++ gathered g h events =
        handed (crossed g h events) ++ remaining (Host.run g h events).interpreter := by
  induction events with
  | nil => exact fun _ => List.append_nil _
  | cons e events ih =>
      intro h hend
      have hnext : isCrashed (react g h e).interpreter = false := by
        cases hinterpreter : (react g h e).interpreter with
        | crashed message =>
            have hlast : (Host.run g h (e :: events)).interpreter = .crashed message :=
              (run_crashed hinterpreter).1
            rw [hlast] at hend
            cases hend
        | selecting | executing | executed | completed | counted | draining | passing | invoking
        | stopped => rfl
      have hfirst := (Host.crosses g h e).remaining hnext
      have hlater := ih (h := react g h e) hend
      calc remaining h.interpreter ++ gathered g h (e :: events)
          = (remaining h.interpreter ++ h.gathers e) ++ gathered g (react g h e) events :=
            (List.append_assoc _ _ _).symm
        _ = handed (h.crossings e) ++
              (remaining (react g h e).interpreter ++ gathered g (react g h e) events) := by
            rw [hfirst, List.append_assoc]
        _ = handed (crossed g h (e :: events)) ++
              remaining (Host.run g h (e :: events)).interpreter := by
            rw [hlater, ← List.append_assoc, ← handed_append]
            rfl

end Host
end ScriptHost
