import ScriptHost.Proofs.Ready.Ledger

/-!
# What is done to the queue from outside

The queue is called, and its consumer takes the wake-up token; there is no other way to get at it.  A
deed is either of the two, and each has a reply.

The counts of a queue only grow along with what is done and decide nothing, so that a queue whose entries
have been taken out replies like a new one (`performAll_recount`).  In particular a firing is coalesced
there only if another one of the same timer has been accepted since (`Owes.coalesced`).
-/

namespace ScriptHost.Ready.Queue

/-- Something done to the queue. -/
inductive Deed where
  | call (c : Call)
  | takeToken

/-- What the queue replies. -/
inductive Reply where
  | record (r : Record)
  | token (found : Bool)

/-- Do something to the queue. -/
def perform (q : Queue) : Deed → Reply × Queue
  | .call c => (.record (q.answer c).1, (q.answer c).2)
  | .takeToken => (.token q.takeToken.1, q.takeToken.2)

/-- Do one thing after the other: the replies, and the queue afterwards. -/
def performAll (q : Queue) : List Deed → List Reply × Queue
  | [] => ([], q)
  | d :: deeds =>
      ((q.perform d).1 :: ((q.perform d).2.performAll deeds).1, ((q.perform d).2.performAll deeds).2)

theorem performAll_append (first second : List Deed) : ∀ q : Queue,
    q.performAll (first ++ second) =
      ((q.performAll first).1 ++ ((q.performAll first).2.performAll second).1,
        ((q.performAll first).2.performAll second).2) := by
  induction first with
  | nil => exact fun _ => rfl
  | cons d first ih =>
      intro q
      show ((q.perform d).1 :: ((q.perform d).2.performAll (first ++ second)).1,
        ((q.perform d).2.performAll (first ++ second)).2) = _
      rw [ih (q.perform d).2]
      rfl

/-- Deeds that are calls do what the calls do. -/
theorem performAll_calls (calls : List Call) : ∀ q : Queue,
    (q.performAll (calls.map .call)).2 = (q.follow calls).2 := by
  induction calls with
  | nil => exact fun _ => rfl
  | cons c calls ih => exact fun q => ih (q.answer c).2

theorem perform_of_admits {q : Queue} {c : Callback} (hadmits : q.admits c.target = true) :
    q.perform (.call (.enqueue c)) = (.record (.enqueued c true), (q.push c).signal) := by
  simp [perform, answer, enqueue, offer, hadmits]

theorem perform_of_not_admits {q : Queue} {c : Callback} (hadmits : q.admits c.target = false) :
    q.perform (.call (.enqueue c)) = (.record (.enqueued c false), q.coalesce) := by
  simp [perform, answer, enqueue, offer, hadmits]

/-! ## The counts decide nothing -/

/-- The same queue with greater counts. -/
def recount (q : Queue) (accepted coalesced : Nat) : Queue :=
  { q with accepted := accepted + q.accepted, coalesced := coalesced + q.coalesced }

/-- A queue with nothing in it, as a drained one is. -/
def vacated (token : Bool) : Queue := { empty with token }

theorem drain_eq_recount (q : Queue) :
    q.drain.2 = (vacated q.token).recount q.accepted q.coalesced := rfl

theorem perform_recount (m n : Nat) (q : Queue) (d : Deed) :
    (q.recount m n).perform d = ((q.perform d).1, (q.perform d).2.recount m n) := by
  cases d with
  | takeToken => rfl
  | call c =>
      cases c with
      | drain | clear => rfl
      | discard id =>
          by_cases hin : id ∈ q.waiting <;> simp [perform, answer, discard, recount, hin]
      | enqueue c =>
          have hsame : (q.recount m n).admits c.target = q.admits c.target := by
            cases c.target <;> rfl
          cases hadmits : q.admits c.target with
          | true =>
              rw [perform_of_admits hadmits, perform_of_admits (hsame.trans hadmits)]
              rfl
          | false =>
              rw [perform_of_not_admits hadmits, perform_of_not_admits (hsame.trans hadmits)]
              rfl

theorem performAll_recount (m n : Nat) (deeds : List Deed) : ∀ q : Queue,
    (q.recount m n).performAll deeds =
      ((q.performAll deeds).1, (q.performAll deeds).2.recount m n) := by
  induction deeds with
  | nil => exact fun _ => rfl
  | cons d deeds ih =>
      intro q
      rw [performAll, perform_recount, ih]
      rfl

/-! ## Which firings are coalesced -/

/-- Every timer that waits has an accepted callback among the replies. -/
def Owes (replies : List Reply) (q : Queue) : Prop :=
  ∀ id ∈ q.waiting, ∃ c, .record (.enqueued c true) ∈ replies ∧ c.target = .timer id

theorem owes_vacated (token : Bool) : Owes [] (vacated token) := nofun

namespace Owes

variable {replies : List Reply} {q : Queue}

/-- No timer has come to wait. -/
theorem subset (h : Owes replies q) {q' : Queue} (hsub : ∀ id ∈ q'.waiting, id ∈ q.waiting)
    (reply : Reply) : Owes (replies ++ [reply]) q' := fun id hid =>
  (h id (hsub id hid)).imp fun _ hc => ⟨List.mem_append_left _ hc.1, hc.2⟩

theorem accept (h : Owes replies q) (c : Callback) :
    Owes (replies ++ [.record (.enqueued c true)]) (q.push c).signal := by
  intro id hid
  have hcases : id ∈ q.waiting ∨ c.target = .timer id := by
    obtain ⟨target, outcome⟩ := c
    cases target with
    | completion other => exact .inl hid
    | timer other =>
        rcases List.mem_cons.1 hid with rfl | hold
        · exact .inr rfl
        · exact .inl hold
  rcases hcases with hold | htarget
  · obtain ⟨other, hmem, hother⟩ := h id hold
    exact ⟨other, List.mem_append_left _ hmem, hother⟩
  · exact ⟨c, List.mem_append_right _ (List.mem_singleton.2 rfl), htarget⟩

theorem perform (h : Owes replies q) (d : Deed) :
    Owes (replies ++ [(q.perform d).1]) (q.perform d).2 := by
  cases d with
  | takeToken => exact h.subset (fun _ hid => hid) _
  | call c =>
      cases c with
      | drain | clear => exact h.subset (fun _ hid => absurd hid List.not_mem_nil) _
      | discard id =>
          refine h.subset (fun other hother => ?_) _
          by_cases hin : id ∈ q.waiting
          · have hafter : (q.perform (.call (.discard id))).2 = _ := discard_of_mem hin
            rw [hafter] at hother
            exact (List.mem_filter.1 hother).1
          · have hafter : (q.perform (.call (.discard id))).2 = q := discard_of_not_mem hin
            rwa [hafter] at hother
      | enqueue c =>
          cases hadmits : q.admits c.target with
          | false =>
              rw [perform_of_not_admits hadmits]
              exact h.subset (fun _ hid => hid) _
          | true =>
              rw [perform_of_admits hadmits]
              exact h.accept c

/-- What is coalesced at once has an accepted callback for its target before it. -/
theorem refused (h : Owes replies q) {d : Deed} {c : Callback}
    (hreply : (q.perform d).1 = .record (.enqueued c false)) :
    ∃ other, .record (.enqueued other true) ∈ replies ∧ other.target = c.target := by
  cases d with
  | takeToken => cases hreply
  | call call =>
      cases call with
      | drain | clear | discard => cases hreply
      | enqueue offered =>
          have hsplit := Reply.record.inj hreply
          obtain ⟨rfl, hrefused⟩ := Record.enqueued.inj hsplit
          have hadmits : q.admits offered.target = false := by
            simpa [enqueue, offer, apply_ite Prod.fst] using hrefused
          cases htarget : offered.target with
          | completion id =>
              rw [htarget] at hadmits
              cases hadmits
          | timer id =>
              rw [htarget] at hadmits
              exact h id (by simpa [admits] using hadmits)

/-- A coalesced firing has an accepted one of its timer before it. -/
theorem coalesced (deeds : List Deed) : ∀ {replies : List Reply} {q : Queue}, Owes replies q →
    ∀ before c after, (q.performAll deeds).1 = before ++ .record (.enqueued c false) :: after →
      ∃ other, .record (.enqueued other true) ∈ replies ++ before ∧ other.target = c.target := by
  induction deeds with
  | nil =>
      intro replies q _ before c after hsplit
      exact absurd hsplit.symm (List.append_ne_nil_of_right_ne_nil _ (List.cons_ne_nil _ _))
  | cons d deeds ih =>
      intro replies q h before c after hsplit
      rw [performAll] at hsplit
      cases before with
      | nil =>
          rw [List.append_nil]
          exact h.refused (List.cons.inj hsplit).1
      | cons reply before =>
          obtain ⟨hfirst, hrest⟩ := List.cons.inj hsplit
          obtain ⟨other, hmem, hother⟩ := ih (h.perform d) before c after hrest
          rw [hfirst, List.append_assoc] at hmem
          exact ⟨other, hmem, hother⟩

end Owes
end ScriptHost.Ready.Queue
