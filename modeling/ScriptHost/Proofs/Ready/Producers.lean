import Mathlib.Logic.Relation
import ScriptHost.Proofs.Ready.Index

/-!
# Producers of the queue

A call that enqueues a callback has two halves: it offers the callback, and if that was accepted it
signals.  Between the two any other thread may offer, signal, discard or clear.  `Produced` keeps
beside the queue which call has put each entry in and which calls have yet to signal, and `Touch` is
one thing that some thread does to the queue.

A queue is attended to while it has a wake-up token or all its entries are from calls that have yet
to signal.  No touch ends that: a signal leaves a token, a coalesced callback adds no entry, and what
is accepted belongs to a call that has yet to signal.
-/

namespace ScriptHost.Ready

/-- A queue with what its producers are about. -/
structure Produced where
  queue : Queue
  /-- The entries, each with the number of the call that has put it in. -/
  origins : List (Nat × Callback)
  /-- The calls that have put an entry in and have yet to signal. -/
  underway : List Nat

namespace Produced

/-- The queue that nothing has been offered to. -/
def empty : Produced := ⟨.empty, [], []⟩

/-- A call offers a callback.  Accepted calls are numbered, and one that is coalesced is over. -/
def offer (p : Produced) (c : Callback) : Produced :=
  if p.queue.admits c.target then
    ⟨(p.queue.offer c).2, p.origins ++ [(p.queue.accepted, c)], p.queue.accepted :: p.underway⟩
  else { p with queue := (p.queue.offer c).2 }

/-- A call signals, and is over. -/
def signal (p : Produced) (call : Nat) : Produced :=
  { p with queue := p.queue.signal, underway := p.underway.erase call }

/-- The entry of a timer is dropped, if there is one. -/
def discard (p : Produced) (id : Nat) : Produced :=
  { p with
    queue := (p.queue.discard id).2
    origins :=
      if p.queue.waiting.contains id then p.origins.filter (·.2.target ≠ .timer id)
      else p.origins }

/-- All entries are dropped. -/
def clear (p : Produced) : Produced := { p with queue := p.queue.clear.2, origins := [] }

/-- One thing that a thread does to the queue. -/
inductive Touch : Produced → Produced → Prop where
  | offer (p : Produced) (c : Callback) : Touch p (p.offer c)
  | signal (p : Produced) (call : Nat) : Touch p (p.signal call)
  | discard (p : Produced) (id : Nat) : Touch p (p.discard id)
  | clear (p : Produced) : Touch p p.clear

/-- What has been written down is about the queue: the entries are those of the queue, and no two are
of one call. -/
structure Sound (p : Produced) : Prop where
  entries : p.origins.map Prod.snd = p.queue.entries
  distinct : (p.origins.map Prod.fst).Nodup
  made : ∀ origin ∈ p.origins, origin.1 < p.queue.accepted
  calls : p.underway.Nodup
  called : ∀ call ∈ p.underway, call < p.queue.accepted

/-- Somebody has been told of the entries or will be. -/
def Attended (p : Produced) : Prop :=
  p.queue.token = true ∨ ∀ origin ∈ p.origins, origin.1 ∈ p.underway

theorem sound_empty : empty.Sound where
  entries := rfl
  distinct := List.nodup_nil
  made _ h := by cases h
  calls := List.nodup_nil
  called _ h := by cases h

/-! ## One touch -/

theorem offer_of_admits {p : Produced} {c : Callback} (h : p.queue.admits c.target = true) :
    p.offer c =
      ⟨p.queue.push c, p.origins ++ [(p.queue.accepted, c)], p.queue.accepted :: p.underway⟩ := by
  simp [offer, Queue.offer, h]

theorem offer_of_not_admits {p : Produced} {c : Callback} (h : p.queue.admits c.target = false) :
    p.offer c = { p with queue := p.queue.coalesce } := by
  simp [offer, Queue.offer, h]

theorem Sound.offer {p : Produced} (h : p.Sound) (c : Callback) : (p.offer c).Sound := by
  cases hadmits : p.queue.admits c.target with
  | false =>
      rw [offer_of_not_admits hadmits]
      exact ⟨h.entries, h.distinct, h.made, h.calls, h.called⟩
  | true =>
      rw [offer_of_admits hadmits]
      -- the number of the call is above all that have been given
      have hnew : ∀ origin ∈ p.origins, origin.1 ≠ p.queue.accepted := by
        intro origin hmem
        have := h.made origin hmem
        omega
      refine ⟨?_, ?_, ?_, ?_, ?_⟩
      · simp [Queue.push, h.entries]
      · rw [List.map_append, List.nodup_append]
        refine ⟨h.distinct, by simp, ?_⟩
        simpa using hnew
      · intro origin hmem
        show origin.1 < p.queue.accepted + 1
        rcases List.mem_append.1 hmem with hold | hlast
        · have := h.made origin hold
          omega
        · rw [List.mem_singleton.1 hlast]
          exact Nat.lt_succ_self _
      · refine List.nodup_cons.2 ⟨fun hmem => ?_, h.calls⟩
        have := h.called _ hmem
        omega
      · intro call hmem
        show call < p.queue.accepted + 1
        rcases List.mem_cons.1 hmem with rfl | hold
        · exact Nat.lt_succ_self _
        · have := h.called call hold
          omega

theorem Sound.discard {p : Produced} (h : p.Sound) (id : Nat) : (p.discard id).Sound := by
  by_cases hin : id ∈ p.queue.waiting
  · simp only [Produced.discard, Queue.discard_of_mem hin, List.contains_iff_mem.2 hin, if_true]
    have hsub : (p.origins.filter (·.2.target ≠ .timer id)).Sublist p.origins :=
      List.filter_sublist
    refine ⟨?_, h.distinct.sublist (hsub.map _), fun origin hmem => h.made origin (hsub.subset hmem),
      h.calls, h.called⟩
    show (p.origins.filter (·.2.target ≠ .timer id)).map Prod.snd = _
    rw [← h.entries, List.filter_map]
    rfl
  · have hcontains : p.queue.waiting.contains id = false := by simpa using hin
    simp only [Produced.discard, Queue.discard_of_not_mem hin, hcontains]
    exact h

theorem Sound.touch {p p' : Produced} (h : p.Sound) (htouch : Touch p p') : p'.Sound := by
  cases htouch with
  | offer c => exact h.offer c
  | signal call =>
      exact ⟨h.entries, h.distinct, h.made, h.calls.erase call,
        fun other hmem => h.called other (List.mem_of_mem_erase hmem)⟩
  | discard id => exact h.discard id
  | clear =>
      exact ⟨rfl, List.nodup_nil, fun _ hmem => (List.not_mem_nil hmem).elim, h.calls, h.called⟩

theorem Attended.touch {p p' : Produced} (h : p.Attended) (htouch : Touch p p') : p'.Attended := by
  cases htouch with
  | signal call => exact .inl rfl
  | clear => exact .inr fun _ hmem => (List.not_mem_nil hmem).elim
  | offer c =>
      cases hadmits : p.queue.admits c.target with
      | false =>
          rw [offer_of_not_admits hadmits]
          exact h
      | true =>
          rw [offer_of_admits hadmits]
          refine h.imp id fun hall origin hmem => ?_
          rcases List.mem_append.1 hmem with hold | hlast
          · exact List.mem_cons_of_mem _ (hall origin hold)
          · rw [List.mem_singleton.1 hlast]
            exact List.mem_cons_self
  | discard id =>
      have htoken : (p.queue.discard id).2.token = p.queue.token := by
        rw [Queue.discard]
        split <;> rfl
      refine h.imp (fun htok => htoken.trans htok) fun hall origin hmem => hall origin ?_
      simp only [Produced.discard] at hmem
      split at hmem
      · exact (List.mem_filter.1 hmem).1
      · exact hmem

/-- Nobody needs to be told of an empty queue. -/
theorem Sound.attended_of_empty {p : Produced} (h : p.Sound) (hempty : p.queue.entries = []) :
    p.Attended := by
  have horigins : p.origins = [] := by simpa [hempty] using h.entries
  exact .inr fun origin hmem => by rw [horigins] at hmem; cases hmem

/-! ## Several touches -/

/-- Some threads do several things to the queue. -/
abbrev Touches : Produced → Produced → Prop := Relation.ReflTransGen Touch

theorem Sound.touches {p p' : Produced} (h : p.Sound) (htouches : Touches p p') : p'.Sound := by
  induction htouches with
  | refl => exact h
  | tail _ htouch ih => exact ih.touch htouch

theorem Attended.touches {p p' : Produced} (h : p.Attended) (htouches : Touches p p') :
    p'.Attended := by
  induction htouches with
  | refl => exact h
  | tail _ htouch ih => exact ih.touch htouch

end Produced

/-! ## Whole calls -/

/-- From one queue to another by whole calls, by discarding and by clearing. -/
def Queue.Leads (q r : Queue) : Prop :=
  ∀ p : Produced, p.queue = q → ∃ p', Produced.Touches p p' ∧ p'.queue = r ∧ p'.underway = p.underway

namespace Queue.Leads

variable {q r s : Queue}

theorem refl (q : Queue) : q.Leads q := fun p hq => ⟨p, .refl, hq, rfl⟩

theorem trans (h : q.Leads r) (h' : r.Leads s) : q.Leads s := by
  intro p hq
  obtain ⟨p₁, htouches₁, hr, hunder₁⟩ := h p hq
  obtain ⟨p₂, htouches₂, hs, hunder₂⟩ := h' p₁ hr
  exact ⟨p₂, htouches₁.trans htouches₂, hs, hunder₂.trans hunder₁⟩

/-- The two halves of a call with nothing in between. -/
theorem enqueue (q : Queue) (c : Callback) : q.Leads (q.enqueue c).2 := by
  rintro p rfl
  cases hadmits : p.queue.admits c.target with
  | false =>
      have hoffer := Produced.offer_of_not_admits hadmits
      refine ⟨p.offer c, .single (.offer p c), ?_, ?_⟩
      · simp [hoffer, Queue.enqueue, Queue.offer, hadmits]
      · simp [hoffer]
  | true =>
      have hoffer := Produced.offer_of_admits hadmits
      refine ⟨(p.offer c).signal p.queue.accepted,
        .tail (.single (.offer p c)) (.signal _ _), ?_, ?_⟩
      · simp [hoffer, Produced.signal, Queue.enqueue, Queue.offer, hadmits]
      · simp [hoffer, Produced.signal]

theorem discard (q : Queue) (id : Nat) : q.Leads (q.discard id).2 := by
  rintro p rfl
  exact ⟨p.discard id, .single (.discard p id), rfl, rfl⟩

/-- Taking everything out is for the queue the same as dropping it. -/
theorem clear (q : Queue) : q.Leads q.clear.2 := by
  rintro p rfl
  exact ⟨p.clear, .single (.clear p), rfl, rfl⟩

end Queue.Leads
end ScriptHost.Ready
