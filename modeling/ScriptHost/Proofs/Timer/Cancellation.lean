import ScriptHost.Proofs.Timer.Threads

/-!
# Nothing fires after a cancellation

A timer that has been created and is live no more stays so (`Gone`), since its number is not given
to another timer.  If its queue entry is gone as well, nothing brings one back (`Silent`): only the
wake-up of a live timer puts an entry in.

The first half of a cancellation makes a timer `Gone` and the second one makes it `Silent`.  Between
them anything may happen.  A firing that came before the removal has left its entry in the queue
before the removal, because a wake-up looks the timer up and queues the firing in one step; so the
second half finds it, or a drain has taken it before.  `Sound` says the same of the errands that
cancel all timers.
-/

namespace ScriptHost.Timers.Shared

open Ready (Queue)

/-- A timer was created and is live no more. -/
def Gone (s : Shared) (id : Nat) : Prop := id < s.timers.nextId ∧ s.timers.kind? id = none

/-- A timer is gone, and no firing of it is in the queue. -/
def Silent (s : Shared) (id : Nat) : Prop := s.Gone id ∧ s.queue.count (.timer id) = 0

/-- From now on no entry of a timer is in the queue, and none is put in or drained. -/
def NeverAgain (s : Shared) (id : Nat) : Prop :=
  ∀ (events : List Event) (t : Shared), Run s events t →
    t.queue.count (.timer id) = 0 ∧ ∀ e ∈ events, ¬ e.MovesEntry id

/-- What holds between any two steps. -/
structure Sound (s : Shared) : Prop where
  numbered : s.timers.Numbered
  indexed : s.queue.Indexed
  /-- Timers taken out are gone, and those whose firings are not to be dropped any more are
  silent. -/
  sweeping : ∀ thread taken left, s.errand thread = .cancellingAll taken left →
    ∀ id ∈ taken, s.Gone id ∧ (id ∈ left ∨ s.queue.count (.timer id) = 0)

theorem sound_start : start.Sound where
  numbered := numbered_empty
  indexed := Queue.indexed_empty
  sweeping _ _ _ h := by cases h

/-! ## One step -/

theorem Step.nextId_le {s t : Shared} {e : Event} (h : Step s e t) :
    s.timers.nextId ≤ t.timers.nextId := by
  cases h with
  | @create _ _ _ timers hcreate =>
      obtain ⟨-, hnext, -⟩ := create_eq_ok hcreate
      show s.timers.nextId ≤ timers.nextId
      omega
  | wake id => exact Nat.le_of_eq (nextId_fire _ _ _).symm
  | rearm id => exact Nat.le_of_eq (nextId_rearm _ _).symm
  | elapse | complete | drain | clear | remove | discard | removeAll | discardOne | finishAll =>
      exact Nat.le_refl _

/-- A timer that is gone stays gone. -/
theorem Step.gone {s t : Shared} {e : Event} {id : Nat} (h : Step s e t) (hgone : s.Gone id) :
    t.Gone id := by
  refine ⟨Nat.lt_of_lt_of_le hgone.1 h.nextId_le, ?_⟩
  have hnone := hgone.2
  cases h with
  | @create _ _ _ timers hcreate =>
      obtain ⟨rfl, -, hkind⟩ := create_eq_ok hcreate
      show timers.kind? id = none
      rw [hkind, if_neg (Nat.ne_of_lt hgone.1), hnone]
  | wake j =>
      show (s.timers.fire s.queue j).1.kind? id = none
      rw [kind?_fire]
      split
      · rfl
      · exact hnone
  | rearm j =>
      show (s.timers.rearm j).kind? id = none
      rw [kind?_rearm, hnone]
  | remove j =>
      show (s.timers.remove j).2.kind? id = none
      rw [kind?_remove]
      split
      · rfl
      · exact hnone
  | removeAll => rfl
  | elapse | complete | drain | clear | discard | discardOne | finishAll => exact hnone

/-- The queue after a step, for a timer that is gone: its entry is left alone or dropped. -/
theorem Step.count_le_of_gone {s t : Shared} {e : Event} {id : Nat} (h : Step s e t)
    (hindexed : s.queue.Indexed) (hgone : s.Gone id) :
    t.queue.count (.timer id) ≤ s.queue.count (.timer id) := by
  cases h with
  | wake j =>
      show (s.timers.fire s.queue j).2.count (.timer id) ≤ _
      rw [queue_fire]
      split
      · rename_i hlive
        -- Only a live timer fires, and this one is not live.
        have hne : id ≠ j := by
          rintro rfl
          rw [(kind?_eq_none_iff _ _).1 hgone.2] at hlive
          cases hlive
        refine Nat.le_of_eq ?_
        rw [hindexed.count_enqueue_firing, if_neg (by simp [hne])]
      · exact Nat.le_refl _
  | complete j outcome =>
      show (s.queue.enqueue (.completion j outcome)).2.count _ ≤ _
      rw [Queue.count_enqueue_completion, if_neg (by simp)]
      exact Nat.le_refl _
  | drain | clear => exact Nat.zero_le _
  | @discard _ j | @discardOne _ j =>
      show (s.queue.discard j).2.count _ ≤ _
      rw [hindexed.count_discard]
      split
      · exact Nat.zero_le _
      · exact Nat.le_refl _
  | create | rearm | elapse | remove | removeAll | finishAll => exact Nat.le_refl _

/-- A step moves no entry of a silent timer. -/
theorem Step.not_movesEntry {s t : Shared} {e : Event} {id : Nat} (h : Step s e t)
    (hsilent : s.Silent id) : ¬ e.MovesEntry id := by
  intro hmoves
  cases h with
  | wake j =>
      obtain ⟨rfl, haccepted⟩ := hmoves
      have hlive := (Bool.and_eq_true_iff.1 haccepted).1
      rw [(kind?_eq_none_iff _ _).1 hsilent.1.2] at hlive
      cases hlive
  | drain =>
      have hpos := (Ready.occurrences_pos_iff _ _).2 hmoves
      have hzero : Ready.occurrences s.queue.entries (.timer id) = 0 := hsilent.2
      rw [show s.queue.drain.1 = s.queue.entries from rfl, hzero] at hpos
      exact Nat.lt_irrefl 0 hpos
  | create | rearm | elapse | complete | clear | remove | discard | removeAll | discardOne
  | finishAll => exact hmoves

theorem Step.silent {s t : Shared} {e : Event} {id : Nat} (h : Step s e t)
    (hindexed : s.queue.Indexed) (hsilent : s.Silent id) : t.Silent id := by
  have hle := h.count_le_of_gone hindexed hsilent.1
  rw [hsilent.2] at hle
  exact ⟨h.gone hsilent.1, Nat.le_zero.1 hle⟩

theorem Step.numbered {s t : Shared} {e : Event} (h : Step s e t) (hn : s.timers.Numbered) :
    t.timers.Numbered := by
  cases h with
  | create hcreate => exact hn.create hcreate
  | wake id => exact hn.fire _ id
  | rearm id => exact hn.rearm id
  | remove id => exact hn.remove id
  | removeAll => intro id hlive; cases hlive
  | elapse | complete | drain | clear | discard | discardOne | finishAll => exact hn

theorem Step.indexed {s t : Shared} {e : Event} (h : Step s e t) (hi : s.queue.Indexed) :
    t.queue.Indexed := by
  cases h with
  | wake id =>
      show (s.timers.fire s.queue id).2.Indexed
      rw [queue_fire]
      split
      · exact hi.enqueue_firing id
      · exact hi
  | complete id outcome => exact hi.enqueue_completion id outcome
  | drain => exact Queue.indexed_drain _
  | clear => exact Queue.indexed_clear _
  | discard | discardOne => exact hi.discard _
  | create | rearm | elapse | remove | removeAll | finishAll => exact hi

/-- What an errand taken up earlier says of the timers taken out is still true. -/
theorem Step.carried {s t : Shared} {e : Event} (h : Step s e t) (hs : s.Sound)
    {thread id : Nat} {taken left : List Nat} (herrand : s.errand thread = .cancellingAll taken left)
    (hid : id ∈ taken) : t.Gone id ∧ (id ∈ left ∨ t.queue.count (.timer id) = 0) := by
  obtain ⟨hgone, hleft⟩ := hs.sweeping thread taken left herrand id hid
  refine ⟨h.gone hgone, ?_⟩
  rcases hleft with hleft | hzero
  · exact .inl hleft
  · exact .inr (h.silent hs.indexed ⟨hgone, hzero⟩).2

theorem Step.sound {s t : Shared} {e : Event} (h : Step s e t) (hs : s.Sound) : t.Sound where
  numbered := h.numbered hs.numbered
  indexed := h.indexed hs.indexed
  sweeping := by
    intro thread taken left herrand id hid
    by_cases hsame : s.errand thread = t.errand thread
    · exact h.carried hs (hsame.trans herrand) hid
    · -- The step is one of this thread's own.
      cases h with
      | create | wake | rearm | elapse | complete | drain | clear => exact absurd rfl hsame
      | remove | discard | finishAll =>
          rw [errand_assign] at herrand hsame
          split at herrand
          · cases herrand
          · rename_i hother
            rw [if_neg hother] at hsame
            exact absurd rfl hsame
      | removeAll =>
          rw [errand_assign] at herrand hsame
          split at herrand
          · cases herrand
            refine ⟨⟨hs.numbered id ?_, rfl⟩, .inl hid⟩
            rwa [mem_keys_iff] at hid
          · rename_i hother
            rw [if_neg hother] at hsame
            exact absurd rfl hsame
      | @discardOne _ dropped _ listed howed hin =>
          rw [errand_assign] at herrand hsame
          split at herrand
          · rename_i hown
            cases herrand
            obtain ⟨hgone, hleft⟩ := (Step.discardOne howed hin).carried hs howed hid
            refine ⟨hgone, ?_⟩
            by_cases hdropped : id = dropped
            · refine .inr ?_
              show (s.queue.discard dropped).2.count (.timer id) = 0
              rw [hs.indexed.count_discard, if_pos (by rw [hdropped])]
            · exact hleft.imp_left (List.mem_erase_of_ne hdropped).2
          · rename_i hother
            rw [if_neg hother] at hsame
            exact absurd rfl hsame

/-! ## Runs -/

theorem Run.sound {s : Shared} {events : List Event} (h : Run start events s) : s.Sound :=
  h.keeps (fun step => step.sound) sound_start

theorem Run.gone {s t : Shared} {events : List Event} {id : Nat} (h : Run s events t)
    (hgone : s.Gone id) : t.Gone id :=
  h.keeps (P := (Gone · id)) (fun step => step.gone) hgone

/-- A timer that is gone and has no entry is never heard of again. -/
theorem Sound.neverAgain {s : Shared} {id : Nat} (hs : s.Sound) (hsilent : s.Silent id) :
    s.NeverAgain id := by
  intro events t hrun
  induction hrun with
  | nil => exact ⟨hsilent.2, by simp⟩
  | cons step _ ih =>
      obtain ⟨hcount, hevents⟩ := ih (step.sound hs) (step.silent hs.indexed hsilent)
      exact ⟨hcount, List.forall_mem_cons.2 ⟨step.not_movesEntry hsilent, hevents⟩⟩

/-- Induction on the steps of a run from the start, with what has happened so far. -/
theorem Run.history {P : List Event → Shared → Prop} (hnil : P [] start)
    (hstep : ∀ {events : List Event} {e : Event} {s t : Shared},
      Run start events s → P events s → Step s e t → P (events ++ [e]) t)
    {events : List Event} {s : Shared} (h : Run start events s) : P events s := by
  have hfrom : ∀ {a b : Shared} {later : List Event}, Run a later b →
      ∀ {earlier : List Event}, Run start earlier a → P earlier a → P (earlier ++ later) b := by
    intro a b later hrun
    induction hrun with
    | nil =>
        intro earlier _ hp
        rwa [List.append_nil]
    | cons step _ ih =>
        intro earlier hearlier hp
        have := ih (hearlier.snoc step) (hstep hearlier hp step)
        rwa [List.append_assoc] at this
  exact hfrom h (.nil start) hnil

theorem Run.issued {events : List Event} {s : Shared} {id : Nat} (h : Run start events s)
    (hid : .created id ∈ events) : id < s.timers.nextId := by
  refine Run.history (P := fun events s => .created id ∈ events → id < s.timers.nextId)
    (by simp) ?_ h hid
  intro events e s t _ ih step hid
  rw [List.mem_append, List.mem_singleton] at hid
  rcases hid with hid | rfl
  · exact Nat.lt_of_lt_of_le (ih hid) step.nextId_le
  · cases step with
    | @create _ _ _ timers hcreate =>
        obtain ⟨rfl, hnext, -⟩ := create_eq_ok hcreate
        show s.timers.nextId < timers.nextId
        omega

/-! ## The two halves of a call -/

theorem Step.beginning {s t : Shared} {e first : Event} {thread : Nat} (h : Step s e t)
    (hbegun : (t.errand thread).beginning thread = some first) :
    (s.errand thread).beginning thread = some first ∧ ¬ e.EndsErrand thread ∨ e = first := by
  cases h with
  | create | wake | rearm | elapse | complete | drain | clear => exact .inl ⟨hbegun, id⟩
  | remove | removeAll =>
      rw [errand_assign] at hbegun
      split at hbegun
      · rename_i hown
        cases hbegun
        rw [hown]
        exact .inr rfl
      · exact .inl ⟨hbegun, id⟩
  | discard | finishAll =>
      rw [errand_assign] at hbegun
      split at hbegun
      · cases hbegun
      · rename_i hother
        exact .inl ⟨hbegun, Ne.symm hother⟩
  | discardOne herrand =>
      rw [errand_assign] at hbegun
      split at hbegun
      · rename_i hown
        rw [hown] at hbegun ⊢
        rw [herrand]
        exact .inl ⟨hbegun, id⟩
      · exact .inl ⟨hbegun, id⟩

/-- A run from the start in which a thread took up an errand in a state `s₀` and has not finished
it. -/
structure Undertaken (thread : Nat) (first : Event) (earlier : List Event) (s₀ : Shared)
    (since : List Event) (s : Shared) : Prop where
  reached : Run start earlier s₀
  taken_up : Run s₀ (first :: since) s
  unfinished : ∀ e ∈ since, ¬ e.EndsErrand thread

theorem Undertaken.snoc {thread : Nat} {first e : Event} {earlier since : List Event}
    {s₀ s t : Shared} (h : Undertaken thread first earlier s₀ since s) (step : Step s e t)
    (hgoes : ¬ e.EndsErrand thread) : Undertaken thread first earlier s₀ (since ++ [e]) t where
  reached := h.reached
  taken_up := h.taken_up.snoc step
  unfinished := by
    intro x hx
    rw [List.mem_append, List.mem_singleton] at hx
    rcases hx with hx | rfl
    · exact h.unfinished x hx
    · exact hgoes

/-- A thread is on the errand that it took up last. -/
theorem Run.undertaken {events : List Event} {s : Shared} (h : Run start events s) (thread : Nat)
    (first : Event) (hbegun : (s.errand thread).beginning thread = some first) :
    ∃ earlier s₀ since, events = earlier ++ first :: since ∧
      Undertaken thread first earlier s₀ since s := by
  refine Run.history (P := fun events s => (s.errand thread).beginning thread = some first →
    ∃ earlier s₀ since, events = earlier ++ first :: since ∧
      Undertaken thread first earlier s₀ since s) ?_ ?_ h hbegun
  · intro hnone
    cases hnone
  · intro events e s t hrun ih step hbegun
    rcases step.beginning hbegun with ⟨hbefore, hgoes⟩ | rfl
    · obtain ⟨earlier, s₀, since, rfl, hsince⟩ := ih hbefore
      exact ⟨earlier, s₀, since ++ [e], by simp, hsince.snoc step hgoes⟩
    · exact ⟨events, s, [], rfl, hrun, .cons step (.nil t), by simp⟩

/-- A timer that was created has no entry once a cancellation of it has returned. -/
theorem Run.returned {events : List Event} {s t : Shared} {thread id : Nat} {found : Bool}
    (h : Run start events s) (hstep : Step s (.returned thread id found) t) :
    ∃ earlier s₀ since, events = earlier ++ .removed thread id found :: since ∧
      Undertaken thread (.removed thread id found) earlier s₀ since s ∧
      s₀.timers.isLive id = found ∧ (.created id ∈ earlier → t.NeverAgain id) := by
  have hsound := hstep.sound h.sound
  cases hstep with
  | discard herrand =>
      obtain ⟨earlier, s₀, since, hevents, hsince⟩ :=
        h.undertaken thread (.removed thread id found) (by rw [herrand]; rfl)
      refine ⟨earlier, s₀, since, hevents, hsince, ?_⟩
      cases hsince.taken_up with
      | cons first rest =>
        cases first with
        | remove =>
            refine ⟨rfl, ?_⟩
            intro hcreated
            -- Gone since the removal; the entry that a firing before it may have left goes now.
            have hgone : s.Gone id := rest.gone ⟨hsince.reached.issued hcreated, by
              show (s₀.timers.remove id).2.kind? id = none
              rw [kind?_remove, if_pos rfl]⟩
            refine hsound.neverAgain ⟨hgone, ?_⟩
            show (s.queue.discard id).2.count (.timer id) = 0
            rw [h.sound.indexed.count_discard, if_pos rfl]

/-- All timers that were live have no entries once all of them have been cancelled. -/
theorem Run.returnedAll {events : List Event} {s t : Shared} {thread : Nat} {taken : List Nat}
    (h : Run start events s) (hstep : Step s (.returnedAll thread taken) t) :
    ∃ earlier s₀ since, events = earlier ++ .removedAll thread taken :: since ∧
      Undertaken thread (.removedAll thread taken) earlier s₀ since s ∧
      (∀ id, s₀.timers.isLive id = true ↔ id ∈ taken) ∧ ∀ id ∈ taken, t.NeverAgain id := by
  have hsound := hstep.sound h.sound
  cases hstep with
  | finishAll herrand =>
      obtain ⟨earlier, s₀, since, hevents, hsince⟩ :=
        h.undertaken thread (.removedAll thread taken) (by rw [herrand]; rfl)
      refine ⟨earlier, s₀, since, hevents, hsince, ?_, ?_⟩
      · cases hsince.taken_up with
        | cons first _ =>
          cases first with
          | removeAll => exact fun id => (mem_keys_iff s₀.timers id).symm
      · intro id hid
        obtain ⟨hgone, hleft⟩ := h.sound.sweeping thread taken [] herrand id hid
        exact hsound.neverAgain ⟨hgone, hleft.resolve_left (by simp)⟩

/-! ## A timer is cancelled once -/

/-- How far the one cancellation of a timer that answers `true` has come, and how many have
answered so. -/
inductive Cancelled (s : Shared) (id : Nat) : Nat → Prop where
  | not_begun (hidle : ∀ thread, s.errand thread ≠ .cancelling id true) : Cancelled s id 0
  | begun (thread : Nat) (hgone : s.Gone id)
      (hbusy : ∀ other, s.errand other = .cancelling id true ↔ other = thread) : Cancelled s id 0
  | answered (hgone : s.Gone id) (hidle : ∀ thread, s.errand thread ≠ .cancelling id true) :
      Cancelled s id 1

/-- A thread is to answer `true` from the removal of a live timer until it does so. -/
theorem Step.cancelling_iff {s t : Shared} {e : Event} {thread id : Nat} (h : Step s e t) :
    t.errand thread = .cancelling id true ↔
      s.errand thread = .cancelling id true ∧ e ≠ .returned thread id true ∨
        e = .removed thread id true := by
  cases h with
  | create | wake | rearm | elapse | complete | drain | clear => simp
  | @remove own j hfree =>
      rw [errand_assign]
      by_cases hown : thread = own
      · rw [if_pos hown, hown, hfree]
        simp
      · rw [if_neg hown]
        simp [Ne.symm hown]
  | @discard own j found herrand =>
      rw [errand_assign]
      by_cases hown : thread = own
      · rw [if_pos hown, hown, herrand]
        simp
      · rw [if_neg hown]
        simp [Ne.symm hown]
  | @removeAll own hfree =>
      rw [errand_assign]
      by_cases hown : thread = own
      · rw [if_pos hown, hown, hfree]
        simp
      · rw [if_neg hown]
        simp
  | @discardOne own _ _ _ herrand | @finishAll own _ herrand =>
      rw [errand_assign]
      by_cases hown : thread = own
      · rw [if_pos hown, hown, herrand]
        simp
      · rw [if_neg hown]
        simp

/-- The removal that finds a timer live is the last event of it as a live timer. -/
theorem Step.gone_of_removed {s t : Shared} {thread id : Nat}
    (h : Step s (.removed thread id true) t) (hs : s.Sound) : ¬ s.Gone id ∧ t.Gone id := by
  generalize hevent : Event.removed thread id true = e at h
  cases h with
  | remove j =>
      obtain ⟨rfl, rfl, hlive⟩ := Event.removed.inj hevent
      constructor
      · intro hgone
        rw [show (s.timers.remove id).1 = s.timers.isLive id from rfl,
          (kind?_eq_none_iff _ _).1 hgone.2] at hlive
        cases hlive
      · refine ⟨hs.numbered id hlive.symm, ?_⟩
        show (s.timers.remove id).2.kind? id = none
        rw [kind?_remove, if_pos rfl]
  | _ => cases hevent

theorem Event.cancels_iff (e : Event) (id : Nat) :
    e.cancels id = true ↔ ∃ thread, e = .returned thread id true := by
  cases e <;> simp [Event.cancels]

theorem Step.errand_of_returned {s t : Shared} {thread id : Nat} {found : Bool}
    (h : Step s (.returned thread id found) t) : s.errand thread = .cancelling id found := by
  cases h with
  | discard herrand => exact herrand

/-- Which steps are between two numbers of answers: an answer of `true` needs a thread that is to
give it. -/
theorem Step.cancels_eq_false {s t : Shared} {e : Event} {id : Nat} (h : Step s e t)
    (hidle : ∀ thread, s.errand thread ≠ .cancelling id true) : e.cancels id = false := by
  rw [← Bool.not_eq_true, Event.cancels_iff]
  rintro ⟨thread, rfl⟩
  exact hidle thread h.errand_of_returned

/-- No thread is to answer `true` for a timer that was gone before. -/
theorem Step.idle_of_gone {s t : Shared} {e : Event} {id : Nat} (h : Step s e t) (hs : s.Sound)
    (hgone : s.Gone id) {thread : Nat} (hidle : s.errand thread ≠ .cancelling id true) :
    t.errand thread ≠ .cancelling id true := by
  rw [Ne, h.cancelling_iff]
  rintro (⟨hbusy, -⟩ | rfl)
  · exact hidle hbusy
  · exact (h.gone_of_removed hs).1 hgone

theorem Step.cancelled {s t : Shared} {e : Event} {id n : Nat} (h : Step s e t) (hs : s.Sound)
    (hc : s.Cancelled id n) : t.Cancelled id (n + if e.cancels id then 1 else 0) := by
  cases hc with
  | not_begun hidle =>
      rw [h.cancels_eq_false hidle]
      by_cases hremoved : ∃ thread, e = .removed thread id true
      · obtain ⟨thread, rfl⟩ := hremoved
        refine .begun thread (h.gone_of_removed hs).2 ?_
        intro other
        rw [h.cancelling_iff]
        simp [hidle other, eq_comm]
      · refine .not_begun ?_
        intro thread
        rw [Ne, h.cancelling_iff]
        rintro (⟨hbusy, -⟩ | heq)
        · exact hidle thread hbusy
        · exact hremoved ⟨thread, heq⟩
  | begun thread hgone hbusy =>
      by_cases hanswer : e = .returned thread id true
      · subst hanswer
        rw [(Event.cancels_iff _ id).2 ⟨thread, rfl⟩]
        refine .answered (h.gone hgone) ?_
        intro other
        rw [Ne, h.cancelling_iff, hbusy]
        rintro (⟨rfl, hne⟩ | heq)
        · exact hne rfl
        · cases heq
      · -- Any other removal finds the timer gone, so the one thread stays the only one.
        have hsilent : e.cancels id = false := by
          rw [← Bool.not_eq_true, Event.cancels_iff]
          rintro ⟨other, rfl⟩
          exact hanswer (by rw [(hbusy other).1 h.errand_of_returned])
        rw [hsilent]
        refine .begun thread (h.gone hgone) ?_
        intro other
        constructor
        · intro hafter
          rcases h.cancelling_iff.1 hafter with ⟨hbefore, -⟩ | rfl
          · exact (hbusy other).1 hbefore
          · exact absurd hgone (h.gone_of_removed hs).1
        · rintro rfl
          exact h.cancelling_iff.2 (.inl ⟨(hbusy _).2 rfl, hanswer⟩)
  | answered hgone hidle =>
      rw [h.cancels_eq_false hidle]
      exact .answered (h.gone hgone) (fun thread => h.idle_of_gone hs hgone (hidle thread))

theorem Run.cancelled {events : List Event} {s : Shared} (h : Run start events s) (id : Nat) :
    s.Cancelled id (events.countP (Event.cancels id)) := by
  refine Run.history (P := fun events s => s.Cancelled id (events.countP (Event.cancels id)))
    ?_ ?_ h
  · exact .not_begun (fun thread hbusy => by cases hbusy)
  · intro events e s t hrun ih step
    rw [List.countP_append, List.countP_singleton]
    exact step.cancelled hrun.sound ih

/-- A cancellation of a timer answers `true` at most once. -/
theorem Run.countP_cancels_le {events : List Event} {s : Shared} (h : Run start events s)
    (id : Nat) : events.countP (Event.cancels id) ≤ 1 := by
  have hcancelled := h.cancelled id
  generalize events.countP (Event.cancels id) = n at hcancelled
  cases hcancelled <;> omega

/-! ## The whole of it -/

/-- **No timer fires after it has been cancelled**, whatever other threads do in between.

Once the cancellation of a timer returns, or that of all timers does which took it out, no entry of
it is in the queue and none is put in or drained again.  The cancellation answers what its removal
has found, and of all cancellations of one timer at most one answers `true`. -/
theorem cancelled_timer_never_fires {events : List Event} {s : Shared} (hrun : Run start events s) :
    (∀ thread id found t, Step s (.returned thread id found) t →
      ∃ earlier s₀ since, events = earlier ++ .removed thread id found :: since ∧
        Undertaken thread (.removed thread id found) earlier s₀ since s ∧
        s₀.timers.isLive id = found ∧ (.created id ∈ earlier → t.NeverAgain id)) ∧
    (∀ thread taken t, Step s (.returnedAll thread taken) t →
      ∃ earlier s₀ since, events = earlier ++ .removedAll thread taken :: since ∧
        Undertaken thread (.removedAll thread taken) earlier s₀ since s ∧
        (∀ id, s₀.timers.isLive id = true ↔ id ∈ taken) ∧ ∀ id ∈ taken, t.NeverAgain id) ∧
    ∀ id, events.countP (Event.cancels id) ≤ 1 :=
  ⟨fun _ _ _ _ hstep => hrun.returned hstep, fun _ _ _ hstep => hrun.returnedAll hstep,
    hrun.countP_cancels_le⟩

/-- An interval fires before its cancellation and is woken up once more between the two halves. -/
theorem cancelled_interval_never_fires :
    ∃ s t, Run start [.created 1, .woken 1 true, .removed 0 1 true, .woken 1 false] s ∧
      Step s (.returned 0 1 true) t ∧ s.queue.count (.timer 1) = 1 ∧ t.NeverAgain 1 := by
  obtain ⟨s, hrun, herrand, hcount⟩ :
      ∃ s, Run start [.created 1, .woken 1 true, .removed 0 1 true, .woken 1 false] s ∧
        s.errand 0 = .cancelling 1 true ∧ s.queue.count (.timer 1) = 1 := by
    have hcreate : start.timers.create 5 true = .ok (1, _) := rfl
    exact ⟨_, .cons (.create hcreate) (.cons (.wake 1) (.cons (.remove 1 rfl) (.cons (.wake 1)
      (.nil _)))), rfl, rfl⟩
  refine ⟨s, _, hrun, .discard herrand, hcount, ?_⟩
  obtain ⟨earlier, s₀, since, hevents, -, -, hnever⟩ :=
    (cancelled_timer_never_fires hrun).1 0 1 true _ (.discard herrand)
  refine hnever ?_
  cases earlier with
  | nil => cases hevents
  | cons e earlier =>
      rw [List.cons_append] at hevents
      rw [(List.cons.inj hevents).1]
      exact List.mem_cons_self

end ScriptHost.Timers.Shared
