import ScriptHost.Proofs.Ready.Index

/-!
# Where queued callbacks go

A callback that the queue has accepted waits in it until it leaves, and it leaves in one of three
ways: with a batch that is drained, because its timer is discarded, or because the queue is cleared.

The ledger says which way each of them went.  It is kept from the calls and their answers alone
(`Ledger.enter`), so it knows nothing of the index, by which the queue itself decides what to coalesce
and what to discard.  That the queue does what the ledger says is one equation (`Accounted.kept`):
without the callbacks that were discarded or cleared, the ledger lists what has been drained and then
what is still in the queue.
-/

namespace ScriptHost.Ready

/-- What has become of an accepted callback. -/
inductive Fate where
  | waiting
  | drained
  | discarded
  | cleared
  deriving DecidableEq

/-- Whether the callback was handed out or still can be. -/
def Fate.isKept : Fate → Bool
  | .waiting | .drained => true
  | .discarded | .cleared => false

/-- A call to the queue. -/
inductive Queue.Call where
  | enqueue (c : Callback)
  | drain
  | discard (id : Nat)
  | clear

/-- Whether a call offers a callback. -/
def Queue.Call.isEnqueue : Queue.Call → Bool
  | .enqueue _ => true
  | _ => false

/-- A call with its answer. -/
inductive Queue.Record where
  | enqueued (c : Callback) (accepted : Bool)
  | drained (batch : List Callback)
  | discarded (id : Nat) (found : Bool)
  | cleared (dropped : Nat)

namespace Queue.Record

/-- The call that was answered. -/
def call : Record → Call
  | enqueued c _ => .enqueue c
  | drained _ => .drain
  | discarded id _ => .discard id
  | cleared _ => .clear

/-- The callback that was accepted. -/
def accepted? : Record → Option Callback
  | enqueued c true => some c
  | _ => none

/-- The batch that was handed out. -/
def batch : Record → List Callback
  | drained batch => batch
  | _ => []

/-- Whether a timer was discarded that had an entry. -/
def isDiscard : Record → Bool
  | discarded _ found => found
  | _ => false

/-- How many entries were cleared. -/
def dropped : Record → Nat
  | cleared dropped => dropped
  | _ => 0

/-- How many entries have been cleared over a history. -/
def allDropped : List Record → Nat
  | [] => 0
  | r :: records => r.dropped + allDropped records

theorem allDropped_concat (records : List Record) (r : Record) :
    allDropped (records ++ [r]) = allDropped records + r.dropped := by
  induction records with
  | nil => exact Nat.add_comm _ _
  | cons first records ih => exact (congrArg (first.dropped + ·) ih).trans (Nat.add_assoc _ _ _).symm

end Queue.Record

/-- The accepted callbacks in the order of their acceptance, each with its fate. -/
abbrev Ledger := List (Callback × Fate)

namespace Ledger

/-- Whether a callback waits and satisfies a test. -/
def awaits (p : Callback → Bool) (e : Callback × Fate) : Bool := e.2 = .waiting && p e.1

/-- The waiting callbacks that satisfy a test meet their fate. -/
def settle (l : Ledger) (p : Callback → Bool) (fate : Fate) : Ledger :=
  l.map fun e => if awaits p e then (e.1, fate) else e

/-- Enter a call with its answer. -/
def enter (l : Ledger) : Queue.Record → Ledger
  | .enqueued c accepted => if accepted then l ++ [(c, .waiting)] else l
  | .drained _ => l.settle (fun _ => true) .drained
  | .discarded id found => if found then l.settle (·.target = .timer id) .discarded else l
  | .cleared _ => l.settle (fun _ => true) .cleared

/-- The ledger of a history. -/
def ofRecords (records : List Queue.Record) : Ledger := records.foldl enter []

/-- The part of the ledger without callbacks that were discarded or cleared. -/
def kept (l : Ledger) : Ledger := l.filter (·.2.isKept)

/-- First what has been drained, and then what is waiting. -/
def listed (drained waiting : List Callback) : Ledger :=
  drained.map (·, .drained) ++ waiting.map (·, .waiting)

/-- How many callbacks have met a fate. -/
def count (l : Ledger) (fate : Fate) : Nat := l.countP (·.2 = fate)

theorem ofRecords_concat (records : List Queue.Record) (r : Queue.Record) :
    ofRecords (records ++ [r]) = (ofRecords records).enter r := by
  rw [ofRecords, List.foldl_append]
  rfl

theorem eq_waiting_of_awaits {p : Callback → Bool} {e : Callback × Fate} (h : awaits p e = true) :
    e.2 = .waiting := by
  rw [awaits, Bool.and_eq_true, decide_eq_true_eq] at h
  exact h.1

theorem enter_accepted (l : Ledger) (c : Callback) :
    l.enter (.enqueued c true) = l ++ [(c, .waiting)] := rfl

theorem enter_coalesced (l : Ledger) (c : Callback) : l.enter (.enqueued c false) = l := rfl

theorem enter_drained (l : Ledger) (batch : List Callback) :
    l.enter (.drained batch) = l.settle (fun _ => true) .drained := rfl

theorem enter_found (l : Ledger) (id : Nat) :
    l.enter (.discarded id true) = l.settle (·.target = .timer id) .discarded := rfl

theorem enter_not_found (l : Ledger) (id : Nat) : l.enter (.discarded id false) = l := rfl

theorem enter_cleared (l : Ledger) (dropped : Nat) :
    l.enter (.cleared dropped) = l.settle (fun _ => true) .cleared := rfl

theorem listed_concat (drained waiting : List Callback) (c : Callback) :
    listed drained waiting ++ [(c, .waiting)] = listed drained (waiting ++ [c]) := by
  rw [listed, listed, List.append_assoc, List.map_append]
  rfl

theorem map_fst_listed (drained waiting : List Callback) :
    (listed drained waiting).map Prod.fst = drained ++ waiting := by
  simp [listed, Function.comp_def]

theorem map_drained_listed (drained waiting : List Callback) :
    ((listed drained waiting).map fun e => (e.1, .drained)) = listed (drained ++ waiting) [] := by
  simp [listed, Function.comp_def]

theorem filter_listed (drained waiting : List Callback) (p : Callback → Bool) :
    ((listed drained waiting).filter fun e => !awaits p e) =
      listed drained (waiting.filter fun c => !p c) := by
  have hall : drained.filter (fun _ => true) = drained := List.filter_eq_self.2 fun _ _ => rfl
  simp [listed, List.filter_map, Function.comp_def, awaits, hall]

theorem countP_listed (drained waiting : List Callback) (p : Callback → Bool) :
    (listed drained waiting).countP (awaits p) = waiting.countP p := by
  simp [listed, List.countP_map, Function.comp_def, awaits]

variable (l : Ledger) (p : Callback → Bool)

/-- Where nothing that waits satisfies the test, nothing is settled. -/
theorem settle_of_none {l : Ledger} {p : Callback → Bool} (hnone : l.countP (awaits p) = 0)
    (fate : Fate) : l.settle p fate = l := by
  rw [settle]
  refine (List.map_congr_left fun e hmem => ?_).trans (List.map_id l)
  rw [if_neg (List.countP_eq_zero.1 hnone e hmem)]
  rfl

theorem map_fst_settle (fate : Fate) : (l.settle p fate).map Prod.fst = l.map Prod.fst := by
  rw [settle, List.map_map]
  refine List.map_congr_left fun e _ => ?_
  rw [Function.comp_apply]
  split <;> rfl

/-- Every accepted callback has one of the four fates. -/
theorem length_eq : l.length = l.count .waiting + l.count .drained + l.count .discarded +
    l.count .cleared := by
  induction l with
  | nil => rfl
  | cons e l ih =>
      obtain ⟨c, fate⟩ := e
      simp only [count, List.length_cons, List.countP_cons] at ih ⊢
      cases fate <;> simp <;> omega

theorem length_kept : l.kept.length = l.count .waiting + l.count .drained := by
  induction l with
  | nil => rfl
  | cons e l ih =>
      obtain ⟨c, fate⟩ := e
      simp only [kept, count, List.filter_cons, List.countP_cons] at ih ⊢
      cases fate <;> simp [Fate.isKept] <;> simp [Fate.isKept] at ih <;> omega

/-- The callbacks that are settled are counted under their fate, and under no other. -/
theorem count_settle {fate other : Fate} (hother : other ≠ .waiting) :
    (l.settle p fate).count other = l.count other + if other = fate then l.countP (awaits p) else 0 := by
  induction l with
  | nil => simp [settle, count]
  | cons e l ih =>
      simp only [settle, count, List.map_cons, List.countP_cons] at ih ⊢
      rw [ih]
      by_cases hawaits : awaits p e = true
      · have hne : e.2 ≠ other := fun heq => hother (heq ▸ eq_waiting_of_awaits hawaits)
        by_cases hfate : other = fate
        · simp [hawaits, hfate ▸ hne, hfate]
          omega
        · simp [hawaits, hne, hfate, Ne.symm hfate]
      · simp only [hawaits]
        split <;> simp
        omega

/-- Callbacks that are drained stay listed. -/
theorem kept_settle_drained :
    (l.settle (fun _ => true) .drained).kept = l.kept.map fun e => (e.1, .drained) := by
  induction l with
  | nil => rfl
  | cons e l ih =>
      obtain ⟨c, fate⟩ := e
      rw [kept, kept, settle, List.map_cons, List.filter_cons, List.filter_cons, ← settle, ← kept, ih]
      cases fate <;> rfl

/-- Callbacks that are discarded or cleared are not. -/
theorem kept_settle_gone {fate : Fate} (hgone : fate.isKept = false) :
    (l.settle p fate).kept = l.kept.filter fun e => !awaits p e := by
  induction l with
  | nil => rfl
  | cons e l ih =>
      rw [kept, kept, settle, List.map_cons, List.filter_cons, List.filter_cons, ← settle, ← kept, ih]
      by_cases hawaits : awaits p e = true
      · have hkept : e.2.isKept = true := by
          rw [eq_waiting_of_awaits hawaits]
          rfl
        simp [hawaits, hgone, hkept, kept]
      · cases hkept : e.2.isKept <;> simp [hawaits, hkept, kept]

/-- Waiting callbacks are among those that are kept. -/
theorem countP_awaits : l.countP (awaits p) = l.kept.countP (awaits p) := by
  rw [kept, List.countP_filter]
  refine List.countP_congr fun e _ => ?_
  rw [Bool.and_eq_true]
  refine ⟨fun hawaits => ⟨hawaits, ?_⟩, And.left⟩
  rw [eq_waiting_of_awaits hawaits]
  rfl

end Ledger

namespace Queue

/-- Answer a call. -/
def answer (q : Queue) : Call → Record × Queue
  | .enqueue c => (.enqueued c (q.enqueue c).1, (q.enqueue c).2)
  | .drain => (.drained q.drain.1, q.drain.2)
  | .discard id => (.discarded id (q.discard id).1, (q.discard id).2)
  | .clear => (.cleared q.clear.1, q.clear.2)

/-- Answer one call after the other: the calls with their answers, and the queue afterwards. -/
def follow (q : Queue) : List Call → List Record × Queue
  | [] => ([], q)
  | c :: calls =>
      let (r, q) := q.answer c
      let (records, q) := q.follow calls
      (r :: records, q)

theorem follow_append (first second : List Call) : ∀ q : Queue,
    (q.follow (first ++ second)).2 = ((q.follow first).2.follow second).2 := by
  induction first with
  | nil => exact fun _ => rfl
  | cons c first ih => exact fun q => ih (q.answer c).2

theorem map_call_follow (calls : List Call) : ∀ q : Queue, (q.follow calls).1.map Record.call = calls := by
  induction calls with
  | nil => exact fun _ => rfl
  | cons c calls ih =>
      intro q
      show (q.answer c).1.call :: ((q.answer c).2.follow calls).1.map Record.call = c :: calls
      rw [ih]
      cases c <;> rfl

/-- What the ledger of a history says of the queue. -/
structure Accounted (records : List Record) (q : Queue) : Prop where
  indexed : q.Indexed
  kept : (Ledger.ofRecords records).kept =
    .listed (records.flatMap Record.batch) q.entries
  entered : (Ledger.ofRecords records).map Prod.fst = records.filterMap Record.accepted?
  discarded : (Ledger.ofRecords records).count .discarded = records.countP Record.isDiscard
  cleared : (Ledger.ofRecords records).count .cleared = Record.allDropped records
  accepted : q.accepted = (Ledger.ofRecords records).length
  enqueued : q.accepted + q.coalesced = records.countP (·.call.isEnqueue)
  completions : ∀ c accepted id, .enqueued c accepted ∈ records → c.target = .completion id →
    accepted = true

theorem accounted_empty : Accounted [] empty where
  indexed := indexed_empty
  kept := rfl
  entered := rfl
  discarded := rfl
  cleared := rfl
  accepted := rfl
  enqueued := rfl
  completions _ _ _ h := by cases h

namespace Accounted

variable {records : List Record} {q : Queue}

/-- The waiting callbacks of the ledger are the entries of the queue. -/
theorem countP_awaits (h : Accounted records q) (p : Callback → Bool) :
    (Ledger.ofRecords records).countP (Ledger.awaits p) = q.entries.countP p := by
  rw [Ledger.countP_awaits, h.kept, Ledger.countP_listed]

/-- As many callbacks have been accepted as have a fate. -/
theorem accepted_eq (h : Accounted records q) :
    q.accepted = (records.flatMap Record.batch).length + records.countP Record.isDiscard +
      Record.allDropped records + q.size := by
  have hfates := Ledger.length_eq (Ledger.ofRecords records)
  have hkept := congrArg List.length h.kept
  rw [Ledger.length_kept, Ledger.listed, List.length_append, List.length_map, List.length_map]
    at hkept
  rw [h.accepted, ← h.discarded, ← h.cleared, size]
  omega

/-! ## One call -/

theorem accept (h : Accounted records q) {c : Callback} (hadmits : q.admits c.target = true) :
    Accounted (records ++ [.enqueued c true]) (q.push c).signal where
  indexed := by
    have hoffer := h.indexed.offer c
    rw [offer, if_pos hadmits] at hoffer
    exact hoffer.congr rfl rfl
  kept := by
    rw [Ledger.ofRecords_concat, Ledger.enter_accepted, Ledger.kept, List.filter_append,
      ← Ledger.kept, h.kept, List.flatMap_append]
    show _ ++ [(c, .waiting)] = Ledger.listed (_ ++ []) (q.entries ++ [c])
    rw [Ledger.listed_concat, List.append_nil]
  entered := by
    rw [Ledger.ofRecords_concat, Ledger.enter_accepted, List.filterMap_append, ← h.entered]
    exact List.map_append
  discarded := by
    rw [Ledger.ofRecords_concat, List.countP_append, ← h.discarded]
    exact List.countP_append
  cleared := by
    rw [Ledger.ofRecords_concat, Record.allDropped_concat, ← h.cleared]
    exact List.countP_append
  accepted := by
    rw [Ledger.ofRecords_concat, Ledger.enter_accepted, List.length_append, ← h.accepted]
    rfl
  enqueued := by
    rw [List.countP_append, ← h.enqueued]
    show q.accepted + 1 + q.coalesced = q.accepted + q.coalesced + 1
    omega
  completions := by
    intro other accepted id hmem htarget
    rcases List.mem_append.1 hmem with hold | hlast
    · exact h.completions other accepted id hold htarget
    · cases List.mem_singleton.1 hlast
      rfl

theorem coalesce (h : Accounted records q) {c : Callback} (hadmits : q.admits c.target = false) :
    Accounted (records ++ [.enqueued c false]) q.coalesce where
  indexed := h.indexed.congr rfl rfl
  kept := by
    rw [Ledger.ofRecords_concat, Ledger.enter_coalesced, h.kept, List.flatMap_append]
    show _ = Ledger.listed (_ ++ []) q.entries
    rw [List.append_nil]
  entered := by
    rw [Ledger.ofRecords_concat, List.filterMap_append, ← h.entered]
    exact (List.append_nil _).symm
  discarded := by
    rw [Ledger.ofRecords_concat, List.countP_append, ← h.discarded]
    rfl
  cleared := by
    rw [Ledger.ofRecords_concat, Record.allDropped_concat, ← h.cleared]
    rfl
  accepted := by
    rw [Ledger.ofRecords_concat]
    exact h.accepted
  enqueued := by
    rw [List.countP_append, ← h.enqueued]
    rfl
  completions := by
    intro other accepted id hmem htarget
    rcases List.mem_append.1 hmem with hold | hlast
    · exact h.completions other accepted id hold htarget
    · cases List.mem_singleton.1 hlast
      rw [htarget] at hadmits
      cases hadmits

theorem enqueue (h : Accounted records q) (c : Callback) :
    Accounted (records ++ [(q.answer (.enqueue c)).1]) (q.answer (.enqueue c)).2 := by
  cases hadmits : q.admits c.target with
  | true =>
      have hanswer : q.answer (.enqueue c) = (.enqueued c true, (q.push c).signal) := by
        simp [answer, Queue.enqueue, offer, hadmits]
      rw [hanswer]
      exact h.accept hadmits
  | false =>
      have hanswer : q.answer (.enqueue c) = (.enqueued c false, q.coalesce) := by
        simp [answer, Queue.enqueue, offer, hadmits]
      rw [hanswer]
      exact h.coalesce hadmits

/-- A call by which waiting callbacks meet their fate. -/
theorem settle (h : Accounted records q) {r : Record} {p : Callback → Bool} {fate : Fate} {q' : Queue}
    (henter : (Ledger.ofRecords records).enter r = (Ledger.ofRecords records).settle p fate)
    (hcall : r.call.isEnqueue = false)
    (hdiscarded : (if Fate.discarded = fate then q.entries.countP p else 0) =
      if r.isDiscard then 1 else 0)
    (hcleared : (if Fate.cleared = fate then q.entries.countP p else 0) = r.dropped)
    (hindexed : q'.Indexed) (haccepted : q'.accepted = q.accepted)
    (hcoalesced : q'.coalesced = q.coalesced)
    (hkept : ((Ledger.ofRecords records).settle p fate).kept =
      .listed (records.flatMap Record.batch ++ r.batch) q'.entries) :
    Accounted (records ++ [r]) q' where
  indexed := hindexed
  kept := by
    rw [Ledger.ofRecords_concat, henter, hkept, List.flatMap_append, List.flatMap_singleton]
  entered := by
    have hnone : r.accepted? = none := by
      cases r with
      | enqueued => cases hcall
      | drained | discarded | cleared => rfl
    rw [Ledger.ofRecords_concat, henter, Ledger.map_fst_settle, h.entered, List.filterMap_append]
    simp [hnone]
  discarded := by
    rw [Ledger.ofRecords_concat, henter, Ledger.count_settle _ _ (by decide), h.countP_awaits,
      hdiscarded, h.discarded, List.countP_append, List.countP_singleton]
  cleared := by
    rw [Ledger.ofRecords_concat, henter, Ledger.count_settle _ _ (by decide), h.countP_awaits,
      hcleared, h.cleared, Record.allDropped_concat]
  accepted := by
    rw [Ledger.ofRecords_concat, henter, haccepted, h.accepted, Ledger.settle, List.length_map]
  enqueued := by
    rw [haccepted, hcoalesced, h.enqueued, List.countP_append, List.countP_singleton, hcall]
    rfl
  completions := by
    intro c accepted id hmem htarget
    rcases List.mem_append.1 hmem with hold | hlast
    · exact h.completions c accepted id hold htarget
    · rw [← List.mem_singleton.1 hlast] at hcall
      cases hcall

theorem drain (h : Accounted records q) :
    Accounted (records ++ [(q.answer .drain).1]) (q.answer .drain).2 := by
  refine h.settle (Ledger.enter_drained _ _) rfl rfl rfl (indexed_drain q) rfl rfl ?_
  rw [Ledger.kept_settle_drained, h.kept, Ledger.map_drained_listed]
  rfl

theorem clear (h : Accounted records q) :
    Accounted (records ++ [(q.answer .clear).1]) (q.answer .clear).2 := by
  refine h.settle (Ledger.enter_cleared _ _) rfl rfl ?_ (indexed_clear q) rfl rfl ?_
  · rw [if_pos rfl, List.countP_true]
    rfl
  · rw [Ledger.kept_settle_gone _ _ rfl, h.kept, Ledger.filter_listed]
    show _ = Ledger.listed (_ ++ []) []
    rw [List.append_nil, List.filter_eq_nil_iff.2 (by simp)]

theorem discard (h : Accounted records q) (id : Nat) :
    Accounted (records ++ [(q.answer (.discard id)).1]) (q.answer (.discard id)).2 := by
  have hcount : q.entries.countP (·.target = .timer id) = if id ∈ q.waiting then 1 else 0 :=
    h.indexed id
  by_cases hin : id ∈ q.waiting
  · have hfound : (q.answer (.discard id)).1 = .discarded id true := by
      simp [answer, Queue.discard, hin]
    have hafter : (q.answer (.discard id)).2 =
        { q with
          entries := q.entries.filter (·.target ≠ .timer id)
          waiting := q.waiting.filter (· ≠ id) } := discard_of_mem hin
    rw [if_pos hin] at hcount
    rw [hfound]
    refine h.settle (Ledger.enter_found _ id) rfl hcount rfl (h.indexed.discard id)
      (by rw [hafter]) (by rw [hafter]) ?_
    rw [Ledger.kept_settle_gone _ _ rfl, h.kept, Ledger.filter_listed, hafter]
    show _ = Ledger.listed (_ ++ []) _
    rw [List.append_nil]
    simp
  · have hanswer : q.answer (.discard id) = (.discarded id false, q) := by
      simp [answer, Queue.discard, hin]
    -- no entry waits for the timer, so discarding it would settle nothing
    rw [if_neg hin] at hcount
    have hnone := Ledger.settle_of_none ((h.countP_awaits _).trans hcount) .discarded
    rw [hanswer]
    refine h.settle ((Ledger.enter_not_found _ id).trans hnone.symm) rfl ?_ rfl h.indexed rfl rfl ?_
    · rw [if_pos rfl, hcount]
      rfl
    · rw [hnone, h.kept]
      show _ = Ledger.listed (_ ++ []) _
      rw [List.append_nil]

/-! ## A history -/

theorem answer (h : Accounted records q) (c : Call) :
    Accounted (records ++ [(q.answer c).1]) (q.answer c).2 := by
  cases c with
  | enqueue c => exact h.enqueue c
  | drain => exact h.drain
  | discard id => exact h.discard id
  | clear => exact h.clear

theorem follow (calls : List Call) : ∀ {records : List Record} {q : Queue}, Accounted records q →
    Accounted (records ++ (q.follow calls).1) (q.follow calls).2 := by
  induction calls with
  | nil =>
      intro records q h
      rw [Queue.follow, List.append_nil]
      exact h
  | cons c calls ih =>
      intro records q h
      have hrest := ih (h.answer c)
      rw [List.append_assoc] at hrest
      exact hrest

end Accounted

/-- **Nothing is lost, doubled or reordered by the queue.**  Take any calls to a new queue, with their
answers.  The ledger lists what was accepted in its order.  Without the callbacks that were discarded
or cleared it is what all batches have handed out, one after the other, followed by what is still in
the queue; a discard that finds its timer takes out one callback, and a clear as many as it says.

Completions are always accepted.  The count of accepted callbacks is the sum of those that were drained,
discarded and cleared and of those still in the queue, and together with the count of the coalesced
ones it is the number of calls that have offered a callback.  So neither count is greater than the number
of calls, and as long as that fits into a word they do. -/
theorem conserved_over_history (calls : List Call) :
    let records := (empty.follow calls).1
    let q := (empty.follow calls).2
    let ledger := Ledger.ofRecords records
    ledger.map Prod.fst = records.filterMap Record.accepted? ∧
    ledger.kept.map Prod.fst = records.flatMap Record.batch ++ q.entries ∧
    ledger.count .discarded = records.countP Record.isDiscard ∧
    ledger.count .cleared = Record.allDropped records ∧
    (∀ c accepted id, .enqueued c accepted ∈ records → c.target = .completion id →
      accepted = true) ∧
    q.accepted = (records.flatMap Record.batch).length + records.countP Record.isDiscard +
      Record.allDropped records + q.size ∧
    q.accepted + q.coalesced = calls.countP Call.isEnqueue := by
  intro records q ledger
  have h : Accounted records q := accounted_empty.follow calls
  refine ⟨h.entered, ?_, h.discarded, h.cleared, h.completions, h.accepted_eq, ?_⟩
  · rw [h.kept, Ledger.map_fst_listed]
  · rw [h.enqueued, ← map_call_follow calls empty, List.countP_map]
    rfl

/-- A timer whose firing was discarded may wait again. -/
example : Ledger.ofRecords
    (empty.follow [.enqueue (.firing 1), .discard 1, .enqueue (.firing 1), .drain]).1 =
      [(.firing 1, .discarded), (.firing 1, .drained)] := rfl

end Queue
end ScriptHost.Ready
