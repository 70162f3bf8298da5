import ScriptHost.Timer.Basic

/-!
# Timers on an exact clock

On an exact clock the wake-up of a timer happens when the clock reaches its due time.  While time
passes (`sleep`) the clock goes from due time to due time; when it is set forward (`jump`) everything
that has become due fires at the new time.  Either way timers fire one by one, the one with the
earliest due time first and, of equal due times, the one armed first.

`run` ends because every firing takes a timer out or moves its due time forward by at least one
millisecond, so the distance that all live timers together still have to the limit (`slack`)
shrinks.
-/

namespace ScriptHost.Timers

open Ready (Queue)

/-- Whether a timer fires before another one. -/
def firesBefore (a b : Timer) : Bool :=
  a.due < b.due || (a.due = b.due && a.arming < b.arming)

/-- The entry that fires first. -/
def earliest : List (Nat × Timer) → Option (Nat × Timer)
  | [] => none
  | e :: rest =>
      match earliest rest with
      | none => some e
      | some best => if firesBefore best.2 e.2 then some best else some e

theorem earliest_mem : ∀ {entries : List (Nat × Timer)} {e : Nat × Timer},
    earliest entries = some e → e ∈ entries
  | [], _, h => by simp [earliest] at h
  | first :: rest, e, h => by
      rw [earliest] at h
      split at h
      · cases h; exact List.mem_cons_self
      · rename_i best hbest
        split at h
        · cases h; exact List.mem_cons_of_mem _ (earliest_mem hbest)
        · cases h; exact List.mem_cons_self

/-- The live timer that fires first, if it is due by a given time. -/
def firstDue (t : Timers) (limit : Nat) : Option (Nat × Timer) :=
  earliest (t.live.entries.filter (·.2.due ≤ limit))

/-- The distance of due times to a limit, added up. -/
def slackOf (limit : Nat) : List (Nat × Timer) → Nat
  | [] => 0
  | e :: rest => (limit + 1 - e.2.due) + slackOf limit rest

/-- The distance of all live timers to a limit. -/
def slack (t : Timers) (limit : Nat) : Nat := slackOf limit t.live.entries

/-- Fire a live timer at a given time, and arm it again if it repeats. -/
def fireAt (t : Timers) (q : Queue) (id : Nat) (time : Nat) : Timers × Queue :=
  let t := { t with now := time }
  let (t, q) := t.fire q id
  (t.rearm id, q)

theorem slackOf_filter_lt {limit : Nat} {k : Nat} {timer : Timer} :
    ∀ {entries : List (Nat × Timer)}, (k, timer) ∈ entries → timer.due ≤ limit →
      slackOf limit (entries.filter fun e => e.1 ≠ k) < slackOf limit entries
  | [], h, _ => by simp at h
  | e :: rest, h, hdue => by
      have hle : ∀ es : List (Nat × Timer),
          slackOf limit (es.filter fun e => e.1 ≠ k) ≤ slackOf limit es := by
        intro es
        induction es with
        | nil => simp [slackOf]
        | cons f fs ih =>
            by_cases hf : f.1 = k <;> simp [slackOf, hf] at ih ⊢ <;> omega
      by_cases he : e.1 = k
      · have := hle rest
        have hpos : 0 < limit + 1 - e.2.due ∨ (k, timer) ∈ rest := by
          rcases List.mem_cons.1 h with h | h
          · left; rw [← h]; show 0 < limit + 1 - timer.due; omega
          · exact Or.inr h
        rcases hpos with hpos | hmem
        · simp [slackOf, he] at this ⊢
          omega
        · have := slackOf_filter_lt hmem hdue
          simp [slackOf, he] at this ⊢
          omega
      · have hmem : (k, timer) ∈ rest := by
          rcases List.mem_cons.1 h with h | h
          · exact absurd (by rw [← h]) he
          · exact h
        have := slackOf_filter_lt hmem hdue
        simp [slackOf, he] at this ⊢
        omega

theorem slackOf_map_lt {limit : Nat} {k : Nat} {timer : Timer} {f : Timer → Timer}
    (hf : ∀ other : Timer, limit + 1 - (f other).due ≤ limit + 1 - (f timer).due)
    (hlt : limit + 1 - (f timer).due < limit + 1 - timer.due) :
    ∀ {entries : List (Nat × Timer)}, (entries.map (·.1)).Nodup → (k, timer) ∈ entries →
      slackOf limit (entries.map fun e => (e.1, if e.1 = k then f e.2 else e.2)) <
        slackOf limit entries
  | [], _, h => by simp at h
  | e :: rest, hnodup, h => by
      have ⟨hnot, hrest⟩ := List.nodup_cons.1 hnodup
      by_cases he : e.1 = k
      · have hout : ∀ e' ∈ rest, e'.1 ≠ k := by
          intro e' hm hk
          exact hnot (List.mem_map.2 ⟨e', hm, hk.trans he.symm⟩)
        have hsame : (rest.map fun e => (e.1, if e.1 = k then f e.2 else e.2)) = rest := by
          conv => rhs; rw [← List.map_id rest]
          apply List.map_congr_left
          intro e' hm
          simp [hout e' hm]
        have hval : e = (k, timer) := by
          rcases List.mem_cons.1 h with h | h
          · exact h.symm
          · exact absurd rfl (hout _ h)
        subst hval
        have hs : slackOf limit ((k, timer) :: rest |>.map
            fun e => (e.1, if e.1 = k then f e.2 else e.2)) =
            (limit + 1 - (f timer).due) + slackOf limit rest := by
          simp only [List.map_cons, if_true, hsame]
          simp [slackOf]
        rw [hs]
        simp only [slackOf]
        omega
      · have hmem : (k, timer) ∈ rest := by
          rcases List.mem_cons.1 h with h | h
          · exact absurd (by rw [← h]) he
          · exact h
        have ih := slackOf_map_lt hf hlt hrest hmem
        simp only [slackOf, List.map_cons, he, if_false] at ih ⊢
        omega

theorem slack_fireAt_lt {t : Timers} {q : Queue} {id limit time : Nat} {timer : Timer}
    (hmem : (id, timer) ∈ t.live.entries) (hdue : timer.due ≤ limit) :
    (t.fireAt q id time).1.slack limit < t.slack limit := by
  have hget : t.live.get? id = some timer := (Table.get?_eq_some_iff _ _ _).2 hmem
  by_cases hrep : timer.repeating = true
  · have hpos := timer.delay_pos hrep
    have hnext : timer.due + timer.delay ≤ nextDue timer time := by
      unfold nextDue
      split <;> omega
    simp only [fireAt, fire, hget, hrep, if_true, rearm, slack, Table.modify, Table.mapValues]
    refine @slackOf_map_lt limit id timer
      (fun old => { old with due := nextDue timer time, arming := t.armings })
      (fun _ => Nat.le_refl _) ?_ _ t.live.nodup_keys hmem
    show limit + 1 - nextDue timer time < limit + 1 - timer.due
    omega
  · have hgone : (t.live.erase id).get? id = none := by simp
    simp only [fireAt, fire, hget, hrep, rearm, slack, Bool.false_eq_true, if_false, hgone]
    exact slackOf_filter_lt hmem hdue

theorem firstDue_spec {t : Timers} {limit : Nat} {e : Nat × Timer}
    (h : t.firstDue limit = some e) : e ∈ t.live.entries ∧ e.2.due ≤ limit := by
  have := List.mem_filter.1 (earliest_mem h)
  simpa using this

/-- Fire everything that is due by a limit, and let the clock follow to each due time. -/
def run (t : Timers) (q : Queue) (limit : Nat) : Timers × Queue :=
  match _h : t.firstDue limit with
  | none => (t, q)
  | some (id, timer) =>
      let next := t.fireAt q id (max t.now timer.due)
      run next.1 next.2 limit
termination_by t.slack limit
decreasing_by
  have ⟨hmem, hdue⟩ := firstDue_spec _h
  exact slack_fireAt_lt hmem hdue

/-- Fire everything that is due now. -/
def settle (t : Timers) (q : Queue) : Timers × Queue := t.run q t.now

/-- Let time pass. -/
def sleep (t : Timers) (q : Queue) (millis : Nat) : Timers × Queue :=
  let limit := t.now + millis
  let (t, q) := t.run q limit
  ({ t with now := limit }, q)

/-- Set the clock forward, and then fire everything that is due. -/
def jump (t : Timers) (q : Queue) (millis : Nat) : Timers × Queue :=
  { t with now := t.now + millis }.settle q

end ScriptHost.Timers
