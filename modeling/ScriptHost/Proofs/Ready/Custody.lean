import ScriptHost.Proofs.Data.Table
import ScriptHost.Proofs.Ready.Registered

/-!
# Where registered closures go

A closure that has been registered stays in the table until it leaves it, and it leaves in one of two
ways: its timer is given another closure in its place, or it is handed out, for a call that uses it up,
because it is released, or together with all others.

The book says which way each of them went.  It has one deposit for each registration, in order, and is
kept from the calls and their answers alone (`Book.enter`).  That the table does what the book says is
two equations: what the book says is stored is what the table has (`Accounted.stored`), and what it
says has been handed out is what the answers have handed out (`Accounted.handedOut`).
-/

namespace ScriptHost.Ready.Closures

variable {α : Type}

/-! ## Calls -/

/-- A call to the table. -/
inductive Call (α : Type) where
  | insertTimer (id : Nat) (value : α) (repeating : Bool)
  | insertCompletion (value : α)
  | resolve (target : Target)
  | release (target : Target)
  | drain

/-- Whether a call registers the closure of an operation. -/
def Call.isCompletion : Call α → Bool
  | .insertCompletion _ => true
  | _ => false

/-- The one target that a call is about, if the caller names one. -/
def Call.target? : Call α → Option Target
  | .insertTimer id _ _ => some (.timer id)
  | .resolve target | .release target => some target
  | .insertCompletion _ | .drain => none

/-- A call with its answer. -/
inductive Record (α : Type) where
  | insertedTimer (id : Nat) (value : α) (repeating : Bool)
  | insertedCompletion (value : α) (id : Nat)
  | resolved (target : Target) (found : Option (Resolved α))
  | released (target : Target) (found : Option α)
  | drained (values : List α)

namespace Record

/-- The closure that was registered, with its target. -/
def entry? : Record α → Option (Target × Closure α)
  | insertedTimer id value repeating => some (.timer id, ⟨value, repeating⟩)
  | insertedCompletion value id => some (.completion id, ⟨value, false⟩)
  | _ => none

/-- The number that was given to an operation. -/
def number? : Record α → Option Nat
  | insertedCompletion _ id => some id
  | _ => none

/-- The closures that were handed out for good. -/
def handedOut : Record α → List α
  | resolved _ (some (.removed value)) => [value]
  | released _ found => found.toList
  | drained values => values
  | _ => []

end Record

/-- Answer a call. -/
def answer (t : Closures α) : Call α → Record α × Closures α
  | .insertTimer id value repeating =>
      (.insertedTimer id value repeating, t.insertTimer id value repeating)
  | .insertCompletion value =>
      (.insertedCompletion value (t.insertCompletion value).1, (t.insertCompletion value).2)
  | .resolve target => (.resolved target (t.resolve target).1, (t.resolve target).2)
  | .release target => (.released target (t.release target).1, (t.release target).2)
  | .drain => (.drained t.drain.1, t.drain.2)

/-- Answer one call after the other: the calls with their answers, and the table afterwards. -/
def follow (t : Closures α) : List (Call α) → List (Record α) × Closures α
  | [] => ([], t)
  | c :: calls =>
      let (r, t) := t.answer c
      let (records, t) := t.follow calls
      (r :: records, t)

theorem follow_append (first second : List (Call α)) : ∀ t : Closures α,
    t.follow (first ++ second) =
      ((t.follow first).1 ++ ((t.follow first).2.follow second).1,
        ((t.follow first).2.follow second).2) := by
  induction first with
  | nil => exact fun _ => rfl
  | cons c first ih =>
      intro t
      simp only [List.cons_append, follow, ih]

theorem follow_snoc (calls : List (Call α)) (c : Call α) (t : Closures α) :
    t.follow (calls ++ [c]) =
      ((t.follow calls).1 ++ [((t.follow calls).2.answer c).1],
        ((t.follow calls).2.answer c).2) :=
  follow_append calls [c] t

/-! ## The book -/

/-- What has become of a registered closure. -/
inductive Custody where
  | stored
  /-- Its timer has been given another closure. -/
  | replaced
  /-- It has been handed out for good. -/
  | handedOut
  deriving DecidableEq

/-- A registered closure, with its target and with what has become of it. -/
structure Deposit (α : Type) where
  target : Target
  closure : Closure α
  custody : Custody

/-- A closure with its target. -/
def Deposit.entry (d : Deposit α) : Target × Closure α := (d.target, d.closure)

/-- A closure leaves the table, if it is stored for certain targets. -/
def Deposit.settle (p : Target → Bool) (custody : Custody) (d : Deposit α) : Deposit α :=
  if d.custody = .stored ∧ p d.target = true then { d with custody } else d

section

variable {p : Target → Bool} {custody : Custody} {d : Deposit α}

@[simp] theorem Deposit.target_settle : (d.settle p custody).target = d.target := by
  rw [settle]
  split <;> rfl

@[simp] theorem Deposit.entry_settle : (d.settle p custody).entry = d.entry := by
  rw [settle]
  split <;> rfl

theorem Deposit.settle_of_stored (hstored : d.custody = .stored) (hp : p d.target = true) :
    d.settle p custody = { d with custody } := if_pos ⟨hstored, hp⟩

theorem Deposit.settle_of_left (hleft : d.custody ≠ .stored) : d.settle p custody = d :=
  if_neg fun h => hleft h.1

theorem Deposit.settle_of_other (hp : p d.target = false) : d.settle p custody = d :=
  if_neg fun h => by simp [hp] at h

end

/-- The registered closures in the order of their registration. -/
abbrev Book (α : Type) := List (Deposit α)

namespace Book

/-- The stored closures of certain targets leave the table. -/
def settle (b : Book α) (p : Target → Bool) (custody : Custody) : Book α :=
  b.map (·.settle p custody)

/-- Enter a call with its answer. -/
def enter (b : Book α) : Record α → Book α
  | .insertedTimer id value repeating =>
      b.settle (· = .timer id) .replaced ++ [⟨.timer id, ⟨value, repeating⟩, .stored⟩]
  | .insertedCompletion value id => b ++ [⟨.completion id, ⟨value, false⟩, .stored⟩]
  | .resolved target (some (.removed _)) => b.settle (· = target) .handedOut
  | .resolved _ _ => b
  | .released target (some _) => b.settle (· = target) .handedOut
  | .released _ none => b
  | .drained _ => b.settle (fun _ => true) .handedOut

/-- The book of a history. -/
def ofRecords (records : List (Record α)) : Book α := records.foldl enter []

/-- The registered closures of which the same has become. -/
def entriesIn (b : Book α) (custody : Custody) : List (Target × Closure α) :=
  (b.filter (·.custody = custody)).map Deposit.entry

variable {b : Book α} {p : Target → Bool} {custody other : Custody}

theorem ofRecords_snoc (records : List (Record α)) (r : Record α) :
    ofRecords (records ++ [r]) = (ofRecords records).enter r := by
  rw [ofRecords, List.foldl_append]
  rfl

theorem mem_entriesIn {e : Target × Closure α} :
    e ∈ b.entriesIn custody ↔ ∃ d ∈ b, d.custody = custody ∧ d.entry = e := by
  simp [entriesIn, and_assoc]

theorem entriesIn_cons (d : Deposit α) (b : Book α) (custody : Custody) :
    entriesIn (d :: b) custody =
      if d.custody = custody then d.entry :: entriesIn b custody else entriesIn b custody := by
  rw [entriesIn, List.filter_cons]
  split <;> simp_all [entriesIn]

theorem entriesIn_append (b more : Book α) (custody : Custody) :
    entriesIn (b ++ more) custody = b.entriesIn custody ++ more.entriesIn custody := by
  rw [entriesIn, List.filter_append, List.map_append]
  rfl

theorem map_entry_settle : (b.settle p custody).map Deposit.entry = b.map Deposit.entry := by
  rw [settle, List.map_map]
  exact List.map_congr_left fun d _ => Deposit.entry_settle

/-- What leaves the table is stored no more. -/
theorem entriesIn_settle_stored (hleft : custody ≠ .stored) :
    (b.settle p custody).entriesIn .stored = (b.entriesIn .stored).filter fun e => !p e.1 := by
  induction b with
  | nil => rfl
  | cons d b ih =>
      rw [settle, List.map_cons, entriesIn_cons, entriesIn_cons, ← settle, ih]
      by_cases hstored : d.custody = .stored
      · cases hp : p d.target with
        | true => simp [Deposit.settle_of_stored hstored hp, hstored, hp, hleft, Deposit.entry]
        | false => simp [Deposit.settle_of_other hp, hstored, hp, Deposit.entry]
      · rw [Deposit.settle_of_left hstored, if_neg hstored, if_neg hstored]

/-- What leaves the table joins those that have gone the same way. -/
theorem entriesIn_settle_perm (hleft : custody ≠ .stored) :
    ((b.settle p custody).entriesIn custody).Perm
      (b.entriesIn custody ++ (b.entriesIn .stored).filter fun e => p e.1) := by
  induction b with
  | nil => exact .refl _
  | cons d b ih =>
      rw [settle, List.map_cons, entriesIn_cons, entriesIn_cons, entriesIn_cons, ← settle]
      by_cases hstored : d.custody = .stored
      · have hne : d.custody ≠ custody := hstored ▸ hleft.symm
        rw [if_pos hstored, List.filter_cons]
        cases hp : p d.target with
        | true =>
            rw [Deposit.settle_of_stored hstored hp, if_pos rfl, if_neg hne,
              if_pos (show p d.entry.1 = true from hp)]
            exact (ih.cons d.entry).trans List.perm_middle.symm
        | false =>
            rw [Deposit.settle_of_other hp, if_neg hne, if_neg hne,
              if_neg (show ¬p d.entry.1 = true by simp [Deposit.entry, hp])]
            exact ih
      · rw [Deposit.settle_of_left hstored, if_neg hstored]
        split
        · exact ih.cons d.entry
        · exact ih

/-- Those that have gone another way are not touched. -/
theorem entriesIn_settle_of_ne (hother : other ≠ .stored) (hne : other ≠ custody) :
    (b.settle p custody).entriesIn other = b.entriesIn other := by
  induction b with
  | nil => rfl
  | cons d b ih =>
      rw [settle, List.map_cons, entriesIn_cons, entriesIn_cons, ← settle, ih]
      by_cases hstored : d.custody = .stored
      · cases hp : p d.target with
        | true =>
            rw [Deposit.settle_of_stored hstored hp, if_neg hne.symm, if_neg (hstored ▸ hother.symm)]
        | false => rw [Deposit.settle_of_other hp, if_neg (hstored ▸ hother.symm)]
      · rw [Deposit.settle_of_left hstored]

/-! ### What a later book says -/

/-- A later book has the same deposits and more, and what had left the table has gone the same
way. -/
structure Goes (b later : Book α) : Prop where
  entries : b.map Deposit.entry <+: later.map Deposit.entry
  left : ∀ (i : Nat) (d : Deposit α), b[i]? = some d → d.custody ≠ .stored → later[i]? = some d

theorem Goes.refl (b : Book α) : Goes b b := ⟨List.prefix_refl _, fun _ _ h _ => h⟩

theorem Goes.trans {next later : Book α} (h : Goes b next) (k : Goes next later) : Goes b later :=
  ⟨h.entries.trans k.entries, fun i d hd hleft => k.left i d (h.left i d hd hleft) hleft⟩

theorem goes_settle (b : Book α) (p : Target → Bool) (custody : Custody) :
    Goes b (b.settle p custody) where
  entries := ⟨[], by rw [List.append_nil, map_entry_settle]⟩
  left i d hd hleft := by
    rw [settle, List.getElem?_map, hd, Option.map_some, Deposit.settle_of_left hleft]

theorem goes_append (b more : Book α) : Goes b (b ++ more) where
  entries := by
    rw [List.map_append]
    exact List.prefix_append _ _
  left i d hd _ := by
    rw [List.getElem?_append_left (List.getElem?_eq_some_iff.1 hd).1, hd]

theorem goes_enter (b : Book α) (r : Record α) : Goes b (b.enter r) := by
  cases r with
  | insertedTimer id value repeating => exact (goes_settle b _ _).trans (goes_append _ _)
  | insertedCompletion value id => exact goes_append b _
  | resolved target found =>
      rcases found with _ | value | value
      · exact .refl b
      · exact .refl b
      · exact goes_settle b _ _
  | released target found =>
      cases found with
      | none => exact .refl b
      | some value => exact goes_settle b _ _
  | drained values => exact goes_settle b _ _

theorem goes_foldl (records : List (Record α)) : ∀ b : Book α, Goes b (records.foldl enter b) := by
  induction records with
  | nil => exact .refl
  | cons r records ih => exact fun b => (goes_enter b r).trans (ih _)

/-- Closures that have been replaced are those of timers, and their timers have been given other ones
since. -/
def Succeeded : Book α → Prop
  | [] => True
  | d :: b =>
      (d.custody = .replaced → ∃ id, d.target = .timer id ∧ ∃ next ∈ b, next.target = .timer id) ∧
        Succeeded b

theorem Succeeded.settle (h : Succeeded b) (hkept : custody ≠ .replaced) :
    Succeeded (b.settle p custody) := by
  induction b with
  | nil => trivial
  | cons d b ih =>
      refine ⟨fun (hreplaced : (d.settle p custody).custody = .replaced) => ?_, ih h.2⟩
      have hbefore : d.custody = .replaced := by
        rw [Deposit.settle] at hreplaced
        split at hreplaced
        · exact absurd hreplaced hkept
        · exact hreplaced
      obtain ⟨id, htarget, next, hmem, hnext⟩ := h.1 hbefore
      exact ⟨id, by rw [Deposit.target_settle, htarget], _, List.mem_map_of_mem hmem,
        by rw [Deposit.target_settle, hnext]⟩

theorem Succeeded.append (h : Succeeded b) {last : Deposit α} (hlast : last.custody = .stored) :
    Succeeded (b ++ [last]) := by
  induction b with
  | nil => exact ⟨fun hreplaced => (by cases hlast.symm.trans hreplaced), trivial⟩
  | cons d b ih =>
      refine ⟨fun hreplaced => ?_, ih h.2⟩
      obtain ⟨id, htarget, next, hmem, hnext⟩ := h.1 hreplaced
      exact ⟨id, htarget, next, List.mem_append_left _ hmem, hnext⟩

/-- The closure that a timer is given succeeds the one that it replaces. -/
theorem Succeeded.replace (h : Succeeded b) {id : Nat} {last : Deposit α}
    (htarget : last.target = .timer id) (hlast : last.custody = .stored) :
    Succeeded (b.settle (· = .timer id) .replaced ++ [last]) := by
  induction b with
  | nil => exact ⟨fun hreplaced => (by cases hlast.symm.trans hreplaced), trivial⟩
  | cons d b ih =>
      refine ⟨fun (hreplaced : (d.settle _ .replaced).custody = .replaced) => ?_, ih h.2⟩
      by_cases hbefore : d.custody = .replaced
      · obtain ⟨other, hother, next, hmem, hnext⟩ := h.1 hbefore
        exact ⟨other, by rw [Deposit.target_settle, hother], _,
          List.mem_append_left _ (List.mem_map_of_mem hmem), by rw [Deposit.target_settle, hnext]⟩
      · rw [Deposit.settle] at hreplaced
        split at hreplaced
        · rename_i hstored
          exact ⟨id, by rw [Deposit.target_settle]; exact of_decide_eq_true hstored.2, last,
            List.mem_append_right _ (List.mem_singleton_self _), htarget⟩
        · exact absurd hreplaced hbefore

end Book

/-! ## Book and table -/

/-- What the book of a history says of the table. -/
structure Accounted (records : List (Record α)) (t : Closures α) : Prop where
  entered : (Book.ofRecords records).map Deposit.entry = records.filterMap Record.entry?
  stored : (Book.ofRecords records).entriesIn .stored = t.table.entries
  handedOut : (records.flatMap Record.handedOut).Perm
    (((Book.ofRecords records).entriesIn .handedOut).map (·.2.value))
  succeeded : (Book.ofRecords records).Succeeded
  numbers : records.filterMap Record.number? = List.range' 1 (t.nextCompletion - 1)
  next_pos : 0 < t.nextCompletion
  /-- No closure has been registered for a number that is still to be given. -/
  known : ∀ e ∈ records.filterMap Record.entry?, ∀ id, e.1 = .completion id → id < t.nextCompletion

theorem accounted_empty : Accounted [] (empty : Closures α) where
  entered := rfl
  stored := rfl
  handedOut := .refl _
  succeeded := trivial
  numbers := rfl
  next_pos := Nat.one_pos
  known _ h := by cases h

namespace Accounted

variable {records : List (Record α)} {t : Closures α}

/-- No closure has been registered for the number that is given next. -/
theorem fresh (h : Accounted records t) :
    ∀ d ∈ Book.ofRecords records, d.target ≠ .completion t.nextCompletion := by
  intro d hd htarget
  have hentry : d.entry ∈ records.filterMap Record.entry? :=
    h.entered ▸ List.mem_map_of_mem hd
  exact Nat.lt_irrefl _ (h.known _ hentry _ htarget)

theorem get?_iff (h : Accounted records t) (target : Target) (c : Closure α) :
    t.table.get? target = some c ↔ ⟨target, c, .stored⟩ ∈ Book.ofRecords records := by
  rw [Table.get?_eq_some_iff, ← h.stored, Book.mem_entriesIn]
  constructor
  · rintro ⟨⟨_, _, _⟩, hmem, rfl, ⟨⟩⟩
    exact hmem
  · exact fun hmem => ⟨_, hmem, rfl, rfl⟩

theorem flatMap_snoc (records : List (Record α)) (r : Record α) :
    (records ++ [r]).flatMap Record.handedOut =
      records.flatMap Record.handedOut ++ r.handedOut := by
  rw [List.flatMap_append, List.flatMap_singleton]

/-- A call that leaves the table as it is. -/
theorem keep (h : Accounted records t) {r : Record α}
    (hbook : (Book.ofRecords records).enter r = Book.ofRecords records) (hentry : r.entry? = none)
    (hnumber : r.number? = none) (hhanded : r.handedOut = []) : Accounted (records ++ [r]) t where
  entered := by
    rw [Book.ofRecords_snoc, hbook, List.filterMap_append, h.entered]
    simp [hentry]
  stored := by rw [Book.ofRecords_snoc, hbook, h.stored]
  handedOut := by
    rw [Book.ofRecords_snoc, hbook, flatMap_snoc, hhanded, List.append_nil]
    exact h.handedOut
  succeeded := by
    rw [Book.ofRecords_snoc, hbook]
    exact h.succeeded
  numbers := by
    rw [List.filterMap_append, h.numbers]
    simp [hnumber]
  next_pos := h.next_pos
  known e he := by
    rw [List.filterMap_append] at he
    exact h.known e (by simpa [hentry] using he)

/-- A call that hands out what is stored for certain targets. -/
theorem handOut (h : Accounted records t) {r : Record α} {p : Target → Bool}
    {table : Table Target (Closure α)}
    (hbook : (Book.ofRecords records).enter r = (Book.ofRecords records).settle p .handedOut)
    (hentry : r.entry? = none) (hnumber : r.number? = none)
    (hhanded : r.handedOut = (t.table.entries.filter fun e => p e.1).map (·.2.value))
    (htable : table.entries = t.table.entries.filter fun e => !p e.1) :
    Accounted (records ++ [r]) { t with table } where
  entered := by
    rw [Book.ofRecords_snoc, hbook, Book.map_entry_settle, List.filterMap_append, h.entered]
    simp [hentry]
  stored := by
    rw [Book.ofRecords_snoc, hbook, Book.entriesIn_settle_stored (by decide), h.stored, htable]
  handedOut := by
    have hleft : Custody.handedOut ≠ .stored := by decide
    have hgone := (Book.entriesIn_settle_perm (b := Book.ofRecords records) (p := p) hleft).map
      (·.2.value)
    rw [h.stored, List.map_append, ← hhanded] at hgone
    rw [Book.ofRecords_snoc, hbook, flatMap_snoc]
    exact (h.handedOut.append_right _).trans hgone.symm
  succeeded := by
    rw [Book.ofRecords_snoc, hbook]
    exact h.succeeded.settle (by decide)
  numbers := by
    rw [List.filterMap_append, h.numbers]
    simp [hnumber]
  next_pos := h.next_pos
  known e he := by
    rw [List.filterMap_append] at he
    exact h.known e (by simpa [hentry] using he)

/-- The closure of a timer takes the place of the one that the timer has. -/
theorem insertTimer (h : Accounted records t) (id : Nat) (value : α) (repeating : Bool) :
    Accounted (records ++ [.insertedTimer id value repeating])
      (t.insertTimer id value repeating) where
  entered := by
    rw [Book.ofRecords_snoc, Book.enter, List.map_append, Book.map_entry_settle, h.entered,
      List.filterMap_append]
    rfl
  stored := by
    rw [Book.ofRecords_snoc, Book.enter, Book.entriesIn_append,
      Book.entriesIn_settle_stored (by decide), h.stored]
    simp [Book.entriesIn, Deposit.entry, Closures.insertTimer, Table.insert, Table.erase,
      Table.filter]
  handedOut := by
    rw [Book.ofRecords_snoc, Book.enter, Book.entriesIn_append,
      Book.entriesIn_settle_of_ne (by decide) (by decide), flatMap_snoc]
    simpa [Book.entriesIn, Record.handedOut] using h.handedOut
  succeeded := by
    rw [Book.ofRecords_snoc]
    exact h.succeeded.replace rfl rfl
  numbers := by
    rw [List.filterMap_append, h.numbers]
    exact List.append_nil _
  next_pos := h.next_pos
  known e he other htarget := by
    rw [List.filterMap_append] at he
    rcases List.mem_append.1 he with he | he
    · exact h.known e he other htarget
    · rw [List.mem_singleton.1 he] at htarget
      cases htarget

/-- The closure of an operation gets a number that no other one has had. -/
theorem insertCompletion (h : Accounted records t) (value : α) :
    Accounted (records ++ [.insertedCompletion value (t.insertCompletion value).1])
      (t.insertCompletion value).2 where
  entered := by
    rw [Book.ofRecords_snoc, Book.enter, List.map_append, h.entered, List.filterMap_append]
    rfl
  stored := by
    have hfresh : t.table.entries.filter (fun e => e.1 ≠ .completion t.nextCompletion) =
        t.table.entries := by
      refine List.filter_eq_self.2 fun e he => decide_eq_true fun htarget => ?_
      rw [← h.stored, Book.mem_entriesIn] at he
      obtain ⟨d, hd, -, rfl⟩ := he
      exact h.fresh d hd htarget
    rw [Book.ofRecords_snoc, Book.enter, Book.entriesIn_append, h.stored]
    show _ = t.table.entries.filter _ ++ _
    rw [hfresh]
    rfl
  handedOut := by
    rw [Book.ofRecords_snoc, Book.enter, Book.entriesIn_append, flatMap_snoc]
    simpa [Book.entriesIn, Record.handedOut] using h.handedOut
  succeeded := by
    rw [Book.ofRecords_snoc]
    exact h.succeeded.append rfl
  numbers := by
    have hpos := h.next_pos
    rw [List.filterMap_append, h.numbers]
    show _ ++ [t.nextCompletion] = List.range' 1 (t.nextCompletion + 1 - 1)
    rw [show t.nextCompletion + 1 - 1 = t.nextCompletion - 1 + 1 by omega, List.range'_concat]
    congr 2
    omega
  next_pos := Nat.succ_pos _
  known e he id htarget := by
    rw [List.filterMap_append] at he
    rcases List.mem_append.1 he with he | he
    · exact Nat.lt_succ_of_lt (h.known e he id htarget)
    · rw [List.mem_singleton.1 he] at htarget
      cases htarget
      exact Nat.lt_succ_self _

theorem resolve (h : Accounted records t) (target : Target) :
    Accounted (records ++ [.resolved target (t.resolve target).1]) (t.resolve target).2 := by
  rw [Closures.resolve]
  cases hget : t.table.get? target with
  | none => exact h.keep rfl rfl rfl rfl
  | some c =>
      dsimp only
      split
      · exact h.keep rfl rfl rfl rfl
      · refine h.handOut (p := (· = target)) rfl rfl rfl ?_ ?_
        · rw [Table.filter_entries_key, hget]
          rfl
        · simp [Table.erase, Table.filter]

theorem release (h : Accounted records t) (target : Target) :
    Accounted (records ++ [.released target (t.release target).1]) (t.release target).2 := by
  rw [Closures.release]
  cases hget : t.table.get? target with
  | none => exact h.keep rfl rfl rfl rfl
  | some c =>
      refine h.handOut (p := (· = target)) rfl rfl rfl ?_ ?_
      · rw [Table.filter_entries_key, hget]
        rfl
      · simp [Table.erase, Table.filter]

theorem drain (h : Accounted records t) : Accounted (records ++ [.drained t.drain.1]) t.drain.2 := by
  refine h.handOut (p := fun _ => true) rfl rfl rfl ?_ ?_
  · rw [List.filter_eq_self.2 fun _ _ => rfl]
    exact List.map_map ..
  · rw [List.filter_eq_nil_iff.2 fun _ _ => by simp]
    rfl

theorem answer (h : Accounted records t) (c : Call α) :
    Accounted (records ++ [(t.answer c).1]) (t.answer c).2 := by
  cases c with
  | insertTimer id value repeating => exact h.insertTimer id value repeating
  | insertCompletion value => exact h.insertCompletion value
  | resolve target => exact h.resolve target
  | release target => exact h.release target
  | drain => exact h.drain

theorem follow (calls : List (Call α)) : ∀ {records : List (Record α)} {t : Closures α},
    Accounted records t → Accounted (records ++ (t.follow calls).1) (t.follow calls).2 := by
  induction calls with
  | nil =>
      intro records t h
      rw [Closures.follow, List.append_nil]
      exact h
  | cons c calls ih =>
      intro records t h
      have hrest := ih (h.answer c)
      rw [List.append_assoc] at hrest
      exact hrest

end Accounted

/-! ## One call -/

/-- A call about one target touches no other, and one that registers the closure of an operation
touches none that has a closure. -/
theorem get?_answer_of_ne (t : Closures α) {c : Call α} {target other : Target}
    (hcall : c.target? = some target) (hother : other ≠ target) :
    (t.answer c).2.table.get? other = t.table.get? other := by
  cases c with
  | insertTimer id value repeating =>
      cases hcall
      exact (Table.get?_insert ..).trans (if_neg hother)
  | insertCompletion | drain => cases hcall
  | resolve =>
      cases hcall
      show (t.resolve target).2.table.get? other = _
      rw [resolve]
      split
      · rfl
      · split
        · rfl
        · rw [Table.get?_erase, if_neg hother]
  | release =>
      cases hcall
      show (t.release target).2.table.get? other = _
      rw [release]
      split
      · rfl
      · rw [Table.get?_erase, if_neg hother]

theorem resolve_of_get? {t : Closures α} {target : Target} {c : Closure α}
    (hget : t.table.get? target = some c) :
    (t.resolve target).1 = some (if c.repeating then .retained c.value else .removed c.value) := by
  rw [resolve, hget]
  dsimp only
  split <;> rfl

/-- A look-up finds what is stored, and says whether it stays. -/
theorem resolve_eq_some_iff {t : Closures α} {target : Target} {found : Resolved α} :
    (t.resolve target).1 = some found ↔ ∃ c, t.table.get? target = some c ∧
      found = if c.repeating then .retained c.value else .removed c.value := by
  cases hget : t.table.get? target with
  | none =>
      have hnone : (t.resolve target).1 = none := by rw [resolve, hget]
      simp [hnone]
  | some c =>
      rw [resolve_of_get? hget, Option.some.injEq, eq_comm]
      constructor
      · exact fun hfound => ⟨c, rfl, hfound⟩
      · rintro ⟨other, hother, rfl⟩
        cases hother
        rfl

/-- A release hands out what is stored. -/
theorem release_eq_some_iff {t : Closures α} {target : Target} {value : α} :
    (t.release target).1 = some value ↔ ∃ c, t.table.get? target = some c ∧ value = c.value := by
  rw [release]
  cases t.table.get? target <;> simp [eq_comm]

theorem nextCompletion_answer (t : Closures α) (c : Call α) :
    (t.answer c).2.nextCompletion = t.nextCompletion + if c.isCompletion then 1 else 0 := by
  cases c with
  | insertTimer | insertCompletion | drain => rfl
  | resolve target => exact nextCompletion_resolve t target
  | release target => exact nextCompletion_release t target

theorem nextCompletion_follow (calls : List (Call α)) : ∀ t : Closures α,
    (t.follow calls).2.nextCompletion = t.nextCompletion + calls.countP Call.isCompletion := by
  induction calls with
  | nil => exact fun _ => rfl
  | cons c calls ih =>
      intro t
      show ((t.answer c).2.follow calls).2.nextCompletion = _
      rw [ih, nextCompletion_answer, List.countP_cons]
      omega

/-- **Every registered closure is accounted for.**  Take any calls to a new table, with their answers.
The book has every closure that was registered, in the order of registration and each with one of
three: it is stored, its timer has been given another one since, or it has been handed out for good.
A closure is in the table exactly if it is stored; those handed out for good are what all answers have
handed out, each of them once; and what has left the table never comes back.

A look-up finds the closure that is stored for its target, and takes it out exactly if it is used once.
A release hands out the closure that is stored for its target, and a drain all that are stored; neither
leaves what it hands out in the table.
Operations are numbered 1, 2, … in the order of their registration, whatever else is called in between,
and the closure of an operation takes the place of no other.  A call about one target leaves the
closures of all others as they are. -/
theorem closures_accounted_for (calls : List (Call α)) :
    let records := (empty.follow calls).1
    let t := (empty.follow calls).2
    let book := Book.ofRecords records
    book.map Deposit.entry = records.filterMap Record.entry? ∧
    (∀ target c, t.table.get? target = some c ↔ ⟨target, c, .stored⟩ ∈ book) ∧
    ((book.entriesIn .stored).map Prod.fst).Nodup ∧
    book.Succeeded ∧
    (records.flatMap Record.handedOut).Perm ((book.entriesIn .handedOut).map (·.2.value)) ∧
    (∀ later, book.Goes (Book.ofRecords (empty.follow (calls ++ later)).1)) ∧
    (∀ target c, ⟨target, c, .stored⟩ ∈ book →
      Book.ofRecords (empty.follow (calls ++ [.resolve target])).1 =
        if c.repeating then book else book.settle (· = target) .handedOut) ∧
    (∀ target found, (t.resolve target).1 = some found ↔
      ∃ c, ⟨target, c, .stored⟩ ∈ book ∧
        found = if c.repeating then .retained c.value else .removed c.value) ∧
    (∀ target value, (t.release target).1 = some value ↔
      ∃ c, ⟨target, c, .stored⟩ ∈ book ∧ value = c.value) ∧
    (∀ target c, ⟨target, c, .stored⟩ ∈ book →
      Book.ofRecords (empty.follow (calls ++ [.release target])).1 =
        book.settle (· = target) .handedOut) ∧
    (t.drain.1 = (book.entriesIn .stored).map (·.2.value) ∧
      Book.ofRecords (empty.follow (calls ++ [.drain])).1 =
        book.settle (fun _ => true) .handedOut) ∧
    records.filterMap Record.number? = List.range' 1 (calls.countP Call.isCompletion) ∧
    (∀ value, (t.insertCompletion value).1 = calls.countP Call.isCompletion + 1 ∧
      ∀ d ∈ book, d.target ≠ .completion (t.insertCompletion value).1) ∧
    (∀ c target other, c.target? = some target → other ≠ target →
      (t.answer c).2.table.get? other = t.table.get? other) ∧
    ∀ value other, t.table.contains other = true →
      (t.insertCompletion value).2.table.get? other = t.table.get? other := by
  intro records t book
  have h : Accounted records t := accounted_empty.follow calls
  have hnext : t.nextCompletion = calls.countP Call.isCompletion + 1 :=
    (nextCompletion_follow calls empty).trans (Nat.add_comm _ _)
  have hstored : ∀ target c, t.table.get? target = some c ↔ ⟨target, c, .stored⟩ ∈ book :=
    fun target c => h.get?_iff target c
  refine ⟨h.entered, hstored, ?_, h.succeeded, h.handedOut, fun later => ?_,
    fun target c hmem => ?_, fun target found => ?_, fun target value => ?_,
    fun target c hmem => ?_, ⟨?_, ?_⟩, ?_, fun value => ⟨hnext, h.fresh⟩,
    fun c target other => get?_answer_of_ne t, fun value other hcontains => ?_⟩
  · rw [h.stored]
    exact t.table.nodup_keys
  · rw [follow_append, Book.ofRecords, List.foldl_append]
    exact Book.goes_foldl _ _
  · rw [follow_snoc, Book.ofRecords_snoc]
    show book.enter (.resolved target (t.resolve target).1) = _
    rw [resolve_of_get? ((hstored target c).2 hmem)]
    cases c.repeating <;> rfl
  · rw [resolve_eq_some_iff]
    simp only [hstored]
  · rw [release_eq_some_iff]
    simp only [hstored]
  · rw [follow_snoc, Book.ofRecords_snoc]
    show book.enter (.released target (t.release target).1) = _
    rw [release_eq_some_iff.2 ⟨c, (hstored target c).2 hmem, rfl⟩]
    rfl
  · rw [h.stored]
    exact List.map_map ..
  · rw [follow_snoc, Book.ofRecords_snoc]
    rfl
  · rw [h.numbers, hnext]
    rfl
  · refine (Table.get?_insert ..).trans (if_neg ?_)
    rintro rfl
    obtain ⟨c, hget⟩ := Option.isSome_iff_exists.1 hcontains
    exact h.fresh _ ((hstored _ c).1 hget) rfl

/-- The closure of an interval outlives its calls, and the closure of an operation goes with its
call. -/
example : Book.ofRecords (empty.follow [.insertTimer 1 'a' true, .insertCompletion 'b',
    .resolve (.timer 1), .resolve (.completion 1), .insertTimer 1 'c' false]).1 =
      [⟨.timer 1, ⟨'a', true⟩, .replaced⟩, ⟨.completion 1, ⟨'b', false⟩, .handedOut⟩,
        ⟨.timer 1, ⟨'c', false⟩, .stored⟩] := rfl

end ScriptHost.Ready.Closures
