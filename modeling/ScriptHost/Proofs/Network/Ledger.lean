import ScriptHost.Proofs.Network.Course

/-!
# The ledger of handles

The number of a handle is drawn before the handle enters its table, and the counter of the numbers
never goes back.  So a number that is drawn is new (`Fresh`), no number enters twice, and whoever
takes a handle out of its table is the only one who ever does (`Ledger`).  All that the ledger needs
to know of an event is what it does to the tables, and that is one of four things (`Tables`).
-/

namespace ScriptHost.Network

/-- The handles that an event has put into their tables, with their kinds. -/
def Event.issues : Event → List (Nat × Kind)
  | .op _ (.enter kind id) => [(id, kind)]
  | _ => []

/-- The handles that an event has taken out of their tables. -/
def Event.removes : Event → List Nat
  | .op _ (.remove id found) | .thread _ (.detach _ id found) => if found then [id] else []
  | .thread _ (.detachAll taken) => taken
  | _ => []

/-- The handles that have been opened. -/
def issued (events : List Event) : List (Nat × Kind) := events.flatMap Event.issues

/-- The handles that have been taken out of their tables. -/
def removals (events : List Event) : List Nat := events.flatMap Event.removes

@[simp] theorem issued_append (events later : List Event) :
    issued (events ++ later) = issued events ++ issued later := List.flatMap_append

@[simp] theorem removals_append (events later : List Event) :
    removals (events ++ later) = removals events ++ removals later := List.flatMap_append

@[simp] theorem issued_singleton (e : Event) : issued [e] = e.issues := List.flatMap_singleton ..

@[simp] theorem removals_singleton (e : Event) : removals [e] = e.removes :=
  List.flatMap_singleton ..

/-! ## One event -/

/-- What an event can do to the tables: the handles put in, those taken out, and the tables then. -/
inductive Tables (t : Table Nat Kind) : List (Nat × Kind) → List Nat → Table Nat Kind → Prop where
  | kept : Tables t [] [] t
  | entered (id : Nat) (kind : Kind) : Tables t [(id, kind)] [] (t.insert id kind)
  | taken {id : Nat} {kind : Kind} (hget : t.get? id = some kind) : Tables t [] [id] (t.erase id)
  | emptied : Tables t [] t.keys .empty

theorem Tables.detach (h : Handles) (kind : Kind) (id : Nat) :
    Tables h.table [] (if h.isOpen kind id then [id] else []) (h.detach kind id).2.table := by
  cases hopen : h.isOpen kind id with
  | true =>
      rw [Handles.detach_of_open hopen]
      exact .taken ((h.isOpen_iff _ _).1 hopen)
  | false =>
      rw [Handles.detach_of_not_open hopen]
      exact .kept

theorem Event.Tells.tables {h : Handles} {e : Event} (htells : e.Tells h) :
    Tables h.table e.issues e.removes (e.handles h).table := by
  cases e with
  | op op act =>
      cases act with
      | enter kind id => exact .entered id kind
      | remove id found =>
          obtain rfl := htells
          exact .detach h .stream id
      | start | refuse | find | ask | watch | giveUp | hear | draw | signal | settle | queue
      | uncount | finish | drop => exact .kept
  | thread thread move =>
      cases move with
      | detach kind id found =>
          obtain rfl := htells
          exact .detach h kind id
      | detachAll taken =>
          obtain rfl := htells
          exact .emptied
      | fire | answer | answerAll => exact .kept
  | numbered | aside => exact .kept

section

variable {t u : Table Nat Kind} {entered : List (Nat × Kind)} {taken : List Nat}

/-- Only what is there is taken out. -/
theorem Tables.exists_of_mem (h : Tables t entered taken u) {id : Nat} (hid : id ∈ taken) :
    ∃ kind, t.get? id = some kind := by
  cases h with
  | kept | entered => cases hid
  | taken hget =>
      rw [List.mem_singleton] at hid
      exact ⟨_, hid ▸ hget⟩
  | emptied => rwa [← Table.contains_iff, Table.contains, Option.isSome_iff_exists] at hid

theorem Tables.nodup (h : Tables t entered taken u) : taken.Nodup := by
  cases h with
  | kept | entered => exact List.nodup_nil
  | taken => simp
  | emptied => exact t.nodup_keys

/-- What is there afterwards: what was there and has not been taken out, and what was put in. -/
theorem Tables.get?_eq_some_iff (h : Tables t entered taken u)
    (hnew : ∀ id kind, (id, kind) ∈ entered → t.get? id = none) (id : Nat) (kind : Kind) :
    u.get? id = some kind ↔ t.get? id = some kind ∧ id ∉ taken ∨ (id, kind) ∈ entered := by
  cases h with
  | kept => simp
  | entered id' kind' =>
      have hnone := hnew id' kind' List.mem_cons_self
      rw [Table.get?_insert]
      split
      · rename_i hid
        subst hid
        simp [hnone, eq_comm]
      · rename_i hid
        simp [hid]
  | @taken id' =>
      rw [Table.get?_erase]
      by_cases hid : id = id' <;> simp [hid]
  | emptied =>
      rw [← Table.get?_eq_none_iff]
      cases hget : t.get? id <;> simp

theorem Tables.size (h : Tables t entered taken u)
    (hnew : ∀ id kind, (id, kind) ∈ entered → t.get? id = none) :
    u.size + taken.length = t.size + entered.length := by
  cases h with
  | kept => rfl
  | entered id kind => exact t.size_insert kind (hnew id kind List.mem_cons_self)
  | taken hget => exact t.size_erase hget
  | emptied => exact (Nat.zero_add _).trans (List.length_map _)

end

theorem Event.next_le (e : Event) (h : Handles) : h.next ≤ (e.handles h).next := by
  unfold Event.handles
  split <;> simp [Handles.signal]

/-! ## Drawn numbers -/

/-- The number that has been drawn for a handle that has not entered its table. -/
def Footing.drawn? : Footing → Option Nat
  | .drawn _ id _ => some id
  | _ => Option.none

theorem Goes.eq_draw {here there : Standing} {act : Act} {id : Nat} (h : Goes here act there)
    (hdrawn : there.2.drawn? = some id) : act = .draw id := by
  cases h with
  | draw => cases hdrawn; rfl
  | start | refuse | find | ask | watch | giveUp | hear | enter | remove | miss | signal | settle
  | queue | uncount | finish | drop => cases hdrawn

namespace Shared

variable {α : Type} {s t : Shared α} {e : Event} {events : List Event} {settings : NetworkSettings}

/-- A number that is drawn has been drawn before, by an operation that has done nothing since, or
has just been drawn. -/
theorem Step.drawn (h : Step s e t) (htidy : s.Tidy) {op id : Nat}
    (hdrawn : (t.footing op).drawn? = some id) :
    e.act? op = none ∧ (s.footing op).drawn? = some id ∨ e = .op op (.draw id) := by
  rcases h.course htidy op with ⟨hother, hsame⟩ | ⟨act, rfl, hgoes⟩
  · refine .inl ⟨hother, ?_⟩
    rwa [← show t.footing op = s.footing op from congrArg Prod.snd hsame]
  · rw [hgoes.eq_draw hdrawn]
    exact .inr rfl

/-- A handle enters its table with a number that has been drawn for it. -/
theorem Step.drawn_of_issues (h : Step s e t) {id : Nat} {kind : Kind}
    (hissues : (id, kind) ∈ e.issues) :
    ∃ op, e = .op op (.enter kind id) ∧ (s.footing op).drawn? = some id := by
  cases h with
  | enter hat =>
      obtain ⟨rfl, rfl⟩ := Prod.mk.inj (List.mem_singleton.1 hissues)
      exact ⟨_, rfl, by rw [hat.footing]; rfl⟩
  | _ => cases hissues

/-- A number is drawn by one operation, and then entered once. -/
structure Fresh (events : List Event) (s : Shared α) : Prop where
  issued_lt : ∀ id kind, (id, kind) ∈ issued events → id < s.network.handles.next
  drawn_lt : ∀ op id, (s.footing op).drawn? = some id → id < s.network.handles.next
  drawn_once : ∀ op other id, (s.footing op).drawn? = some id →
    (s.footing other).drawn? = some id → op = other
  drawn_new : ∀ op id, (s.footing op).drawn? = some id → id ∉ (issued events).map (·.1)

/-- What has been issued is open or has been taken out, and each of it happens once. -/
structure Ledger (events : List Event) (s : Shared α) : Prop where
  /-- A number is given to one handle, whatever its kind is. -/
  issued_once : ((issued events).map (·.1)).Nodup
  removed_once : (removals events).Nodup
  removed_issued : ∀ id ∈ removals events, id ∈ (issued events).map (·.1)
  get?_iff : ∀ id kind, s.network.handles.table.get? id = some kind ↔
    (id, kind) ∈ issued events ∧ id ∉ removals events
  balance : s.network.handles.table.size + (removals events).length = (issued events).length

theorem fresh_start (settings : NetworkSettings) : Fresh [] (start settings : Shared α) where
  issued_lt _ _ h := by cases h
  drawn_lt _ _ h := by cases h
  drawn_once _ _ _ h := by cases h
  drawn_new _ _ h := by cases h

theorem ledger_start (settings : NetworkSettings) : Ledger [] (start settings : Shared α) where
  issued_once := List.nodup_nil
  removed_once := List.nodup_nil
  removed_issued _ h := by cases h
  get?_iff id kind := by simp [issued, start, Coordinator.empty, Handles.empty]
  balance := rfl

theorem Step.next_le (h : Step s e t) : s.network.handles.next ≤ t.network.handles.next := by
  rw [h.handles]
  exact e.next_le _

theorem Step.next_of_draw {op id : Nat} (h : Step s (.op op (.draw id)) t) :
    id = s.network.handles.next ∧ t.network.handles.next = s.network.handles.next + 1 :=
  ⟨h.tells, by rw [h.handles]; rfl⟩

theorem Fresh.step (h : Fresh events s) (htidy : s.Tidy) (step : Step s e t) :
    Fresh (events ++ [e]) t where
  issued_lt id kind hmem := by
    rw [issued_append, issued_singleton, List.mem_append] at hmem
    refine Nat.lt_of_lt_of_le ?_ step.next_le
    rcases hmem with hmem | hmem
    · exact h.issued_lt id kind hmem
    · obtain ⟨op, -, hdrawn⟩ := step.drawn_of_issues hmem
      exact h.drawn_lt op id hdrawn
  drawn_lt op id hdrawn := by
    rcases step.drawn htidy hdrawn with ⟨-, hbefore⟩ | rfl
    · exact Nat.lt_of_lt_of_le (h.drawn_lt op id hbefore) step.next_le
    · obtain ⟨rfl, hsucc⟩ := step.next_of_draw
      rw [hsucc]
      exact Nat.lt_succ_self _
  drawn_once op other id hop hother := by
    rcases step.drawn htidy hop with ⟨-, hop⟩ | rfl
    · rcases step.drawn htidy hother with ⟨-, hother⟩ | rfl
      · exact h.drawn_once op other id hop hother
      · exact absurd step.next_of_draw.1 (Nat.ne_of_lt (h.drawn_lt op id hop))
    · rcases step.drawn htidy hother with ⟨-, hother⟩ | heq
      · exact absurd step.next_of_draw.1 (Nat.ne_of_lt (h.drawn_lt other id hother))
      · exact (Event.op.inj heq).1
  drawn_new op id hdrawn hmem := by
    rw [issued_append, issued_singleton, List.map_append, List.mem_append] at hmem
    rcases step.drawn htidy hdrawn with ⟨hidle, hbefore⟩ | rfl
    · rcases hmem with hmem | hmem
      · exact h.drawn_new op id hbefore hmem
      · -- The number that enters belongs to another operation.
        obtain ⟨⟨_, kind⟩, hissues, rfl⟩ := List.mem_map.1 hmem
        obtain ⟨other, rfl, hother⟩ := step.drawn_of_issues hissues
        obtain rfl := h.drawn_once op other _ hbefore hother
        rw [Event.act?_op] at hidle
        cases hidle
    · have hold := hmem.resolve_right (by simp [Event.issues])
      obtain ⟨⟨_, kind⟩, hissued, rfl⟩ := List.mem_map.1 hold
      exact absurd step.next_of_draw.1 (Nat.ne_of_lt (h.issued_lt _ kind hissued))

/-- A handle that enters its table is new. -/
theorem Ledger.new (h : Ledger events s) (hfresh : Fresh events s) (step : Step s e t) {id : Nat}
    {kind : Kind} (hissues : (id, kind) ∈ e.issues) :
    s.network.handles.table.get? id = none ∧ id ∉ (issued events).map (·.1) := by
  obtain ⟨op, -, hdrawn⟩ := step.drawn_of_issues hissues
  have hnew := hfresh.drawn_new op id hdrawn
  refine ⟨?_, hnew⟩
  cases hget : s.network.handles.table.get? id with
  | none => rfl
  | some other => exact absurd (List.mem_map.2 ⟨_, ((h.get?_iff id other).1 hget).1, rfl⟩) hnew

/-- Only what is open is taken out, so it has not been taken out before. -/
theorem Ledger.not_removed (h : Ledger events s) (step : Step s e t) (id : Nat)
    (hmem : id ∈ e.removes) : id ∉ removals events := by
  obtain ⟨kind, hget⟩ := step.tells.tables.exists_of_mem hmem
  exact ((h.get?_iff id kind).1 hget).2

theorem Ledger.issued_of_removes (h : Ledger events s) (step : Step s e t) (id : Nat)
    (hmem : id ∈ e.removes) : id ∈ (issued events).map (·.1) := by
  obtain ⟨kind, hget⟩ := step.tells.tables.exists_of_mem hmem
  exact List.mem_map.2 ⟨_, ((h.get?_iff id kind).1 hget).1, rfl⟩

theorem Ledger.step (h : Ledger events s) (hfresh : Fresh events s) (step : Step s e t) :
    Ledger (events ++ [e]) t := by
  have htables := step.tells.tables
  rw [← step.handles] at htables
  have hnew : ∀ id kind, (id, kind) ∈ e.issues → s.network.handles.table.get? id = none :=
    fun id kind hissues => (h.new hfresh step hissues).1
  constructor
  case issued_once =>
    rw [issued_append, issued_singleton, List.map_append, List.nodup_append]
    refine ⟨h.issued_once, ?_, ?_⟩
    · unfold Event.issues
      split <;> simp
    · rintro _ hold id hmem rfl
      obtain ⟨⟨_, kind⟩, hissues, rfl⟩ := List.mem_map.1 hmem
      exact (h.new hfresh step hissues).2 hold
  case removed_once =>
    rw [removals_append, removals_singleton, List.nodup_append]
    refine ⟨h.removed_once, htables.nodup, ?_⟩
    rintro id hold _ hmem rfl
    exact h.not_removed step id hmem hold
  case removed_issued =>
    intro id hmem
    rw [removals_append, removals_singleton, List.mem_append] at hmem
    rw [issued_append, List.map_append, List.mem_append]
    exact .inl (hmem.elim (h.removed_issued id) (h.issued_of_removes step id))
  case get?_iff =>
    intro id kind
    rw [htables.get?_eq_some_iff hnew, h.get?_iff, issued_append, removals_append, issued_singleton,
      removals_singleton, List.mem_append, List.mem_append]
    constructor
    · rintro (⟨⟨hissued, hold⟩, hmem⟩ | hissues)
      · exact ⟨.inl hissued, fun hor => hor.elim hold hmem⟩
      · have hnever := (h.new hfresh step hissues).2
        exact ⟨.inr hissues, fun hor => hnever
          (hor.elim (h.removed_issued id) (h.issued_of_removes step id))⟩
    · rintro ⟨hissued | hissues, hnot⟩
      · exact .inl ⟨⟨hissued, fun hold => hnot (.inl hold)⟩, fun hmem => hnot (.inr hmem)⟩
      · exact .inr hissues
  case balance =>
    have hsize := htables.size hnew
    have hbalance := h.balance
    rw [issued_append, removals_append, issued_singleton, removals_singleton, List.length_append,
      List.length_append]
    omega

theorem Run.fresh (h : Run (start settings) events s) : Fresh events s :=
  Run.history (P := Fresh) (fresh_start settings)
    (fun hrun hfresh step => hfresh.step hrun.tidy step) h

theorem Run.ledger (h : Run (start settings) events s) : Ledger events s :=
  Run.history (P := Ledger) (ledger_start settings)
    (fun hrun hledger step => hledger.step hrun.fresh step) h

end Shared
end ScriptHost.Network
