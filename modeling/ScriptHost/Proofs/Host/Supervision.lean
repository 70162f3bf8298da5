import ScriptHost.Desk.Program
import ScriptHost.Host.Exact
import ScriptHost.Proofs.Host.Rest
import ScriptHost.Proofs.Quiescence.Polls

/-!
# A host under a watchdog

A watchdog polls a host while timers fire, operations complete and passes go on.  A poll reads the
six counts of the tally one after the other, and anything may happen between two readings; only the
watchdog itself stays as it is until the poll has answered.

A poll does not see the callbacks that a pass has taken out of the queue: they have left the one count
that told of them and come into no other.  So a run is declared over while a callback still runs or
waits to be run, if nothing else is outstanding for as many polls as the threshold says, however many
these are: the polls count, not what the host does in between.  And a callback that runs between two
readings can leave behind what the poll has already passed by.

Where no guest code runs or waits from the beginning of a poll to its answer, the answer is right
(`Supervised.isQuiet_of_isOver`).
-/

namespace ScriptHost

open Desk (Language State)
open Quiescence (Count Tally Transition Watchdog outstanding together together_append)

/-- A poll under way. -/
structure Reading where
  /-- What has been read so far, in the order of the readings. -/
  counts : List Nat
  /-- Whether guest code has run, or has waited to be run, since the poll began. -/
  disturbed : Bool

/-- The count that is read next. -/
def Reading.next? (r : Reading) : Option Count := Count.order[r.counts.length]?

/-- A host with the watchdog that polls it. -/
structure Supervised (σ : Type) where
  host : Host σ
  watchdog : Watchdog
  reading : Option Reading

/-- What happens to a host or to its watchdog. -/
inductive Move where
  | event (e : Event)
  | transition (t : Transition)
  | setDaemon (daemon : Bool)
  /-- A poll begins, reads its next count, or answers. -/
  | poll

/-- Whether a move puts a callback into the queue by hand. -/
def Move.isOffer : Move → Bool
  | .event (.offer _) => true
  | _ => false

namespace Supervised

variable {σ : Type}

/-- A host whose guest has just been made, before its run of a script. -/
def fresh (jobCapacity : Nat) (guest : σ) : Supervised σ :=
  ⟨.fresh jobCapacity guest, .start, none⟩

/-- The next step of a poll.  One that cannot end the run answers at once. -/
def poll (threshold : Nat) (s : Supervised σ) : Supervised σ :=
  match s.reading with
  | none =>
      if s.watchdog.isTracking then { s with reading := some ⟨[], s.host.isAtWork⟩ }
      else { s with watchdog := s.watchdog.reset }
  | some r =>
      match r.next? with
      | some c =>
          { s with reading := some { r with counts := r.counts ++ [c.read s.host.services] } }
      | none =>
          { s with
            watchdog := (s.watchdog.poll threshold (.ofCounts r.counts)).2
            reading := none }

/-- Make a move.  While a poll is under way nobody else gets at the watchdog. -/
def move (g : Guest σ) (threshold : Nat) (s : Supervised σ) : Move → Supervised σ
  | .event e =>
      let host := s.host.react g e
      { s with
        host
        reading := s.reading.map fun r => { r with disturbed := r.disturbed || host.isAtWork } }
  | .transition t =>
      if s.reading.isSome then s else { s with watchdog := s.watchdog.advance t }
  | .setDaemon daemon =>
      if s.reading.isSome then s else { s with watchdog := s.watchdog.setDaemon daemon }
  | .poll => s.poll threshold

/-- A run: one move after the other. -/
def run (g : Guest σ) (threshold : Nat) (s : Supervised σ) (moves : List Move) : Supervised σ :=
  moves.foldl (move g threshold) s

/-- Whether a poll has read all counts and is about to answer "over". -/
def isOver (threshold : Nat) (s : Supervised σ) : Bool :=
  match s.reading with
  | some r => r.next?.isNone && (s.watchdog.poll threshold (.ofCounts r.counts)).1 = .ended
  | none => false

/-- Whether guest code has run, or has waited to be run, since the poll under way began. -/
def isDisturbed (s : Supervised σ) : Bool := s.reading.any (·.disturbed)

/-- What the poll under way has read, all counts together, fits into a word. -/
def Fits (s : Supervised σ) : Prop := ∀ r, s.reading = some r → together r.counts < UInt64.size

end Supervised

/-- What a poll under way says of its host: the counts that it has read as zero are zero still, unless
guest code has come in between. -/
structure Reading.Holds {σ : Type} (r : Reading) (h : Host σ) : Prop where
  length : r.counts.length ≤ Count.order.length
  rests : r.disturbed = false → h.isAtWork = false
  cleared : r.disturbed = false → together r.counts = 0 → h.services.ClearedTo r.counts.length

namespace Supervised

variable {σ : Type} {threshold : Nat} {s : Supervised σ}

/-- A poll under way says what is true of the host. -/
def Sound (s : Supervised σ) : Prop := ∀ r, s.reading = some r → r.Holds s.host

/-! ## One move -/

theorem Sound.poll (hsound : s.Sound) : (s.poll threshold).Sound := by
  rw [Supervised.poll]
  split
  · split
    · rintro _ ⟨⟩
      exact ⟨Nat.zero_le _, fun hcalm => hcalm, fun _ _ => .zero _⟩
    · exact hsound
  · rename_i r hreading
    have hr := hsound r hreading
    split
    · rename_i c hnext
      rintro _ ⟨⟩
      -- The sum is zero only if the new count is zero too, and all before it were.
      refine ⟨?_, hr.rests, fun hcalm hzero => ?_⟩
      · rw [List.length_append]
        exact (List.getElem?_eq_some_iff.1 hnext).1
      · rw [together_append, Nat.add_eq_zero_iff] at hzero
        rw [List.length_append]
        exact (hr.cleared hcalm hzero.1).next hnext hzero.2
    · rintro _ ⟨⟩

theorem Sound.event (g : Guest σ) (hsound : s.Sound) {e : Event} (he : ∀ c, e ≠ .offer c) :
    (s.move g threshold (.event e)).Sound := by
  intro after hafter
  obtain ⟨r, hreading, rfl⟩ := Option.map_eq_some_iff.1 hafter
  have hr := hsound r hreading
  -- An undisturbed poll has seen the host at rest before the event, and sees it so after it.
  have hcalm (h : (r.disturbed || (s.host.react g e).isAtWork) = false) :
      r.disturbed = false ∧ (s.host.react g e).isAtWork = false := Bool.or_eq_false_iff.1 h
  refine ⟨hr.length, fun h => (hcalm h).2, fun h hzero => ?_⟩
  exact (Host.wanes_react g (hr.rests (hcalm h).1) he).cleared (hr.cleared (hcalm h).1 hzero)

theorem Sound.move (g : Guest σ) (hsound : s.Sound) {m : Move} (hm : m.isOffer = false) :
    (s.move g threshold m).Sound := by
  cases m with
  | event e =>
      refine Sound.event g hsound ?_
      rintro c rfl
      cases hm
  | transition t =>
      rw [Supervised.move]
      split <;> exact hsound
  | setDaemon daemon =>
      rw [Supervised.move]
      split <;> exact hsound
  | poll => exact hsound.poll

/-! ## A run -/

theorem Sound.run (g : Guest σ) (moves : List Move) :
    ∀ {s : Supervised σ}, s.Sound → (∀ m ∈ moves, m.isOffer = false) →
      (s.run g threshold moves).Sound := by
  induction moves with
  | nil => exact fun hsound _ => hsound
  | cons m moves ih =>
      intro s hsound hmoves
      exact ih (hsound.move g (hmoves m List.mem_cons_self))
        fun later hlater => hmoves later (List.mem_cons_of_mem m hlater)

theorem Sound.fresh (jobCapacity : Nat) (guest : σ) :
    (Supervised.fresh jobCapacity guest).Sound := by
  rintro r ⟨⟩

/-- A poll that answers "over" may end the run, and has read nothing but zeros. -/
theorem of_isOver (hover : s.isOver threshold = true) (hfits : s.Fits) (hsound : s.Sound) :
    s.watchdog.isTracking = true ∧ ∃ r, s.reading = some r ∧
      r.counts.length = Count.order.length ∧ together r.counts = 0 := by
  rw [isOver] at hover
  split at hover
  · rename_i r hreading
    obtain ⟨hnone, hover⟩ := Bool.and_eq_true_iff.1 hover
    obtain ⟨htracking, hidle⟩ := Watchdog.of_over (of_decide_eq_true hover)
    have hall : r.counts.length = Count.order.length :=
      Nat.le_antisymm (hsound r hreading).length
        (List.getElem?_eq_none_iff.1 (Option.isNone_iff_eq_none.1 hnone))
    exact ⟨htracking, r, hreading, hall,
      of_decide_eq_true (Option.some.inj
        ((Quiescence.isIdle?_ofCounts hall (hfits r hreading)).symm.trans hidle))⟩
  · cases hover

/-- An undisturbed poll answers "over" only if nothing is left to do. -/
theorem isQuiet_of_isOver (hover : s.isOver threshold = true) (hfits : s.Fits) (hsound : s.Sound)
    (hcalm : s.isDisturbed = false) : s.host.IsQuiet := by
  obtain ⟨-, r, hreading, hall, hzero⟩ := of_isOver hover hfits hsound
  have hr := hsound r hreading
  rw [isDisturbed, hreading] at hcalm
  have hcleared := hr.cleared hcalm hzero
  rw [hall] at hcleared
  exact ⟨hcleared.settled, Host.hasCallback_eq_false (hr.rests hcalm)⟩

/-! ## Polls alone -/

/-- What polls alone make of a host between two polls. -/
structure Polled (s t : Supervised σ) : Prop where
  host : t.host = s.host
  tracking : t.watchdog.isTracking = s.watchdog.isTracking
  counts : ∀ r, t.reading = some r →
    r.counts = (Quiescence.counts s.host.services).take r.counts.length

theorem Polled.poll {t : Supervised σ} (h : Polled s t) : Polled s (t.poll threshold) := by
  rw [Supervised.poll]
  split
  · split
    · refine ⟨h.host, h.tracking, ?_⟩
      rintro _ ⟨⟩
      rfl
    · exact ⟨h.host, h.tracking, h.counts⟩
  · rename_i r hreading
    split
    · rename_i c hnext
      refine ⟨h.host, h.tracking, ?_⟩
      rintro _ ⟨⟩
      have hread : (Quiescence.counts s.host.services)[r.counts.length]? =
          some (c.read t.host.services) := by
        rw [Quiescence.counts, List.getElem?_map, ← Reading.next?, hnext, h.host]
        rfl
      rw [List.length_append, List.length_singleton, List.take_add_one, hread,
        ← h.counts r hreading]
      rfl
    · refine ⟨h.host, (Watchdog.isTracking_poll _ _ _).trans h.tracking, ?_⟩
      rintro _ ⟨⟩

theorem polled_run (g : Guest σ) (hreading : s.reading = none) (n : Nat) :
    Polled s (s.run g threshold (List.replicate n .poll)) := by
  have hrun : ∀ t : Supervised σ, Polled s t →
      Polled s (t.run g threshold (List.replicate n .poll)) := by
    induction n with
    | zero => exact fun _ h => h
    | succ n ih => exact fun t h => ih (t.poll threshold) h.poll
  refine hrun s ⟨rfl, rfl, fun r hr => ?_⟩
  rw [hreading] at hr
  cases hr

/-- Polls alone answer "over" only if the services are settled. -/
theorem settled_of_polls (g : Guest σ) (hreading : s.reading = none)
    (hfits : outstanding s.host.services < UInt64.size) {n : Nat}
    (hover : (s.run g threshold (List.replicate n .poll)).isOver threshold = true) :
    s.watchdog.isTracking = true ∧ s.host.services.Settled := by
  have hpolled : Polled s (s.run g threshold (List.replicate n .poll)) := polled_run g hreading n
  have hsound : (s.run g threshold (List.replicate n .poll)).Sound := by
    refine Sound.run g _ ?_ fun m hm => ?_
    · intro r hr
      rw [hreading] at hr
      cases hr
    · rw [List.eq_of_mem_replicate hm]
      rfl
  -- What has been read so far is a part of what is outstanding, so it fits into a word as well.
  have hsplit (k : Nat) := congrArg together
    (List.take_append_drop k (Quiescence.counts s.host.services))
  simp only [together_append] at hsplit
  have hword : (s.run g threshold (List.replicate n .poll)).Fits := by
    intro r hr
    rw [hpolled.counts r hr]
    have := hsplit r.counts.length
    rw [outstanding] at hfits
    omega
  obtain ⟨htracking, r, hr, hall, hzero⟩ := of_isOver hover hword hsound
  refine ⟨hpolled.tracking ▸ htracking, ?_⟩
  rw [hpolled.counts r hr, hall] at hzero
  exact (Quiescence.outstanding_eq_zero_iff _).1 hzero

theorem run_replicate_add (g : Guest σ) (s : Supervised σ) (n k : Nat) :
    s.run g threshold (List.replicate (n + k) .poll) =
      (s.run g threshold (List.replicate n .poll)).run g threshold (List.replicate k .poll) := by
  rw [← List.replicate_append_replicate, run, List.foldl_append]
  rfl

theorem poll_begins (hreading : s.reading = none) (htracking : s.watchdog.isTracking = true) :
    s.poll threshold = { s with reading := some ⟨[], s.host.isAtWork⟩ } := by
  rw [Supervised.poll, hreading, if_pos htracking]

/-- A poll between whose readings nothing happens: it begins, reads six counts, and answers. -/
theorem run_poll (g : Guest σ) (hreading : s.reading = none)
    (htracking : s.watchdog.isTracking = true) :
    s.run g threshold (List.replicate 8 .poll) =
      ⟨s.host, (s.watchdog.poll threshold (.ofServices s.host.services)).2, none⟩ := by
  show Supervised.run g threshold (s.poll threshold) (List.replicate 7 .poll) = _
  rw [poll_begins hreading htracking]
  rfl

theorem isOver_poll (g : Guest σ) (hreading : s.reading = none)
    (htracking : s.watchdog.isTracking = true) :
    (s.run g threshold (List.replicate 7 .poll)).isOver threshold =
      decide ((s.watchdog.poll threshold (.ofServices s.host.services)).1 = .ended) := by
  show (Supervised.run g threshold (s.poll threshold) (List.replicate 6 .poll)).isOver _ = _
  rw [poll_begins hreading htracking]
  rfl

theorem run_polls (g : Guest σ) (n : Nat) :
    ∀ {s : Supervised σ}, s.reading = none → s.watchdog.isTracking = true →
      s.run g threshold (List.replicate (8 * n) .poll) =
        ⟨s.host, s.watchdog.pollAgain threshold (.ofServices s.host.services) n, none⟩ := by
  induction n with
  | zero =>
      rintro ⟨host, watchdog, reading⟩ hreading -
      cases hreading
      rfl
  | succ n ih =>
      intro s hreading htracking
      rw [Nat.mul_succ, Nat.add_comm, run_replicate_add, run_poll g hreading htracking,
        ih rfl ((Watchdog.isTracking_poll _ _ _).trans htracking)]
      rfl

/-- Polls alone can end a run exactly if it is tracked and its services are settled, whatever its
passes do. -/
theorem isOver_of_polls_iff (g : Guest σ) (hthreshold : threshold ≤ Quiescence.maxPolls)
    (hreading : s.reading = none) (hfits : outstanding s.host.services < UInt64.size) :
    (∃ n, (s.run g threshold (List.replicate n .poll)).isOver threshold = true) ↔
      s.watchdog.isTracking = true ∧ s.host.services.Settled := by
  constructor
  · rintro ⟨n, hover⟩
    exact settled_of_polls g hreading hfits hover
  · rintro ⟨htracking, hsettled⟩
    have hidle : (Tally.ofServices s.host.services).isIdle? = some true := by
      rw [Quiescence.isIdle?_ofServices hfits,
        decide_eq_true ((Quiescence.outstanding_eq_zero_iff _).2 hsettled)]
    refine ⟨8 * (threshold - 1) + 7, ?_⟩
    rw [run_replicate_add, run_polls g _ hreading htracking,
      isOver_poll g rfl ((Watchdog.isTracking_pollAgain _ _ _ _).trans htracking)]
    exact decide_eq_true (Watchdog.over_of_polls htracking hidle hthreshold)

end Supervised
/-! ## Waiting -/

namespace ExactHost

variable {σ : Type}

/-- A poll after which a wait polls again, or one that is its last. -/
theorem pollFrom_succ (c : Clock Id σ) (settings : WatchdogSettings) (polls time : Nat)
    (watchdog : Watchdog) (x : ExactHost σ) :
    let now : ExactHost σ := x.advanceTo c time
    let poll := watchdog.poll settings.stabilityThreshold (.ofServices now.host.services)
    pollFrom c settings (polls + 1) time (watchdog, x) =
      if poll.1 = .goesOn then
        pollFrom c settings polls (time + settings.pollInterval) (poll.2, now)
      else (poll.1, poll.2, now) := by
  rw [pollFrom]
  simp only [bind, pure]
  rcases watchdog.poll settings.stabilityThreshold
    (.ofServices (x.advanceTo c time : ExactHost σ).host.services) with ⟨_ | _ | _, after⟩
  · rfl
  · rfl
  · rfl

theorem idle_of_pollFrom (c : Clock Id σ) (settings : WatchdogSettings) (polls : Nat) :
    ∀ (time : Nat) (world : Watchdog × ExactHost σ),
      (pollFrom c settings polls time world).1 = .ended →
        (Tally.ofServices (pollFrom c settings polls time world).2.2.host.services).isIdle? =
          some true := by
  induction polls with
  | zero =>
      rintro time ⟨watchdog, x⟩ hended
      exact (Watchdog.of_over hended).2
  | succ polls ih =>
      rintro time ⟨watchdog, x⟩ hended
      rw [pollFrom_succ] at hended ⊢
      split at hended
      · rename_i hgoes
        rw [if_pos hgoes]
        exact ih _ _ hended
      · rename_i hstops
        rw [if_neg hstops]
        exact (Watchdog.of_over hended).2

/-- A wait that ends in time ends at a tally that is idle. -/
theorem idle_of_wait (c : Clock Id σ) (world : Watchdog × ExactHost σ)
    (hok : (wait c world).1 = some (.ok ())) :
    (Tally.ofServices (wait c world).2.2.host.services).isIdle? = some true := by
  obtain ⟨watchdog, x⟩ := world
  have hidle := idle_of_pollFrom c x.settings.watchdog
    (x.settings.watchdog.shutdownTimeoutMillis / x.settings.watchdog.pollInterval) x.host.now
    (watchdog, x)
  rw [wait] at hok ⊢
  simp only [bind, pure] at hok ⊢
  split at hok
  · rename_i hpolls
    rw [hpolls] at hidle
    exact hidle rfl
  · cases hok
  · cases hok

end ExactHost

namespace Supervised

variable {σ : Type}

/-- **The answer "over" overlooks callbacks.**  It says that nothing is left to do if no guest code has
run or waited since the poll began.  If a callback still runs or waits, it is given all the same: from
a moment between two polls, polls alone come to a wrong answer exactly if the run is tracked, the
services are settled and a callback is left, whatever the threshold is.  A wait that ends in time says
no more than its last poll: that the services were settled then. -/
theorem over_overlooks_callbacks (g : Guest σ) (jobCapacity : Nat) (guest : σ) (threshold : UInt32)
    (moves : List Move) (hmoves : ∀ m ∈ moves, m.isOffer = false) :
    let s := (fresh jobCapacity guest).run g threshold.toNat moves
    (s.isOver threshold.toNat = true → s.Fits → s.isDisturbed = false → s.host.IsQuiet) ∧
      (s.reading = none → outstanding s.host.services < UInt64.size →
        ((∃ n, let t := s.run g threshold.toNat (List.replicate n .poll)
            t.isOver threshold.toNat = true ∧ ¬ t.host.IsQuiet) ↔
          s.watchdog.isTracking = true ∧ s.host.services.Settled ∧ s.host.hasCallback = true)) ∧
      ∀ (c : ExactHost.Clock Id σ) (world : Watchdog × ExactHost σ),
        (ExactHost.wait c world).1 = some (.ok ()) →
          let services := (ExactHost.wait c world).2.2.host.services
          outstanding services < UInt64.size → services.Settled := by
  intro s
  have hsound : s.Sound := (Sound.fresh jobCapacity guest).run g moves hmoves
  have hthreshold : threshold.toNat ≤ Quiescence.maxPolls := by
    have := threshold.toNat_lt
    show _ ≤ 4294967295
    omega
  refine ⟨fun hover hfits hcalm => isQuiet_of_isOver hover hfits hsound hcalm, ?_, ?_⟩
  · intro hreading hfits
    have hover_iff := isOver_of_polls_iff g hthreshold hreading hfits
    have hhost (n : Nat) : (s.run g threshold.toNat (List.replicate n .poll)).host = s.host :=
      (polled_run g hreading n).host
    constructor
    · rintro ⟨n, hover, hbusy⟩
      obtain ⟨htracking, hsettled⟩ := hover_iff.1 ⟨n, hover⟩
      rw [hhost] at hbusy
      refine ⟨htracking, hsettled, ?_⟩
      rw [← Bool.not_eq_false]
      exact fun hnone => hbusy ⟨hsettled, hnone⟩
    · rintro ⟨htracking, hsettled, hcallback⟩
      obtain ⟨n, hover⟩ := hover_iff.2 ⟨htracking, hsettled⟩
      refine ⟨n, hover, ?_⟩
      rw [hhost]
      intro hquiet
      rw [hquiet.2] at hcallback
      cases hcallback
  · intro c world hok services hfits
    have hidle := ExactHost.idle_of_wait c world hok
    rw [Quiescence.isIdle?_ofServices hfits] at hidle
    exact (Quiescence.outstanding_eq_zero_iff _).1 (of_decide_eq_true (Option.some.inj hidle))

/-- A language whose scripts and closures ask for a timer; a closure takes a while before it does. -/
def relays : Language Unit Unit where
  execute _ _ := .ask (.setTimer () none false) fun _ => .finish (.returned .null) ()
  call _ _ _ := .pause fun _ => .ask (.setTimer () none false) fun _ => .finish (.returned .null) ()

/-- A script that asks for a timer, up to the end of its execution. -/
def relay : List Move :=
  [.event (.submit false "" "" 0), .event (.enter 1), .event .takeJob] ++
    List.replicate 9 (.event .work) ++ [.transition .completeMain]

/-- The timer fires and a pass takes its firing. -/
def firing : List Move :=
  [.event (.wakeTimer 1), .event .takeToken, .event .work, .event .work, .event .work]

/-- Polls end a run in which a callback has yet to ask for its timer. -/
theorem relay_ended_by_polls :
    let s := (fresh 1 (State.start ())).run relays.guest 3 (relay ++ firing)
    ∃ n,
      let t := s.run relays.guest 3 (List.replicate n .poll)
      t.isOver 3 = true ∧ ¬ t.host.IsQuiet := by
  intro s
  have hsettled : s.host.services.Settled := (Quiescence.outstanding_eq_zero_iff _).1 (by decide)
  exact ((over_overlooks_callbacks relays.guest 1 (State.start ()) 3 (relay ++ firing)
    (by decide)).2.1 rfl (by decide)).2 ⟨by decide, hsettled, by decide⟩

/-- An answer "over" is not to be had for quiet hosts only: three polls are enough for a threshold of
three, and a callback still runs. -/
theorem over_while_callback_runs :
    ¬ ∀ (σ : Type) (g : Guest σ) (jobCapacity : Nat) (guest : σ) (threshold : UInt32)
      (moves : List Move), (∀ m ∈ moves, m.isOffer = false) →
        let s := (fresh jobCapacity guest).run g threshold.toNat moves
        s.isOver threshold.toNat = true → s.host.IsQuiet := by
  intro h
  have hquiet := h _ relays.guest 1 (State.start ()) 3 (relay ++ firing ++ List.replicate 23 .poll)
    (by decide) (by decide)
  exact absurd hquiet.2 (by decide)

/-- A callback between two readings: the timer that fires is gone when the timers are counted, the one
that its callback asks for is not there yet, and no callback is left at the end. -/
example :
    let s := (fresh 1 (State.start ())).run relays.guest 1
      (relay ++ [.poll, .poll] ++ firing ++ [.poll] ++ List.replicate 6 (.event .work) ++
        List.replicate 4 .poll)
    s.isOver 1 = true ∧ s.host.hasCallback = false ∧ s.host.services.timers.isLive 2 = true := by
  decide

end Supervised
end ScriptHost
