import Mathlib.Data.List.Infix
import ScriptHost.Proofs.Network.Wire

/-!
# What is read from a connection

Reads take their turns at a connection, and each takes a chunk from the front of what has come in.
So the chunks are the stream, cut into pieces in the order in which the reads have asked, and what
has not been read is still there.  No byte is lost on the way to the reads or read twice, and a read
that gives up or finds nothing has taken no byte.

A read gives its turn back before it queues its callback.  In between the next read may get its chunk
and queue it first, so the callbacks stand in the queue in the order of the stream only if no two
chunks are on their way at one time (`InTurn`).
-/

namespace ScriptHost.Network

open Ready (Callback Outcome Target)

/-! ## Chunks and deliveries -/

/-- A read has queued its callback with the bytes that it has got. -/
structure Delivery where
  op : Nat
  completion : Nat
  data : ByteArray

namespace Delivery

/-- What has been read, and by whom. -/
def chunk (d : Delivery) : Nat × ByteArray := (d.op, d.data)

/-- What has been queued. -/
def callback (d : Delivery) : Callback := .completion d.completion (.success (.bytes d.data))

end Delivery

/-- A read gets bytes at a connection.  The end of the stream is no chunk. -/
def Traffic.chunk? (id : Nat) : Traffic → Option (Nat × ByteArray)
  | .read op other data => if other = id ∧ data.size ≠ 0 then some (op, data) else none
  | _ => none

/-- A read of a connection queues what it has got. -/
def Traffic.delivery? (id : Nat) : Traffic → Option Delivery
  | .deliver op other completion data => if other = id then some ⟨op, completion, data⟩ else none
  | _ => none

/-- The bytes that come in at a connection. -/
def Traffic.arrival (id : Nat) : Traffic → List UInt8
  | .arrive other bytes => if other = id then bytes else []
  | _ => []

/-- The chunks that have been read from a connection, with their reads. -/
def chunks (id : Nat) (traffic : List Traffic) : List (Nat × ByteArray) :=
  traffic.filterMap (Traffic.chunk? id)

/-- The chunks of a connection that have been queued, in the order of queueing. -/
def deliveries (id : Nat) (traffic : List Traffic) : List Delivery :=
  traffic.filterMap (Traffic.delivery? id)

/-- All that the peer has sent on a connection. -/
def sent (id : Nat) (traffic : List Traffic) : List UInt8 := traffic.flatMap (Traffic.arrival id)

/-- The bytes of chunks, one chunk after the other. -/
def joined (chunks : List (Nat × ByteArray)) : List UInt8 := chunks.flatMap fun c => bytesOf c.2

/-- At no time is more than one chunk of a connection read and not queued. -/
def InTurn (id : Nat) (traffic : List Traffic) : Prop :=
  ∀ earlier ∈ traffic.inits, (chunks id earlier).length ≤ (deliveries id earlier).length + 1

/-- A callback is for the completion of one of the deliveries. -/
def isAmong (deliveries : List Delivery) (callback : Callback) : Bool :=
  callback.target ∈ deliveries.map fun d => Target.completion d.completion

section

variable {id op : Nat} {data : ByteArray} {traffic : List Traffic}

theorem chunks_snoc (id : Nat) (traffic : List Traffic) (l : Traffic) :
    chunks id (traffic ++ [l]) = chunks id traffic ++ (l.chunk? id).toList :=
  filterMap_snoc (Traffic.chunk? id) traffic l

theorem deliveries_snoc (id : Nat) (traffic : List Traffic) (l : Traffic) :
    deliveries id (traffic ++ [l]) = deliveries id traffic ++ (l.delivery? id).toList :=
  filterMap_snoc (Traffic.delivery? id) traffic l

theorem sent_snoc (id : Nat) (traffic : List Traffic) (l : Traffic) :
    sent id (traffic ++ [l]) = sent id traffic ++ l.arrival id := by
  rw [sent, List.flatMap_append, List.flatMap_singleton]
  rfl

theorem mem_chunks :
    (op, data) ∈ chunks id traffic ↔ .read op id data ∈ traffic ∧ data.size ≠ 0 := by
  rw [chunks, List.mem_filterMap]
  constructor
  · rintro ⟨l, hmem, hchunk⟩
    cases l with
    | read other otherId otherData =>
        rw [Traffic.chunk?] at hchunk
        split at hchunk
        · rename_i hboth
          cases hchunk
          exact ⟨hboth.1 ▸ hmem, hboth.2⟩
        · cases hchunk
    | dry | ask | take | written | deliver | arrive => cases hchunk
  · exact fun ⟨hmem, hsize⟩ => ⟨_, hmem, if_pos ⟨rfl, hsize⟩⟩

theorem mem_deliveries {d : Delivery} :
    d ∈ deliveries id traffic ↔ .deliver d.op id d.completion d.data ∈ traffic := by
  rw [deliveries, List.mem_filterMap]
  constructor
  · rintro ⟨l, hmem, hdelivery⟩
    cases l with
    | deliver other otherId completion otherData =>
        rw [Traffic.delivery?] at hdelivery
        split at hdelivery
        · rename_i hid
          cases hdelivery
          exact hid ▸ hmem
        · cases hdelivery
    | dry | ask | read | take | written | arrive => cases hdelivery
  · exact fun hmem => ⟨_, hmem, if_pos rfl⟩

theorem mem_chunks_snoc {c : Nat × ByteArray} (hmem : c ∈ chunks id traffic) (l : Traffic) :
    c ∈ chunks id (traffic ++ [l]) :=
  chunks_snoc id traffic l ▸ List.mem_append_left _ hmem

theorem joined_mono {earlier later : List (Nat × ByteArray)} (h : earlier <+: later) :
    joined earlier <+: joined later := by
  obtain ⟨rest, rfl⟩ := h
  rw [joined, joined, List.flatMap_append]
  exact List.prefix_append _ _

/-- What is taken in turn has been taken in turn so far. -/
theorem InTurn.of_snoc {l : Traffic} (h : InTurn id (traffic ++ [l])) : InTurn id traffic :=
  fun earlier hmem => h earlier <| (List.mem_inits _ _).2 <|
    ((List.mem_inits _ _).1 hmem).trans (List.prefix_append _ _)

/-- The end of the stream has no bytes, and counts for nothing. -/
theorem joined_chunks_read (id op other : Nat) (data : ByteArray) (traffic : List Traffic) :
    joined (chunks id (traffic ++ [.read op other data])) =
      joined (chunks id traffic) ++ if other = id then bytesOf data else [] := by
  rw [chunks_snoc, joined, joined, List.flatMap_append, Traffic.chunk?]
  by_cases hid : other = id
  · by_cases hsize : data.size = 0
    · have hnothing : bytesOf data = [] :=
        List.eq_nil_of_length_eq_zero ((length_bytesOf data).trans hsize)
      simp [hsize, hnothing]
    · simp [hid, hsize]
  · simp [hid]

end

/-! ## What a read has in hand -/

/-- The bytes that an operation has got and has not queued yet. -/
def inHand : Standing → Option ByteArray
  | (some ⟨_, _, .waiting⟩, .heard (.settled (.ok (.success (.bytes data)))))
  | (some ⟨_, _, .finished (.success (.bytes data))⟩, .none) => some data
  | _ => none

/-- Only a read returns bytes, and they are the ones that it has got. -/
theorem Request.bytes_of_conclusion {request : Request} {r : Reply} {data : ByteArray}
    (h : request.conclusion r = .settled (.ok (.success (.bytes data)))) :
    r = .bytes data ∧ data.size ≠ 0 := by
  revert h
  fun_cases Request.conclusion request r <;> intro h
  case case6 hsize =>
    cases h
    exact ⟨rfl, hsize⟩
  all_goals cases h

theorem Request.named?_bytes (request : Request) (data : ByteArray) :
    request.named? (.success (.bytes data)) = none := by
  cases request <;> rfl

section

variable {acts : List Act} {here there : Standing} {act : Act} {data : ByteArray}

theorem inHand_heard {completion : Nat} {request : Request} {conclusion : Conclusion}
    (h : inHand (some ⟨completion, request, .waiting⟩, .heard conclusion) = some data) :
    conclusion = .settled (.ok (.success (.bytes data))) := by
  rw [inHand.eq_def] at h
  split at h
  · rename_i heq
    cases heq
    cases h
    rfl
  · rename_i heq
    cases heq
  · cases h

theorem inHand_finished {completion : Nat} {request : Request} {outcome : Outcome}
    (h : inHand (some ⟨completion, request, .finished outcome⟩, .none) = some data) :
    outcome = .success (.bytes data) := by
  rw [inHand.eq_def] at h
  split at h
  · rename_i heq
    cases heq
  · rename_i heq
    cases heq
    cases h
    rfl
  · cases h

theorem inHand_of_hear {completion id limit : Nat} (hsize : data.size ≠ 0) :
    inHand (some ⟨completion, .read id limit, .waiting⟩,
      .heard ((Request.read id limit).conclusion (.bytes data))) = some data := by
  rw [Request.conclusion, if_neg hsize]
  rfl

/-- What an operation has in hand it has just got, or has had in hand. -/
theorem Course.inHand (h : Course acts here) (goes : Goes here act there)
    (hhand : inHand there = some data) :
    act = .hear (.bytes data) ∧ data.size ≠ 0 ∨ Network.inHand here = some data := by
  cases goes with
  | hear r =>
      obtain ⟨rfl, hsize⟩ := Request.bytes_of_conclusion (inHand_heard hhand)
      exact .inl ⟨rfl, hsize⟩
  | @settle completion request result =>
      have houtcome := inHand_finished hhand
      cases result with
      | ok outcome =>
          obtain rfl : outcome = .success (.bytes data) := houtcome
          exact .inr rfl
      | error cause => cases houtcome
  | enter =>
      -- an outcome that names a handle is not made of bytes
      rcases h.record with ⟨-, hnowhere⟩ | ⟨_, _, _, -, -, hrecord⟩
      · cases hnowhere
      · cases hrecord with
        | drawn _ _ hnamed =>
            cases inHand_heard hhand
            rw [Request.named?_bytes] at hnamed
            cases hnamed
  | start | refuse | find | ask | watch | giveUp | draw | remove | miss | signal | queue | uncount
  | finish | drop => cases hhand

/-- What an operation has in hand it queues, or keeps in hand. -/
theorem Goes.inHand (goes : Goes here act there) (hhand : inHand here = some data)
    (hkept : ∀ ran, act ≠ .drop ran) :
    (∃ completion, act = .queue (.completion completion (.success (.bytes data)))) ∨
      Network.inHand there = some data := by
  cases goes with
  | settle =>
      cases inHand_heard hhand
      exact .inr rfl
  | queue =>
      cases inHand_finished hhand
      exact .inl ⟨_, rfl⟩
  | drop => exact absurd rfl (hkept _)
  | start | refuse | find | ask | watch | giveUp | hear | draw | enter | remove | miss | signal
  | uncount | finish => cases hhand

/-- An operation that stands so has got no reply. -/
def IsUnheard : Standing → Prop
  | (none, .none) | (some ⟨_, _, .spawned⟩, .none) | (some ⟨_, _, .waiting⟩, .waits _ _) => True
  | _ => False

theorem Course.unheard (h : Course acts here) (hhere : IsUnheard here) (r : Reply) :
    .hear r ∉ acts := by
  refine h.not_mem_of (fun goes hthere => ?_) hhere
  cases goes with
  | start | find | ask | watch => exact ⟨trivial, by simp⟩
  | refuse | giveUp | hear | draw | enter | remove | miss | signal | settle | queue | uncount
  | finish | drop => exact hthere.elim

/-- An operation that has returned and has queued nothing yet. -/
theorem Course.unqueued (h : Course acts here) {completion : Nat} {request : Request}
    {outcome : Outcome} (hhere : here = (some ⟨completion, request, .finished outcome⟩, .none))
    (callback : Callback) : .queue callback ∉ acts := by
  intro hmem
  have hcallback : callback ∈ callbacks acts := List.mem_filterMap.2 ⟨_, hmem, rfl⟩
  rcases h.record with ⟨-, hnowhere⟩ | ⟨_, _, _, -, -, hrecord⟩
  · cases hhere.symm.trans hnowhere
  · subst hhere
    cases hrecord with
    | finished hcallbacks =>
        rw [hcallbacks] at hcallback
        cases hcallback

end

theorem Event.eq_of_callback? {e : Event} {callback : Callback}
    (h : e.callback? = some callback) : ∃ op, e = .op op (.queue callback) := by
  rw [Event.callback?.eq_def] at h
  split at h
  · cases h
    exact ⟨_, rfl⟩
  · cases h

/-- An operation queues one callback. -/
theorem Shared.Run.callback_eq {α : Type} {settings : NetworkSettings} {events : List Event}
    {s : Shared α} (h : Run (start settings) events s) {op : Nat} {callback other : Callback}
    (hmem : .op op (.queue callback) ∈ events) (hother : .op op (.queue other) ∈ events) :
    other = callback := by
  have hqueued {c : Callback} (hmem : .op op (.queue c) ∈ events) :
      c ∈ callbacks (acts op events) :=
    List.mem_filterMap.2 ⟨_, (mem_acts op events _).2 hmem, rfl⟩
  have hthis := hqueued hmem
  have hthat := hqueued hother
  rcases (h.course op).record with ⟨hnone, -⟩ | ⟨_, _, _, -, -, hrecord⟩
  · rw [hnone] at hthis
    cases hthis
  · rcases hrecord.callbacks with hnone | ⟨outcome, hone⟩
    · rw [hnone] at hthis
      cases hthis
    · rw [hone, List.mem_singleton] at hthis hthat
      rw [hthis, hthat]

namespace Wired

variable {α : Type} {settings : NetworkSettings} {traffic : List Traffic} {w w' : Wired α}
  {l : Traffic} {op id : Nat} {data : ByteArray}

/-! ## The stream is cut into chunks -/

/-- What has been read is the front of the stream, and the rest has not been read. -/
theorem Run.joined_append_incoming (h : Run settings traffic w) (id : Nat) :
    joined (chunks id traffic) ++ w.incoming id = sent id traffic := by
  induction h with
  | nil => rfl
  | snoc hrun step ih =>
      rename_i traffic w w' l
      rw [sent_snoc, ← ih]
      cases step with
      | dry | ask | take | written | deliver =>
          rw [chunks_snoc]
          simp [Traffic.chunk?, Traffic.arrival]
      | arrive other bytes =>
          rw [chunks_snoc]
          by_cases hid : id = other
          · simp [Traffic.chunk?, Traffic.arrival, hid]
          · simp [Traffic.chunk?, Traffic.arrival, hid, Ne.symm hid]
      | @read op completion other limit data asked watching hat hturn hlimit hfront =>
          rw [joined_chunks_read]
          by_cases hid : id = other
          · subst hid
            obtain ⟨rest, hrest⟩ := hfront
            have hleft : (w.incoming id).drop data.size = rest := by
              rw [← hrest, ← length_bytesOf, List.drop_left]
            simp only [Traffic.arrival, if_pos, List.append_nil, List.append_assoc, hleft, hrest]
          · simp [Traffic.arrival, hid, Ne.symm hid]

/-! ## The line of the reads -/

theorem Run.mem_lineup_of_read (h : Run settings traffic w) (hmem : .read op id data ∈ traffic) :
    op ∈ lineup (.reader, id) traffic := by
  induction h with
  | nil => cases hmem
  | snoc hrun step ih =>
      rcases List.mem_append.1 hmem with hearlier | hlast
      · exact mem_lineup_snoc (ih hearlier) _
      · rw [List.mem_singleton] at hlast
        subst hlast
        cases step with
        | read hat hturn => exact mem_lineup_snoc (hrun.mem_lineup_of_current (hturn _ rfl)) _

/-- A read that waits has got nothing. -/
theorem Run.not_mem_of_waits (h : Run settings traffic w) {completion : Nat} {request : Request}
    {asked watching : Bool}
    (hat : w.shared.At op completion request .waiting (.waits asked watching)) :
    .read op id data ∉ traffic := by
  intro hmem
  have hcourse := h.shared.course op
  rw [hat.standing] at hcourse
  exact hcourse.unheard trivial (.bytes data) ((mem_acts _ _ _).2 (mem_events_of_event? hmem rfl))

/-- The reads behind the turn have got nothing. -/
theorem Run.readers_inLine (h : Run settings traffic w) (id : Nat) :
    (w.shared.turns (.reader, id)).InLine (lineup (.reader, id) traffic)
      (fun j => j ∉ (chunks id traffic).map (·.1)) := by
  refine Run.inLine_of (fun traffic _ j => j ∉ (chunks id traffic).map (·.1)) (.reader, id) ?_ ?_ h
  · intro traffic w op hrun hnew hgot
    obtain ⟨⟨_, data⟩, hmem, rfl⟩ := List.mem_map.1 hgot
    exact hnew _ (hrun.mem_lineup_of_read (mem_chunks.1 hmem).1)
  · intro traffic w w' l hrun step j _ hnothing
    rw [chunks_snoc]
    by_cases hreads : ∃ data, l = .read j id data
    · obtain ⟨data, rfl⟩ := hreads
      cases step with
      | read hat hturn => exact .inr (hturn _ rfl)
    · refine .inl fun hgot => ?_
      rw [List.map_append] at hgot
      refine hnothing ((List.mem_append.1 hgot).resolve_right fun hlast => ?_)
      obtain ⟨⟨_, data⟩, hmem, rfl⟩ := List.mem_map.1 hlast
      have hread := (mem_chunks.1 (List.mem_filterMap.2 ⟨l, List.mem_singleton_self _,
        Option.mem_toList.1 hmem⟩)).1
      exact hreads ⟨data, (List.mem_singleton.1 hread).symm⟩

/-- The chunks are read in the order in which the reads have asked, and each read gets one at most. -/
theorem Run.chunks_sublist (h : Run settings traffic w) (id : Nat) :
    ((chunks id traffic).map (·.1)).Sublist (lineup (.reader, id) traffic) := by
  induction h with
  | nil => exact List.Sublist.refl _
  | snoc hrun step ih =>
      rename_i traffic w w' l
      rw [chunks_snoc, lineup_snoc]
      cases step with
      | dry | ask | take | written | deliver | arrive =>
          simpa [Traffic.chunk?] using ih.trans (List.sublist_append_left _ _)
      | @read op completion other limit data asked watching hat hturn hlimit hfront =>
          simp only [Traffic.asks?, Option.toList_none, List.append_nil, Traffic.chunk?]
          split
          · rename_i hboth
            obtain ⟨rfl, hsize⟩ := hboth
            obtain ⟨before, after, hline, -, hnothing⟩ :=
              (hrun.readers_inLine other).split (hturn _ rfl)
            -- neither the read itself nor those behind it have got anything
            have hnone : ∀ j ∈ (chunks other traffic).map (·.1), j ∉ op :: after := by
              intro j hgot hmem
              rcases List.mem_cons.1 hmem with rfl | hbehind
              · obtain ⟨⟨_, earlier⟩, hchunk, rfl⟩ := List.mem_map.1 hgot
                exact hrun.not_mem_of_waits hat (mem_chunks.1 hchunk).1
              · exact hnothing j hbehind hgot
            rw [hline] at ih ⊢
            obtain ⟨front, behind, hgot, hfront, hbehind⟩ := List.sublist_append_iff.1 ih
            have hempty : behind = [] := List.eq_nil_iff_forall_not_mem.2 fun j hj =>
              hnone j (hgot ▸ List.mem_append_right _ hj) (hbehind.subset hj)
            rw [hempty, List.append_nil] at hgot
            rw [List.map_append, hgot]
            exact hfront.append (List.singleton_sublist.2 List.mem_cons_self)
          · simpa using ih

/-! ## From hand to queue -/

theorem Step.read_of_event (h : Step w l w')
    (hl : l.event? = some (.op op (.hear (.bytes data)))) : ∃ id, l = .read op id data := by
  cases h with
  | dry hdry =>
      cases hl
      cases hdry
  | read =>
      cases hl
      exact ⟨_, rfl⟩
  | ask | take | written | deliver | arrive => cases hl

theorem Step.deliver_of_event (h : Step w l w') {completion : Nat}
    (hl : l.event? = some (.op op (.queue (.completion completion (.success (.bytes data)))))) :
    ∃ id, l = .deliver op id completion data := by
  cases h with
  | dry hdry =>
      cases hl
      cases hdry
  | deliver =>
      cases hl
      exact ⟨_, rfl⟩
  | ask | read | take | written | arrive => cases hl

/-- A step beside an operation leaves it where it stands. -/
theorem Step.standing (h : Step w l w') (htidy : w.shared.Tidy) (op : Nat) :
    w'.shared.standing op = w.shared.standing op ∨
      ∃ act, l.event? = some (.op op act) ∧
        Goes (w.shared.standing op) act (w'.shared.standing op) := by
  have hevent := h.event
  cases hl : l.event? with
  | none =>
      rw [hl] at hevent
      exact .inl (congrArg (·.standing op) hevent)
  | some e =>
      rw [hl] at hevent
      rcases hevent.course htidy op with ⟨-, hsame⟩ | ⟨act, rfl, hgoes⟩
      · exact .inl hsame
      · exact .inr ⟨act, rfl, hgoes⟩

/-- What an operation has in hand is a chunk that it has read. -/
theorem Run.chunk_of_inHand (h : Run settings traffic w)
    (hhand : inHand (w.shared.standing op) = some data) : ∃ id, (op, data) ∈ chunks id traffic := by
  induction h with
  | nil => cases hhand
  | snoc hrun step ih =>
      rename_i traffic w w' l
      have hkeep (hbefore : inHand (w.shared.standing op) = some data) :
          ∃ id, (op, data) ∈ chunks id (traffic ++ [l]) := by
        obtain ⟨id, hchunk⟩ := ih hbefore
        exact ⟨id, mem_chunks_snoc hchunk l⟩
      rcases step.standing hrun.shared.tidy op with hsame | ⟨act, hl, hgoes⟩
      · exact hkeep (hsame ▸ hhand)
      · rcases (hrun.shared.course op).inHand hgoes hhand with ⟨rfl, hsize⟩ | hbefore
        · obtain ⟨id, rfl⟩ := step.read_of_event hl
          exact ⟨id, mem_chunks.2 ⟨List.mem_append_right _ (List.mem_singleton_self _), hsize⟩⟩
        · exact hkeep hbefore

/-- A chunk that has been read has been queued, or its read has it in hand, unless the task of the
read has been dropped. -/
theorem Run.chunk_kept (h : Run settings traffic w) (hchunk : (op, data) ∈ chunks id traffic)
    (hkept : ∀ ran, .op op (.drop ran) ∉ events traffic) :
    (∃ completion, ⟨op, completion, data⟩ ∈ deliveries id traffic) ∨
      inHand (w.shared.standing op) = some data := by
  induction h with
  | nil => cases hchunk
  | snoc hrun step ih =>
      rename_i traffic w w' l
      obtain ⟨hmem, hsize⟩ := mem_chunks.1 hchunk
      rcases List.mem_append.1 hmem with hearlier | hlast
      · rcases ih (mem_chunks.2 ⟨hearlier, hsize⟩)
          (fun ran hdrop => hkept ran (mem_events_snoc hdrop l)) with ⟨completion, hqueued⟩ | hhand
        · exact .inl ⟨completion, deliveries_snoc id traffic l ▸ List.mem_append_left _ hqueued⟩
        · rcases step.standing hrun.shared.tidy op with hsame | ⟨act, hl, hgoes⟩
          · exact .inr (hsame ▸ hhand)
          · have hlast : .op op act ∈ events (traffic ++ [l]) :=
              mem_events_of_event? (List.mem_append_right _ (List.mem_singleton_self _)) hl
            refine (hgoes.inHand hhand ?_).imp_left ?_
            · rintro ran rfl
              exact hkept ran hlast
            · rintro ⟨completion, rfl⟩
              obtain ⟨other, rfl⟩ := step.deliver_of_event hl
              have hdelivered : .deliver op other completion data ∈
                  traffic ++ [.deliver op other completion data] :=
                List.mem_append_right _ (List.mem_singleton_self _)
              have hside := (hrun.snoc step).side_eq hmem rfl hdelivered rfl
              obtain rfl : other = id := congrArg Prod.snd hside
              exact ⟨completion, mem_deliveries.2 hdelivered⟩
      · rw [List.mem_singleton] at hlast
        subst hlast
        cases step with
        | @read _ completion _ limit _ _ _ hat hturn =>
            have hheard := hat.place (.heard ((Request.read id limit).conclusion (.bytes data)))
            exact .inr ((congrArg inHand hheard.standing).trans (inHand_of_hear hsize))

/-- Nothing is queued but chunks that have been read. -/
theorem Run.chunk_of_delivery (h : Run settings traffic w) {d : Delivery}
    (hqueued : d ∈ deliveries id traffic) : d.chunk ∈ chunks id traffic := by
  induction h with
  | nil => cases hqueued
  | snoc hrun step ih =>
      rename_i traffic w w' l
      have hmem := mem_deliveries.1 hqueued
      rcases List.mem_append.1 hmem with hearlier | hlast
      · exact mem_chunks_snoc (ih (mem_deliveries.2 hearlier)) l
      · rw [List.mem_singleton] at hlast
        subst hlast
        have hhand : inHand (w.shared.standing d.op) = some d.data := by
          cases step with
          | deliver hat =>
              rw [hat.standing]
              rfl
        obtain ⟨other, hchunk⟩ := hrun.chunk_of_inHand hhand
        have hread := List.mem_append_left [.deliver d.op id d.completion d.data]
          (mem_chunks.1 hchunk).1
        have hside := (hrun.snoc step).side_eq hmem rfl hread rfl
        obtain rfl : other = id := congrArg Prod.snd hside
        exact mem_chunks_snoc hchunk _

/-- A read that has yet to queue its callback has queued nothing. -/
theorem Run.not_mem_of_finished (h : Run settings traffic w) {completion : Nat}
    {request : Request} {outcome : Outcome}
    (hat : w.shared.At op completion request (.finished outcome) .none) :
    op ∉ (deliveries id traffic).map (·.op) := by
  intro hmem
  obtain ⟨d, hqueued, rfl⟩ := List.mem_map.1 hmem
  have hqueue := mem_events_of_event? (mem_deliveries.1 hqueued) rfl
  exact (h.shared.course d.op).unqueued hat.standing _ ((mem_acts _ _ _).2 hqueue)

/-- A read queues its chunk once. -/
theorem Run.nodup_deliveries (h : Run settings traffic w) (id : Nat) :
    ((deliveries id traffic).map (·.op)).Nodup := by
  induction h with
  | nil => exact List.nodup_nil
  | snoc hrun step ih =>
      rename_i traffic w w' l
      rw [deliveries_snoc]
      cases step with
      | dry | ask | read | take | written | arrive => simpa [Traffic.delivery?] using ih
      | @deliver op completion other limit data hat =>
          simp only [Traffic.delivery?]
          split
          · rw [List.map_append]
            refine List.nodup_append.2 ⟨ih, List.nodup_singleton _, ?_⟩
            rintro j hj _ hop rfl
            cases List.mem_singleton.1 hop
            exact hrun.not_mem_of_finished hat hj
          · simpa using ih

/-! ## The order in the queue -/

/-- What has been queued for the reads of a connection is what they have delivered, in order. -/
theorem Run.callbacks_eq (h : Run settings traffic w) (id : Nat) :
    ((events traffic).filterMap Event.callback?).filter (isAmong (deliveries id traffic)) =
      (deliveries id traffic).map Delivery.callback := by
  -- a callback for one of these completions has been queued by the read itself, as its one callback
  have hown {op : Nat} {callback : Callback} (hmem : .op op (.queue callback) ∈ events traffic)
      (hamong : isAmong (deliveries id traffic) callback = true) :
      ∃ d ∈ deliveries id traffic, d.op = op ∧ d.callback = callback := by
    obtain ⟨d, hd, htarget⟩ := List.mem_map.1 (of_decide_eq_true hamong)
    have hqueued := mem_events_of_event? (mem_deliveries.1 hd) rfl
    obtain ⟨first, _, hfirst, hfirstTarget⟩ := h.shared.target_of_queued hqueued
    obtain ⟨second, _, hsecond, hsecondTarget⟩ := h.shared.target_of_queued hmem
    obtain rfl : first = second := Target.completion.inj <|
      hfirstTarget.symm.trans (htarget.trans hsecondTarget)
    obtain rfl := h.shared.op_eq_of_completion_eq hfirst hsecond
    exact ⟨d, hd, rfl, (h.shared.callback_eq hqueued hmem).symm⟩
  have hpick (l : Traffic) (hmem : l ∈ traffic) :
      (l.event?.bind Event.callback?).filter (isAmong (deliveries id traffic)) =
        (l.delivery? id).map Delivery.callback := by
    cases l with
    | ask | read | take | written | arrive => rfl
    | dry e =>
        cases hcallback : e.callback? with
        | none => simp [Traffic.event?, Traffic.delivery?, hcallback]
        | some callback =>
            obtain ⟨op, rfl⟩ := Event.eq_of_callback? hcallback
            have hother : isAmong (deliveries id traffic) callback = false := by
              refine Bool.eq_false_iff.2 fun hamong => ?_
              obtain ⟨d, -, -, rfl⟩ := hown (mem_events_of_event? hmem rfl) hamong
              cases h.isDry hmem
            simp [Traffic.event?, Traffic.delivery?, hcallback, hother]
    | deliver op other completion data =>
        by_cases hid : other = id
        · subst hid
          have hdelivery : ⟨op, completion, data⟩ ∈ deliveries other traffic :=
            mem_deliveries.2 hmem
          have hamong : isAmong (deliveries other traffic)
              (.completion completion (.success (.bytes data))) = true :=
            decide_eq_true (List.mem_map.2 ⟨_, hdelivery, rfl⟩)
          simp [Traffic.event?, Traffic.delivery?, Event.callback?, hamong, Delivery.callback]
        · have hother : isAmong (deliveries id traffic)
              (.completion completion (.success (.bytes data))) = false := by
            refine Bool.eq_false_iff.2 fun hamong => ?_
            obtain ⟨d, hd, rfl, -⟩ := hown (mem_events_of_event? hmem rfl) hamong
            have hside := h.side_eq (mem_deliveries.1 hd) rfl hmem rfl
            exact hid (congrArg Prod.snd hside)
          simp [Traffic.event?, Traffic.delivery?, Event.callback?, hother, hid]
  calc ((events traffic).filterMap Event.callback?).filter (isAmong (deliveries id traffic))
      = traffic.filterMap fun l =>
          (l.event?.bind Event.callback?).filter (isAmong (deliveries id traffic)) := by
        rw [events, List.filterMap_filterMap, List.filter_filterMap]
    _ = traffic.filterMap fun l => (l.delivery? id).map Delivery.callback :=
        List.filterMap_congr hpick
    _ = (deliveries id traffic).map Delivery.callback := by
        rw [deliveries, List.map_filterMap]

/-- The callbacks in the queue for the reads of a connection are there in the order in which they
have been queued, and none is there twice. -/
theorem Run.entries_sublist (h : Run settings traffic w) (id : Nat) :
    (w.shared.queue.entries.filter (isAmong (deliveries id traffic))).Sublist
      ((deliveries id traffic).map Delivery.callback) := by
  rw [← h.callbacks_eq id]
  refine h.shared.filter_sublist fun timer => decide_eq_false fun hmem => ?_
  obtain ⟨_, -, htarget⟩ := List.mem_map.1 hmem
  cases htarget

/-- If the chunks are taken in turn, they are queued in the order in which they have been read. -/
theorem Run.deliveries_in_order (h : Run settings traffic w) (hturn : InTurn id traffic) :
    (deliveries id traffic).map Delivery.chunk <+: chunks id traffic := by
  induction h with
  | nil => exact List.nil_prefix
  | snoc hrun step ih =>
      rename_i traffic w w' l
      have hbefore := ih hturn.of_snoc
      have hlength := hturn.of_snoc traffic ((List.mem_inits _ _).2 List.prefix_rfl)
      cases step with
      | dry | ask | read | take | written | arrive =>
          rw [chunks_snoc, deliveries_snoc]
          simpa [Traffic.delivery?] using hbefore.trans (List.prefix_append _ _)
      | @deliver op completion other limit data hat =>
          have hchunks : chunks id (traffic ++ [.deliver op other completion data]) =
              chunks id traffic := by
            simp [chunks_snoc, Traffic.chunk?]
          by_cases hid : other = id
          · subst hid
            have hqueued : deliveries other (traffic ++ [.deliver op other completion data]) =
                deliveries other traffic ++ [⟨op, completion, data⟩] := by
              simp [deliveries_snoc, Traffic.delivery?]
            have hchunk := (hrun.snoc (.deliver hat)).chunk_of_delivery
              (hqueued ▸ List.mem_append_right _ (List.mem_singleton_self _))
            obtain ⟨rest, hrest⟩ := hbefore
            -- the chunk is the one that is on its way
            have hnew : Delivery.chunk ⟨op, completion, data⟩ ∈ rest := by
              rw [hchunks, ← hrest] at hchunk
              refine (List.mem_append.1 hchunk).resolve_left fun hold => ?_
              obtain ⟨d, hd, heq⟩ := List.mem_map.1 hold
              exact hrun.not_mem_of_finished hat (List.mem_map.2 ⟨d, hd, congrArg Prod.fst heq⟩)
            have hone : rest.length ≤ 1 := by
              rw [← hrest, List.length_append, List.length_map] at hlength
              omega
            obtain ⟨last, rfl⟩ := List.length_eq_one_iff.1
              (Nat.le_antisymm hone (List.length_pos_of_mem hnew))
            rw [hchunks, hqueued, List.map_append, ← hrest, List.map_singleton,
              List.mem_singleton.1 hnew]
          · have hqueued : deliveries id (traffic ++ [.deliver op other completion data]) =
                deliveries id traffic := by
              simp [deliveries_snoc, Traffic.delivery?, hid]
            rw [hchunks, hqueued]
            exact hbefore

/-! ## All that becomes of the stream -/

theorem Run.started_of_read (h : Run settings traffic w) (hmem : .read op id data ∈ traffic) :
    ∃ completion limit, .op op (.start completion (.read id limit)) ∈ events traffic ∧
      data.size ≤ limit := by
  induction h with
  | nil => cases hmem
  | snoc hrun step ih =>
      rcases List.mem_append.1 hmem with hearlier | hlast
      · obtain ⟨completion, limit, hstarted, hlimit⟩ := ih hearlier
        exact ⟨completion, limit, mem_events_snoc hstarted _, hlimit⟩
      · rw [List.mem_singleton] at hlast
        subst hlast
        cases step with
        | read hat hturn hlimit =>
            exact ⟨_, _, mem_events_snoc (hrun.shared.started_of_at hat) _, hlimit⟩

/-- A chunk is queued for the completion with which its read has started. -/
theorem Run.completion_eq (h : Run settings traffic w) {d : Delivery}
    (hqueued : d ∈ deliveries id traffic) {completion : Nat} {request : Request}
    (hstarted : .op d.op (.start completion request) ∈ events traffic) :
    d.completion = completion := by
  have hqueue := mem_events_of_event? (mem_deliveries.1 hqueued) rfl
  obtain ⟨own, _, hown, htarget⟩ := h.shared.target_of_queued hqueue
  exact (Target.completion.inj htarget).trans (h.shared.request_eq hstarted hown).1

theorem Step.entries_of_deliver {completion : Nat} (step : Step w (.deliver op id completion data) w') :
    w'.shared.queue.entries =
      w.shared.queue.entries ++ [.completion completion (.success (.bytes data))] := by
  obtain ⟨_, _, _, -, -, -, hentries, -⟩ := step.event.at_of_queue
  exact hentries

/-- What becomes of the bytes of a connection. -/
structure ReadInLine (id : Nat) (traffic : List Traffic) (w : Wired α) : Prop where
  /-- The chunks are the stream cut into pieces, and the rest has not been read. -/
  stream : joined (chunks id traffic) ++ w.incoming id = sent id traffic
  /-- The chunks are read in the order in which the reads have asked, and each read gets one at
  most. -/
  line : ((chunks id traffic).map (·.1)).Sublist (lineup (.reader, id) traffic)
  nodup : (lineup (.reader, id) traffic).Nodup
  /-- A chunk is as long as its read allows at most.  Unless the task of the read is dropped, the
  chunk is queued for the completion of the read, or the read has it in hand. -/
  kept : ∀ op data, (op, data) ∈ chunks id traffic → ∃ completion limit,
    .op op (.start completion (.read id limit)) ∈ events traffic ∧ data.size ≤ limit ∧
      ((∀ ran, .op op (.drop ran) ∉ events traffic) →
        ⟨op, completion, data⟩ ∈ deliveries id traffic ∨
          inHand (w.shared.standing op) = some data)
  /-- Nothing is queued but chunks, and no read queues twice. -/
  genuine : ∀ d ∈ deliveries id traffic, d.chunk ∈ chunks id traffic
  once : ((deliveries id traffic).map (·.op)).Nodup
  /-- To queue a chunk is to put its callback behind all that is queued. -/
  appended : ∀ (d : Delivery) (w' : Wired α), Step w (.deliver d.op id d.completion d.data) w' →
    w'.shared.queue.entries = w.shared.queue.entries ++ [d.callback]
  /-- In the queue they stand in the order in which they have been queued. -/
  queue : (w.shared.queue.entries.filter (isAmong (deliveries id traffic))).Sublist
    ((deliveries id traffic).map Delivery.callback)
  /-- This is the order of the stream, if no two chunks are on their way at one time. -/
  order : InTurn id traffic →
    (deliveries id traffic).map Delivery.chunk <+: chunks id traffic ∧
      joined ((deliveries id traffic).map Delivery.chunk) <+: sent id traffic

/-- **Reads cut the stream into chunks, in the order in which they have asked for their turn**,
however the tasks run in between, and whatever they find, give up or time out.  No byte is lost to
them or read twice, and each chunk is queued once.  It is queued in the order of the stream as long
as every read queues its chunk before the next read of the connection gets one. -/
theorem reads_go_in_line (hrun : Run settings traffic w) (id : Nat) : ReadInLine id traffic w where
  stream := hrun.joined_append_incoming id
  line := hrun.chunks_sublist id
  nodup := hrun.nodup_lineup _
  kept op data hchunk := by
    obtain ⟨completion, limit, hstarted, hlimit⟩ := hrun.started_of_read (mem_chunks.1 hchunk).1
    refine ⟨completion, limit, hstarted, hlimit, fun hkept => ?_⟩
    refine (hrun.chunk_kept hchunk hkept).imp_left ?_
    rintro ⟨own, hqueued⟩
    obtain rfl : own = completion := hrun.completion_eq hqueued hstarted
    exact hqueued
  genuine _ hqueued := hrun.chunk_of_delivery hqueued
  once := hrun.nodup_deliveries id
  appended _ _ step := step.entries_of_deliver
  queue := hrun.entries_sublist id
  order hturn := by
    have hinOrder := hrun.deliveries_in_order hturn
    refine ⟨hinOrder, ?_⟩
    rw [← hrun.joined_append_incoming id]
    exact (joined_mono hinOrder).trans (List.prefix_append _ _)

/-! ## Two reads -/

/-- A read that has its chunk in hand returns it and queues it. -/
def handing (op id completion : Nat) (data : ByteArray) : List Traffic :=
  [.dry (.op op (.settle (.ok (.success (.bytes data))))), .deliver op id completion data]

/-- A read that has its turn takes a chunk from the front, and gives its turn back. -/
theorem Run.take_chunk (h : Run settings traffic w) {completion limit : Nat}
    {asked watching : Bool} {waiting : List (Nat × Unit)} {rest : List UInt8}
    (hat : w.shared.At op completion (.read id limit) .waiting (.waits asked watching))
    (hturns : w.shared.turns (.reader, id) = ⟨some (op, ()), waiting⟩)
    (hsize : data.size ≠ 0) (hlimit : data.size ≤ limit)
    (hfront : w.incoming id = bytesOf data ++ rest) :
    ∃ w' : Wired α, Run settings (traffic ++ [.read op id data]) w' ∧
      w'.shared.At op completion (.read id limit) .waiting
        (.heard (.settled (.ok (.success (.bytes data))))) ∧
      (∀ j, j ≠ op → w'.shared.standing j = w.shared.standing j) ∧
      w'.shared.turns (.reader, id) = ⟨waiting.head?, waiting.tail⟩ ∧
      w'.incoming id = rest ∧ w'.shared.queue = w.shared.queue := by
  have hturn : w.shared.HasTurn op (.read id limit) := by
    rintro side ⟨⟩
    rw [hturns]
  have step := Step.read hat hturn hlimit ⟨rest, hfront.symm⟩
  have hbytes : (Request.read id limit).conclusion (.bytes data) =
      .settled (.ok (.success (.bytes data))) := if_neg hsize
  refine ⟨_, h.snoc step, ⟨hat.operation, (if_pos rfl).trans (congrArg _ hbytes)⟩,
    fun j hj => step.standing_of_ne h.shared.tidy rfl hj, ?_, ?_, rfl⟩
  · show (w.shared.turn (.read id limit) (·.leave op)).turns (.reader, id) = _
    simp [Shared.turn, Request.side?, hturns, Turns.leave, Turns.pass]
  · simp [hfront, ← length_bytesOf]

/-- A read that has its chunk in hand queues it by its own steps. -/
theorem Run.hand_over (h : Run settings traffic w) {completion limit : Nat}
    (hat : w.shared.At op completion (.read id limit) .waiting
      (.heard (.settled (.ok (.success (.bytes data)))))) :
    ∃ w' : Wired α, Run settings (traffic ++ handing op id completion data) w' ∧
      w'.shared.queue.entries =
        w.shared.queue.entries ++ [.completion completion (.success (.bytes data))] ∧
      (∀ j, j ≠ op → w'.shared.standing j = w.shared.standing j) ∧
      w'.shared.turns = w.shared.turns ∧ w'.incoming = w.incoming := by
  have hsettle := Step.dry rfl (.settle hat)
  have hfinished := Shared.at_of_standing ((hat.standing_setStage
    (.finished (.success (.bytes data))) .none op).trans (if_pos rfl))
  have hdeliver := Step.deliver (w := { w with shared := _ }) hfinished
  have hbetween := h.snoc hsettle
  have hafter := hbetween.snoc hdeliver
  rw [List.append_assoc] at hafter
  refine ⟨_, hafter, hdeliver.entries_of_deliver, fun j hj => ?_, rfl, rfl⟩
  exact (hdeliver.standing_of_ne hbetween.shared.tidy rfl hj).trans
    (hsettle.standing_of_ne h.shared.tidy rfl hj)

section

variable {first second completion completion' limit limit' : Nat}
  {asked watching asked' watching' : Bool} {data' : ByteArray} {waiting : List (Nat × Unit)}
  {rest : List UInt8} (hrun : Run settings traffic w) (hne : first ≠ second)
  (hfirst : w.shared.At first completion (.read id limit) .waiting (.waits asked watching))
  (hsecond : w.shared.At second completion' (.read id limit') .waiting (.waits asked' watching'))
  (hturns : w.shared.turns (.reader, id) = ⟨some (first, ()), (second, ()) :: waiting⟩)
  (hsize : data.size ≠ 0) (hlimit : data.size ≤ limit)
  (hsize' : data'.size ≠ 0) (hlimit' : data'.size ≤ limit')
  (hincoming : w.incoming id = bytesOf data ++ (bytesOf data' ++ rest))

include hrun hne hfirst hsecond hturns hsize hlimit hsize' hlimit' hincoming

/-- Two reads that stand in line may get their chunks and queue them one after the other. -/
theorem Run.one_by_one :
    ∃ w' : Wired α, Run settings (traffic ++ [.read first id data] ++
        handing first id completion data ++ [.read second id data'] ++
          handing second id completion' data') w' ∧
      w'.shared.queue.entries = w.shared.queue.entries ++
        [.completion completion (.success (.bytes data))] ++
          [.completion completion' (.success (.bytes data'))] := by
  obtain ⟨w₁, hrun₁, hat₁, hothers₁, hturns₁, hincoming₁, hqueue₁⟩ :=
    hrun.take_chunk hfirst hturns hsize hlimit hincoming
  obtain ⟨w₂, hrun₂, hentries₂, hothers₂, hturns₂, hincoming₂⟩ := hrun₁.hand_over hat₁
  have hsecond₂ := Shared.at_of_standing
    ((hothers₂ second hne.symm).trans ((hothers₁ second hne.symm).trans hsecond.standing))
  obtain ⟨w₃, hrun₃, hat₃, -, -, -, hqueue₃⟩ := hrun₂.take_chunk hsecond₂
    ((congrFun hturns₂ _).trans hturns₁) hsize' hlimit' ((congrFun hincoming₂ id).trans hincoming₁)
  obtain ⟨w₄, hrun₄, hentries₄, -, -, -⟩ := hrun₃.hand_over hat₃
  exact ⟨w₄, hrun₄, by rw [hentries₄, hqueue₃, hentries₂, hqueue₁]⟩

/-- The second may as well get its chunk and queue it while the first has not queued its own. -/
theorem Run.overtake :
    ∃ w' : Wired α, Run settings (traffic ++ [.read first id data] ++ [.read second id data'] ++
        handing second id completion' data' ++ handing first id completion data) w' ∧
      w'.shared.queue.entries = w.shared.queue.entries ++
        [.completion completion' (.success (.bytes data'))] ++
          [.completion completion (.success (.bytes data))] := by
  obtain ⟨w₁, hrun₁, hat₁, hothers₁, hturns₁, hincoming₁, hqueue₁⟩ :=
    hrun.take_chunk hfirst hturns hsize hlimit hincoming
  have hsecond₁ := Shared.at_of_standing ((hothers₁ second hne.symm).trans hsecond.standing)
  obtain ⟨w₂, hrun₂, hat₂, hothers₂, -, -, hqueue₂⟩ :=
    hrun₁.take_chunk hsecond₁ hturns₁ hsize' hlimit' hincoming₁
  obtain ⟨w₃, hrun₃, hentries₃, hothers₃, -, -⟩ := hrun₂.hand_over hat₂
  have hfirst₃ := Shared.at_of_standing
    ((hothers₃ first hne).trans ((hothers₂ first hne).trans hat₁.standing))
  obtain ⟨w₄, hrun₄, hentries₄, -, -, -⟩ := hrun₃.hand_over hfirst₃
  exact ⟨w₄, hrun₄, by rw [hentries₄, hentries₃, hqueue₂, hqueue₁]⟩

end

/-- Two reads of one byte each have asked, and two bytes have come in. -/
def bothAsked : List Traffic :=
  [.dry (.numbered 1), .dry (.op 0 (.start 1 (.connect "peer" 80))), .dry (.op 0 .find),
    .dry (.op 0 (.hear .connected)), .dry (.op 0 (.draw 1)), .dry (.op 0 (.enter .stream 1)),
    .dry (.numbered 2), .dry (.op 1 (.start 2 (.read 1 1))), .dry (.numbered 3),
    .dry (.op 2 (.start 3 (.read 1 1))), .dry (.op 1 .find), .ask 1 (.reader, 1),
    .dry (.op 2 .find), .ask 2 (.reader, 1), .arrive 1 [1, 2]]

theorem run_bothAsked : ∃ w : Wired Unit, Run ⟨0, 1, 0⟩ bothAsked w ∧
    w.shared.At 1 2 (.read 1 1) .waiting (.waits true false) ∧
    w.shared.At 2 3 (.read 1 1) .waiting (.waits true false) ∧
    w.shared.turns (.reader, 1) = ⟨some (1, ()), [(2, ())]⟩ ∧
    w.incoming 1 = bytesOf ⟨#[1]⟩ ++ (bytesOf ⟨#[2]⟩ ++ []) ∧ w.shared.queue.entries = [] := by
  refine ⟨_, Run.nil.append <| .cons (.dry rfl (.number ())) <|
    .cons (.dry rfl (.start _ (by decide))) <| .cons (.dry rfl (.find ⟨rfl, rfl⟩ rfl)) <|
    .cons (.dry rfl (.hear ⟨rfl, rfl⟩ (fun _ h => by cases h) _)) <|
    .cons (.dry rfl (.draw ⟨rfl, rfl⟩)) <| .cons (.dry rfl (.enter ⟨rfl, rfl⟩)) <|
    .cons (.dry rfl (.number ())) <| .cons (.dry rfl (.start _ (by decide))) <|
    .cons (.dry rfl (.number ())) <| .cons (.dry rfl (.start _ (by decide))) <|
    .cons (.dry rfl (.find ⟨rfl, rfl⟩ rfl)) <| .cons (.ask ⟨rfl, rfl⟩ rfl) <|
    .cons (.dry rfl (.find ⟨rfl, rfl⟩ rfl)) <| .cons (.ask ⟨rfl, rfl⟩ rfl) <|
    .cons (.arrive 1 [1, 2]) <| .nil _, ?_⟩
  exact ⟨⟨rfl, rfl⟩, ⟨rfl, rfl⟩, rfl, rfl, rfl⟩

/-- The first read queues its byte before the second gets its own. -/
def oneByOne : List Traffic :=
  bothAsked ++ [.read 1 1 ⟨#[1]⟩] ++ handing 1 1 2 ⟨#[1]⟩ ++ [.read 2 1 ⟨#[2]⟩] ++
    handing 2 1 3 ⟨#[2]⟩

/-- The second read gets its byte and queues it before the first queues its own. -/
def overtaking : List Traffic :=
  bothAsked ++ [.read 1 1 ⟨#[1]⟩] ++ [.read 2 1 ⟨#[2]⟩] ++ handing 2 1 3 ⟨#[2]⟩ ++
    handing 1 1 2 ⟨#[1]⟩

/-- Both bytes are in the queue as they have been sent. -/
theorem bytes_queued_as_sent : ∃ w : Wired Unit, Run ⟨0, 1, 0⟩ oneByOne w ∧
    InTurn 1 oneByOne ∧
    w.shared.queue.entries =
      [.completion 2 (.success (.bytes ⟨#[1]⟩)), .completion 3 (.success (.bytes ⟨#[2]⟩))] ∧
    (deliveries 1 oneByOne).map Delivery.chunk <+: chunks 1 oneByOne ∧
    joined (chunks 1 oneByOne) ++ w.incoming 1 = [1, 2] := by
  obtain ⟨w, hrun, hfirst, hsecond, hturns, hincoming, hqueue⟩ := run_bothAsked
  obtain ⟨w', hrun', hentries⟩ := hrun.one_by_one (by decide) hfirst hsecond hturns (by decide)
    (by decide) (by decide) (by decide) hincoming
  have hturn : InTurn 1 oneByOne := by
    unfold InTurn
    decide
  have hline := reads_go_in_line hrun' 1
  refine ⟨w', hrun', hturn, ?_, (hline.order hturn).1, hline.stream⟩
  rw [hentries, hqueue]
  rfl

/-- Two bytes of a connection may stand in the queue in the wrong order. -/
theorem bytes_queued_in_wrong_order : ∃ w : Wired Unit, Run ⟨0, 1, 0⟩ overtaking w ∧
    w.shared.queue.entries =
      [.completion 3 (.success (.bytes ⟨#[2]⟩)), .completion 2 (.success (.bytes ⟨#[1]⟩))] ∧
    (deliveries 1 overtaking).map Delivery.callback = w.shared.queue.entries ∧
    sent 1 overtaking = [1, 2] ∧
    ¬joined ((deliveries 1 overtaking).map Delivery.chunk) <+: sent 1 overtaking := by
  obtain ⟨w, hrun, hfirst, hsecond, hturns, hincoming, hqueue⟩ := run_bothAsked
  obtain ⟨w', hrun', hentries⟩ := hrun.overtake (by decide) hfirst hsecond hturns (by decide)
    (by decide) (by decide) (by decide) hincoming
  rw [hqueue] at hentries
  exact ⟨w', hrun', hentries, hentries.symm, rfl, by decide⟩

end Wired
end ScriptHost.Network
