import Mathlib.Data.List.Nodup
import Mathlib.Data.List.Perm.Basic
import Mathlib.Data.List.TakeDrop
import ScriptHost.Network.Http

/-!
# The order of headers

The headers of a draft are a table.  A table has no order that anything may depend on, but a draft
lists its headers in some order, and they are gone through in that order.  Two headers are singled out
on the way: the first faulty one, whose fault is that of the draft, and of those whose names are equal
once they are written small the last one, whose value is sent.

So two orders of one table can lead to different faults, or to messages with different headers.  They
cannot if no two headers are faulty and names that differ in capitals only come with one value, and
this condition is exact.

Nothing is taken for granted of the client here: whatever methods, names, values and addresses it
accepts, all that is used is that it judges each by its text.
-/

namespace ScriptHost.Network.Http

variable {Address : Type} (client : Client Address)

/-! ## One pass -/

/-- What is wrong with a header. -/
def headerFault? (e : String × String) : Option NetworkFault :=
  if !client.isName e.1 then some (.unsupported ("header name " ++ e.1))
  else if !client.isValue e.2 then some (.unsupported ("header value for " ++ e.1))
  else none

/-- The first fault in a list of headers. -/
def firstFault? (headers : List (String × String)) : Option NetworkFault :=
  headers.findSome? (headerFault? client)

/-- The headers that a message has got from a list of headers. -/
def stored (headers : List (String × String)) (t : Table String String) : Table String String :=
  headers.foldl (fun t e => t.insert e.1.toLower e.2) t

/-- The value of a header that has a name once this is written small. -/
def valueUnder? (name : String) (e : String × String) : Option String :=
  if e.1.toLower = name then some e.2 else none

/-- The value of the last header that has a name. -/
def lastOf (headers : List (String × String)) (name : String) : Option String :=
  headers.reverse.findSome? (valueUnder? name)

theorem addHeaders_cons (e : String × String) (rest : List (String × String))
    (t : Table String String) :
    addHeaders client (e :: rest) t =
      match headerFault? client e with
      | some fault => .error fault
      | none => addHeaders client rest (t.insert e.1.toLower e.2) := by
  simp only [addHeaders, headerFault?]
  split
  · rfl
  · split <;> rfl

theorem addHeaders_eq (headers : List (String × String)) (t : Table String String) :
    addHeaders client headers t =
      match firstFault? client headers with
      | some fault => .error fault
      | none => .ok (stored headers t) := by
  induction headers generalizing t with
  | nil => rfl
  | cons e rest ih =>
      rw [addHeaders_cons, firstFault?, List.findSome?_cons]
      cases headerFault? client e with
      | some fault => rfl
      | none => exact ih (t.insert e.1.toLower e.2)

theorem lastOf_cons (e : String × String) (rest : List (String × String)) (name : String) :
    lastOf (e :: rest) name = (lastOf rest name).or (valueUnder? name e) := by
  rw [lastOf, List.reverse_cons, List.findSome?_append, List.findSome?_singleton, lastOf]

theorem get?_stored (headers : List (String × String)) (t : Table String String) (name : String) :
    (stored headers t).get? name = (lastOf headers name).or (t.get? name) := by
  induction headers generalizing t with
  | nil => rfl
  | cons e rest ih =>
      rw [lastOf_cons, Option.or_assoc]
      refine (ih (t.insert e.1.toLower e.2)).trans (congrArg _ ?_)
      by_cases h : e.1.toLower = name
      · simp [valueUnder?, h]
      · simp [valueUnder?, h, Ne.symm h]

@[simp] theorem get?_stored_empty (headers : List (String × String)) (name : String) :
    (stored headers .empty).get? name = lastOf headers name := by
  rw [get?_stored, Table.get?_empty, Option.or_none]

/-! ## What a draft comes to -/

variable {client}

namespace Draft

/-- A draft that lists other headers. -/
def listing (d : Draft) (headers : List (String × String)) : Draft := { d with headers }

variable {d : Draft} {headers : List (String × String)}

theorem message_of_no_method (h : client.isMethod (inCapitals d.method) = false) :
    (d.listing headers).message client = .error (.unsupported ("HTTP method " ++ d.method)) := by
  simp [message, listing, h]

theorem message_of_fault {fault : NetworkFault}
    (hmethod : client.isMethod (inCapitals d.method) = true)
    (h : firstFault? client headers = some fault) :
    (d.listing headers).message client = .error fault := by
  rw [message, if_neg (by simp [listing, hmethod]), addHeaders_eq, listing, h]
  rfl

theorem message_of_sound (hmethod : client.isMethod (inCapitals d.method) = true)
    (h : firstFault? client headers = none) :
    (d.listing headers).message client = ((client.read d.url).mapError .http).map fun url =>
      ⟨inCapitals d.method, url, stored headers .empty, d.body⟩ := by
  rw [message, if_neg (by simp [listing, hmethod]), addHeaders_eq, listing, h]
  cases client.read d.url <;> rfl

end Draft

/-! ## What an order can change -/

/-- Two headers are never both faulty. -/
def OneFault (client : Client Address) (headers : List (String × String)) : Prop :=
  ∀ e ∈ headers, ∀ f ∈ headers,
    headerFault? client e ≠ none → headerFault? client f ≠ none → e = f

/-- Names that are equal once they are written small come with one value. -/
def CaseBlind (headers : List (String × String)) : Prop :=
  ∀ e ∈ headers, ∀ f ∈ headers, e.1.toLower = f.1.toLower → e.2 = f.2

theorem firstFault?_eq_none_iff (headers : List (String × String)) :
    firstFault? client headers = none ↔ ∀ e ∈ headers, headerFault? client e = none :=
  List.findSome?_eq_none_iff

theorem name_of_valueUnder? {name : String} {e : String × String} (h : valueUnder? name e ≠ none) :
    e.1.toLower = name ∧ valueUnder? name e = some e.2 := by
  rw [valueUnder?] at h ⊢
  split at h
  · rename_i hname
    exact ⟨hname, if_pos hname⟩
  · exact absurd rfl h

section Perm

variable {a b : List (String × String)} (hperm : a.Perm b)
include hperm

theorem findSome?_eq_none_iff_of_perm {β : Type} (f : String × String → Option β) :
    a.findSome? f = none ↔ b.findSome? f = none := by
  simp only [List.findSome?_eq_none_iff, hperm.mem_iff]

/-- Where all members that have a result have the same, the order does not decide which is found. -/
theorem findSome?_eq_of_perm {β : Type} {f : String × String → Option β}
    (hagree : ∀ e ∈ b, ∀ g ∈ b, f e ≠ none → f g ≠ none → f e = f g) :
    a.findSome? f = b.findSome? f := by
  cases hfirst : a.findSome? f with
  | none => exact ((findSome?_eq_none_iff_of_perm hperm f).1 hfirst).symm
  | some x =>
      cases hother : b.findSome? f with
      | none =>
          rw [(findSome?_eq_none_iff_of_perm hperm f).2 hother] at hfirst
          cases hfirst
      | some y =>
          obtain ⟨e, he, hex⟩ := List.exists_of_findSome?_eq_some hfirst
          obtain ⟨g, hg, hgy⟩ := List.exists_of_findSome?_eq_some hother
          rw [← hex, ← hgy]
          exact hagree e (hperm.mem_iff.1 he) g hg (by simp [hex]) (by simp [hgy])

theorem firstFault?_eq_none_iff_of_perm :
    firstFault? client a = none ↔ firstFault? client b = none :=
  findSome?_eq_none_iff_of_perm hperm (headerFault? client)

theorem reverse_perm_reverse : a.reverse.Perm b.reverse :=
  (List.reverse_perm a).trans (hperm.trans (List.reverse_perm b).symm)

theorem lastOf_eq_none_iff_of_perm (name : String) :
    lastOf a name = none ↔ lastOf b name = none :=
  findSome?_eq_none_iff_of_perm (reverse_perm_reverse hperm) (valueUnder? name)

theorem firstFault?_eq_of_perm (hone : OneFault client b) :
    firstFault? client a = firstFault? client b :=
  findSome?_eq_of_perm hperm fun e he g hg hefault hgfault => by
    rw [hone e he g hg hefault hgfault]

theorem lastOf_eq_of_perm (hblind : CaseBlind b) (name : String) :
    lastOf a name = lastOf b name := by
  refine findSome?_eq_of_perm (reverse_perm_reverse hperm) fun e he g hg hevalue hgvalue => ?_
  obtain ⟨hename, hesome⟩ := name_of_valueUnder? hevalue
  obtain ⟨hgname, hgsome⟩ := name_of_valueUnder? hgvalue
  rw [hesome, hgsome, hblind e (List.mem_reverse.1 he) g (List.mem_reverse.1 hg)
    (hename.trans hgname.symm)]

end Perm

/-- Any header can come first, and its fault then decides. -/
theorem firstFault?_of_first {e : String × String} {fault : NetworkFault}
    (h : headerFault? client e = some fault) (rest : List (String × String)) :
    firstFault? client (e :: rest) = some fault := by
  rw [firstFault?, List.findSome?_cons, h]

/-- Any header can come last, and its value then stands. -/
theorem lastOf_of_last (front : List (String × String)) (e : String × String) :
    lastOf (front ++ [e]) e.1.toLower = some e.2 := by
  simp [lastOf, valueUnder?]

theorem perm_erase_concat {headers : List (String × String)} {e : String × String}
    (he : e ∈ headers) : (headers.erase e ++ [e]).Perm headers :=
  (List.perm_append_singleton e _).trans (List.perm_cons_erase he).symm

theorem text_of_headerFault? {e : String × String} {fault : NetworkFault}
    (h : headerFault? client e = some fault) :
    fault = .unsupported ("header name " ++ e.1) ∨
      fault = .unsupported ("header value for " ++ e.1) := by
  simp only [headerFault?] at h
  split at h
  · exact .inl (Option.some.inj h).symm
  · split at h
    · exact .inr (Option.some.inj h).symm
    · cases h

/-- The text of a fault tells which name the faulty header has. -/
theorem name_eq_of_headerFault?_eq {e f : String × String} {fault : NetworkFault}
    (he : headerFault? client e = some fault) (hf : headerFault? client f = some fault) :
    e.1 = f.1 := by
  have hkind (x y : String) : "header name " ++ x ≠ "header value for " ++ y := by
    intro h
    -- The texts part after their first word.
    have hletter := congrArg (fun s => s.toList[7]?) h
    simp at hletter
  rcases text_of_headerFault? he with rfl | rfl <;> rcases text_of_headerFault? hf with h | h <;>
    rw [NetworkFault.unsupported.injEq] at h
  · exact (String.append_right_inj _).1 h
  · exact absurd h (hkind _ _)
  · exact absurd h.symm (hkind _ _)
  · exact (String.append_right_inj _).1 h

/-! ## Two orders of one table -/

/-- Who receives two messages that are alike cannot tell them apart. -/
structure Message.Alike (m n : Message Address) : Prop where
  method : m.method = n.method
  url : m.url = n.url
  headers : ∀ name, m.headers.get? name = n.headers.get? name
  body : m.body = n.body

/-- A message but for the values of its headers. -/
def Message.outline (m : Message Address) : String × Address × (String → Bool) × Option String :=
  (m.method, m.url, m.headers.contains, m.body)

/-- Two drafts come to the same: to messages that are alike, or to one fault. -/
inductive SameEnd :
    Except NetworkFault (Message Address) → Except NetworkFault (Message Address) → Prop
  | message {m n : Message Address} (alike : m.Alike n) : SameEnd (.ok m) (.ok n)
  | fault (cause : NetworkFault) : SameEnd (.error cause) (.error cause)

/-- What comes of a draft is the same in all orders of its headers. -/
def Draft.HidesOrder (d : Draft) (client : Client Address) (headers : Table String String) : Prop :=
  ∀ a b : List (String × String), a.Perm headers.entries → b.Perm headers.entries →
    SameEnd ((d.listing a).message client) ((d.listing b).message client)

/-- The condition under which a draft hides the order of its headers. -/
def Draft.Orderless (d : Draft) (client : Client Address) (headers : List (String × String)) :
    Prop :=
  client.isMethod (inCapitals d.method) = true →
    OneFault client headers ∧
      ((∀ e ∈ headers, headerFault? client e = none) → (client.read d.url).isOk = true →
        CaseBlind headers)

section Draft

variable {d : Draft} {headers : Table String String}

theorem sameEnd_of_orderless (h : d.Orderless client headers.entries) :
    d.HidesOrder client headers := by
  intro a b ha hb
  cases hmethod : client.isMethod (inCapitals d.method) with
  | false =>
      rw [Draft.message_of_no_method hmethod, Draft.message_of_no_method hmethod]
      exact .fault _
  | true =>
      obtain ⟨hone, hblind⟩ := h hmethod
      have hsame : firstFault? client a = firstFault? client b :=
        (firstFault?_eq_of_perm ha hone).trans (firstFault?_eq_of_perm hb hone).symm
      cases hfirst : firstFault? client a with
      | some fault =>
          rw [Draft.message_of_fault hmethod hfirst,
            Draft.message_of_fault hmethod (hsame ▸ hfirst)]
          exact .fault fault
      | none =>
          rw [Draft.message_of_sound hmethod hfirst,
            Draft.message_of_sound hmethod (hsame ▸ hfirst)]
          cases hurl : client.read d.url with
          | error cause => exact .fault (.http cause)
          | ok url =>
              have hsound := (firstFault?_eq_none_iff headers.entries).1
                ((firstFault?_eq_none_iff_of_perm ha).1 hfirst)
              have hvalues := hblind hsound (by rw [hurl]; rfl)
              refine .message ⟨rfl, rfl, fun name => ?_, rfl⟩
              show (stored a .empty).get? name = (stored b .empty).get? name
              rw [get?_stored_empty, get?_stored_empty, lastOf_eq_of_perm ha hvalues,
                lastOf_eq_of_perm hb hvalues]

theorem oneFault_of_hidesOrder (h : d.HidesOrder client headers)
    (hmethod : client.isMethod (inCapitals d.method) = true) :
    OneFault client headers.entries := by
  intro e he f hf hefault hffault
  obtain ⟨x, hx⟩ := Option.ne_none_iff_exists'.1 hefault
  obtain ⟨y, hy⟩ := Option.ne_none_iff_exists'.1 hffault
  -- In one order the first header comes first, in the other one the second, so their faults are one.
  have hend := h _ _ (List.perm_cons_erase he).symm (List.perm_cons_erase hf).symm
  rw [Draft.message_of_fault hmethod (firstFault?_of_first hx _),
    Draft.message_of_fault hmethod (firstFault?_of_first hy _)] at hend
  cases hend
  exact List.inj_on_of_nodup_map headers.nodup_keys he hf (name_eq_of_headerFault?_eq hx hy)

theorem caseBlind_of_hidesOrder (h : d.HidesOrder client headers)
    (hmethod : client.isMethod (inCapitals d.method) = true)
    (hsound : ∀ e ∈ headers.entries, headerFault? client e = none)
    (hread : (client.read d.url).isOk = true) : CaseBlind headers.entries := by
  intro e he f hf hname
  have hnone := (firstFault?_eq_none_iff headers.entries).2 hsound
  have hlast {g : String × String} (hg : g ∈ headers.entries) :
      firstFault? client (headers.entries.erase g ++ [g]) = none :=
    (firstFault?_eq_none_iff_of_perm (perm_erase_concat hg)).2 hnone
  -- Each of the two headers comes last in one of the orders.
  have hend := h _ _ (perm_erase_concat he) (perm_erase_concat hf)
  rw [Draft.message_of_sound hmethod (hlast he), Draft.message_of_sound hmethod (hlast hf)] at hend
  cases hurl : client.read d.url with
  | error cause => rw [hurl] at hread; cases hread
  | ok url =>
      rw [hurl] at hend
      obtain ⟨-, -, hheaders, -⟩ : Message.Alike _ _ := by
        cases hend with
        | message alike => exact alike
      have hvalue := hheaders e.1.toLower
      rw [get?_stored_empty, get?_stored_empty, lastOf_of_last, hname, lastOf_of_last] at hvalue
      exact Option.some.inj hvalue

/-- Whether there is a message at all, and what it is but for the values of its headers, is the same in
all orders. -/
theorem outline_of_perm {a b : List (String × String)} (hperm : a.Perm b) :
    ((d.listing a).message client).toOption.map Message.outline =
      ((d.listing b).message client).toOption.map Message.outline := by
  cases hmethod : client.isMethod (inCapitals d.method) with
  | false =>
      rw [Draft.message_of_no_method hmethod, Draft.message_of_no_method hmethod]
  | true =>
      cases hfirst : firstFault? client a with
      | some fault =>
          obtain ⟨other, hother⟩ : ∃ other, firstFault? client b = some other := by
            refine Option.ne_none_iff_exists'.1 fun hnone => ?_
            rw [(firstFault?_eq_none_iff_of_perm hperm).2 hnone] at hfirst
            cases hfirst
          rw [Draft.message_of_fault hmethod hfirst, Draft.message_of_fault hmethod hother]
          rfl
      | none =>
          rw [Draft.message_of_sound hmethod hfirst,
            Draft.message_of_sound hmethod ((firstFault?_eq_none_iff_of_perm hperm).1 hfirst)]
          have hnames : (stored a .empty).contains = (stored b .empty).contains := by
            funext name
            have hlast := lastOf_eq_none_iff_of_perm hperm name
            simp only [Table.contains, get?_stored_empty]
            cases ha : lastOf a name <;> cases hb : lastOf b name <;> simp_all
          cases client.read d.url with
          | error cause => rfl
          | ok url =>
              show some (_, url, (stored a .empty).contains, _) =
                some (_, url, (stored b .empty).contains, _)
              rw [hnames]

end Draft

/-- **When the order of headers shows.**  Whatever a client accepts: if it accepts the method of a draft,
the draft comes to the same in all orders of its headers if and only if no two of them are faulty and,
should there be a message at all, names that differ in capitals only come with one value; if it does
not, the draft always does.

Whatever the headers are: whether there is a message does not depend on their order, and neither do its
method, its address, the names of its headers and its body. -/
theorem order_hidden_iff (client : Client Address) (d : Draft) (headers : Table String String) :
    (d.HidesOrder client headers ↔ d.Orderless client headers.entries) ∧
    ∀ a b : List (String × String), a.Perm headers.entries → b.Perm headers.entries →
      ((d.listing a).message client).toOption.map Message.outline =
        ((d.listing b).message client).toOption.map Message.outline := by
  refine ⟨⟨fun h hmethod =>
    ⟨oneFault_of_hidesOrder h hmethod, caseBlind_of_hidesOrder h hmethod⟩,
    sameEnd_of_orderless⟩, ?_⟩
  intro a b ha hb
  exact outline_of_perm (ha.trans hb.symm)

theorem toList_toLower (s : String) : s.toLower.toList = s.toList.map Char.toLower :=
  String.toList_map

/-- A draft with two names that cannot be sent fails with either of them, and one with two spellings of
a name sends either value.  The address is written as the client writes it. -/
theorem order_of_headers_shows :
    let d : Draft := ⟨"GET", "http://127.0.0.1:1/", [], none⟩
    ¬ d.HidesOrder .rules ⟨[("a b", "1"), ("c d", "2")], by simp⟩ ∧
    ¬ d.HidesOrder .rules ⟨[("Accept", "1"), ("accept", "2")], by simp⟩ := by
  intro d
  have hmethod : Client.rules.isMethod (inCapitals d.method) = true := by
    simp [d, Client.rules, inCapitals, capitals, isToken, isTokenChar]
  constructor
  · intro h
    have hfirst : headerFault? .rules ("a b", "1") ≠ none := by
      simp [headerFault?, Client.rules, isHeaderName, isToken, isTokenChar]
    have hsecond : headerFault? .rules ("c d", "2") ≠ none := by
      simp [headerFault?, Client.rules, isHeaderName, isToken, isTokenChar]
    have hsame := oneFault_of_hidesOrder h hmethod ("a b", "1") (by simp) ("c d", "2") (by simp)
      hfirst hsecond
    simp at hsame
  · intro h
    have hfirst : headerFault? .rules ("Accept", "1") = none := by
      have hsize : "Accept".utf8ByteSize ≤ maxNameBytes := by decide +kernel
      simp [headerFault?, Client.rules, isHeaderName, isHeaderValue, isToken, isTokenChar, hsize]
    have hsecond : headerFault? .rules ("accept", "2") = none := by
      have hsize : "accept".utf8ByteSize ≤ maxNameBytes := by decide +kernel
      simp [headerFault?, Client.rules, isHeaderName, isHeaderValue, isToken, isTokenChar, hsize]
    have hname : "Accept".toLower = "accept".toLower := by
      rw [← String.toList_inj, toList_toLower, toList_toLower]
      simp
    -- Either header can be sent and the address is read, so either value would have to stand.
    have hsame := caseBlind_of_hidesOrder h hmethod (by simp [hfirst, hsecond]) rfl
      ("Accept", "1") (by simp) ("accept", "2") (by simp) hname
    simp at hsame

end ScriptHost.Network.Http
