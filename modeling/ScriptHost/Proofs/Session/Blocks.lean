import Mathlib.Data.List.DropRight
import ScriptHost.Session.Transcript

/-!
# Blocks of a conversation

A block is what stands between a line that opens it and one that ends it.  Its lines are kept without
the white space at their ends, and its text is submitted once, when the block is executed; of a
cancelled block nothing is.  Either way the conversation goes on as one that has just begun: what comes
later depends on later lines only.

So the text of a block is as it was typed exactly if none of its lines ends in white space and none of
them is a command for help, which is answered in a block as well.
-/

namespace ScriptHost

/-! ## White space at the end of a line -/

namespace Text

/-- Whether a text ends in white space. -/
def endsInBlank (s : String) : Bool := s.toList.getLast?.any isBlank

theorem toList_trimEnd (s : String) : (trimEnd s).toList = s.toList.rdropWhile isBlank :=
  String.toList_ofList

theorem length_trimEnd_le (s : String) : (trimEnd s).length ≤ s.length := by
  rw [← String.length_toList, ← String.length_toList, toList_trimEnd]
  exact (List.rdropWhile_prefix isBlank s.toList).length_le

theorem trimEnd_eq_self_of_length {s : String} (h : (trimEnd s).length = s.length) :
    trimEnd s = s := by
  rw [← String.length_toList, ← String.length_toList, toList_trimEnd] at h
  rw [← String.toList_inj, toList_trimEnd]
  exact (List.rdropWhile_prefix isBlank s.toList).eq_of_length h

theorem trimEnd_eq_self_iff (s : String) : trimEnd s = s ↔ endsInBlank s = false := by
  rw [← String.toList_inj, toList_trimEnd, List.rdropWhile_eq_self_iff, endsInBlank]
  cases h : s.toList.getLast? with
  | none => simp [List.getLast?_eq_none_iff.1 h]
  | some last =>
      obtain ⟨front, hfront⟩ := List.getLast?_eq_some_iff.1 h
      simp [hfront]

/-- The end of a line is white space itself. -/
theorem trimEnd_append_lineEnd (s : String) : trimEnd (s ++ "\n") = trimEnd s := by
  have hend : isBlank '\n' = true := by decide
  simp [trimEnd, hend]

end Text

namespace Session

open Text (trimEnd endsInBlank)

namespace Prompt

/-! ## Lines inside a block -/

/-- Where the prompt stands after some lines; nothing once the session has been left. -/
def after? (p : Prompt) : List String → Option Prompt
  | [] => some p
  | line :: rest =>
      match p.read line with
      | (.leave, _) => none
      | (_, q) => q.after? rest

/-- Whether a line opens a block. -/
def opens (line : String) : Bool := trimEnd line = ".multiline" || trimEnd line = ".m"

/-- Whether a line inside a block neither ends it nor leaves the session. -/
def stays (line : String) : Bool :=
  !isLeave (trimEnd line) && trimEnd line ≠ ".end" && trimEnd line ≠ ".cancel"

/-- What a line adds to the text of a block. -/
def kept (line : String) : String := if isHelp (trimEnd line) then "" else trimEnd line ++ "\n"

/-- The text of a block. -/
def blockText : List String → String
  | [] => ""
  | line :: rest => kept line ++ blockText rest

/-- Lines as they were typed. -/
def asTyped : List String → String
  | [] => ""
  | line :: rest => line ++ "\n" ++ asTyped rest

theorem read_of_opens {line : String} (h : opens line = true) :
    read .open line = (.blockOpened, .block "") := by
  rcases (by simpa [opens] using h : trimEnd line = ".multiline" ∨ trimEnd line = ".m") with h | h
  · simp only [read, h]
    decide
  · simp only [read, h]
    decide

theorem read_of_stays {line : String} (h : stays line = true) (text : String) :
    read (.block text) line =
      (if isHelp (trimEnd line) then .help else .nothing, .block (text ++ kept line)) := by
  obtain ⟨⟨hleave, hend⟩, hcancel⟩ := by simpa [stays] using h
  cases hhelp : isHelp (trimEnd line) with
  | true => simp [read, readBlock, kept, hleave, hhelp]
  | false => simp [read, readBlock, kept, hleave, hhelp, hend, hcancel, String.append_assoc]

theorem read_of_end {line : String} (h : trimEnd line = ".end") (text : String) :
    read (.block text) line = (.submit text, .open) := by
  rw [read, h]
  rfl

theorem read_of_cancel {line : String} (h : trimEnd line = ".cancel") (text : String) :
    read (.block text) line = (.blockCancelled, .open) := by
  rw [read, h]
  rfl

theorem readAll_cons {p q : Prompt} {line : String} {reaction : Reaction}
    (hread : p.read line = (reaction, q)) (hleave : reaction ≠ .leave) (rest : List String) :
    p.readAll (line :: rest) = reaction :: q.readAll rest := by
  rw [readAll, hread]
  cases reaction <;> first | exact absurd rfl hleave | rfl

theorem after?_cons {p q : Prompt} {line : String} {reaction : Reaction}
    (hread : p.read line = (reaction, q)) (hleave : reaction ≠ .leave) (rest : List String) :
    p.after? (line :: rest) = q.after? rest := by
  rw [after?, hread]
  cases reaction <;> first | exact absurd rfl hleave | rfl

/-- A session that goes on after some lines has gone on after the first of them. -/
theorem exists_of_after?_cons {p q : Prompt} {line : String} {rest : List String}
    (h : p.after? (line :: rest) = some q) :
    ∃ reaction next, p.read line = (reaction, next) ∧ reaction ≠ .leave ∧
      next.after? rest = some q := by
  rcases hread : p.read line with ⟨reaction, next⟩
  have hleave : reaction ≠ .leave := by
    rintro rfl
    simp [after?, hread] at h
  exact ⟨reaction, next, rfl, hleave, (after?_cons hread hleave rest).symm.trans h⟩

theorem after?_block {block : List String} (h : ∀ line ∈ block, stays line = true) (text : String) :
    after? (.block text) block = some (.block (text ++ blockText block)) := by
  induction block generalizing text with
  | nil => simp [after?, blockText]
  | cons line rest ih =>
      obtain ⟨hline, hrest⟩ := List.forall_mem_cons.1 h
      rw [after?_cons (read_of_stays hline text) (by split <;> simp), blockText,
        ← String.append_assoc]
      exact ih hrest (text ++ kept line)

/-! ## What is submitted -/

/-- The source that a reaction submits. -/
def sourceOf? : Reaction → Option String
  | .submit source => some source
  | _ => none

theorem submitted_eq (p : Prompt) (lines : List String) :
    p.submitted lines = (p.readAll lines).filterMap sourceOf? := rfl

theorem submitted_cons {p q : Prompt} {line : String} {reaction : Reaction}
    (hread : p.read line = (reaction, q)) (hleave : reaction ≠ .leave) (rest : List String) :
    p.submitted (line :: rest) = (sourceOf? reaction).toList ++ q.submitted rest := by
  rw [submitted_eq, readAll_cons hread hleave, List.filterMap_cons]
  cases sourceOf? reaction <;> rfl

theorem submitted_append {p q : Prompt} {lines : List String} (h : p.after? lines = some q)
    (rest : List String) : p.submitted (lines ++ rest) = p.submitted lines ++ q.submitted rest := by
  induction lines generalizing p with
  | nil =>
      obtain rfl := Option.some.inj h
      rfl
  | cons line lines ih =>
      obtain ⟨reaction, next, hread, hleave, hnext⟩ := exists_of_after?_cons h
      rw [List.cons_append, submitted_cons hread hleave, submitted_cons hread hleave, ih hnext,
        List.append_assoc]

/-- It does not matter whether lines come with their ends. -/
theorem submitted_lineEnds (p : Prompt) (lines : List String) :
    p.submitted (lines.map (· ++ "\n")) = p.submitted lines := by
  rw [submitted_eq, submitted_eq]
  congr 1
  induction lines generalizing p with
  | nil => rfl
  | cons line rest ih =>
      have hread : p.read (line ++ "\n") = p.read line := by
        cases p <;> simp only [read, Text.trimEnd_append_lineEnd]
      rw [List.map_cons, readAll, readAll, hread]
      split
      · rfl
      · exact congrArg _ (ih _)

theorem submitted_block {block : List String} (h : ∀ line ∈ block, stays line = true)
    (text : String) : submitted (.block text) block = [] := by
  induction block generalizing text with
  | nil => rfl
  | cons line rest ih =>
      obtain ⟨hline, hrest⟩ := List.forall_mem_cons.1 h
      rw [submitted_cons (read_of_stays hline text) (by split <;> simp), ih hrest]
      cases isHelp (trimEnd line) <;> rfl

/-- What a block comes to is decided when it ends. -/
theorem submitted_of_block {before block : List String} {opener : String}
    (hbefore : after? .open before = some .open) (hopener : opens opener = true)
    (hblock : ∀ line ∈ block, stays line = true) (closer : String) (rest : List String) :
    submitted .open (before ++ opener :: (block ++ closer :: rest)) =
      submitted .open before ++ submitted (.block (blockText block)) (closer :: rest) := by
  have hopened := submitted_cons (read_of_opens hopener) (by simp) (block ++ closer :: rest)
  rw [submitted_append hbefore, hopened, submitted_append (after?_block hblock ""),
    submitted_block hblock, String.empty_append, List.nil_append]
  simp only [sourceOf?, Option.toList_none, List.nil_append]

/-! ## As typed -/

theorem length_line (line : String) : (line ++ "\n").length = line.length + 1 :=
  String.length_append line "\n"

theorem length_kept (line : String) :
    (kept line).length = if isHelp (trimEnd line) then 0 else (trimEnd line).length + 1 := by
  rw [kept]
  split
  · rfl
  · exact length_line (trimEnd line)

theorem length_kept_le (line : String) : (kept line).length ≤ line.length + 1 := by
  have htrim := Text.length_trimEnd_le line
  rw [length_kept]
  split <;> omega

theorem kept_eq_iff (line : String) :
    kept line = line ++ "\n" ↔ isHelp (trimEnd line) = false ∧ endsInBlank line = false := by
  cases hhelp : isHelp (trimEnd line) with
  | true =>
      refine iff_of_false (fun heq => ?_) (by simp)
      have hlength := congrArg String.length heq
      rw [length_kept, if_pos hhelp, length_line] at hlength
      omega
  | false => simp [kept, hhelp, String.append_left_inj, Text.trimEnd_eq_self_iff]

theorem kept_eq_of_length {line : String} (h : (kept line).length = line.length + 1) :
    kept line = line ++ "\n" := by
  rw [length_kept] at h
  split at h
  · omega
  · rename_i hhelp
    rw [kept, if_neg hhelp, Text.trimEnd_eq_self_of_length (by omega)]

theorem length_blockText_le (block : List String) :
    (blockText block).length ≤ (asTyped block).length := by
  induction block with
  | nil => exact Nat.le_refl _
  | cons line rest ih =>
      have hline := length_kept_le line
      rw [blockText, asTyped, String.length_append, String.length_append, length_line]
      omega

theorem blockText_eq_asTyped_iff (block : List String) :
    blockText block = asTyped block ↔
      ∀ line ∈ block, isHelp (trimEnd line) = false ∧ endsInBlank line = false := by
  induction block with
  | nil => simp [blockText, asTyped]
  | cons line rest ih =>
      rw [List.forall_mem_cons, ← ih, ← kept_eq_iff, blockText, asTyped]
      constructor
      · intro heq
        -- No line gains by being kept, so none of them may lose.
        have hlength := congrArg String.length heq
        rw [String.length_append, String.length_append, length_line] at hlength
        have hline := length_kept_le line
        have hrest := length_blockText_le rest
        have hkept : kept line = line ++ "\n" := kept_eq_of_length (by omega)
        rw [hkept] at heq
        exact ⟨hkept, (String.append_right_inj _).1 heq⟩
      · rintro ⟨hline, hrest⟩
        rw [hline, hrest]

end Prompt

/-! ## The conversation -/

namespace Surroundings

/-- Write something. -/
def put (text : String) : Recorded Unit :=
  modify fun w => { w with output := w.output ++ text.toUTF8 }

/-- Read and answer lines, and do not ask for another one. -/
def hear (s : Surroundings) (p : Prompt) :
    List String → ExactHost LuaState → Recorded (ExactHost LuaState)
  | [], x => pure x
  | line :: rest, x => do
      put p.mark
      match p.read line with
      | (.leave, _) => pure x
      | (reaction, q) => s.hear q rest (← s.terminal.react reaction x)

variable (s : Surroundings)

theorem hear_cons {p q : Prompt} {line : String} {reaction : Reaction}
    (hread : p.read line = (reaction, q)) (hleave : reaction ≠ .leave) (rest : List String)
    (x : ExactHost LuaState) :
    s.hear p (line :: rest) x = (do
      put p.mark
      s.hear q rest (← s.terminal.react reaction x)) := by
  rw [hear, hread]
  cases reaction <;> first | exact absurd rfl hleave | rfl

theorem converse_cons {p q : Prompt} {line : String} {reaction : Reaction}
    (hread : p.read line = (reaction, q)) (hleave : reaction ≠ .leave) (rest : List String)
    (x : ExactHost LuaState) :
    s.converse p (line :: rest) x = (do
      put p.mark
      s.converse q rest (← s.terminal.react reaction x)) := by
  rw [converse]
  simp only [hread]
  cases reaction <;> first | exact absurd rfl hleave | rfl

theorem converse_append {p q : Prompt} {lines : List String} (h : p.after? lines = some q)
    (rest : List String) (x : ExactHost LuaState) :
    s.converse p (lines ++ rest) x = (do
      let x ← s.hear p lines x
      s.converse q rest x) := by
  induction lines generalizing p x with
  | nil =>
      obtain rfl := Option.some.inj h
      simp [hear]
  | cons line lines ih =>
      obtain ⟨reaction, next, hread, hleave, hnext⟩ := Prompt.exists_of_after?_cons h
      rw [List.cons_append, converse_cons s hread hleave, hear_cons s hread hleave]
      simp only [ih hnext, bind_assoc]

/-- Write some texts, one after the other. -/
def shows (texts : List String) (x : ExactHost LuaState) : Recorded (ExactHost LuaState) := do
  texts.forM put
  pure x

theorem shows_cons (text : String) (texts : List String) (x : ExactHost LuaState) :
    shows (text :: texts) x = (do put text; shows texts x) := by
  simp [shows]

theorem shows_append (front back : List String) (x : ExactHost LuaState) :
    shows (front ++ back) x = (do shows back (← shows front x)) := by
  simp [shows]

theorem react_eq_shows {reaction : Reaction} (htally : reaction ≠ .tally)
    (hsource : Prompt.sourceOf? reaction = none) (x : ExactHost LuaState) :
    s.terminal.react reaction x = shows (reaction.lines.map (· ++ "\n")) x := by
  cases reaction with
  | tally => exact absurd rfl htally
  | submit source => cases hsource
  | nothing | leave | help | blockOpened | blockCancelled | unknownCommand line => rfl

/-- Inside a block nothing is done but to write. -/
theorem hear_block {block : List String} (h : ∀ line ∈ block, Prompt.stays line = true)
    (text : String) :
    ∃ texts, ∀ (s : Surroundings) (x : ExactHost LuaState),
      s.hear (.block text) block x = shows texts x := by
  -- The text grows with each line, so the induction is over all texts.
  induction block generalizing text with
  | nil => exact ⟨[], fun s x => rfl⟩
  | cons line rest ih =>
      obtain ⟨hline, hrest⟩ := List.forall_mem_cons.1 h
      obtain ⟨later, hlater⟩ := ih hrest (text ++ Prompt.kept line)
      have hread := Prompt.read_of_stays hline text
      generalize hreaction : (if Prompt.isHelp (trimEnd line) then Reaction.help else .nothing) =
        reaction at hread
      have hshown : reaction ≠ .tally ∧ reaction ≠ .leave ∧ Prompt.sourceOf? reaction = none := by
        subst hreaction
        split <;> simp [Prompt.sourceOf?]
      refine ⟨"...> " :: (reaction.lines.map (· ++ "\n") ++ later), fun s x => ?_⟩
      rw [hear_cons s hread hshown.2.1, react_eq_shows s hshown.1 hshown.2.2, shows_cons,
        shows_append]
      simp only [hlater]
      rfl

/-- Until a block ends its lines are only asked for. -/
theorem converse_of_block {before block : List String} {opener : String}
    (hbefore : Prompt.after? .open before = some .open) (hopener : Prompt.opens opener = true)
    (hblock : ∀ line ∈ block, Prompt.stays line = true) (closer : String) (rest : List String) :
    ∃ texts, ∀ (s : Surroundings) (x : ExactHost LuaState),
      s.converse .open (before ++ opener :: (block ++ closer :: rest)) x = (do
        let x ← s.hear .open before x
        let x ← shows texts x
        s.converse (.block (Prompt.blockText block)) (closer :: rest) x) := by
  obtain ⟨texts, htexts⟩ := hear_block hblock ""
  have hread := Prompt.read_of_opens hopener
  refine ⟨"hub> " :: (Reaction.blockOpened.lines.map (· ++ "\n") ++ texts), fun s x => ?_⟩
  have hafter : Prompt.after? (.block "") block = some (.block (Prompt.blockText block)) := by
    rw [Prompt.after?_block hblock, String.empty_append]
  -- What the lines before come to is the same on both sides; from there on nothing is submitted.
  rw [converse_append s hbefore]
  refine bind_congr fun x => ?_
  rw [converse_cons s hread (by simp), react_eq_shows s (by simp) rfl, shows_cons, shows_append]
  simp only [converse_append s hafter, htexts, bind_assoc]
  rfl

end Surroundings

namespace Prompt

open Surroundings (shows)

/-! ## Blocks -/

/-- **A block comes to one submission or none.**  Whatever has been typed before a block is opened and
whatever is typed after it has ended, the session does with all of it what it does with the lines
before, writes something, submits the text of the block if it is executed and nothing if it is
cancelled, and then does with the lines after what it would do with them at its start.

Each line adds to that text what is left of it without the white space at its end, unless it is a
command for help.  So the block is submitted as it was typed exactly if none of its lines ends in white
space and none is such a command. -/
theorem block_submitted_once {before block : List String} {opener closer : String}
    (hbefore : after? .open before = some .open) (hopener : opens opener = true)
    (hblock : ∀ line ∈ block, stays line = true) (rest : List String) :
    let lines := before ++ opener :: (block ++ closer :: rest)
    (trimEnd closer = ".end" →
      submitted .open lines = submitted .open before ++ blockText block :: submitted .open rest ∧
      ∃ texts, ∀ (s : Surroundings) (x : ExactHost LuaState),
        s.converse .open lines x = (do
          let x ← s.hear .open before x
          let x ← shows texts x
          let x ← s.terminal.react (.submit (blockText block)) x
          s.converse .open rest x)) ∧
    (trimEnd closer = ".cancel" →
      submitted .open lines = submitted .open before ++ submitted .open rest ∧
      ∃ texts, ∀ (s : Surroundings) (x : ExactHost LuaState),
        s.converse .open lines x = (do
          let x ← s.hear .open before x
          let x ← shows texts x
          s.converse .open rest x)) ∧
    (blockText block = asTyped block ↔
      ∀ line ∈ block, isHelp (trimEnd line) = false ∧ endsInBlank line = false) := by
  intro lines
  have hsubmitted := submitted_of_block hbefore hopener hblock closer rest
  obtain ⟨texts, htexts⟩ := Surroundings.converse_of_block hbefore hopener hblock closer rest
  refine ⟨fun hclose => ?_, fun hclose => ?_, blockText_eq_asTyped_iff block⟩
  · have hread := read_of_end hclose (blockText block)
    refine ⟨hsubmitted.trans ?_, texts ++ ["...> "], fun s x => (htexts s x).trans ?_⟩
    · rw [submitted_cons hread (by simp)]
      rfl
    · simp only [s.converse_cons hread (by simp), Surroundings.shows_append, bind_assoc]
      rfl
  · have hread := read_of_cancel hclose (blockText block)
    refine ⟨hsubmitted.trans ?_,
      texts ++ "...> " :: Reaction.blockCancelled.lines.map (· ++ "\n"),
      fun s x => (htexts s x).trans ?_⟩
    · rw [submitted_cons hread (by simp)]
      rfl
    · simp only [s.converse_cons hread (by simp), Surroundings.shows_append, bind_assoc]
      rfl

/-- A block that is executed, with a line before it and a line after it. -/
theorem long_text_is_submitted_once :
    submitted .open ["x = 1", ".m", "return [[a  ", ".tally", "b]]", ".end ", "x"] =
      ["x = 1", "return [[a\n.tally\nb]]\n", "x"] := by
  have hbefore : after? .open ["x = 1"] = some .open := by decide +kernel
  have hopener : opens ".m" = true := by decide
  have hblock : ∀ line ∈ ["return [[a  ", ".tally", "b]]"], stays line = true := by decide
  have hclose : trimEnd ".end " = ".end" := by decide
  have hfirst : submitted .open ["x = 1"] = ["x = 1"] := by decide +kernel
  have hlast : submitted .open ["x"] = ["x"] := by decide +kernel
  have h := ((block_submitted_once hbefore hopener hblock ["x"]).1 hclose).1
  rw [hfirst, hlast] at h
  exact h

/-- White space before the end of a line is lost, also inside a text that goes over the line. -/
theorem blanks_in_long_text_are_lost :
    submitted .open [".multiline", "return #[[a  ", "b]]", ".end"] ≠
      [asTyped ["return #[[a  ", "b]]"]] := by
  decide

end Prompt
end Session
end ScriptHost
