import Vortex.Foundation.Strip
import Vortex.Gateway.Messages

/-!
# Polls

A poll is a block of lines between two markers in the text of a message. Nothing is escaped, so the
block is read back unless what was typed has a marker in it where the parser looks for one, or a
question that looks like an option.
-/

namespace Vortex.Web.Polls

open Foundation List
open Vortex.Gateway (isWhiteSpace trim)

/-! ## The format -/

/-- One option for each of the emojis to vote with. -/
def MAX_POLL_OPTIONS : Nat := 8

def MIN_POLL_OPTIONS : Nat := 2

structure ParsedPoll where
  question : JsString
  options : List JsString
  before : JsString
  after : JsString
deriving DecidableEq

def bullet : JsString := js "- "

def formatPollBlock (question : JsString) (options : List JsString) : JsString :=
  [10].intercalate (js "[POLL]" :: question :: (options.map (bullet ++ ·) ++ [js "[/POLL]"]))

/-- `/\[POLL\]([\s\S]*?)\[\/POLL\]/.exec(content)`: what is before, inside and after the block. -/
def pollBlock (content : JsString) : Option (JsString × JsString × JsString) := do
  let (before, rest) ← cutAt (js "[POLL]") content
  let (inside, after) ← cutAt (js "[/POLL]") rest
  return (before, inside, after)

/-- The loop over the lines after the question. -/
def collectOptions : List JsString → List JsString → List JsString
  | [], options => options
  | line :: lines, options =>
      if !bullet.isPrefixOf line then collectOptions lines options
      else
        let option := trim (line.drop 2)
        let options := if option.isEmpty then options else options ++ [option]
        if options.length = MAX_POLL_OPTIONS then options else collectOptions lines options

def parsePollBlock (content : JsString) : Option ParsedPoll := do
  let (before, inside, after) ← pollBlock content
  match ((inside.splitOn 10).map trim).filter (!·.isEmpty) with
  | [] => none
  | question :: lines =>
      if bullet.isPrefixOf question then none
      else
        let options := collectOptions lines []
        if options.length < MIN_POLL_OPTIONS then none
        else some ⟨question, options, trim before, trim after⟩

/-! ## The composer -/

/-- The options that are kept of those typed. -/
def keptOptions (pollOptions : List JsString) : List JsString :=
  ((pollOptions.map trim).filter (!·.isEmpty)).take MAX_POLL_OPTIONS

/-- What `handleCreatePoll` makes of a draft, `none` when there is no poll to insert. -/
def handleCreatePoll (content pollQuestion : JsString) (pollOptions : List JsString) :
    Option JsString :=
  let question := trim pollQuestion
  let options := keptOptions pollOptions
  if question.isEmpty || options.length < 2 then none
  else
    let spacer := if (trim content).isEmpty then [] else js "\n\n"
    some (content ++ spacer ++ formatPollBlock question options)

/-- What the fields of the poll creator hold: each is a single line. -/
structure PollFields where
  question : JsString
  options : List JsString
  line : (10 : UInt16) ∉ question
  lines : ∀ option ∈ options, (10 : UInt16) ∉ option

/-- The poll that was typed is read back. -/
def ReadBack (content : JsString) (fields : PollFields) (message : JsString) : Prop :=
  parsePollBlock message =
    some ⟨trim fields.question, keptOptions fields.options, trim content, []⟩

/-- Nothing typed is taken for a part of the block. -/
structure Unmistakable (content : JsString) (fields : PollFields) : Prop where
  draft : ¬ js "[POLL]" <:+: content
  question : ¬ js "[/POLL]" <:+: trim fields.question
  options : ∀ option ∈ keptOptions fields.options, ¬ js "[/POLL]" <:+: option
  asks : ¬ bullet <+: trim fields.question

/-! ## Texts without white space at their ends -/

section Trim

variable {text ending : JsString}

theorem trim_eq_strip (text : JsString) : trim text = strip isWhiteSpace text := rfl

theorem trim_trim (text : JsString) : trim (trim text) = trim text :=
  strip_strip isWhiteSpace text

/-- A bullet before a text is kept with it. -/
theorem trim_bullet (trimmed : trim text = text) (some : text ≠ []) :
    trim (bullet ++ text) = bullet ++ text := by
  refine strip_eq_self (fun first opens => ?_) fun last closes => ?_
  · cases opens
    decide
  · rw [getLast?_append_of_ne_nil _ some] at closes
    rw [← trimmed] at closes
    exact last_strip closes

end Trim

section Kept

variable {fields : PollFields} {option : JsString}

theorem kept_spec (member : option ∈ keptOptions fields.options) :
    trim option = option ∧ option ≠ [] ∧ (10 : UInt16) ∉ option := by
  obtain ⟨trimmed, some⟩ := mem_filter.mp (mem_of_mem_take member)
  obtain ⟨typed, inside, rfl⟩ := mem_map.mp trimmed
  refine ⟨trim_trim typed, ?_, fun line => ?_⟩
  · rintro empty
    rw [empty] at some
    cases some
  · exact fields.lines typed inside ((strip_sublist isWhiteSpace typed).subset line)

theorem length_kept_le : (keptOptions fields.options).length ≤ MAX_POLL_OPTIONS :=
  length_take_le _ _

/-- The loop finds the options it has room for. -/
theorem collectOptions_bullets {options found : List JsString}
    (every : ∀ option ∈ options, trim option = option ∧ option ≠ [])
    (room : found.length + options.length ≤ MAX_POLL_OPTIONS) :
    collectOptions (options.map (bullet ++ ·)) found = found ++ options := by
  induction options generalizing found with
  | nil => rw [map_nil, collectOptions, append_nil]
  | cons option options ih =>
    obtain ⟨trimmed, some⟩ := every option mem_cons_self
    have opens : bullet.isPrefixOf (bullet ++ option) = true :=
      isPrefixOf_iff_prefix.mpr (prefix_append _ _)
    have rest : (bullet ++ option).drop 2 = option := rfl
    have full : option.isEmpty = false := isEmpty_eq_false_iff.mpr some
    rw [length_cons] at room
    rw [map_cons, collectOptions, opens, rest, trimmed]
    simp only [Bool.not_true, Bool.false_eq_true, if_false, full]
    split
    · rename_i last
      rw [length_append, length_singleton] at last
      obtain rfl : options = [] := length_eq_zero_iff.mp (by omega)
      rfl
    · rw [ih (fun other member => every other (mem_cons_of_mem _ member))
        (by rw [length_append, length_singleton]; omega), append_assoc]
      rfl

end Kept

/-! ## The composed message -/

/-- What is between the markers. -/
def pollBody (question : JsString) (options : List JsString) : JsString :=
  [10].intercalate ([] :: question :: (options.map (bullet ++ ·) ++ [[]]))

theorem intercalate_cons {lines : List JsString} (line : JsString) (some : lines ≠ []) :
    [10].intercalate (line :: lines) = line ++ [10].intercalate ([] :: lines) := by
  rw [intercalate_cons_of_ne_nil some, intercalate_cons_of_ne_nil some, append_assoc, nil_append]

theorem intercalate_concat (lines : List JsString) (last : JsString) :
    [10].intercalate (lines ++ [last]) = [10].intercalate (lines ++ [[]]) ++ last := by
  induction lines with
  | nil => simp
  | cons line lines ih =>
    have more (ending : JsString) : lines ++ [ending] ≠ [] :=
      append_ne_nil_of_right_ne_nil _ (cons_ne_nil _ _)
    rw [cons_append, cons_append, intercalate_cons_of_ne_nil (more last),
      intercalate_cons_of_ne_nil (more []), ih, append_assoc, append_assoc,
      append_assoc]

theorem formatPollBlock_eq (question : JsString) (options : List JsString) :
    formatPollBlock question options =
      js "[POLL]" ++ (pollBody question options ++ js "[/POLL]") := by
  rw [formatPollBlock, intercalate_cons _ (cons_ne_nil _ _), pollBody]
  congr 1
  exact intercalate_concat ([] :: question :: options.map (bullet ++ ·)) (js "[/POLL]")

section Body

variable {question : JsString} {options : List JsString}

/-- The lines between the markers. -/
theorem splitOn_pollBody (line : (10 : UInt16) ∉ question)
    (lines : ∀ option ∈ options, (10 : UInt16) ∉ option) :
    (pollBody question options).splitOn 10 =
      [] :: question :: (options.map (bullet ++ ·) ++ [[]]) := by
  refine splitOn_intercalate 10 (fun piece member => ?_) (cons_ne_nil _ _)
  simp only [mem_cons, mem_append, mem_map, not_mem_nil, or_false] at member
  rcases member with rfl | rfl | ⟨option, inside, rfl⟩ | rfl
  · exact not_mem_nil
  · exact line
  · intro inBullet
    rcases mem_append.mp inBullet with opening | typed
    · exact absurd opening (by decide)
    · exact lines option inside typed
  · exact not_mem_nil

/-- The lines that count are the question and the options. -/
theorem lines_pollBody (trimmed : trim question = question) (some : question ≠ [])
    (line : (10 : UInt16) ∉ question)
    (every : ∀ option ∈ options, trim option = option ∧ option ≠ [] ∧ (10 : UInt16) ∉ option) :
    (((pollBody question options).splitOn 10).map trim).filter (!·.isEmpty) =
      question :: options.map (bullet ++ ·) := by
  have blank : trim [] = [] := rfl
  have full : (!question.isEmpty) = true := by simpa using some
  have bullets : (options.map (bullet ++ ·)).map trim = options.map (bullet ++ ·) := by
    rw [map_map]
    refine map_congr_left fun option member => ?_
    exact trim_bullet (every option member).1 (every option member).2.1
  have kept : (options.map (bullet ++ ·)).filter (!·.isEmpty) = options.map (bullet ++ ·) := by
    refine filter_eq_self.mpr fun piece member => ?_
    obtain ⟨option, -, rfl⟩ := mem_map.mp member
    rfl
  rw [splitOn_pollBody line fun option member => (every option member).2.2, map_cons,
    map_cons, map_append, map_singleton, trimmed, blank, bullets,
    filter_cons_of_neg (by decide), filter_cons_of_pos (p := fun line : JsString => !line.isEmpty) full,
    filter_append, kept,
    filter_cons_of_neg (by decide), filter_nil, append_nil]

/-- The closing marker is between the markers when it has been typed there. -/
theorem closing_infix_pollBody :
    js "[/POLL]" <:+: pollBody question options ↔
      js "[/POLL]" <:+: question ∨ ∃ option ∈ options, js "[/POLL]" <:+: option := by
  have marker : js "[/POLL]" = 91 :: js "/POLL]" := rfl
  have outside : ¬ 91 :: js "/POLL]" <:+: [] := fun inside => by cases infix_nil.mp inside
  have bulleted (option : JsString) :
      91 :: js "/POLL]" <:+: bullet ++ option ↔ 91 :: js "/POLL]" <:+: option := by
    constructor
    · intro inside
      rcases infix_cons_iff.mp inside with here | inside
      · exact absurd (cons_prefix_cons.mp here).1 (by decide)
      · rcases infix_cons_iff.mp inside with here | inside
        · exact absurd (cons_prefix_cons.mp here).1 (by decide)
        · exact inside
    · exact infix_append_of_infix_right
  rw [pollBody, marker, infix_intercalate_iff (by decide)]
  simp only [mem_cons, mem_append, mem_map, not_mem_nil, or_false]
  constructor
  · rintro ⟨piece, rfl | rfl | ⟨option, member, rfl⟩ | rfl, inside⟩
    · exact absurd inside outside
    · exact .inl inside
    · exact .inr ⟨option, member, (bulleted option).mp inside⟩
    · exact absurd inside outside
  · rintro (inside | ⟨option, member, inside⟩)
    · exact ⟨question, .inr (.inl rfl), inside⟩
    · exact ⟨bullet ++ option, .inr (.inr (.inl ⟨option, member, rfl⟩)),
        (bulleted option).mpr inside⟩

end Body

/-! ## Reading it back -/

section ReadBack

variable {content message : JsString} {fields : PollFields}

/-- What `handleCreatePoll` has made. -/
theorem message_eq (created : handleCreatePoll content fields.question fields.options = some message) :
    trim fields.question ≠ [] ∧ 2 ≤ (keptOptions fields.options).length ∧
      ∃ spacer : JsString, (∀ unit ∈ spacer, unit = 10) ∧
        message = (content ++ spacer) ++ (js "[POLL]" ++
          (pollBody (trim fields.question) (keptOptions fields.options) ++
            (js "[/POLL]" ++ []))) := by
  unfold handleCreatePoll at created
  simp only [Option.ite_none_left_eq_some, Bool.or_eq_true, List.isEmpty_iff, decide_eq_true_eq,
    not_or, not_lt] at created
  obtain ⟨⟨some, enough⟩, made⟩ := created
  refine ⟨some, enough, if trim content = [] then [] else js "\n\n", ?_, ?_⟩
  · intro unit member
    split at member
    · cases member
    · have breaks : (js "\n\n").all (· = 10) = true := by decide
      exact of_decide_eq_true (all_eq_true.mp breaks unit member)
  · rw [← Option.some_inj.mp made, formatPollBlock_eq, append_nil]

/-- Line breaks after a draft make no marker of it. -/
theorem absent_of_lines {spacer : JsString} (lines : ∀ unit ∈ spacer, unit = 10)
    (draft : ¬ js "[POLL]" <:+: content) : ¬ 91 :: js "POLL]" <:+: content ++ spacer := by
  intro inside
  refine draft (infix_of_append ?_ inside)
  intro unit member held
  rw [lines unit held] at member
  exact absurd member (by decide)

/-- The markers of the block are the first ones. -/
theorem pollBlock_of_absent {before inside after : JsString} (absent : ¬ js "[POLL]" <:+: before)
    (absentClosing : ¬ js "[/POLL]" <:+: inside) :
    pollBlock (before ++ (js "[POLL]" ++ (inside ++ (js "[/POLL]" ++ after)))) =
      some (before, inside, after) := by
  have opened : cutAt (js "[POLL]")
      (before ++ (js "[POLL]" ++ (inside ++ (js "[/POLL]" ++ after)))) =
        some (before, inside ++ (js "[/POLL]" ++ after)) :=
    cutAt_append (show (91 : UInt16) ∉ js "POLL]" by decide) absent
  have closed : cutAt (js "[/POLL]") (inside ++ (js "[/POLL]" ++ after)) = some (inside, after) :=
    cutAt_append (show (91 : UInt16) ∉ js "/POLL]" by decide) absentClosing
  simp only [pollBlock, opened, closed, Option.bind_eq_bind, Option.bind_some]
  rfl

/-- What is read back has been found before and after the block. -/
theorem parsePollBlock_spec {poll : ParsedPoll} (parsed : parsePollBlock content = some poll) :
    ∃ before inside after, pollBlock content = some (before, inside, after) ∧
      poll.before = trim before ∧ poll.after = trim after ∧ ¬ bullet <+: poll.question ∧
        poll.question ∈ (inside.splitOn 10).map trim := by
  simp only [parsePollBlock, Option.bind_eq_bind, Option.bind_eq_some_iff] at parsed
  obtain ⟨⟨before, inside, after⟩, found, parsed⟩ := parsed
  refine ⟨before, inside, after, found, ?_⟩
  dsimp only at parsed
  split at parsed
  · cases parsed
  · rename_i question lines same
    simp only [Option.ite_none_left_eq_some] at parsed
    obtain ⟨asks, enough, made⟩ := parsed
    cases made
    refine ⟨rfl, rfl, fun opens => asks (List.isPrefixOf_iff_prefix.mpr opens), ?_⟩
    have member : question ∈ ((inside.splitOn 10).map trim).filter (!·.isEmpty) := by
      rw [same]
      exact mem_cons_self
    exact (mem_filter.mp member).1

theorem readBack_of_unmistakable
    (created : handleCreatePoll content fields.question fields.options = some message)
    (clear : Unmistakable content fields) : ReadBack content fields message := by
  obtain ⟨some, enough, spacer, lines, rfl⟩ := message_eq created
  have white : ∀ unit ∈ spacer, isWhiteSpace unit = true := by
    intro unit member
    rw [lines unit member]
    decide
  have before : ¬ js "[POLL]" <:+: content ++ spacer := absent_of_lines lines clear.draft
  have inside : ¬ js "[/POLL]" <:+: pollBody (trim fields.question) (keptOptions fields.options) := by
    rw [closing_infix_pollBody]
    rintro (typed | ⟨option, member, typed⟩)
    · exact clear.question typed
    · exact clear.options option member typed
  have every : ∀ option ∈ keptOptions fields.options,
      trim option = option ∧ option ≠ [] ∧ (10 : UInt16) ∉ option := fun _ => kept_spec
  have lines := lines_pollBody (trim_trim fields.question) some
    (fun line => fields.line ((strip_sublist isWhiteSpace fields.question).subset line)) every
  have asks : bullet.isPrefixOf (trim fields.question) = false := by
    rw [← Bool.not_eq_true, isPrefixOf_iff_prefix]
    exact clear.asks
  have options : collectOptions ((keptOptions fields.options).map (bullet ++ ·)) [] =
      [] ++ keptOptions fields.options := collectOptions_bullets
    (fun option member => ⟨(every option member).1, (every option member).2.1⟩)
    (by rw [length_nil, Nat.zero_add]; exact length_kept_le)
  have many : ¬ (keptOptions fields.options).length < MIN_POLL_OPTIONS := not_lt.mpr enough
  rw [ReadBack, parsePollBlock, pollBlock_of_absent before inside]
  simp only [Option.bind_eq_bind, Option.bind_some, lines, asks, options, nil_append, many,
    Bool.false_eq_true, if_false]
  have draft : trim (content ++ spacer) = trim content := strip_append white
  rw [draft]
  rfl

/-- Texts with different visible parts are not trimmed to the same. -/
theorem filter_of_trim_eq {first second : JsString} (same : trim first = trim second) :
    first.filter (!isWhiteSpace ·) = second.filter (!isWhiteSpace ·) := by
  rw [← filter_strip isWhiteSpace first, ← trim_eq_strip, same, trim_eq_strip, filter_strip]

/-- A marker is visible. -/
theorem visible_of_infix {marker text : JsString} (inside : marker <:+: text)
    (bracket : (91 : UInt16) ∈ marker) : text.filter (!isWhiteSpace ·) ≠ [] :=
  ne_nil_of_mem (mem_filter.mpr ⟨inside.subset bracket, by decide⟩)

theorem unmistakable_of_readBack
    (created : handleCreatePoll content fields.question fields.options = some message)
    (read : ReadBack content fields message) : Unmistakable content fields := by
  obtain ⟨-, -, spacer, lines, rfl⟩ := message_eq created
  obtain ⟨before, inside, after, found, first, last, asks, -⟩ := parsePollBlock_spec read
  simp only [pollBlock, Option.bind_eq_bind, Option.bind_eq_some_iff] at found
  obtain ⟨⟨opening, rest⟩, opened, ⟨middle, ending⟩, closed, made⟩ := found
  cases made
  have draft : ¬ js "[POLL]" <:+: content := by
    intro typed
    obtain ⟨early, late, rfl, absent⟩ :=
      exists_first (show 91 :: js "POLL]" <:+: content from typed)
    rw [append_assoc, append_assoc, append_assoc] at opened
    have cut := opened.symm.trans (cutAt_append (show (91 : UInt16) ∉ js "POLL]" by decide) absent)
    cases cut
    have visible := filter_of_trim_eq first
    rw [filter_append, append_right_eq_self] at visible
    have marker : 91 :: js "POLL]" <:+: 91 :: js "POLL]" ++ late := infix_append_left
    exact visible_of_infix marker (by decide) visible
  have body : ¬ js "[/POLL]" <:+: pollBody (trim fields.question) (keptOptions fields.options) := by
    intro typed
    obtain ⟨early, late, same, absent⟩ := exists_first
      (show 91 :: js "/POLL]" <:+: pollBody _ _ from typed)
    have cut := opened.symm.trans
      (cutAt_append (show (91 : UInt16) ∉ js "POLL]" by decide) (absent_of_lines lines draft))
    cases cut
    rw [same, append_assoc, append_assoc] at closed
    have cutAgain := closed.symm.trans
      (cutAt_append (show (91 : UInt16) ∉ js "/POLL]" by decide) absent)
    cases cutAgain
    have empty : trim (late ++ (js "[/POLL]" ++ [])) = trim [] := last.symm
    exact visible_of_infix (infix_append' late (js "[/POLL]") []) (by decide)
      (filter_of_trim_eq empty)
  rw [closing_infix_pollBody, not_or, not_exists] at body
  exact ⟨draft, body.1, fun option member typed => body.2 option ⟨member, typed⟩, asks⟩

/-- The composed message is read back exactly when nothing typed is mistaken for the block. -/
theorem readBack_iff
    (created : handleCreatePoll content fields.question fields.options = some message) :
    ReadBack content fields message ↔ Unmistakable content fields :=
  ⟨unmistakable_of_readBack created, readBack_of_unmistakable created⟩

end ReadBack

namespace Sample

def lunch : PollFields where
  question := js " Lunch?"
  options := [js "Tacos", js "", js "Ramen "]
  line := by decide
  lines := by decide

def lunchMessage : JsString :=
  js "Hey team\n\n[POLL]\nLunch?\n- Tacos\n- Ramen\n[/POLL]"

def markup : PollFields where
  question := js "Is it [/POLL]?"
  options := [js "Yes", js "No"]
  line := by decide
  lines := by decide

def markupMessage : JsString := js "[POLL]\nIs it [/POLL]?\n- Yes\n- No\n[/POLL]"

end Sample

theorem lunch_readBack : ReadBack (js "Hey team") Sample.lunch Sample.lunchMessage := by
  have created : handleCreatePoll (js "Hey team") Sample.lunch.question Sample.lunch.options =
      some Sample.lunchMessage := by decide
  refine (readBack_iff created).mpr ⟨?_, ?_, ?_, ?_⟩
  all_goals decide

/-- A question about the closing marker is cut at it. -/
theorem markup_lost :
    handleCreatePoll [] Sample.markup.question Sample.markup.options =
        some Sample.markupMessage ∧
      ¬ ReadBack [] Sample.markup Sample.markupMessage := by
  have created : handleCreatePoll [] Sample.markup.question Sample.markup.options =
      some Sample.markupMessage := by decide
  refine ⟨created, fun read => (unmistakable_of_readBack created read).question ?_⟩
  decide

end Vortex.Web.Polls
