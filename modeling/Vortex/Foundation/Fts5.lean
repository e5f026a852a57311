import Vortex.Foundation.JsText

/-!
# Queries of a full-text index

The lexer of FTS5 query expressions. A query ends at its first zero. Strings stand in
quotation marks, which are doubled inside; outside of strings there are bare words, some of
which are operators, and the marks of the syntax. Quoted texts that hold no zero are read
back as what they quote, one string each (`tokens_quoteAll`).
-/

namespace Foundation.Fts5

open List

inductive Token
  | literal (value : JsString)
  | bareword (word : JsString)
  | mark (unit : UInt16)
  deriving DecidableEq

inductive LexError
  | unterminated
  | syntaxError (near : UInt16)
  deriving DecidableEq

def isSpace (unit : UInt16) : Bool := unit = 32 || unit = 9 || unit = 10 || unit = 13

/-- `( ) { } : , + * - ^` -/
def isMark (unit : UInt16) : Bool := [40, 41, 123, 125, 58, 44, 43, 42, 45, 94].contains unit

/-- Letters, digits, the underscore, the substitute and what is not ASCII. -/
def isBareword (unit : UInt16) : Bool :=
  (48 ≤ unit && unit ≤ 57) || (65 ≤ unit && unit ≤ 90) || (97 ≤ unit && unit ≤ 122) || unit = 95 ||
    unit = 26 || 128 ≤ unit

/-- What a string holds after its opening mark, and what follows its closing mark. -/
def readString : JsString → Option (JsString × JsString)
  | [] => none
  | unit :: rest =>
      if unit = 34 then
        match rest with
        | [] => some ([], [])
        | next :: others =>
            if next = 34 then (readString others).map fun (value, left) => (34 :: value, left)
            else some ([], next :: others)
      else (readString rest).map fun (value, left) => (unit :: value, left)

def tokensFrom : Nat → JsString → Except LexError (List Token)
  | 0, _ => .ok []
  | _, [] => .ok []
  | fuel + 1, unit :: rest =>
      if isSpace unit then tokensFrom fuel rest
      else if unit = 34 then
        match readString rest with
        | none => .error .unterminated
        | some (value, left) => (tokensFrom fuel left).map (.literal value :: ·)
      else if isMark unit then (tokensFrom fuel rest).map (.mark unit :: ·)
      else if isBareword unit then
        (tokensFrom fuel (rest.dropWhile isBareword)).map
          (.bareword (unit :: rest.takeWhile isBareword) :: ·)
      else .error (.syntaxError unit)

/-- The tokens of a query. Each takes at least one unit. -/
def tokens (query : JsString) : Except LexError (List Token) :=
  let text := query.takeWhile (· ≠ 0)
  tokensFrom text.length text

/-- A text with its quotation marks doubled. -/
def doubled (text : JsString) : JsString :=
  text.flatMap fun unit => if unit = 34 then [34, 34] else [unit]

/-- A text as a string of its own. -/
def quote (text : JsString) : JsString := 34 :: doubled text ++ [34]

def quoteAll (texts : List JsString) : JsString := List.intercalate [32] (texts.map quote)

theorem doubled_cons (unit : UInt16) (text : JsString) :
    doubled (unit :: text) = (if unit = 34 then [34, 34] else [unit]) ++ doubled text := rfl

theorem readString_of_ne {unit : UInt16} {rest : JsString} (other : unit ≠ 34) :
    readString (unit :: rest) = (readString rest).map fun (value, left) => (unit :: value, left) := by
  rw [readString.eq_def]
  exact if_neg other

theorem readString_pair (rest : JsString) :
    readString (34 :: 34 :: rest) = (readString rest).map fun (value, left) => (34 :: value, left) := by
  rw [readString.eq_def]
  rfl

/-- A string is read up to its closing mark. -/
theorem readString_doubled (text rest : JsString) (closed : rest.head? ≠ some 34) :
    readString (doubled text ++ 34 :: rest) = some (text, rest) := by
  induction text with
  | nil =>
    cases rest with
    | nil => rfl
    | cons next others =>
      have other : next ≠ 34 := fun same => closed (congrArg some same)
      exact (if_pos rfl).trans (if_neg other)
  | cons unit text ih =>
    rw [doubled_cons]
    by_cases mark : unit = 34
    · subst mark
      rw [if_pos rfl]
      exact (readString_pair (doubled text ++ 34 :: rest)).trans (by rw [ih]; rfl)
    · rw [if_neg mark, singleton_append, cons_append, readString_of_ne mark, ih, Option.map_some]

/-- A string without its closing mark is not read. -/
theorem readString_open (text : JsString) : readString (doubled text) = none := by
  induction text with
  | nil => rfl
  | cons unit text ih =>
    rw [doubled_cons]
    by_cases mark : unit = 34
    · subst mark
      rw [if_pos rfl]
      exact (readString_pair (doubled text)).trans (by rw [ih]; rfl)
    · rw [if_neg mark, singleton_append, readString_of_ne mark, ih, Option.map_none]

theorem mem_doubled {unit : UInt16} {text : JsString} : unit ∈ doubled text ↔ unit ∈ text := by
  rw [doubled, mem_flatMap]
  constructor
  · rintro ⟨other, member, inside⟩
    split at inside <;> simp_all
  · intro member
    refine ⟨unit, member, ?_⟩
    split
    · rename_i mark
      rw [mark]
      exact mem_cons_self
    · exact mem_singleton_self unit

theorem quoteAll_cons (text : JsString) (texts : List JsString) : quoteAll (text :: texts) =
    quote text ++ (if texts = [] then [] else 32 :: quoteAll texts) := by
  cases texts with
  | nil => simp [quoteAll, List.intercalate]
  | cons next others => simp [quoteAll, List.intercalate]

/-- What the lexer sees of a text. -/
def shown (text : JsString) : JsString := text.takeWhile (· ≠ 0)

theorem shown_append {text rest : JsString} (whole : 0 ∉ text) :
    shown (text ++ rest) = text ++ shown rest := by
  refine takeWhile_append_of_pos fun unit member => decide_eq_true ?_
  rintro rfl
  exact whole member

/-- A quoted text with a zero in it is seen as a string that is not closed. -/
theorem shown_quote_of_zero {text : JsString} (zero : 0 ∈ text) (rest : JsString) :
    ∃ front, shown (quote text ++ rest) = 34 :: doubled front := by
  obtain ⟨front, back, rfl, whole⟩ := eq_append_cons_of_mem zero
  refine ⟨front, ?_⟩
  have split : quote (front ++ 0 :: back) ++ rest =
      (34 :: doubled front) ++ 0 :: (doubled back ++ [34] ++ rest) := by
    simp [quote, doubled, flatMap_append]
  have unseen : 0 ∉ 34 :: doubled front := by
    rw [mem_cons, mem_doubled]
    rintro (mark | inside)
    · cases mark
    · exact whole inside
  rw [split, shown_append unseen, shown, takeWhile_cons_of_neg (by decide), append_nil]

/-- Quoted texts are read one after the other up to the first one with a zero, which is not
closed. -/
theorem tokensFrom_quoteAll (texts : List JsString) (fuel : Nat)
    (enough : (shown (quoteAll texts)).length ≤ fuel) :
    tokensFrom fuel (shown (quoteAll texts)) =
      if ∀ text ∈ texts, 0 ∉ text then .ok (texts.map .literal) else .error .unterminated := by
  induction texts generalizing fuel with
  | nil => cases fuel <;> rfl
  | cons text texts ih =>
    rw [quoteAll_cons] at enough ⊢
    generalize following : (if texts = [] then [] else 32 :: quoteAll texts) = rest at enough ⊢
    by_cases zero : 0 ∈ text
    · obtain ⟨front, seen⟩ := shown_quote_of_zero zero rest
      rw [seen, length_cons] at enough
      obtain ⟨fuel, rfl⟩ : ∃ less, fuel = less + 1 := ⟨fuel - 1, by omega⟩
      rw [seen, tokensFrom, if_neg (by decide), if_pos rfl, readString_open,
        if_neg fun whole => whole text mem_cons_self zero]
    · have whole : 0 ∉ quote text := by
        simp [quote, mem_doubled, zero]
      have closed : (shown rest).head? ≠ some 34 := by
        rw [← following]
        split
        · exact nofun
        · have spaced : shown (32 :: quoteAll texts) = 32 :: shown (quoteAll texts) :=
            takeWhile_cons_of_pos (by decide)
          rw [spaced, head?_cons]
          exact fun same => absurd (Option.some.inj same) (by decide)
      have length : (quote text ++ shown rest).length =
          (doubled text).length + 2 + (shown rest).length := by
        rw [quote, length_append, length_append, length_cons, length_singleton]
      rw [shown_append whole, length] at enough
      obtain ⟨fuel, rfl⟩ : ∃ less, fuel = less + 1 := ⟨fuel - 1, by omega⟩
      have left : tokensFrom fuel (shown rest) =
          if ∀ text ∈ texts, 0 ∉ text then .ok (texts.map .literal) else .error .unterminated := by
        rw [← following] at enough ⊢
        split at enough
        · rename_i none
          subst none
          cases fuel <;> rfl
        · rename_i more
          have spaced : shown (32 :: quoteAll texts) = 32 :: shown (quoteAll texts) :=
            takeWhile_cons_of_pos (by decide)
          rw [spaced, length_cons] at enough
          obtain ⟨fuel, rfl⟩ : ∃ less, fuel = less + 1 := ⟨fuel - 1, by omega⟩
          rw [if_neg more, spaced]
          exact (if_pos rfl).trans (ih fuel (by omega))
      rw [shown_append whole]
      change tokensFrom (fuel + 1) (34 :: (doubled text ++ [34] ++ shown rest)) = _
      rw [append_assoc, singleton_append, tokensFrom, if_neg (by decide), if_pos rfl,
        readString_doubled text (shown rest) closed]
      dsimp only
      rw [left]
      by_cases others : ∀ text ∈ texts, 0 ∉ text
      · rw [if_pos others, if_pos (forall_mem_cons (p := fun text => 0 ∉ text).mpr ⟨zero, others⟩)]
        rfl
      · rw [if_neg others,
          if_neg fun all => others (forall_mem_cons (p := fun text => 0 ∉ text).mp all).2]
        rfl

/-- Quoted texts are read back as what they quote exactly when none of them holds a zero. -/
theorem tokens_quoteAll (texts : List JsString) : tokens (quoteAll texts) =
    if ∀ text ∈ texts, 0 ∉ text then .ok (texts.map .literal) else .error .unterminated :=
  tokensFrom_quoteAll texts _ (Nat.le_refl _)

end Foundation.Fts5
