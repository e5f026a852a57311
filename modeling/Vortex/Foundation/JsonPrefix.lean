import Vortex.Foundation.JsonText

/-!
# JSON texts cut short

A value that ends before its text does is read the same way whatever else follows
(`Foundation.Json.parseValue_append`). So a text that goes on after an object is no
text of that object, and an object's text without its end is no text at all
(`Foundation.Json.parse_cut`).
-/

variable {text : JsString} {parsed : JsString × JsString}

namespace Foundation

open List

namespace JsString

/-- A string literal ends at its closing quote. -/
theorem parseChars_append (read : parseChars text = some parsed) (more : JsString) :
    parseChars (text ++ more) = some (parsed.1, parsed.2 ++ more) := by
  induction text using parseChars.induct generalizing parsed with
  | case1 => cases read
  | case2 rest =>
    rw [parseChars_quote] at read
    cases read
    exact parseChars_quote (rest ++ more)
  | case3 => cases read
  | case4 first second third fourth rest quote ih =>
    cases known : hexUnit first second third fourth with
    | none =>
      rw [parseChars.eq_def] at read
      simp [known] at read
    | some escaped =>
      rw [parseChars_unicode known] at read
      obtain ⟨inner, inside, rfl⟩ := Option.map_eq_some_iff.mp read
      simp only [cons_append, parseChars_unicode known, ih inside, Option.map_some]
  | case5 rest quote short =>
    rw [parseChars.eq_def] at read
    simp [short] at read
  | case6 letter rest different quote ih =>
    cases known : simpleEscape letter with
    | none =>
      rw [parseChars.eq_def] at read
      simp [known, different] at read
    | some escaped =>
      rw [parseChars_simple different known] at read
      obtain ⟨inner, inside, rfl⟩ := Option.map_eq_some_iff.mp read
      simp only [cons_append, parseChars_simple different known, ih inside, Option.map_some]
  | case7 unit rest quote backslash control =>
    rw [parseChars.eq_def] at read
    simp [quote, backslash, control] at read
  | case8 unit rest quote backslash printable ih =>
    rw [parseChars_plain quote backslash printable] at read
    obtain ⟨inner, inside, rfl⟩ := Option.map_eq_some_iff.mp read
    simp only [cons_append, parseChars_plain quote backslash printable, ih inside, Option.map_some]

end JsString

namespace Json

open JsString

/-! ## What follows a value -/

theorem skipSpace_append {rest : JsString} {unit : UInt16} (visible : skipSpace text = unit :: rest)
    (more : JsString) : skipSpace (text ++ more) = unit :: (rest ++ more) := by
  unfold skipSpace at visible ⊢
  rw [dropWhile_append, visible]
  rfl

/-- What is read after spaces has a first character. -/
theorem visible_of_read {α : Type} {read : UInt16 → JsString → Option α} {found : α}
    (succeeds : (match skipSpace text with
      | [] => none
      | unit :: rest => read unit rest) = some found) :
    ∃ unit rest, skipSpace text = unit :: rest ∧ read unit rest = some found := by
  cases visible : skipSpace text with
  | nil =>
    rw [visible] at succeeds
    cases succeeds
  | cons unit rest =>
    rw [visible] at succeeds
    exact ⟨unit, rest, rfl, succeeds⟩

theorem span_append {stays : UInt16 → Bool} {before after : JsString}
    (split : text.span stays = (before, after)) (stopped : after ≠ []) (more : JsString) :
    (text ++ more).span stays = (before, after ++ more) := by
  rw [span_eq_takeWhile_dropWhile] at split ⊢
  obtain ⟨rfl, rfl⟩ := Prod.mk.inj split
  have filled : (text.dropWhile stays).isEmpty = false := by
    simpa using stopped
  have shorter : (text.takeWhile stays).length ≠ text.length := by
    intro same
    have whole := congrArg List.length (takeWhile_append_dropWhile (p := stays) (l := text))
    rw [length_append, same] at whole
    exact stopped (length_eq_zero_iff.mp (by omega))
  rw [takeWhile_append, if_neg shorter, dropWhile_append, filled]
  rfl

theorem parseExponent_append (read : parseExponent text = some parsed) (stopped : parsed.2 ≠ [])
    (more : JsString) : parseExponent (text ++ more) = some (parsed.1, parsed.2 ++ more) := by
  cases text with
  | nil =>
    cases read
    exact absurd rfl stopped
  | cons unit rest =>
    rw [cons_append, parseExponent]
    rw [parseExponent] at read
    by_cases marked : (unit = 101 || unit = 69) = true
    · rw [if_pos marked] at read ⊢
      rcases signs : rest.span (fun unit => unit = 43 || unit = 45) with ⟨sign, unsigned⟩
      rcases numerals : unsigned.span isDigit with ⟨digits, after⟩
      simp only [signs, numerals] at read
      by_cases literal : (sign.length ≤ 1 && !digits.isEmpty) = true
      · rw [if_pos literal] at read
        cases read
        have unfinished : unsigned ≠ [] := by
          rintro rfl
          obtain ⟨-, rfl⟩ := Prod.mk.inj numerals
          exact stopped rfl
        simp only [span_append signs unfinished, span_append numerals stopped, if_pos literal]
      · rw [if_neg literal] at read
        cases read
    · rw [if_neg marked] at read ⊢
      cases read
      rfl

theorem parseFraction_append (read : parseFraction text = some parsed) (stopped : parsed.2 ≠ [])
    (more : JsString) : parseFraction (text ++ more) = some (parsed.1, parsed.2 ++ more) := by
  cases text with
  | nil =>
    cases read
    exact absurd rfl stopped
  | cons unit rest =>
    rw [cons_append, parseFraction]
    rw [parseFraction] at read
    by_cases point : unit = 46
    · rw [if_pos point] at read ⊢
      rcases numerals : rest.span isDigit with ⟨digits, after⟩
      simp only [numerals] at read
      by_cases none_taken : digits.isEmpty = true
      · rw [if_pos none_taken] at read
        cases read
      · rw [if_neg none_taken] at read
        cases read
        simp only [span_append numerals stopped, if_neg none_taken]
    · rw [if_neg point] at read ⊢
      cases read
      rfl

/-- A number that ends before its text does ends there whatever follows. -/
theorem parseNumber_append (read : parseNumber text = some parsed) (stopped : parsed.2 ≠ [])
    (more : JsString) : parseNumber (text ++ more) = some (parsed.1, parsed.2 ++ more) := by
  obtain ⟨unit, tail, rfl, -⟩ := head_of_parseNumber read
  rw [cons_append, parseNumber]
  rw [parseNumber] at read
  have signs : ∃ signed : JsString × JsString,
      (if (unit :: tail).head? = some 45 then (([45] : JsString), (unit :: tail).tail)
        else ([], unit :: tail)) = signed ∧
      (if (unit :: (tail ++ more)).head? = some 45 then
          (([45] : JsString), (unit :: (tail ++ more)).tail)
        else ([], unit :: (tail ++ more))) = (signed.1, signed.2 ++ more) := by
    by_cases minus : unit = 45 <;> simp [minus]
  obtain ⟨signed, before, after_more⟩ := signs
  rw [before] at read
  rw [after_more]
  rcases numerals : signed.2.span isDigit with ⟨digits, after⟩
  simp only [numerals] at read
  by_cases malformed : (digits.isEmpty || (1 < digits.length && digits.head? = some 48)) = true
  · rw [if_pos malformed] at read
    cases read
  · rw [if_neg malformed] at read
    obtain ⟨⟨fraction, after_fraction⟩, fractional, read⟩ := Option.bind_eq_some_iff.mp read
    obtain ⟨⟨exponent, rest⟩, exponential, read⟩ := Option.bind_eq_some_iff.mp read
    cases read
    have unfinished : after_fraction ≠ [] := by
      rintro rfl
      obtain ⟨-, rfl⟩ := Prod.mk.inj (Option.some.inj exponential)
      exact stopped rfl
    have pending : after ≠ [] := by
      rintro rfl
      obtain ⟨-, rfl⟩ := Prod.mk.inj (Option.some.inj fractional)
      exact unfinished rfl
    simp only [span_append numerals pending, if_neg malformed,
      parseFraction_append fractional unfinished, parseExponent_append exponential stopped,
      Option.bind_eq_bind, Option.bind_some]
    rfl

theorem parseKeyword_append_more {keyword : JsString} {value : Json} {parsed : Json × JsString}
    (read : parseKeyword keyword value text = some parsed) (more : JsString) :
    parseKeyword keyword value (text ++ more) = some (parsed.1, parsed.2 ++ more) := by
  unfold parseKeyword at read
  by_cases opens : keyword.isPrefixOf text = true
  · rw [if_pos opens] at read
    cases read
    obtain ⟨rest, rfl⟩ := isPrefixOf_iff_prefix.mp opens
    rw [append_assoc, parseKeyword_append, drop_left]
  · rw [if_neg opens] at read
    cases read

/-! ## Reading goes on the same way -/

mutual

/-- A value is read the same way whatever follows, and however much nesting is allowed;
a number only when something stands behind it already. -/
theorem parseValue_append {fuel : Nat} {text : JsString} {parsed : Json × JsString}
    (read : parseValue fuel text = some parsed)
    (ends : parsed.2 = [] → ∀ number, parsed.1 ≠ .num number) {larger : Nat}
    (enough : fuel ≤ larger) (more : JsString) :
    parseValue larger (text ++ more) = some (parsed.1, parsed.2 ++ more) := by
  cases fuel with
  | zero => cases read
  | succ fuel =>
    obtain ⟨larger, rfl⟩ : ∃ less, larger = less + 1 := ⟨larger - 1, by omega⟩
    rw [parseValue] at read ⊢
    obtain ⟨unit, rest, visible, read⟩ := visible_of_read read
    rw [skipSpace_append visible]
    dsimp only
    by_cases quoted : unit = 34
    · rw [if_pos quoted] at read ⊢
      obtain ⟨inner, inside, rfl⟩ := Option.map_eq_some_iff.mp read
      rw [parseChars_append inside]
      rfl
    rw [if_neg quoted] at read ⊢
    by_cases bracket : unit = 91
    · rw [if_pos bracket] at read ⊢
      obtain ⟨next, after, following, read⟩ := visible_of_read read
      rw [skipSpace_append following]
      dsimp only
      by_cases closed : next = 93
      · rw [if_pos closed] at read ⊢
        cases read
        rfl
      · rw [if_neg closed] at read ⊢
        obtain ⟨inner, inside, rfl⟩ := Option.map_eq_some_iff.mp read
        rw [← cons_append, parseItems_append inside (by omega)]
        rfl
    rw [if_neg bracket] at read ⊢
    by_cases brace : unit = 123
    · rw [if_pos brace] at read ⊢
      obtain ⟨next, after, following, read⟩ := visible_of_read read
      rw [skipSpace_append following]
      dsimp only
      by_cases closed : next = 125
      · rw [if_pos closed] at read ⊢
        cases read
        rfl
      · rw [if_neg closed] at read ⊢
        obtain ⟨inner, inside, rfl⟩ := Option.map_eq_some_iff.mp read
        rw [← cons_append, parseMembers_append inside (by omega)]
        rfl
    rw [if_neg brace] at read ⊢
    rw [← cons_append]
    by_cases nothing : unit = 110
    · rw [if_pos nothing] at read ⊢
      exact parseKeyword_append_more read more
    rw [if_neg nothing] at read ⊢
    by_cases yes : unit = 116
    · rw [if_pos yes] at read ⊢
      exact parseKeyword_append_more read more
    rw [if_neg yes] at read ⊢
    by_cases no : unit = 102
    · rw [if_pos no] at read ⊢
      exact parseKeyword_append_more read more
    rw [if_neg no] at read ⊢
    obtain ⟨inner, inside, rfl⟩ := Option.map_eq_some_iff.mp read
    rw [parseNumber_append inside (fun nothing => ends nothing _ rfl)]
    rfl

theorem parseItems_append {fuel : Nat} {text : JsString} {parsed : List Json × JsString}
    (read : parseItems fuel text = some parsed) {larger : Nat} (enough : fuel ≤ larger)
    (more : JsString) : parseItems larger (text ++ more) = some (parsed.1, parsed.2 ++ more) := by
  cases fuel with
  | zero => cases read
  | succ fuel =>
    obtain ⟨larger, rfl⟩ : ∃ less, larger = less + 1 := ⟨larger - 1, by omega⟩
    rw [parseItems] at read ⊢
    obtain ⟨⟨item, after⟩, first, read⟩ := Option.bind_eq_some_iff.mp read
    obtain ⟨unit, rest, following, read⟩ := visible_of_read read
    have filled : after ≠ [] := by
      rintro rfl
      cases following
    rw [parseValue_append first (fun nothing => absurd nothing filled) (by omega)]
    simp only [Option.bind_eq_bind, Option.bind_some, skipSpace_append following]
    dsimp only at read
    by_cases closed : unit = 93
    · rw [if_pos closed] at read ⊢
      cases read
      rfl
    · rw [if_neg closed] at read ⊢
      by_cases comma : unit = 44
      · rw [if_pos comma] at read ⊢
        obtain ⟨⟨items, tail⟩, others, read⟩ := Option.bind_eq_some_iff.mp read
        cases read
        rw [parseItems_append others (by omega)]
        rfl
      · rw [if_neg comma] at read
        cases read

theorem parseMembers_append {fuel : Nat} {text : JsString}
    {parsed : List (JsString × Json) × JsString} (read : parseMembers fuel text = some parsed)
    {larger : Nat} (enough : fuel ≤ larger) (more : JsString) :
    parseMembers larger (text ++ more) = some (parsed.1, parsed.2 ++ more) := by
  cases fuel with
  | zero => cases read
  | succ fuel =>
    obtain ⟨larger, rfl⟩ : ∃ less, larger = less + 1 := ⟨larger - 1, by omega⟩
    rw [parseMembers] at read ⊢
    obtain ⟨unit, rest, visible, read⟩ := visible_of_read read
    rw [skipSpace_append visible]
    dsimp only
    by_cases quoted : unit = 34
    · rw [if_pos quoted] at read ⊢
      obtain ⟨⟨name, named⟩, naming, read⟩ := Option.bind_eq_some_iff.mp read
      rw [parseChars_append naming]
      simp only [Option.bind_eq_bind, Option.bind_some]
      obtain ⟨colon, valued, separated, read⟩ := visible_of_read read
      rw [skipSpace_append separated]
      dsimp only
      by_cases is_colon : colon = 58
      · rw [if_pos is_colon] at read ⊢
        obtain ⟨⟨value, after⟩, valuing, read⟩ := Option.bind_eq_some_iff.mp read
        obtain ⟨next, last, following, read⟩ := visible_of_read read
        have filled : after ≠ [] := by
          rintro rfl
          cases following
        rw [parseValue_append valuing (fun nothing => absurd nothing filled) (by omega)]
        simp only [Option.bind_some, skipSpace_append following]
        dsimp only at read
        by_cases closed : next = 125
        · rw [if_pos closed] at read ⊢
          cases read
          rfl
        · rw [if_neg closed] at read ⊢
          by_cases comma : next = 44
          · rw [if_pos comma] at read ⊢
            obtain ⟨⟨members, tail⟩, others, read⟩ :=
              Option.bind_eq_some_iff.mp read
            cases read
            rw [parseMembers_append others (by omega)]
            rfl
          · rw [if_neg comma] at read
            cases read
      · rw [if_neg is_colon] at read
        cases read
    · rw [if_neg quoted] at read
      cases read

end

/-! ## Cut texts -/

/-- What is read from a text that opens with a brace is an object. -/
theorem obj_of_parseValue {fuel : Nat} {rest : JsString} {parsed : Json × JsString}
    (read : parseValue fuel (123 :: rest) = some parsed) : ∃ members, parsed.1 = .obj members := by
  cases fuel with
  | zero => cases read
  | succ fuel =>
    rw [parseValue, skipSpace_cons (by decide)] at read
    dsimp only at read
    rw [if_neg (by decide), if_neg (by decide), if_pos rfl] at read
    obtain ⟨next, after, -, read⟩ := visible_of_read read
    by_cases closed : next = 125
    · rw [if_pos closed] at read
      cases read
      exact ⟨_, rfl⟩
    · rw [if_neg closed] at read
      obtain ⟨inner, -, rfl⟩ := Option.map_eq_some_iff.mp read
      exact ⟨_, rfl⟩

/-- The text of an object without its end cannot be read. -/
theorem parse_cut {members : List (JsString × Json)} (printable : Printable (.obj members))
    {before after : JsString} (cut : stringify (.obj members) = before ++ after)
    (opened : before ≠ []) (unfinished : after ≠ []) : parse before = none := by
  obtain ⟨unit, rest, rfl⟩ := exists_cons_of_ne_nil opened
  have brace : unit = 123 := by
    rw [stringify, cons_append] at cut
    exact (cons.inj cut).1.symm
  subst brace
  unfold parse
  cases read : parseValue ((123 :: rest).length + 1) (123 :: rest) with
  | none => rfl
  | some parsed =>
    exfalso
    obtain ⟨found, object⟩ := obj_of_parseValue read
    have longer : (123 :: rest).length + 1 ≤ (stringify (.obj members)).length + 1 := by
      rw [cut, length_append]
      omega
    have onward := parseValue_append read
      (fun _ number same => Json.noConfusion (object.symm.trans same)) longer after
    have whole := parseValue_stringify (.obj members) printable
      ((stringify (.obj members)).length + 1) (by omega) [] terminated_nil
    rw [append_nil] at whole
    rw [← cut, whole] at onward
    have nothing := (Prod.mk.inj (Option.some.inj onward)).2
    exact unfinished (append_eq_nil_iff.mp nothing.symm).2

end Json

end Foundation
