import Mathlib.Data.List.DropRight
import Vortex.Foundation.JsText

/-!
# References to URLs

Whose authority `new URL(input, base)` takes, for a base of the scheme `http` or `https`: the one
of the base, or one the input names after two slashes, where a backslash is a slash and tabs and
line breaks count for nothing. The parser of authorities is a parameter.
-/

namespace Foundation.Url

/-- An origin of the web. A port is missing when it is the one of the scheme. -/
structure WebOrigin where
  scheme : JsString
  host : JsString
  port : Option Nat
  web : scheme = js "http" ∨ scheme = js "https"

/-! ## The basic parser, as far as the authority -/

/-- A C0 control or a space. -/
def isControl (unit : UInt16) : Bool := unit ≤ 32

def isTabOrNewline (unit : UInt16) : Bool := unit = 9 || unit = 10 || unit = 13

/-- The input without what the parser removes before it begins. -/
def clean (input : JsString) : JsString :=
  ((input.dropWhile isControl).rdropWhile isControl).filter (!isTabOrNewline ·)

/-- A slash of a URL with a special scheme. -/
def isSlash (unit : UInt16) : Bool := unit = 47 || unit = 92

def isAlpha (unit : UInt16) : Bool := (65 ≤ unit && unit ≤ 90) || (97 ≤ unit && unit ≤ 122)

def isSchemeUnit (unit : UInt16) : Bool :=
  isAlpha unit || (48 ≤ unit && unit ≤ 57) || unit = 43 || unit = 45 || unit = 46

def lowerUnit (unit : UInt16) : UInt16 := if 65 ≤ unit && unit ≤ 90 then unit + 32 else unit

/-- The special schemes but `file`. -/
def isSpecial (scheme : JsString) : Bool :=
  [js "ftp", js "http", js "https", js "ws", js "wss"].contains scheme

/-- The scheme an input begins with, and what follows its colon. -/
def schemeOf (input : JsString) : Option (JsString × JsString) :=
  let name := input.takeWhile isSchemeUnit
  let rest := input.dropWhile isSchemeUnit
  if name.head?.any isAlpha && rest.head? = some 58 then some (name.map lowerUnit, rest.tail)
  else none

/-- What ends an authority. -/
def endsAuthority (unit : UInt16) : Bool := isSlash unit || unit = 63 || unit = 35

/-- The text of the authority after any slashes. -/
def authorityOf (input : JsString) : JsString :=
  (input.dropWhile isSlash).takeWhile (!endsAuthority ·)

inductive Reference
  /-- The authority of the base. -/
  | base
  /-- An authority of the input. -/
  | authority (scheme text : JsString)
  /-- A URL of another kind, whose origin is no origin of the web. -/
  | foreign

/-- What the input means after a scheme it shares with the base, or without one. -/
def relative (scheme input : JsString) : Reference :=
  if (input.take 2).length = 2 ∧ (input.take 2).all isSlash then
    .authority scheme (authorityOf input)
  else .base

def reference (baseScheme input : JsString) : Reference :=
  match schemeOf input with
  | none => relative baseScheme input
  | some (scheme, rest) =>
      if scheme = baseScheme then relative baseScheme rest
      else if isSpecial scheme then .authority scheme (authorityOf rest)
      else .foreign

/-- The host and the port that the text of an authority names, if it names any. -/
abbrev AuthorityParser : Type := (scheme text : JsString) → Option (JsString × Option Nat)

/-- `new URL(input, base.origin).origin === base.origin`; it is not when there is no such URL. -/
def sameOrigin (parseAuthority : AuthorityParser) (input : JsString) (base : WebOrigin) : Bool :=
  match reference base.scheme (clean input) with
  | .base => true
  | .authority scheme text =>
      scheme = base.scheme && parseAuthority scheme text = some (base.host, base.port)
  | .foreign => false

/-! ## Inputs that begin with a slash -/

/-- Two slashes that nothing which counts stands before or between. -/
def Slashed (text : JsString) : Prop :=
  ∃ unit rest, text.filter (!isTabOrNewline ·) = 47 :: unit :: rest ∧ isSlash unit = true

section Slash

variable {scheme rest text : JsString}

theorem schemeOf_slash : schemeOf (47 :: rest) = none := by
  have name : (47 :: rest : JsString).takeWhile isSchemeUnit = [] :=
    List.takeWhile_cons_of_neg (by decide)
  simp [schemeOf, name]

theorem authorityOf_slash : authorityOf (47 :: rest) = authorityOf rest := by
  rw [authorityOf, List.dropWhile_cons_of_pos (by decide), authorityOf]

theorem reference_slash :
    reference scheme (47 :: rest) =
      if rest.head?.any isSlash then .authority scheme (authorityOf rest) else .base := by
  have first : isSlash 47 = true := rfl
  rw [reference, schemeOf_slash]
  cases rest with
  | nil => rfl
  | cons unit rest =>
    cases second : isSlash unit with
    | true => simp [relative, first, second, authorityOf_slash]
    | false => simp [relative, first, second]

/-- Controls at the end are neither of two slashes. -/
theorem clean_slash (rest : JsString) :
    ∃ after, clean (47 :: rest) = 47 :: after ∧
      (after.head?.any isSlash = true ↔ Slashed (47 :: rest)) := by
  have visible : ∀ unit, isSlash unit = true → isControl unit = false := by
    intro unit slash
    rcases Bool.or_eq_true_iff.mp slash with same | same
    · rw [of_decide_eq_true same]
      decide
    · rw [of_decide_eq_true same]
      decide
  have kept : (47 :: rest : JsString).dropWhile isControl = 47 :: rest :=
    List.dropWhile_cons_of_neg (by decide)
  have parts : (47 :: rest : JsString).rdropWhile isControl ++ (47 :: rest).rtakeWhile isControl =
      47 :: rest := List.rdropWhile_append_rtakeWhile
  have controls : ∀ unit ∈ (47 :: rest : JsString).rtakeWhile isControl, isControl unit = true :=
    fun _ member => List.mem_rtakeWhile_imp member
  unfold clean Slashed
  rw [kept]
  generalize (47 :: rest : JsString).rtakeWhile isControl = ending at parts controls
  generalize (47 :: rest : JsString).rdropWhile isControl = stripped at parts
  cases stripped with
  | nil =>
    rw [List.nil_append] at parts
    rw [parts] at controls
    cases controls 47 List.mem_cons_self
  | cons unit middle =>
    obtain ⟨rfl, rfl⟩ := List.cons.inj parts
    refine ⟨middle.filter (!isTabOrNewline ·), rfl, ?_⟩
    have whole : (47 :: middle.append ending : JsString).filter (!isTabOrNewline ·) =
        47 :: (middle.filter (!isTabOrNewline ·) ++ ending.filter (!isTabOrNewline ·)) := by
      rw [List.filter_cons_of_pos (by decide), List.append_eq, List.filter_append]
    rw [whole]
    cases middle.filter (!isTabOrNewline ·) with
    | nil =>
      refine iff_of_false nofun ?_
      rintro ⟨unit, after, same, slash⟩
      have member : unit ∈ ending.filter (!isTabOrNewline ·) := by
        rw [← List.nil_append (ending.filter _), (List.cons.inj same).2]
        exact List.mem_cons_self
      have control := controls unit (List.mem_filter.mp member).1
      rw [visible unit slash] at control
      cases control
    | cons unit after =>
      constructor
      · intro slash
        exact ⟨unit, _, rfl, slash⟩
      · rintro ⟨other, later, same, slash⟩
        obtain ⟨rfl, -⟩ := List.cons.inj (List.cons.inj same).2
        exact slash

/-- A path stays on the origin of the base, and what has two slashes does when it names it. -/
theorem sameOrigin_slash (parseAuthority : AuthorityParser) (base : WebOrigin) :
    sameOrigin parseAuthority (47 :: rest) base = true ↔ (Slashed (47 :: rest) →
        parseAuthority base.scheme (authorityOf (clean (47 :: rest))) =
          some (base.host, base.port)) := by
  obtain ⟨after, cleaned, slashed⟩ := clean_slash rest
  rw [sameOrigin, cleaned, reference_slash, authorityOf_slash]
  by_cases second : after.head?.any isSlash = true
  · rw [if_pos second]
    simp only [decide_true, Bool.true_and, decide_eq_true_eq]
    exact ⟨fun named _ => named, fun named => named (slashed.mp second)⟩
  · rw [if_neg second]
    exact iff_of_true rfl fun two => absurd (slashed.mpr two) second

/-- What has two slashes leaves an origin. -/
theorem exists_not_sameOrigin (parseAuthority : AuthorityParser) (slashed : Slashed (47 :: rest)) :
    ∃ base, ¬ sameOrigin parseAuthority (47 :: rest) base = true := by
  by_contra! every
  have named (host : JsString) :
      parseAuthority (js "https") (authorityOf (clean (47 :: rest))) = some (host, none) :=
    (sameOrigin_slash parseAuthority ⟨js "https", host, none, .inr rfl⟩).mp (every _) slashed
  have same := (named (js "a.example")).symm.trans (named (js "b.example"))
  exact absurd same (by decide)

end Slash

end Foundation.Url
