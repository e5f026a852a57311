import Mathlib.Data.List.Infix
import Vortex.Foundation.Url

/-!
# Redirects after an OAuth callback

`sanitizeNextPath` looks at the raw text, and `new URL` at what is left of it without tabs and line
breaks, where a backslash is a slash. A text in which only the second finds two slashes at the
beginning names a host of its own.
-/

namespace Vortex.Web.Redirects

open Foundation
open Foundation.Url

/-- `/^\/(?!\/)/.test(raw)` -/
def isLocalPath (raw : JsString) : Bool := raw.head? = some 47 && raw.tail.head? ≠ some 47

/-- A path, or `/` in place of what is none. -/
def sanitizeNextPath (raw : JsString) : JsString :=
  if raw.isEmpty || !isLocalPath raw || js "://" <:+: raw then js "/" else raw

/-- Whether `buildRedirect(base, nextPath, status)` leads to the origin of the base; the parameter
it sets is in the query. -/
def redirectsHome (parseAuthority : AuthorityParser) (base : WebOrigin) (nextPath : JsString) :
    Bool :=
  sameOrigin parseAuthority (sanitizeNextPath nextPath) base

/-- A text the check lets through although a parser finds two slashes at its beginning. -/
structure Escapes (raw : JsString) : Prop where
  isLocalPath : isLocalPath raw = true
  relative : ¬ js "://" <:+: raw
  slashed : Slashed raw

section Sanitize

variable {raw : JsString} {base : WebOrigin} {parseAuthority : AuthorityParser}

/-- A text is replaced, or is a path the check lets through. -/
theorem sanitizeNextPath_cases (raw : JsString) :
    (sanitizeNextPath raw = [47] ∧ ¬ Escapes raw) ∨
      ∃ rest, raw = 47 :: rest ∧ sanitizeNextPath raw = 47 :: rest ∧
        (Escapes raw ↔ Slashed (47 :: rest)) := by
  unfold sanitizeNextPath
  by_cases refused : (raw.isEmpty || !isLocalPath raw || js "://" <:+: raw) = true
  · refine .inl ⟨if_pos refused, fun escapes => ?_⟩
    simp only [Bool.or_eq_true, Bool.not_eq_true', decide_eq_true_eq, List.isEmpty_iff] at refused
    rcases refused with (rfl | other) | absolute
    · cases escapes.isLocalPath
    · cases other.symm.trans escapes.isLocalPath
    · exact escapes.relative absolute
  · rw [if_neg refused]
    simp only [Bool.or_eq_true, Bool.not_eq_true', decide_eq_true_eq, not_or,
      Bool.not_eq_false] at refused
    obtain ⟨⟨-, path⟩, relative⟩ := refused
    obtain ⟨rest, rfl⟩ := List.head?_eq_some_iff.mp
      (of_decide_eq_true (Bool.and_eq_true_iff.mp path).1)
    exact .inr ⟨rest, rfl, rfl, Escapes.slashed, fun slashed => ⟨path, relative, slashed⟩⟩

/-- The path `/` has no second slash. -/
theorem redirectsHome_slash : ¬ Slashed [47] := by
  rintro ⟨unit, rest, same, -⟩
  cases same

/-- A redirect stays on its origin when the text does not escape the check, or names this origin. -/
theorem redirectsHome_iff (parseAuthority : AuthorityParser) (raw : JsString) :
    (∀ base, redirectsHome parseAuthority base raw = true ↔
      (Escapes raw →
        parseAuthority base.scheme (authorityOf (clean raw)) = some (base.host, base.port))) ∧
      ((∀ base, redirectsHome parseAuthority base raw = true) ↔ ¬ Escapes raw) := by
  rcases sanitizeNextPath_cases raw with ⟨replaced, fine⟩ | ⟨rest, rfl, kept, escapes⟩
  · have home (base : WebOrigin) : redirectsHome parseAuthority base raw = true := by
      rw [redirectsHome, replaced, sameOrigin_slash]
      exact fun slashed => absurd slashed redirectsHome_slash
    exact ⟨fun base => iff_of_true (home base) fun bad => absurd bad fine, iff_of_true home fine⟩
  · unfold redirectsHome
    rw [kept, escapes]
    refine ⟨sameOrigin_slash parseAuthority, ?_, ?_⟩
    · intro home slashed
      obtain ⟨base, away⟩ := exists_not_sameOrigin parseAuthority slashed
      exact away (home base)
    · intro fine base
      exact (sameOrigin_slash parseAuthority base).mpr fun slashed => absurd slashed fine

end Sanitize

namespace Sample

/-- A parser for hosts of lower-case letters and points. -/
def parseAuthority : AuthorityParser := fun _ text =>
  if text ≠ [] ∧ text.all fun unit => (97 ≤ unit && unit ≤ 122) || unit = 46 then some (text, none)
  else none

def home : WebOrigin := ⟨js "https", js "home.example", none, .inr rfl⟩

end Sample

/-- A backslash after the first slash leads to another host. -/
theorem backslash_leaves :
    ¬ redirectsHome Sample.parseAuthority Sample.home (js "/\\evil.example") = true := by
  decide +kernel

end Vortex.Web.Redirects
