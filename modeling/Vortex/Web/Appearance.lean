import Vortex.Foundation.Pattern
import Vortex.Foundation.Url
import Vortex.Gateway.Messages

/-!
# Appearance settings

A stylesheet is sanitized where it is set, where the settings of an account are merged and where
they are sent. What takes the place of a blocked URL is a `data:` URL of a type that is not allowed,
which the last replacement finds again.
-/

namespace Vortex.Web.Appearance

open Foundation List
open Foundation.Url (lowerUnit)
open Vortex.Gateway (isWhiteSpace trim)

/-! ## The stylesheet -/

/-- A word of a pattern that ignores case: no unit above 127 stands for a letter below. -/
def word (text : String) : List (Piece UInt16) :=
  (js text).map fun letter => .one (lowerUnit · = letter)

def isQuote (unit : UInt16) : Bool := unit = 34 || unit = 39

/-- `/expression\s*\(/gi` -/
def expressionCall : Pattern UInt16 where
  first := (lowerUnit · = 101)
  others := word "xpression" ++ [.many isWhiteSpace, .one (· = 40)]
  closed := by decide

/-- `-moz-binding\s*:` with the same flags. -/
def mozBinding : Pattern UInt16 where
  first := (· = 45)
  others := word "moz-binding" ++ [.many isWhiteSpace, .one (· = 58)]
  closed := by decide

/-- `/behavior\s*:/gi` -/
def behavior : Pattern UInt16 where
  first := (lowerUnit · = 98)
  others := word "ehavior" ++ [.many isWhiteSpace, .one (· = 58)]
  closed := by decide

/-- What follows the first letter of `/url\s*\(\s*(['"]?)/gi`. -/
def urlOpening : List (Piece UInt16) :=
  word "rl" ++ [.many isWhiteSpace, .one (· = 40), .many isWhiteSpace, .optional isQuote]

/-- `/url\s*\(\s*(['"]?)javascript:/gi` -/
def javascriptUrl : Pattern UInt16 where
  first := (lowerUnit · = 117)
  others := urlOpening ++ word "javascript:"
  closed := by decide

/-- `/url\s*\(\s*(['"]?)data:/gi` -/
def dataUrl : Pattern UInt16 where
  first := (lowerUnit · = 117)
  others := urlOpening ++ word "data:"
  closed := by decide

/-- The types a `data:` URL may have, or begin with. -/
def allowedTypes : List JsString :=
  [js "image/", js "font/", js "application/font", js "application/x-font"]

/-- `/^(image\/|font\/|application\/font|application\/x-font)/i` -/
def isAllowedType (rest : JsString) : Bool := allowedTypes.any (·.isPrefixOf (rest.map lowerUnit))

def placeholder : JsString := js "text/plain,blocked"

/-- `url($1data:text/plain,blocked`: the only quote in a match is the group. -/
def blockedUrl (matched : JsString) : JsString :=
  js "url(" ++ (matched.find? isQuote).toList ++ js "data:" ++ placeholder

/-- The replacements for what is never allowed. -/
def blocking : List (Rule UInt16) :=
  [⟨expressionCall, fun _ => true, fun _ => js "/* blocked:expression */("⟩,
    ⟨mozBinding, fun _ => true, fun _ => js "/* blocked */:"⟩,
    ⟨behavior, fun _ => true, fun _ => js "/* blocked */:"⟩,
    ⟨javascriptUrl, fun _ => true, blockedUrl⟩]

/-- The replacement for `data:` URLs of other types. -/
def blockingData : Rule UInt16 := ⟨dataUrl, fun rest => !isAllowedType rest, blockedUrl⟩

def MAX_CSS_LENGTH : Nat := 50000

def sanitizeCustomCss : Json → JsString
  | .str value => (Rule.replaceAll (blocking ++ [blockingData]) value).take MAX_CSS_LENGTH
  | _ => []

/-- The sanitized text has no more than what is behind `url(data:` in it. -/
def Harmless (rest : JsString) : Prop := isAllowedType rest = true ∨ placeholder <+: rest

/-- What stands in place of a URL, with the quote it begins with. -/
def blockedUrls : List JsString :=
  [[], [34], [39]].map fun quote => js "url(" ++ quote ++ js "data:" ++ placeholder

section Sanitize

variable {text : JsString}

theorem blockedUrl_mem (matched : JsString) : blockedUrl matched ∈ blockedUrls := by
  refine mem_map.mpr ⟨(matched.find? isQuote).toList, ?_, rfl⟩
  cases found : matched.find? isQuote with
  | none => exact mem_cons_self
  | some unit =>
    have quoted := find?_some found
    rw [isQuote, Bool.or_eq_true, decide_eq_true_eq, decide_eq_true_eq] at quoted
    rcases quoted with rfl | rfl
    · exact .tail _ (.head _)
    · exact .tail _ (.tail _ (.head _))

/-- What is never allowed neither begins in a chunk nor reaches into it. -/
theorem settled_of_mem_blocking {pattern : Pattern UInt16} {chunk : JsString}
    (member : pattern ∈ blocking.map Rule.pattern)
    (inserted : chunk ∈ js "/* blocked:expression */(" :: js "/* blocked */:" :: blockedUrls) :
    pattern.Settled (fun _ => False) chunk := by
  have every : (blocking.map Rule.pattern).all (fun pattern =>
      (js "/* blocked:expression */(" :: js "/* blocked */:" :: blockedUrls).all fun chunk =>
        pattern.keepsOut chunk && pattern.refutesIn chunk) = true := by
    decide
  have here := all_eq_true.mp (all_eq_true.mp every pattern member) chunk inserted
  obtain ⟨foreign, refuted⟩ := Bool.and_eq_true_iff.mp here
  exact Pattern.settled_of_refutesIn foreign refuted

theorem settled_insert {rule : Rule UInt16} {pattern : Pattern UInt16}
    (blocked : pattern ∈ blocking.map Rule.pattern) (member : rule ∈ blocking ++ [blockingData])
    (matched : JsString) : pattern.Settled (fun _ => False) (rule.insert matched) := by
  apply settled_of_mem_blocking blocked
  have url := mem_cons_of_mem (js "/* blocked:expression */(")
    (mem_cons_of_mem (js "/* blocked */:") (blockedUrl_mem matched))
  simp only [blocking, cons_append, nil_append, mem_cons, not_mem_nil, or_false] at member
  rcases member with rfl | rfl | rfl | rfl | rfl
  · exact .head _
  · exact .tail _ (.head _)
  · exact .tail _ (.head _)
  · exact url
  · exact url

/-- What is never allowed is nowhere in a sanitized text. -/
theorem absent_sanitizeCustomCss {pattern : Pattern UInt16}
    (blocked : pattern ∈ blocking.map Rule.pattern) (value : Json) :
    pattern.Absent (sanitizeCustomCss value) := by
  cases value with
  | str text =>
    obtain ⟨rule, member, rfl⟩ := mem_map.mp blocked
    apply Pattern.Absent.take
    apply Rule.absent_replaceAll (mem_append_left _ member)
    · simp only [blocking, mem_cons, not_mem_nil, or_false] at member
      rcases member with rfl | rfl | rfl | rfl <;> exact fun _ => rfl
    · exact fun other => settled_insert blocked
  | null | bool _ | num _ | arr _ | obj _ =>
    intro part rest inside found
    rw [suffix_nil.mp inside] at found
    cases found

/-- A beginning of a text that has a unit outside it ends before this unit. -/
theorem prefix_of_not_mem {start kept rest : JsString} {unit : UInt16} (foreign : unit ∉ start)
    (begins : start <+: kept ++ unit :: rest) : start <+: kept := by
  rcases prefix_or_prefix_of_prefix begins (prefix_append kept (unit :: rest)) with
    inside | ⟨more, rfl⟩
  · exact inside
  · cases more with
    | nil => rw [append_nil]
    | cons first more =>
      obtain ⟨rfl, -⟩ := cons_prefix_cons.mp ((prefix_append_right_inj kept).mp begins)
      exact absurd (mem_append_right kept mem_cons_self) foreign

/-- What is allowed, or the placeholder, has no letter with which a URL begins. -/
theorem Harmless.later {kept part : JsString} (others : JsString)
    (hit : blockingData.find part ≠ none) (harmless : Harmless (kept ++ part)) :
    Harmless (kept ++ others) := by
  obtain ⟨⟨chunk, left⟩, found⟩ := Option.ne_none_iff_exists'.mp hit
  obtain ⟨first, rest, rfl, begins, -⟩ := Pattern.match?_eq_some (Rule.find_eq_some found).1
  have letter : lowerUnit first = 117 := of_decide_eq_true begins
  refine harmless.imp (fun allowed => ?_) fun placed => ?_
  · obtain ⟨start, member, begins⟩ := any_eq_true.mp allowed
    rw [List.isPrefixOf_iff_prefix, map_append, map_cons, letter] at begins
    have foreign : ∀ start ∈ allowedTypes, 117 ∉ start := by decide
    refine any_eq_true.mpr ⟨start, member, ?_⟩
    rw [List.isPrefixOf_iff_prefix, map_append]
    exact (prefix_of_not_mem (foreign start member) begins).trans (prefix_append _ _)
  · have foreign : first ∉ placeholder := by
      have lower : placeholder.all (lowerUnit · ≠ 117) = true := by decide
      exact fun inside => of_decide_eq_true (all_eq_true.mp lower first inside) letter
    exact (prefix_of_not_mem foreign placed).trans (prefix_append kept others)

/-- The only match that begins in what stands in place of a URL is this URL. -/
theorem settled_blockedUrl (matched : JsString) :
    dataUrl.Settled Harmless (blockedUrl matched) := by
  have every : blockedUrls.all (fun chunk => dataUrl.keepsOut chunk &&
      (dataUrl.match? chunk = some placeholder && dataUrl.refutesIn chunk.tail)) = true := by
    decide
  have here := all_eq_true.mp every _ (blockedUrl_mem matched)
  simp only [Bool.and_eq_true, decide_eq_true_eq] at here
  obtain ⟨foreign, whole, refuted⟩ := here
  refine ⟨Pattern.exists_foreign foreign, fun part some within more rest found => ?_⟩
  obtain ⟨first, chunk, same, -⟩ := Pattern.exists_foreign foreign
  rw [same] at whole refuted within
  rcases suffix_cons_iff.mp within with rfl | within
  · rw [Pattern.match?_append whole, Option.some.injEq] at found
    exact .inr (found ▸ prefix_append placeholder more)
  · rw [Pattern.match?_of_refutesIn refuted some within] at found
    cases found

/-- Behind every `url(data:` of a sanitized text is an allowed type or the placeholder, of which
only the beginning is there where the text was cut. -/
theorem guarded_sanitizeCustomCss (value : Json) :
    dataUrl.Guarded (fun rest => ∃ more, Harmless (rest ++ more) ∧
        (more = [] ∨ (sanitizeCustomCss value).length = MAX_CSS_LENGTH))
      (sanitizeCustomCss value) := by
  cases value with
  | str text =>
    apply Pattern.Guarded.take
    rw [Rule.replaceAll, foldl_append]
    apply (Rule.replaced_replace blockingData _).guarded settled_blockedUrl
      fun kept part others => Harmless.later others
    intro part rest inside nothing matched
    have allowed := Rule.follows_of_find_eq_none nothing matched
    exact .inl ((Bool.not_eq_false' _).mp allowed)
  | null | bool _ | num _ | arr _ | obj _ =>
    intro part rest inside found
    rw [suffix_nil.mp inside] at found
    cases found

theorem length_sanitizeCustomCss (value : Json) :
    (sanitizeCustomCss value).length ≤ MAX_CSS_LENGTH := by
  cases value with
  | str text => exact length_take_le _ _
  | null | bool _ | num _ | arr _ | obj _ => exact Nat.zero_le _

/-- A sanitized text without a `data:` URL of another type is not changed again. -/
theorem sanitizeCustomCss_idem (value : Json)
    (allowed : dataUrl.Guarded (isAllowedType · = true) (sanitizeCustomCss value)) :
    sanitizeCustomCss (.str (sanitizeCustomCss value)) = sanitizeCustomCss value := by
  have kept : Rule.replaceAll (blocking ++ [blockingData]) (sanitizeCustomCss value) =
      sanitizeCustomCss value := by
    apply Rule.replaceAll_eq_self
    intro rule member
    rcases mem_append.mp member with member | member
    · have absent := absent_sanitizeCustomCss (mem_map_of_mem member) value
      exact absent.mono fun _ never => never.elim
    · rw [mem_singleton.mp member]
      exact allowed.mono fun rest here => (Bool.not_eq_false' _).mpr here
  rw [sanitizeCustomCss, kept, take_of_length_le (length_sanitizeCustomCss value)]

end Sanitize

/-! ## The store -/

/-- `/^#[0-9a-fA-F]{6}$/.test(text)` -/
def isHexColor (text : JsString) : Bool :=
  text.head? = some 35 && text.tail.length = 6 && text.tail.all fun unit =>
    (48 ≤ unit && unit ≤ 57) || (97 ≤ unit && unit ≤ 102) || (65 ≤ unit && unit ≤ 70)

def sanitizeAccentColor : Json → JsString
  | .str value => if isHexColor (trim value) then trim value else []
  | _ => []

def validateEnum (value : Json) (allowed : List JsString) (fallback : Json) : Json :=
  match value with
  | .str text => if allowed.contains text then .str text else fallback
  | _ => fallback

def validateBool (value fallback : Json) : Json :=
  match value with
  | .bool flag => .bool flag
  | _ => fallback

inductive Field
  | messageDisplay
  | fontScale
  | saturation
  | themePreset
  | reducedMotion
  | timestampFormat
  | customCss
  | fontFamily
  | lineHeight
  | codeFont
  | colorMode
  | chatBubbleStyle
  | messageGrouping
  | emojiSize
  | accentColorOverride
  | highContrast
  | gifAutoplay
  | linkPreviews
  | imagePreviews
  | notificationBadgeStyle
  | focusIndicator
  | syncToAccount
deriving DecidableEq

/-- How the settings of an account are checked. -/
inductive Check
  | enum (allowed : List JsString)
  | bool
  | accentColor
  | css

def Check.run : Check → (value fallback : Json) → Json
  | .enum allowed, value, fallback => validateEnum value allowed fallback
  | .bool, value, fallback => validateBool value fallback
  | .accentColor, value, _ => .str (sanitizeAccentColor value)
  | .css, value, _ => .str (sanitizeCustomCss value)

namespace Field

def name : Field → JsString
  | messageDisplay => js "messageDisplay"
  | fontScale => js "fontScale"
  | saturation => js "saturation"
  | themePreset => js "themePreset"
  | reducedMotion => js "reducedMotion"
  | timestampFormat => js "timestampFormat"
  | customCss => js "customCss"
  | fontFamily => js "fontFamily"
  | lineHeight => js "lineHeight"
  | codeFont => js "codeFont"
  | colorMode => js "colorMode"
  | chatBubbleStyle => js "chatBubbleStyle"
  | messageGrouping => js "messageGrouping"
  | emojiSize => js "emojiSize"
  | accentColorOverride => js "accentColorOverride"
  | highContrast => js "highContrast"
  | gifAutoplay => js "gifAutoplay"
  | linkPreviews => js "linkPreviews"
  | imagePreviews => js "imagePreviews"
  | notificationBadgeStyle => js "notificationBadgeStyle"
  | focusIndicator => js "focusIndicator"
  | syncToAccount => js "syncToAccount"

def check : Field → Check
  | messageDisplay => .enum [js "cozy", js "compact"]
  | fontScale => .enum [js "small", js "normal", js "large"]
  | saturation => .enum [js "normal", js "reduced"]
  | themePreset => .enum [js "twilight", js "midnight-neon", js "synthwave", js "carbon",
      js "oled-black", js "frost", js "clarity", js "velvet-dusk", js "terminal",
      js "sakura-blossom", js "frosthearth", js "night-city-neural"]
  | reducedMotion => .enum [js "system", js "on", js "off"]
  | timestampFormat => .enum [js "12h", js "24h"]
  | customCss => .css
  | fontFamily => .enum [js "system", js "inter", js "mono", js "dyslexia"]
  | lineHeight => .enum [js "tight", js "normal", js "relaxed"]
  | codeFont => .enum [js "default", js "fira-code", js "jetbrains-mono", js "cascadia"]
  | colorMode => .enum [js "system", js "dark", js "light"]
  | chatBubbleStyle => .enum [js "flat", js "bubble"]
  | messageGrouping => .enum [js "5min", js "10min", js "never"]
  | emojiSize => .enum [js "small", js "normal", js "large"]
  | accentColorOverride => .accentColor
  | highContrast | gifAutoplay | linkPreviews | imagePreviews | syncToAccount => .bool
  | notificationBadgeStyle => .enum [js "dot", js "count"]
  | focusIndicator => .enum [js "default", js "high-contrast", js "outline"]

end Field

def DEFAULTS : Field → Json
  | .messageDisplay => .str (js "cozy")
  | .fontScale | .saturation | .lineHeight | .emojiSize => .str (js "normal")
  | .themePreset => .str (js "twilight")
  | .reducedMotion | .fontFamily => .str (js "system")
  | .timestampFormat => .str (js "12h")
  | .customCss | .accentColorOverride => .str []
  | .codeFont | .focusIndicator => .str (js "default")
  | .colorMode => .str (js "dark")
  | .chatBubbleStyle => .str (js "flat")
  | .messageGrouping => .str (js "5min")
  | .notificationBadgeStyle => .str (js "count")
  | .highContrast | .syncToAccount => .bool false
  | .gifAutoplay | .linkPreviews | .imagePreviews => .bool true

/-- A default passes its own check. -/
theorem run_check_default (field : Field) (fallback : Json) :
    field.check.run (DEFAULTS field) fallback = DEFAULTS field := by
  cases field <;> rfl

structure AppearanceState where
  values : Field → Json
  previousFontFamily : Option Json
  hasHydratedFromProfile : Bool
  lastHydratedUserId : Option JsString

namespace AppearanceState

def initial : AppearanceState := ⟨DEFAULTS, none, false, none⟩

def setFontFamily (state : AppearanceState) (value : Json) : AppearanceState :=
  let isDyslexia : Json → Bool := fun
    | .str text => text = js "dyslexia"
    | _ => false
  let current := state.values .fontFamily
  { state with
    values := Function.update state.values .fontFamily value
    previousFontFamily :=
      if isDyslexia value && !isDyslexia current then some current else state.previousFontFamily }

/-- The setter of a field. -/
def set (state : AppearanceState) (field : Field) (value : Json) : AppearanceState :=
  match field with
  | .fontFamily => state.setFontFamily value
  | .customCss =>
      { state with
        values := Function.update state.values .customCss (.str (sanitizeCustomCss value)) }
  | .accentColorOverride =>
      { state with
        values := Function.update state.values .accentColorOverride
          (.str (sanitizeAccentColor value)) }
  | field => { state with values := Function.update state.values field value }

def resetToDefaults (state : AppearanceState) : AppearanceState := { state with values := DEFAULTS }

/-- `!settings || Object.keys(settings).length === 0` -/
def isEmptySettings : Option Json → Bool
  | some (.obj members) => members.isEmpty
  | some (.arr items) => items.isEmpty
  | some (.str text) => text.isEmpty
  | _ => true

def hydrateFromSettings (state : AppearanceState) (settings : Option Json)
    (userId : Option JsString) : AppearanceState :=
  let hydrated := { state with hasHydratedFromProfile := true, lastHydratedUserId := userId }
  if state.hasHydratedFromProfile && state.lastHydratedUserId = userId then state
  else
    match state.values .syncToAccount with
    | .bool true =>
        if isEmptySettings settings then hydrated
        else
          { hydrated with
            values := fun field =>
              match settings.bind (Json.get? field.name) with
              | none => state.values field
              | some value => field.check.run value (state.values field) }
    | _ => hydrated

/-- The fields sent to an account, in their order. -/
def payloadFields : List Field :=
  [.messageDisplay, .fontScale, .saturation, .themePreset, .reducedMotion, .timestampFormat,
    .customCss, .fontFamily, .lineHeight, .codeFont, .colorMode, .chatBubbleStyle,
    .messageGrouping, .emojiSize, .accentColorOverride, .highContrast, .gifAutoplay, .linkPreviews,
    .imagePreviews, .notificationBadgeStyle, .focusIndicator]

def toSettingsPayload (state : AppearanceState) : Json :=
  .obj <| payloadFields.map fun field =>
    (field.name, match field with
      | .customCss => .str (sanitizeCustomCss (state.values .customCss))
      | .accentColorOverride => .str (sanitizeAccentColor (state.values .accentColorOverride))
      | field => state.values field)

end AppearanceState

/-- What is done with the store. -/
inductive Action
  | set (field : Field) (value : Json)
  | resetToDefaults
  | hydrateFromSettings (settings : Option Json) (userId : Option JsString)

/-- The stylesheets an action may put into the store. -/
def Action.Brings (value : Json) : Action → Prop
  | .set field given => field = .customCss ∧ given = value
  | .resetToDefaults => .str [] = value
  | .hydrateFromSettings settings _ => settings.bind (Json.get? Field.customCss.name) = some value

namespace AppearanceState

def step (state : AppearanceState) : Action → AppearanceState
  | .set field value => state.set field value
  | .resetToDefaults => state.resetToDefaults
  | .hydrateFromSettings settings userId => state.hydrateFromSettings settings userId

def run (state : AppearanceState) (actions : List Action) : AppearanceState :=
  actions.foldl step state

section Run

variable {state : AppearanceState} {action : Action} {actions : List Action} {css : JsString}

theorem customCss_set {field : Field} (other : field ≠ .customCss) (value : Json) :
    (state.set field value).values .customCss = state.values .customCss := by
  cases field with
  | customCss => exact absurd rfl other
  | accentColorOverride =>
    exact Function.update_of_ne other.symm (.str (sanitizeAccentColor value)) state.values
  | _ => exact Function.update_of_ne other.symm value state.values

/-- The settings of an account are merged, or leave the values of the store alone. -/
theorem values_hydrateFromSettings (settings : Option Json) (userId : Option JsString)
    (field : Field) :
    (state.hydrateFromSettings settings userId).values field = state.values field ∨
      ∃ value, settings.bind (Json.get? field.name) = some value ∧
        (state.hydrateFromSettings settings userId).values field =
          field.check.run value (state.values field) := by
  unfold hydrateFromSettings
  split
  · exact .inl rfl
  · split
    · split
      · exact .inl rfl
      · cases given : settings.bind (Json.get? field.name) with
        | none => exact .inl (by simp only [given])
        | some value => exact .inr ⟨value, rfl, by simp only [given]⟩
    · exact .inl rfl

/-- An action leaves the stylesheet as it is, or sanitizes what it brings. -/
theorem customCss_step (state : AppearanceState) (action : Action) :
    (state.step action).values .customCss = state.values .customCss ∨ ∃ value, action.Brings value ∧
        (state.step action).values .customCss = .str (sanitizeCustomCss value) := by
  cases action with
  | set field value =>
    by_cases stylesheet : field = .customCss
    · subst stylesheet
      refine .inr ⟨value, ⟨rfl, rfl⟩, ?_⟩
      simp only [step, set, Function.update_self]
    · exact .inl (customCss_set stylesheet value)
  | resetToDefaults => exact .inr ⟨.str [], rfl, rfl⟩
  | hydrateFromSettings settings userId => exact values_hydrateFromSettings settings userId _

/-- The stylesheet in the store has been sanitized. -/
def Sanitized (state : AppearanceState) : Prop :=
  ∃ value, state.values .customCss = .str (sanitizeCustomCss value)

theorem Sanitized.step (sanitized : state.Sanitized) (action : Action) :
    (state.step action).Sanitized := by
  rcases customCss_step state action with kept | ⟨value, -, set⟩
  · rwa [Sanitized, kept]
  · exact ⟨value, set⟩

/-- Every stylesheet the store ever holds has been sanitized. -/
theorem sanitized_run (actions : List Action) : (initial.run actions).Sanitized := by
  have start : initial.Sanitized := ⟨.str [], rfl⟩
  exact List.foldlRecOn actions step start fun state sanitized action _ => sanitized.step action

/-- A stylesheet that sanitizing does not change stays where only it is brought. -/
theorem customCss_run (stable : sanitizeCustomCss (.str css) = css)
    (holds : state.values .customCss = .str css)
    (brings : ∀ action ∈ actions, ∀ value, action.Brings value → value = .str css) :
    (state.run actions).values .customCss = .str css := by
  refine List.foldlRecOn (motive := fun state => state.values .customCss = .str css) actions step
    holds fun state holds action member => ?_
  rcases customCss_step state action with kept | ⟨value, brought, set⟩
  · rw [kept, holds]
  · rw [set, brings action member value brought, stable]

theorem customCss_toSettingsPayload (state : AppearanceState) :
    state.toSettingsPayload.get? Field.customCss.name =
      some (.str (sanitizeCustomCss (state.values .customCss))) := by
  have found : payloadFields.reverse.find? (fun field => field.name = Field.customCss.name) =
      some .customCss := by
    decide
  rw [toSettingsPayload, Json.get?, ← map_reverse, find?_map, Function.comp_def, found]
  rfl

end Run

end AppearanceState

open AppearanceState in
/-- A sanitized stylesheet has nothing in it that is never allowed, and no `data:` URL but of
allowed types and the placeholder. Without the placeholder, no action changes it again that brings
this stylesheet, or none. -/
theorem sanitizeCustomCss_spec (text : JsString) :
    ∃ css, sanitizeCustomCss (.str text) = css ∧
      (∀ pattern ∈ [expressionCall, mozBinding, behavior, javascriptUrl], pattern.Absent css) ∧
      dataUrl.Guarded (fun rest => ∃ more, Harmless (rest ++ more) ∧
        (more = [] ∨ css.length = MAX_CSS_LENGTH)) css ∧
      (dataUrl.Guarded (isAllowedType · = true) css →
        sanitizeCustomCss (.str css) = css ∧
          ∀ state : AppearanceState, ∀ actions, state.values .customCss = .str css →
            (∀ action ∈ actions, ∀ value, action.Brings value → value = .str css) →
            (state.run actions).values .customCss = .str css ∧
              (state.run actions).toSettingsPayload.get? Field.customCss.name =
                some (.str css)) := by
  refine ⟨_, rfl, fun pattern blocked => absent_sanitizeCustomCss blocked _,
    guarded_sanitizeCustomCss (.str text), fun allowed => ?_⟩
  have stable := sanitizeCustomCss_idem (.str text) allowed
  refine ⟨stable, fun state actions holds brings => ?_⟩
  have kept := customCss_run stable holds brings
  refine ⟨kept, ?_⟩
  rw [customCss_toSettingsPayload, kept, stable]

namespace Sample

def icon : JsString := js "a{background:url(data:image/png;base64,AA)}"

def script : JsString := js "url(javascript:x)"

end Sample

/-- An icon in a stylesheet stays. -/
theorem icon_stays :
    sanitizeCustomCss (.str Sample.icon) = Sample.icon ∧
      ((AppearanceState.initial.set .customCss (.str Sample.icon)).run
        [.set .customCss (.str Sample.icon)]).values .customCss = .str Sample.icon := by
  have same : sanitizeCustomCss (.str Sample.icon) = Sample.icon := by decide
  obtain ⟨css, sanitized, -, -, stays⟩ := sanitizeCustomCss_spec Sample.icon
  obtain rfl := sanitized.symm.trans same
  obtain ⟨stable, run⟩ := stays (Pattern.guarded_of_tails (by decide))
  have held : (AppearanceState.initial.set .customCss (.str Sample.icon)).values .customCss =
      .str Sample.icon := by
    simp only [AppearanceState.set, Function.update_self, same]
  refine ⟨stable, (run _ _ held fun action member value brought => ?_).1⟩
  rw [List.mem_singleton.mp member] at brought
  exact brought.2.symm

/-- What takes the place of a script is a `data:` URL of another type, and grows whenever the
stylesheet is sanitized again. -/
theorem script_grows :
    sanitizeCustomCss (.str (sanitizeCustomCss (.str Sample.script))) ≠
        sanitizeCustomCss (.str Sample.script) ∧
      ¬ dataUrl.Guarded (isAllowedType · = true) (sanitizeCustomCss (.str Sample.script)) := by
  refine ⟨by decide, fun guarded => ?_⟩
  have other : isAllowedType (placeholder ++ placeholder ++ js "x)") = false := by decide
  have allowed := guarded (sanitizeCustomCss (.str Sample.script))
    (placeholder ++ placeholder ++ js "x)") List.suffix_rfl (by decide)
  cases other.symm.trans allowed

end Vortex.Web.Appearance
