import Vortex.Accounts.Profile
import Vortex.Web.Appearance

/-!
# Appearance settings on their way to another browser

The settings of a browser are sent to the user's row, and the layout of the channels hands the row
to the next browser with its keys in snake case, those of the settings included. The store there
looks for the keys it has sent, and finds the one that has no capital letter.
-/

variable {value : Json}

namespace Vortex.Web.Appearance

open Foundation
open Vortex.Accounts.Profile
open Vortex.Views (UserRow distinctKeys snakeMember toSnakeCase toSnakeCase_obj toSnakeKey)

/-! ## Values of their types -/

/-- The values of the type of a field. -/
def Check.Accepts : Check → Json → Prop
  | .enum allowed, value => ∃ text ∈ allowed, value = .str text
  | .bool, value => ∃ flag, value = .bool flag
  | .accentColor, value => ∃ text, value = .str text
  | .css, value => ∃ text, value = .str text

/-- What a check makes of a value has the type that its fallback has. -/
theorem Check.accepts_run {check : Check} {fallback : Json} (accepted : check.Accepts fallback)
    (value : Json) : check.Accepts (check.run value fallback) := by
  cases check with
  | enum allowed =>
    cases value with
    | str text =>
      rw [run, validateEnum]
      split
      · rename_i member
        exact ⟨text, List.contains_iff_mem.mp member, rfl⟩
      · exact accepted
    | _ => exact accepted
  | bool =>
    cases value with
    | bool flag => exact ⟨flag, rfl⟩
    | _ => exact accepted
  | accentColor => exact ⟨_, rfl⟩
  | css => exact ⟨_, rfl⟩

/-- A value of the type of an enumeration passes its check. -/
theorem Check.run_enum {allowed : List JsString} (accepted : (Check.enum allowed).Accepts value)
    (fallback : Json) : (Check.enum allowed).run value fallback = value := by
  obtain ⟨text, member, rfl⟩ := accepted
  exact if_pos (List.contains_iff_mem.mpr member)

/-- Texts and flags go through a response unchanged, and can be printed. -/
theorem Check.plain {check : Check} (accepted : check.Accepts value) :
    toSnakeCase value = value ∧ value.Printable := by
  have text (string : JsString) : toSnakeCase (.str string) = .str string ∧
      (Json.str string).Printable :=
    ⟨Views.toSnakeCase_str string, by unfold Json.Printable; trivial⟩
  cases check with
  | enum allowed =>
    obtain ⟨string, -, rfl⟩ := accepted
    exact text string
  | bool =>
    obtain ⟨flag, rfl⟩ := accepted
    exact ⟨Views.toSnakeCase_bool flag, by unfold Json.Printable; trivial⟩
  | accentColor =>
    obtain ⟨string, rfl⟩ := accepted
    exact text string
  | css =>
    obtain ⟨string, rfl⟩ := accepted
    exact text string

namespace AppearanceState

/-- A state whose values have the types of their fields. -/
def Typed (state : AppearanceState) : Prop :=
  ∀ field : Field, field.check.Accepts (state.values field)

/-- What is sent of a field. -/
def sent (state : AppearanceState) : Field → Json
  | .customCss => .str (sanitizeCustomCss (state.values .customCss))
  | .accentColorOverride => .str (sanitizeAccentColor (state.values .accentColorOverride))
  | field => state.values field

section Typed

variable {state : AppearanceState}

theorem toSettingsPayload_eq (state : AppearanceState) :
    state.toSettingsPayload =
      .obj (payloadFields.map fun field => (field.name, state.sent field)) :=
  rfl

theorem typed_initial : initial.Typed := by
  intro field
  cases field <;> first | exact ⟨_, by decide, rfl⟩ | exact ⟨_, rfl⟩

theorem Typed.hydrateFromSettings (typed : state.Typed) (settings : Option Json)
    (userId : Option JsString) : (state.hydrateFromSettings settings userId).Typed := by
  intro field
  rcases state.values_hydrateFromSettings settings userId field with kept | ⟨value, -, merged⟩
  · rw [kept]
    exact typed field
  · rw [merged]
    exact Check.accepts_run (typed field) value

theorem Typed.set (typed : state.Typed) {field : Field} (accepted : field.check.Accepts value) :
    (state.set field value).Typed := by
  have updated {target : Field} {new : Json} (fits : target.check.Accepts new) (other : Field) :
      other.check.Accepts (Function.update state.values target new other) := by
    by_cases same : other = target
    · subst same
      rwa [Function.update_self]
    · rw [Function.update_of_ne same]
      exact typed other
  cases field with
  | customCss =>
    have text : Check.css.Accepts (.str (sanitizeCustomCss value)) := ⟨_, rfl⟩
    exact updated text
  | accentColorOverride =>
    have text : Check.accentColor.Accepts (.str (sanitizeAccentColor value)) := ⟨_, rfl⟩
    exact updated text
  | _ => exact updated accepted

/-- An action that sets values of the types of their fields. -/
def Fits : Action → Prop
  | .set field value => field.check.Accepts value
  | .resetToDefaults => True
  | .hydrateFromSettings _ _ => True

/-- Whatever an account delivers, a store that is set to values of their types holds such values. -/
theorem typed_run {actions : List Action} (fits : ∀ action ∈ actions, Fits action) :
    (initial.run actions).Typed := by
  refine List.foldlRecOn (motive := Typed) actions step typed_initial
    fun state typed action member => ?_
  cases action with
  | set field value => exact typed.set (fits _ member)
  | resetToDefaults => exact typed_initial
  | hydrateFromSettings settings userId => exact typed.hydrateFromSettings settings userId

/-- A store that is told to synchronize. -/
theorem synchronizing_typed : (initial.run [.set .syncToAccount (.bool true)]).Typed := by
  refine typed_run fun action member => ?_
  cases List.mem_singleton.mp member
  exact ⟨true, rfl⟩

/-- What is sent has the types of the fields. -/
theorem Typed.sent (typed : state.Typed) (field : Field) :
    field.check.Accepts (state.sent field) := by
  cases field with
  | customCss => exact ⟨_, rfl⟩
  | accentColorOverride => exact ⟨_, rfl⟩
  | _ => exact typed _

theorem get?_toSettingsPayload (state : AppearanceState) (field : Field)
    (member : field ∈ payloadFields) :
    state.toSettingsPayload.get? field.name = some (state.sent field) := by
  have found : ∀ field ∈ payloadFields,
      payloadFields.reverse.find? (fun other => other.name = field.name) = some field := by
    decide
  rw [toSettingsPayload_eq, Json.get?, ← List.map_reverse, List.find?_map, Function.comp_def,
    found field member]
  rfl

theorem Typed.printable (typed : state.Typed) : state.toSettingsPayload.Printable := by
  have members (fields : List Field) :
      Json.PrintableMembers (fields.map fun field => (field.name, state.sent field)) := by
    induction fields with
    | nil => trivial
    | cons field fields hypothesis => exact ⟨(Check.plain (typed.sent field)).2, hypothesis⟩
  rw [toSettingsPayload_eq]
  unfold Json.Printable
  exact members payloadFields

end Typed

end AppearanceState

/-! ## The way to the row and back -/

/-- The body of a request that saves settings. -/
def settingsBody (payload : Json) : Json := .obj [(js "appearance_settings", payload)]

/-- The profile `ChannelsLayoutContent` hands to the provider. -/
def layoutProfile (row : UserRow) : Json := toSnakeCase row.json

/-- The effect of `AppProviderInner` on the store. -/
def AppearanceState.hydrateFromUser (state : AppearanceState) (user : Option Json) :
    AppearanceState :=
  state.hydrateFromSettings (user.bind (Json.get? (js "appearance_settings")))
    (Json.string? (user.bind (Json.get? (js "id"))))

/-- A row whose settings are those that a request of one of the two routes has saved. -/
def Saved (state : AppearanceState) (row : UserRow) : Prop :=
  ∃ (call : PatchCall) (columns : List (JsString × Json)),
    call.body = jsonBytes (settingsBody state.toSettingsPayload) ∧
      ((patchProfile call).columns = some columns ∨
        (patchAppearance call).columns = some columns) ∧
      (Json.obj columns).get? (js "appearanceSettings") = some row.account.appearanceSettings

namespace AppearanceState

section Delivery

variable {sender receiver : AppearanceState} {row : UserRow}

theorem readJson_settingsBody (typed : sender.Typed) :
    readJson (jsonBytes (settingsBody sender.toSettingsPayload)) =
      some (settingsBody sender.toSettingsPayload) :=
  readJson_jsonBytes (by unfold settingsBody Json.Printable; exact ⟨typed.printable, trivial⟩)

theorem isOther_eq_false {allowed : List JsString} (accepted : (Check.enum allowed).Accepts value) :
    isOther allowed (some value) = false := by
  obtain ⟨text, member, rfl⟩ := accepted
  rw [isOther, List.contains_iff_mem.mpr member]
  rfl

/-- The appearance route refuses no settings of a store. -/
theorem appearanceUpdate_payload (typed : sender.Typed) :
    appearanceUpdate (settingsBody sender.toSettingsPayload) = .ok sender.toSettingsPayload := by
  have body : (settingsBody sender.toSettingsPayload).get? (js "appearance_settings") =
      some sender.toSettingsPayload :=
    get?_of_mem (List.nodup_singleton _) List.mem_cons_self
  have display : sender.toSettingsPayload.get? (js "messageDisplay") =
      some (sender.sent .messageDisplay) :=
    get?_toSettingsPayload sender .messageDisplay (by decide)
  have scale : sender.toSettingsPayload.get? (js "fontScale") = some (sender.sent .fontScale) :=
    get?_toSettingsPayload sender .fontScale (by decide)
  have saturation : sender.toSettingsPayload.get? (js "saturation") =
      some (sender.sent .saturation) := get?_toSettingsPayload sender .saturation (by decide)
  have css : sender.toSettingsPayload.get? (js "customCss") = some (sender.sent .customCss) :=
    get?_toSettingsPayload sender .customCss (by decide)
  have short : (Json.string? (some (sender.sent .customCss))).any (50000 < ·.length) = false :=
    decide_eq_false (Nat.not_lt.mpr (length_sanitizeCustomCss _))
  rw [appearanceUpdate, body, toSettingsPayload_eq]
  dsimp only
  rw [← toSettingsPayload_eq, display, isOther_eq_false (typed.sent .messageDisplay), scale,
    isOther_eq_false (typed.sent .fontScale), saturation,
    isOther_eq_false (typed.sent .saturation), css, short]
  rfl

theorem settings_of_saved (typed : sender.Typed) (saved : Saved sender row) :
    row.account.appearanceSettings = sender.toSettingsPayload := by
  obtain ⟨call, columns, body, done, held⟩ := saved
  have received : readJson call.body = some (settingsBody sender.toSettingsPayload) := by
    rw [body, readJson_settingsBody typed]
  have stored : ∃ before : UserRow, columns = assigned
      [(js "appearanceSettings", sender.toSettingsPayload),
        (js "updatedAt", .str call.store.now)] before.columns := by
    rcases done with done | done
    · obtain ⟨values, before, asked, -, same⟩ := columns_patchProfile received done
      rw [settingsBody, profileUpdate_settings] at asked
      cases asked
      exact ⟨before, same⟩
    · obtain ⟨settings, before, asked, -, same⟩ := columns_patchAppearance received done
      rw [appearanceUpdate_payload typed] at asked
      cases asked
      exact ⟨before, same⟩
  obtain ⟨before, rfl⟩ := stored
  rw [get?_assigned_settings, storedJson_of_printable typed.printable] at held
  exact (Option.some.inj held).symm

/-- A member of an object whose keys stay distinct is found under its converted key. -/
theorem get?_toSnakeCase {members : List (JsString × Json)} {name : JsString}
    (distinct : distinctKeys (members.map Prod.fst) = true) (member : (name, value) ∈ members) :
    (toSnakeCase (.obj members)).get? (toSnakeKey name) = some (toSnakeCase value) := by
  rw [toSnakeCase_obj distinct]
  refine get?_of_mem ?_ (List.mem_map_of_mem (f := snakeMember) member)
  have keys : (members.map snakeMember).map Prod.fst = (members.map Prod.fst).map toSnakeKey := by
    rw [List.map_map, List.map_map]
    rfl
  rw [keys]
  exact of_decide_eq_true (Bool.and_eq_true_iff.mp distinct).2

/-- What the provider is handed of a row. -/
theorem get?_layoutProfile (row : UserRow) :
    (layoutProfile row).get? (js "appearance_settings") =
        some (toSnakeCase row.account.appearanceSettings) ∧
      (layoutProfile row).get? (js "id") = some (.str row.id) := by
  have distinct : distinctKeys (row.columns.map Prod.fst) = true := rfl
  obtain ⟨id, settings⟩ := mem_columns row
  have settingsKey : toSnakeKey (js "appearanceSettings") = js "appearance_settings" := by decide
  have idKey : toSnakeKey (js "id") = js "id" := by decide
  constructor
  · rw [← settingsKey]
    exact get?_toSnakeCase distinct settings
  · rw [← Views.toSnakeCase_str row.id, ← idKey]
    exact get?_toSnakeCase distinct id

/-- Of the settings that were sent, the keys of all but one are not found any more. -/
theorem get?_snake_payload (typed : sender.Typed) (field : Field) :
    (toSnakeCase sender.toSettingsPayload).get? field.name =
      if field = .saturation then some (sender.values .saturation) else none := by
  have found : payloadFields.reverse.find? (fun other => toSnakeKey other.name = field.name) =
      if field = .saturation then some .saturation else none := by
    cases field <;> decide
  have names : (payloadFields.map fun field => (field.name, sender.sent field)).map Prod.fst =
      payloadFields.map Field.name := by
    rw [List.map_map]
    rfl
  have distinct : distinctKeys (payloadFields.map Field.name) = true := by decide
  rw [toSettingsPayload_eq, toSnakeCase_obj (by rw [names, distinct]), List.map_map, Json.get?,
    ← List.map_reverse, List.find?_map]
  have same : payloadFields.reverse.find? ((fun member : JsString × Json =>
      decide (member.1 = field.name)) ∘ snakeMember ∘ fun other =>
        (other.name, sender.sent other)) = if field = .saturation then some .saturation else none :=
    found
  rw [same]
  split
  · exact congrArg some (Check.plain (typed.sent .saturation)).1
  · rfl

/-- Settings are merged into a store that is synchronized and has not been hydrated. -/
theorem values_hydrate_of_fresh {settings : Json} {userId : Option JsString}
    (synced : receiver.values .syncToAccount = .bool true)
    (fresh : ¬ (receiver.hasHydratedFromProfile = true ∧ receiver.lastHydratedUserId = userId))
    (full : isEmptySettings (some settings) = false) (field : Field) :
    (receiver.hydrateFromSettings (some settings) userId).values field =
      match settings.get? field.name with
      | none => receiver.values field
      | some value => field.check.run value (receiver.values field) := by
  have unhydrated : (receiver.hasHydratedFromProfile &&
      decide (receiver.lastHydratedUserId = userId)) = false := by
    simpa using fresh
  rw [hydrateFromSettings, unhydrated, synced, full]
  rfl

/-- What another browser is left with: only the saturation has arrived. -/
theorem values_hydrateFromUser (typed : sender.Typed)
    (synced : receiver.values .syncToAccount = .bool true)
    (fresh : ¬ (receiver.hasHydratedFromProfile = true ∧ receiver.lastHydratedUserId = some row.id))
    (saved : Saved sender row) (field : Field) :
    (receiver.hydrateFromUser (some (layoutProfile row))).values field =
      if field = .saturation then sender.values .saturation else receiver.values field := by
  obtain ⟨settings, id⟩ := get?_layoutProfile row
  have full : isEmptySettings (some (toSnakeCase sender.toSettingsPayload)) = false := by
    have some_found := get?_snake_payload typed .saturation
    rw [if_pos rfl] at some_found
    cases snake : toSnakeCase sender.toSettingsPayload with
    | obj members =>
      cases members with
      | nil => rw [snake] at some_found; cases some_found
      | cons member members => rfl
    | null | bool _ | num _ | str _ | arr _ => rw [snake] at some_found; cases some_found
  rw [settings_of_saved typed saved] at settings
  rw [hydrateFromUser, Option.bind_some, Option.bind_some, settings, id, Json.string?,
    values_hydrate_of_fresh synced fresh full, get?_snake_payload typed]
  by_cases named : field = .saturation
  · subst named
    rw [if_pos rfl, if_pos rfl]
    exact Check.run_enum (typed .saturation) _
  · rw [if_neg named, if_neg named]

/-- Every row that holds the settings of a store may have been saved from it. -/
theorem saved_of_settings (typed : sender.Typed)
    (held : row.account.appearanceSettings = sender.toSettingsPayload) : Saved sender row := by
  let call : PatchCall :=
    { session := .ok (some row.id)
      limited := false
      body := jsonBytes (settingsBody sender.toSettingsPayload)
      runtime := ⟨id, fun _ => true, fun _ _ => false⟩
      store := ⟨some row, fun _ => false, row.updatedAt⟩ }
  have saves : patchProfile call = updated (assigned
      [(js "appearanceSettings", sender.toSettingsPayload), (js "updatedAt", .str row.updatedAt)]
      row.columns) :=
    patchProfile_saves rfl rfl (readJson_settingsBody typed) rfl rfl
  refine ⟨call, _, rfl, .inl (congrArg PatchOutcome.columns saves), ?_⟩
  rw [get?_assigned_settings, storedJson_of_printable typed.printable, held]

end Delivery

end AppearanceState

open AppearanceState in
/-- When the settings of a store arrive in another one that is synchronized and has not been
hydrated for the user: if and only if the two agree already in every field but the saturation. -/
theorem settings_arrive_iff {sender receiver : AppearanceState} {row : UserRow}
    (typed : sender.Typed) (synced : receiver.values .syncToAccount = .bool true)
    (fresh : ¬ (receiver.hasHydratedFromProfile = true ∧
      receiver.lastHydratedUserId = some row.id))
    (saved : Saved sender row) :
    (∀ field ∈ payloadFields,
        (receiver.hydrateFromUser (some (layoutProfile row))).values field = sender.values field) ↔
      ∀ field ∈ payloadFields, field ≠ .saturation →
        receiver.values field = sender.values field := by
  refine forall_congr' fun field => forall_congr' fun _ => ?_
  rw [values_hydrateFromUser typed synced fresh saved]
  by_cases named : field = .saturation
  · subst named
    rw [if_pos rfl]
    exact iff_of_true rfl fun other => absurd rfl other
  · rw [if_neg named]
    exact ⟨fun same _ => same, fun same => same named⟩

namespace Sample

def row (settings : Json) : UserRow where
  id := js "u1"
  account := ⟨some (js "a@b.c"), some true, some false, settings⟩
  username := js "ada"
  displayName := none
  avatarUrl := none
  bannerColor := none
  bannerUrl := none
  bio := none
  customTag := none
  status := .online
  statusMessage := none
  statusEmoji := none
  statusExpiresAt := none
  discoverable := false
  interests := []
  activityVisibility := js "public"
  onboardingCompletedAt := none
  lastHeartbeatAt := none
  lastOnlineAt := none
  gameActivity := .null
  createdAt := js "2026-01-01T00:00:00.000Z"
  updatedAt := js "2026-01-01T00:00:00.000Z"

/-- A synchronized store, with one field set. -/
def synced (field : Field) (value : Json) : AppearanceState :=
  (AppearanceState.initial.set .syncToAccount (.bool true)).set field value

theorem typed_synced {field : Field} (accepted : field.check.Accepts value) :
    (synced field value).Typed := by
  have flag : Field.syncToAccount.check.Accepts (.bool true) := ⟨true, rfl⟩
  exact (AppearanceState.typed_initial.set flag).set accepted

end Sample

open AppearanceState in
/-- A saturation arrives. -/
theorem saturation_arrives :
    let sender := Sample.synced .saturation (.str (js "reduced"))
    ∀ field ∈ payloadFields, ((Sample.synced .lineHeight (.str (js "normal"))).hydrateFromUser
      (some (layoutProfile (Sample.row sender.toSettingsPayload)))).values field =
        sender.values field := by
  have typed : (Sample.synced .saturation (.str (js "reduced"))).Typed :=
    Sample.typed_synced ⟨js "reduced", by decide, rfl⟩
  refine (settings_arrive_iff typed rfl (fun hydrated => by cases hydrated.1)
    (saved_of_settings typed rfl)).mpr fun field _ other => ?_
  cases field with
  | saturation => exact absurd rfl other
  | _ => rfl

open AppearanceState in
/-- A theme does not. -/
theorem theme_stays_behind :
    let sender := Sample.synced .themePreset (.str (js "sakura-blossom"))
    Saved sender (Sample.row sender.toSettingsPayload) ∧
      ¬ ∀ field ∈ payloadFields, ((Sample.synced .lineHeight (.str (js "normal"))).hydrateFromUser
        (some (layoutProfile (Sample.row sender.toSettingsPayload)))).values field =
          sender.values field := by
  have typed : (Sample.synced .themePreset (.str (js "sakura-blossom"))).Typed :=
    Sample.typed_synced ⟨js "sakura-blossom", by decide, rfl⟩
  refine ⟨saved_of_settings typed rfl, fun every => ?_⟩
  have theme := every .themePreset (by decide)
  rw [values_hydrateFromUser typed rfl (fun hydrated => by cases hydrated.1)
    (saved_of_settings typed rfl), if_neg nofun] at theme
  have same : js "twilight" = js "sakura-blossom" := Json.str.inj theme
  exact absurd same (by decide)

end Vortex.Web.Appearance
