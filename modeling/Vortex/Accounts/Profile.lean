import Vortex.Gateway.Messages
import Vortex.Views.Tables

/-!
# The routes that change a user's row

`PATCH /api/users/profile` writes the columns its body names, `PATCH /api/users/appearance` the
appearance settings alone, which it checks first. What the session, the rate limiter and the
database answer are parameters of a request, and so are the lower case of strings, the dates the
runtime can read and how it compares what is not a length with a number. A column of JSON holds the
text of a value.
-/

namespace Vortex.Accounts.Profile

open Foundation
open Vortex.Gateway (trim)
open Vortex.Views (UserRow toSnakeCase)

/-! ## The colour of a banner -/

def isHexUnit (unit : UInt16) : Bool :=
  (48 ≤ unit && unit ≤ 57) || (97 ≤ unit && unit ≤ 102) || (65 ≤ unit && unit ≤ 70)

/-- `/^#(?:[0-9a-fA-F]{3}|[0-9a-fA-F]{6})$/.test(text)` -/
def isHexColor : JsString → Bool
  | 35 :: digits => (digits.length = 3 || digits.length = 6) && digits.all isHexUnit
  | _ => false

def ALLOWED_NAMED_COLORS : List JsString :=
  ["red", "orange", "yellow", "green", "blue", "indigo", "violet", "purple", "pink", "teal", "cyan",
    "magenta", "black", "white", "gray", "grey"].map js

/-- What the runtime knows of values. -/
structure Runtime where
  toLowerCase : JsString → JsString
  /-- Whether `new Date(value)` has a time. -/
  isDate : Json → Bool
  /-- `value > limit` -/
  exceeds : Json → Nat → Bool

section

variable (runtime : Runtime)

def sanitizeBannerColor : Json → Option JsString
  | .str value =>
      let trimmed := trim value
      if trimmed.isEmpty then none
      else if isHexColor trimmed then some trimmed
      else
        let lowered := runtime.toLowerCase trimmed
        if ALLOWED_NAMED_COLORS.contains lowered then some lowered else none
  | _ => none

/-- `value.length > limit` -/
def isLonger (limit : Nat) : Json → Bool
  | .str text => limit < text.length
  | .arr items => limit < items.length
  | .obj members => ((Json.obj members).get? (js "length")).any (runtime.exceeds · limit)
  | _ => false

end

/-! ## What a body asks for -/

def given : Option Json → Option Json
  | some .null => none
  | value => value

/-- The keys of a body, with the columns they are written to. -/
def allowedKeys : List (JsString × JsString) :=
  [("display_name", "displayName"), ("username", "username"), ("bio", "bio"),
    ("custom_tag", "customTag"), ("status_message", "statusMessage"),
    ("status_emoji", "statusEmoji"), ("status_expires_at", "statusExpiresAt"),
    ("status", "status"), ("banner_color", "bannerColor"), ("avatar_url", "avatarUrl"),
    ("appearance_settings", "appearanceSettings")].map fun (key, column) => (js key, js column)

/-- The columns a body sets, where `banner` has taken the place of its banner colour. -/
def updateValues (body : Json) (banner : Option JsString) : List (JsString × Json) :=
  allowedKeys.filterMap fun (key, column) =>
    (if key = js "banner_color" then (banner.map .str).or (body.get? key) else body.get? key).map
      (column, ·)

/-- The columns a profile body sets, or the response that refuses it. -/
def profileUpdate (runtime : Runtime) (body : Json) :
    Except HttpResponse (List (JsString × Json)) :=
  let color := given (body.get? (js "banner_color"))
  let banner := color.bind (sanitizeBannerColor runtime)
  if color.isSome && banner.isNone then
    .error (.error 422
      (js "Invalid banner_color. Use a hex color (e.g. #5865f2) or an allowed named color."))
  else if (given (body.get? (js "status_expires_at"))).any (!runtime.isDate ·) then
    .error (.error 422 (js "Invalid status_expires_at. Use an ISO-8601 datetime."))
  else if (given (body.get? (js "status_emoji"))).any (isLonger runtime 8) then
    .error (.error 422 (js "status_emoji must be 8 characters or fewer."))
  else .ok (updateValues body banner)

/-- Whether a member is there and none of the texts. -/
def isOther (allowed : List JsString) : Option Json → Bool
  | none => false
  | some (.str text) => !allowed.contains text
  | some _ => true

/-- The settings an appearance body sets, or the response that refuses it. -/
def appearanceUpdate (body : Json) : Except HttpResponse Json :=
  match body.get? (js "appearance_settings") with
  | none => .error (.error 400 (js "Missing required field: appearance_settings"))
  | some .null => .ok .null
  | some (.obj members) =>
      let settings := Json.obj members
      if isOther [js "cozy", js "compact"] (settings.get? (js "messageDisplay")) then
        .error (.error 400 (js "Invalid messageDisplay value"))
      else if isOther [js "small", js "normal", js "large"] (settings.get? (js "fontScale")) then
        .error (.error 400 (js "Invalid fontScale value"))
      else if isOther [js "normal", js "reduced"] (settings.get? (js "saturation")) then
        .error (.error 400 (js "Invalid saturation value"))
      else if (Json.string? (settings.get? (js "customCss"))).any (50000 < ·.length) then
        .error (.error 400 (js "customCss exceeds 50,000 character limit"))
      else .ok settings
  | some _ => .error (.error 400 (js "appearance_settings must be an object or null"))

/-! ## The row -/

/-- What is read from a column of JSON that a value was written to. -/
def storedJson (value : Json) : Json := (Json.parse value.stringify).getD .null

theorem storedJson_of_printable {value : Json} (printable : value.Printable) :
    storedJson value = value := by
  rw [storedJson, Json.parse_stringify printable, Option.getD_some]

/-- The columns of a row after an update. -/
def assigned (values columns : List (JsString × Json)) : List (JsString × Json) :=
  columns.map fun (name, value) =>
    (name, ((values.find? (·.1 = name)).map fun set =>
      if name = js "appearanceSettings" then storedJson set.2 else set.2).getD value)

/-- A member whose name no other one has is found. -/
theorem get?_of_mem {members : List (JsString × Json)} {name : JsString} {value : Json}
    (distinct : (members.map Prod.fst).Nodup) (member : (name, value) ∈ members) :
    (Json.obj members).get? name = some value := by
  rw [Json.get?]
  cases found : members.reverse.find? (fun member => member.1 = name) with
  | none =>
    have absent := List.find?_eq_none.mp found _ (List.mem_reverse.mpr member)
    exact absurd (decide_eq_true rfl) absent
  | some other =>
    have named : other.1 = name := by simpa using List.find?_some found
    have same : other = (name, value) := List.inj_on_of_nodup_map distinct
      (List.mem_reverse.mp (List.mem_of_find?_eq_some found)) member named
    rw [same, Option.map_some]

theorem distinct_columns (row : UserRow) : (row.columns.map Prod.fst).Nodup := by
  have names : row.columns.map Prod.fst = ["id", "email", "emailVerified", "twoFactorEnabled",
      "username", "displayName", "avatarUrl", "bannerColor", "bannerUrl", "bio", "customTag",
      "status", "statusMessage", "statusEmoji", "statusExpiresAt", "discoverable",
      "appearanceSettings", "interests", "activityVisibility", "onboardingCompletedAt",
      "lastHeartbeatAt", "lastOnlineAt", "gameActivity", "createdAt", "updatedAt"].map js := rfl
  rw [names]
  decide

theorem mem_columns (row : UserRow) :
    (js "id", .str row.id) ∈ row.columns ∧
      (js "appearanceSettings", row.account.appearanceSettings) ∈ row.columns := by
  constructor <;> simp only [UserRow.columns, List.mem_cons, true_or, or_true]

theorem map_fst_assigned (values columns : List (JsString × Json)) :
    (assigned values columns).map Prod.fst = columns.map Prod.fst := by
  rw [assigned, List.map_map]
  rfl

/-- The settings of an updated row are those it was given. -/
theorem get?_assigned_settings (settings now : Json) (row : UserRow) :
    (Json.obj (assigned [(js "appearanceSettings", settings), (js "updatedAt", now)]
      row.columns)).get? (js "appearanceSettings") = some (storedJson settings) := by
  refine get?_of_mem ?_ ?_
  · rw [map_fst_assigned]
    exact distinct_columns row
  · refine List.mem_map.mpr ⟨_, (mem_columns row).2, ?_⟩
    have found : [(js "appearanceSettings", settings), (js "updatedAt", now)].find?
        (fun set => set.1 = js "appearanceSettings") = some (js "appearanceSettings", settings) :=
      List.find?_cons_of_pos (decide_eq_true rfl)
    dsimp only
    rw [found, Option.map_some, if_pos rfl, Option.getD_some]

/-- What the database holds of the user, and which statements it refuses. -/
structure Store where
  row : Option UserRow
  rejects : List (JsString × Json) → Bool
  now : JsString

/-- `db.update(users).set(values).where(eq(users.id, user.id)).returning()`; `none` when it
throws. -/
def Store.update (store : Store) (values : List (JsString × Json)) :
    Option (Option (List (JsString × Json))) :=
  if store.rejects values then none
  else some (store.row.map fun row =>
    assigned (values ++ [(js "updatedAt", .str store.now)]) row.columns)

structure PatchCall where
  session : Except Unit (Option JsString)
  limited : Bool
  body : List UInt8
  runtime : Runtime
  store : Store

/-- A response, with the columns of the row where it has been updated. -/
structure PatchOutcome where
  response : HttpResponse
  columns : Option (List (JsString × Json))

/-- A response that leaves the row alone. -/
def refused (status : Nat) (text : JsString) : PatchOutcome := ⟨.error status text, none⟩

def updated (columns : List (JsString × Json)) : PatchOutcome :=
  ⟨.json 200 (toSnakeCase (.obj columns)), some columns⟩

/-- `PATCH /api/users/profile` -/
def patchProfile (call : PatchCall) : PatchOutcome :=
  match call.session with
  | .error _ => refused 401 (js "Unauthorized")
  | .ok none => refused 401 (js "Unauthorized")
  | .ok (some _) =>
      if call.limited then refused 429 (js "Too many requests. Please try again later.")
      else
        match readJson call.body with
        | none => refused 500 (js "Internal server error")
        | some .null => refused 500 (js "Internal server error")
        | some body =>
            match profileUpdate call.runtime body with
            | .error response => ⟨response, none⟩
            | .ok [] =>
                match call.store.row.filter fun _ => !call.store.rejects [] with
                | none => refused 500 (js "Failed to update profile")
                | some row => ⟨.json 200 (toSnakeCase row.json), none⟩
            | .ok values =>
                match call.store.update values with
                | some (some columns) => updated columns
                | _ => refused 500 (js "Failed to update profile")

/-- `PATCH /api/users/appearance` -/
def patchAppearance (call : PatchCall) : PatchOutcome :=
  match call.session with
  | .error _ => refused 502 (js "Auth service temporarily unavailable")
  | .ok none => refused 401 (js "Unauthorized")
  | .ok (some _) =>
      match readJson call.body with
      | none => refused 400 (js "Malformed JSON")
      | some body =>
          match appearanceUpdate body with
          | .error response => ⟨response, none⟩
          | .ok settings =>
              match call.store.update [(js "appearanceSettings", settings)] with
              | none => refused 500 (js "Failed to update appearance settings")
              | some none => refused 404 (js "User not found")
              | some (some columns) => updated columns

section Patch

variable {call : PatchCall} {columns values : List (JsString × Json)} {body settings : Json}
  {row : UserRow} {userId : JsString}

/-- What an update leaves of a row. -/
theorem Store.update_eq_some {store : Store} (done : store.update values = some (some columns)) :
    ∃ row, store.row = some row ∧
      columns = assigned (values ++ [(js "updatedAt", .str store.now)]) row.columns := by
  rw [Store.update] at done
  split at done
  · cases done
  · obtain ⟨row, found, same⟩ := Option.map_eq_some_iff.mp (Option.some.inj done)
    exact ⟨row, found, same.symm⟩

theorem Store.update_of_accepted {store : Store} (found : store.row = some row)
    (accepted : store.rejects values = false) :
    store.update values = some (some
      (assigned (values ++ [(js "updatedAt", .str store.now)]) row.columns)) := by
  rw [Store.update, accepted, found]
  rfl

/-- A row changed by a profile request has the columns its body asks for. -/
theorem columns_patchProfile (sent : readJson call.body = some body)
    (saved : (patchProfile call).columns = some columns) :
    ∃ values row, profileUpdate call.runtime body = .ok values ∧ call.store.row = some row ∧
      columns = assigned (values ++ [(js "updatedAt", .str call.store.now)]) row.columns := by
  rw [patchProfile] at saved
  split at saved
  · cases saved
  · cases saved
  · split at saved
    · cases saved
    · rw [sent] at saved
      split at saved
      · cases saved
      · cases saved
      · rename_i same
        cases same
        split at saved
        · cases saved
        · split at saved
          · cases saved
          · cases saved
        · rename_i values _ asked
          split at saved
          · rename_i changed done
            obtain ⟨row, found, result⟩ := Store.update_eq_some done
            exact ⟨values, row, asked, found, (Option.some.inj saved).symm.trans result⟩
          · cases saved

/-- A row changed by an appearance request has the settings of its body. -/
theorem columns_patchAppearance (sent : readJson call.body = some body)
    (saved : (patchAppearance call).columns = some columns) :
    ∃ settings row, appearanceUpdate body = .ok settings ∧ call.store.row = some row ∧
      columns = assigned [(js "appearanceSettings", settings),
        (js "updatedAt", .str call.store.now)] row.columns := by
  rw [patchAppearance] at saved
  split at saved
  · cases saved
  · cases saved
  · rw [sent] at saved
    dsimp only at saved
    split at saved
    · cases saved
    · rename_i settings asked
      split at saved
      · cases saved
      · cases saved
      · rename_i changed done
        obtain ⟨row, found, result⟩ := Store.update_eq_some done
        exact ⟨settings, row, asked, found, (Option.some.inj saved).symm.trans result⟩

/-- Settings alone are what a profile body sets. -/
theorem profileUpdate_settings (runtime : Runtime) (settings : Json) :
    profileUpdate runtime (.obj [(js "appearance_settings", settings)]) =
      .ok [(js "appearanceSettings", settings)] := by
  have other {key : JsString} (different : js "appearance_settings" ≠ key) :
      (Json.obj [(js "appearance_settings", settings)]).get? key = none := by
    rw [Json.get?, List.reverse_singleton, List.find?_cons_of_neg (by simpa using different)]
    rfl
  rw [profileUpdate, other (by decide), other (by decide), other (by decide)]
  rfl

/-- A request of a user whose row is there is saved, if nothing in its way refuses it. -/
theorem patchProfile_saves (session : call.session = .ok (some userId))
    (free : call.limited = false)
    (sent : readJson call.body = some (.obj [(js "appearance_settings", settings)]))
    (found : call.store.row = some row)
    (accepted : call.store.rejects [(js "appearanceSettings", settings)] = false) :
    patchProfile call = updated (assigned [(js "appearanceSettings", settings),
      (js "updatedAt", .str call.store.now)] row.columns) := by
  rw [patchProfile, session]
  dsimp only
  rw [free, sent]
  dsimp only
  rw [profileUpdate_settings]
  dsimp only
  rw [Store.update_of_accepted found accepted]
  rfl

theorem patchAppearance_saves (session : call.session = .ok (some userId))
    (sent : readJson call.body = some body) (asked : appearanceUpdate body = .ok settings)
    (found : call.store.row = some row)
    (accepted : call.store.rejects [(js "appearanceSettings", settings)] = false) :
    patchAppearance call = updated (assigned [(js "appearanceSettings", settings),
      (js "updatedAt", .str call.store.now)] row.columns) := by
  rw [patchAppearance, session]
  dsimp only
  rw [sent]
  dsimp only
  rw [asked]
  dsimp only
  rw [Store.update_of_accepted found accepted]
  rfl

end Patch

end Vortex.Accounts.Profile
