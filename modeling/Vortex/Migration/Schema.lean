import Vortex.Foundation.JsNumber
import Vortex.Foundation.Relational
import Vortex.Migration.Transform

/-!
# The SQLite schema

The tables the migration loads, as the table migrations create them: columns, `NOT
NULL`, primary keys and unique indexes, checks and foreign keys. A check fails only
when it is false, so `NULL` passes it, and a column's default does not apply where a
value is bound, `NULL` included.
-/

namespace Vortex.Migration

open Foundation
open Foundation.Relational (Database Reference Row TableSchema)
open Foundation.JsString (isLeadSurrogate isTrailSurrogate)

abbrev Schema : Type := TableSchema JsString JsString SqliteValue

abbrev SqliteRow : Type := Row JsString SqliteValue

abbrev SqliteDatabase : Type := Database JsString JsString SqliteValue

/-! ## Checks -/

/-- The characters of a text. -/
def characters : JsString → Nat
  | [] => 0
  | [_] => 1
  | lead :: trail :: rest =>
      if isLeadSurrogate lead && isTrailSurrogate trail then characters rest + 1
      else characters (trail :: rest) + 1

/-- SQLite's `length`, which stops at a NUL. -/
def sqlLength (text : JsString) : Nat := characters (text.takeWhile (· ≠ 0))

/-- The text of a stored value. -/
def SqliteValue.shown : SqliteValue → JsString
  | .num number => number
  | .text value => value

/-- A check on one column, which `NULL` passes. -/
def checkColumn (column : String) (holds : SqliteValue → Bool) (row : SqliteRow) : Bool :=
  match row (js column) with
  | none => true
  | some value => holds value

def oneOf (column : String) (values : List String) : SqliteRow → Bool :=
  checkColumn column fun value => values.any fun allowed => value = .text (js allowed)

def isFlag (column : String) : SqliteRow → Bool :=
  checkColumn column fun value => value = .num (js "0") || value = .num (js "1")

def lengthBetween (low high : Nat) (column : String) : SqliteRow → Bool :=
  checkColumn column fun value =>
    low ≤ sqlLength value.shown && sqlLength value.shown ≤ high

def isVolume (column : String) : SqliteRow → Bool :=
  checkColumn column fun value =>
    match value with
    | .text _ => false
    | .num text =>
        match JsString.number? text with
        | none => false
        | some number => 0 ≤ number && number ≤ 1

def differ (first second : String) (row : SqliteRow) : Bool :=
  match row (js first), row (js second) with
  | some left, some right => left ≠ right
  | _, _ => true

/-- `length(coalesce(json_extract(column, '$.customCss'), '')) <= bound`. -/
def customCssWithin (bound : Nat) (column : String) : SqliteRow → Bool :=
  checkColumn column fun value =>
    match Json.parse value.shown with
    | none => false
    | some settings =>
        match settings.get? (js "customCss") with
        | none | some .null => true
        | some (.bool _) => 1 ≤ bound
        | some (.str text) => sqlLength text ≤ bound
        | some other => sqlLength (Json.stringify other) ≤ bound

/-- `json_type(column) = 'array' and json_array_length(column) <= bound`. -/
def arrayWithin (bound : Nat) (column : String) : SqliteRow → Bool :=
  checkColumn column fun value =>
    match Json.parse value.shown with
    | some (.arr items) => items.length ≤ bound
    | _ => false

/-! ## Tables -/

/-- A column and whether it is `NOT NULL`. -/
def notNull (name : String) : JsString × Bool := (js name, true)

def nullable (name : String) : JsString × Bool := (js name, false)

/-- `CREATE TABLE` with its unique indexes. Every foreign key leads to the `id` of a table. -/
def createTable (name : String) (columns : List (JsString × Bool)) (unique : List (List String))
    (checks : List (SqliteRow → Bool)) (foreignKeys : List (String × String)) : Schema where
  name := js name
  columns := columns.map Prod.fst
  required := (columns.filter Prod.snd).map Prod.fst
  unique := unique.map fun key => key.map js
  checks := checks
  references := foreignKeys.map fun key => ⟨js key.1, js key.2, js "id"⟩

def users : Schema :=
  createTable "users"
    [notNull "id", nullable "email", nullable "email_verified", nullable "two_factor_enabled",
     notNull "username", nullable "display_name", nullable "avatar_url", nullable "banner_color",
     nullable "banner_url", nullable "bio", nullable "custom_tag", notNull "status",
     nullable "status_message", nullable "status_emoji", nullable "status_expires_at",
     notNull "discoverable", notNull "appearance_settings", notNull "interests",
     notNull "activity_visibility", nullable "onboarding_completed_at",
     nullable "last_heartbeat_at", nullable "last_online_at", nullable "game_activity",
     notNull "created_at", notNull "updated_at"]
    [["id"], ["email"], ["username"]]
    [customCssWithin 50000 "appearance_settings",
     lengthBetween 0 8 "status_emoji",
     arrayWithin 15 "interests",
     oneOf "status" ["online", "idle", "dnd", "invisible", "offline"],
     oneOf "activity_visibility" ["public", "friends", "private"]]
    []

def badgeDefinitions : Schema :=
  createTable "badge_definitions"
    [notNull "id", notNull "name", notNull "description", notNull "icon", notNull "color",
     notNull "category", notNull "rarity", notNull "sort_order", notNull "created_at"]
    [["id"]]
    [oneOf "category" ["general", "activity", "moderation", "special", "server"],
     oneOf "rarity" ["common", "uncommon", "rare", "legendary"]]
    []

def dmChannels : Schema :=
  createTable "dm_channels"
    [notNull "id", nullable "name", nullable "icon_url", nullable "owner_id", notNull "is_group",
     notNull "is_encrypted", notNull "encryption_key_version",
     notNull "encryption_membership_epoch", notNull "encryption_scheme", nullable "theme_preset",
     notNull "created_at", notNull "updated_at"]
    [["id"]]
    [oneOf "theme_preset" 
       ["twilight", "midnight-neon", "synthwave", "carbon", "oled-black", "frost", "clarity",
        "velvet-dusk", "terminal", "sakura-blossom", "frosthearth", "night-city-neural"],
     oneOf "encryption_scheme" ["legacy-ecdh", "olm"]]
    [("owner_id", "users")]

def friendships : Schema :=
  createTable "friendships"
    [notNull "id", notNull "requester_id", notNull "addressee_id", notNull "status",
     notNull "created_at", notNull "updated_at"]
    [["id"], ["requester_id", "addressee_id"]]
    [differ "requester_id" "addressee_id",
     oneOf "status" ["pending", "accepted", "blocked"]]
    [("requester_id", "users"), ("addressee_id", "users")]

def notifications : Schema :=
  createTable "notifications"
    [notNull "id", notNull "user_id", notNull "type", notNull "title", nullable "body",
     nullable "icon_url", nullable "server_id", nullable "channel_id", nullable "message_id",
     notNull "read", notNull "created_at"]
    [["id"]]
    [oneOf "type" 
       ["mention", "reply", "friend_request", "server_invite", "system", "verify_prompt"]]
    [("user_id", "users")]

def userNotificationPreferences : Schema :=
  createTable "user_notification_preferences"
    [notNull "user_id", notNull "mention_notifications", notNull "reply_notifications",
     notNull "friend_request_notifications", notNull "server_invite_notifications",
     notNull "system_notifications", notNull "sound_enabled", notNull "quiet_hours_enabled",
     notNull "quiet_hours_start", notNull "quiet_hours_end", notNull "quiet_hours_timezone",
     notNull "suppress_everyone", notNull "suppress_role_mentions", notNull "notification_volume",
     notNull "push_notifications", notNull "show_message_preview", notNull "show_unread_badge",
     notNull "updated_at"]
    [["user_id"]]
    [isVolume "notification_volume"]
    [("user_id", "users")]

def pushSubscriptions : Schema :=
  createTable "push_subscriptions"
    [notNull "id", notNull "user_id", notNull "endpoint", notNull "p256dh", notNull "auth",
     nullable "user_agent", notNull "created_at"]
    [["id"], ["user_id", "endpoint"]]
    []
    [("user_id", "users")]

def userPinnedItems : Schema :=
  createTable "user_pinned_items"
    [notNull "id", notNull "user_id", notNull "pin_type", notNull "label", nullable "sublabel",
     nullable "ref_id", nullable "url", notNull "position", notNull "created_at"]
    [["id"]]
    [oneOf "pin_type" ["message", "channel", "file", "link"],
     lengthBetween 1 120 "label",
     lengthBetween 0 80 "sublabel",
     lengthBetween 0 2000 "url"]
    [("user_id", "users")]

def userActivityLog : Schema :=
  createTable "user_activity_log"
    [notNull "id", notNull "user_id", notNull "event_type", notNull "summary", nullable "ref_id",
     nullable "ref_type", nullable "ref_label", nullable "ref_url", notNull "created_at"]
    [["id"]]
    [oneOf "event_type" 
       ["message_posted", "file_uploaded", "server_joined", "reaction_added", "channel_created"],
     oneOf "ref_type" ["channel", "server", "message", "file"],
     lengthBetween 1 200 "summary",
     lengthBetween 0 80 "ref_label",
     lengthBetween 0 500 "ref_url"]
    [("user_id", "users")]

def userConnections : Schema :=
  createTable "user_connections"
    [notNull "id", notNull "user_id", notNull "provider", notNull "provider_user_id",
     nullable "username", nullable "display_name", nullable "profile_url", notNull "metadata",
     notNull "created_at", notNull "updated_at"]
    [["id"], ["user_id", "provider"], ["provider", "provider_user_id"]]
    [oneOf "provider" ["steam", "github", "x", "twitch", "youtube", "reddit", "website"]]
    [("user_id", "users")]

def userBadges : Schema :=
  createTable "user_badges"
    [notNull "id", notNull "user_id", notNull "badge_id", notNull "awarded_at",
     nullable "awarded_by", nullable "metadata"]
    [["id"], ["user_id", "badge_id"]]
    []
    [("user_id", "users"), ("badge_id", "badge_definitions"), ("awarded_by", "users")]

def reports : Schema :=
  createTable "reports"
    [notNull "id", notNull "reporter_id", notNull "reported_user_id",
     nullable "reported_message_id", nullable "server_id", notNull "reason",
     nullable "description", notNull "status", nullable "reviewed_by", nullable "reviewed_at",
     notNull "created_at", notNull "updated_at"]
    [["id"]]
    [oneOf "reason" ["spam", "harassment", "inappropriate_content", "other"],
     oneOf "status" ["pending", "reviewed", "resolved", "dismissed"],
     lengthBetween 0 1000 "description"]
    [("reporter_id", "users"), ("reported_user_id", "users"), ("reviewed_by", "users")]

def attachments : Schema :=
  createTable "attachments"
    [notNull "id", notNull "message_id", notNull "url", notNull "filename", notNull "size",
     notNull "content_type", nullable "width", nullable "height", notNull "created_at",
     nullable "expires_at", nullable "last_accessed_at", nullable "purged_at",
     nullable "lifetime_days", nullable "decay_cost", nullable "blur_hash", nullable "variants",
     nullable "processing_state"]
    [["id"]]
    [oneOf "processing_state" ["pending", "processing", "completed", "failed"]]
    []

def authSecurityPolicies : Schema :=
  createTable "auth_security_policies"
    [notNull "user_id", notNull "passkey_first", notNull "enforce_passkey",
     notNull "fallback_password", notNull "fallback_magic_link", notNull "updated_at"]
    [["user_id"]]
    [isFlag "passkey_first",
     isFlag "enforce_passkey",
     isFlag "fallback_password",
     isFlag "fallback_magic_link"]
    [("user_id", "users")]

def loginRiskEvents : Schema :=
  createTable "login_risk_events"
    [notNull "id", notNull "user_id", notNull "email", nullable "ip_address",
     nullable "user_agent", nullable "location_hint", notNull "risk_score", notNull "reasons",
     notNull "suspicious", notNull "succeeded", notNull "created_at"]
    [["id"]]
    []
    [("user_id", "users")]

def loginAttempts : Schema :=
  createTable "login_attempts"
    [notNull "id", notNull "email", nullable "ip_address", notNull "attempted_at"]
    [["id"]]
    []
    []

def dmChannelMembers : Schema :=
  createTable "dm_channel_members"
    [notNull "dm_channel_id", notNull "user_id", nullable "added_by", notNull "added_at"]
    [["dm_channel_id", "user_id"]]
    []
    [("dm_channel_id", "dm_channels"), ("user_id", "users"), ("added_by", "users")]

def directMessages : Schema :=
  createTable "direct_messages"
    [notNull "id", notNull "sender_id", nullable "receiver_id", nullable "content",
     nullable "read_at", nullable "edited_at", nullable "deleted_at", nullable "dm_channel_id",
     nullable "reply_to_id", notNull "created_at"]
    [["id"]]
    []
    [("sender_id", "users"), ("receiver_id", "users"), ("dm_channel_id", "dm_channels"),
     ("reply_to_id", "direct_messages")]

def dmReadStates : Schema :=
  createTable "dm_read_states"
    [notNull "user_id", notNull "dm_channel_id", notNull "last_read_at"]
    [["user_id", "dm_channel_id"]]
    []
    [("user_id", "users"), ("dm_channel_id", "dm_channels")]

def dmReactions : Schema :=
  createTable "dm_reactions"
    [notNull "dm_id", notNull "user_id", notNull "emoji", notNull "created_at"]
    [["dm_id", "user_id", "emoji"]]
    []
    [("dm_id", "direct_messages"), ("user_id", "users")]

def dmAttachments : Schema :=
  createTable "dm_attachments"
    [notNull "id", notNull "dm_id", notNull "url", notNull "filename", notNull "size",
     notNull "content_type", notNull "created_at", nullable "expires_at",
     nullable "last_accessed_at", nullable "purged_at", nullable "lifetime_days",
     nullable "decay_cost"]
    [["id"]]
    []
    [("dm_id", "direct_messages")]

/-! ## The order of the tables -/

/-- A table and the columns its export is ordered by. -/
structure TableSpec where
  name : JsString
  orderBy : List JsString

def tableSpec (name : String) (orderBy : List String) : TableSpec := ⟨js name, orderBy.map js⟩

def MIGRATION_TABLES : List TableSpec :=
  [tableSpec "users" ["id"],
   tableSpec "badge_definitions" ["id"],
   tableSpec "dm_channels" ["id"],
   tableSpec "friendships" ["id"],
   tableSpec "notifications" ["id"],
   tableSpec "user_notification_preferences" ["user_id"],
   tableSpec "push_subscriptions" ["id"],
   tableSpec "user_pinned_items" ["id"],
   tableSpec "user_activity_log" ["id"],
   tableSpec "user_connections" ["id"],
   tableSpec "user_badges" ["id"],
   tableSpec "reports" ["id"],
   tableSpec "attachments" ["id"],
   tableSpec "auth_security_policies" ["user_id"],
   tableSpec "login_risk_events" ["id"],
   tableSpec "login_attempts" ["id"],
   tableSpec "dm_channel_members" ["dm_channel_id", "user_id"],
   tableSpec "direct_messages" ["created_at", "id"],
   tableSpec "dm_read_states" ["user_id", "dm_channel_id"],
   tableSpec "dm_reactions" ["dm_id", "user_id", "emoji"],
   tableSpec "dm_attachments" ["id"]]

/-- What the table migrations create, as far as the migration loads it. -/
def schemas : List Schema :=
  [users, badgeDefinitions, dmChannels, friendships, notifications, userNotificationPreferences,
   pushSubscriptions, userPinnedItems, userActivityLog, userConnections, userBadges, reports,
   attachments, authSecurityPolicies, loginRiskEvents, loginAttempts, dmChannelMembers,
   directMessages, dmReadStates, dmReactions, dmAttachments]

/-- `PRAGMA table_info`, with the constraints. -/
def schemaOf (name : JsString) : Option Schema := schemas.find? fun table => table.name = name

/-- Every table comes after the tables it refers to. -/
theorem ordered_schemas : Relational.ordered [] schemas = true := by
  decide

theorem names_schemas : MIGRATION_TABLES.map TableSpec.name = schemas.map (·.name) := by
  decide

theorem find?_name {tables : List Schema} (distinct : (tables.map (·.name)).Nodup) :
    ∀ table ∈ tables, tables.find? (fun other => other.name = table.name) = some table := by
  induction tables with
  | nil => simp
  | cons first rest ih =>
    rw [List.map_cons, List.nodup_cons] at distinct
    intro table member
    rcases List.mem_cons.mp member with rfl | later
    · simp
    · have other : first.name ≠ table.name := by
        intro same
        exact distinct.1 (same ▸ List.mem_map_of_mem later)
      rw [List.find?_cons_of_neg (by simpa using other)]
      exact ih distinct.2 table later

theorem schemaOf_name : ∀ table ∈ schemas, schemaOf table.name = some table :=
  find?_name (by decide)

/-- Replies are the only references within a table. -/
theorem self_references : ∀ table ∈ schemas, ∀ reference ∈ table.references,
    reference.table = table.name →
      table.name = directMessages.name ∧ reference.column = js "reply_to_id" ∧
        reference.target = js "id" := by
  decide

end Vortex.Migration
