import Mathlib.Data.List.Lex
import Vortex.Foundation.Table
import Vortex.Foundation.Utf8
import Vortex.Gateway.World
import Vortex.Views.Case

/-!
# What the read routes see

The tables the read routes query, with every column of `users`, the columns each query
selects of a user, and the two ways in which only one user's row may change: in its
account data (`Database.withAccount`) and in its stored presence
(`Database.withPresence`).
-/

namespace Vortex.Views

open Foundation
open Vortex.Gateway (UserStatus)

/-! ## Rows -/

/-- The account data of a user. -/
structure Account where
  email : Option JsString
  emailVerified : Option Bool
  twoFactorEnabled : Option Bool
  appearanceSettings : Json

/-- A row of `users`. -/
structure UserRow where
  id : JsString
  account : Account
  username : JsString
  displayName : Option JsString
  avatarUrl : Option JsString
  bannerColor : Option JsString
  bannerUrl : Option JsString
  bio : Option JsString
  customTag : Option JsString
  status : UserStatus
  statusMessage : Option JsString
  statusEmoji : Option JsString
  statusExpiresAt : Option JsString
  discoverable : Bool
  interests : List JsString
  activityVisibility : JsString
  onboardingCompletedAt : Option JsString
  lastHeartbeatAt : Option JsString
  lastOnlineAt : Option JsString
  gameActivity : Json
  createdAt : JsString
  updatedAt : JsString

inductive FriendshipStatus
  | pending
  | accepted
  | blocked
  deriving DecidableEq

structure FriendshipRow where
  id : JsString
  requesterId : JsString
  addresseeId : JsString
  status : FriendshipStatus
  createdAt : JsString
  updatedAt : JsString

structure DmChannelRow where
  id : JsString
  name : Option JsString
  iconUrl : Option JsString
  isGroup : Bool
  ownerId : Option JsString
  updatedAt : JsString
  isEncrypted : Bool
  encryptionKeyVersion : Nat
  encryptionMembershipEpoch : Nat
  encryptionScheme : JsString
  themePreset : Option JsString

structure DmChannelMemberRow where
  dmChannelId : JsString
  userId : JsString

structure DirectMessageRow where
  id : JsString
  dmChannelId : Option JsString
  senderId : JsString
  content : Option JsString
  editedAt : Option JsString
  deletedAt : Option JsString
  createdAt : JsString
  replyToId : Option JsString

structure DmReadStateRow where
  userId : JsString
  dmChannelId : JsString
  lastReadAt : JsString

structure DmAttachmentRow where
  id : JsString
  dmId : JsString
  filename : JsString
  size : Nat
  contentType : JsString

structure DmReactionRow where
  dmId : JsString
  userId : JsString
  emoji : JsString
  createdAt : JsString

/-- What SQLite compares of a text. -/
def binary (text : JsString) : List Nat := text.encodeUtf8.map UInt8.toNat

structure Database where
  users : Table UserRow JsString UserRow.id
  friendships : Table FriendshipRow (List Nat) fun row => binary row.id
  channels : Table DmChannelRow JsString DmChannelRow.id
  members : List DmChannelMemberRow
  messages : Table DirectMessageRow JsString DirectMessageRow.id
  readStates : List DmReadStateRow
  attachments : List DmAttachmentRow
  reactions : List DmReactionRow

/-! ## Columns of a user -/

def text? : Option JsString → Json
  | none => .null
  | some text => .str text

@[simp] theorem toSnakeCase_text? (text : Option JsString) :
    toSnakeCase (text? text) = text? text := by
  cases text <;> simp [text?]

theorem text?_inj {first second : Option JsString} (same : text? first = text? second) :
    first = second := by
  cases first <;> cases second <;> simp_all [text?]

def flag? : Option Bool → Json
  | none => .null
  | some value => .bool value

/-- Every column. -/
def UserRow.columns (row : UserRow) : List (JsString × Json) :=
  [(js "id", .str row.id), (js "email", text? row.account.email),
    (js "emailVerified", flag? row.account.emailVerified),
    (js "twoFactorEnabled", flag? row.account.twoFactorEnabled),
    (js "username", .str row.username), (js "displayName", text? row.displayName),
    (js "avatarUrl", text? row.avatarUrl), (js "bannerColor", text? row.bannerColor),
    (js "bannerUrl", text? row.bannerUrl), (js "bio", text? row.bio),
    (js "customTag", text? row.customTag), (js "status", .str row.status.text),
    (js "statusMessage", text? row.statusMessage), (js "statusEmoji", text? row.statusEmoji),
    (js "statusExpiresAt", text? row.statusExpiresAt),
    (js "discoverable", .bool row.discoverable),
    (js "appearanceSettings", row.account.appearanceSettings),
    (js "interests", .arr (row.interests.map .str)),
    (js "activityVisibility", .str row.activityVisibility),
    (js "onboardingCompletedAt", text? row.onboardingCompletedAt),
    (js "lastHeartbeatAt", text? row.lastHeartbeatAt),
    (js "lastOnlineAt", text? row.lastOnlineAt), (js "gameActivity", row.gameActivity),
    (js "createdAt", .str row.createdAt), (js "updatedAt", .str row.updatedAt)]

def UserRow.json (row : UserRow) : Json := .obj row.columns

/-- `{ id, username, displayName, avatarUrl }`, as the search selects it. -/
structure Author where
  id : JsString
  username : JsString
  displayName : Option JsString
  avatarUrl : Option JsString

/-- `SENDER_COLUMNS`. -/
structure Sender extends Author where
  status : UserStatus

/-- `USER_PROFILE_COLUMNS`, which the channel list selects too. -/
structure Profile extends Sender where
  statusMessage : Option JsString

def UserRow.author (row : UserRow) : Author :=
  ⟨row.id, row.username, row.displayName, row.avatarUrl⟩

def UserRow.sender (row : UserRow) : Sender := ⟨row.author, row.status⟩

def UserRow.profile (row : UserRow) : Profile := ⟨row.sender, row.statusMessage⟩

def Author.columns (author : Author) : List (JsString × Json) :=
  [(js "id", .str author.id), (js "username", .str author.username),
    (js "displayName", text? author.displayName), (js "avatarUrl", text? author.avatarUrl)]

def Author.json (author : Author) : Json := .obj author.columns

def Sender.columns (sender : Sender) : List (JsString × Json) :=
  sender.toAuthor.columns ++ [(js "status", .str sender.status.text)]

def Sender.json (sender : Sender) : Json := .obj sender.columns

def Profile.json (profile : Profile) : Json :=
  .obj (profile.toSender.columns ++ [(js "statusMessage", text? profile.statusMessage)])

namespace Database

variable (database : Database)

def user? (id : JsString) : Option UserRow := database.users.find? id

def author? (id : JsString) : Option Author := (database.user? id).map UserRow.author

def sender? (id : JsString) : Option Sender := (database.user? id).map UserRow.sender

def profile? (id : JsString) : Option Profile := (database.user? id).map UserRow.profile

def isMember (channelId userId : JsString) : Bool :=
  database.members.any fun row => row.dmChannelId = channelId && row.userId = userId

def memberIds (channelId : JsString) : List JsString :=
  (database.members.filter fun row => row.dmChannelId = channelId).map (·.userId)

/-! ## One user's row -/

/-- The database with another row for a user. -/
def alter (id : JsString) (change : UserRow → UserRow) (keeps : ∀ row, (change row).id = row.id) :
    Database :=
  { database with users := database.users.updateWhere (fun row => row.id = id) change keeps }

/-- The database with other account data for a user. -/
def withAccount (id : JsString) (account : Account) : Database :=
  database.alter id (fun row => { row with account := account }) fun _ => rfl

/-- The database with another presence stored for a user. -/
def withPresence (id : JsString) (status : UserStatus) (heartbeat : Option JsString) : Database :=
  database.alter id
    (fun row => { row with status := status, lastHeartbeatAt := heartbeat }) fun _ => rfl

variable {database} {id : JsString} {change : UserRow → UserRow}
  {keeps : ∀ row, (change row).id = row.id}

theorem user?_alter (wanted : JsString) :
    (database.alter id change keeps).user? wanted =
      (database.user? wanted).map fun row => if row.id = id then change row else row := by
  rw [user?, alter, Table.find?_updateWhere]
  simp only [decide_eq_true_eq]
  rfl

theorem user?_alter_self {row : UserRow} (found : database.user? id = some row) :
    (database.alter id change keeps).user? id = some (change row) := by
  have named : row.id = id := (Table.find?_eq_some.mp found).2
  rw [user?_alter, found, Option.map_some, if_pos named]

theorem user?_alter_of_ne {wanted : JsString} (different : wanted ≠ id) :
    (database.alter id change keeps).user? wanted = database.user? wanted := by
  rw [user?_alter]
  cases found : database.user? wanted with
  | none => rfl
  | some row =>
    have named : row.id = wanted := (Table.find?_eq_some.mp found).2
    rw [Option.map_some, if_neg (by rwa [named])]

/-- What is selected of a user is as before when the change does not touch it. -/
theorem map_user?_alter {α : Type} {select : UserRow → α}
    (untouched : ∀ row, select (change row) = select row) (wanted : JsString) :
    ((database.alter id change keeps).user? wanted).map select =
      (database.user? wanted).map select := by
  rw [user?_alter, Option.map_map]
  refine congrFun (congrArg Option.map (funext fun row => ?_)) _
  dsimp only [Function.comp]
  split
  · exact untouched row
  · rfl

end Database

end Vortex.Views
