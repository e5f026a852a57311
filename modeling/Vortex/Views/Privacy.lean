import Vortex.Views.Search

/-!
# What the read routes tell of a user

A user's account data, and whether the user is invisible or offline, are both no business
of anybody else. The channel routes and the search select columns and keep the first from
everybody; the friends list joins whole rows of users and tells it to whom it shows a
friendship. The second is a column that the channel routes select as well, so it shows to
everybody who shares a channel with the user, or reads a message of the user.
-/

namespace Vortex.Views

open Foundation
open Vortex.Gateway (UserStatus)

theorem Database.isMember_iff {database : Database} {channelId userId : JsString} :
    database.isMember channelId userId = true ↔ userId ∈ database.memberIds channelId := by
  simp [isMember, memberIds, and_assoc]

/-- No friendship between two users is shown to the first. A block is shown to the user
who made it only. -/
def Unbefriended (database : Database) (viewer id : JsString) : Prop :=
  ∀ row ∈ database.friendships.rows, row.links viewer id = true → row.shownTo viewer = false

/-! ## Account data -/

/-- The routes that must not tell account data answer alike in two states. -/
structure AccountsAlike (engine : Engine) (searches : SearchEngine) (viewer : JsString)
    (first second : Database) : Prop where
  friends : ∀ fails limit after,
    friends fails first viewer limit after = friends fails second viewer limit after
  channels : ∀ fails, dmChannels engine fails first viewer = dmChannels engine fails second viewer
  channel : ∀ fails channelId before,
    dmChannel engine fails first viewer channelId before =
      dmChannel engine fails second viewer channelId before
  search : ∀ fails request,
    search searches fails first viewer request = search searches fails second viewer request

section Accounts

variable {engine : Engine} {searches : SearchEngine} {database : Database}
  {viewer id : JsString}

/-- Nothing but the friends list tells account data. -/
theorem accountsAlike_of_unbefriended (other : viewer ≠ id)
    (apart : Unbefriended database viewer id) (account : Account) :
    AccountsAlike engine searches viewer (database.withAccount id account) database := by
  have profiles : ∀ wanted,
      (database.withAccount id account).profile? wanted = database.profile? wanted :=
    Database.map_user?_alter fun _ => rfl
  have senders : ∀ wanted,
      (database.withAccount id account).sender? wanted = database.sender? wanted :=
    Database.map_user?_alter fun _ => rfl
  have authors : (database.withAccount id account).author? = database.author? :=
    funext (Database.map_user?_alter fun _ => rfl)
  constructor
  · intro fails limit after
    exact friends_alter other apart fails limit after
  · intro fails
    exact dmChannels_alter fun _ _ _ wanted _ => profiles wanted
  · intro fails channelId before
    exact dmChannel_alter before (fun _ _ wanted _ => profiles wanted)
      fun _ row _ _ => senders row.senderId
  · intro fails request
    exact search_alter authors request

theorem AccountsAlike.of_both {first second : Database}
    (left : AccountsAlike engine searches viewer first database)
    (right : AccountsAlike engine searches viewer second database) :
    AccountsAlike engine searches viewer first second where
  friends fails limit after := (left.friends fails limit after).trans
    (right.friends fails limit after).symm
  channels fails := (left.channels fails).trans (right.channels fails).symm
  channel fails channelId before := (left.channel fails channelId before).trans
    (right.channel fails channelId before).symm
  search fails request := (left.search fails request).trans (right.search fails request).symm

theorem UserRow.email_eq {first second : UserRow}
    (same : toSnakeCase first.json = toSnakeCase second.json) :
    first.account.email = second.account.email := by
  unfold UserRow.json at same
  rw [toSnakeCase_obj rfl, toSnakeCase_obj rfl] at same
  simp only [UserRow.columns, List.map_cons, snakeMember, Json.obj.injEq, List.cons.injEq,
    Prod.mk.injEq, true_and, toSnakeCase_text?] at same
  exact text?_inj same.2.1

/-- A friendship that is shown tells the e-mail address. -/
theorem not_accountsAlike {user : UserRow} (found : database.user? id = some user)
    {row : FriendshipRow} (member : row ∈ database.friendships.rows)
    (linked : row.links viewer id = true) (shown : row.shownTo viewer = true)
    {first second : Account} (differ : first.email ≠ second.email) :
    ¬AccountsAlike engine searches viewer (database.withAccount id first)
      (database.withAccount id second) := by
  intro alike
  exact differ (UserRow.email_eq
    (snake_json_eq_of_friends found member linked shown (alike.friends _)))

end Accounts

/-- Two states that differ in a user's account data are alike to another user, whatever
the data are, exactly when the friends list shows no friendship of the two. -/
theorem accounts_alike_iff (engine : Engine) (searches : SearchEngine) {database : Database}
    {viewer id : JsString} (other : viewer ≠ id) {user : UserRow}
    (found : database.user? id = some user) :
    (∀ first second, AccountsAlike engine searches viewer (database.withAccount id first)
      (database.withAccount id second)) ↔ Unbefriended database viewer id := by
  constructor
  · intro alike row member linked
    cases shown : row.shownTo viewer with
    | false => rfl
    | true =>
        refine absurd (alike ⟨none, none, none, .null⟩ ⟨some [], none, none, .null⟩) ?_
        exact not_accountsAlike found member linked shown (by simp)
  · intro apart first second
    exact (accountsAlike_of_unbefriended other apart first).of_both
      (accountsAlike_of_unbefriended other apart second)

section Example

def plainEngine : Engine where
  visit := List.dedup
  visits _ := List.Perm.refl _
  newest rows := rows.mergeSort fun first second => binary second.createdAt ≤ binary first.createdAt
  orders rows := by
    refine ⟨List.mergeSort_perm rows _, ?_⟩
    have sorted := @List.pairwise_mergeSort _
      (fun first second : DirectMessageRow =>
        decide (binary second.createdAt ≤ binary first.createdAt))
      (fun first second third above below => by
        simp only [decide_eq_true_eq] at above below ⊢
        exact le_trans below above)
      (fun first second => by simpa using le_total _ _) rows
    exact sorted.imp fun ordered => by simpa using ordered
  time _ := 0

/-- A search engine on tables without messages. -/
def emptySearch : SearchEngine where
  run _ _ := .ok []
  date := some

def plainUser (id : JsString) : UserRow where
  id := id
  account := ⟨some (js "u@x"), some true, some false, .null⟩
  username := id
  displayName := none
  avatarUrl := none
  bannerColor := none
  bannerUrl := none
  bio := none
  customTag := none
  status := .offline
  statusMessage := none
  statusEmoji := none
  statusExpiresAt := none
  discoverable := true
  interests := []
  activityVisibility := js "public"
  onboardingCompletedAt := none
  lastHeartbeatAt := none
  lastOnlineAt := none
  gameActivity := .null
  createdAt := js "t0"
  updatedAt := js "t0"

def plainFriendship (status : FriendshipStatus) : FriendshipRow :=
  ⟨js "f", js "u", js "v", status, js "t0", js "t0"⟩

/-- Two users with one friendship row. -/
def pair (status : FriendshipStatus) : Database where
  users := ⟨[plainUser (js "u"), plainUser (js "v")], by decide⟩
  friendships := ⟨[plainFriendship status], by simp⟩
  channels := ⟨[], by decide⟩
  members := []
  messages := ⟨[], by decide⟩
  readStates := []
  attachments := []
  reactions := []

theorem unbefriended_blocked : Unbefriended (pair .blocked) (js "v") (js "u") := by
  intro row member linked
  obtain rfl := List.mem_singleton.mp member
  decide

end Example

/-- A user who blocked another keeps the account data from that user. -/
theorem accounts_alike_when_blocked :
    AccountsAlike plainEngine emptySearch (js "v")
      ((pair .blocked).withAccount (js "u") ⟨some (js "a@x"), some true, some false, .null⟩)
      ((pair .blocked).withAccount (js "u") ⟨some (js "b@x"), some true, some false, .null⟩) :=
  (accounts_alike_iff plainEngine emptySearch (by decide)
    (rfl : (pair .blocked).user? (js "u") = some (plainUser (js "u")))).mpr
    unbefriended_blocked _ _

/-- A friend reads the e-mail address. -/
theorem friend_reads_account :
    ¬AccountsAlike plainEngine emptySearch (js "v")
      ((pair .accepted).withAccount (js "u") ⟨some (js "a@x"), some true, some false, .null⟩)
      ((pair .accepted).withAccount (js "u") ⟨some (js "b@x"), some true, some false, .null⟩) :=
  not_accountsAlike (rfl : (pair .accepted).user? (js "u") = some (plainUser (js "u")))
    List.mem_cons_self (by decide) (by decide) (by decide)

/-! ## Presence -/

/-- The routes that must not tell an invisible user from one who is offline answer alike in
two states. -/
structure PresencesAlike (engine : Engine) (viewer : JsString) (first second : Database) :
    Prop where
  friends : ∀ fails limit after,
    friends fails first viewer limit after = friends fails second viewer limit after
  channels : ∀ fails, dmChannels engine fails first viewer = dmChannels engine fails second viewer
  channel : ∀ fails channelId before,
    dmChannel engine fails first viewer channelId before =
      dmChannel engine fails second viewer channelId before
  message : ∀ fails channelId messageId,
    dmMessage fails first viewer channelId messageId =
      dmMessage fails second viewer channelId messageId

theorem PresencesAlike.of_both {engine : Engine} {viewer : JsString}
    {first second database : Database} (left : PresencesAlike engine viewer first database)
    (right : PresencesAlike engine viewer second database) :
    PresencesAlike engine viewer first second where
  friends fails limit after := (left.friends fails limit after).trans
    (right.friends fails limit after).symm
  channels fails := (left.channels fails).trans (right.channels fails).symm
  channel fails channelId before := (left.channel fails channelId before).trans
    (right.channel fails channelId before).symm
  message fails channelId messageId := (left.message fails channelId messageId).trans
    (right.message fails channelId messageId).symm

/-- Nothing brings a user before the eyes of another: no friendship that is shown, no
channel they share, and no message of the user in a channel the other reads. -/
structure Unmet (database : Database) (viewer id : JsString) : Prop where
  friendship : Unbefriended database viewer id
  channel : ∀ channel ∈ database.channels.rows, database.isMember channel.id viewer = true →
    database.isMember channel.id id = false
  message : ∀ row ∈ database.messages.rows, ∀ channelId, row.dmChannelId = some channelId →
    database.isMember channelId viewer = true → row.senderId ≠ id

section Presences

variable {engine : Engine} {database : Database} {viewer id : JsString}

theorem presencesAlike_of_unmet (other : viewer ≠ id) (unmet : Unmet database viewer id)
    (status : UserStatus) (heartbeat : Option JsString) :
    PresencesAlike engine viewer (database.withPresence id status heartbeat) database := by
  have profiles : ∀ channel ∈ database.channels.rows, database.isMember channel.id viewer = true →
      ∀ wanted ∈ database.memberIds channel.id,
        (database.withPresence id status heartbeat).profile? wanted = database.profile? wanted := by
    intro channel stored own wanted member
    have different : wanted ≠ id := by
      intro same
      have shared := Database.isMember_iff.mpr (same ▸ member)
      rw [unmet.channel channel stored own] at shared
      exact Bool.false_ne_true shared
    exact congrArg (Option.map UserRow.profile) (Database.user?_alter_of_ne different)
  have senders : ∀ channelId, database.isMember channelId viewer = true →
      ∀ row ∈ database.messages.rows, row.dmChannelId = some channelId →
        (database.withPresence id status heartbeat).sender? row.senderId =
          database.sender? row.senderId := by
    intro channelId own row stored placed
    exact congrArg (Option.map UserRow.sender)
      (Database.user?_alter_of_ne (unmet.message row stored channelId placed own))
  constructor
  · intro fails limit after
    exact friends_alter other unmet.friendship fails limit after
  · intro fails
    exact dmChannels_alter profiles
  · intro fails channelId before
    refine dmChannel_alter before ?_ (senders channelId)
    intro present own
    obtain ⟨channel, found⟩ := Option.isSome_iff_exists.mp present
    obtain ⟨stored, rfl⟩ := Table.find?_eq_some.mp found
    exact profiles channel stored own
  · intro fails channelId messageId
    exact dmMessage_alter messageId (senders channelId)

theorem UserRow.status_eq {first second : UserRow}
    (same : toSnakeCase first.json = toSnakeCase second.json) :
    first.status.text = second.status.text := by
  unfold UserRow.json at same
  rw [toSnakeCase_obj rfl, toSnakeCase_obj rfl] at same
  simp only [UserRow.columns, List.map_cons, snakeMember, Json.obj.injEq, List.cons.injEq,
    Prod.mk.injEq, true_and, toSnakeCase_str, Json.str.injEq] at same
  exact same.2.2.2.2.2.2.2.2.2.2.2.1

/-- What brings a user before the eyes of another tells the stored status. -/
theorem unmet_of_presencesAlike {user : UserRow} (found : database.user? id = some user)
    {first second : UserStatus} (differ : first.text ≠ second.text)
    {left right : Option JsString}
    (alike : PresencesAlike engine viewer (database.withPresence id first left)
      (database.withPresence id second right)) : Unmet database viewer id where
  friendship row member linked := by
    cases shown : row.shownTo viewer with
    | false => rfl
    | true =>
      exact absurd (UserRow.status_eq
        (snake_json_eq_of_friends found member linked shown (alike.friends _))) differ
  channel channel stored own := by
    cases shared : database.isMember channel.id id with
    | false => rfl
    | true =>
      exact absurd (status_eq_of_dmChannel found (Table.find?_eq_some.mpr ⟨stored, rfl⟩) own
        (Database.isMember_iff.mp shared) (alike.channel _ channel.id none)) differ
  message row stored channelId placed own sent := differ
    (status_eq_of_dmMessage found stored placed sent own (alike.message _ channelId row.id))

end Presences

/-- An invisible user looks offline to another, whatever the heartbeats are, exactly when
nothing brings the one before the eyes of the other. -/
theorem presences_alike_iff (engine : Engine) {database : Database} {viewer id : JsString}
    (other : viewer ≠ id) {user : UserRow} (found : database.user? id = some user) :
    (∀ first second, PresencesAlike engine viewer (database.withPresence id .invisible first)
      (database.withPresence id .offline second)) ↔ Unmet database viewer id := by
  constructor
  · intro alike
    exact unmet_of_presencesAlike found (by decide) (alike none none)
  · intro unmet first second
    exact (presencesAlike_of_unmet other unmet .invisible first).of_both
      (presencesAlike_of_unmet other unmet .offline second)

theorem presences_alike_when_blocked :
    PresencesAlike plainEngine (js "v")
      ((pair .blocked).withPresence (js "u") .invisible (some (js "t1")))
      ((pair .blocked).withPresence (js "u") .offline none) :=
  (presences_alike_iff plainEngine (by decide)
    (rfl : (pair .blocked).user? (js "u") = some (plainUser (js "u")))).mpr
    { friendship := unbefriended_blocked
      channel := by simp [pair]
      message := by simp [pair] } _ _

/-- A friend sees who is invisible. -/
theorem friend_sees_invisible :
    ¬PresencesAlike plainEngine (js "v")
      ((pair .accepted).withPresence (js "u") .invisible none)
      ((pair .accepted).withPresence (js "u") .offline none) := by
  intro alike
  have unmet := unmet_of_presencesAlike
    (rfl : (pair .accepted).user? (js "u") = some (plainUser (js "u"))) (by decide) alike
  exact absurd (unmet.friendship _ List.mem_cons_self (by decide)) (by decide)

end Vortex.Views
