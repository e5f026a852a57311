import Vortex.Channels.Routes

/-!
# What a user outside a channel can do to it

Sending, reacting, attaching and adding members are checked against the members of the
channel. A message is edited or deleted by whoever sent it, and a member is removed by
whoever owns the channel or asks to leave it, members or not; the requests of outsiders
that change nothing are characterised exactly.
-/

variable {messageId : JsString} {change : DirectMessage → DirectMessage}

namespace Vortex.Channels

open Foundation
open Vortex.Gateway (ChannelInfo authorize failWith internalError post storeMessage)

/-! ## What is protected -/

namespace Database

/-- The content and the deletion mark of every message of a channel. -/
def marks (database : Database) (channelId : JsString) :
    List (JsString × Option JsString × Option JsString) :=
  (database.messages.rows.filter fun row => row.dmChannelId = some channelId).map fun row =>
    (row.id, row.content, row.deletedAt)

def membersOf (database : Database) (channelId : JsString) : List DmChannelMember :=
  database.members.rows.filter fun row => row.dmChannelId = channelId

def logOf (database : Database) (channelId : JsString) : List DmMembershipEvent :=
  database.membershipEvents.rows.filter fun row => row.dmChannelId = channelId

end Database

/-- A request changes nothing of a channel, and no event of the channel comes of it. -/
structure Untouched (channelId : JsString) (before : Database) (outcome : Outcome) : Prop where
  messages : outcome.database.marks channelId = before.marks channelId
  members : outcome.database.membersOf channelId = before.membersOf channelId
  log : outcome.database.logOf channelId = before.logOf channelId
  silent : ∀ event ∈ outcome.events, event.channelId ≠ channelId

/-- The user of a request is not a member of its channel. -/
def Outside (request : DmRequest) (database : Database) : Prop :=
  database.isMember request.channelId request.user = false

/-- A request that comes to nothing even without a check of the membership: a removal that
fails, or is of somebody else in a channel that the user does not own; an edit or a
deletion that is refused, or hits no message of the user, or one that is already so. -/
def Harmless (request : DmRequest) (database : Database) : Prop :=
  match request.route with
  | .removeMember query =>
      request.surroundings.fails .deleteMember = true ∨ targetOf request query ≠ request.user ∧
        (request.surroundings.fails .channel = true ∨
          (database.channels.find? request.channelId).bind DmChannel.ownerId ≠ some request.user)
  | .editMessage messageId body =>
      request.surroundings.limited = true ∨ request.surroundings.fails .updateMessage = true ∨
        ∀ content, editedContent body = some content → ∀ row ∈ database.messages.rows,
          request.sent messageId row = true → row.content = some content
  | .deleteMessage messageId =>
      request.surroundings.limited = true ∨ request.surroundings.fails .updateMessage = true ∨
        ∀ row ∈ database.messages.rows, request.sent messageId row = true →
          row.content = none ∧ row.deletedAt = some request.surroundings.nowIso
  | _ => True

section

variable {request : DmRequest} {database : Database}

theorem untouched_refuse (response : HttpResponse) :
    Untouched request.channelId database (database.refuse response) :=
  ⟨rfl, rfl, rfl, fun _ none => nomatch none⟩

/-! ## The checked routes -/

section

variable (outside : Outside request database)

include outside

theorem untouched_addMember (body : Option Json) :
    Untouched request.channelId database (addMember request body database) := by
  unfold addMember
  dsimp only
  split
  · exact untouched_refuse _
  · rw [show database.isMember request.channelId request.user = false from outside]
    exact untouched_refuse _

theorem verifyMembershipAndMessage_outside (messageId : JsString) :
    ∃ response, verifyMembershipAndMessage request messageId database = .error response := by
  unfold verifyMembershipAndMessage
  rw [show database.isMember request.channelId request.user = false from outside]
  split
  · exact ⟨_, rfl⟩
  · exact ⟨_, rfl⟩

theorem untouched_addReaction (messageId : JsString) (body : Option Json) :
    Untouched request.channelId database (addReaction request messageId body database) := by
  obtain ⟨response, refused⟩ := verifyMembershipAndMessage_outside outside messageId
  unfold addReaction
  rw [refused]
  split
  · exact untouched_refuse _
  · split
    · exact untouched_refuse _
    · exact untouched_refuse _

theorem untouched_removeReaction (messageId : JsString) (body : Option Json) :
    Untouched request.channelId database (removeReaction request messageId body database) := by
  obtain ⟨response, refused⟩ := verifyMembershipAndMessage_outside outside messageId
  unfold removeReaction
  rw [refused]
  split
  · exact untouched_refuse _
  · split
    · exact untouched_refuse _
    · exact untouched_refuse _

theorem verifyMembership_outside :
    ∃ response, verifyMembership request database = some response := by
  unfold verifyMembership
  rw [show database.isMember request.channelId request.user = false from outside]
  split
  · exact ⟨_, rfl⟩
  · exact ⟨_, rfl⟩

theorem untouched_upload (file : Option Upload) :
    Untouched request.channelId database (upload request file database) := by
  obtain ⟨response, refused⟩ := verifyMembership_outside outside
  unfold upload
  rw [refused]
  split
  · exact untouched_refuse _
  · exact untouched_refuse _

theorem untouched_deleteUpload (key : Option JsString) :
    Untouched request.channelId database (deleteUpload request key database) := by
  obtain ⟨response, refused⟩ := verifyMembership_outside outside
  unfold deleteUpload
  rw [refused]
  exact untouched_refuse _

theorem untouched_attach (body : Option Json) :
    Untouched request.channelId database (attach request body database) := by
  obtain ⟨response, refused⟩ := verifyMembership_outside outside
  unfold attach
  rw [refused]
  exact untouched_refuse _

theorem not_mem_memberIds :
    (database.memberIds request.channelId).contains request.user = false := by
  rw [Outside, Database.isMember, Option.isSome_eq_false_iff, Option.isNone_iff_eq_none,
    Table.find?_eq_none] at outside
  rw [← Bool.not_eq_true, List.contains_iff_mem]
  intro member
  obtain ⟨row, listed, same⟩ := List.mem_map.mp member
  obtain ⟨stored, here⟩ := List.mem_filter.mp listed
  exact outside row stored (Prod.ext (of_decide_eq_true here) same)

theorem authorize_outside :
    ∃ response, authorize (messageEnvironment request database) = .error response := by
  unfold authorize messageEnvironment
  dsimp only
  cases request.surroundings.limited with
  | true => exact ⟨_, rfl⟩
  | false =>
    cases request.surroundings.fails .membership with
    | true => exact ⟨_, rfl⟩
    | false =>
      refine ⟨.error 403 (js "Forbidden"), ?_⟩
      change (if (!(database.memberIds request.channelId).contains request.user) = true then _
        else _ : Except HttpResponse JsString) = _
      rw [not_mem_memberIds outside]
      rfl

theorem untouched_sendMessage (body : Option Json) :
    Untouched request.channelId database (sendMessage request body database) := by
  obtain ⟨response, refused⟩ := authorize_outside outside
  have stopped : post (messageEnvironment request database) request.channelId body =
      ⟨response, none, none⟩ := by
    unfold post storeMessage
    rw [refused]
    rfl
  unfold sendMessage
  rw [stopped]
  exact ⟨rfl, rfl, rfl, fun _ none => nomatch none⟩

end

/-! ## The routes without a check -/

/-- An update of the messages a user has sent is seen in the channel unless it changes nothing. -/
theorem marks_updateWhere {keeps : ∀ row, (change row).id = row.id}
    (inside : ∀ row, (change row).dmChannelId = row.dmChannelId) :
    ({ database with
        messages := database.messages.updateWhere (request.sent messageId) change keeps } :
      Database).marks request.channelId = database.marks request.channelId ↔
    ∀ row ∈ database.messages.rows, request.sent messageId row = true →
      (change row).content = row.content ∧ (change row).deletedAt = row.deletedAt := by
  have same : ∀ row : DirectMessage, (if request.sent messageId row then change row else
      row).dmChannelId = row.dmChannelId := by
    intro row
    split
    · exact inside row
    · rfl
  unfold Database.marks Table.updateWhere
  dsimp only
  rw [List.filter_map, List.map_map, Function.comp_def, Function.comp_def]
  simp only [same]
  rw [List.map_inj_left]
  constructor
  · intro kept row member sent
    have here : row.dmChannelId = some request.channelId := by
      simp only [DmRequest.sent, Bool.and_eq_true, decide_eq_true_eq] at sent
      exact sent.2
    have unchanged := kept row (List.mem_filter.mpr ⟨member, decide_eq_true here⟩)
    rw [if_pos sent] at unchanged
    exact ⟨congrArg (·.2.1) unchanged, congrArg (·.2.2) unchanged⟩
  · intro kept row member
    split
    · rename_i sent
      obtain ⟨content, deletedAt⟩ := kept row (List.mem_filter.mp member).1 sent
      rw [keeps, content, deletedAt]
    · rfl

theorem untouched_updateSent {missing : JsString} {keeps : ∀ row, (change row).id = row.id}
    {found : DirectMessage → HttpResponse}
    (inside : ∀ row, (change row).dmChannelId = row.dmChannelId) :
    Untouched request.channelId database
        (updateSent request messageId change keeps found missing database) ↔
      ∀ row ∈ database.messages.rows, request.sent messageId row = true →
        (change row).content = row.content ∧ (change row).deletedAt = row.deletedAt := by
  unfold updateSent
  split
  · rename_i absent
    refine iff_of_true (untouched_refuse _) fun row member sent => ?_
    exact absurd sent (List.find?_eq_none.mp absent row member)
  · rw [← marks_updateWhere inside]
    constructor
    · exact fun untouched => untouched.messages
    · exact fun same => ⟨same, rfl, rfl, fun _ none => nomatch none⟩

theorem untouched_editMessage {body : Option Json} :
    Untouched request.channelId database (editMessage request messageId body database) ↔
      request.surroundings.limited = true ∨ request.surroundings.fails .updateMessage = true ∨
        ∀ content, editedContent body = some content → ∀ row ∈ database.messages.rows,
          request.sent messageId row = true → row.content = some content := by
  unfold editMessage
  split
  · rename_i limited
    exact iff_of_true (untouched_refuse _) (.inl limited)
  · rename_i unlimited
    rw [or_iff_right unlimited]
    cases body with
    | none => exact iff_of_true (untouched_refuse _) (.inr fun _ impossible => nomatch impossible)
    | some body =>
      rw [if_neg (by simp)]
      cases edited : editedContent (some body) with
      | none =>
        exact iff_of_true (untouched_refuse _) (.inr fun _ impossible => nomatch impossible)
      | some content =>
        dsimp only
        split
        · rename_i fails
          exact iff_of_true (untouched_refuse _) (.inl fails)
        · rename_i succeeds
          rw [or_iff_right succeeds]
          refine (untouched_updateSent ?_).trans ?_
          · exact fun _ => rfl
          · simp only [and_true, Option.some.injEq, forall_eq']
            exact forall₃_congr fun _ _ _ => eq_comm

theorem untouched_deleteMessage :
    Untouched request.channelId database (deleteMessage request messageId database) ↔
      request.surroundings.limited = true ∨ request.surroundings.fails .updateMessage = true ∨
        ∀ row ∈ database.messages.rows, request.sent messageId row = true →
          row.content = none ∧ row.deletedAt = some request.surroundings.nowIso := by
  unfold deleteMessage
  split
  · rename_i limited
    exact iff_of_true (untouched_refuse _) (.inl limited)
  · rename_i unlimited
    rw [or_iff_right unlimited]
    split
    · rename_i fails
      exact iff_of_true (untouched_refuse _) (.inl fails)
    · rename_i succeeds
      rw [or_iff_right succeeds]
      refine (untouched_updateSent ?_).trans ?_
      · exact fun _ => rfl
      · exact forall₃_congr fun _ _ _ => and_congr eq_comm eq_comm

/-- A removal is announced in the channel unless it fails. -/
theorem untouched_dropMember {targetUserId : JsString} {signature : Option ClientSignature} :
    Untouched request.channelId database (dropMember request targetUserId signature database) ↔
      request.surroundings.fails .deleteMember = true := by
  unfold dropMember
  dsimp only
  split
  · rename_i fails
    exact iff_of_true (untouched_refuse _) fails
  · rename_i succeeds
    refine iff_of_false (fun untouched => ?_) succeeds
    exact untouched.silent _ List.mem_cons_self rfl

theorem untouched_removeMember {query : JsString → Option JsString} :
    Untouched request.channelId database (removeMember request query database) ↔
      request.surroundings.fails .deleteMember = true ∨ targetOf request query ≠ request.user ∧
        (request.surroundings.fails .channel = true ∨
          (database.channels.find? request.channelId).bind DmChannel.ownerId ≠ some request.user) := by
  unfold removeMember
  dsimp only
  split
  · rename_i self
    rw [untouched_dropMember, or_iff_left fun other => other.1 self]
  · rename_i other
    split
    · rename_i fails
      exact iff_of_true (untouched_refuse _) (.inr ⟨other, .inl fails⟩)
    · rename_i succeeds
      split
      · rename_i stranger
        exact iff_of_true (untouched_refuse _) (.inr ⟨other, .inr stranger⟩)
      · rename_i owner
        rw [untouched_dropMember, or_iff_left fun harmless => harmless.2.elim succeeds owner]

/-! ## Outsiders -/

/-- A request of an outsider leaves its channel alone exactly when it is harmless. -/
theorem untouched_iff (outside : Outside request database) :
    Untouched request.channelId database (serve request database) ↔ Harmless request database := by
  unfold serve Harmless
  cases request.route with
  | addMember body => exact iff_true_intro (untouched_addMember outside body)
  | removeMember query => exact untouched_removeMember
  | sendMessage body => exact iff_true_intro (untouched_sendMessage outside body)
  | editMessage messageId body => exact untouched_editMessage
  | deleteMessage messageId => exact untouched_deleteMessage
  | addReaction messageId body =>
    exact iff_true_intro (untouched_addReaction outside messageId body)
  | removeReaction messageId body =>
    exact iff_true_intro (untouched_removeReaction outside messageId body)
  | upload file => exact iff_true_intro (untouched_upload outside file)
  | deleteUpload key => exact iff_true_intro (untouched_deleteUpload outside key)
  | attach body => exact iff_true_intro (untouched_attach outside body)

end

/-- Every request that comes from outside its channel, after those before it, is so. -/
def Outsiders (property : DmRequest → Database → Prop) (database : Database)
    (requests : List DmRequest) : Prop :=
  ∀ earlier request later, requests = earlier ++ request :: later →
    Outside request (serveAll database earlier) → property request (serveAll database earlier)

/-- In every sequence of requests the outsiders leave the channels alone if and only if
each of their requests is harmless when it is served. -/
theorem outsiders_untouched_iff (database : Database) (requests : List DmRequest) :
    Outsiders (fun request before => Untouched request.channelId before (serve request before))
        database requests ↔ Outsiders Harmless database requests := by
  refine forall_congr' fun earlier => forall_congr' fun request =>
    forall₃_congr fun _ _ outside => ?_
  exact untouched_iff outside

namespace Sample

def channel : JsString := js "c"

/-- Alice and Bob are the members of Alice's group, in which Bob has sent a message. -/
def database : Database where
  members := ⟨[⟨channel, js "alice", none⟩, ⟨channel, js "bob", some (js "alice")⟩], by decide⟩
  channels := ⟨[⟨channel, some (js "alice"), true, ⟨false, 1, js "olm"⟩⟩], by decide⟩
  messages := ⟨[⟨js "m", js "bob", some (js "hi"), none, none, some channel, .null⟩], by decide⟩
  reactions := .empty
  attachments := .empty
  membershipEvents := .empty
  uploads := []

def surroundings : Surroundings where
  limited := false
  isBlocked := fun _ => .ok false
  deviceKey := fun _ => none
  nowMs := 0
  nowIso := js "1970-01-01T00:00:00.000Z"
  parseDate := fun _ => none
  drawn := js "e"
  columns := []
  senderProfile := .ok none
  shown := fun _ => .null
  fails := fun _ => false

def asks (user : JsString) (route : Route) : DmRequest := ⟨user, channel, surroundings, route⟩

/-- Bob leaves the group, and then edits the message he has sent there. -/
def leaving : DmRequest := asks (js "bob") (.removeMember fun _ => none)

def editing : DmRequest :=
  asks (js "bob") (.editMessage (js "m") (some (.obj [(js "content", .str (js "ho"))])))

end Sample

/-- Bob, who has left the group, changes a message of it. -/
theorem former_member_edits :
    ¬ Outsiders (fun request before => Untouched request.channelId before (serve request before))
      Sample.database [Sample.leaving, Sample.editing] := by
  intro untouched
  have outside :
      (serveAll Sample.database [Sample.leaving]).isMember Sample.channel (js "bob") = false := by
    decide
  have same := (untouched [Sample.leaving] Sample.editing [] rfl outside).messages
  exact absurd same (by decide)

end Vortex.Channels
