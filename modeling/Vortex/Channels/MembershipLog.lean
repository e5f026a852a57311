import Vortex.Channels.Outsiders

/-!
# The membership log

Every change of the members of a group should leave one entry in `dm_membership_events`,
and nothing else should. The entry is written after the response, whether or not the
deletion has removed anybody, and under an id that the client may choose: a removal of
somebody who is not there is logged, and a change whose id is taken is not. The entries
that are written say what their payload says, whatever the client has sent.
-/

variable {clientSignature : Option ClientSignature} {body : Option Json}

namespace Vortex.Channels

open Foundation List
open Vortex.Gateway (internalError truthy)
open Vortex.Olm (canonicalMembershipEventPayload)

/-! ## What the log should say -/

/-- The payload of an entry is the canonical one of its own columns. -/
def DmMembershipEvent.Authentic (entry : DmMembershipEvent) : Prop :=
  entry.payload = canonicalMembershipEventPayload entry.id entry.createdAt entry.dmChannelId
    entry.action entry.actorId entry.targetId

def Database.AuthenticLog (database : Database) : Prop :=
  ∀ entry ∈ database.membershipEvents.rows, entry.Authentic

/-- A change of the members of a channel, and who has made it. -/
structure MemberChange where
  dmChannelId : JsString
  action : JsString
  actorId : JsString
  targetId : JsString
deriving DecidableEq

def DmMembershipEvent.change (entry : DmMembershipEvent) : MemberChange :=
  ⟨entry.dmChannelId, entry.action, entry.actorId, entry.targetId⟩

/-- The members of a database that are not members in another. -/
def Database.membersNotIn (database other : Database) : List DmChannelMember :=
  database.members.rows.filter fun row => !other.isMember row.dmChannelId row.userId

def removalAction (actorId targetId : JsString) : JsString :=
  if targetId = actorId then js "member_left" else js "member_removed"

/-- The changes between two states of `dm_channel_members`. -/
def changesOf (actorId : JsString) (before after : Database) : List MemberChange :=
  (after.membersNotIn before).map (fun row =>
      ⟨row.dmChannelId, js "member_added", actorId, row.userId⟩) ++
    (before.membersNotIn after).map fun row =>
      ⟨row.dmChannelId, removalAction actorId row.userId, actorId, row.userId⟩

/-- The log has grown by one entry for each change of the members, and by no other. -/
def Logged (actorId : JsString) (before after : Database) : Prop :=
  ∃ entries, after.membershipEvents.rows = before.membershipEvents.rows ++ entries ∧
    entries.map DmMembershipEvent.change = changesOf actorId before after

/-! ## Which requests are logged as they should be -/

/-- The id of the entry a request writes: the client's, where it is accepted. -/
def entryId (surroundings : Surroundings) (clientSignature : Option ClientSignature) : JsString :=
  ((acceptedSignature surroundings clientSignature).map fun (claimed, _) => claimed.eventId).getD
    surroundings.drawn

/-- The deferred write of the log goes through: nothing throws, and the id is not taken. -/
def Records (surroundings : Surroundings) (clientSignature : Option ClientSignature)
    (database : Database) : Prop :=
  (clientSignature.isSome && surroundings.fails .device || surroundings.fails .insertEvent) = false ∧
    database.membershipEvents.find? (entryId surroundings clientSignature) = none

def bodyText (body : Option Json) (name : JsString) : Option JsString :=
  body.bind fun body => Json.string? (body.get? name)

def bodySignature (body : Option Json) : Option ClientSignature :=
  parseClientSignature (bodyText body (js "deviceId")) (bodyText body (js "signature"))
    (bodyText body (js "eventId")) (bodyText body (js "timestamp"))

def querySignature (query : JsString → Option JsString) : Option ClientSignature :=
  parseClientSignature (query (js "deviceId")) (query (js "signature")) (query (js "eventId"))
    (query (js "timestamp"))

/-- A request that adds a user: a member asks for it in a group, and the user is not in. -/
structure Adds (request : DmRequest) (body : Option Json) (database : Database)
    (userId : JsString) : Prop where
  reads : request.surroundings.fails .membership = false ∧
    request.surroundings.fails .channel = false
  member : database.isMember request.channelId request.user = true
  group : (database.channels.find? request.channelId).any DmChannel.isGroup = true
  named : bodyText body (js "userId") = some userId ∧ userId ≠ []
  inserts : request.surroundings.fails .insertMember = false
  absent : database.isMember request.channelId userId = false

/-- A request that comes to the deletion of a member. -/
structure Removes (request : DmRequest) (query : JsString → Option JsString) (database : Database) :
    Prop where
  entitled : targetOf request query = request.user ∨
    request.surroundings.fails .channel = false ∧
      (database.channels.find? request.channelId).bind DmChannel.ownerId = some request.user
  deletes : request.surroundings.fails .deleteMember = false

/-- An addition is recorded, and a removal is if and only if it removes a member. -/
def Attested (request : DmRequest) (database : Database) : Prop :=
  match request.route with
  | .addMember body => ∀ userId, Adds request body database userId →
      Records request.surroundings (bodySignature body) database
  | .removeMember query => Removes request query database →
      (database.isMember request.channelId (targetOf request query) = true ↔
        Records request.surroundings (querySignature query) database)
  | _ => True

/-- The requests that add and remove members. -/
def DmRequest.OfMembers (request : DmRequest) : Prop :=
  match request.route with
  | .addMember _ | .removeMember _ => True
  | _ => False

/-! ## One entry -/

section

variable {surroundings : Surroundings} {dmChannelId action actorId targetId : JsString}
  {clientSignature : Option ClientSignature} {database : Database}

theorem members_record : (recordMembershipEvent surroundings dmChannelId action actorId targetId
    clientSignature database).members = database.members := by
  unfold recordMembershipEvent
  split
  · rfl
  · rfl

/-- The entry a request writes. -/
def entryOf (surroundings : Surroundings) (dmChannelId action actorId targetId : JsString)
    (clientSignature : Option ClientSignature) : DmMembershipEvent :=
  let accepted := acceptedSignature surroundings clientSignature
  let timestamp := (accepted.map fun (claimed, _) => claimed.timestamp).getD surroundings.nowIso
  { id := entryId surroundings clientSignature
    dmChannelId, action, actorId, targetId
    actorDeviceId := accepted.map fun (claimed, _) => claimed.deviceId
    actorEd25519Key := accepted.map fun (_, key) => key
    payload := canonicalMembershipEventPayload (entryId surroundings clientSignature) timestamp
      dmChannelId action actorId targetId
    signature := accepted.map fun (claimed, _) => claimed.signature
    createdAt := timestamp }

theorem authentic_entryOf : (entryOf surroundings dmChannelId action actorId targetId
    clientSignature).Authentic := rfl

theorem log_record (records : Records surroundings clientSignature database) :
    (recordMembershipEvent surroundings dmChannelId action actorId targetId clientSignature
      database).membershipEvents.rows = database.membershipEvents.rows ++
        [entryOf surroundings dmChannelId action actorId targetId clientSignature] := by
  unfold recordMembershipEvent
  rw [if_neg (by rw [records.1]; exact Bool.false_ne_true)]
  dsimp only
  rw [Table.rows_insertIgnore]
  exact if_pos (Option.isNone_iff_eq_none.mpr records.2)

theorem log_unrecorded (lost : ¬ Records surroundings clientSignature database) :
    (recordMembershipEvent surroundings dmChannelId action actorId targetId clientSignature
      database).membershipEvents.rows = database.membershipEvents.rows := by
  unfold recordMembershipEvent
  split
  · rfl
  · rename_i written
    dsimp only
    rw [Table.rows_insertIgnore, if_neg]
    exact fun free => lost ⟨Bool.eq_false_iff.mpr written, Option.isNone_iff_eq_none.mp free⟩

/-- A write that follows a change of the members is right if and only if it goes through
exactly when there has been a change. -/
theorem logged_record_iff (before database : Database) (changed : Prop)
    (log : database.membershipEvents = before.membershipEvents)
    (some : changed → changesOf actorId before database = [⟨dmChannelId, action, actorId, targetId⟩])
    (none : ¬ changed → changesOf actorId before database = []) :
    Logged actorId before (recordMembershipEvent surroundings dmChannelId action actorId targetId
        clientSignature database) ↔ (changed ↔ Records surroundings clientSignature before) := by
  have same : changesOf actorId before (recordMembershipEvent surroundings dmChannelId action actorId
      targetId clientSignature database) = changesOf actorId before database := by
    simp only [changesOf, Database.membersNotIn, Database.isMember, members_record]
  have records : Records surroundings clientSignature before ↔
      Records surroundings clientSignature database := by
    unfold Records
    rw [log]
  unfold Logged
  rw [same, records, ← log]
  by_cases written : Records surroundings clientSignature database
  · rw [log_record written]
    simp only [append_cancel_left_eq, exists_eq_left', map_cons, map_nil, written, iff_true]
    constructor
    · intro logged
      by_contra unchanged
      rw [none unchanged] at logged
      cases logged
    · intro change
      rw [some change]
      rfl
  · rw [log_unrecorded written]
    simp only [self_eq_append_right, exists_eq_left, map_nil, written, iff_false]
    constructor
    · intro logged change
      rw [some change] at logged
      cases logged
    · exact fun unchanged => (none unchanged).symm

end

/-! ## Changes -/

section

variable {database : Database} {dmChannelId userId : JsString}

theorem isMember_of_mem {row : DmChannelMember} (member : row ∈ database.members.rows) :
    database.isMember row.dmChannelId row.userId = true := by
  have found : database.members.find? (row.dmChannelId, row.userId) = some row :=
    Table.find?_eq_some.mpr ⟨member, rfl⟩
  rw [Database.isMember, found]
  rfl

/-- A database whose members are all members in another. -/
theorem membersNotIn_eq_nil {other : Database}
    (within : ∀ row ∈ database.members.rows, row ∈ other.members.rows) :
    database.membersNotIn other = [] := by
  apply filter_eq_nil_iff.mpr
  intro row member
  rw [isMember_of_mem (within row member)]
  exact Bool.false_ne_true

theorem changesOf_unchanged (actorId : JsString) {after : Database}
    (same : after.members = database.members) : changesOf actorId database after = [] := by
  unfold changesOf
  rw [membersNotIn_eq_nil fun row member => same ▸ member,
    membersNotIn_eq_nil fun row member => same ▸ member]
  rfl

/-- A database with one member more. -/
abbrev Database.withMember (database : Database) (row : DmChannelMember) : Database :=
  { database with members := database.members.insertIgnore row }

/-- A database without a member. -/
abbrev Database.withoutMember (database : Database) (dmChannelId userId : JsString) : Database :=
  { database with
    members := database.members.deleteWhere fun row =>
      row.dmChannelId = dmChannelId && row.userId = userId }

theorem changesOf_withMember (row : DmChannelMember)
    (absent : database.isMember row.dmChannelId row.userId = false) (actorId : JsString) :
    changesOf actorId database (database.withMember row) =
      [⟨row.dmChannelId, js "member_added", actorId, row.userId⟩] := by
  have free : (database.members.find? (row.dmChannelId, row.userId)).isNone = true := by
    rw [Database.isMember, Option.isSome_eq_false_iff] at absent
    exact absent
  have rows : (database.withMember row).members.rows = database.members.rows ++ [row] := by
    change (database.members.insertIgnore row).rows = _
    rw [Table.rows_insertIgnore, if_pos free]
  have joined : (database.withMember row).membersNotIn database = [row] := by
    have old : database.membersNotIn database = [] := membersNotIn_eq_nil fun _ member => member
    unfold Database.membersNotIn at old ⊢
    rw [rows, filter_append, old]
    simp only [filter_cons, absent, Bool.not_false, ↓reduceIte, filter_nil, nil_append]
  have left : database.membersNotIn (database.withMember row) = [] := by
    apply membersNotIn_eq_nil
    intro other member
    rw [rows]
    exact mem_append_left _ member
  rw [changesOf, joined, left]
  rfl

/-- The members that are gone after a deletion are those it was for. -/
theorem membersNotIn_withoutMember :
    database.membersNotIn (database.withoutMember dmChannelId userId) =
      (database.members.find? (dmChannelId, userId)).toList := by
  rw [← Table.filter_key]
  unfold Database.membersNotIn
  apply filter_congr
  intro row member
  have present := isMember_of_mem member
  by_cases same : (row.dmChannelId, row.userId) = (dmChannelId, userId)
  · have gone : (database.withoutMember dmChannelId userId).isMember row.dmChannelId row.userId =
        false := by
      rw [Database.isMember, Option.isSome_eq_false_iff, Option.isNone_iff_eq_none,
        Table.find?_eq_none]
      intro other kept equal
      have different := (Table.mem_deleteWhere.mp kept).2
      rw [equal.trans same |> Prod.mk.inj |>.1, equal.trans same |> Prod.mk.inj |>.2] at different
      simp at different
    rw [gone, decide_eq_true same]
    rfl
  · have stays : (database.withoutMember dmChannelId userId).isMember row.dmChannelId row.userId =
        true := by
      apply isMember_of_mem
      refine Table.mem_deleteWhere.mpr ⟨member, ?_⟩
      rw [← Bool.not_eq_true, Bool.and_eq_true, decide_eq_true_eq, decide_eq_true_eq]
      exact fun both => same (Prod.ext both.1 both.2)
    rw [stays, decide_eq_false same]
    rfl

theorem changesOf_withoutMember (actorId : JsString) :
    changesOf actorId database (database.withoutMember dmChannelId userId) =
      if database.isMember dmChannelId userId = true then
        [⟨dmChannelId, removalAction actorId userId, actorId, userId⟩]
      else [] := by
  have joined : (database.withoutMember dmChannelId userId).membersNotIn database = [] :=
    membersNotIn_eq_nil fun _ member => (Table.mem_deleteWhere.mp member).1
  rw [changesOf, joined, membersNotIn_withoutMember, Database.isMember]
  cases found : database.members.find? (dmChannelId, userId) with
  | none => rfl
  | some row =>
    obtain ⟨-, same⟩ := Table.find?_eq_some.mp found
    obtain ⟨rfl, rfl⟩ := Prod.mk.inj same
    rfl

end

/-! ## The routes -/

section

variable {request : DmRequest} {database : Database}

theorem logged_refuse (response : HttpResponse) :
    Logged request.user database (database.refuse response).database := by
  refine ⟨[], (append_nil _).symm, ?_⟩
  exact (changesOf_unchanged request.user rfl).symm

theorem truthy_of_named {name text : JsString} (named : bodyText body name = some text)
    (given : text ≠ []) : (body.bind fun body => body.get? name).any truthy = true := by
  cases body with
  | none => cases named
  | some body =>
    change Json.string? (body.get? name) = some text at named
    change (body.get? name).any truthy = true
    unfold Json.string? at named
    split at named
    · rename_i value found
      cases named
      rw [found]
      simp only [Option.any_some, truthy, Bool.not_eq_true', isEmpty_eq_false_iff]
      exact given
    · cases named

/-- A refusal of a request that adds nobody. -/
theorem logged_refused {response : HttpResponse}
    (nobody : ∀ userId, ¬ Adds request body database userId) :
    Logged request.user database (database.refuse response).database ↔
      ∀ userId, Adds request body database userId →
        Records request.surroundings (bodySignature body) database :=
  iff_of_true (logged_refuse _) fun userId adds => absurd adds (nobody userId)

/-- An addition is logged if and only if its entry is written. -/
theorem logged_addMember_iff :
    Logged request.user database (addMember request body database).database ↔
      ∀ userId, Adds request body database userId →
        Records request.surroundings (bodySignature body) database := by
  unfold addMember
  dsimp only
  split
  · rename_i throws
    refine logged_refused fun userId adds => ?_
    rw [adds.reads.1, adds.reads.2] at throws
    cases throws
  rename_i reads
  rw [Bool.or_eq_true, not_or, Bool.not_eq_true, Bool.not_eq_true] at reads
  split
  · rename_i stranger
    refine logged_refused fun userId adds => ?_
    rw [adds.member] at stranger
    cases stranger
  rename_i member
  rw [Bool.not_eq_true, Bool.not_eq_false'] at member
  split
  · rename_i pair
    refine logged_refused fun userId adds => ?_
    rw [adds.group] at pair
    cases pair
  rename_i group
  rw [Bool.not_eq_true, Bool.not_eq_false'] at group
  split
  iterate 2
    refine logged_refused fun userId adds => ?_
    cases adds.named.1
  rename_i body _
  split
  · rename_i falsy
    refine logged_refused fun userId adds => ?_
    have given := truthy_of_named adds.named.1 adds.named.2
    change (body.get? (js "userId")).any truthy = true at given
    rw [given] at falsy
    cases falsy
  rename_i given
  split
  · rename_i unnamed
    refine logged_refused fun userId adds => ?_
    cases unnamed.symm.trans adds.named.1
  rename_i userId named
  split
  · rename_i fails
    refine logged_refused fun other adds => ?_
    rw [adds.inserts] at fails
    cases fails
  rename_i inserts
  split
  · rename_i present
    refine logged_refused fun other adds => ?_
    obtain rfl : userId = other := Option.some.inj (named.symm.trans adds.named.1)
    rw [adds.absent] at present
    cases present
  rename_i absent
  rw [Bool.not_eq_true] at inserts absent
  have nonempty : userId ≠ [] := by
    rintro rfl
    unfold Json.string? at named
    split at named
    · rename_i value found
      cases named
      rw [found] at given
      exact given rfl
    · cases named
  have adds : Adds request (some body) database userId :=
    ⟨reads, member, group, ⟨named, nonempty⟩, inserts, absent⟩
  have change := changesOf_withMember ⟨request.channelId, userId, some request.user⟩ absent
    request.user
  refine Iff.trans (logged_record_iff database (database.withMember _) True rfl (fun _ => change)
    (absurd trivial ·)) ?_
  rw [true_iff]
  exact ⟨fun records _ _ => records, fun records => records userId adds⟩

theorem logged_dropMember_iff {targetUserId : JsString} :
    Logged request.user database
        (dropMember request targetUserId clientSignature database).database ↔
      (request.surroundings.fails .deleteMember = false →
        (database.isMember request.channelId targetUserId = true ↔
          Records request.surroundings clientSignature database)) := by
  unfold dropMember
  dsimp only
  split
  · rename_i fails
    refine iff_of_true (logged_refuse _) fun deletes => ?_
    rw [deletes] at fails
    cases fails
  · rename_i deletes
    rw [Bool.not_eq_true] at deletes
    refine Iff.trans (logged_record_iff database
      (database.withoutMember request.channelId targetUserId)
      (database.isMember request.channelId targetUserId = true) rfl ?_ ?_) ?_
    · exact fun present => (changesOf_withoutMember request.user).trans (if_pos present)
    · exact fun absent => (changesOf_withoutMember request.user).trans (if_neg absent)
    · exact ⟨fun logged _ => logged, fun logged => logged deletes⟩

theorem logged_removeMember_iff {query : JsString → Option JsString} :
    Logged request.user database (removeMember request query database).database ↔
      (Removes request query database →
        (database.isMember request.channelId (targetOf request query) = true ↔
          Records request.surroundings (querySignature query) database)) := by
  unfold removeMember
  dsimp only
  split
  · rename_i self
    refine logged_dropMember_iff.trans ?_
    exact ⟨fun logged removes => logged removes.deletes,
      fun logged deletes => logged ⟨.inl self, deletes⟩⟩
  · rename_i other
    split
    · rename_i fails
      refine iff_of_true (logged_refuse _) fun removes => ?_
      rw [(removes.entitled.resolve_left other).1] at fails
      cases fails
    · rename_i reads
      rw [Bool.not_eq_true] at reads
      split
      · rename_i stranger
        exact iff_of_true (logged_refuse _) fun removes =>
          absurd (removes.entitled.resolve_left other).2 stranger
      · rename_i owner
        rw [not_not] at owner
        refine logged_dropMember_iff.trans ?_
        exact ⟨fun logged removes => logged removes.deletes,
          fun logged deletes => logged ⟨.inr ⟨reads, owner⟩, deletes⟩⟩

theorem logged_iff (ofMembers : request.OfMembers) :
    Logged request.user database (serve request database).database ↔ Attested request database := by
  unfold serve Attested
  unfold DmRequest.OfMembers at ofMembers
  cases route : request.route with
  | addMember body => exact logged_addMember_iff
  | removeMember query => exact logged_removeMember_iff
  | _ => rw [route] at ofMembers; exact ofMembers.elim

theorem authentic_record {dmChannelId action actorId targetId : JsString}
    {surroundings : Surroundings} (authentic : database.AuthenticLog) :
    (recordMembershipEvent surroundings dmChannelId action actorId targetId clientSignature
      database).AuthenticLog := by
  intro entry member
  by_cases records : Records surroundings clientSignature database
  · rw [log_record records] at member
    rcases mem_append.mp member with member | new
    · exact authentic entry member
    · rw [mem_singleton.mp new]
      exact authentic_entryOf
  · rw [log_unrecorded records] at member
    exact authentic entry member

theorem authentic_dropMember {targetUserId : JsString} (authentic : database.AuthenticLog) :
    (dropMember request targetUserId clientSignature database).database.AuthenticLog := by
  unfold dropMember
  dsimp only
  split
  · exact authentic
  · exact authentic_record authentic

/-- The entries that are written are authentic, whatever the client has sent. -/
theorem authentic_serve (ofMembers : request.OfMembers) (authentic : database.AuthenticLog) :
    (serve request database).database.AuthenticLog := by
  unfold serve
  unfold DmRequest.OfMembers at ofMembers
  cases route : request.route with
  | addMember body =>
    dsimp only
    unfold addMember
    dsimp only
    repeat' split
    all_goals first
      | exact authentic
      | exact authentic_record authentic
  | removeMember query =>
    dsimp only
    unfold removeMember
    dsimp only
    split
    · exact authentic_dropMember authentic
    · split
      · exact authentic
      · split
        · exact authentic
        · exact authentic_dropMember authentic
  | _ => rw [route] at ofMembers; exact ofMembers.elim

end

/-! ## Sequences of requests -/

theorem authentic_serveAll {requests : List DmRequest}
    (ofMembers : ∀ request ∈ requests, request.OfMembers) {database : Database}
    (authentic : database.AuthenticLog) : (serveAll database requests).AuthenticLog := by
  induction requests generalizing database with
  | nil => exact authentic
  | cons request rest ih =>
    refine ih (fun other member => ofMembers other (mem_cons_of_mem _ member)) ?_
    exact authentic_serve (ofMembers request mem_cons_self) authentic

/-- The log is complete and authentic after a sequence of requests. -/
structure RightLog (database : Database) (requests : List DmRequest) : Prop where
  complete : Throughout (fun request before =>
    Logged request.user before (serve request before).database) database requests
  authentic : (serveAll database requests).AuthenticLog

theorem Logged.length {actorId : JsString} {before after : Database}
    (logged : Logged actorId before after) : after.membershipEvents.rows.length =
      before.membershipEvents.rows.length + (changesOf actorId before after).length := by
  obtain ⟨entries, grown, changes⟩ := logged
  rw [grown, length_append, ← changes, length_map]

namespace Sample

/-- Bob leaves the group once more. -/
def leavingAgain : DmRequest :=
  { leaving with surroundings := { surroundings with drawn := js "e2" } }

/-- The fields a client signs an event with. -/
def signed (name : JsString) : Option JsString :=
  [(js "deviceId", js "phone"), (js "signature", js "s"),
    (js "eventId", js "00000000-0000-4000-8000-000000000000"),
    (js "timestamp", surroundings.nowIso), (js "userId", js "carol")].lookup name

def device : Surroundings :=
  { surroundings with deviceKey := fun _ => some (js "key"), parseDate := fun _ => some 0 }

/-- Alice adds Carol to the group, and signs it. -/
def adding : DmRequest where
  user := js "alice"
  channelId := channel
  surroundings := device
  route := .addMember (some (.obj
    ([js "deviceId", js "signature", js "eventId", js "timestamp", js "userId"].filterMap fun name =>
      (signed name).map fun text => (name, .str text))))

/-- Alice removes Carol with an event id that she has used. -/
def removing : DmRequest := { adding with route := .removeMember signed }

theorem authentic_database : database.AuthenticLog := fun _ none => (not_mem_nil none).elim

theorem adding_attested : Throughout Attested database [adding] := by
  intro earlier request later split
  obtain ⟨rfl, rfl, rfl⟩ : earlier = [] ∧ request = adding ∧ later = [] := by
    cases earlier with
    | nil =>
      obtain ⟨rfl, rfl⟩ := cons.inj split
      exact ⟨rfl, rfl, rfl⟩
    | cons first rest =>
      have impossible := congrArg List.length split
      simp only [length_cons, length_nil, length_append] at impossible
      omega
  exact fun userId _ => ⟨by decide, by rfl⟩

end Sample

end Vortex.Channels
