import Vortex.Channels.Openings

/-!
# One conversation for two users

A request creates a conversation of two users when it has not found one. Between the
lookup and the creation another request may have created it, and nothing in the tables
keeps the second channel out. Where no creation falls in between, two users have at most
one conversation of either kind, and everyone who asks for it is told its id.
-/

variable {id second first userId user : JsString} {next : Except Unit (List JsString) → OpenProc}
  {encrypted : Bool} {statement : OpenStatement} {memberIds userIds : List JsString}
  {directory : Directory} {index : Nat}

namespace Vortex.Channels.Openings

open Foundation List

/-- A channel that is not a group, with exactly these members. -/
structure Directory.Joins (directory : Directory) (first second : JsString) (encrypted : Bool)
    (id : JsString) : Prop where
  direct : ∃ channel ∈ directory.channels.rows,
    channel.id = id ∧ channel.isGroup = false ∧ channel.info.isEncrypted = encrypted
  members : ∀ userId, userId ∈ directory.memberIds id ↔ userId = first ∨ userId = second

/-- A request of a user for a conversation with one other. -/
structure OpenCall.Asks (call : OpenCall) (user partner : JsString) (encrypted : Bool) : Prop where
  session : call.user = some user
  names : ∃ userIds, call.body = some ⟨some userIds, encrypted⟩ ∧ partner ∈ userIds ∧
    ∀ userId ∈ userIds, userId = user ∨ userId = partner
  other : partner ≠ user

/-- `userIds[0]` -/
def OpenCall.partnerId? (call : OpenCall) : Option JsString :=
  call.body.bind fun body => body.userIds.bind List.head?

/-- Two users have one conversation, and who asks for it is told its id. -/
structure Conversed (first second : JsString) (encrypted : Bool) (pool : OpenPool) : Prop where
  single : ∀ {id other}, pool.shared.Joins first second encrypted id →
    pool.shared.Joins first second encrypted other → id = other
  returned : ∀ (index : Nat) (thread : Thread opening Empty OpenResponse OpenCall) (id : JsString)
    (existing : Bool), pool.threads[index]? = some thread →
    thread.call.Asks first second encrypted ∨ thread.call.Asks second first encrypted →
    thread.result? = some (.ok (.opened id existing)) → pool.shared.Joins first second encrypted id

/-- The creation of a channel for some users that is not a group. -/
def Creates (memberIds : List JsString) (encrypted : Bool) (event : Event opening OpenCall) :
    Prop :=
  ∃ channel members ids,
    (⟨event.request, event.answer⟩ : Proc.Exchange opening) = ⟨.create channel members, .ok ids⟩ ∧
      channel.isGroup = false ∧ channel.info.isEncrypted = encrypted ∧
      ∀ userId, userId ∈ members ↔ userId ∈ memberIds

/-- Who wants a conversation with one other names that user first, and no conversation of
the same users has been created since a request that creates one looked for it. -/
def Apart (pool : OpenPool) : Turn OpenCall → Prop
  | .start call => ∀ user partner encrypted, call.Asks user partner encrypted →
      call.partnerId? = some partner
  | .advance index => ∀ call channel memberIds next,
      pool.threads[index]? = some ⟨call, .await (.create channel memberIds) next⟩ →
      channel.isGroup = false →
      ∀ recent event earlier, pool.history = recent ++ event :: earlier → event.thread = index →
        ∀ other ∈ recent, ¬ Creates memberIds channel.info.isEncrypted other

/-- Members are members of a channel. -/
def Directory.Housed (directory : Directory) : Prop :=
  ∀ id userId, userId ∈ directory.memberIds id →
    ∃ channel ∈ directory.channels.rows, channel.id = id

/-- What holds of the tables: members are members of a channel, a channel that is not a
group has at most two, and no two users have two such channels of one kind. -/
structure Directory.Orderly (directory : Directory) : Prop where
  housed : directory.Housed
  small : ∀ channel ∈ directory.channels.rows, channel.isGroup = false →
    ∃ first second, ∀ userId ∈ directory.memberIds channel.id, userId = first ∨ userId = second
  single : ∀ {first second encrypted id other}, first ≠ second →
    directory.Joins first second encrypted id → directory.Joins first second encrypted other →
    id = other

/-! ## What a statement does -/

section Statements

variable {call : OpenCall} {statement : OpenStatement} {before after : Directory}
  {answer : Except Unit (List JsString)} {channel : DmChannel} {memberIds : List JsString}

theorem mem_memberIds :
    userId ∈ directory.memberIds id ↔
      (id, userId) ∈ directory.members.rows.map fun row => (row.dmChannelId, row.userId) := by
  simp only [Directory.memberIds, mem_map, mem_filter, decide_eq_true_eq, Prod.mk.injEq, and_assoc]

/-- The tables with a new channel and its members. -/
structure Created (channel : DmChannel) (memberIds : List JsString) (before after : Directory) :
    Prop where
  free : ∀ stored ∈ before.channels.rows, stored.id ≠ channel.id
  channels : ∀ stored, stored ∈ after.channels.rows ↔
    stored ∈ before.channels.rows ∨ stored = channel
  members : ∀ id userId, userId ∈ after.memberIds id ↔
    userId ∈ before.memberIds id ∨ id = channel.id ∧ userId ∈ memberIds

/-- A statement has found or made a channel: the user is a member of it; it is one of those
asked for; it is the new one. -/
def Directory.Matches (directory : Directory) : OpenStatement → JsString → Prop
  | .memberships userId, id => userId ∈ directory.memberIds id
  | .nonGroup channelIds encrypted, id => id ∈ channelIds ∧ ∃ channel ∈ directory.channels.rows,
      channel.id = id ∧ channel.isGroup = false ∧ channel.info.isEncrypted = encrypted
  | .create channel memberIds, id => id = channel.id ∧ channel ∈ directory.channels.rows ∧
      ∀ userId, userId ∈ directory.memberIds id ↔ userId ∈ memberIds

/-- A statement throws, or it returns what matches it, or it creates a channel. -/
theorem handle_cases (answered : openHandle call statement before = some (answer, after)) :
    (answer = .error () ∧ after = before) ∨
      (after = before ∧ ∃ found, answer = .ok found ∧ ∀ id, id ∈ found ↔ before.Matches statement id) ∨
      ∃ channel memberIds, statement = .create channel memberIds ∧ answer = .ok [channel.id] ∧
        Created channel memberIds before after := by
  unfold openHandle at answered
  split at answered
  · cases answered
    exact .inl ⟨rfl, rfl⟩
  · have effect := Option.some.inj answered
    cases statement with
    | memberships userId =>
      cases effect
      refine .inr (.inl ⟨rfl, _, rfl, fun id => ?_⟩)
      simp [Directory.Matches, mem_memberIds, and_assoc, and_comm]
    | nonGroup channelIds encrypted =>
      cases effect
      refine .inr (.inl ⟨rfl, _, rfl, fun id => ?_⟩)
      simp only [Directory.Matches, mem_map, mem_filter, Bool.and_eq_true,
        decide_eq_true_eq, contains_iff_mem]
      constructor
      · rintro ⟨channel, ⟨stored, ⟨listed, direct⟩, kind⟩, rfl⟩
        exact ⟨listed, channel, stored, rfl, direct, kind⟩
      · rintro ⟨listed, channel, stored, rfl, direct, kind⟩
        exact ⟨channel, ⟨stored, ⟨listed, direct⟩, kind⟩, rfl⟩
    | create channel memberIds =>
      unfold execute at effect
      dsimp only at effect
      split at effect
      · cases effect
        exact .inl ⟨rfl, rfl⟩
      · rename_i free
        cases effect
        simp only [Bool.or_eq_true, not_or, Bool.not_eq_true, Option.isSome_eq_false_iff,
          Option.isNone_iff_eq_none] at free
        have absent := Table.find?_eq_none.mp free.1
        refine .inr (.inr ⟨channel, memberIds, rfl, rfl, absent, fun stored => ?_, fun id userId => ?_⟩)
        · rw [Table.mem_insertIgnore]
          exact or_congr_right (and_iff_left absent)
        · simp only [mem_memberIds, Members.insertAll]
          rw [Table.mem_keys_insertAll]
          refine or_congr_right ?_
          simp [memberRow, eq_comm, and_comm]

section

variable (created : Created channel memberIds before after)

include created

theorem Created.housed (housed : before.Housed) : after.Housed := by
  intro id userId member
  rcases (created.members id userId).mp member with member | ⟨rfl, -⟩
  · obtain ⟨stored, present, same⟩ := housed id userId member
    exact ⟨stored, (created.channels stored).mpr (.inl present), same⟩
  · exact ⟨channel, (created.channels channel).mpr (.inr rfl), rfl⟩

/-- The members of a new channel are those of its creation. -/
theorem Created.mem_new (housed : before.Housed)
    {userId : JsString} : userId ∈ after.memberIds channel.id ↔ userId ∈ memberIds := by
  rw [created.members]
  constructor
  · rintro (member | ⟨-, member⟩)
    · obtain ⟨stored, present, same⟩ := housed _ _ member
      exact absurd same (created.free stored present)
    · exact member
  · exact fun member => .inr ⟨rfl, member⟩

/-- The members of every other channel stay. -/
theorem Created.mem_other
    (other : id ≠ channel.id) : userId ∈ after.memberIds id ↔ userId ∈ before.memberIds id := by
  rw [created.members]
  exact or_iff_left fun new => other new.1

/-- What has matched still does. -/
theorem Created.matches
    (found : before.Matches statement id) : after.Matches statement id := by
  cases statement with
  | memberships userId => exact (created.members id userId).mpr (.inl found)
  | nonGroup channelIds encrypted =>
    obtain ⟨listed, stored, present, kind⟩ := found
    exact ⟨listed, stored, (created.channels stored).mpr (.inl present), kind⟩
  | create stored members =>
    obtain ⟨rfl, present, whole⟩ := found
    refine ⟨rfl, (created.channels stored).mpr (.inl present), fun userId => ?_⟩
    rw [created.mem_other (created.free stored present), whole]

/-- What matches after a creation did so before, or it is the new channel. -/
theorem Created.matched
    (found : after.Matches statement id) : before.Matches statement id ∨ id = channel.id := by
  by_cases new : id = channel.id
  · exact .inr new
  · left
    cases statement with
    | memberships userId => exact (created.mem_other new).mp found
    | nonGroup channelIds encrypted =>
      obtain ⟨listed, stored, present, rfl, kind⟩ := found
      rcases (created.channels stored).mp present with present | rfl
      · exact ⟨listed, stored, present, rfl, kind⟩
      · exact absurd rfl new
    | create stored members =>
      obtain ⟨rfl, present, whole⟩ := found
      rcases (created.channels stored).mp present with present | rfl
      · refine ⟨rfl, present, fun userId => ?_⟩
        rw [← whole, created.mem_other new]
      · exact absurd rfl new

end

theorem Directory.Joins.symm (joins : directory.Joins first second encrypted id) :
    directory.Joins second first encrypted id :=
  ⟨joins.direct, fun userId => (joins.members userId).trans or_comm⟩

/-- A conversation after a creation was there before, or it is the new channel. -/
theorem Created.joins (created : Created channel memberIds before after)
    (joins : after.Joins first second encrypted id) (old : id ≠ channel.id) :
    before.Joins first second encrypted id := by
  obtain ⟨stored, present, rfl, kind⟩ := joins.direct
  rcases (created.channels stored).mp present with present | rfl
  · exact ⟨⟨stored, present, rfl, kind⟩,
      fun userId => by rw [← joins.members, created.mem_other old]⟩
  · exact absurd rfl old

/-- The tables stay in order where a new channel for two users is their only conversation. -/
theorem Created.orderly (created : Created channel memberIds before after)
    (orderly : before.Orderly)
    (few : channel.isGroup = false → ∃ first second, ∀ userId ∈ memberIds, userId = first ∨ userId = second)
    (alone : channel.isGroup = false → ∀ first second : JsString,
      (∀ userId, userId ∈ memberIds ↔ userId = first ∨ userId = second) →
      ∀ id, ¬ before.Joins first second channel.info.isEncrypted id) : after.Orderly where
  housed := created.housed orderly.housed
  small := by
    intro stored present direct
    rcases (created.channels stored).mp present with old | rfl
    · obtain ⟨first, second, only⟩ := orderly.small stored old direct
      refine ⟨first, second, fun userId member => only userId ?_⟩
      exact (created.mem_other (created.free stored old)).mp member
    · obtain ⟨first, second, only⟩ := few direct
      exact ⟨first, second, fun userId member =>
        only userId ((created.mem_new orderly.housed).mp member)⟩
  single := by
    -- the new channel is no second conversation of its members
    have fresh : ∀ {first second encrypted id}, after.Joins first second encrypted channel.id →
        after.Joins first second encrypted id → id = channel.id := by
      intro first second encrypted id new other
      by_contra old
      obtain ⟨stored, present, same, direct, rfl⟩ := new.direct
      have mine : channel ∈ after.channels.rows := (created.channels channel).mpr (.inr rfl)
      obtain rfl := after.channels.eq_of_key_eq present mine same
      refine alone direct first second (fun userId => ?_) id (created.joins other old)
      rw [← created.mem_new orderly.housed, new.members]
    intro first second encrypted id other distinct left right
    by_cases new : id = channel.id
    · subst new
      exact (fresh left right).symm
    · by_cases newer : other = channel.id
      · subst newer
        exact fresh right left
      · exact orderly.single distinct (created.joins left new) (created.joins right newer)

theorem mem_allMembers : userId ∈ allMembers user userIds ↔ userId = user ∨ userId ∈ userIds := by
  rw [allMembers, mem_eraseDups, mem_cons]

/-- A conversation has at most two members. -/
theorem few_allMembers (small : ¬ 2 < (allMembers user userIds).length) :
    ∃ first second, ∀ userId ∈ allMembers user userIds, userId = first ∨ userId = second := by
  rcases same : allMembers user userIds with _ | ⟨first, _ | ⟨second, _ | ⟨third, more⟩⟩⟩
  · exact ⟨user, user, fun userId none => nomatch none⟩
  · exact ⟨first, first, fun userId only => .inl (mem_singleton.mp only)⟩
  · exact ⟨first, second, fun userId either => by simpa using either⟩
  · rw [same] at small
    exact absurd (Nat.le_add_left 3 more.length) small

/-- Who names one other wants a channel of two. -/
theorem length_allMembers {partner : JsString}
    (only : ∀ userId ∈ userIds, userId = user ∨ userId = partner) :
    ¬ 2 < (allMembers user userIds).length := by
  have others : ∀ userId ∈ userIds.filter fun userId => !userId == user, userId = partner := by
    intro userId kept
    obtain ⟨listed, other⟩ := mem_filter.mp kept
    exact (only userId listed).resolve_left fun same => by simp [same] at other
  have single : ∀ rest : List JsString, (∀ userId ∈ rest, userId = partner) →
      rest.eraseDups.length ≤ 1 := by
    intro rest same
    cases rest with
    | nil => exact Nat.zero_le 1
    | cons head rest =>
      have gone : (rest.filter fun userId => !userId == head) = [] := by
        rw [filter_eq_nil_iff]
        intro userId listed
        simp [same userId (mem_cons_of_mem _ listed), same head mem_cons_self]
      simp [eraseDups_cons, gone]
  rw [allMembers, eraseDups_cons, length_cons]
  have most := single _ others
  omega

end Statements

/-! ## What a request has looked up -/

/-- A request for a channel of its user with those it names. -/
structure OpenCall.Wants (call : OpenCall) (user partnerId : JsString) (others : List JsString)
    (encrypted : Bool) : Prop where
  session : call.user = some user
  names : call.body = some ⟨some (partnerId :: others), encrypted⟩

/-- The channels of two users have been looked up, and none that they share is a conversation
of this kind. -/
def Unfound (seen : List (Proc.Exchange opening)) (user partnerId : JsString) (encrypted : Bool) :
    Prop :=
  ∃ userIds partnerIds, ⟨.memberships user, .ok userIds⟩ ∈ seen ∧
    ⟨.memberships partnerId, .ok partnerIds⟩ ∈ seen ∧
    ∀ id ∈ userIds, id ∈ partnerIds → ∃ ids, id ∈ ids ∧ ⟨.nonGroup ids encrypted, .ok []⟩ ∈ seen

/-- Among the channels two users share a conversation of this kind has been found. -/
def Found (seen : List (Proc.Exchange opening)) (user partnerId : JsString) (encrypted : Bool)
    (id : JsString) : Prop :=
  ∃ userIds partnerIds ids found, ⟨.memberships user, .ok userIds⟩ ∈ seen ∧
    ⟨.memberships partnerId, .ok partnerIds⟩ ∈ seen ∧ ⟨.nonGroup ids encrypted, .ok found⟩ ∈ seen ∧
    id ∈ found ∧ ∀ id ∈ ids, id ∈ userIds ∧ id ∈ partnerIds

/-- The creation of the channel a request wants. -/
def OpenCall.creation (call : OpenCall) (user : JsString) (userIds : List JsString)
    (encrypted : Bool) : OpenStatement :=
  .create (newChannel call user (2 < (allMembers user userIds).length) encrypted)
    (allMembers user userIds)

/-- A request creates only the channel it wants, for two users only when it has found none. -/
def Justified (call : OpenCall) (seen : List (Proc.Exchange opening)) (statement : OpenStatement) :
    Prop :=
  ∀ channel members, statement = .create channel members →
    ∃ user partnerId others encrypted, call.Wants user partnerId others encrypted ∧
      statement = call.creation user (partnerId :: others) encrypted ∧
      (channel.isGroup = false → Unfound seen user partnerId encrypted)

/-- A request tells the id of a channel that it has found or created. -/
def Answers (call : OpenCall) (seen : List (Proc.Exchange opening))
    (result : Except Empty OpenResponse) : Prop :=
  ∀ id existing, result = .ok (.opened id existing) →
    ∃ user partnerId others encrypted, call.Wants user partnerId others encrypted ∧
      (Found seen user partnerId encrypted id ∨
        ∃ found, ⟨call.creation user (partnerId :: others) encrypted, .ok found⟩ ∈ seen ∧ id ∈ found)

abbrev looking (call : OpenCall) : Monitor opening (List (Proc.Exchange opening)) :=
  .recorder (fun _ => true) (Justified call)

section Programs

variable {call : OpenCall} {seen : List (Proc.Exchange opening)} {user partnerId : JsString}
  {others : List JsString} {encrypted : Bool}

/-- A process that looks before it creates. -/
abbrev Looks (call : OpenCall) (process : OpenProc) (seen : List (Proc.Exchange opening)) : Prop :=
  process.Obeys (looking call) (Answers call) seen

theorem looks_refuse (status : Nat) (text : String) : Looks call (refuse status text) seen :=
  fun _ _ same => nomatch same

/-- The last exchange is among those that have been seen. -/
theorem mem_seen {exchange : Proc.Exchange opening} : exchange ∈ seen ++ [exchange] :=
  mem_append_right _ mem_cons_self

/-- A lookup, with every answer to it. -/
theorem looks_perform {statement : OpenStatement}
    {next : Except Unit (List JsString) → OpenProc} (reads : Justified call seen statement)
    (rest : ∀ answer : Except Unit (List JsString), Looks call (next answer) (seen ++ [⟨statement, answer⟩])) :
    Looks call (perform statement >>= next) seen :=
  ⟨reads, rest⟩

theorem looks_create (wants : call.Wants user partnerId others encrypted)
    (unfound : ¬ 2 < (allMembers user (partnerId :: others)).length →
      Unfound seen user partnerId encrypted) :
    Looks call (create call user (allMembers user (partnerId :: others)) encrypted) seen := by
  refine looks_perform ?_ fun answer => ?_
  · rintro channel members same
    refine ⟨user, partnerId, others, encrypted, wants, rfl, fun direct => unfound ?_⟩
    cases same
    exact of_decide_eq_false direct
  · rcases answer with _ | _ | ⟨id, ids⟩
    · exact looks_refuse _ _
    · exact looks_refuse _ _
    · intro told existing same
      cases same
      exact ⟨user, partnerId, others, encrypted, wants, .inr ⟨_, mem_seen, mem_cons_self⟩⟩

theorem looks_existing (wants : call.Wants user partnerId others encrypted) {next : OpenProc}
    (rest : ∀ seen, Unfound seen user partnerId encrypted → Looks call next seen) :
    Looks call (existing user partnerId encrypted next) seen := by
  refine looks_perform (fun _ _ same => nomatch same) fun answer => ?_
  rcases answer with _ | userIds
  · exact looks_refuse _ _
  · refine looks_perform (fun _ _ same => nomatch same) fun answer => ?_
    rcases answer with _ | partnerIds
    · exact looks_refuse _ _
    · dsimp only
      split
      · rename_i none
        refine rest _ ⟨userIds, partnerIds, mem_append_left _ mem_seen, mem_seen, ?_⟩
        intro id mine theirs
        have kept : id ∈ partnerIds.filter userIds.contains :=
          mem_filter.mpr ⟨theirs, contains_iff_mem.mpr mine⟩
        rw [List.isEmpty_iff.mp none] at kept
        cases kept
      · refine looks_perform (fun _ _ same => nomatch same) fun answer => ?_
        rcases answer with _ | _ | ⟨found, ids⟩
        · exact looks_refuse _ _
        · refine rest _ ⟨userIds, partnerIds, mem_append_left _ (mem_append_left _ mem_seen),
            mem_append_left _ mem_seen, fun id mine theirs => ⟨_, ?_, mem_seen⟩⟩
          exact mem_filter.mpr ⟨theirs, contains_iff_mem.mpr mine⟩
        · intro told existing same
          cases same
          refine ⟨user, partnerId, others, encrypted, wants, .inl ⟨userIds, partnerIds, _, _,
            mem_append_left _ (mem_append_left _ mem_seen), mem_append_left _ mem_seen,
            mem_seen, mem_cons_self, fun id shared => ?_⟩⟩
          obtain ⟨theirs, mine⟩ := mem_filter.mp shared
          exact ⟨contains_iff_mem.mp mine, theirs⟩

theorem looks_openProgram (call : OpenCall) : Looks call (openProgram call) [] := by
  unfold openProgram
  split
  · exact looks_refuse _ _
  · rename_i user session
    split
    · exact fun _ _ same => nomatch same
    · split
      · exact looks_refuse _ _
      · rename_i body read
        obtain ⟨userIds, encrypted⟩ := body
        rcases userIds with _ | _ | ⟨partnerId, others⟩
        · exact looks_refuse _ _
        · exact looks_refuse _ _
        · dsimp only
          split
          · rename_i group
            exact looks_create ⟨session, read⟩ fun small => absurd group small
          · exact looks_existing ⟨session, read⟩ fun seen unfound =>
              looks_create ⟨session, read⟩ fun _ => unfound

end Programs

/-! ## What has been found, and what is there now -/

/-- An event that has created the channel with this id. -/
def CreatesId (id : JsString) (event : Event opening OpenCall) : Prop :=
  ∃ channel members ids,
    (⟨event.request, event.answer⟩ : Proc.Exchange opening) = ⟨.create channel members, .ok ids⟩ ∧
      id ∈ ids

/-- Whatever an answer tells is still there, and what it does not tell has been created since. -/
def Told (exchange : Proc.Exchange opening) (recent : List (Event opening OpenCall))
    (directory : Directory) : Prop :=
  ∀ found, exchange.2 = .ok found →
    (∀ id ∈ found, directory.Matches exchange.1 id) ∧
      ∀ id, directory.Matches exchange.1 id → id ∈ found ∨ ∃ event ∈ recent, CreatesId id event

section Runs

variable {initial : Directory → Prop} {guard : OpenPool → Turn OpenCall → Prop} {pool : OpenPool}

section

variable (start : ∀ directory, initial directory → directory.Housed)

include start

section

variable (reached : (openSystem initial).Reachable guard pool)

include reached

theorem housed_of_reachable : pool.shared.Housed := by
  refine Pool.shared_invariant start ?_ reached
  intro index call statement before answer after housed answered
  rcases handle_cases answered with ⟨-, rfl⟩ | ⟨rfl, -⟩ | ⟨channel, memberIds, -, -, created⟩
  · exact housed
  · exact housed
  · exact created.housed housed

theorem told_of_reachable
    {recent earlier : List (Event opening OpenCall)} {event : Event opening OpenCall}
    (split : pool.history = recent ++ event :: earlier) :
    Told ⟨event.request, event.answer⟩ recent pool.shared := by
  refine Pool.since_of_reachable Directory.Housed (fun _ => housed_of_reachable start) ?_ ?_
    reached split
  · intro index call statement before answer after housed answered found told
    rcases handle_cases answered with ⟨rfl, -⟩ | ⟨rfl, all, rfl, exactly⟩ |
      ⟨channel, memberIds, rfl, rfl, created⟩
    · cases told
    · cases told
      exact ⟨fun id => (exactly id).mp, fun id there => .inl ((exactly id).mpr there)⟩
    · cases told
      refine ⟨fun id member => ?_, fun id there => .inl (mem_singleton.mpr there.1)⟩
      obtain rfl := mem_singleton.mp member
      exact ⟨rfl, (created.channels channel).mpr (.inr rfl), fun userId => created.mem_new housed⟩
  · intro exchange recent index call statement before answer after housed known answered found told
    obtain ⟨sound, complete⟩ := known found told
    have later : ∀ id, before.Matches exchange.1 id → id ∈ found ∨
        ∃ event ∈ (⟨index, call, statement, answer⟩ : Event opening OpenCall) :: recent,
          CreatesId id event := by
      intro id there
      refine (complete id there).imp_right ?_
      exact fun ⟨event, member, creates⟩ => ⟨event, mem_cons_of_mem _ member, creates⟩
    rcases handle_cases answered with ⟨-, rfl⟩ | ⟨rfl, -⟩ | ⟨channel, memberIds, rfl, rfl, created⟩
    · exact ⟨sound, later⟩
    · exact ⟨sound, later⟩
    · refine ⟨fun id member => created.matches (sound id member), fun id there => ?_⟩
      rcases created.matched there with there | rfl
      · exact later id there
      · exact .inr ⟨_, mem_cons_self, channel, memberIds, _, rfl, mem_cons_self⟩

/-- What the answers to a request have told holds now. -/
theorem matches_of_exchange
    {found : List JsString}
    (issued : ⟨statement, .ok found⟩ ∈ Pool.exchanges pool.history index) (member : id ∈ found) :
    pool.shared.Matches statement id := by
  obtain ⟨event, recorded, -, same⟩ := Pool.mem_exchanges.mp issued
  obtain ⟨recent, earlier, split⟩ := append_of_mem recorded
  have told := told_of_reachable start reached split
  rw [same] at told
  exact (told found rfl).1 id member

/-- The event that has created a conversation is the creation of one for its members. -/
theorem creates_of_createsId {event : Event opening OpenCall}
    (recorded : event ∈ pool.history) (creates : CreatesId id event)
    (joins : pool.shared.Joins first second encrypted id)
    (members : ∀ userId, userId ∈ memberIds ↔ userId = first ∨ userId = second) :
    Creates memberIds encrypted event := by
  obtain ⟨channel, created, ids, same, member⟩ := creates
  obtain ⟨recent, earlier, split⟩ := append_of_mem recorded
  have told := told_of_reachable start reached split
  rw [same] at told
  obtain ⟨rfl, present, whole⟩ := (told ids rfl).1 id member
  obtain ⟨stored, there, named, direct, kind⟩ := joins.direct
  obtain rfl := pool.shared.channels.eq_of_key_eq there present named
  refine ⟨stored, created, ids, same, direct, kind, fun userId => ?_⟩
  rw [← whole, joins.members, members]

/-- Where nobody has created it since, a conversation has been found by those who looked. -/
theorem found_of_exchange {call : OpenCall} {channel : DmChannel}
    (pending : pool.threads[index]? = some ⟨call, .await (.create channel memberIds) next⟩)
    (direct : channel.isGroup = false) (apart : Apart pool (.advance index))
    (members : ∀ userId, userId ∈ memberIds ↔ userId = first ∨ userId = second)
    (joins : pool.shared.Joins first second channel.info.isEncrypted id) {found : List JsString}
    (issued : ⟨statement, .ok found⟩ ∈ Pool.exchanges pool.history index)
    (there : pool.shared.Matches statement id) : id ∈ found := by
  obtain ⟨event, recorded, mine, same⟩ := Pool.mem_exchanges.mp issued
  obtain ⟨recent, earlier, split⟩ := append_of_mem recorded
  have told := told_of_reachable start reached split
  rw [same] at told
  rcases (told found rfl).2 id there with known | ⟨other, since, creates⟩
  · exact known
  · have listed : other ∈ pool.history := by
      rw [split]
      exact mem_append_left _ since
    exact absurd (creates_of_createsId start reached listed creates joins members)
      (apart call channel memberIds next pending direct recent event earlier split mine other since)

/-- Where a conversation is about to be created apart from others, its members have none. -/
theorem none_of_pending {call : OpenCall} {channel : DmChannel}
    (pending : pool.threads[index]? = some ⟨call, .await (.create channel memberIds) next⟩)
    (direct : channel.isGroup = false) (apart : Apart pool (.advance index))
    (members : ∀ userId, userId ∈ memberIds ↔ userId = first ∨ userId = second) (id : JsString) :
    ¬ pool.shared.Joins first second channel.info.isEncrypted id := by
  intro joins
  obtain ⟨user, partnerId, others, encrypted, wants, same, looked⟩ :=
    Pool.justified_of_pending reached pending (looks_openProgram call) channel memberIds rfl
  obtain ⟨userIds, partnerIds, mine, theirs, none⟩ := looked direct
  have found : ∀ {statement found}, ⟨statement, .ok found⟩ ∈ Pool.exchanges pool.history index →
      pool.shared.Matches statement id → id ∈ found :=
    found_of_exchange start reached pending direct apart members joins
  have member : ∀ userId ∈ memberIds, userId ∈ pool.shared.memberIds id := fun userId listed =>
    (joins.members userId).mpr ((members userId).mp listed)
  cases same
  have ofUser : user ∈ allMembers user (partnerId :: others) :=
    mem_allMembers.mpr (.inl rfl)
  have ofPartner : partnerId ∈ allMembers user (partnerId :: others) :=
    mem_allMembers.mpr (.inr mem_cons_self)
  obtain ⟨ids, shared, empty⟩ := none id (found mine (member user ofUser))
    (found theirs (member partnerId ofPartner))
  have listed : id ∈ ([] : List JsString) := found empty ⟨shared, joins.direct⟩
  cases listed

end

end

theorem orderly_of_reachable (start : ∀ directory, initial directory → directory.Orderly)
    (reached : (openSystem initial).Reachable Apart pool) : pool.shared.Orderly := by
  have housed : ∀ directory, initial directory → directory.Housed :=
    fun directory begun => (start directory begun).housed
  induction reached with
  | initial fresh =>
    obtain ⟨directory, begun, rfl⟩ := fresh
    exact start directory begun
  | @step before label after reached apart moved ih =>
    obtain ⟨call, -, rfl⟩ | ⟨index, call, statement, next, answer, shared, rfl, pending, answered,
      rfl⟩ := Pool.step_cases moved
    · exact ih
    · rcases handle_cases answered with ⟨-, rfl⟩ | ⟨rfl, -⟩ | ⟨channel, memberIds, rfl, -, created⟩
      · exact ih
      · exact ih
      · refine created.orderly ih (fun direct => ?_) fun direct first second members id => ?_
        · obtain ⟨user, partnerId, others, encrypted, -, same, -⟩ :=
            Pool.justified_of_pending reached pending (looks_openProgram call) channel memberIds rfl
          cases same
          exact few_allMembers (of_decide_eq_false direct)
        · exact none_of_pending housed reached pending direct apart members id

/-- Who wants a conversation with one other, and names that user first, is told its id. -/
theorem joins_of_opened (start : ∀ directory, initial directory → directory.Housed)
    (reached : (openSystem initial).Reachable guard pool) (orderly : pool.shared.Orderly)
    {index : Nat}
    {thread : Thread opening Empty OpenResponse OpenCall} {id : JsString} {existing : Bool}
    (present : pool.threads[index]? = some thread)
    (finished : thread.result? = some (.ok (.opened id existing))) {user partner : JsString}
    {encrypted : Bool} (asks : thread.call.Asks user partner encrypted)
    (named : thread.call.partnerId? = some partner) :
    pool.shared.Joins user partner encrypted id := by
  obtain ⟨asking, partnerId, others, kind, wants, known⟩ := Pool.ended_of_reachable reached present
    (looks_openProgram thread.call) finished id existing rfl
  rw [Pool.memory_recorder (Justified thread.call)] at known
  obtain ⟨userIds, names, -, only⟩ := asks.names
  obtain rfl := Option.some.inj (asks.session.symm.trans wants.session)
  obtain ⟨⟨rfl⟩, rfl⟩ := OpenBody.mk.inj (Option.some.inj (names.symm.trans wants.names))
  obtain rfl : partnerId = partner := by
    simpa [OpenCall.partnerId?, names] using named
  rcases known with ⟨mine, theirs, ids, found, ofUser, ofPartner, direct, told, shared⟩ |
    ⟨found, created, told⟩
  · obtain ⟨listed, channel, stored, rfl, direct, kind⟩ :=
      matches_of_exchange start reached direct told
    obtain ⟨inMine, inTheirs⟩ := shared _ listed
    have first : user ∈ pool.shared.memberIds channel.id :=
      matches_of_exchange start reached ofUser inMine
    have second : partnerId ∈ pool.shared.memberIds channel.id :=
      matches_of_exchange start reached ofPartner inTheirs
    refine ⟨⟨channel, stored, rfl, direct, kind⟩, fun userId => ⟨fun member => ?_, ?_⟩⟩
    · obtain ⟨left, right, either⟩ := orderly.small channel stored direct
      grind [asks.other, either user first, either partnerId second, either userId member]
    · rintro (rfl | rfl)
      · exact first
      · exact second
  · obtain ⟨rfl, stored, whole⟩ := matches_of_exchange start reached created told
    refine ⟨⟨_, stored, rfl, decide_eq_false (length_allMembers only), rfl⟩, fun userId => ?_⟩
    rw [whole, mem_allMembers]
    constructor
    · exact fun either => either.elim .inl (only userId)
    · rintro (mine | rfl)
      · exact .inl mine
      · exact .inr mem_cons_self

/-- In every run of the requests that open conversations, where no request creates a
conversation that another has created since it looked, and who wants a conversation with one
other names that user first, two users have one conversation. -/
theorem conversed_of_reachable (start : ∀ directory, initial directory → directory.Orderly)
    (reached : (openSystem initial).Reachable Apart pool) {first second : JsString}
    (distinct : first ≠ second) (encrypted : Bool) : Conversed first second encrypted pool := by
  have housed : ∀ directory, initial directory → directory.Housed :=
    fun directory begun => (start directory begun).housed
  have orderly := orderly_of_reachable start reached
  refine ⟨orderly.single distinct, ?_⟩
  intro index thread id existing present asks finished
  have joins : ∀ user partner, thread.call.Asks user partner encrypted →
      pool.shared.Joins user partner encrypted id := fun user partner asks =>
    joins_of_opened housed reached orderly present finished asks
      (Pool.calls_of_reachable (fun _ _ apart => apart) reached present user partner encrypted asks)
  rcases asks with asks | asks
  · exact joins first second asks
  · exact (joins second first asks).symm

end Runs

namespace Sample

def opens (user partner drawn : String) : OpenCall where
  user := some (js user)
  limited := false
  body := some ⟨some [js partner], false⟩
  drawn := js drawn
  fails := fun _ => false

def nobody : Directory := ⟨.empty, .empty⟩

theorem nobody_orderly : nobody.Orderly where
  housed := fun _ _ member => nomatch member
  small := fun _ stored => nomatch stored
  single := by
    intro first second encrypted id other _ joins
    obtain ⟨channel, stored, -⟩ := joins.direct
    cases stored

/-- Alice opens a conversation with Bob, and then Bob one with Alice. -/
def answering : List (Turn OpenCall) :=
  [.start (opens "alice" "bob" "c"), .advance 0, .advance 0, .advance 0,
    .start (opens "bob" "alice" "d"), .advance 1, .advance 1, .advance 1]

/-- Alice and Bob look for a conversation at the same time, and both create one. -/
def crossing : List (Turn OpenCall) :=
  [.start (opens "alice" "bob" "c"), .start (opens "bob" "alice" "d"), .advance 0, .advance 0,
    .advance 1, .advance 1, .advance 0, .advance 1]

/-- Nobody creates a channel after another one has, and nobody names the user of the request. -/
def apart (pool : OpenPool) : Turn OpenCall → Bool
  | .start call => call.partnerId? ≠ call.user
  | .advance index =>
      match pool.threads[index]? with
      | some ⟨_, .await (.create _ _) _⟩ => pool.history.all fun event =>
          match event.request with
          | .create _ _ => false
          | _ => true
      | _ => true

theorem apart_sound (pool : OpenPool) (turn : Turn OpenCall) (checked : apart pool turn = true) :
    Apart pool turn := by
  cases turn with
  | start call =>
    intro user partner encrypted asks
    obtain ⟨userIds, names, member, only⟩ := asks.names
    have other := of_decide_eq_true checked
    cases userIds with
    | nil => cases member
    | cons head rest =>
      have first : call.partnerId? = some head := by simp [OpenCall.partnerId?, names]
      rw [first, asks.session] at other
      rw [first]
      refine congrArg some ((only head mem_cons_self).resolve_left fun same => other ?_)
      rw [same]
  | advance index =>
    intro call channel memberIds next found direct recent event earlier split mine other since
    simp only [apart, found, all_eq_true] at checked
    have listed : other ∈ pool.history := by
      rw [split]
      exact mem_append_left _ since
    rintro ⟨created, members, ids, same, -⟩
    have request : other.request = .create created members := congrArg Sigma.fst same
    have quiet := checked other listed
    simp [request] at quiet

def run (check : OpenPool → Turn OpenCall → Bool) (turns : List (Turn OpenCall)) :
    Option OpenPool :=
  System.follow check (Pool.turn openProgram fun _ => openHandle) (Pool.fresh nobody) turns

def answered : OpenPool := (run apart answering).get (by decide)

def crossed : OpenPool := (run System.unchecked crossing).get (by decide)

theorem answered_reachable : (openSystem (· = nobody)).Reachable Apart answered :=
  System.reachable_of_follow apart_sound ⟨nobody, rfl, rfl⟩ _

theorem crossed_reachable : (openSystem (· = nobody)).Reachable System.unguarded crossed :=
  System.reachable_of_follow System.unchecked_sound ⟨nobody, rfl, rfl⟩ _

theorem joins_of_rows {directory : Directory} {first second id : JsString} {encrypted : Bool}
    (direct : (directory.channels.rows.any fun channel => channel.id = id && channel.isGroup = false &&
      channel.info.isEncrypted = encrypted) = true)
    (members : directory.memberIds id = [first, second]) :
    directory.Joins first second encrypted id := by
  refine ⟨?_, fun userId => by simp [members]⟩
  simpa [any_eq_true, and_assoc] using direct

end Sample

/-- Bob, who answers Alice, is told the conversation that she has opened. -/
theorem answered_conversed : Conversed (js "alice") (js "bob") false Sample.answered := by
  refine conversed_of_reachable (fun directory begun => ?_) Sample.answered_reachable (by decide) false
  obtain rfl : directory = Sample.nobody := begun
  exact Sample.nobody_orderly

/-- Two requests that cross leave Alice and Bob with two conversations. -/
theorem crossing_conversations : ∃ pool,
    (openSystem (· = Sample.nobody)).Reachable System.unguarded pool ∧
      Sample.nobody.Orderly ∧ ¬ Conversed (js "alice") (js "bob") false pool := by
  refine ⟨_, Sample.crossed_reachable, Sample.nobody_orderly, fun conversed => ?_⟩
  have alices : Sample.crossed.shared.Joins (js "alice") (js "bob") false (js "c") :=
    Sample.joins_of_rows (by decide) (by decide)
  have bobs : Sample.crossed.shared.Joins (js "bob") (js "alice") false (js "d") :=
    Sample.joins_of_rows (by decide) (by decide)
  have same := conversed.single alices bobs.symm
  exact absurd same (by decide)

end Vortex.Channels.Openings
