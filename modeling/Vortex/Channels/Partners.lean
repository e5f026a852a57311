import Vortex.Channels.Conversations

/-!
# The conversation with a partner

Who asks for a conversation of two is answered a channel of exactly these two. The members
of the channel are those of the list without repetitions, while the lookup takes the first
of the list for the partner. What it finds has the right members exactly when the first
channel the user shares with that one does (`resolved_iff`).
-/

namespace Vortex.Channels.Openings

open Foundation

/-- The channels of a kind, no groups, that two users are members of. -/
def Directory.shared (directory : Directory) (first second : JsString) (encrypted : Bool) :
    List DmChannel :=
  directory.channels.rows.filter fun channel =>
    channel.isGroup = false && channel.info.isEncrypted = encrypted &&
      (directory.memberIds channel.id).contains first &&
      (directory.memberIds channel.id).contains second

/-- Alone on the tables, a request is answered a channel of the two, and one that exists if
any does. -/
def Resolved (call : OpenCall) (user partner : JsString) (encrypted : Bool)
    (directory : Directory) : Prop :=
  ∃ id existing after, (openProgram call).run (openHandle call) directory =
      some (.ok (.opened id existing), after) ∧
    after.Joins user partner encrypted id ∧
    ((∃ other, directory.Joins user partner encrypted other) →
      directory.Joins user partner encrypted id)

/-- The first channel the user shares with `userIds[0]` has the two as its members. -/
def FindsPair (call : OpenCall) (user partner : JsString) (encrypted : Bool)
    (directory : Directory) : Prop :=
  ∀ named ∈ call.partnerId?, ∀ channel ∈ (directory.shared user named encrypted).head?,
    ∀ userId, userId ∈ directory.memberIds channel.id ↔ userId = user ∨ userId = partner

section Runs

variable {call : OpenCall} {user partner named : JsString} {encrypted : Bool}
  {directory : Directory}

theorem mem_shared {first second : JsString} {channel : DmChannel} :
    channel ∈ directory.shared first second encrypted ↔
      channel ∈ directory.channels.rows ∧ channel.isGroup = false ∧
        channel.info.isEncrypted = encrypted ∧ first ∈ directory.memberIds channel.id ∧
          second ∈ directory.memberIds channel.id := by
  simp [Directory.shared, and_assoc]

theorem openHandle_eq (answers : ∀ statement, call.fails statement = false)
    (statement : OpenStatement) (directory : Directory) :
    openHandle call statement directory = some (execute statement directory) :=
  if_neg (by rw [answers]; exact Bool.false_ne_true)

/-- Without errors a statement is executed. -/
theorem run_perform (answers : ∀ statement, call.fails statement = false)
    (statement : OpenStatement) (rest : Except Unit (List JsString) → OpenProc) :
    (perform statement >>= rest).run (openHandle call) directory =
      (rest (execute statement directory).1).run (openHandle call) (execute statement directory).2 := by
  refine Proc.run_bind_ok (openHandle call) (Proc.run_await (openHandle call) ?_)
  exact openHandle_eq answers statement directory

theorem mem_memberships {userId id : JsString} :
    id ∈ (directory.members.rows.filter fun row => row.userId = userId).map
      DmChannelMember.dmChannelId ↔ userId ∈ directory.memberIds id := by
  simp [mem_memberIds, and_assoc, and_comm]

variable (user named encrypted directory) in
/-- The lookup answers the first channel that is shared, or goes on. -/
theorem run_existing (answers : ∀ statement, call.fails statement = false) (next : OpenProc) :
    (existing user named encrypted next).run (openHandle call) directory =
      match directory.shared user named encrypted with
      | [] => next.run (openHandle call) directory
      | channel :: _ => some (.ok (.opened channel.id true), directory) := by
  rw [existing, run_perform answers]
  dsimp only [execute]
  rw [run_perform answers]
  dsimp only [execute]
  generalize mine : (directory.members.rows.filter fun row => row.userId = user).map
    DmChannelMember.dmChannelId = userChannelIds
  generalize theirs : (directory.members.rows.filter fun row => row.userId = named).map
    DmChannelMember.dmChannelId = partnerChannelIds
  have both (id : JsString) : id ∈ partnerChannelIds.filter userChannelIds.contains ↔
      user ∈ directory.memberIds id ∧ named ∈ directory.memberIds id := by
    rw [List.mem_filter, List.contains_iff_mem, ← mine, ← theirs, mem_memberships, mem_memberships,
      and_comm]
  have found : (directory.channels.rows.filter fun channel =>
      (partnerChannelIds.filter userChannelIds.contains).contains channel.id &&
        channel.isGroup = false && channel.info.isEncrypted = encrypted) =
          directory.shared user named encrypted := by
    refine List.filter_congr fun channel _ => Bool.eq_iff_iff.mpr ?_
    simp only [Bool.and_eq_true, List.contains_iff_mem, both, decide_eq_true_eq]
    tauto
  split
  · rename_i none
    have unshared : directory.shared user named encrypted = [] := by
      refine List.eq_nil_iff_forall_not_mem.mpr fun channel shared => ?_
      have listed :=
        (both channel.id).mpr ⟨(mem_shared.mp shared).2.2.2.1, (mem_shared.mp shared).2.2.2.2⟩
      rw [List.isEmpty_iff.mp none] at listed
      exact List.not_mem_nil listed
    rw [unshared]
  · rw [run_perform answers]
    dsimp only [execute]
    rw [found]
    cases directory.shared user named encrypted <;> rfl

variable (user encrypted) in
/-- A request with an id of its own creates its channel. -/
theorem run_create (answers : ∀ statement, call.fails statement = false)
    (fresh : ∀ channel ∈ directory.channels.rows, channel.id ≠ call.drawn)
    (housed : directory.Housed) (members : List JsString) : ∃ after,
    (create call user members encrypted).run (openHandle call) directory =
        some (.ok (.opened call.drawn false), after) ∧
      Created (newChannel call user (2 < members.length) encrypted) members directory after := by
  generalize made : newChannel call user (2 < members.length) encrypted = channel
  have named : channel.id = call.drawn := by rw [← made]; rfl
  have free : ((directory.channels.find? channel.id).isSome ||
      members.any fun userId => (directory.members.find? (channel.id, userId)).isSome) = false := by
    rw [Bool.or_eq_false_iff, Option.isSome_eq_false_iff, Option.isNone_iff_eq_none,
      List.any_eq_false]
    constructor
    · exact Table.find?_eq_none.mpr fun stored present => named ▸ fresh stored present
    · intro userId _ taken
      obtain ⟨row, found⟩ := Option.isSome_iff_exists.mp taken
      obtain ⟨present, key⟩ := Table.find?_eq_some.mp found
      obtain ⟨stored, exists_, same⟩ := housed channel.id userId
        (mem_memberIds.mpr (List.mem_map.mpr ⟨row, present, key⟩))
      exact fresh stored exists_ (same.trans named)
  have executed : execute (.create channel members) directory =
      (.ok [channel.id], ⟨directory.channels.insertIgnore channel,
        Members.insertAll directory.members (members.map (memberRow channel))⟩) := by
    simp [execute, free]
  refine ⟨⟨directory.channels.insertIgnore channel,
    Members.insertAll directory.members (members.map (memberRow channel))⟩, ?_, ?_⟩
  · rw [create, run_perform answers, made, executed]
    rw [named]
    rfl
  · have answered := openHandle_eq answers (.create channel members) directory
    rw [executed] at answered
    rcases handle_cases answered with ⟨thrown, -⟩ | ⟨-, found, same, matched⟩ | ⟨_, _, same, -, created⟩
    · cases thrown
    · cases same
      have present := ((matched channel.id).mp (List.mem_singleton_self _)).2.1
      exact (fresh channel present named).elim
    · cases same
      exact created

/-- A request for a conversation of two runs the lookup, and creates the channel where that
finds none. -/
theorem run_openProgram (asks : call.Asks user partner encrypted) (through : call.limited = false)
    (first : call.partnerId? = some named) : ∃ members : List JsString,
    (∀ userId, userId ∈ members ↔ userId = user ∨ userId = partner) ∧ ¬ 2 < members.length ∧
      openProgram call = existing user named encrypted (create call user members encrypted) := by
  obtain ⟨session, ⟨userIds, body, listed, only⟩, -⟩ := asks
  cases userIds with
  | nil => exact (List.not_mem_nil listed).elim
  | cons head others =>
    obtain rfl : head = named := by
      rw [OpenCall.partnerId?, body] at first
      exact Option.some.inj first
    have few := length_allMembers only
    refine ⟨allMembers user (head :: others), fun userId => ?_, few, ?_⟩
    · rw [mem_allMembers]
      constructor
      · rintro (same | named)
        · exact .inl same
        · exact only userId named
      · rintro (same | rfl)
        · exact .inl same
        · exact .inr listed
    · simp only [openProgram, session, through, body, Bool.false_eq_true, if_false]
      rw [if_neg few]

/-- The first of the list is the user or the partner. -/
theorem partnerId?_cases (asks : call.Asks user partner encrypted) : ∃ named,
    call.partnerId? = some named ∧ (named = user ∨ named = partner) := by
  obtain ⟨-, ⟨userIds, body, listed, only⟩, -⟩ := asks
  cases userIds with
  | nil => exact (List.not_mem_nil listed).elim
  | cons head others =>
    exact ⟨head, by rw [OpenCall.partnerId?, body]; rfl, only head List.mem_cons_self⟩

/-- The first shared channel is the answer. -/
theorem joins_of_shared {channel : DmChannel} {rest : List DmChannel}
    (found : directory.shared user named encrypted = channel :: rest)
    (whole : ∀ userId, userId ∈ directory.memberIds channel.id ↔ userId = user ∨ userId = partner) :
    directory.Joins user partner encrypted channel.id := by
  have listed : channel ∈ directory.shared user named encrypted := found ▸ List.mem_cons_self
  obtain ⟨stored, direct, kind, -⟩ := mem_shared.mp listed
  exact ⟨⟨channel, stored, rfl, direct, kind⟩, whole⟩

/-- A conversation of the two is shared with either. -/
theorem shared_of_joins (either : named = user ∨ named = partner) {id : JsString}
    (joins : directory.Joins user partner encrypted id) :
    directory.shared user named encrypted ≠ [] := by
  obtain ⟨channel, stored, rfl, direct, kind⟩ := joins.direct
  refine List.ne_nil_of_mem (mem_shared.mpr ⟨stored, direct, kind, ?_, ?_⟩)
  · exact (joins.members user).mpr (.inl rfl)
  · exact (joins.members named).mpr either

/-- A request for a conversation of two is answered the channel of these two, and one that
exists if any does, exactly when the first channel of that kind which the user shares with
the first of the list, if there is one, has the two as its members. -/
theorem resolved_iff (asks : call.Asks user partner encrypted) (through : call.limited = false)
    (answers : ∀ statement, call.fails statement = false) (housed : directory.Housed)
    (fresh : ∀ channel ∈ directory.channels.rows, channel.id ≠ call.drawn) :
    Resolved call user partner encrypted directory ↔
      FindsPair call user partner encrypted directory := by
  obtain ⟨named, first, either⟩ := partnerId?_cases asks
  obtain ⟨members, whole, few, program⟩ := run_openProgram asks through first
  have run := run_existing user named encrypted directory answers
    (create call user members encrypted)
  rw [← program] at run
  constructor
  · rintro ⟨id, existing, after, ran, joins, -⟩ other listed channel found
    obtain rfl : named = other := Option.mem_some_iff.mp (first ▸ listed)
    obtain ⟨rest, shared⟩ := List.head?_eq_some_iff.mp found
    rw [shared] at run
    cases ran.symm.trans run
    exact joins.members
  · intro finds
    cases shared : directory.shared user named encrypted with
    | nil =>
        rw [shared] at run
        obtain ⟨after, ran, created⟩ := run_create user encrypted answers fresh housed members
        refine ⟨call.drawn, false, after, run.trans ran,
          ⟨⟨_, (created.channels _).mpr (.inr rfl), rfl,
          decide_eq_false few, rfl⟩, fun userId => ?_⟩, ?_⟩
        · exact (created.mem_new housed).trans (whole userId)
        · rintro ⟨other, joins⟩
          exact (shared_of_joins either joins shared).elim
    | cons channel rest =>
        rw [shared] at run
        have pair := finds named first channel (by rw [shared]; rfl)
        exact ⟨channel.id, true, directory, run, joins_of_shared shared pair,
          fun _ => joins_of_shared shared pair⟩

end Runs

namespace Sample

/-- A body that names its user before the partner. -/
def namesSelf : OpenCall where
  user := some (js "alice")
  limited := false
  body := some ⟨some [js "alice", js "bob"], false⟩
  drawn := js "new"
  fails _ := false

/-- A conversation with somebody else. -/
def elsewhere : Directory where
  channels := ⟨[⟨js "old", some (js "alice"), false, false, 1, js "legacy-ecdh"⟩],
    List.nodup_singleton _⟩
  members := ⟨[⟨js "old", js "alice", none⟩, ⟨js "old", js "carol", none⟩], by decide⟩

theorem namesSelf_asks : namesSelf.Asks (js "alice") (js "bob") false where
  session := rfl
  names := ⟨_, rfl, by decide, by decide⟩
  other := by decide

end Sample

theorem namesSelf_resolved :
    Resolved Sample.namesSelf (js "alice") (js "bob") false Sample.nobody :=
  (resolved_iff Sample.namesSelf_asks rfl (fun _ => rfl) Sample.nobody_orderly.housed
    fun _ none => (List.not_mem_nil none).elim).mpr fun _ _ _ none => nomatch none

theorem namesSelf_unresolved :
    ¬ Resolved Sample.namesSelf (js "alice") (js "bob") false Sample.elsewhere := by
  rintro ⟨id, existing, after, ran, joins, -⟩
  have answered : (openProgram Sample.namesSelf).run (openHandle Sample.namesSelf) Sample.elsewhere =
      some (.ok (.opened (js "old") true), Sample.elsewhere) := rfl
  cases ran.symm.trans answered
  have stranger := (joins.members (js "carol")).mp (by decide)
  exact absurd stranger (by decide)

end Vortex.Channels.Openings
