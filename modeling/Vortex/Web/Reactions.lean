import Vortex.Web.Timeline

/-!
# Reactions on the pages

A reaction is shown by the page that asks for it before the server has it, by other users'
pages when its event reaches them, and by a page that fetches the message with what the
server had at that time. The pages of the same user are told by nobody. Where each
reaction is announced in order, no answer is older than what the page has been told, and
no request changes a reaction that another page of its user shows, all pages end with the
reactions of the server.
-/

namespace Vortex.Web

open Foundation List

/-! ## What is required -/

/-- Everything has been published and delivered, and no request is in flight. -/
structure World.Quiet (world : World) : Prop where
  published : ∀ number < world.server.writes.length, number ∈ world.server.published
  delivered : ∀ client ∈ world.clients, client.subscribed = true →
    ∀ number ∈ world.server.published, number ∈ client.passed
  settled : ∀ client ∈ world.clients,
    client.fetches = [] ∧ client.sends = [] ∧ client.toggles = []

/-- Every connected page shows for every message the rows of `dm_reactions`, each once. -/
def World.Converged (world : World) : Prop :=
  ∀ client ∈ world.clients, client.subscribed = true → ∀ message ∈ client.messages,
    message.reactions.Nodup ∧
      ∀ r, r ∈ message.reactions ↔ r ∈ world.server.reactions ∧ r.dmId = message.id

/-! ## The condition -/

/-- The messages of an answer that enter the list. -/
def Purpose.entering (data prev : Messages) : Purpose → Messages
  | .load | .older _ => data
  | .resync | .hydrate _ => data.filter fun message => !prev.has message.id

def Toggle.reaction (toggle : Toggle) (user : JsString) : DmReaction :=
  ⟨toggle.messageId, user, toggle.emoji⟩

/-- A message that was read after so many writes may enter the list: the page is connected,
none of the later writes to the message is the user's own or has reached the page, and no
own request about the message still waits to be carried out. -/
structure Client.MayEnter (server : Server) (client : Client) (seen : Nat) (message : Message) :
    Prop where
  subscribed : client.subscribed = true
  untold : ∀ number write, server.writes[number]? = some write → seen ≤ number →
    write.key.dmId = message.id → write.key.userId ≠ client.user ∧ number ∉ client.passed
  idle : ∀ toggle ∈ client.toggles, toggle.messageId = message.id → toggle.phase = .written

/-- The earlier writes to the flag of a write have been passed. -/
def Server.follows (server : Server) (passed : List Nat) (number : Nat) : Prop :=
  ∀ write, server.writes[number]? = some write → ∀ earlier < number, ∀ other,
    server.writes[earlier]? = some other → other.key = write.key → earlier ∈ passed

def Client.traceable (server : Server) (client : Client) : ClientEvent → Prop
  | .arrives number => ∀ purpose seen data,
      client.fetches[number]? = some ⟨purpose, .answered seen data⟩ →
        ∀ message ∈ purpose.entering data client.messages, client.MayEnter server seen message
  | .appends number => ∀ seen message, client.sends[number]? = some (.stored seen message) →
      client.MayEnter server seen message
  | .delivers number => number ∉ client.passed ∧ server.follows client.passed number
  | .toggles messageId emoji => sentEmoji emoji = some emoji ∧ client.rendered = client.messages ∧
      ∀ toggle ∈ client.toggles, toggle.reaction client.user = ⟨messageId, client.user, emoji⟩ →
        toggle.phase = .written
  | .fails _ => False
  | _ => True

/-- The condition on a step. The events of one reaction are published in the order of the
writes, and delivered to each page once and in that order; messages enter a list as
`Client.MayEnter` has it; a reaction is toggled on the current rendering, with an emoji the
server leaves as it is, and not while an earlier toggle of it waits; every request is
answered; and one is carried out only while no other page of its user shows the message. -/
def World.traceable (world : World) : TimelineEvent → Prop
  | .own number event => ∀ client, world.clients[number]? = some client →
      client.traceable world.server event
  | .publishes number => world.server.follows world.server.published number
  | .writes number index => ∀ client toggle, world.clients[number]? = some client →
      client.toggles[index]? = some toggle → ∀ other ≠ number, ∀ peer,
        world.clients[other]? = some peer → peer.user = client.user →
          peer.messages.has toggle.messageId = false
  | _ => True

/-! ## The invariant -/

/-- The reactions of a message are its own, each once. -/
structure Message.Proper (message : Message) : Prop where
  unique : message.reactions.Nodup
  own : ∀ r ∈ message.reactions, r.dmId = message.id

/-- A message as the server had it after so many writes. -/
structure Server.Snapshot (server : Server) (seen : Nat) (message : Message) : Prop where
  past : seen ≤ server.writes.length
  proper : message.Proper
  current : ∀ r, r.dmId = message.id → Write.Untouched server.writes seen r →
    (r ∈ message.reactions ↔ r ∈ server.reactions)

structure Server.Consistent (server : Server) : Prop where
  unique : server.reactions.Nodup
  stored : Write.Stored server.writes (· ∈ server.reactions)
  published : ∀ number ∈ server.published, number < server.writes.length
  ordered : Write.InOrder server.writes server.published
  referenced : ∀ r ∈ server.reactions, ∃ row ∈ server.rows, row.id = r.dmId

/-- The reaction a request waits for. -/
def Toggle.waiting (user : JsString) (toggle : Toggle) : Option DmReaction :=
  if toggle.phase = .sent then some (toggle.reaction user) else none

/-- What holds of a page. -/
structure Client.Faithful (server : Server) (client : Client) : Prop where
  proper : ∀ message ∈ client.messages, message.Proper
  passed : ∀ number ∈ client.passed, number < server.writes.length
  ordered : Write.InOrder server.writes client.passed
  unsubscribed : client.subscribed = false → client.messages = []
  foreign : ∀ message ∈ client.messages, ∀ r, r.dmId = message.id → r.userId ≠ client.user →
    Write.Settled server.writes client.passed r → (r ∈ message.reactions ↔ r ∈ server.reactions)
  own : ∀ message ∈ client.messages, ∀ r, r.dmId = message.id → r.userId = client.user →
    r ∉ client.toggles.filterMap (Toggle.waiting client.user) →
      (r ∈ message.reactions ↔ r ∈ server.reactions)
  waiting : ∀ toggle ∈ client.toggles, toggle.phase = .sent → ∀ message ∈ client.messages,
    message.id = toggle.messageId →
      (toggle.reaction client.user ∈ message.reactions ↔ toggle.remove = false) ∧
        (toggle.reaction client.user ∈ server.reactions ↔ toggle.remove = true)
  single : (client.toggles.filterMap (Toggle.waiting client.user)).Nodup
  toggles : ∀ toggle ∈ client.toggles, toggle.phase ≠ .abandoned ∧
    sentEmoji toggle.emoji = some toggle.emoji
  fetches : ∀ purpose seen data, ⟨purpose, .answered seen data⟩ ∈ client.fetches →
    ∀ message ∈ data, server.Snapshot seen message
  sends : ∀ seen message, Send.stored seen message ∈ client.sends → server.Snapshot seen message

structure World.Faithful (world : World) : Prop where
  server : world.server.Consistent
  clients : ∀ client ∈ world.clients, client.Faithful world.server

/-! ## One reaction of the lists -/

/-- A list in which one reaction has been set in all copies of its message. -/
def Messages.Assigns (r : DmReaction) (value : Bool) (prev after : Messages) : Prop :=
  ∀ message ∈ after, message.Proper ∧ ∃ before ∈ prev, message.id = before.id ∧
    (∀ other, other ≠ r → (other ∈ message.reactions ↔ other ∈ before.reactions)) ∧
    (message.id = r.dmId → (r ∈ message.reactions ↔ value = true))

/-- The reactions of one message in which one has been set. -/
structure AssignsOne (r : DmReaction) (value : Bool) (prev after : List DmReaction) : Prop where
  unique : after.Nodup
  others : ∀ other, other ≠ r → (other ∈ after ↔ other ∈ prev)
  self : r ∈ after ↔ value = true

theorem assigns_added {r : DmReaction} {reactions : List DmReaction} (unique : reactions.Nodup) :
    AssignsOne r true reactions (if reactions.contains r then reactions else reactions ++ [r]) := by
  split
  · rename_i present
    exact ⟨unique, fun _ _ => Iff.rfl, iff_of_true (contains_iff_mem.mp present) rfl⟩
  · rename_i absent
    rw [contains_iff_mem] at absent
    refine ⟨unique.append (nodup_singleton r) ?_, ?_, by simp⟩
    · intro other here there
      obtain rfl := mem_singleton.mp there
      exact absent here
    · intro other different
      simp [different]

theorem assigns_removed {r : DmReaction} {reactions : List DmReaction} (unique : reactions.Nodup) :
    AssignsOne r false reactions (reactions.filter fun other => other ≠ r) where
  unique := unique.filter _
  others other different := by simp [different]
  self := by simp

theorem Messages.assigns_withReactions {r : DmReaction} {value : Bool} {prev : Messages}
    {change : List DmReaction → List DmReaction} (proper : ∀ message ∈ prev, message.Proper)
    (changed : ∀ message ∈ prev, message.id = r.dmId →
      AssignsOne r value message.reactions (change message.reactions)) :
    prev.Assigns r value (prev.withReactions r.dmId change) := by
  intro message member
  obtain ⟨before, held, rfl⟩ := Messages.mem_withReactions.mp member
  by_cases here : before.id = r.dmId
  · have assigned := changed before held here
    rw [if_pos here]
    refine ⟨⟨assigned.unique, ?_⟩, before, held, rfl, assigned.others, fun _ => assigned.self⟩
    intro other listed
    by_cases same : other = r
    · rw [same, here]
    · exact (proper before held).own other ((assigned.others other same).mp listed)
  · rw [if_neg here]
    exact ⟨proper before held, before, held, rfl, fun _ _ => Iff.rfl, fun same => absurd same here⟩

theorem Messages.withReactions_of_not_has {id : JsString} {prev : Messages}
    {change : List DmReaction → List DmReaction} (absent : prev.has id = false) :
    prev.withReactions id change = prev := by
  unfold Messages.withReactions
  refine (map_congr_left ?_).trans (map_id prev)
  intro message member
  rw [if_neg]
  · rfl
  · intro same
    rw [Messages.has_iff.mpr ⟨message, member, same⟩] at absent
    cases absent

/-- An event of another user sets its reaction. -/
theorem Messages.assigns_delivered {r : DmReaction} {raised : Bool} {user : JsString}
    {prev : Messages} (proper : ∀ message ∈ prev, message.Proper) (foreign : r.userId ≠ user) :
    prev.Assigns r raised
      (if raised then prev.reactionAdded user r else prev.reactionRemoved user r) := by
  have added : prev.reactionAdded user r = prev.withReactions r.dmId fun reactions =>
      if reactions.contains r then reactions else reactions ++ [r] := by
    unfold Messages.reactionAdded
    rw [if_neg foreign]
    split
    · rename_i absent
      exact (Messages.withReactions_of_not_has (by simpa using absent)).symm
    · rfl
  have removed : prev.reactionRemoved user r = prev.withReactions r.dmId fun reactions =>
      reactions.filter fun other => other ≠ r := by
    unfold Messages.reactionRemoved
    rw [if_neg foreign]
    split
    · rename_i absent
      exact (Messages.withReactions_of_not_has (by simpa using absent)).symm
    · rfl
  cases raised with
  | true =>
    rw [if_pos rfl, added]
    exact Messages.assigns_withReactions proper fun message member _ =>
      assigns_added (proper message member).unique
  | false =>
    rw [if_neg Bool.false_ne_true, removed]
    exact Messages.assigns_withReactions proper fun message member _ =>
      assigns_removed (proper message member).unique

/-- An own reaction is shown where it was not, or hidden. -/
theorem Messages.assigns_showReaction {user messageId emoji : JsString} {shown : Bool}
    {prev : Messages} (proper : ∀ message ∈ prev, message.Proper)
    (hidden : shown = true → ∀ message ∈ prev, message.id = messageId →
      ⟨messageId, user, emoji⟩ ∉ message.reactions) :
    prev.Assigns ⟨messageId, user, emoji⟩ shown (prev.showReaction user messageId emoji shown) := by
  unfold Messages.showReaction
  refine @Messages.assigns_withReactions ⟨messageId, user, emoji⟩ _ _ _ proper ?_
  intro message member here
  cases shown with
  | true =>
    have absent := hidden rfl message member here
    simp only [if_true]
    refine ⟨(proper message member).unique.append (nodup_singleton _) ?_, ?_, by simp⟩
    · intro other listed new
      obtain rfl := mem_singleton.mp new
      exact absent listed
    · intro other different
      simp [different]
  | false =>
    -- The reactions of the message differ in user or emoji only.
    have same : message.reactions.filter
          (fun r => !(decide (r.userId = user) && decide (r.emoji = emoji))) =
        message.reactions.filter fun other => other ≠ ⟨messageId, user, emoji⟩ := by
      apply filter_congr
      intro r listed
      have own := (proper message member).own r listed
      rw [Bool.eq_iff_iff]
      simp only [Bool.not_eq_true', Bool.and_eq_false_iff, decide_eq_false_iff_not, ne_eq,
        decide_not]
      constructor
      · rintro apart rfl
        simp at apart
      · intro different
        by_contra both
        rw [not_or, not_not, not_not] at both
        have placed : r.dmId = messageId := own.trans here
        apply different
        rw [← both.1, ← both.2, ← placed]
    simp only [Bool.false_eq_true, if_false, same]
    exact assigns_removed (proper message member).unique

/-! ## The server -/

section Server

variable {server other : Server} {r : DmReaction} {remove : Bool}

theorem mem_write_of_ne {key : DmReaction} (different : key ≠ r) :
    key ∈ (server.write r remove).reactions ↔ key ∈ server.reactions := by
  unfold Server.write
  cases remove with
  | true => simp [different]
  | false =>
    dsimp only
    rw [if_neg Bool.false_ne_true]
    split
    · rfl
    · simp [different]

theorem mem_write_self : r ∈ (server.write r remove).reactions ↔ remove = false := by
  unfold Server.write
  cases remove with
  | true => simp
  | false =>
    dsimp only
    rw [if_neg Bool.false_ne_true]
    split
    · rename_i present
      exact iff_of_true (contains_iff_mem.mp present) rfl
    · simp

theorem Server.Consistent.write (sound : server.Consistent)
    (placed : ∃ row ∈ server.rows, row.id = r.dmId) : (server.write r remove).Consistent where
  unique := by
    unfold Server.write
    dsimp only
    cases remove with
    | true => exact sound.unique.filter _
    | false => exact (assigns_added sound.unique).unique
  stored := by
    apply Write.stored_concat sound.stored
    · rw [mem_write_self]
      cases remove <;> simp
    · exact fun key different => mem_write_of_ne different
  published number member := by
    have inside := sound.published number member
    simp only [Server.write, length_append]
    omega
  ordered := Write.inOrder_concat sound.published sound.ordered
  referenced key member := by
    by_cases same : key = r
    · rw [same]
      exact placed
    · exact sound.referenced key ((mem_write_of_ne same).mp member)

/-- Writes of other messages or users leave a message as it was read. -/
theorem Server.Snapshot.write {seen : Nat} {message : Message}
    (snapshot : server.Snapshot seen message) :
    (server.write r remove).Snapshot seen message where
  past := by
    have past := snapshot.past
    simp only [Server.write, length_append]
    omega
  proper := snapshot.proper
  current key placed untouched := by
    have different := Write.ne_of_untouched_concat snapshot.past untouched
    rw [mem_write_of_ne different.symm]
    exact snapshot.current key placed (Write.untouched_concat untouched)

theorem Server.Snapshot.of_server {seen : Nat} {message : Message}
    (snapshot : server.Snapshot seen message) (writes : other.writes = server.writes)
    (reactions : other.reactions = server.reactions) : other.Snapshot seen message where
  past := by rw [writes]; exact snapshot.past
  proper := snapshot.proper
  current := by rw [writes, reactions]; exact snapshot.current

/-- What the server reads now. -/
theorem snapshot_withReactions (sound : server.Consistent) (row : MessageRow) :
    server.Snapshot server.writes.length (row.withReactions server.reactions) where
  past := le_rfl
  proper := ⟨sound.unique.filter _, fun r member => of_decide_eq_true (mem_filter.mp member).2⟩
  current r placed _ := by
    have here : r.dmId = row.id := placed
    simp [MessageRow.withReactions, here]

end Server

/-! ## Requests that wait -/

section Waiting

variable {user : JsString} {toggles : List Toggle} {toggle : Toggle} {number : Nat}

theorem exists_split {α : Type} {items : List α} {item : α} (here : items[number]? = some item) :
    ∃ before after, items = before ++ item :: after ∧
      (∀ other, items.set number other = before ++ other :: after) ∧
      items.eraseIdx number = before ++ after := by
  obtain ⟨inside, rfl⟩ := List.getElem?_eq_some_iff.mp here
  refine ⟨items.take number, items.drop (number + 1), ?_, ?_, ?_⟩
  · rw [getElem_cons_drop, take_append_drop]
  · intro other
    rw [set_eq_take_append_cons_drop, if_pos inside]
  · rw [eraseIdx_eq_take_drop_succ]

theorem waiting_of_ne_sent (done : toggle.phase ≠ .sent) : toggle.waiting user = none := if_neg done

theorem mem_waiting {r : DmReaction} : r ∈ toggles.filterMap (Toggle.waiting user) ↔
    ∃ toggle ∈ toggles, toggle.phase = .sent ∧ toggle.reaction user = r := by
  simp only [mem_filterMap, Toggle.waiting]
  constructor
  · rintro ⟨toggle, member, equal⟩
    split at equal
    · rename_i sent
      exact ⟨toggle, member, sent, Option.some.inj equal⟩
    · cases equal
  · rintro ⟨toggle, member, sent, rfl⟩
    exact ⟨toggle, member, if_pos sent⟩

/-- A request that waits no longer, and those that still do. -/
theorem waiting_erase (here : toggles[number]? = some toggle) (sent : toggle.phase = .sent)
    (single : (toggles.filterMap (Toggle.waiting user)).Nodup) :
    ((toggles.eraseIdx number).filterMap (Toggle.waiting user)).Nodup ∧
      ∀ r, r ∈ (toggles.eraseIdx number).filterMap (Toggle.waiting user) ↔
        r ∈ toggles.filterMap (Toggle.waiting user) ∧ r ≠ toggle.reaction user := by
  obtain ⟨before, after, rfl, -, erased⟩ := exists_split here
  have waits : toggle.waiting user = some (toggle.reaction user) := if_pos sent
  rw [erased]
  rw [filterMap_append, filterMap_cons_some waits] at single
  rw [filterMap_append, filterMap_append, filterMap_cons_some waits]
  have absent := (nodup_middle.mp single)
  rw [nodup_cons] at absent
  refine ⟨absent.2, ?_⟩
  intro r
  constructor
  · intro member
    refine ⟨?_, ?_⟩
    · rcases mem_append.mp member with left | right
      · exact mem_append_left _ left
      · exact mem_append_right _ (mem_cons_of_mem _ right)
    · rintro rfl
      exact absent.1 member
  · rintro ⟨member, different⟩
    rcases mem_append.mp member with left | right
    · exact mem_append_left _ left
    · exact mem_append_right _ ((mem_cons.mp right).resolve_left different)

/-- To have it written is as good. -/
theorem waiting_set (here : toggles[number]? = some toggle) {written : Toggle}
    (done : written.phase ≠ .sent) :
    (toggles.set number written).filterMap (Toggle.waiting user) =
      (toggles.eraseIdx number).filterMap (Toggle.waiting user) := by
  obtain ⟨before, after, -, set, erased⟩ := exists_split here
  rw [set, erased, filterMap_append, filterMap_append,
    filterMap_cons_none (waiting_of_ne_sent done)]

end Waiting

/-! ## A page -/

section Pages

variable {server other : Server} {client after : Client}

section

variable (sound : client.Faithful server)

include sound

/-- A page depends on the reactions of the server and their writes only. -/
theorem Client.Faithful.of_server
    (writes : other.writes = server.writes) (reactions : other.reactions = server.reactions) :
    client.Faithful other where
  proper := sound.proper
  passed := by rw [writes]; exact sound.passed
  ordered := by rw [writes]; exact sound.ordered
  unsubscribed := sound.unsubscribed
  foreign := by rw [writes, reactions]; exact sound.foreign
  own := by rw [reactions]; exact sound.own
  waiting := by rw [reactions]; exact sound.waiting
  single := sound.single
  toggles := sound.toggles
  fetches purpose seen data member message listed :=
    (sound.fetches purpose seen data member message listed).of_server writes reactions
  sends seen message member := (sound.sends seen message member).of_server writes reactions

/-- Messages that were read may enter the list, and others leave it. -/
theorem Client.Faithful.enter
    (user : after.user = client.user) (subscribed : after.subscribed = client.subscribed)
    (passed : after.passed = client.passed) (toggles : after.toggles = client.toggles)
    (messages : ∀ message ∈ after.messages, message ∈ client.messages ∨
      ∃ seen, server.Snapshot seen message ∧ client.MayEnter server seen message)
    (fetches : ∀ purpose seen data, ⟨purpose, .answered seen data⟩ ∈ after.fetches →
      ∀ message ∈ data, server.Snapshot seen message)
    (sends : ∀ seen message, Send.stored seen message ∈ after.sends →
      server.Snapshot seen message) : after.Faithful server where
  proper message member := by
    rcases messages message member with old | ⟨seen, snapshot, -⟩
    · exact sound.proper message old
    · exact snapshot.proper
  passed := by rw [passed]; exact sound.passed
  ordered := by rw [passed]; exact sound.ordered
  unsubscribed outside := by
    rw [subscribed] at outside
    apply eq_nil_iff_forall_not_mem.mpr
    intro message member
    rcases messages message member with old | ⟨seen, -, enters⟩
    · rw [sound.unsubscribed outside] at old
      cases old
    · rw [enters.subscribed] at outside
      cases outside
  foreign message member r placed apart settled := by
    rw [passed] at settled
    rw [user] at apart
    rcases messages message member with old | ⟨seen, snapshot, enters⟩
    · exact sound.foreign message old r placed apart settled
    · apply snapshot.current r placed
      intro number write here later same
      have about : write.key.dmId = message.id := by rw [same, placed]
      exact (enters.untold number write here later about).2 (settled number write here same)
  own message member r placed mine idle := by
    rw [toggles, user] at idle
    rw [user] at mine
    rcases messages message member with old | ⟨seen, snapshot, enters⟩
    · exact sound.own message old r placed mine idle
    · apply snapshot.current r placed
      intro number write here later same
      have about : write.key.dmId = message.id := by rw [same, placed]
      exact (enters.untold number write here later about).1 (by rw [same, mine])
  waiting toggle member sent message held about := by
    rw [toggles] at member
    rw [user]
    rcases messages message held with old | ⟨seen, -, enters⟩
    · exact sound.waiting toggle member sent message old about
    · rw [enters.idle toggle member about.symm] at sent
      cases sent
  single := by rw [toggles, user]; exact sound.single
  toggles := by rw [toggles]; exact sound.toggles
  fetches := fetches
  sends := sends

/-- A page whose list, requests and events are as they were. -/
theorem Client.Faithful.same
    (user : after.user = client.user) (subscribed : after.subscribed = client.subscribed)
    (passed : after.passed = client.passed) (toggles : after.toggles = client.toggles)
    (messages : ∀ message ∈ after.messages, message ∈ client.messages)
    (fetches : ∀ purpose seen data, (⟨purpose, .answered seen data⟩ : Fetch) ∈ after.fetches →
      ⟨purpose, .answered seen data⟩ ∈ client.fetches)
    (sends : ∀ seen message, Send.stored seen message ∈ after.sends →
      .stored seen message ∈ client.sends) : after.Faithful server :=
  sound.enter user subscribed passed toggles (fun message member => .inl (messages message member))
    (fun purpose seen data member => sound.fetches purpose seen data
      (fetches purpose seen data member))
    fun seen message member => sound.sends seen message (sends seen message member)

theorem Client.Faithful.ask (purpose : Purpose) : (client.ask purpose).Faithful server := by
  refine sound.same rfl rfl rfl rfl (fun _ member => member) ?_ (fun _ _ member => member)
  intro other seen data member
  rcases mem_append.mp member with old | new
  · exact old
  · cases mem_singleton.mp new

theorem Client.Faithful.drop (number : Nat) (fetch : Fetch) :
    (client.drop number fetch).Faithful server :=
  sound.same rfl rfl rfl rfl (fun _ member => member)
    (fun _ _ _ member => mem_of_mem_eraseIdx member) fun _ _ member => member

end

/-- What an answer brings into the list. -/
theorem mem_apply_entering {purpose : Purpose} {data prev : Messages} {message : Message}
    (member : message ∈ purpose.apply data prev) :
    message ∈ prev ∨ message ∈ data ∧ message ∈ purpose.entering data prev := by
  cases purpose with
  | load => exact .inr ⟨member, member⟩
  | older cursor =>
    rcases mem_append.mp member with new | old
    · exact .inr ⟨new, new⟩
    · exact .inl old
  | resync =>
    rcases Messages.mem_resync member with old | ⟨new, absent⟩
    · exact .inl old
    · exact .inr ⟨new, mem_filter.mpr ⟨new, by simpa using absent⟩⟩
  | hydrate id =>
    have step : ∀ (data prev : Messages),
        message ∈ data.foldl (fun prev newMsg => Messages.hydrate newMsg prev) prev →
          message ∈ prev ∨ message ∈ data ∧ prev.has message.id = false := by
      intro data
      induction data with
      | nil => exact fun prev member => .inl member
      | cons first rest ih =>
        intro prev member
        rcases ih (Messages.hydrate first prev) member with held | ⟨later, absent⟩
        · rcases Messages.mem_hydrate held with old | ⟨rfl, absent⟩
          · exact .inl old
          · exact .inr ⟨mem_cons_self, absent⟩
        · refine .inr ⟨mem_cons_of_mem _ later, ?_⟩
          rw [← Bool.not_eq_true, Messages.has_iff] at absent ⊢
          rintro ⟨old, held, same⟩
          exact absent ⟨old, Messages.mem_hydrate_of_mem held, same⟩
    rcases step data prev member with old | ⟨new, absent⟩
    · exact .inl old
    · exact .inr ⟨new, mem_filter.mpr ⟨new, by simpa using absent⟩⟩

/-- An event that is delivered in order. -/
theorem Client.Faithful.deliver (sound : client.Faithful server) (stored : server.Consistent)
    {number : Nat} {write : Write DmReaction} (here : server.writes[number]? = some write)
    (subscribed : client.subscribed = true) (fresh : number ∉ client.passed)
    (follows : server.follows client.passed number) :
    (client.deliver number write).Faithful server := by
  have passed : ∀ later ∈ number :: client.passed, later < server.writes.length := by
    intro later member
    rcases mem_cons.mp member with rfl | member
    · exact (List.getElem?_eq_some_iff.mp here).1
    · exact sound.passed later member
  have ordered := Write.inOrder_cons here (follows write here) sound.ordered
  have outside : (client.deliver number write).subscribed = false →
      (client.deliver number write).messages = [] := by
    intro unsubscribed
    have same : client.subscribed = false := unsubscribed
    rw [subscribed] at same
    cases same
  by_cases mine : write.key.userId = client.user
  · have messages : (client.deliver number write).messages = client.messages := by
      simp [Client.deliver, Messages.reactionAdded, Messages.reactionRemoved, mine]
    refine ⟨?_, passed, ordered, outside, ?_, ?_, ?_, sound.single, sound.toggles, sound.fetches,
      sound.sends⟩
    · rw [messages]
      exact sound.proper
    · rw [messages]
      intro message member r placed apart settled
      apply sound.foreign message member r placed apart
      refine Write.settled_of_settled_cons here ?_ settled
      rintro rfl
      exact apart mine
    · rw [messages]
      exact sound.own
    · rw [messages]
      exact sound.waiting
  · have assigned : client.messages.Assigns write.key write.raised
        (client.deliver number write).messages :=
      Messages.assigns_delivered sound.proper mine
    refine ⟨?_, passed, ordered, outside, ?_, ?_, ?_, sound.single, sound.toggles, sound.fetches,
      sound.sends⟩
    · intro message member
      exact (assigned message member).1
    · intro message member r placed apart settled
      obtain ⟨-, before, held, id, others, self⟩ := assigned message member
      by_cases same : r = write.key
      · subst same
        rw [self placed.symm]
        exact (stored.stored number write here
          (Write.untouched_of_settled_cons here fresh sound.ordered settled)).symm
      · rw [others r same]
        exact sound.foreign before held r (placed.trans id) apart
          (Write.settled_of_settled_cons here (Ne.symm same) settled)
    · intro message member r placed own idle
      obtain ⟨-, before, held, id, others, -⟩ := assigned message member
      have different : r ≠ write.key := by
        rintro rfl
        exact mine own
      rw [others r different]
      exact sound.own before held r (placed.trans id) own idle
    · intro toggle member sent message listed about
      obtain ⟨-, before, held, id, others, -⟩ := assigned message listed
      have different : toggle.reaction client.user ≠ write.key :=
        fun same => mine (by rw [← same]; rfl)
      have kept := sound.waiting toggle member sent before held (id.symm.trans about)
      exact ⟨(others _ different).trans kept.1, kept.2⟩

/-- The page shows an own reaction, or not, and waits for other requests than before. -/
theorem Client.Faithful.assign (sound : client.Faithful server) {r : DmReaction} {v : Bool}
    (mine : r.userId = client.user) {messages : Messages} {toggles : List Toggle}
    (assigned : client.messages.Assigns r v messages)
    (waits : ∀ other, other ≠ r → (other ∈ toggles.filterMap (Toggle.waiting client.user) ↔
      other ∈ client.toggles.filterMap (Toggle.waiting client.user)))
    (single : (toggles.filterMap (Toggle.waiting client.user)).Nodup)
    (sound' : ∀ toggle ∈ toggles, toggle.phase ≠ .abandoned ∧
      sentEmoji toggle.emoji = some toggle.emoji)
    (kept : ∀ toggle ∈ toggles, toggle ∈ client.toggles ∨ toggle.reaction client.user = r)
    (idle : r ∉ toggles.filterMap (Toggle.waiting client.user) →
      (∃ message ∈ client.messages, message.id = r.dmId) → (v = true ↔ r ∈ server.reactions))
    (asked : ∀ toggle ∈ toggles, toggle.phase = .sent → toggle.reaction client.user = r →
      (∃ message ∈ client.messages, message.id = r.dmId) → (v = true ↔ toggle.remove = false) ∧
          (r ∈ server.reactions ↔ toggle.remove = true)) :
    { client with messages := messages, toggles := toggles }.Faithful server := by
  refine ⟨?_, sound.passed, sound.ordered, ?_, ?_, ?_, ?_, single, sound', sound.fetches,
    sound.sends⟩
  · intro message member
    exact (assigned message member).1
  · intro outside
    apply eq_nil_iff_forall_not_mem.mpr
    intro message member
    obtain ⟨-, before, held, -⟩ := assigned message member
    rw [sound.unsubscribed outside] at held
    cases held
  · intro message member other placed apart settled
    obtain ⟨-, before, held, id, others, -⟩ := assigned message member
    have different : other ≠ r := by
      rintro rfl
      exact apart mine
    rw [others other different]
    exact sound.foreign before held other (placed.trans id) apart settled
  · intro message member other placed own free
    obtain ⟨-, before, held, id, others, self⟩ := assigned message member
    by_cases same : other = r
    · subst same
      rw [self placed.symm]
      exact idle free ⟨before, held, id.symm.trans placed.symm⟩
    · rw [others other same]
      exact sound.own before held other (placed.trans id) own fun waiting =>
        free ((waits other same).mpr waiting)
  · intro toggle member sent message listed about
    obtain ⟨-, before, held, id, others, self⟩ := assigned message listed
    by_cases same : toggle.reaction client.user = r
    · subst same
      have present := asked toggle member sent rfl ⟨before, held, id.symm.trans about⟩
      exact ⟨(self about).trans present.1, present.2⟩
    · have waiting :=
        sound.waiting toggle ((kept toggle member).resolve_right same) sent before held
        (id.symm.trans about)
      exact ⟨(others _ same).trans waiting.1, waiting.2⟩

/-- The reaction the page finds on its rendering. -/
theorem ownReaction_eq {messages : Messages} {user messageId emoji : JsString} {existing : Bool}
    (proper : ∀ message ∈ messages, message.Proper)
    (found : messages.ownReaction user messageId emoji = some existing) :
    ∃ message ∈ messages, message.id = messageId ∧
      (existing = true ↔ ⟨messageId, user, emoji⟩ ∈ message.reactions) := by
  obtain ⟨message, first, equal⟩ := Option.map_eq_some_iff.mp found
  have member := mem_of_find?_eq_some first
  have named : message.id = messageId := by simpa using find?_some first
  refine ⟨message, member, named, ?_⟩
  rw [← equal, any_eq_true]
  constructor
  · rintro ⟨r, listed, same⟩
    rw [Bool.and_eq_true, decide_eq_true_eq, decide_eq_true_eq] at same
    have placed := ((proper message member).own r listed).trans named
    rwa [← placed, ← same.1, ← same.2]
  · intro listed
    exact ⟨_, listed, by simp⟩

theorem Client.Faithful.toggle (sound : client.Faithful server) {messageId emoji : JsString}
    {existing : Bool} (sent : sentEmoji emoji = some emoji)
    (idle : ∀ toggle ∈ client.toggles, toggle.reaction client.user = ⟨messageId, client.user, emoji⟩ →
      toggle.phase = .written)
    (found : client.messages.ownReaction client.user messageId emoji = some existing) :
    { client.display ⟨messageId, emoji, existing, .sent⟩ (!existing) with
      toggles := client.toggles ++
        [(⟨messageId, emoji, existing, .sent⟩ : Toggle)] }.Faithful server := by
  have free : (⟨messageId, client.user, emoji⟩ : DmReaction) ∉
      client.toggles.filterMap (Toggle.waiting client.user) := by
    intro waiting
    obtain ⟨toggle, member, phase, same⟩ := mem_waiting.mp waiting
    rw [idle toggle member same] at phase
    cases phase
  have agrees : ∀ message ∈ client.messages, message.id = messageId →
      ((⟨messageId, client.user, emoji⟩ : DmReaction) ∈ message.reactions ↔
        ⟨messageId, client.user, emoji⟩ ∈ server.reactions) := by
    intro message member named
    exact sound.own message member _ named.symm rfl free
  obtain ⟨first, member, named, shown⟩ := ownReaction_eq sound.proper found
  have stored := shown.trans (agrees first member named)
  have waits : (client.toggles ++ [(⟨messageId, emoji, existing, .sent⟩ : Toggle)]).filterMap
      (Toggle.waiting client.user) = client.toggles.filterMap (Toggle.waiting client.user) ++
          [⟨messageId, client.user, emoji⟩] := filterMap_append
  apply sound.assign (r := ⟨messageId, client.user, emoji⟩) (v := !existing) rfl
  · apply Messages.assigns_showReaction sound.proper
    intro hidden message held about
    rw [agrees message held about, ← stored]
    simpa using hidden
  · intro other different
    rw [waits]
    simp [different]
  · rw [waits]
    refine sound.single.append (nodup_singleton _) ?_
    intro other old new
    obtain rfl := mem_singleton.mp new
    exact free old
  · intro toggle member
    rcases mem_append.mp member with old | new
    · exact sound.toggles toggle old
    · obtain rfl := mem_singleton.mp new
      exact ⟨TogglePhase.noConfusion, sent⟩
  · intro toggle member
    rcases mem_append.mp member with old | new
    · exact .inl old
    · obtain rfl := mem_singleton.mp new
      exact .inr rfl
  · intro absent
    rw [waits] at absent
    exact absurd (mem_append_right _ (mem_singleton.mpr rfl)) absent
  · intro toggle member phase same _
    rcases mem_append.mp member with old | new
    · exact absurd (mem_waiting.mpr ⟨toggle, old, phase, same⟩) free
    · obtain rfl := mem_singleton.mp new
      exact ⟨by simp, stored.symm⟩

/-- A request that is refused is taken back. -/
theorem Client.Faithful.refuse (sound : client.Faithful server) {number : Nat} {toggle : Toggle}
    (here : client.toggles[number]? = some toggle) (sent : toggle.phase = .sent) :
    { client.display toggle toggle.remove with
      toggles := client.toggles.eraseIdx number }.Faithful server := by
  have member := mem_of_getElem? here
  obtain ⟨single, waits⟩ := waiting_erase here sent sound.single
  have waiting := sound.waiting toggle member sent
  apply sound.assign (r := toggle.reaction client.user) (v := toggle.remove) rfl
  · apply Messages.assigns_showReaction sound.proper
    intro hidden message held about
    exact fun listed => by
      rw [(waiting message held about).1.mp listed] at hidden
      cases hidden
  · intro other different
    rw [waits]
    exact and_iff_left different
  · exact single
  · exact fun other kept => sound.toggles other (mem_of_mem_eraseIdx kept)
  · exact fun other kept => .inl (mem_of_mem_eraseIdx kept)
  · rintro - ⟨message, held, about⟩
    exact (waiting message held about).2.symm
  · intro other kept phase same
    exact absurd rfl ((waits _).mp (mem_waiting.mpr ⟨other, kept, phase, same⟩)).2

theorem waiting_eraseIdx_of_ne_sent {user : JsString} {toggles : List Toggle} {toggle : Toggle}
    {number : Nat} (here : toggles[number]? = some toggle) (done : toggle.phase ≠ .sent) :
    (toggles.eraseIdx number).filterMap (Toggle.waiting user) =
      toggles.filterMap (Toggle.waiting user) := by
  obtain ⟨before, after, rfl, -, erased⟩ := exists_split here
  rw [erased, filterMap_append, filterMap_append, filterMap_cons_none (waiting_of_ne_sent done)]

section

variable (sound : client.Faithful server)

include sound

theorem Client.Faithful.finish {number : Nat} {toggle : Toggle}
    (here : client.toggles[number]? = some toggle) (done : toggle.phase ≠ .sent) :
    { client with toggles := client.toggles.eraseIdx number }.Faithful server := by
  have waits := @waiting_eraseIdx_of_ne_sent client.user _ _ _ here done
  refine { sound with own := ?_, waiting := ?_, single := ?_, toggles := ?_ }
  · intro message member r placed mine idle
    exact sound.own message member r placed mine (by rwa [← waits])
  · intro other kept
    exact sound.waiting other (mem_of_mem_eraseIdx kept)
  · dsimp only
    rw [waits]
    exact sound.single
  · exact fun other kept => sound.toggles other (mem_of_mem_eraseIdx kept)

/-- A page keeps up with the server through everything the condition admits. -/
theorem Client.Faithful.react {order : PageOrder} {event : ClientEvent} (stored : server.Consistent)
    (traceable : client.traceable server event)
    (reacted : client.react order server event = some after) : after.Faithful server := by
  cases event with
  | loads | resyncs =>
    cases reacted
    exact sound.ask _
  | loadsMore =>
    simp only [Client.react] at reacted
    split at reacted
    · cases reacted
    · obtain ⟨first, -, rfl⟩ := Option.map_eq_some_iff.mp reacted
      exact (sound.ask (.older first.createdAt)).same rfl rfl rfl rfl (fun _ member => member)
        (fun _ _ _ member => member) fun _ _ member => member
  | hears messageId actorId =>
    simp only [Client.react] at reacted
    split at reacted
    · cases reacted
      split
      · exact sound
      · exact sound.ask _
    · cases reacted
  | finds number =>
    simp only [Client.react] at reacted
    split at reacted
    · cases reacted
      refine sound.same rfl rfl rfl rfl (fun _ member => member) ?_ fun _ _ member => member
      intro other seen data member
      rcases mem_or_eq_of_mem_set member with old | new
      · exact old
      · cases new
    · cases reacted
  | answers number =>
    simp only [Client.react] at reacted
    split at reacted
    · cases reacted
      refine sound.enter rfl rfl rfl rfl (fun _ member => .inl member) ?_ sound.sends
      intro other seen data member message listed
      rcases mem_or_eq_of_mem_set member with old | new
      · exact sound.fetches other seen data old message listed
      · cases new
        obtain ⟨row, -, rfl⟩ := mem_map.mp listed
        exact snapshot_withReactions stored row
    · cases reacted
  | arrives number =>
    simp only [Client.react] at reacted
    split at reacted
    · rename_i purpose seen data asked
      cases reacted
      have dropped := sound.drop number ⟨purpose, .answered seen data⟩
      refine sound.enter rfl rfl rfl rfl ?_ dropped.fetches dropped.sends
      intro message member
      rcases mem_apply_entering member with old | ⟨new, entering⟩
      · exact .inl old
      · exact .inr ⟨seen, sound.fetches purpose seen data (mem_of_getElem? asked) message new,
          traceable purpose seen data asked message entering⟩
    · cases reacted
  | breaksOff number =>
    obtain ⟨fetch, -, rfl⟩ := Option.map_eq_some_iff.mp reacted
    exact sound.drop number fetch
  | renders =>
    cases reacted
    exact sound.same rfl rfl rfl rfl (fun _ member => member) (fun _ _ _ member => member)
      fun _ _ member => member
  | sends =>
    cases reacted
    refine sound.same rfl rfl rfl rfl (fun _ member => member) (fun _ _ _ member => member) ?_
    intro seen message member
    rcases mem_append.mp member with old | new
    · exact old
    · cases mem_singleton.mp new
  | appends number =>
    simp only [Client.react] at reacted
    split at reacted
    · rename_i seen message there
      cases reacted
      refine sound.enter rfl rfl rfl rfl ?_ sound.fetches fun _ _ member =>
        sound.sends _ _ (mem_of_mem_eraseIdx member)
      intro other member
      rcases mem_append.mp member with old | new
      · exact .inl old
      · obtain rfl := mem_singleton.mp new
        exact .inr ⟨seen, sound.sends seen other (mem_of_getElem? there),
          traceable seen other there⟩
    · cases reacted
  | givesUp number =>
    obtain ⟨send, -, rfl⟩ := Option.map_eq_some_iff.mp reacted
    exact sound.same rfl rfl rfl rfl (fun _ member => member) (fun _ _ _ member => member)
      fun _ _ member => mem_of_mem_eraseIdx member
  | removes id =>
    cases reacted
    exact sound.same rfl rfl rfl rfl (fun _ member => mem_of_mem_filter member)
      (fun _ _ _ member => member) fun _ _ member => member
  | subscribes =>
    simp only [Client.react] at reacted
    split at reacted
    · cases reacted
    · rename_i outside
      cases reacted
      have empty : client.messages = [] := sound.unsubscribed (by simpa using outside)
      exact { sound with
        passed := stored.published
        ordered := stored.ordered
        unsubscribed := by rintro ⟨⟩
        foreign := by
          rw [empty]
          rintro _ ⟨⟩ }
  | delivers number =>
    simp only [Client.react] at reacted
    split at reacted
    · rename_i told
      obtain ⟨write, here, rfl⟩ := Option.map_eq_some_iff.mp reacted
      rw [Bool.and_eq_true] at told
      exact sound.deliver stored here told.1 traceable.1 traceable.2
    · cases reacted
  | toggles messageId emoji =>
    obtain ⟨existing, found, rfl⟩ := Option.map_eq_some_iff.mp reacted
    rw [traceable.2.1] at found
    exact sound.toggle traceable.1 traceable.2.2 found
  | finishes number =>
    simp only [Client.react] at reacted
    split at reacted
    · rename_i here
      cases reacted
      refine sound.finish here ?_
      rintro ⟨⟩
    · cases reacted
  | refused number =>
    simp only [Client.react] at reacted
    split at reacted
    · rename_i here
      cases reacted
      exact sound.refuse here rfl
    · rename_i here
      exact absurd rfl (sound.toggles _ (mem_of_getElem? here)).1
    · cases reacted
  | fails number => exact traceable.elim

/-- A write of another user, or of a message the page does not show. -/
theorem Client.Faithful.write {r : DmReaction} {remove : Bool}
    (apart : r.userId = client.user → client.messages.has r.dmId = false) :
    client.Faithful (server.write r remove) := by
  have different : ∀ message ∈ client.messages, ∀ other : DmReaction, other.dmId = message.id →
      other.userId = client.user → other ≠ r := by
    rintro message member other placed mine rfl
    have absent := apart mine
    rw [Messages.has_iff.mpr ⟨message, member, placed.symm⟩] at absent
    cases absent
  have length : (server.write r remove).writes.length = server.writes.length + 1 :=
    length_append
  refine ⟨sound.proper, ?_, Write.inOrder_concat sound.passed sound.ordered, sound.unsubscribed, ?_,
    ?_, ?_, sound.single, sound.toggles, ?_, ?_⟩
  · intro number member
    have inside := sound.passed number member
    omega
  · intro message member other placed foreign settled
    have fresh : server.writes.length ∉ client.passed := fun member =>
      absurd (sound.passed _ member) (lt_irrefl _)
    have apart := Write.ne_of_settled_concat fresh settled
    rw [mem_write_of_ne apart.symm]
    exact sound.foreign message member other placed foreign (Write.settled_concat settled)
  · intro message member other placed mine idle
    rw [mem_write_of_ne (different message member other placed mine)]
    exact sound.own message member other placed mine idle
  · intro toggle member sent message held about
    have apart := different message held (toggle.reaction client.user) about.symm rfl
    rw [mem_write_of_ne apart]
    exact sound.waiting toggle member sent message held about
  · exact fun purpose seen data member message listed =>
      (sound.fetches purpose seen data member message listed).write
  · exact fun seen message member => (sound.sends seen message member).write

/-- The write of an own request. -/
theorem Client.Faithful.carryOut {number : Nat} {toggle : Toggle}
    (here : client.toggles[number]? = some toggle) (sent : toggle.phase = .sent) :
    { client with toggles := client.toggles.set number { toggle with phase := .written } }.Faithful
      (server.write (toggle.reaction client.user) toggle.remove) := by
  have member := mem_of_getElem? here
  obtain ⟨single, waits⟩ := waiting_erase here sent sound.single
  have set : (client.toggles.set number { toggle with phase := .written }).filterMap
      (Toggle.waiting client.user) =
        (client.toggles.eraseIdx number).filterMap (Toggle.waiting client.user) :=
    waiting_set here nofun
  have length : (server.write (toggle.reaction client.user) toggle.remove).writes.length =
      server.writes.length + 1 := length_append
  refine ⟨sound.proper, ?_, Write.inOrder_concat sound.passed sound.ordered, sound.unsubscribed, ?_,
    ?_, ?_, ?_, ?_, ?_, ?_⟩
  · intro later member
    have inside := sound.passed later member
    omega
  · intro message held other placed foreign settled
    have fresh : server.writes.length ∉ client.passed := fun member =>
      absurd (sound.passed _ member) (lt_irrefl _)
    have apart := Write.ne_of_settled_concat fresh settled
    rw [mem_write_of_ne apart.symm]
    exact sound.foreign message held other placed foreign (Write.settled_concat settled)
  · intro message held other placed mine idle
    dsimp only at idle
    rw [set, waits] at idle
    by_cases same : other = toggle.reaction client.user
    · subst same
      rw [mem_write_self]
      exact (sound.waiting toggle member sent message held placed.symm).1
    · rw [mem_write_of_ne same]
      exact sound.own message held other placed mine fun waiting => idle ⟨waiting, same⟩
  · intro other kept phase message held about
    have waiting : other.reaction client.user ∈
        (client.toggles.eraseIdx number).filterMap (Toggle.waiting client.user) := by
      rw [← set]
      exact mem_waiting.mpr ⟨other, kept, phase, rfl⟩
    have apart := ((waits _).mp waiting).2
    rcases mem_or_eq_of_mem_set kept with old | rfl
    · rw [mem_write_of_ne apart]
      exact sound.waiting other old phase message held about
    · cases phase
  · dsimp only
    rw [set]
    exact single
  · intro other kept
    rcases mem_or_eq_of_mem_set kept with old | rfl
    · exact sound.toggles other old
    · exact ⟨nofun, (sound.toggles toggle member).2⟩
  · exact fun purpose seen data member message listed =>
      (sound.fetches purpose seen data member message listed).write
  · exact fun seen message member => (sound.sends seen message member).write

end

end Pages

/-! ## Runs -/

section Runs

variable {order : PageOrder} {world after : World}

theorem World.Faithful.of_server (sound : world.Faithful) {server : Server}
    (consistent : server.Consistent) (writes : server.writes = world.server.writes)
    (reactions : server.reactions = world.server.reactions) :
    World.Faithful { world with server := server } :=
  ⟨consistent, fun client member => (sound.clients client member).of_server writes reactions⟩

theorem World.Faithful.put (sound : world.Faithful) (number : Nat) {client : Client}
    (faithful : client.Faithful world.server) : (world.put number client).Faithful where
  server := sound.server
  clients other member := by
    rcases mem_or_eq_of_mem_set member with old | rfl
    · exact sound.clients other old
    · exact faithful

/-- A message that was just stored has no reactions yet. -/
theorem snapshot_stored {server : Server} (sound : server.Consistent) {id user : JsString}
    {createdAt : Int} (fresh : ∀ row ∈ server.rows, row.id ≠ id) :
    server.Snapshot server.writes.length ⟨id, user, createdAt, []⟩ where
  past := le_rfl
  proper := ⟨nodup_nil, nofun⟩
  current r placed _ := by
    refine iff_of_false nofun ?_
    intro stored
    obtain ⟨row, member, same⟩ := sound.referenced r stored
    exact fresh row member (same.trans placed)

theorem World.Faithful.next {event : TimelineEvent} (sound : world.Faithful)
    (traceable : world.traceable event) (moved : world.next order event = some after) :
    after.Faithful := by
  cases event with
  | mounts user =>
    cases moved
    refine ⟨sound.server, ?_⟩
    intro client member
    rcases mem_append.mp member with old | new
    · exact sound.clients client old
    · obtain rfl := mem_singleton.mp new
      exact ⟨nofun, nofun, nofun, fun _ => rfl, nofun, nofun, nofun, nodup_nil, nofun, nofun, nofun⟩
  | own number event =>
    obtain ⟨client, here, moved⟩ := Option.bind_eq_some_iff.mp moved
    obtain ⟨later, reacted, rfl⟩ := Option.map_eq_some_iff.mp moved
    exact sound.put number ((sound.clients client (mem_of_getElem? here)).react sound.server
      (traceable client here) reacted)
  | stores number index id createdAt =>
    obtain ⟨client, here, moved⟩ := Option.bind_eq_some_iff.mp moved
    dsimp only at moved
    split at moved
    · split at moved
      · cases moved
      · rename_i fresh
        cases moved
        have consistent : { world.server with rows := world.server.rows ++
            [(⟨id, client.user, createdAt, false⟩ : MessageRow)] }.Consistent :=
          { sound.server with
            referenced := fun r stored => by
              obtain ⟨row, member, same⟩ := sound.server.referenced r stored
              exact ⟨row, mem_append_left _ member, same⟩ }
        have kept := sound.of_server consistent rfl rfl
        have before := sound.clients client (mem_of_getElem? here)
        have page : { client with
            sends := client.sends.set index
              (.stored world.server.writes.length ⟨id, client.user, createdAt, []⟩) }.Faithful
                world.server := by
          refine before.enter rfl rfl rfl rfl (fun _ member => .inl member) before.fetches ?_
          intro seen message member
          rcases mem_or_eq_of_mem_set member with old | new
          · exact before.sends seen message old
          · cases new
            apply snapshot_stored sound.server
            intro row stored same
            exact fresh (any_eq_true.mpr ⟨row, stored, by simpa using same⟩)
        exact kept.put number (page.of_server rfl rfl)
    · cases moved
  | announces id senderId =>
    simp only [World.next] at moved
    split at moved
    · cases moved
      exact sound.of_server { sound.server with } rfl rfl
    · cases moved
  | deletes id =>
    cases moved
    refine sound.of_server { sound.server with referenced := ?_ } rfl rfl
    intro r stored
    obtain ⟨row, member, same⟩ := sound.server.referenced r stored
    refine ⟨_, mem_map_of_mem member, ?_⟩
    split <;> exact same
  | writes number index =>
    obtain ⟨client, here, moved⟩ := Option.bind_eq_some_iff.mp moved
    obtain ⟨toggle, asked, moved⟩ := Option.bind_eq_some_iff.mp moved
    split at moved
    · cases moved
    · rename_i unwritten
      split at moved
      · rename_i placed
        obtain ⟨emoji, read, rfl⟩ := Option.map_eq_some_iff.mp moved
        have before := sound.clients client (mem_of_getElem? here)
        obtain ⟨unabandoned, normal⟩ := before.toggles toggle (mem_of_getElem? asked)
        obtain rfl := Option.some.inj (normal.symm.trans read)
        have sent : toggle.phase = .sent := by
          cases phase : toggle.phase with
          | sent => rfl
          | written => exact absurd phase unwritten
          | abandoned => exact absurd phase unabandoned
        have row : ∃ row ∈ world.server.rows, row.id = toggle.messageId := by
          simpa using any_eq_true.mp placed
        have length : number < world.clients.length := (List.getElem?_eq_some_iff.mp here).1
        refine ⟨sound.server.write row, ?_⟩
        intro other member
        obtain ⟨position, there⟩ := getElem?_of_mem member
        unfold World.carryOut at there
        by_cases same : position = number
        · subst same
          rw [getElem?_set_self length, if_pos sent] at there
          cases there
          exact before.carryOut asked sent
        · rw [getElem?_set_ne (Ne.symm same)] at there
          apply (sound.clients other (mem_of_getElem? there)).write
          exact fun mine => traceable client toggle here asked position same other there mine.symm
      · cases moved
  | publishes number =>
    simp only [World.next] at moved
    split at moved
    · rename_i new
      cases moved
      rw [Bool.and_eq_true, decide_eq_true_eq] at new
      obtain ⟨write, there⟩ : ∃ write, world.server.writes[number]? = some write :=
        ⟨_, getElem?_eq_getElem new.1⟩
      refine sound.of_server { sound.server with published := ?_, ordered := ?_ } rfl rfl
      · intro later member
        rcases mem_cons.mp member with rfl | member
        · exact new.1
        · exact sound.server.published later member
      · exact Write.inOrder_cons there (traceable _ there) sound.server.ordered
    · cases moved

end Runs

/-- In a run whose steps all meet the condition, the connected pages show the reactions of
the server once everything has been delivered. -/
theorem World.converged_of_reachable (order : PageOrder) {world : World}
    (reached : (timelineSystem order).Reachable World.traceable world) (quiet : world.Quiet) :
    world.Converged := by
  have sound : world.Faithful := by
    refine reached.invariant ?_ ?_
    · intro start initial
      refine ⟨⟨initial.reactions, ?_, ?_, ?_, initial.referenced⟩, ?_⟩
      · rw [initial.writes]
        exact nofun
      · rw [initial.published]
        exact nofun
      · rw [initial.published]
        exact nofun
      · rw [initial.clients]
        exact nofun
    · intro before event after _ sound traceable moved
      exact sound.next traceable moved
  intro client member subscribed message listed
  have page := sound.clients client member
  obtain ⟨-, -, idle⟩ := quiet.settled client member
  have settled : ∀ r, Write.Settled world.server.writes client.passed r := by
    intro r number write here _
    have inside := (List.getElem?_eq_some_iff.mp here).1
    exact quiet.delivered client member subscribed number (quiet.published number inside)
  refine ⟨(page.proper message listed).unique, ?_⟩
  intro r
  constructor
  · intro shown
    have placed := (page.proper message listed).own r shown
    refine ⟨?_, placed⟩
    by_cases mine : r.userId = client.user
    · exact (page.own message listed r placed mine (by simp [idle])).mp shown
    · exact (page.foreign message listed r placed mine (settled r)).mp shown
  · rintro ⟨stored, placed⟩
    by_cases mine : r.userId = client.user
    · exact (page.own message listed r placed mine (by simp [idle])).mpr stored
    · exact (page.foreign message listed r placed mine (settled r)).mpr stored

/-! ## Two pages of one user -/

section Computed

variable (world : World)

def World.isQuiet : Bool :=
  (List.range world.server.writes.length).all (world.server.published.contains ·) &&
    world.clients.all fun client =>
      (!client.subscribed || world.server.published.all (client.passed.contains ·)) &&
        client.fetches.isEmpty && client.sends.isEmpty && client.toggles.isEmpty

theorem World.quiet_of_isQuiet {world : World} (quiet : world.isQuiet = true) : world.Quiet := by
  simp only [World.isQuiet, Bool.and_eq_true, all_eq_true, mem_range, Bool.or_eq_true,
    Bool.not_eq_true', contains_iff_mem, List.isEmpty_iff] at quiet
  obtain ⟨published, clients⟩ := quiet
  refine ⟨published, ?_, ?_⟩
  · intro client member subscribed number told
    rcases (clients client member).1.1.1 with outside | delivered
    · rw [subscribed] at outside
      cases outside
    · exact delivered number told
  · intro client member
    exact ⟨(clients client member).1.1.2, (clients client member).1.2, (clients client member).2⟩

def Server.isFollowing (server : Server) (passed : List Nat) (number : Nat) : Bool :=
  match server.writes[number]? with
  | none => true
  | some write => (List.range number).all fun earlier =>
      match server.writes[earlier]? with
      | none => true
      | some other => other.key ≠ write.key || passed.contains earlier

theorem Server.follows_of_isFollowing {server : Server} {passed : List Nat} {number : Nat}
    (following : server.isFollowing passed number = true) : server.follows passed number := by
  intro write here earlier before other there same
  simp only [Server.isFollowing, here] at following
  have kept := all_eq_true.mp following earlier (mem_range.mpr before)
  simp only [there] at kept
  simpa [same] using kept

def Client.lets (server : Server) (client : Client) (seen : Nat) (message : Message) : Bool :=
  client.subscribed &&
    ((List.range server.writes.length).all fun number =>
      match server.writes[number]? with
      | none => true
      | some write => decide (number < seen) || write.key.dmId ≠ message.id ||
          (write.key.userId ≠ client.user && !client.passed.contains number)) &&
    client.toggles.all fun toggle => toggle.messageId ≠ message.id || toggle.phase = .written

theorem Client.mayEnter_of_lets {server : Server} {client : Client} {seen : Nat}
    {message : Message} (allowed : client.lets server seen message = true) :
    client.MayEnter server seen message := by
  simp only [Client.lets, Bool.and_eq_true] at allowed
  obtain ⟨⟨subscribed, untold⟩, idle⟩ := allowed
  refine ⟨subscribed, ?_, ?_⟩
  · intro number write here later about
    have inside := (List.getElem?_eq_some_iff.mp here).1
    have kept := all_eq_true.mp untold number (mem_range.mpr inside)
    simp only [here] at kept
    simpa [about, Nat.not_lt.mpr later] using kept
  · intro toggle member about
    have kept := all_eq_true.mp idle toggle member
    simpa [about] using kept

/-- The condition on a step, computed. -/
def World.isTraceable : TimelineEvent → Bool
  | .own number event =>
      match world.clients[number]? with
      | none => true
      | some client =>
          match event with
          | .arrives index =>
              match client.fetches[index]? with
              | some ⟨purpose, .answered seen data⟩ =>
                  (purpose.entering data client.messages).all (client.lets world.server seen)
              | _ => true
          | .appends index =>
              match client.sends[index]? with
              | some (.stored seen message) => client.lets world.server seen message
              | _ => true
          | .delivers index =>
              !client.passed.contains index && world.server.isFollowing client.passed index
          | .toggles messageId emoji =>
              sentEmoji emoji = some emoji && decide (client.rendered = client.messages) &&
                client.toggles.all fun toggle =>
                  toggle.reaction client.user ≠ ⟨messageId, client.user, emoji⟩ ||
                    toggle.phase = .written
          | .fails _ => false
          | _ => true
  | .publishes number => world.server.isFollowing world.server.published number
  | .writes number index =>
      match world.clients[number]? with
      | none => true
      | some client =>
          match client.toggles[index]? with
          | none => true
          | some toggle => (List.range world.clients.length).all fun other =>
              other = number || match world.clients[other]? with
                | none => true
                | some peer => peer.user ≠ client.user || !peer.messages.has toggle.messageId
  | _ => true

theorem World.isTraceable_sound (event : TimelineEvent)
    (checked : world.isTraceable event = true) : world.traceable event := by
  cases event with
  | own number event =>
    intro client here
    simp only [World.isTraceable, here] at checked
    cases event with
    | arrives index =>
      intro purpose seen data asked message member
      simp only [asked] at checked
      exact Client.mayEnter_of_lets (all_eq_true.mp checked message member)
    | appends index =>
      intro seen message stored
      simp only [stored] at checked
      exact Client.mayEnter_of_lets checked
    | delivers index =>
      rw [Bool.and_eq_true] at checked
      exact ⟨by simpa using checked.1, Server.follows_of_isFollowing checked.2⟩
    | toggles messageId emoji =>
      simp only [Bool.and_eq_true, decide_eq_true_eq, all_eq_true, Bool.or_eq_true] at checked
      exact ⟨checked.1.1, checked.1.2, fun toggle member same =>
        (checked.2 toggle member).resolve_left (not_not.mpr same)⟩
    | fails index => cases checked
    | _ => trivial
  | publishes number => exact Server.follows_of_isFollowing checked
  | writes number index =>
    intro client toggle here asked other different peer there same
    simp only [World.isTraceable, here, asked] at checked
    have inside := (List.getElem?_eq_some_iff.mp there).1
    have kept := all_eq_true.mp checked other (mem_range.mpr inside)
    simpa [different, there, same] using kept
  | _ => trivial

end Computed

namespace Sample

/-- A message is sent, the other page shows it, and its sender reacts. -/
def reacting (second : JsString) : List TimelineEvent :=
  [.mounts (js "u"), .mounts second, .own 0 .subscribes, .own 1 .subscribes, .own 0 .sends,
    .stores 0 0 (js "m") 1, .own 0 (.appends 0), .own 1 .loads, .own 1 (.finds 0),
    .own 1 (.answers 0), .own 1 (.arrives 0), .own 0 .renders, .own 0 (.toggles (js "m") (js "e")),
    .writes 0 0, .own 0 (.finishes 0), .publishes 0, .own 0 (.delivers 0), .own 1 (.delivers 0)]

def told : World :=
  (System.follow World.isTraceable (World.next plainOrder) emptyWorld (reacting (js "v"))).get
    (by decide)

def untold : World :=
  (System.follow System.unchecked (World.next plainOrder) emptyWorld (reacting (js "u"))).get
    (by decide)

end Sample

theorem told_converged : Sample.told.Converged ∧
    Sample.told.server.reactions = [⟨js "m", js "u", js "e"⟩] :=
  ⟨World.converged_of_reachable Sample.plainOrder
    (System.reachable_of_follow World.isTraceable_sound Sample.initial_emptyWorld _)
    (World.quiet_of_isQuiet (by decide)), by decide⟩

/-- Another page of the same user is never told. -/
theorem untold_diverged :
    (timelineSystem Sample.plainOrder).Reachable System.unguarded Sample.untold ∧
      Sample.untold.Quiet ∧ ¬Sample.untold.Converged := by
  refine ⟨System.reachable_of_follow System.unchecked_sound Sample.initial_emptyWorld _,
    World.quiet_of_isQuiet (by decide), ?_⟩
  intro converged
  have stored : (⟨js "m", js "u", js "e"⟩ : DmReaction) ∈ Sample.untold.server.reactions := by
    decide
  have blind : Sample.untold.clients.any fun client => client.subscribed &&
      client.messages.any fun message => message.id = js "m" && message.reactions.isEmpty := by
    decide
  obtain ⟨client, member, shows⟩ := List.any_eq_true.mp blind
  rw [Bool.and_eq_true, List.any_eq_true] at shows
  obtain ⟨subscribed, message, listed, bare⟩ := shows
  rw [Bool.and_eq_true, decide_eq_true_eq, List.isEmpty_iff] at bare
  have shown := ((converged client member subscribed message listed).2 _).mpr ⟨stored, bare.1.symm⟩
  rw [bare.2] at shown
  cases shown

end Vortex.Web
