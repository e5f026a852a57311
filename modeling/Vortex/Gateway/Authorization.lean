import Vortex.Gateway.Validation

/-!
# Who may enter a room

The same handlers under a web app that may answer anything: the membership check is
`checkChannelAccess` itself, over one response for each handler that asks, or none in
time. Whatever these are, a socket only enters its own user's channel and the channels
that its own handler asked for and was granted.
-/

variable {channelIds : List JsString} {fetch : HttpRequest → Except Unit HttpResponse}
  {channelId userId : JsString} {config : Option ChannelAccessConfig}

namespace Vortex.Gateway

open Foundation

/-! ## The checker over any web app -/

/-- What comes back from the web app for each handler: an error when nothing does in
time. -/
abbrev Responses : Type := Nat → HttpRequest → Except Unit HttpResponse

def handleMembership (deployment : Deployment) (config : Option ChannelAccessConfig)
    (respond : Responses) (index : Nat) : Handler gateway World
  | .checkChannelAccess userId channelIds, world =>
      some (checkChannelAccess config (respond index) userId channelIds, world)
  | request, world => handle deployment request world

/-- Every interleaving of the handlers, with the membership checks so answered. -/
def membershipSystem (deployment : Deployment) (config : Option ChannelAccessConfig)
    (respond : Responses) : System GatewayPool (Turn Call) :=
  Pool.system Initial (program deployment) fun index _ =>
    handleMembership deployment config respond index

/-- The items of `allowed` in a response, when it has any. -/
def allowedItems (answer : Except Unit HttpResponse) : Option (List Json) :=
  match answer with
  | .error _ => none
  | .ok response =>
      if !response.ok then none
      else Json.array? ((readJson response.body).bind (Json.get? (js "allowed")))

/-- The response to the check of these channels for this user, when there is a checker
that asks. -/
def askedFor (config : Option ChannelAccessConfig)
    (fetch : HttpRequest → Except Unit HttpResponse) (userId : JsString)
    (channelIds : List JsString) : Option (List Json) :=
  config.bind fun config =>
    allowedItems (fetch (accessRequest config userId (dmChannelIds channelIds)))

theorem checkChannelAccess_eq (config : Option ChannelAccessConfig)
    (fetch : HttpRequest → Except Unit HttpResponse) (userId : JsString)
    (channelIds : List JsString) :
    checkChannelAccess config fetch userId channelIds =
      ownChannels userId channelIds ++
        match askedFor config fetch userId channelIds with
        | none => []
        | some items => (dmChannelIds channelIds).filter (grantedOf items).contains := by
  unfold checkChannelAccess
  dsimp only
  split
  · rename_i none_asked
    rw [List.isEmpty_iff.mp none_asked]
    cases askedFor config fetch userId channelIds with
    | none => exact (List.append_nil _).symm
    | some items => exact (List.append_nil _).symm
  · cases config with
    | none => exact (List.append_nil _).symm
    | some config =>
      simp only [askedFor, Option.bind_some, allowedItems]
      cases fetch (accessRequest config userId (dmChannelIds channelIds)) with
      | error error => exact (List.append_nil _).symm
      | ok response =>
        dsimp only
        split
        · exact (List.append_nil _).symm
        · cases Json.array? ((readJson response.body).bind (Json.get? (js "allowed"))) with
          | none => exact (List.append_nil _).symm
          | some items => rfl

/-- A failing endpoint grants nothing but the user's own channel. -/
theorem checkChannelAccess_failed (failed : askedFor config fetch userId channelIds = none) :
    checkChannelAccess config fetch userId channelIds = ownChannels userId channelIds := by
  rw [checkChannelAccess_eq, failed]
  exact List.append_nil _

/-- What the checker grants was requested, and is the user's own channel or in the
answer of the web app. -/
theorem mem_checkChannelAccess
    (granted : channelId ∈ checkChannelAccess config fetch userId channelIds) :
    channelId ∈ channelIds ∧ (channelId = USER_CHANNEL_PREFIX ++ userId ∨
      ∃ items, askedFor config fetch userId channelIds = some items ∧
        channelId ∈ grantedOf items) := by
  rw [checkChannelAccess_eq] at granted
  rcases List.mem_append.mp granted with own | asked
  · obtain ⟨requested, same⟩ := mem_ownChannels.mp own
    exact ⟨requested, .inl same⟩
  · cases answered : askedFor config fetch userId channelIds with
    | none =>
      rw [answered] at asked
      cases asked
    | some items =>
      rw [answered] at asked
      obtain ⟨requested, listed⟩ := List.mem_filter.mp asked
      exact ⟨(List.mem_filter.mp requested).1, .inr ⟨items, rfl, List.contains_iff_mem.mp listed⟩⟩

/-! ## Runs -/

section

variable {deployment : Deployment} {config : Option ChannelAccessConfig} {respond : Responses}
  {guard : GatewayPool → Turn Call → Prop} {pool : GatewayPool} {world after : World}
  {history : History} {index : Nat} {call : Call} {request : Request} {answer : request.Answer}

/-- A membership check is answered by the checker and changes nothing, the other
requests are answered as ever. -/
theorem handleMembership_cases
    (answered : handleMembership deployment config respond index request world =
      some (answer, after)) :
    (after = world ∧ ∃ userId channelIds, (⟨request, answer⟩ : Proc.Exchange gateway) =
          ⟨.checkChannelAccess userId channelIds,
            checkChannelAccess config (respond index) userId channelIds⟩) ∨
      (handle deployment request world = some (answer, after) ∧
        ∀ userId channelIds, request ≠ .checkChannelAccess userId channelIds) := by
  cases request with
  | checkChannelAccess userId channelIds =>
    cases answered
    exact .inl ⟨rfl, userId, channelIds, rfl⟩
  | _ => exact .inr ⟨answered, fun _ _ same => nomatch same⟩

/-- The checks of every handler so far were answered from its own response. -/
def Answered (config : Option ChannelAccessConfig) (respond : Responses) (history : History) :
    Prop :=
  ∀ (index : Nat) (userId : JsString) (channelIds granted : List JsString),
    ⟨.checkChannelAccess userId channelIds, granted⟩ ∈ Pool.exchanges history index →
      granted = checkChannelAccess config (respond index) userId channelIds

theorem Answered.step (answers : Answered config respond history)
    (answered : handleMembership deployment config respond index request world =
      some (answer, after)) :
    Answered config respond (⟨index, call, request, answer⟩ :: history) := by
  intro other userId channelIds granted known
  rcases exchanges_cases known with ⟨rfl, new⟩ | earlier
  · rcases handleMembership_cases answered with ⟨-, user, ids, same⟩ | ⟨-, different⟩
    · rw [same] at new
      cases new
      rfl
    · cases new
      exact (different userId channelIds rfl).elim
  · exact answers other userId channelIds granted earlier

theorem sound_membership
    (reached : (membershipSystem deployment config respond).Reachable guard pool) :
    Sound deployment pool.shared pool.history ∧ Answered config respond pool.history := by
  refine reached.invariant (P := fun pool => Sound deployment pool.shared pool.history ∧
    Answered config respond pool.history) ?_ ?_
  · rintro _ ⟨world, initial, rfl⟩
    exact ⟨sound_initial initial, fun _ _ _ _ impossible => nomatch impossible⟩
  · rintro before label later reached ⟨sound, answers⟩ - moved
    obtain ⟨call, -, rfl⟩ | ⟨index, call, request, next, answer, shared, -, pending, answered,
      rfl⟩ := Pool.step_cases moved
    · exact ⟨sound, answers⟩
    · refine ⟨?_, answers.step answered⟩
      rcases handleMembership_cases answered with ⟨rfl, userId, channelIds, same⟩ | ⟨other, -⟩
      · cases same
        exact sound.unheard _ _ rfl
      · have justified := Pool.justified_of_pending reached pending (disciplined deployment call)
        exact sound.step justified other

/-! ## Joins -/

/-- The user of a socket, as named by its own token after it was verified. -/
def Authenticated (deployment : Deployment) (history : History) (socket : SocketId)
    (userId : JsString) : Prop :=
  deployment.user socket = some userId ∧
    ∃ entry : SessionEntry, entry.userId = userId ∧ Stamped deployment history socket entry

/-- A handler of the socket asked for the channel on behalf of the socket's user, and
the channel is the user's own or in the response to that very request. -/
def Authorized (deployment : Deployment) (config : Option ChannelAccessConfig)
    (respond : Responses) (history : History) (index : Nat) (socket : SocketId)
    (channelId : JsString) : Prop :=
  ∃ (userId : JsString) (channelIds granted : List JsString),
    Authenticated deployment history socket userId ∧
    ⟨.checkChannelAccess userId channelIds, granted⟩ ∈ Pool.exchanges history index ∧
    channelId ∈ channelIds ∧
    (channelId = USER_CHANNEL_PREFIX ++ userId ∨
      ∃ items, askedFor config (respond index) userId channelIds = some items ∧
        channelId ∈ grantedOf items)

theorem authorized_of_granted (sound : Sound deployment world history)
    (answers : Answered config respond history) {socket : SocketId} {granted : List JsString}
    (entitled : Entitled deployment call socket userId (Pool.exchanges history index))
    (asked : ⟨.checkChannelAccess userId channelIds, granted⟩ ∈ Pool.exchanges history index)
    (member : channelId ∈ granted) :
    Authorized deployment config respond history index socket channelId := by
  obtain ⟨-, signed, -⟩ := entitled
  have user := sound.signed signed
  obtain ⟨entry, named, cached⟩ := signed
  have same := answers _ _ _ _ asked
  rw [same] at member
  obtain ⟨requested, whence⟩ := mem_checkChannelAccess member
  exact ⟨userId, channelIds, granted,
    ⟨user, entry, named, sound.read socket entry ⟨index, cached⟩⟩, asked, requested, whence⟩

/-- What lets a socket in is authorized. -/
theorem authorized_of_joins (sound : Sound deployment world history)
    (answers : Answered config respond history)
    (justified : Discipline deployment call (Pool.exchanges history index) request)
    {socket : SocketId} (joins : (request.allowance world).joins socket channelId) :
    call = .serve socket ∧ Authorized deployment config respond history index socket channelId := by
  cases request with
  | enroll other userId validChannels denied =>
    obtain ⟨rfl, member⟩ := joins
    obtain ⟨entitled, ⟨channelIds, asked⟩, -⟩ := justified
    exact ⟨entitled.1, authorized_of_granted sound answers entitled asked member⟩
  | rejoin ref joined =>
    obtain ⟨rfl, rfl⟩ := joins
    obtain ⟨userId, channelIds, granted, entitled, asked, member, -, -⟩ := justified
    exact ⟨entitled.1, authorized_of_granted sound answers entitled asked member⟩
  | _ => cases joins

/-- In every run, whatever the web app answers, a socket that enters a room does so in a
handler of its own that was authorized; and a membership check the web app does not
answer properly grants nothing but the user's own channel. -/
theorem joins_authorized {before later : GatewayPool} {label : Turn Call}
    (reached : (membershipSystem deployment config respond).Reachable System.unguarded before)
    (moved : (membershipSystem deployment config respond).step before label later) :
    (∀ socket channelId, channelId ∈ (later.shared.sockets socket).rooms →
      channelId ∉ (before.shared.sockets socket).rooms →
      ∃ index thread, label = .advance index ∧ before.threads[index]? = some thread ∧
        thread.call = .serve socket ∧
        Authorized deployment config respond before.history index socket channelId) ∧
    ∀ (index : Nat) (userId : JsString) (channelIds granted : List JsString),
      ⟨.checkChannelAccess userId channelIds, granted⟩ ∈ Pool.exchanges later.history index →
      askedFor config (respond index) userId channelIds = none →
      granted = ownChannels userId channelIds := by
  constructor
  · intro socket channelId inside outside
    obtain ⟨sound, answers⟩ := sound_membership reached
    obtain ⟨call, -, rfl⟩ | ⟨index, call, request, next, answer, shared, advanced, pending,
      answered, rfl⟩ := Pool.step_cases moved
    · exact (outside inside).elim
    · rcases handleMembership_cases answered with ⟨rfl, -⟩ | ⟨answered, -⟩
      · exact (outside inside).elim
      · have joins :=
          ((moves_of_handle answered).rooms socket channelId inside).resolve_left outside
        have justified := Pool.justified_of_pending reached pending (disciplined deployment _)
        obtain ⟨served, authorized⟩ := authorized_of_joins sound answers justified joins
        exact ⟨index, _, advanced, pending, served, authorized⟩
  · intro index userId channelIds granted known failed
    have answers := (sound_membership (reached.step trivial moved)).2
    rw [answers _ _ _ _ known, checkChannelAccess_failed failed]

end

namespace Sample

/-- A web app that grants one channel of those asked for, and one nobody asked for. -/
def respond : Responses := fun _ _ => .ok (.json 200 (allowedBody [js "dm-1", js "dm-2"]))

/-- A socket connects and asks for a channel; its handler has been answered. -/
def granting : List (Turn Call) :=
  [.start (.act .connect), .advance 0,
    .start (.act (.send 0 (subscribeMessage [js "dm-1"]))), .advance 1, .start (.serve 0)] ++
    advances 2 8

def runMembership (turns : List (Turn Call)) : Option GatewayPool :=
  Pool.replay (program deployment)
    (fun index _ => handleMembership deployment (some sampleConfig) respond index)
    (fun _ _ => true) World.blank turns

theorem granting_completed : (runMembership granting).isSome := by decide

def granted : GatewayPool := (runMembership granting).get granting_completed

theorem granted_reachable : (membershipSystem deployment (some sampleConfig) respond).Reachable
    System.unguarded granted :=
  Pool.reachable_of_replay (fun _ _ _ => trivial) ⟨fun _ => [], rfl⟩ granting_completed

/-- The socket is enrolled. -/
def enrolled : Option GatewayPool :=
  granted.advance (fun index _ => handleMembership deployment (some sampleConfig) respond index) 2

theorem enrolled_completed : enrolled.isSome := by decide

theorem enrolled_step : (membershipSystem deployment (some sampleConfig) respond).step granted
    (.advance 2) (enrolled.get enrolled_completed) :=
  (Option.some_get enrolled_completed).symm

end Sample

/-- The socket enters the room of the channel that was granted. -/
theorem member_authorized :
    ∃ index, Authorized Sample.deployment (some sampleConfig) Sample.respond
      Sample.granted.history index 0 (js "dm-1") := by
  have joins := (joins_authorized Sample.granted_reachable Sample.enrolled_step).1 0 (js "dm-1")
  obtain ⟨index, -, -, -, -, authorized⟩ := joins (by decide +kernel) (by decide +kernel)
  exact ⟨index, authorized⟩

end Vortex.Gateway
