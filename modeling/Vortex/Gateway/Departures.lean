import Vortex.Gateway.Announcements
import Vortex.Gateway.Registry
import Vortex.Gateway.Sweeps

/-!
# Who is still there

A user is still there as long as a socket of the user is connected, or has left its state
to a `disconnect` handler that has not finished. Such a handler looks for other sockets of
the user and announces the user offline when it finds none; nothing else makes a user
leave (`there_of_step`).
-/

namespace Vortex.Gateway

open Foundation

variable {deployment : Deployment} {guard : GatewayPool → Turn Call → Prop}
  {before pool after : GatewayPool} {socket : SocketId} {ref : StateRef} {userId : JsString}
  {index : Nat} {call : Call} {request : Request} {α : Type}

/-! ## What a `disconnect` handler exchanges -/

/-- What does not see a socket off. -/
def Request.stays : Request → Bool
  | .nextClosing => false
  | .announceOffline _ => false
  | _ => true

/-- What a `disconnect` handler has exchanged before each of its requests. -/
def Departure (call : Call) (seen : Exchanges) : Request → Prop
  | .nextClosing => call = .disconnected ∧ seen = []
  | .fetchSockets _ => call = .disconnected → ∃ closing, seen = [⟨.nextClosing, closing⟩]
  | .announceOffline ref =>
      call = .disconnected ∧ ∃ owner found,
        seen = [⟨.nextClosing, (ref, owner)⟩, ⟨.fetchSockets none, found⟩]
  | _ => call ≠ .disconnected

/-- A finished `disconnect` handler has found another socket of the owner, or announced
the owner offline. -/
def Departed (call : Call) (seen : Exchanges) : Prop :=
  call = .disconnected → ∃ ref owner,
    (∃ sockets : List (SocketId × Option JsString),
      seen = [⟨.nextClosing, (ref, owner)⟩, ⟨.fetchSockets none, .ok sockets⟩] ∧
        ∃ socket, (socket, some owner) ∈ sockets) ∨
    ∃ found, seen = [⟨.nextClosing, (ref, owner)⟩, ⟨.fetchSockets none, found⟩,
      ⟨.announceOffline ref, ()⟩]

def departure (call : Call) : Monitor gateway Exchanges :=
  .recorder (fun _ => true) (Departure call)

/-- A process that sees no socket off. -/
abbrev Stays (process : Proc gateway Unit α) : Prop :=
  process.Along fun (request : Request) _ => request.stays = true

theorem stays_program (other : call ≠ .disconnected) : Stays (program deployment call) := by
  cases call with
  | serve socket =>
    refine Proc.Along.bind (along_serve rfl fun event request asked => ?_) fun _ => trivial
    cases request <;> first | rfl | cases event <;> cases asked
  | disconnected => exact absurd rfl other
  | _ =>
    refine along_wider (along_program nofun) fun request asked => ?_
    cases request <;> first | rfl | cases asked

theorem departs_of_stays {process : Proc gateway Unit Bool} {seen : Exchanges}
    (stays : Stays process) (other : call ≠ .disconnected) :
    process.Obeys (departure call) (fun seen _ => Departed call seen) seen := by
  induction process generalizing seen with
  | done result => exact fun same => absurd same other
  | await request rest ih =>
    refine ⟨?_, fun answer => ih answer (stays.2 answer)⟩
    have kind : request.stays = true := stays.1
    cases request with
    | nextClosing => cases kind
    | announceOffline ref => cases kind
    | fetchSockets room => exact fun same => absurd same other
    | _ => exact other

theorem departs_program (deployment : Deployment) (call : Call) :
    (program deployment call).Obeys (departure call) (fun seen _ => Departed call seen) [] := by
  by_cases same : call = .disconnected
  · subst same
    refine ⟨⟨rfl, rfl⟩, ?_⟩
    rintro ⟨ref, owner⟩
    refine ⟨fun _ => ⟨_, rfl⟩, fun found => ?_⟩
    have offline : ∀ found, (do ask (.announceOffline ref); pure true : Proc gateway Unit Bool).Obeys
        (departure .disconnected) (fun seen _ => Departed .disconnected seen)
        [⟨.nextClosing, (ref, owner)⟩, ⟨.fetchSockets none, found⟩] :=
      fun found => ⟨⟨rfl, owner, found, rfl⟩, fun _ _ => ⟨ref, owner, .inr ⟨found, rfl⟩⟩⟩
    rcases found with error | sockets
    · exact offline _
    · have judged : ∀ others : Bool, (others = true → ∃ socket, (socket, some owner) ∈ sockets) →
          ((if others then pure () else ask (.announceOffline ref) : Proc gateway Unit Unit) >>=
            fun _ => (pure true : Proc gateway Unit Bool)).Obeys (departure .disconnected)
            (fun seen _ => Departed .disconnected seen)
            [⟨.nextClosing, (ref, owner)⟩, ⟨.fetchSockets none, .ok sockets⟩] := by
        intro others sound
        cases others
        · exact offline _
        · exact fun _ => ⟨ref, owner, .inl ⟨sockets, rfl, sound rfl⟩⟩
      refine judged (sockets.any fun socket => socket.2 = some owner) fun others => ?_
      obtain ⟨⟨socket, recorded⟩, found, same⟩ := List.any_eq_true.mp others
      exact ⟨socket, of_decide_eq_true same ▸ found⟩
  · exact departs_of_stays (stays_program same) same

/-! ## Whose states are left -/

/-- The states that are held, and those that were taken by `disconnect` handlers, are
under the users of their sockets. -/
structure Lodged (deployment : Deployment) (world : World) (history : History) : Prop where
  orderly : world.registry.Orderly
  users : ∀ ref, world.registry.Holds ref →
    deployment.user ref.socket = some (world.states ref).userId
  taken : ∀ ref owner, Happened history ⟨.nextClosing, (ref, owner)⟩ →
    deployment.user ref.socket = some owner ∧
      deployment.user ref.socket = some (world.states ref).userId

section

variable {world later : World} {history : History} {answer : request.Answer}

theorem userId_setStatus (ref : StateRef) (status : UserStatus) (world : World) :
    ((world.setStatus ref status).states ref).userId = (world.states ref).userId := by
  unfold World.setStatus
  rw [states_setState_self]

/-- A state that a request makes sure of is under the user it is for. -/
theorem user_of_opens (sound : Sound deployment world history)
    (justified : Discipline deployment call (Pool.exchanges history index) request)
    (answered : handle deployment request world = some (answer, later))
    (opens : request.opens world.registry ref) :
    deployment.user ref.socket = some (later.states ref).userId := by
  cases request with
  | enroll socket userId validChannels denied =>
    cases opens
    cases answered
    have same : ((world.enroll socket userId validChannels denied).states
        (world.registry.stateRef socket)).userId = userId := userId_enroll _ _ _ _ _
    rw [same]
    exact sound.signed justified.1.2.1
  | init socket userId status =>
    cases opens
    cases answered
    have same : (((world.establish socket userId).setStatus (world.stateRef socket) status).states
        (world.registry.stateRef socket)).userId = userId :=
      (userId_setStatus _ _ _).trans (userId_establish _ _ _)
    rw [same]
    exact sound.signed justified.2.1
  | establish socket userId =>
    cases opens
    cases answered
    have same : ((world.establish socket userId).states
        (world.registry.stateRef socket)).userId = userId := userId_establish _ _ _
    rw [same]
    exact sound.signed justified.2.1
  | _ => cases opens

theorem Lodged.step (lodged : Lodged deployment world history)
    (sound : Sound deployment world history)
    (justified : Discipline deployment call (Pool.exchanges history index) request)
    (answered : handle deployment request world = some (answer, later)) :
    Lodged deployment later (⟨index, call, request, answer⟩ :: history) where
  orderly := by
    rw [registry_of_handle answered]
    exact lodged.orderly.registered world request
  users ref held := by
    rw [registry_of_handle answered] at held
    rcases holds_registered world request held with early | opens
    · exact sound.users justified answered (lodged.users ref early)
    · exact user_of_opens sound justified answered opens
  taken ref owner happened := by
    rcases happened_cases happened with new | earlier
    · cases new
      obtain ⟨later, closing, rfl, rfl⟩ := eq_of_nextClosing answered
      have left : world.registry.closing.head? = some ref := congrArg List.head? closing
      have user := lodged.users _ (.inr (List.mem_of_mem_head? left))
      exact ⟨user, user⟩
    · obtain ⟨user, owned⟩ := lodged.taken ref owner earlier
      exact ⟨user, sound.users justified answered owned⟩

theorem lodged_initial (initial : Initial world) : Lodged deployment world [] := by
  obtain ⟨outcomes, rfl⟩ := initial
  refine ⟨⟨nofun, fun _ owned => (owned rfl).elim⟩, ?_, ?_⟩
  · intro ref held
    rcases held with held | left
    · cases held
    · cases left
  · rintro ref owner ⟨index, known⟩
    cases known

end

theorem lodged_of_reachable (reached : (gatewaySystem deployment).Reachable guard pool) :
    Sound deployment pool.shared pool.history ∧ Lodged deployment pool.shared pool.history :=
  gateway_invariant (P := fun world history => Sound deployment world history ∧
      Lodged deployment world history) (fun _ initial => ⟨sound_initial initial, lodged_initial initial⟩)
    (fun _ _ _ _ _ _ _ kept justified answered =>
      ⟨kept.1.step justified answered, kept.2.step kept.1 justified answered⟩) reached

/-! ## Who is still there -/

/-- A connected socket is recorded as the user's, or the state of a closed one is left to
a `disconnect` handler. -/
def Attached (deployment : Deployment) (world : World) (userId : JsString) : Prop :=
  (∃ socket, (world.sockets socket).connected = true ∧
      (world.sockets socket).dataUserId = some userId) ∨
    ∃ ref ∈ world.closing, deployment.user ref.socket = some userId

/-- A `disconnect` handler of a socket of the user has not finished. -/
def Departing (deployment : Deployment) (pool : GatewayPool) (userId : JsString) (index : Nat) :
    Prop :=
  (∃ thread, pool.threads[index]? = some thread ∧ thread.InFlight) ∧
    ∃ ref owner, ⟨.nextClosing, (ref, owner)⟩ ∈ Pool.exchanges pool.history index ∧
      deployment.user ref.socket = some userId

def There (deployment : Deployment) (pool : GatewayPool) (userId : JsString) : Prop :=
  Attached deployment pool.shared userId ∨ ∃ index, Departing deployment pool userId index

/-- The user is still there without the process. -/
def Elsewhere (deployment : Deployment) (pool : GatewayPool) (userId : JsString) (index : Nat) :
    Prop :=
  Attached deployment pool.shared userId ∨
    ∃ other, other ≠ index ∧ Departing deployment pool userId other

section

variable {world later : World} {history history' : History} {answer : request.Answer}

/-- Unless a `disconnect` handler takes a state, who is attached stays attached. -/
theorem attached_of_handle (other : request ≠ .nextClosing) (sound : Sound deployment world history)
    (lodged : Lodged deployment world history) (sound' : Sound deployment later history')
    (answered : handle deployment request world = some (answer, later))
    (attached : Attached deployment world userId) : Attached deployment later userId := by
  have remembers : world.registry.Remembers later.registry := by
    rw [registry_of_handle answered]
    exact Registry.remembers_registered other world _
  rcases attached with ⟨socket, connected, owned⟩ | ⟨ref, left, user⟩
  · have user := sound.owners socket userId owned
    have recorded : (world.sockets socket).dataUserId ≠ none := owned ▸ Option.some_ne_none userId
    have housed : (world.sockets socket).state ≠ none := by
      refine (lodged.orderly.housed socket recorded).resolve_right fun ⟨_, gone⟩ => ?_
      exact Bool.noConfusion (connected.symm.trans gone)
    obtain ⟨serial, held⟩ := Option.ne_none_iff_exists'.mp housed
    rcases remembers.stays socket serial connected held with ⟨stays, -⟩ | left
    · have kept := (moves_of_handle answered).kept socket recorded
      obtain ⟨owner, owned'⟩ := Option.ne_none_iff_exists'.mp kept
      have same := (sound'.owners socket owner owned').symm.trans user
      cases same
      exact .inl ⟨socket, stays, owned'⟩
    · exact .inr ⟨⟨socket, serial⟩, left, user⟩
  · exact .inr ⟨ref, remembers.closing ref left, user⟩

end

/-- A `disconnect` handler that does not advance has not finished. -/
theorem departing_of_step {label : Turn Call} {other : Nat}
    (moved : (gatewaySystem deployment).step before label after)
    (different : label ≠ .advance other) (departing : Departing deployment before userId other) :
    Departing deployment after userId other := by
  obtain ⟨⟨thread, found, flying⟩, ref, owner, taken, user⟩ := departing
  refine ⟨⟨thread, ?_, flying⟩, ref, owner, Pool.exchanges_of_step moved taken, user⟩
  obtain ⟨bound, -⟩ := List.getElem?_eq_some_iff.mp found
  obtain ⟨call, -, rfl⟩ | ⟨index, call, request, next, answer, shared, rfl, -, -, rfl⟩ :=
    Pool.step_cases moved
  · change (before.threads ++ _)[other]? = some thread
    rw [List.getElem?_append_left bound, found]
  · have distinct : index ≠ other := fun same => different (congrArg Turn.advance same)
    change (before.threads.set index _)[other]? = some thread
    rw [List.getElem?_set_ne distinct, found]

/-- How a finished process has ended. -/
theorem departed_of_finished (reached : (gatewaySystem deployment).Reachable guard pool)
    {result : Except Unit Bool} (finished : pool.threads[index]? = some ⟨call, .done result⟩) :
    Departed call (Pool.exchanges pool.history index) := by
  have ended := Pool.ended_of_reachable reached finished (departs_program deployment call) rfl
  have remembered : Pool.memory (departure call) [] pool.history index = _ :=
    Pool.memory_recorder _ _ _
  rwa [remembered] at ended

/-- A `disconnect` handler that has taken a state goes on. -/
theorem departing_of_taken (reached : (gatewaySystem deployment).Reachable guard before)
    (reached' : (gatewaySystem deployment).Reachable guard after)
    {next : StateRef × JsString → Proc gateway Unit Bool} {owner : JsString} {shared : World}
    (pending : before.threads[index]? = some ⟨call, .await .nextClosing next⟩)
    (result : after = ⟨shared, before.threads.set index ⟨call, next (ref, owner)⟩,
      ⟨index, call, .nextClosing, (ref, owner)⟩ :: before.history⟩)
    (user : deployment.user ref.socket = some userId) :
    Departing deployment after userId index := by
  subst result
  obtain ⟨bound, -⟩ := List.getElem?_eq_some_iff.mp pending
  have found : (before.threads.set index ⟨call, next (ref, owner)⟩)[index]? =
      some ⟨call, next (ref, owner)⟩ := List.getElem?_set_self bound
  refine ⟨⟨_, found, ?_⟩, ref, owner, exchanges_self, user⟩
  obtain ⟨rfl, fresh⟩ := Pool.justified_of_pending reached pending (departs_program deployment call)
  cases rest : next (ref, owner) with
  | await request later => exact ⟨request, later, rfl⟩
  | done result =>
    exfalso
    have finished : (before.threads.set index ⟨.disconnected, next (ref, owner)⟩)[index]? =
        some ⟨.disconnected, .done result⟩ := by rw [found, rest]
    have recorded := Pool.exchanges_cons_self before.history
      (⟨index, .disconnected, .nextClosing, (ref, owner)⟩ : Event gateway Call)
    rw [fresh] at recorded
    obtain ⟨_, _, ⟨_, short, -⟩ | ⟨_, short⟩⟩ := departed_of_finished reached' finished rfl
    · cases recorded.symm.trans short
    · cases recorded.symm.trans short

/-- Who is there without a process still is when the process has advanced. -/
theorem there_of_elsewhere (reached : (gatewaySystem deployment).Reachable guard before)
    (admitted : guard before (.advance index))
    (moved : (gatewaySystem deployment).step before (.advance index) after)
    (elsewhere : Elsewhere deployment before userId index) : There deployment after userId := by
  obtain ⟨sound, lodged⟩ := lodged_of_reachable reached
  have reached' := reached.step admitted moved
  rcases elsewhere with attached | ⟨other, different, departing⟩
  · obtain ⟨_, impossible, -⟩ | ⟨_, call, request, next, answer, shared, advanced, pending, answered,
      result⟩ := Pool.step_cases moved
    · cases impossible
    cases advanced
    by_cases taking : request = .nextClosing
    · subst taking
      have waiting := answered
      dsimp only [handle] at waiting
      split at waiting
      · cases waiting
      · rename_i ref rest closing
        cases waiting
        rcases attached with connected | ⟨other, left, user⟩
        · left
          left
          rw [result]
          exact connected
        · rw [closing] at left
          rcases List.mem_cons.mp left with rfl | left
          · exact .inr ⟨index, departing_of_taken reached reached' pending result user⟩
          · left
            right
            rw [result]
            exact ⟨other, left, user⟩
    · left
      have sound' := (lodged_of_reachable reached').1
      rw [result] at sound' ⊢
      exact attached_of_handle taking sound lodged sound' answered attached
  · refine .inr ⟨other, departing_of_step moved (fun same => ?_) departing⟩
    cases same
    exact different rfl

theorem connected_of_connectedIn {world : World} {room : Option JsString}
    (found : (socket, some userId) ∈ world.connectedIn room) :
    (world.sockets socket).connected = true ∧ (world.sockets socket).dataUserId = some userId := by
  obtain ⟨other, known, same⟩ := List.mem_map.mp found
  obtain ⟨rfl, recorded⟩ := Prod.mk.inj same
  exact ⟨(Bool.and_eq_true _ _ ▸ (List.mem_filter.mp known).2).1, recorded⟩

/-- When a `disconnect` handler finishes, it has found another socket of the user or makes
its last announcement. -/
theorem there_of_departing (reached : (gatewaySystem deployment).Reachable guard before)
    (reached' : (gatewaySystem deployment).Reachable guard after)
    (moved : (gatewaySystem deployment).step before (.advance index) after)
    (departing : Departing deployment before userId index) :
    There deployment after userId ∨ ∃ call ref next,
      before.threads[index]? = some ⟨call, .await (.announceOffline ref) next⟩ ∧
      deployment.user ref.socket = some userId := by
  obtain ⟨-, ref, owner, taken, user⟩ := departing
  have taken' := Pool.exchanges_of_step moved taken
  obtain ⟨_, impossible, -⟩ | ⟨_, call, request, next, answer, shared, advanced, pending, answered,
    result⟩ := Pool.step_cases moved
  · cases impossible
  cases advanced
  obtain ⟨bound, -⟩ := List.getElem?_eq_some_iff.mp pending
  have found : after.threads[index]? = some ⟨call, next answer⟩ := by
    rw [result]
    exact List.getElem?_set_self bound
  cases rest : next answer with
  | await request later =>
    left
    right
    exact ⟨index, ⟨_, found, request, later, rest⟩, ref, owner, taken', user⟩
  | done ending =>
    rw [rest] at found
    obtain ⟨_, -, rfl, -⟩ := Pool.justified_of_reachable reached pending
      (departs_program deployment _) taken
    have recorded : Pool.exchanges after.history index =
        Pool.exchanges before.history index ++ [⟨request, answer⟩] := by
      rw [result]
      exact Pool.exchanges_cons_self before.history ⟨index, _, request, answer⟩
    obtain ⟨ref', owner', ⟨sockets, seen, other, present⟩ | ⟨looked, seen⟩⟩ :=
      departed_of_finished reached' found rfl
    · have split : Pool.exchanges before.history index ++ [⟨request, answer⟩] =
          ([⟨.nextClosing, (ref', owner')⟩] : Exchanges) ++ [⟨.fetchSockets none, .ok sockets⟩] :=
        recorded.symm.trans seen
      obtain ⟨first, last⟩ := List.append_inj' split rfl
      cases last
      have owned : deployment.user ref'.socket = some owner' := by
        refine ((lodged_of_reachable reached).2.taken ref' owner' ⟨index, ?_⟩).1
        rw [first]
        exact List.mem_singleton_self _
      rw [first] at taken
      cases List.mem_singleton.mp taken
      cases owned.symm.trans user
      obtain ⟨rfl, same⟩ := connectedIn_of_answered answered
      obtain ⟨connected, recorded⟩ := connected_of_connectedIn present
      left
      left
      left
      rw [result, ← same]
      exact ⟨other, connected, recorded⟩
    · have split : Pool.exchanges before.history index ++ [⟨request, answer⟩] =
          ([⟨.nextClosing, (ref', owner')⟩, ⟨.fetchSockets none, looked⟩] : Exchanges) ++
            [⟨.announceOffline ref', ()⟩] := recorded.symm.trans seen
      obtain ⟨first, last⟩ := List.append_inj' split rfl
      cases last
      rw [first] at taken
      have same : ref = ref' := by
        rcases List.mem_cons.mp taken with taken | taken
        · cases taken
          rfl
        · cases List.mem_singleton.mp taken
      subst same
      exact .inr ⟨_, ref, next, pending, user⟩

/-- Who is there still is after a step, unless it is the last announcement of a
`disconnect` handler of the user. -/
theorem there_of_step {label : Turn Call}
    (reached : (gatewaySystem deployment).Reachable guard before) (admitted : guard before label)
    (moved : (gatewaySystem deployment).step before label after)
    (there : There deployment before userId) :
    There deployment after userId ∨ ∃ index call ref next, label = .advance index ∧
      before.threads[index]? = some ⟨call, .await (.announceOffline ref) next⟩ ∧
      deployment.user ref.socket = some userId := by
  have reached' := reached.step admitted moved
  cases label with
  | start call =>
    left
    rcases there with attached | ⟨index, departing⟩
    · cases moved
      exact .inl attached
    · exact .inr ⟨index, departing_of_step moved nofun departing⟩
  | advance index =>
    rcases there with attached | ⟨other, departing⟩
    · exact .inl (there_of_elsewhere reached admitted moved (.inl attached))
    by_cases mine : other = index
    · subst mine
      refine (there_of_departing reached reached' moved departing).imp id ?_
      exact fun ⟨call, ref, next, pending, user⟩ => ⟨other, call, ref, next, rfl, pending, user⟩
    · exact .inl (there_of_elsewhere reached admitted moved (.inr ⟨other, mine, departing⟩))

end Vortex.Gateway
