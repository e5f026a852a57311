import Vortex.Accounts.Invites

/-!
# Redeeming invite codes

The check of a code and its redemption are written apart, one in JavaScript and one in
SQL. They agree on every table in which no time is an empty text, which the check takes
for no time at all. Redemption is one conditional update, so in every interleaving an
invite is used as often as calls have succeeded with it, at most as often as it may be,
and never once it has been revoked or has expired.
-/

namespace Vortex.Accounts

open Foundation List

/-- No time in the table is an empty text. -/
def Invites.Stamped (invites : Invites) : Prop :=
  ∀ invite ∈ invites.rows, invite.expiresAt ≠ some [] ∧ invite.revokedAt ≠ some []

/-- No invite has been used more often than it may be. -/
def Invites.Within (invites : Invites) : Prop :=
  ∀ invite ∈ invites.rows, invite.useCount ≤ invite.maxUses

/-- Statements that all succeed. -/
abbrev succeeding : Handler registration Invites := inviteHandle fun _ => false

/-- At one time, a text is found valid exactly where it could be redeemed. -/
def Agrees (toUpperCase : JsString → JsString) (invites : Invites) (rawCode nowIso : JsString) :
    Prop :=
  (checkInviteCode toUpperCase rawCode nowIso).run succeeding invites = some (.ok .valid, invites) ↔
    ∃ after, (consumeInviteCode toUpperCase rawCode nowIso).run succeeding invites =
      some (.ok true, after)

/-! ## The two predicates -/

section Predicates

variable {invites : Invites} {invite : Invite} {code nowIso rawCode : JsString}
  {toUpperCase : JsString → JsString}

/-- The row with a code. -/
theorem eq_of_code_eq {first second : Invite} (left : first ∈ invites.rows)
    (right : second ∈ invites.rows) (same : first.code = second.code) : first = second :=
  inj_on_of_nodup_map invites.codes left right same

theorem consumable_iff : consumable code nowIso invite = true ↔ invite.code = code ∧
    invite.revokedAt = none ∧ invite.useCount < invite.maxUses ∧
    ∀ expiresAt ∈ invite.expiresAt, nowIso < expiresAt := by
  simp [consumable, and_assoc, Option.all_eq_true]

/-- Where times are not empty, an invite is valid if it can be consumed by its code. -/
theorem validate_eq_valid (expires : invite.expiresAt ≠ some [])
    (revokes : invite.revokedAt ≠ some []) :
    validate nowIso invite = .valid ↔ consumable invite.code nowIso invite = true := by
  rw [consumable_iff]
  obtain ⟨id, code, createdBy, maxUses, useCount, expiresAt, revokedAt⟩ := invite
  cases revokedAt with
  | some time =>
    have given : time ≠ [] := fun same => revokes (congrArg some same)
    simp [validate, given]
  | none =>
    cases expiresAt with
    | none => simp [validate]
    | some time =>
      have given : time ≠ [] := fun same => expires (congrArg some same)
      by_cases late : time ≤ nowIso
      · have passed : ¬ nowIso < time := late
        simp [validate, given, late, passed]
      · have ahead : nowIso < time := not_not.mp late
        simp [validate, given, late, ahead]

/-- A statement that succeeds gives what it finds. -/
theorem run_query (statement : InviteStatement) :
    (query statement).run succeeding invites = some (execute statement invites) := by
  unfold query
  have performed : (perform statement).run succeeding invites =
      some (.ok (execute statement invites).1, (execute statement invites).2) := rfl
  rw [Proc.run_bind_ok _ performed]
  rcases execute statement invites with ⟨_ | _, after⟩
  · rfl
  · rfl

theorem check_eq_valid : (checkInviteCode toUpperCase rawCode nowIso).run succeeding invites =
      some (.ok .valid, invites) ↔ normalizeInviteCode toUpperCase rawCode ≠ [] ∧
      ∃ invite ∈ invites.rows, invite.code = normalizeInviteCode toUpperCase rawCode ∧
        validate nowIso invite = .valid := by
  unfold checkInviteCode
  dsimp only
  generalize normalizeInviteCode toUpperCase rawCode = code
  by_cases empty : code = []
  · simp [empty]
  · simp only [List.isEmpty_iff, empty, ↓reduceIte, ne_eq, not_false_eq_true, true_and]
    rw [Proc.run_bind_ok succeeding (run_query (.find code))]
    cases found : invites.rows.filter fun invite => invite.code = code with
    | nil =>
      have absent := filter_eq_nil_iff.mp found
      simp only [take_nil, Proc.pure_eq, Proc.run_done, Option.some.injEq, Prod.mk.injEq,
        Except.ok.injEq, reduceCtorEq, false_and, false_iff, not_exists, not_and]
      intro invite member same
      exact absurd (decide_eq_true same) (absent invite member)
    | cons invite rest =>
      have listed : invite ∈ invites.rows.filter fun invite => invite.code = code := by
        rw [found]
        exact mem_cons_self
      obtain ⟨member, same⟩ := mem_filter.mp listed
      rw [decide_eq_true_eq] at same
      simp only [take_succ_cons, Proc.pure_eq, Proc.run_done, Option.some.injEq,
        Prod.mk.injEq, Except.ok.injEq, and_true]
      constructor
      · exact fun valid => ⟨invite, member, same, valid⟩
      · rintro ⟨other, there, named, valid⟩
        rwa [← eq_of_code_eq there member (named.trans same.symm)]

theorem consume_eq_true : (∃ after, (consumeInviteCode toUpperCase rawCode nowIso).run succeeding
      invites = some (.ok true, after)) ↔
    normalizeInviteCode toUpperCase rawCode ≠ [] ∧ ∃ invite ∈ invites.rows,
      consumable (normalizeInviteCode toUpperCase rawCode) nowIso invite = true := by
  unfold consumeInviteCode
  dsimp only
  generalize normalizeInviteCode toUpperCase rawCode = code
  by_cases empty : code = []
  · simp [empty]
  · simp only [List.isEmpty_iff, empty, ↓reduceIte, ne_eq, not_false_eq_true, true_and]
    rw [Proc.run_bind_ok succeeding (run_query (.consume code nowIso))]
    simp [isEmpty_eq_false_iff]

/-- On a table without empty times, the check tells what a redemption would do. -/
theorem agrees_of_stamped (stamped : invites.Stamped) (toUpperCase : JsString → JsString)
    (rawCode nowIso : JsString) : Agrees toUpperCase invites rawCode nowIso := by
  unfold Agrees
  rw [check_eq_valid, consume_eq_true]
  refine and_congr_right fun _ => exists_congr fun invite => and_congr_right fun member => ?_
  have times := stamped invite member
  rw [validate_eq_valid times.1 times.2]
  constructor
  · rintro ⟨same, able⟩
    rwa [same] at able
  · intro able
    have same := (consumable_iff.mp able).1
    exact ⟨same, same ▸ able⟩

end Predicates

/-! ## What a statement does -/

/-- The invites an exchange has used once more. -/
def consumedIds : Proc.Exchange registration → List JsString
  | ⟨.consume _ _, .ok updated⟩ => updated.map Invite.id
  | _ => []

/-- The invites an exchange has revoked. -/
def revokedIds : Proc.Exchange registration → List JsString
  | ⟨.revoke _ _ _, .ok updated⟩ => updated.map Invite.id
  | _ => []

namespace Invites

/-- How often an invite has been used. -/
def uses (invites : Invites) (id : JsString) : Nat :=
  ((invites.table.find? id).map Invite.useCount).getD 0

def Revoked (invites : Invites) (id : JsString) : Prop :=
  ∃ invite ∈ invites.rows, invite.id = id ∧ invite.revokedAt ≠ none

/-- At this time, an invite may be used. -/
def InForce (invites : Invites) (nowIso id : JsString) : Prop :=
  ∃ invite ∈ invites.rows, invite.id = id ∧ ∀ expiresAt ∈ invite.expiresAt, nowIso < expiresAt

/-- The rows stay, with their expiry, and a revocation stays. -/
def Kept (before after : Invites) : Prop :=
  ∀ invite ∈ before.rows, ∃ later ∈ after.rows, later.id = invite.id ∧
    later.expiresAt = invite.expiresAt ∧ (invite.revokedAt ≠ none → later.revokedAt ≠ none)

end Invites

section Statements

variable {fails : InviteStatement → Bool} {statement : InviteStatement} {before after : Invites}
  {answer : Except StatementError (List Invite)} {id : JsString}

/-- What a statement leaves behind: nothing new, or its own write. -/
inductive Written : Proc.Exchange registration → Invites → Invites → Prop
  | nothing {exchange : Proc.Exchange registration} {invites : Invites}
      (unused : consumedIds exchange = []) (unrevoked : revokedIds exchange = []) :
      Written exchange invites invites
  | consumption (code nowIso : JsString) (invites : Invites) :
      Written ⟨.consume code nowIso, .ok ((invites.rows.filter (consumable code nowIso)).map consumed)⟩
        invites (invites.updateWhere (consumable code nowIso) consumed consumed_id consumed_code)
  | revocation (id userId nowIso : JsString) (invites : Invites) :
      Written ⟨.revoke id userId nowIso,
          .ok ((invites.rows.filter (revocable id userId)).map (revoked nowIso))⟩ invites
        (invites.updateWhere (revocable id userId) (revoked nowIso) (revoked_id nowIso)
          (revoked_code nowIso))
  | insertion {invite : Invite} {invites after : Invites}
      (free : ∀ stored ∈ invites.rows, stored.id ≠ invite.id)
      (rows : after.rows = invites.rows ++ [invite]) :
      Written ⟨.insert invite, .ok [invite]⟩ invites after

theorem written_of_handle (answered : inviteHandle fails statement before = some (answer, after)) :
    Written ⟨statement, answer⟩ before after := by
  unfold inviteHandle at answered
  split at answered
  · cases answered
    exact .nothing (by cases statement <;> rfl) (by cases statement <;> rfl)
  · have effect := Option.some.inj answered
    cases statement with
    | find code =>
      cases effect
      exact .nothing rfl rfl
    | consume code nowIso =>
      cases effect
      exact .consumption code nowIso before
    | revoke id userId nowIso =>
      cases effect
      exact .revocation id userId nowIso before
    | insert invite =>
      unfold execute at effect
      dsimp only at effect
      split at effect
      · rename_i invites inserted
        cases effect
        unfold Invites.insert? at inserted
        split at inserted
        · rename_i free
          cases inserted
          refine .insertion (fun stored member same => free.1 ?_) rfl
          exact mem_map.mpr ⟨stored, member, same⟩
        · cases inserted
      · cases effect
        exact .nothing rfl rfl

theorem Written.kept {exchange : Proc.Exchange registration}
    (written : Written exchange before after) : before.Kept after := by
  cases written with
  | nothing => exact fun invite member => ⟨invite, member, rfl, rfl, id⟩
  | consumption code nowIso =>
    intro invite member
    refine ⟨_, mem_map.mpr ⟨invite, member, rfl⟩, ?_⟩
    split
    · exact ⟨rfl, rfl, id⟩
    · exact ⟨rfl, rfl, id⟩
  | revocation id userId nowIso =>
    intro invite member
    refine ⟨_, mem_map.mpr ⟨invite, member, rfl⟩, ?_⟩
    split
    · exact ⟨rfl, rfl, fun _ => nofun⟩
    · exact ⟨rfl, rfl, fun before => before⟩
  | insertion free rows =>
    intro invite member
    refine ⟨invite, ?_, rfl, rfl, id⟩
    rw [rows]
    exact mem_append_left _ member

theorem Invites.Kept.revoked (kept : before.Kept after) (revoked : before.Revoked id) :
    after.Revoked id := by
  obtain ⟨invite, member, rfl, marked⟩ := revoked
  obtain ⟨later, there, same, -, stays⟩ := kept invite member
  exact ⟨later, there, same, stays marked⟩

theorem Invites.Kept.inForce {nowIso : JsString} (kept : before.Kept after)
    (inForce : before.InForce nowIso id) : after.InForce nowIso id := by
  obtain ⟨invite, member, rfl, ahead⟩ := inForce
  obtain ⟨later, there, same, expires, -⟩ := kept invite member
  exact ⟨later, there, same, expires ▸ ahead⟩

theorem Written.within {exchange : Proc.Exchange registration}
    (written : Written exchange before after) (within : before.Within)
    (fresh : ∀ invite, exchange.1 = .insert invite → invite.useCount ≤ invite.maxUses) :
    after.Within := by
  cases written with
  | nothing => exact within
  | consumption code nowIso =>
    intro invite member
    obtain ⟨stored, present, rfl⟩ := mem_map.mp member
    split
    · rename_i able
      exact (consumable_iff.mp able).2.2.1
    · exact within stored present
  | revocation id userId nowIso =>
    intro invite member
    obtain ⟨stored, present, rfl⟩ := mem_map.mp member
    split
    · exact within stored present
    · exact within stored present
  | insertion free rows =>
    intro invite member
    rw [rows] at member
    rcases mem_append.mp member with old | new
    · exact within invite old
    · obtain rfl := mem_singleton.mp new
      exact fresh invite rfl

/-- The invites a redemption uses, by their ids. -/
theorem ids_consumption (invites : Invites) (code nowIso : JsString) :
    ((invites.rows.filter (consumable code nowIso)).map consumed).map Invite.id =
      (invites.rows.filter (consumable code nowIso)).map Invite.id := by
  rw [map_map]
  rfl

/-- A redemption uses one invite at most. -/
theorem Written.single {exchange : Proc.Exchange registration}
    (written : Written exchange before after) : (consumedIds exchange).length ≤ 1 := by
  cases written with
  | nothing unused => simp [unused]
  | consumption code nowIso =>
    have codes : ((before.rows.filter (consumable code nowIso)).map Invite.code) =
        List.replicate (before.rows.filter (consumable code nowIso)).length code := by
      refine map_eq_replicate_iff.mpr fun invite member => ?_
      exact (consumable_iff.mp (mem_filter.mp member).2).1
    have distinct : ((before.rows.filter (consumable code nowIso)).map Invite.code).Nodup :=
      before.codes.sublist (filter_sublist.map Invite.code)
    rw [codes, nodup_replicate] at distinct
    simpa [consumedIds] using distinct
  | revocation => exact Nat.zero_le 1
  | insertion => exact Nat.zero_le 1

/-- What has been used was not revoked, and had not expired at the time of the redemption. -/
theorem Written.used {exchange : Proc.Exchange registration}
    (written : Written exchange before after) (used : id ∈ consumedIds exchange) :
    ¬ before.Revoked id ∧ ∃ code nowIso, exchange.1 = .consume code nowIso ∧
      after.InForce nowIso id := by
  cases written with
  | nothing unused => simp [unused] at used
  | consumption code nowIso =>
    have listed : id ∈ (before.rows.filter (consumable code nowIso)).map Invite.id :=
      ids_consumption before code nowIso ▸ used
    obtain ⟨invite, chosen, rfl⟩ := mem_map.mp listed
    obtain ⟨member, able⟩ := mem_filter.mp chosen
    obtain ⟨-, open_, -, ahead⟩ := consumable_iff.mp able
    constructor
    · rintro ⟨other, there, same, marked⟩
      obtain rfl := before.table.eq_of_key_eq there member same
      exact marked open_
    · refine ⟨code, nowIso, rfl, ?_⟩
      have kept := (Written.consumption code nowIso before).kept
      exact kept.inForce ⟨invite, member, rfl, ahead⟩
  | revocation => cases used
  | insertion => cases used

theorem Written.revoked {exchange : Proc.Exchange registration}
    (written : Written exchange before after)
    (marked : id ∈ revokedIds exchange) : after.Revoked id := by
  cases written with
  | nothing _ unrevoked => simp [unrevoked] at marked
  | consumption => cases marked
  | revocation wanted userId nowIso =>
    simp only [revokedIds, map_map, mem_map, mem_filter] at marked
    obtain ⟨invite, ⟨member, mine⟩, rfl⟩ := marked
    refine ⟨_, mem_map.mpr ⟨invite, member, rfl⟩, ?_⟩
    rw [if_pos mine]
    exact ⟨rfl, nofun⟩
  | insertion => cases marked

theorem uses_updateWhere {invites : Invites} {condition : Invite → Bool} {change : Invite → Invite}
    {keepsId : ∀ invite, (change invite).id = invite.id}
    {keepsCode : ∀ invite, (change invite).code = invite.code} :
    (invites.updateWhere condition change keepsId keepsCode).uses id =
      ((invites.table.find? id).map fun invite =>
        if condition invite then (change invite).useCount else invite.useCount).getD 0 := by
  unfold Invites.uses Invites.updateWhere
  rw [Table.find?_updateWhere, Option.map_map]
  refine congrArg (fun each => ((invites.table.find? id).map each).getD 0) ?_
  funext invite
  dsimp only [Function.comp]
  split
  · rfl
  · rfl

/-- Each use of an invite is counted once. -/
theorem Written.uses {exchange : Proc.Exchange registration}
    (written : Written exchange before after)
    (fresh : ∀ invite, exchange.1 = .insert invite → invite.useCount = 0) :
    after.uses id = before.uses id + (consumedIds exchange).count id := by
  cases written with
  | nothing unused => simp [unused]
  | consumption code nowIso =>
    have distinct : ((before.rows.filter (consumable code nowIso)).map Invite.id).Nodup :=
      before.table.unique.sublist (filter_sublist.map Invite.id)
    rw [uses_updateWhere, consumedIds, ids_consumption, distinct.count, Invites.uses]
    cases found : before.table.find? id with
    | none =>
      have absent := Table.find?_eq_none.mp found
      have unlisted : id ∉ (before.rows.filter (consumable code nowIso)).map Invite.id := by
        intro listed
        obtain ⟨invite, chosen, same⟩ := mem_map.mp listed
        exact absent invite (mem_filter.mp chosen).1 same
      simp [unlisted]
    | some invite =>
      obtain ⟨member, same⟩ := Table.find?_eq_some.mp found
      have listed : id ∈ (before.rows.filter (consumable code nowIso)).map Invite.id ↔
          consumable code nowIso invite = true := by
        rw [mem_map]
        constructor
        · rintro ⟨other, chosen, named⟩
          obtain ⟨there, able⟩ := mem_filter.mp chosen
          rwa [← before.table.eq_of_key_eq there member (named.trans same.symm)]
        · exact fun able => ⟨invite, mem_filter.mpr ⟨member, able⟩, same⟩
      simp only [listed, Option.map_some, Option.getD_some]
      split
      · rfl
      · rfl
  | revocation wanted userId nowIso =>
    rw [uses_updateWhere, Invites.uses]
    simp [Accounts.revoked, consumedIds]
  | @insertion invite _ _ free rows =>
    have first : after.table.find? id =
        (before.table.find? id).or (if invite.id = id then some invite else none) := by
      change after.rows.find? _ = _
      rw [rows, find?_append]
      simp [Table.find?, Invites.rows, find?_singleton]
    unfold Invites.uses
    rw [first]
    cases found : before.table.find? id with
    | some stored => simp [consumedIds]
    | none =>
      split
      · simp [consumedIds, fresh invite rfl]
      · simp [consumedIds]

end Statements

/-! ## What a call does -/

/-- A call remembers whether it has used an invite. It uses none after that, redeems at the
time at which it has started, and inserts only invites that have not been used. -/
def redeeming (call : InviteCall) : Monitor registration Bool where
  allows redeemed statement := redeemed = false ∧
    (∀ code nowIso, statement = .consume code nowIso → nowIso = call.nowIso) ∧
    ∀ invite, statement = .insert invite → invite.useCount = 0
  next redeemed exchange := redeemed || !(consumedIds exchange).isEmpty

/-- A call succeeds in a redemption if it has used an invite. -/
def Redeems (redeemed : Bool) (result : Except StatementError InviteOutcome) : Prop :=
  result = .ok (.consumption true) ↔ redeemed = true

section Programs

variable {toUpperCase : JsString → JsString} {call : InviteCall}

/-- A statement that redeems nothing. -/
def Idle (statement : InviteStatement) : Prop :=
  (∀ code nowIso, statement ≠ .consume code nowIso) ∧
    ∀ invite, statement = .insert invite → invite.useCount = 0

/-- A process whose statements redeem nothing. -/
abbrev IsIdle {α : Type} (process : InviteProc α) : Prop :=
  process.Along fun statement _ => Idle statement

theorem idle_perform {statement : InviteStatement} (idle : Idle statement) :
    IsIdle (perform statement) :=
  ⟨idle, fun _ => trivial⟩

theorem idle_query {statement : InviteStatement} (idle : Idle statement) :
    IsIdle (query statement) := by
  refine Proc.Along.bind (idle_perform idle) fun answer => ?_
  cases answer with
  | ok rows => trivial
  | error error => trivial

theorem idle_checkInviteCode (rawCode nowIso : JsString) :
    IsIdle (checkInviteCode toUpperCase rawCode nowIso) := by
  unfold checkInviteCode
  dsimp only
  split
  · trivial
  · refine Proc.Along.bind (idle_query ⟨nofun, nofun⟩) fun rows => ?_
    cases rows with
    | nil => trivial
    | cons invite rest => trivial

theorem idle_insertFirst {invite : JsString → JsString → Invite}
    (unused : ∀ id code, (invite id code).useCount = 0) (draws : List (JsString × JsString)) :
    IsIdle (insertFirst invite draws) := by
  induction draws with
  | nil => trivial
  | cons draw draws ih =>
    refine Proc.Along.bind (idle_perform ⟨nofun, ?_⟩) fun answer => ?_
    · rintro _ ⟨rfl⟩
      exact unused _ _
    · rcases answer with (_ | _) | rows
      · exact ih
      · trivial
      · trivial

theorem idle_mint (session : InviteSession) (body : Option Json) : IsIdle (mint session body) := by
  unfold mint
  repeat' split
  all_goals try trivial
  refine Proc.Along.bind (idle_insertFirst (fun _ _ => rfl) _) fun minted => ?_
  cases minted with
  | none => trivial
  | some invite => trivial

theorem idle_revokeInvite (session : InviteSession) (id nowIso : JsString) :
    IsIdle (revokeInvite session id nowIso) := by
  unfold revokeInvite
  split
  · trivial
  · refine Proc.Along.bind (idle_perform ⟨nofun, nofun⟩) fun answer => ?_
    rcases answer with _ | _ | _
    · trivial
    · trivial
    · trivial

/-- A call that redeems nothing. -/
theorem redeems_of_idle {α : Type} {process : InviteProc α} (idle : IsIdle process)
    {outcome : α → InviteOutcome} (other : ∀ value, outcome value ≠ .consumption true) :
    (outcome <$> process).Obeys (redeeming call) Redeems false := by
  refine Proc.Obeys.bind_of_along (idle.mono fun statement _ quiet => ?_) (fun value => ?_) fun error => ?_
  · refine ⟨⟨rfl, fun code nowIso same => absurd same (quiet.1 code nowIso), quiet.2⟩,
      fun answer => ?_⟩
    cases statement with
    | consume code nowIso => exact absurd rfl (quiet.1 code nowIso)
    | _ => rfl
  · have never : (.ok (outcome value) : Except StatementError InviteOutcome) ≠ .ok (.consumption true) :=
      fun same => other value (Except.ok.inj same)
    exact iff_of_false never Bool.false_ne_true
  · exact iff_of_false nofun Bool.false_ne_true

theorem redeems_consume (rawCode : JsString) :
    (InviteOutcome.consumption <$> consumeInviteCode toUpperCase rawCode call.nowIso).Obeys
      (redeeming call) Redeems false := by
  unfold consumeInviteCode
  dsimp only
  split
  · exact iff_of_false (fun same => nomatch same) Bool.false_ne_true
  · refine ⟨⟨rfl, fun _ _ same => (InviteStatement.consume.inj same).2.symm, nofun⟩,
      fun answer => ?_⟩
    cases answer with
    | error error => exact iff_of_false nofun Bool.false_ne_true
    | ok updated =>
      change Redeems (false || !(updated.map Invite.id).isEmpty) (.ok (.consumption !updated.isEmpty))
      simp [Redeems]

theorem redeems_inviteProgram (call : InviteCall) :
    (inviteProgram toUpperCase call).Obeys (redeeming call) Redeems false := by
  unfold inviteProgram
  split
  · exact redeems_of_idle (idle_checkInviteCode _ _) nofun
  · exact redeems_consume _
  · exact redeems_of_idle (idle_mint _ _) nofun
  · exact redeems_of_idle (idle_revokeInvite _ _ _) nofun

end Programs

/-! ## Runs -/

abbrev InviteEvent : Type := Event registration InviteCall

def InviteEvent.exchange (event : InviteEvent) : Proc.Exchange registration :=
  ⟨event.request, event.answer⟩

/-- The uses of invites, newest first: which call has used which invite. -/
def consumptions : List InviteEvent → List (Nat × JsString)
  | [] => []
  | event :: earlier =>
      (consumedIds event.exchange).map (fun id => (event.thread, id)) ++ consumptions earlier

/-- What holds of the invites after a run that has started with others: none has been used
too often; an invite has been used once more for each use of it; a call has used an invite
once if it has ended well, and otherwise none; an invite was used while it was not revoked
and, when the call started, not expired. -/
structure Redeemed (first : Invites) (pool : InvitePool) : Prop where
  within : pool.shared.Within
  counted : ∀ id, pool.shared.uses id =
    first.uses id + ((consumptions pool.history).map Prod.snd).count id
  once : ((consumptions pool.history).map Prod.fst).Nodup
  succeeded : ∀ index, index ∈ (consumptions pool.history).map Prod.fst ↔
    ∃ thread, pool.threads[index]? = some thread ∧ thread.result? = some (.ok (.consumption true))
  inForce : ∀ recent (event : InviteEvent) earlier id, pool.history = recent ++ event :: earlier →
    id ∈ consumedIds event.exchange →
    (¬ first.Revoked id ∧ ∀ other ∈ earlier, id ∉ revokedIds (InviteEvent.exchange other)) ∧
      pool.shared.InForce event.call.nowIso id

section Runs

variable {toUpperCase : JsString → JsString} {first : Invites} {pool : InvitePool}
  {guard : InvitePool → Turn InviteCall → Prop}

theorem memory_redeeming (call : InviteCall) (history : List InviteEvent) (index : Nat) :
    Pool.memory (redeeming call) false history index = true ↔
      index ∈ (consumptions history).map Prod.fst := by
  induction history with
  | nil => exact iff_of_false Bool.false_ne_true not_mem_nil
  | cons event earlier ih =>
    rw [consumptions, map_append, mem_append, ← ih]
    by_cases mine : event.thread = index
    · subst mine
      rw [Pool.memory_cons_self (redeeming call) false earlier event.thread event.call event.request
        event.answer]
      simp only [redeeming, Bool.or_eq_true, Bool.not_eq_true', map_map]
      rw [or_comm]
      refine or_congr_left ?_
      change (consumedIds event.exchange).isEmpty = false ↔ _
      simp
    · rw [Pool.memory_cons_other (redeeming call) false earlier (Ne.symm mine)]
      refine (or_iff_right ?_).symm
      simp [Ne.symm mine]

/-- A call that waits for an answer has used no invite. -/
theorem unused_of_pending (reached : (inviteSystem toUpperCase (· = first)).Reachable guard pool)
    {index : Nat} {call : InviteCall} {statement : InviteStatement}
    {next : Except StatementError (List Invite) → InviteProc InviteOutcome}
    (pending : pool.threads[index]? = some ⟨call, .await statement next⟩) :
    index ∉ (consumptions pool.history).map Prod.fst ∧
      (∀ code nowIso, statement = .consume code nowIso → nowIso = call.nowIso) ∧
      ∀ invite, statement = .insert invite → invite.useCount = 0 := by
  obtain ⟨allowed, -⟩ := Pool.obeys_of_reachable reached pending (redeems_inviteProgram call)
  refine ⟨fun used => ?_, allowed.2⟩
  rw [← memory_redeeming call, allowed.1] at used
  cases used

theorem mem_consumptions {history : List InviteEvent} {index : Nat} {id : JsString} :
    (index, id) ∈ consumptions history ↔
      ∃ event ∈ history, event.thread = index ∧ id ∈ consumedIds (InviteEvent.exchange event) := by
  induction history with
  | nil => simp [consumptions]
  | cons event earlier ih =>
    simp only [consumptions, mem_append, mem_map, Prod.mk.injEq, ih, mem_cons, exists_eq_or_imp]
    refine or_congr_left ⟨?_, fun ⟨mine, used⟩ => ⟨id, used, mine, rfl⟩⟩
    rintro ⟨_, used, mine, rfl⟩
    exact ⟨mine, used⟩

theorem succeeded_of_reachable (reached : (inviteSystem toUpperCase (· = first)).Reachable guard pool)
    (index : Nat) : index ∈ (consumptions pool.history).map Prod.fst ↔
      ∃ thread, pool.threads[index]? = some thread ∧
        thread.result? = some (.ok (.consumption true)) := by
  constructor
  · intro used
    obtain ⟨⟨_, id⟩, listed, rfl⟩ := mem_map.mp used
    obtain ⟨event, recorded, rfl, -⟩ := mem_consumptions.mp listed
    obtain ⟨thread, found, -⟩ := (Pool.consistent_of_reachable reached).started event recorded
    refine ⟨thread, found, ?_⟩
    have obeys := Pool.obeys_of_reachable reached found (redeems_inviteProgram thread.call)
    obtain ⟨call, result | ⟨statement, next⟩⟩ := thread
    · exact congrArg some (obeys.mpr ((memory_redeeming call _ _).mpr used))
    · exact absurd used (unused_of_pending reached found).1
  · rintro ⟨thread, found, finished⟩
    have ended := Pool.ended_of_reachable reached found (redeems_inviteProgram thread.call) finished
    exact (memory_redeeming thread.call _ _).mp (ended.mp rfl)

/-- Uses are counted, each call has one at most, and no invite is used too often. -/
theorem counted_of_reachable (within : first.Within)
    (reached : (inviteSystem toUpperCase (· = first)).Reachable guard pool) :
    pool.shared.Within ∧ ((consumptions pool.history).map Prod.fst).Nodup ∧
      ∀ id, pool.shared.uses id =
        first.uses id + ((consumptions pool.history).map Prod.snd).count id := by
  induction reached with
  | initial fresh =>
    obtain ⟨invites, rfl, rfl⟩ := fresh
    exact ⟨within, nodup_nil, fun id => rfl⟩
  | @step before label after reached _ moved ih =>
    obtain ⟨within, once, counted⟩ := ih
    obtain ⟨call, -, rfl⟩ | ⟨index, call, statement, next, answer, shared, rfl, pending, answered,
      rfl⟩ := Pool.step_cases moved
    · exact ⟨within, once, counted⟩
    · have written := written_of_handle answered
      obtain ⟨unused, -, fresh⟩ := unused_of_pending reached pending
      refine ⟨written.within within fun invite same => ?_, ?_, fun id => ?_⟩
      · rw [fresh invite same]
        exact Nat.zero_le _
      · have few := written.single
        simp only [consumptions, map_append, map_map]
        rcases used : consumedIds ⟨statement, answer⟩ with _ | ⟨id, _ | ⟨other, more⟩⟩
        · simpa [InviteEvent.exchange, used] using once
        · simp only [InviteEvent.exchange, used, map_cons, map_nil, singleton_append]
          exact nodup_cons.mpr ⟨unused, once⟩
        · rw [used] at few
          simp at few
      · have more : shared.uses id = before.shared.uses id +
            (consumedIds ⟨statement, answer⟩).count id := written.uses fresh
        have ids : (consumedIds ⟨statement, answer⟩).map (Prod.snd ∘ fun id => (index, id)) =
            consumedIds ⟨statement, answer⟩ := map_id _
        simp only [consumptions, map_append, map_map, count_append, InviteEvent.exchange, ids]
        rw [more, counted id]
        omega

/-- What is known of an answer later on: an invite it has used has stayed as it was, and one
it has revoked is revoked and has not been used since. -/
structure Lasting (exchange : Proc.Exchange registration) (recent : List InviteEvent)
    (invites : Invites) : Prop where
  used : ∀ id ∈ consumedIds exchange, ∃ code nowIso, exchange.1 = .consume code nowIso ∧
    invites.InForce nowIso id
  revoked : ∀ id ∈ revokedIds exchange, invites.Revoked id ∧
    ∀ event ∈ recent, id ∉ consumedIds (InviteEvent.exchange event)

section

variable (reached : (inviteSystem toUpperCase (· = first)).Reachable guard pool)

include reached

theorem lasting_of_reachable {recent earlier : List InviteEvent} {event : InviteEvent}
    (split : pool.history = recent ++ event :: earlier) :
    Lasting event.exchange recent pool.shared := by
  refine Pool.since_of_reachable (fun _ => True) (fun _ _ => trivial) ?_ ?_ reached split
  · intro index call statement before answer after _ answered
    have written := written_of_handle answered
    refine ⟨fun id used => (written.used used).2, fun id marked => ⟨written.revoked marked, ?_⟩⟩
    exact fun _ member => absurd member not_mem_nil
  · intro exchange recent index call statement before answer after _ lasting answered
    have written := written_of_handle answered
    refine ⟨fun id used => ?_, fun id marked => ?_⟩
    · obtain ⟨code, nowIso, same, inForce⟩ := lasting.used id used
      exact ⟨code, nowIso, same, written.kept.inForce inForce⟩
    · obtain ⟨revoked, unused⟩ := lasting.revoked id marked
      refine ⟨written.kept.revoked revoked, fun event member used => ?_⟩
      rcases mem_cons.mp member with rfl | member
      · exact (written.used used).1 revoked
      · exact unused event member used

/-- An invite that was revoked from the start is never used. -/
theorem unused_of_revoked {id : JsString} (revoked : first.Revoked id) :
    pool.shared.Revoked id ∧
      ∀ event ∈ pool.history, id ∉ consumedIds (InviteEvent.exchange event) := by
  refine reached.invariant (P := fun pool => pool.shared.Revoked id ∧
    ∀ event ∈ pool.history, id ∉ consumedIds (InviteEvent.exchange event)) ?_ ?_
  · rintro _ ⟨invites, rfl, rfl⟩
    exact ⟨revoked, fun event absent => nomatch absent⟩
  · intro before label after _ ⟨revoked, unused⟩ _ moved
    obtain ⟨call, -, rfl⟩ | ⟨index, call, statement, next, answer, shared, rfl, pending, answered,
      rfl⟩ := Pool.step_cases moved
    · exact ⟨revoked, unused⟩
    · have written := written_of_handle answered
      refine ⟨written.kept.revoked revoked, fun event member used => ?_⟩
      rcases mem_cons.mp member with rfl | member
      · exact (written.used used).1 revoked
      · exact unused event member used

/-- The clock a redemption goes by is that of its start. -/
theorem nowIso_of_consume
    {event : InviteEvent} (recorded : event ∈ pool.history) {code nowIso : JsString}
    (redeems : event.request = .consume code nowIso) : nowIso = event.call.nowIso := by
  obtain ⟨thread, found, same⟩ := (Pool.consistent_of_reachable reached).started event recorded
  have issued : event.exchange ∈ Pool.exchanges pool.history event.thread :=
    Pool.mem_exchanges.mpr ⟨event, recorded, rfl, rfl⟩
  obtain ⟨earlier, later, -, allowed⟩ := (redeems_inviteProgram thread.call).allowed
    ((Pool.consistent_of_reachable reached).leads event.thread thread found) issued
  rw [← same]
  exact allowed.2.1 code nowIso redeems

end

theorem redeemed_of_reachable (within : first.Within)
    (reached : (inviteSystem toUpperCase (· = first)).Reachable guard pool) :
    Redeemed first pool := by
  obtain ⟨kept, once, counted⟩ := counted_of_reachable within reached
  refine ⟨kept, counted, once, succeeded_of_reachable reached, ?_⟩
  intro recent event earlier id split used
  have recorded : event ∈ pool.history := split ▸ mem_append_right _ mem_cons_self
  obtain ⟨code, nowIso, redeems, inForce⟩ := (lasting_of_reachable reached split).used id used
  refine ⟨⟨fun revoked => ?_, fun other older marked => ?_⟩, ?_⟩
  · exact (unused_of_revoked reached revoked).2 event recorded used
  · obtain ⟨between, oldest, split'⟩ := append_of_mem older
    have whole : pool.history = (recent ++ event :: between) ++ other :: oldest := by
      rw [split, split', append_assoc, cons_append]
    exact ((lasting_of_reachable reached whole).revoked id marked).2 event
      (mem_append_right _ mem_cons_self) used
  · rwa [← nowIso_of_consume reached recorded redeems]

end Runs

/-- In every interleaving of redemptions, revocations, checks and new invites, an invite is
used as often as calls succeed with it and never beyond its limit, its revocation or its
expiry; and the check tells what a redemption would do, at every time and on every table
without empty times. -/
theorem invites_redeemed {toUpperCase : JsString → JsString} {first invites : Invites}
    {pool : InvitePool} (within : first.Within)
    (reached : (inviteSystem toUpperCase (· = first)).Reachable System.unguarded pool)
    (stamped : invites.Stamped) :
    Redeemed first pool ∧ ∀ rawCode nowIso, Agrees toUpperCase invites rawCode nowIso :=
  ⟨redeemed_of_reachable within reached, agrees_of_stamped stamped toUpperCase⟩

namespace Sample

/-- The capital letters of the Latin alphabet. -/
def capitals (text : JsString) : JsString :=
  text.map fun unit => if 97 ≤ unit && unit ≤ 122 then unit - 32 else unit

def invite : Invite := ⟨js "i", js "RACE1", some (js "alice"), 1, 0, none, none⟩

def invites : Invites := ⟨⟨[invite], by decide⟩, by decide⟩

/-- A table whose only invite has an empty text for the time of its revocation. -/
def emptied : Invites := ⟨⟨[{ invite with revokedAt := some [] }], by decide⟩, by decide⟩

def redeems (rawCode : String) : InviteCall := ⟨.consume (js rawCode), js "t", fun _ => false⟩

/-- Two calls race for the last use of an invite. -/
def racing : List (Turn InviteCall) :=
  [.start (redeems " race1"), .start (redeems "RACE-1"), .advance 0, .advance 1]

def raced : InvitePool :=
  (System.follow System.unchecked (Pool.turn (inviteProgram capitals) fun _ call => inviteHandle call.fails)
    (Pool.fresh invites) racing).get (by decide)

theorem raced_reachable : (inviteSystem capitals (· = invites)).Reachable System.unguarded raced :=
  System.reachable_of_follow System.unchecked_sound ⟨invites, rfl, rfl⟩ _

theorem within_invites : invites.Within := by
  intro only member
  obtain rfl := mem_singleton.mp member
  exact Nat.zero_le 1

theorem stamped_invites : invites.Stamped := by
  intro only member
  obtain rfl := mem_singleton.mp member
  exact ⟨nofun, nofun⟩

end Sample

theorem raced_redeemed : Redeemed Sample.invites Sample.raced ∧
    ∀ rawCode nowIso, Agrees Sample.capitals Sample.invites rawCode nowIso :=
  invites_redeemed Sample.within_invites Sample.raced_reachable Sample.stamped_invites

/-- The check finds a code valid that has been revoked at an empty time. -/
theorem emptied_disagrees : ¬ Agrees Sample.capitals Sample.emptied (js "race1") (js "t") := by
  intro agrees
  obtain ⟨after, ran⟩ := agrees.mp rfl
  have refused : ((consumeInviteCode Sample.capitals (js "race1") (js "t")).run succeeding
      Sample.emptied).map Prod.fst = some (.ok false) := by rfl
  rw [ran] at refused
  cases refused

end Vortex.Accounts
