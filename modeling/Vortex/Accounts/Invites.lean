import Vortex.Foundation.Table
import Vortex.Gateway.Messages

/-!
# Invite codes

Registration asks for an invite code. A signed-in user mints codes and revokes them,
`checkInviteCode` tells a visitor whether a code would do, and `consumeInviteCode`
reserves one use of it by a conditional update. All of them are processes that share
`registration_invites`; each statement is atomic, and the clock is read when a process
starts. `toUpperCase` is a parameter, any function on texts.
-/

namespace Vortex.Accounts

open Foundation
open Vortex.Gateway (internalError trim)

/-! ## The table -/

structure Invite where
  id : JsString
  code : JsString
  createdBy : Option JsString
  maxUses : Nat
  useCount : Nat
  expiresAt : Option JsString
  revokedAt : Option JsString

/-- `registration_invites`, whose codes are unique besides the ids. -/
structure Invites where
  table : Table Invite JsString Invite.id
  codes : (table.rows.map Invite.code).Nodup

namespace Invites

def empty : Invites := ⟨.empty, List.nodup_nil⟩

def rows (invites : Invites) : List Invite := invites.table.rows

/-- `UPDATE ... WHERE`, of columns other than the id and the code. -/
def updateWhere (invites : Invites) (condition : Invite → Bool) (change : Invite → Invite)
    (keepsId : ∀ invite, (change invite).id = invite.id)
    (keepsCode : ∀ invite, (change invite).code = invite.code) : Invites where
  table := invites.table.updateWhere condition change keepsId
  codes := by
    have same : (invites.table.updateWhere condition change keepsId).rows.map Invite.code =
        invites.table.rows.map Invite.code := by
      simp only [Table.updateWhere, List.map_map]
      refine List.map_congr_left fun invite _ => ?_
      dsimp only [Function.comp]
      split
      · exact keepsCode invite
      · rfl
    rw [same]
    exact invites.codes

/-- `INSERT`, which is refused where the id or the code is taken. -/
def insert? (invites : Invites) (invite : Invite) : Option Invites :=
  if free : invite.id ∉ invites.rows.map Invite.id ∧ invite.code ∉ invites.rows.map Invite.code then
    some
      { table :=
          { rows := invites.rows ++ [invite]
            unique := by
              rw [List.map_append, List.map_singleton, List.nodup_append_comm]
              exact List.nodup_cons.mpr ⟨free.1, invites.table.unique⟩ }
        codes := by
          rw [List.map_append, List.map_singleton, List.nodup_append_comm]
          exact List.nodup_cons.mpr ⟨free.2, invites.codes⟩ }
  else none

end Invites

/-! ## Statements -/

inductive InviteStatement
  | find (code : JsString)
  | consume (code nowIso : JsString)
  | revoke (id userId nowIso : JsString)
  | insert (invite : Invite)

/-- Why a statement throws: a column that is unique, or anything else. -/
inductive StatementError
  | unique
  | other
deriving DecidableEq

/-- A statement throws, or it returns the rows it has found or written. -/
def registration : Interface where
  Request := InviteStatement
  Answer _ := Except StatementError (List Invite)

/-- The rows `consumeInviteCode` updates; `useCount` is incremented. -/
def consumable (code nowIso : JsString) (invite : Invite) : Bool :=
  invite.code = code && invite.revokedAt.isNone && invite.useCount < invite.maxUses &&
    invite.expiresAt.all fun expiresAt => nowIso < expiresAt

def consumed (invite : Invite) : Invite := { invite with useCount := invite.useCount + 1 }

@[simp] theorem consumed_id (invite : Invite) : (consumed invite).id = invite.id := rfl

@[simp] theorem consumed_code (invite : Invite) : (consumed invite).code = invite.code := rfl

/-- The rows a user revokes. -/
def revocable (id userId : JsString) (invite : Invite) : Bool :=
  invite.id = id && invite.createdBy = some userId && invite.revokedAt.isNone

def revoked (nowIso : JsString) (invite : Invite) : Invite :=
  { invite with revokedAt := some nowIso }

@[simp] theorem revoked_id (nowIso : JsString) (invite : Invite) :
    (revoked nowIso invite).id = invite.id := rfl

@[simp] theorem revoked_code (nowIso : JsString) (invite : Invite) :
    (revoked nowIso invite).code = invite.code := rfl

def execute : InviteStatement → Invites → Except StatementError (List Invite) × Invites
  | .find code, invites =>
      (.ok ((invites.rows.filter fun invite => invite.code = code).take 1), invites)
  | .consume code nowIso, invites =>
      (.ok ((invites.rows.filter (consumable code nowIso)).map consumed),
        invites.updateWhere (consumable code nowIso) consumed consumed_id consumed_code)
  | .revoke id userId nowIso, invites =>
      (.ok ((invites.rows.filter (revocable id userId)).map (revoked nowIso)),
        invites.updateWhere (revocable id userId) (revoked nowIso) (revoked_id nowIso) (revoked_code nowIso))
  | .insert invite, invites =>
      match invites.insert? invite with
      | some after => (.ok [invite], after)
      | none => (.error .unique, invites)

/-! ## Processes -/

abbrev InviteProc (α : Type) : Type := Proc registration StatementError α

def perform (statement : InviteStatement) : InviteProc (Except StatementError (List Invite)) :=
  Proc.request (I := registration) statement

/-- A statement whose exception is the caller's. -/
def query (statement : InviteStatement) : InviteProc (List Invite) := do
  match ← perform statement with
  | .ok rows => return rows
  | .error error => throw error

inductive InviteValidation
  | valid
  | notFound
  | revoked
  | expired
  | exhausted
deriving DecidableEq

/-- Not a capital letter of the Latin alphabet, and not a digit. -/
def isForeign (unit : UInt16) : Bool := !((65 ≤ unit && unit ≤ 90) || (48 ≤ unit && unit ≤ 57))

section Codes

variable (toUpperCase : JsString → JsString)

def normalizeInviteCode (raw : JsString) : JsString :=
  (toUpperCase (trim raw)).filter fun unit => !isForeign unit

/-- What is said of the row with a code; an empty text counts as no time. -/
def validate (nowIso : JsString) (invite : Invite) : InviteValidation :=
  if invite.revokedAt.any (· ≠ []) then .revoked
  else if invite.expiresAt.any fun expiresAt => expiresAt ≠ [] && expiresAt ≤ nowIso then .expired
  else if invite.maxUses ≤ invite.useCount then .exhausted
  else .valid

def checkInviteCode (rawCode nowIso : JsString) : InviteProc InviteValidation :=
  let code := normalizeInviteCode toUpperCase rawCode
  if code.isEmpty then return .notFound
  else do
    match ← query (.find code) with
    | [] => return .notFound
    | invite :: _ => return validate nowIso invite

def consumeInviteCode (rawCode nowIso : JsString) : InviteProc Bool :=
  let code := normalizeInviteCode toUpperCase rawCode
  if code.isEmpty then return false
  else do
    let updated ← query (.consume code nowIso)
    return !updated.isEmpty

end Codes

/-! ## Routes -/

def MAX_USES_CAP : Nat := 50

def MAX_EXPIRES_DAYS : Nat := 365

def CODE_GENERATION_RETRIES : Nat := 5

/-- An integer from 1 to a bound. -/
def boundedInteger (bound : Nat) : Json → Option Nat
  | .num text => (JsString.integer? text).bind fun value =>
      if 1 ≤ value ∧ value ≤ bound then some value.toNat else none
  | _ => none

/-- What the rest of the system answers to a request of a user: the session, whether the rate
limit is exceeded, the time in so many days, and the ids and codes that are drawn. -/
structure InviteSession where
  user : Option JsString
  limited : Bool
  inDays : Nat → JsString
  draws : List (JsString × JsString)

def okay : HttpResponse := .json 200 (.obj [(js "ok", .bool true)])

/-- Insert a row with each of the drawn ids and codes, until one is free. -/
def insertFirst (invite : JsString → JsString → Invite) :
    List (JsString × JsString) → InviteProc (Option Invite)
  | [] => return none
  | (id, code) :: draws => do
      match ← perform (.insert (invite id code)) with
      | .ok rows => return rows.head?
      | .error .unique => insertFirst invite draws
      | .error .other => return none

/-- `POST /api/invites`; of the invite it answers with, only the code is kept. -/
def mint (session : InviteSession) (body : Option Json) : InviteProc HttpResponse :=
  match session.user with
  | none => return .error 401 (js "Unauthorized")
  | some user =>
      if session.limited then return .error 429 (js "Too many requests. Please try again later.")
      else
        match body with
        | none => return .error 400 (js "Malformed JSON")
        | some .null => return internalError
        | some body =>
            match boundedInteger MAX_USES_CAP ((body.get? (js "maxUses")).getD (.num (js "1"))) with
            | none => return .error 400 (js "maxUses must be an integer between 1 and 50")
            | some maxUses =>
                match (body.get? (js "expiresInDays")).map (boundedInteger MAX_EXPIRES_DAYS) with
                | some none =>
                    return .error 400 (js "expiresInDays must be an integer between 1 and 365")
                | expiry => do
                    let expiresAt := (expiry.bind id).map session.inDays
                    match ← insertFirst (fun id code => ⟨id, code, some user, maxUses, 0, expiresAt, none⟩)
                        (session.draws.take CODE_GENERATION_RETRIES) with
                    | some invite =>
                        return .json 201 (.obj [(js "invite", .obj [(js "code", .str invite.code)])])
                    | none => return .error 500 (js "Failed to create invite")

/-- `DELETE /api/invites/[id]` -/
def revokeInvite (session : InviteSession) (id nowIso : JsString) : InviteProc HttpResponse :=
  match session.user with
  | none => return .error 401 (js "Unauthorized")
  | some user => do
      match ← perform (.revoke id user nowIso) with
      | .error _ => return .error 500 (js "Failed to revoke invite")
      | .ok [] => return .error 404 (js "Invite not found")
      | .ok (_ :: _) => return okay

/-! ## Concurrent processes -/

inductive InviteRoute
  | check (rawCode : JsString)
  | consume (rawCode : JsString)
  | mint (session : InviteSession) (body : Option Json)
  | revoke (session : InviteSession) (id : JsString)

/-- A call, with the time at which it starts and which of its statements throw. -/
structure InviteCall where
  route : InviteRoute
  nowIso : JsString
  fails : InviteStatement → Bool

inductive InviteOutcome
  | validation (validation : InviteValidation)
  | consumption (succeeded : Bool)
  | response (response : HttpResponse)

def inviteProgram (toUpperCase : JsString → JsString) (call : InviteCall) :
    InviteProc InviteOutcome :=
  match call.route with
  | .check rawCode => .validation <$> checkInviteCode toUpperCase rawCode call.nowIso
  | .consume rawCode => .consumption <$> consumeInviteCode toUpperCase rawCode call.nowIso
  | .mint session body => .response <$> mint session body
  | .revoke session id => .response <$> revokeInvite session id call.nowIso

def inviteHandle (fails : InviteStatement → Bool) : Handler registration Invites :=
  fun statement invites =>
    if fails statement then some (.error .other, invites) else some (execute statement invites)

abbrev InvitePool : Type := Pool registration StatementError InviteOutcome InviteCall Invites

/-- Every interleaving of any number of calls, from the given contents of the table. -/
def inviteSystem (toUpperCase : JsString → JsString) (initial : Invites → Prop) :
    System InvitePool (Turn InviteCall) :=
  Pool.system initial (inviteProgram toUpperCase) fun _ call => inviteHandle call.fails

end Vortex.Accounts
