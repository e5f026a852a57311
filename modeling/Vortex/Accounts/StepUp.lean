import Vortex.Foundation.JsDate
import Vortex.Foundation.NearestDouble
import Vortex.Gateway.Messages

/-!
# Step-up tokens

A cookie says who has proven a credential when, and is signed with the current secret; cookies
signed with the previous one are accepted as well. The HMAC is a parameter. A cookie a client
presents is unforged when its tag belongs to its text under no secret that has not signed it.
-/

namespace Vortex.Accounts.StepUp

open Foundation List
open Foundation.Json (isDigit)
open Foundation.JsString (number? parseInt)
open Vortex.Gateway (isWhiteSpace trim)

/-! ## Signing -/

def STEP_UP_TTL_MS : Nat := 10 * 60 * 1000

/-- The variables of the environment that the tokens depend on. -/
structure StepUpEnv where
  production : Bool
  STEP_UP_SECRET : Option JsString
  STEP_UP_SECRET_PREV : Option JsString

/-- The current secret before the previous one; `none` when there must be one and is none. -/
def stepUpSecrets (env : StepUpEnv) : Option (List JsString) :=
  match env.STEP_UP_SECRET.filter (!·.isEmpty) with
  | none => if env.production then none else some [js "local-step-up-secret"]
  | some current =>
      match env.STEP_UP_SECRET_PREV.filter (!·.isEmpty) with
      | some prev => some [current, prev]
      | none => some [current]

/-- `createHmac("sha256", secret).update(payload).digest("hex")` -/
abbrev Hmac : Type := (secret payload : JsString) → JsString

/-- `/^[0-9a-f]{64}$/` -/
def isSignature (text : JsString) : Bool :=
  text.length = 64 && text.all fun unit => isDigit unit || (97 ≤ unit && unit ≤ 102)

/-- The bytes are compared, which are the same exactly when such texts are. -/
def verifySignature (hmac : Hmac) (env : StepUpEnv) (payload signature : JsString) :
    Option Bool :=
  if !isSignature signature then some false
  else (stepUpSecrets env).map fun secrets =>
    secrets.any fun secret => signature = hmac secret payload

/-- A user id has no colon. -/
structure UserId where
  text : JsString
  plain : (58 : UInt16) ∉ text
deriving DecidableEq

/-- What `Date.now()` may return. -/
abbrev Time : Type := { time : Nat // time ≤ JsDate.greatest }

/-- A cookie by what it is made of, with the secret that signed it. -/
structure StepUpCookie where
  userId : UserId
  issuedAt : Time
  secret : JsString

def payloadOf (userId issuedAt : JsString) : JsString := userId ++ 58 :: issuedAt

def StepUpCookie.payload (cookie : StepUpCookie) : JsString :=
  payloadOf cookie.userId.text (decimalText cookie.issuedAt)

/-- The value the cookie is set to. -/
def StepUpCookie.value (hmac : Hmac) (cookie : StepUpCookie) : JsString :=
  cookie.payload ++ 58 :: hmac cookie.secret cookie.payload

/-- The cookie is signed with the first secret; `none` when there is none. -/
def issueStepUpToken (env : StepUpEnv) (userId : UserId) (now : Time) : Option StepUpCookie := do
  let secrets ← stepUpSecrets env
  let secret ← secrets.head?
  return ⟨userId, now, secret⟩

/-- `Number(text)`, `none` when it is not finite. A text of digits is read as an integer. -/
def toNumber (text : JsString) : Option ℚ :=
  let stripped := trim text
  if stripped ≠ [] ∧ stripped.all isDigit then (parseInt stripped).map (↑) else number? stripped

/-- Whatever throws is caught, and the token is not valid. -/
def hasValidStepUpToken (hmac : Hmac) (env : StepUpEnv) (now : Time) (raw : Option JsString)
    (userId : JsString) : Bool :=
  match raw.map (·.splitOn 58) with
  | some (cookieUserId :: issuedAtRaw :: signature :: _) =>
      !cookieUserId.isEmpty && !issuedAtRaw.isEmpty && !signature.isEmpty &&
        cookieUserId = userId &&
        verifySignature hmac env (payloadOf cookieUserId issuedAtRaw) signature = some true &&
        (toNumber issuedAtRaw).any fun issuedAt => (now.val : ℚ) - issuedAt ≤ STEP_UP_TTL_MS
  | _ => false

/-! ## Rotating secrets -/

/-- The environment, the clock and the cookies that have been issued, the last one first. -/
structure StepUpState where
  env : StepUpEnv
  now : Time
  issued : List StepUpCookie

inductive StepUpLabel
  | issue (userId : UserId)
  | wait (until_ : Time)
  | rotate (secret : JsString)
  | removePrev

/-- A rotation makes the current secret the previous one, and a new one the current one. -/
def next (state : StepUpState) : StepUpLabel → Option StepUpState
  | .issue userId =>
      (issueStepUpToken state.env userId state.now).map fun cookie =>
        { state with issued := cookie :: state.issued }
  | .wait until_ => if state.now ≤ until_ then some { state with now := until_ } else none
  | .rotate secret =>
      match state.env.STEP_UP_SECRET.filter (!·.isEmpty) with
      | none => none
      | some current =>
          if secret.isEmpty then none
          else some { state with
            env := { state.env with
              STEP_UP_SECRET := some secret, STEP_UP_SECRET_PREV := some current } }
  | .removePrev => some { state with env := { state.env with STEP_UP_SECRET_PREV := none } }

/-- Nothing has been issued at the start. -/
def stepUpSystem : System StepUpState StepUpLabel :=
  .ofNext (fun state => state.issued = []) next

/-! ## What a cookie says -/

/-- A secret is the current or the previous one. -/
def Configured (env : StepUpEnv) (secret : JsString) : Prop :=
  ∃ secrets, stepUpSecrets env = some secrets ∧ secret ∈ secrets

/-- A cookie has been issued in the last ten minutes. -/
structure Fresh (now : Time) (cookie : StepUpCookie) : Prop where
  past : cookie.issuedAt ≤ now
  recent : now.val ≤ cookie.issuedAt + STEP_UP_TTL_MS

/-- The first three fields of a text are those of a cookie. -/
def Carries (hmac : Hmac) (raw : JsString) (cookie : StepUpCookie) : Prop :=
  (raw.splitOn 58).take 3 = (cookie.value hmac).splitOn 58

/-- A tag that verifies belongs to a payload the secret has signed. -/
def Unforged (hmac : Hmac) (state : StepUpState) (raw : JsString) : Prop :=
  ∀ userId issuedAt tag rest secret, raw.splitOn 58 = userId :: issuedAt :: tag :: rest →
    Configured state.env secret → hmac secret (payloadOf userId issuedAt) = tag →
      ∃ cookie ∈ state.issued,
        cookie.secret = secret ∧ cookie.payload = payloadOf userId issuedAt

section Numbers

theorem trim_of_visible {text : JsString} (visible : ∀ unit ∈ text, isWhiteSpace unit = false) :
    trim text = text := by
  have kept : ∀ units : JsString, (∀ unit ∈ units, isWhiteSpace unit = false) →
      units.dropWhile isWhiteSpace = units := by
    intro units every
    cases units with
    | nil => rfl
    | cons unit rest =>
      rw [dropWhile_cons_of_neg (by rw [every unit mem_cons_self]; exact nofun)]
  rw [trim, kept text visible, kept _ fun unit member => visible unit (mem_reverse.mp member),
    reverse_reverse]

theorem visible_of_isDigit {unit : UInt16} (digit : isDigit unit = true) :
    isWhiteSpace unit = false := by
  simp only [isDigit, Bool.and_eq_true, decide_eq_true_eq, UInt16.le_iff_toNat_le] at digit
  simp [isWhiteSpace, UInt16.le_iff_toNat_le, ← UInt16.toNat_inj] at digit ⊢
  omega

theorem toNumber_decimalText (time : Time) : toNumber (decimalText time) = some (time.val : ℚ) := by
  have digits : ∀ unit ∈ decimalText time, isDigit unit = true :=
    fun unit => isDigit_of_mem_decimalText
  have stripped := trim_of_visible fun unit member => visible_of_isDigit (digits unit member)
  have few : time.val ≤ 2 ^ (52 + 1) := time.property.trans (by decide)
  rw [toNumber, stripped, if_pos ⟨decimalText_ne_nil time, all_eq_true.mpr digits⟩, parseInt,
    digitsValue_decimalText, nearest?_of_le (by decide) few, Option.map_some]

end Numbers

section Fields

variable {hmac : Hmac} {env : StepUpEnv} {now : Time} {raw userId : JsString}

theorem splitOn_value (tags : ∀ secret payload, isSignature (hmac secret payload) = true)
    (cookie : StepUpCookie) :
    (cookie.value hmac).splitOn 58 =
      [cookie.userId.text, decimalText cookie.issuedAt, hmac cookie.secret cookie.payload] := by
  have digits : (58 : UInt16) ∉ decimalText cookie.issuedAt :=
    fun member => absurd (isDigit_of_mem_decimalText member) (by decide)
  have tag : (58 : UInt16) ∉ hmac cookie.secret cookie.payload := by
    intro member
    have letters := (Bool.and_eq_true_iff.mp (tags cookie.secret cookie.payload)).2
    exact absurd (all_eq_true.mp letters 58 member) (by decide)
  have fields : cookie.value hmac = cookie.userId.text ++ 58 ::
      (decimalText cookie.issuedAt ++ 58 :: hmac cookie.secret cookie.payload) :=
    append_assoc _ _ _
  rw [fields, splitOn_append_cons_self_of_not_mem cookie.userId.plain,
    splitOn_append_cons_self_of_not_mem digits, splitOn_eq_singleton tag]

theorem verifySignature_eq_true {payload signature : JsString} :
    verifySignature hmac env payload signature = some true ↔ isSignature signature = true ∧
        ∃ secret, Configured env secret ∧ signature = hmac secret payload := by
  unfold verifySignature Configured
  cases isSignature signature with
  | false => simp
  | true =>
    simp only [Bool.not_true, Bool.false_eq_true, if_false, Option.map_eq_some_iff,
      any_eq_true, decide_eq_true_eq, true_and]
    constructor
    · rintro ⟨secrets, configured, secret, member, same⟩
      exact ⟨secret, ⟨secrets, configured, member⟩, same⟩
    · rintro ⟨secret, ⟨secrets, configured, member⟩, same⟩
      exact ⟨secrets, configured, secret, member, same⟩

/-- What the code checks of a cookie. -/
theorem hasValidStepUpToken_eq_true :
    hasValidStepUpToken hmac env now (some raw) userId = true ↔ ∃ issuedAtRaw signature rest,
        raw.splitOn 58 = userId :: issuedAtRaw :: signature :: rest ∧ userId ≠ [] ∧
          issuedAtRaw ≠ [] ∧ signature ≠ [] ∧ (isSignature signature = true ∧
            ∃ secret, Configured env secret ∧ signature = hmac secret (payloadOf userId issuedAtRaw)) ∧
          ∃ issuedAt, toNumber issuedAtRaw = some issuedAt ∧
            (now.val : ℚ) - issuedAt ≤ STEP_UP_TTL_MS := by
  simp only [← verifySignature_eq_true]
  unfold hasValidStepUpToken
  rw [Option.map_some]
  constructor
  · intro valid
    split at valid
    · rename_i cookieUserId issuedAtRaw signature rest fields
      simp only [Bool.and_eq_true, Bool.not_eq_true', isEmpty_eq_false_iff, decide_eq_true_eq,
        Option.any_eq_true] at valid
      obtain ⟨⟨⟨⟨⟨user, time⟩, tag⟩, rfl⟩, verified⟩, issuedAt, number, recent⟩ := valid
      exact ⟨issuedAtRaw, signature, rest, Option.some_inj.mp fields, user, time, tag, verified,
        issuedAt, number, recent⟩
    · cases valid
  · rintro ⟨issuedAtRaw, signature, rest, fields, user, time, tag, verified, issuedAt, number,
      recent⟩
    simp only [fields, Bool.and_eq_true, Bool.not_eq_true', isEmpty_eq_false_iff,
      decide_eq_true_eq, Option.any_eq_true]
    exact ⟨⟨⟨⟨⟨user, time⟩, tag⟩, trivial⟩, verified⟩, issuedAt, number, recent⟩

theorem payloadOf_injective {user other issuedAt again : JsString} (plain : (58 : UInt16) ∉ user)
    (plainOther : (58 : UInt16) ∉ other) (same : payloadOf user issuedAt = payloadOf other again) :
    user = other ∧ issuedAt = again := by
  have fields := congrArg (List.splitOn 58) same
  rw [payloadOf, payloadOf, splitOn_append_cons_self_of_not_mem plain,
    splitOn_append_cons_self_of_not_mem plainOther] at fields
  obtain rfl := (cons.inj fields).1
  exact ⟨rfl, (cons.inj (append_cancel_left same)).2⟩

end Fields

/-! ## What holds in every run -/

section Runs

variable {hmac : Hmac} {state before after : StepUpState} {label : StepUpLabel}
  {guard : StepUpState → StepUpLabel → Prop} {cookie : StepUpCookie} {raw : JsString}

/-- A cookie a step finds or makes was issued before or is issued now, and no clock goes back. -/
theorem next_spec (moved : next before label = some after) :
    before.now ≤ after.now ∧
      ∀ cookie ∈ after.issued, cookie ∈ before.issued ∨ cookie.issuedAt = before.now := by
  cases label with
  | issue userId =>
    obtain ⟨cookie, issued, rfl⟩ := Option.map_eq_some_iff.mp moved
    refine ⟨le_rfl, fun other member => ?_⟩
    rcases mem_cons.mp member with rfl | earlier
    · simp only [issueStepUpToken, Option.bind_eq_bind, Option.bind_eq_some_iff] at issued
      obtain ⟨secrets, -, secret, -, made⟩ := issued
      cases made
      exact .inr rfl
    · exact .inl earlier
  | wait until_ =>
    simp only [next, Option.ite_none_right_eq_some] at moved
    obtain ⟨later, made⟩ := moved
    cases made
    exact ⟨later, fun _ => .inl⟩
  | rotate secret =>
    simp only [next] at moved
    split at moved
    · cases moved
    · simp only [Option.ite_none_left_eq_some] at moved
      obtain ⟨-, made⟩ := moved
      cases made
      exact ⟨le_rfl, fun _ => .inl⟩
  | removePrev =>
    cases moved
    exact ⟨le_rfl, fun _ => .inl⟩

theorem past_of_reachable (reached : stepUpSystem.Reachable guard state)
    (member : cookie ∈ state.issued) : cookie.issuedAt ≤ state.now := by
  refine reached.invariant (P := fun state => ∀ cookie ∈ state.issued, cookie.issuedAt ≤ state.now)
    ?_ ?_ cookie member
  · intro state start cookie member
    rw [show state.issued = [] from start] at member
    cases member
  · intro before label after _ past _ moved cookie member
    obtain ⟨later, found⟩ := next_spec moved
    rcases found cookie member with earlier | now
    · exact (past cookie earlier).trans later
    · exact now.le.trans later

theorem UserId.eq_of_text {user other : UserId} (same : user.text = other.text) : user = other := by
  cases user
  cases other
  cases same
  rfl

theorem recent_iff {now issuedAt : Time} :
    (now.val : ℚ) - (issuedAt.val : ℚ) ≤ STEP_UP_TTL_MS ↔ now.val ≤ issuedAt + STEP_UP_TTL_MS := by
  rw [sub_le_iff_le_add']
  norm_cast

theorem hasValid_of_carries (tags : ∀ secret payload, isSignature (hmac secret payload) = true)
    {env : StepUpEnv} {now : Time} (named : cookie.userId.text ≠ []) (fresh : Fresh now cookie)
    (configured : Configured env cookie.secret) (carries : Carries hmac raw cookie) :
    hasValidStepUpToken hmac env now (some raw) cookie.userId.text = true := by
  rw [Carries, splitOn_value tags] at carries
  have fields := take_append_drop 3 (raw.splitOn 58)
  rw [carries] at fields
  have tag := tags cookie.secret cookie.payload
  have some : hmac cookie.secret cookie.payload ≠ [] := by
    intro none
    rw [none] at tag
    cases tag
  exact hasValidStepUpToken_eq_true.mpr ⟨_, _, _, fields.symm, named, decimalText_ne_nil _, some,
    ⟨tag, cookie.secret, configured, rfl⟩, _, toNumber_decimalText cookie.issuedAt,
    recent_iff.mpr fresh.recent⟩

/-- A token is valid when it carries the fields of a fresh cookie of the user. -/
theorem hasValid_iff (tags : ∀ secret payload, isSignature (hmac secret payload) = true)
    (reached : stepUpSystem.Reachable guard state) (unforged : Unforged hmac state raw)
    (user : UserId) (named : user.text ≠ []) :
    hasValidStepUpToken hmac state.env state.now (some raw) user.text = true ↔
      ∃ cookie ∈ state.issued, cookie.userId = user ∧ Fresh state.now cookie ∧
        Configured state.env cookie.secret ∧ Carries hmac raw cookie := by
  constructor
  · intro valid
    obtain ⟨issuedAtRaw, signature, rest, fields, -, -, -, ⟨-, secret, configured, signed⟩, issuedAt,
      number, recent⟩ := hasValidStepUpToken_eq_true.mp valid
    obtain ⟨cookie, member, rfl, payload⟩ :=
      unforged _ _ _ _ _ fields configured signed.symm
    obtain ⟨owner, time⟩ := payloadOf_injective cookie.userId.plain user.plain payload
    rw [← time, toNumber_decimalText, Option.some_inj] at number
    rw [← number, recent_iff] at recent
    refine ⟨cookie, member, UserId.eq_of_text owner, ⟨past_of_reachable reached member, recent⟩,
      configured, ?_⟩
    rw [Carries, splitOn_value tags, fields, owner, time, payload, ← signed]
    rfl
  · rintro ⟨cookie, member, rfl, fresh, configured, carries⟩
    exact hasValid_of_carries tags named fresh configured carries

/-- No secret is changed. -/
def quiet (_ : StepUpState) : StepUpLabel → Prop
  | .issue _ | .wait _ => True
  | .rotate _ | .removePrev => False

theorem env_of_quiet (path : stepUpSystem.Steps quiet before after) : after.env = before.env := by
  refine path.invariant (P := fun state => state.env = before.env) ?_ rfl
  intro state label later same quiet moved
  cases label with
  | issue userId =>
    obtain ⟨cookie, -, rfl⟩ := Option.map_eq_some_iff.mp moved
    exact same
  | wait until_ =>
    obtain ⟨-, made⟩ := Option.ite_none_right_eq_some.mp moved
    cases made
    exact same
  | rotate => cases quiet
  | removePrev => cases quiet

theorem rotate_spec {secret : JsString} (moved : next before (.rotate secret) = some after) :
    ∃ current, before.env.STEP_UP_SECRET.filter (!·.isEmpty) = some current ∧
      stepUpSecrets after.env = some [secret, current] := by
  simp only [next] at moved
  split at moved
  · cases moved
  · rename_i current set
    simp only [Option.ite_none_left_eq_some, List.isEmpty_iff] at moved
    obtain ⟨some, made⟩ := moved
    cases made
    have nonempty := (Option.filter_eq_some_iff.mp set).2
    have fresh : secret.isEmpty = false := isEmpty_eq_false_iff.mpr some
    refine ⟨current, set, ?_⟩
    simp only [stepUpSecrets, Option.filter_some, fresh, nonempty, Bool.not_false, if_true]

/-- The secret that has signed a cookie is the previous one after a rotation. -/
theorem configured_of_rotate {user : UserId} {now : Time} {secret : JsString}
    (issued : issueStepUpToken before.env user now = some cookie)
    (moved : next before (.rotate secret) = some after) : Configured after.env cookie.secret := by
  obtain ⟨current, set, secrets⟩ := rotate_spec moved
  have signed : cookie.secret = current := by
    simp only [issueStepUpToken, stepUpSecrets, set, Option.bind_eq_bind] at issued
    split at issued
    · cases issued
      rfl
    · cases issued
      rfl
  exact ⟨_, secrets, by rw [signed]; exact mem_cons_of_mem _ mem_cons_self⟩

/-- A token is valid exactly when it carries the fields of a fresh cookie of the user, no cookie is
valid for another user or after ten minutes, and a rotation leaves fresh cookies valid. -/
theorem stepUp_tokens (tags : ∀ secret payload, isSignature (hmac secret payload) = true)
    (reached : stepUpSystem.Reachable System.unguarded state) (user : UserId)
    (named : user.text ≠ []) :
    (∀ raw, Unforged hmac state raw →
      (hasValidStepUpToken hmac state.env state.now (some raw) user.text = true ↔
        ∃ cookie ∈ state.issued, cookie.userId = user ∧ Fresh state.now cookie ∧
          Configured state.env cookie.secret ∧ Carries hmac raw cookie)) ∧
    (∀ cookie ∈ state.issued, Unforged hmac state (cookie.value hmac) →
      hasValidStepUpToken hmac state.env state.now (some (cookie.value hmac)) user.text = true →
        cookie.userId = user ∧ Fresh state.now cookie) ∧
    ∀ cookie before after final secret, issueStepUpToken state.env user state.now = some cookie →
      stepUpSystem.Steps quiet state before → next before (.rotate secret) = some after →
        stepUpSystem.Steps quiet after final → Fresh final.now cookie →
          hasValidStepUpToken hmac final.env final.now (some (cookie.value hmac)) user.text =
            true := by
  refine ⟨fun raw unforged => hasValid_iff tags reached unforged user named, ?_, ?_⟩
  · intro cookie member unforged valid
    obtain ⟨other, -, rfl, fresh, -, carries⟩ :=
      (hasValid_iff tags reached unforged user named).mp valid
    rw [Carries, splitOn_value tags, splitOn_value tags] at carries
    obtain ⟨owner, rest⟩ := List.cons.inj carries
    have time : cookie.issuedAt = other.issuedAt :=
      Subtype.ext (decimalText_injective (List.cons.inj rest).1)
    refine ⟨UserId.eq_of_text owner, ?_, ?_⟩
    · rw [time]
      exact fresh.past
    · rw [time]
      exact fresh.recent
  · intro cookie before after final secret issued opening moved closing fresh
    have owner : cookie.userId = user := by
      simp only [issueStepUpToken, Option.bind_eq_bind, Option.bind_eq_some_iff] at issued
      obtain ⟨secrets, -, secret, -, made⟩ := issued
      cases made
      rfl
    subst owner
    rw [← env_of_quiet opening] at issued
    have configured := configured_of_rotate issued moved
    rw [← env_of_quiet closing] at configured
    refine hasValid_of_carries tags named fresh configured ?_
    rw [Carries, splitOn_value tags]
    rfl

end Runs

namespace Sample

def first : JsString := js "first-secret"

def second : JsString := js "second-secret"

/-- The HMAC-SHA256 of `alice:1700000000000` under the two secrets, and of `:1700000000000` under
the one for development. -/
def hmac : Hmac := fun secret _ =>
  if secret = first then
    js "8933e6b767c986919f4d33fd64f97289085e3ae49059476519a7029cb736a598"
  else if secret = second then
    js "0b08bdac07adadb7bcb95cd46abd5e2e4776cb14b8d0c1670b348677ca4f7149"
  else js "d77ad134e95459fa96e5169096f57ecda5f39791e09069c39a839216c90810e5"

theorem isSignature_hmac (secret payload : JsString) :
    isSignature (hmac secret payload) = true := by
  unfold hmac
  split
  · decide
  · split
    · decide
    · decide

def alice : UserId := ⟨js "alice", by decide⟩

def nobody : UserId := ⟨[], by decide⟩

def now : Time := ⟨1700000000000, by decide⟩

def later : Time := ⟨1700000300000, by decide⟩

def cookie : StepUpCookie := ⟨alice, now, first⟩

def rotated : StepUpState := ⟨⟨true, some second, some first⟩, later, [cookie]⟩

theorem rotated_reachable : stepUpSystem.Reachable System.unguarded rotated := by
  have issue : stepUpSystem.step ⟨⟨true, some first, none⟩, now, []⟩ (.issue alice)
      ⟨⟨true, some first, none⟩, now, [cookie]⟩ := rfl
  have rotate : stepUpSystem.step ⟨⟨true, some first, none⟩, now, [cookie]⟩ (.rotate second)
      ⟨⟨true, some second, some first⟩, now, [cookie]⟩ := rfl
  have wait : stepUpSystem.step ⟨⟨true, some second, some first⟩, now, [cookie]⟩ (.wait later)
      rotated := rfl
  exact (((System.Reachable.initial rfl).step trivial issue).step trivial rotate).step trivial wait

theorem unforged_rotated : Unforged hmac rotated (cookie.value hmac) := by
  intro userId issuedAt tag rest secret fields configured signed
  rw [splitOn_value isSignature_hmac] at fields
  obtain ⟨secrets, current, member⟩ := configured
  cases fields
  cases current
  rcases mem_cons.mp member with rfl | previous
  · exact absurd signed (by decide)
  · rw [mem_singleton.mp previous]
    exact ⟨cookie, mem_cons_self, rfl, rfl⟩

def unnamedCookie : StepUpCookie := ⟨nobody, now, js "local-step-up-secret"⟩

def unnamed : StepUpState := ⟨⟨false, none, none⟩, now, [unnamedCookie]⟩

theorem unforged_unnamed : Unforged hmac unnamed (unnamedCookie.value hmac) := by
  intro userId issuedAt tag rest secret fields configured _
  rw [splitOn_value isSignature_hmac] at fields
  obtain ⟨secrets, current, member⟩ := configured
  cases fields
  cases current
  rw [mem_singleton.mp member]
  exact ⟨unnamedCookie, mem_cons_self, rfl, rfl⟩

theorem unnamed_reachable : stepUpSystem.Reachable System.unguarded unnamed := by
  have issue : stepUpSystem.step ⟨⟨false, none, none⟩, now, []⟩ (.issue nobody) unnamed := rfl
  exact (System.Reachable.initial rfl).step trivial issue

end Sample

/-- A cookie that a rotation has left with the previous secret is valid. -/
theorem rotated_valid :
    hasValidStepUpToken Sample.hmac Sample.rotated.env Sample.rotated.now
      (some (Sample.cookie.value Sample.hmac)) (js "alice") = true := by
  refine ((stepUp_tokens Sample.isSignature_hmac Sample.rotated_reachable Sample.alice
    (List.cons_ne_nil _ _)).1 _ Sample.unforged_rotated).mpr ?_
  refine ⟨Sample.cookie, List.mem_cons_self, rfl, ⟨by decide, by decide⟩, ⟨_, rfl, ?_⟩, ?_⟩
  · exact List.mem_cons_of_mem _ List.mem_cons_self
  · rw [Carries, splitOn_value Sample.isSignature_hmac]
    rfl

/-- The cookie of a user whose id is empty is not valid, as fresh as it may be. -/
theorem unnamed_invalid :
    (∀ secret payload, isSignature (Sample.hmac secret payload) = true) ∧
      stepUpSystem.Reachable System.unguarded Sample.unnamed ∧
        Unforged Sample.hmac Sample.unnamed (Sample.unnamedCookie.value Sample.hmac) ∧
        (∃ cookie ∈ Sample.unnamed.issued, cookie.userId = Sample.nobody ∧
          Fresh Sample.unnamed.now cookie ∧ Configured Sample.unnamed.env cookie.secret ∧
            Carries Sample.hmac (Sample.unnamedCookie.value Sample.hmac) cookie) ∧
          hasValidStepUpToken Sample.hmac Sample.unnamed.env Sample.unnamed.now
            (some (Sample.unnamedCookie.value Sample.hmac)) Sample.nobody.text = false := by
  refine ⟨Sample.isSignature_hmac, Sample.unnamed_reachable, Sample.unforged_unnamed,
    ⟨Sample.unnamedCookie, List.mem_cons_self, rfl, ⟨by decide, by decide⟩, ⟨_, rfl, List.mem_cons_self⟩, ?_⟩, ?_⟩
  · rw [Carries, splitOn_value Sample.isSignature_hmac]
    rfl
  · rw [← Bool.not_eq_true, hasValidStepUpToken_eq_true]
    rintro ⟨issuedAtRaw, signature, rest, -, named, -⟩
    exact named rfl

end Vortex.Accounts.StepUp
