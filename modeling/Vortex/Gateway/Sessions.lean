import Vortex.Gateway.Handle

/-!
# Session validation

`validateSession` of `index.ts`: a cached validation is accepted while it is fresh,
else the handshake token is verified again, and while that fails a cached validation
is accepted a little longer. Each path reads the user's revocation cutoff.
-/

namespace Vortex.Gateway

open Foundation

/-- Whether the token predates a revocation; so it is taken when the store fails. -/
def isSessionRevoked (userId : JsString) (tokenIatSeconds : Nat) : Proc gateway Unit Bool := do
  let answer : Except Unit Bool ← ask (.isRevoked userId tokenIatSeconds)
  match answer with
  | .ok revoked => pure revoked
  | .error _ => pure true

/-- Forget a session and disconnect its socket. -/
def dropSession (socket : SocketId) : Proc gateway Unit Bool := do
  let _ ← ask (.deleteSession socket)
  let _ ← ask (.disconnect socket)
  return false

def rejectRevokedSession (socket : SocketId) : Proc gateway Unit Bool := dropSession socket

/-- The cached validation, while it is younger than a maximum age. -/
def freshEntry (cached : Option SessionEntry) (maxAge : Nat) :
    Proc gateway Unit (Option SessionEntry) :=
  match cached with
  | none => pure none
  | some entry => do
      let now : Nat ← ask .now
      pure (if now - entry.validatedAt < maxAge then some entry else none)

/-- Accept a cached validation, unless the user's sessions were revoked. -/
def acceptCached (socket : SocketId) (entry : SessionEntry) : Proc gateway Unit Bool := do
  if ← isSessionRevoked entry.userId entry.iat then rejectRevokedSession socket else pure true

/-- Verify the handshake token and cache the validation. -/
def revalidate (socket : SocketId) (authToken : JsString) : Proc gateway Unit Bool := do
  let answer : Except Unit (Option VerifiedClaims) ← ask (.verifyAuthToken authToken)
  match answer with
  | .error _ => throw ()
  | .ok none => do
      let _ ← ask (.deleteSession socket)
      pure false
  | .ok (some claims) => do
      if ← isSessionRevoked claims.userId claims.iat then rejectRevokedSession socket
      else do
        let _ ← ask (.setSession socket claims)
        pure true

/-- What is left when verification failed. -/
def fallBack (socket : SocketId) (cached : Option SessionEntry) : Proc gateway Unit Bool := do
  let recent ← freshEntry cached SESSION_FALLBACK_MAX_AGE_MS
  match recent with
  | some entry => acceptCached socket entry
  | none => dropSession socket

def validateSession (deployment : Deployment) (socket : SocketId) : Proc gateway Unit Bool :=
  if !deployment.jwks then pure true
  else
    match deployment.token socket with
    | none => pure false
    | some authToken =>
        if authToken.isEmpty then pure false
        else do
          let cached : Option SessionEntry ← ask (.sessionOf socket)
          let recent ← freshEntry cached SESSION_REVALIDATION_TTL_MS
          match recent with
          | some entry => acceptCached socket entry
          | none => tryCatch (revalidate socket authToken) fun _ => fallBack socket cached

end Vortex.Gateway
