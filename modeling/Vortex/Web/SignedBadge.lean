import Vortex.Olm.Statements

/-!
# The signed badge of the activity log

`MembershipLogTab` fetches the log of a channel and checks every row in the browser, with
the payload, the signature and the key the row brings along. The badge of a row reads the
result under the row's id. What the badge says is compared here with what the devices of
the row's actor have signed.
-/

namespace Vortex.Web

open Foundation Vortex.Olm

/-- A row of the log, as the server sends it. -/
structure LogEntry where
  id : JsString
  action : JsString
  actor_id : Option JsString
  target_id : Option JsString
  actor_ed25519_key : Option JsString
  payload : JsString
  signature : Option JsString
  created_at : JsString

/-- The signature and the key of a row, unless one of them is `null` or empty. -/
def LogEntry.signed? (entry : LogEntry) : Option (JsString × JsString) :=
  match entry.signature, entry.actor_ed25519_key with
  | some signature, some key => if signature = [] ∨ key = [] then none else some (signature, key)
  | _, _ => none

inductive Badge
  | unsigned
  | verifying
  | signed
  | invalid
  deriving DecidableEq

def SignatureBadge (entry : LogEntry) (verified : Option Bool) : Badge :=
  if entry.signed?.isNone then .unsigned
  else
    match verified with
    | none => .verifying
    | some true => .signed
    | some false => .invalid

/-- `parsed[name] === value` for a string `value`. -/
def isText (parsed : Json) (name value : JsString) : Bool :=
  Json.string? (parsed.get? name) = some value

/-- `value === null || parsed[name] === value`. -/
def isNullOrText (parsed : Json) (name : JsString) (value : Option JsString) : Bool :=
  match value with
  | none => true
  | some value => isText parsed name value

/-- Whether the payload says what the row says; `none` is an exception. Only the call of
`JSON.parse` is inside the `try`: reading a property of `null` throws. -/
def payloadMatchesEntry (entry : LogEntry) (channelId : JsString) : Option Bool :=
  match Json.parse entry.payload with
  | none => some false
  | some .null => none
  | some parsed =>
      some (isText parsed (js "eventId") entry.id &&
        isText parsed (js "timestamp") entry.created_at &&
        isText parsed (js "channelId") channelId &&
        isText parsed (js "action") entry.action &&
        isNullOrText parsed (js "actorId") entry.actor_id &&
        isNullOrText parsed (js "targetId") entry.target_id)

/-! ## Objects as maps -/

/-- The names of the properties every object inherits. All of them are truthy. -/
def inheritedNames : List JsString :=
  [js "constructor", js "__defineGetter__", js "__defineSetter__", js "hasOwnProperty",
    js "__lookupGetter__", js "__lookupSetter__", js "isPrototypeOf",
    js "propertyIsEnumerable", js "toString", js "valueOf", js "__proto__",
    js "toLocaleString"]

/-- A `Record<string, boolean>`, by its own properties. -/
abbrev Verdicts : Type := JsString → Option Bool

/-- The object `{}`. -/
def Verdicts.empty : Verdicts := fun _ => none

/-- `verdicts[id] = verdict`; the setter of `__proto__` ignores a boolean. -/
def Verdicts.assign (verdicts : Verdicts) (id : JsString) (verdict : Bool) : Verdicts :=
  if id = js "__proto__" then verdicts else Function.update verdicts id (some verdict)

/-- Whether `verdicts[id]` is truthy, unless it is `undefined`. -/
def Verdicts.read (verdicts : Verdicts) (id : JsString) : Option Bool :=
  match verdicts id with
  | some verdict => some verdict
  | none => if id ∈ inheritedNames then some true else none

/-! ## The tab -/

/-- A run of `verifyAll`: the results so far, the rows whose signature check has not come
back, and whether the check of some row has thrown, so that the results are dropped. -/
structure Verification where
  results : Verdicts
  awaiting : List LogEntry
  failed : Bool

/-- What the check of a row does before it first awaits. -/
def Verification.enter (channelId : JsString) (run : Verification) (entry : LogEntry) :
    Verification :=
  if entry.signed?.isNone then run
  else
    match payloadMatchesEntry entry channelId with
    | none => { run with failed := true }
    | some false => { run with results := run.results.assign entry.id false }
    | some true => { run with awaiting := run.awaiting ++ [entry] }

def verifyAll (channelId : JsString) (entries : List LogEntry) : Verification :=
  entries.foldl (Verification.enter channelId) ⟨Verdicts.empty, [], false⟩

/-- The state of a mounted `MembershipLogTab`. -/
structure LogTab where
  entries : Option (List LogEntry)
  verifiedMap : Verdicts
  verifying : Option Verification

def LogTab.mounted : LogTab := ⟨none, Verdicts.empty, none⟩

/-- What happens to the tab: the answer of the server arrives, the signature check of a
row comes back, the run of `verifyAll` ends. -/
inductive LogTabEvent
  | answered
  | checked (index : Nat) (loaded : Bool)
  | verified
  deriving DecidableEq

section Tab

variable (olm : OlmLibrary) (channelId : JsString) (entries : List LogEntry)

/-- The outcome of `verifyEd25519Signature`; `false` when Olm does not load. -/
def LogEntry.outcome (entry : LogEntry) (loaded : Bool) : Bool :=
  match entry.signed? with
  | none => false
  | some (signature, key) => loaded && verifyEd25519Signature olm key entry.payload signature

def LogTab.next (tab : LogTab) : LogTabEvent → Option LogTab
  | .answered =>
      match tab.entries with
      | some _ => none
      | none =>
          some ⟨some entries, tab.verifiedMap,
            if entries.isEmpty then none else some (verifyAll channelId entries)⟩
  | .checked index loaded => do
      let run ← tab.verifying
      let entry ← run.awaiting[index]?
      some { tab with verifying := some { run with
        results := run.results.assign entry.id (entry.outcome olm loaded)
        awaiting := run.awaiting.eraseIdx index } }
  | .verified => do
      let run ← tab.verifying
      if run.awaiting.isEmpty && !run.failed then
        some { tab with verifiedMap := run.results, verifying := none }
      else none

/-- The tab of a channel whose log the server answers with the given rows. -/
def logTab : System LogTab LogTabEvent :=
  System.ofNext (fun tab => tab = LogTab.mounted) (LogTab.next olm channelId entries)

/-- The tab shows a row with the badge "Signed". -/
def LogTab.Marks (tab : LogTab) (entry : LogEntry) : Prop :=
  (∃ shown, tab.entries = some shown ∧ entry ∈ shown) ∧
    SignatureBadge entry (tab.verifiedMap.read entry.id) = .signed

end Tab

/-! ## What the devices have signed -/

/-- A device of a user, with the statements it has signed. -/
structure Device (olm : OlmLibrary) where
  userId : JsString
  account : olm.Account
  signed : List Statement

namespace Device

variable {olm : OlmLibrary}

def key (device : Device olm) : JsString :=
  (getIdentityKeys olm device.account).ed25519IdentityKey

/-- The signature of a row is one for its payload under the key of the device. -/
def Verifies (device : Device olm) (entry : LogEntry) : Prop :=
  ∃ signature, entry.signature = some signature ∧
    verifyEd25519Signature olm device.key entry.payload signature = true

/-- The row carries the signature of a device of its actor for the event it shows. -/
structure Signed (device : Device olm) (channelId : JsString) (entry : LogEntry) : Prop where
  owner : entry.actor_id = some device.userId
  verifies : device.Verifies entry
  event : ∃ targetId, (entry.target_id = none ∨ entry.target_id = some targetId) ∧
    .membershipEvent entry.id entry.created_at channelId entry.action device.userId targetId ∈
      device.signed ∧
    entry.payload = (Statement.membershipEvent entry.id entry.created_at channelId entry.action
      device.userId targetId).payload

end Device

section Devices

variable {olm : OlmLibrary} (devices : List (Device olm)) (channelId : JsString)
  (entries : List LogEntry)

/-- No signature is forged: a signature in the log that verifies under the key of a device
is one for a payload the device has signed. Of a payload with lone surrogates nothing is
assumed, since its bytes may be those of another text. -/
def Unforged : Prop :=
  ∀ device ∈ devices, ∀ entry ∈ entries, JsString.wellFormed entry.payload = true →
    device.Verifies entry → ∃ statement ∈ device.signed, statement.payload = entry.payload

/-- Whatever happens in the tab, a row with an actor that is marked as signed was signed by
a device of that actor for what the row shows. -/
def SignedSound : Prop :=
  ∀ tab, (logTab olm channelId entries).Reachable System.unguarded tab →
    ∀ entry, tab.Marks entry → entry.actor_id ≠ none →
      ∃ device ∈ devices, device.Signed channelId entry

/-- A row passes its own check. -/
def LogEntry.Passes (olm : OlmLibrary) (channelId : JsString) (entry : LogEntry) : Prop :=
  payloadMatchesEntry entry channelId = some true ∧ entry.outcome olm true = true

/-- The check of no row throws. -/
def Checkable : Prop :=
  ∀ entry ∈ entries, entry.signed? ≠ none → payloadMatchesEntry entry channelId ≠ none

/-- Some row of this id passes its own check. -/
def Passed (olm : OlmLibrary) (channelId : JsString) (entries : List LogEntry) (id : JsString) :
    Prop :=
  ∃ other ∈ entries, other.id = id ∧ other.Passes olm channelId

/-- Under the id of the row something true can be found: what every object inherits, or the
result of a row that passes its own check. -/
def LogEntry.FindsTrue (olm : OlmLibrary) (channelId : JsString) (entries : List LogEntry)
    (entry : LogEntry) : Prop :=
  entry.id ∈ inheritedNames ∨
    Checkable channelId entries ∧ Passed olm channelId entries entry.id

/-- A row would pass a check under the key of a device of its actor. -/
def LogEntry.Genuine (entry : LogEntry) : Prop :=
  payloadMatchesEntry entry channelId = some true ∧ JsString.wellFormed entry.payload = true ∧
    ∃ device ∈ devices, entry.actor_id = some device.userId ∧ device.Verifies entry

end Devices

/-! ## Payloads -/

/-- A member of a signed payload. -/
def signedText? (statement : Statement) (name : JsString) : Option JsString :=
  (statement.members.reverse.find? fun member => member.1 = name).map Prod.snd

theorem isText_members (statement : Statement) (name value : JsString) :
    isText (Json.ofStrings statement.members) name value = true ↔
      signedText? statement name = some value := by
  have read : (Json.ofStrings statement.members).get? name =
      (signedText? statement name).map .str := by
    simp only [Json.ofStrings, Json.get?, signedText?, ← List.map_reverse, List.find?_map,
      Option.map_map]
    rfl
  rw [isText, read, decide_eq_true_eq]
  cases signedText? statement name <;> rfl

theorem isNullOrText_members (statement : Statement) (name : JsString) (value : Option JsString) :
    isNullOrText (Json.ofStrings statement.members) name value = true ↔
      value = none ∨ value = signedText? statement name := by
  cases value with
  | none => simp only [isNullOrText, true_or]
  | some value =>
    rw [isNullOrText, isText_members, eq_comm]
    simp only [reduceCtorEq, false_or]

/-- Only the payload of a membership event has an `eventId`. -/
theorem exists_event_of_eventId {statement : Statement} {eventId : JsString}
    (named : signedText? statement (js "eventId") = some eventId) :
    ∃ timestamp channelId action actorId targetId,
      statement = .membershipEvent eventId timestamp channelId action actorId targetId := by
  cases statement with
  | oneTimeKey userId deviceId keyId publicKey => cases named
  | fallbackKey userId deviceId keyId publicKey => cases named
  | membershipEvent id timestamp channelId action actorId targetId =>
    cases named
    exact ⟨timestamp, channelId, action, actorId, targetId, rfl⟩

/-- A signed payload matches a row when it is the one of the membership event the row shows. -/
theorem payloadMatchesEntry_eq_true {entry : LogEntry} {channelId : JsString}
    {statement : Statement} (signs : statement.payload = entry.payload) :
    payloadMatchesEntry entry channelId = some true ↔ ∃ actorId targetId,
      statement = .membershipEvent entry.id entry.created_at channelId entry.action actorId
        targetId ∧ (entry.actor_id = none ∨ entry.actor_id = some actorId) ∧
        (entry.target_id = none ∨ entry.target_id = some targetId) := by
  have parsed : Json.parse entry.payload = some (Json.ofStrings statement.members) := by
    rw [← signs, statement.payload_eq, Json.stringifyObject_eq,
      Json.parse_stringify (Json.printable_ofStrings _)]
  have compared : payloadMatchesEntry entry channelId = some true ↔
      ((((signedText? statement (js "eventId") = some entry.id ∧
        signedText? statement (js "timestamp") = some entry.created_at) ∧
        signedText? statement (js "channelId") = some channelId) ∧
        signedText? statement (js "action") = some entry.action) ∧
        (entry.actor_id = none ∨ entry.actor_id = signedText? statement (js "actorId"))) ∧
        (entry.target_id = none ∨ entry.target_id = signedText? statement (js "targetId")) := by
    simp only [← isText_members, ← isNullOrText_members, ← Bool.and_eq_true]
    rw [payloadMatchesEntry, parsed]
    exact Option.some_inj
  rw [compared]
  constructor
  · rintro ⟨⟨⟨⟨⟨named, timed⟩, placed⟩, acted⟩, actor⟩, target⟩
    obtain ⟨timestamp, channel, action, actorId, targetId, rfl⟩ := exists_event_of_eventId named
    cases timed
    cases placed
    cases acted
    exact ⟨actorId, targetId, rfl, actor, target⟩
  · rintro ⟨actorId, targetId, rfl, actor, target⟩
    exact ⟨⟨⟨⟨⟨rfl, rfl⟩, rfl⟩, rfl⟩, actor⟩, target⟩

section Devices

variable {olm : OlmLibrary} {devices : List (Device olm)} {channelId : JsString}
  {entries : List LogEntry} {entry : LogEntry}

/-- A row a device of its actor signed for what it shows is genuine. -/
theorem Device.Signed.genuine {device : Device olm} (member : device ∈ devices)
    (signed : device.Signed channelId entry) : entry.Genuine devices channelId := by
  obtain ⟨targetId, target, -, payload⟩ := signed.event
  refine ⟨?_, ?_, device, member, signed.owner, signed.verifies⟩
  · rw [payloadMatchesEntry_eq_true payload.symm]
    exact ⟨device.userId, targetId, rfl, .inr signed.owner, target⟩
  · rw [payload, Statement.payload_eq]
    exact Json.wellFormed_stringifyObject _

/-- A genuine row was signed by a device of its actor for what it shows, unless its
signature is forged. -/
theorem LogEntry.Genuine.signed (unforged : Unforged devices entries) (listed : entry ∈ entries)
    (genuine : entry.Genuine devices channelId) :
    ∃ device ∈ devices, device.Signed channelId entry := by
  obtain ⟨matching, wellFormed, device, member, owner, verifies⟩ := genuine
  obtain ⟨statement, signed, payload⟩ := unforged device member entry listed wellFormed verifies
  obtain ⟨actorId, targetId, rfl, actor, target⟩ :=
    (payloadMatchesEntry_eq_true payload).mp matching
  have same : actorId = device.userId := by
    rcases actor with absent | named
    · rw [absent] at owner
      cases owner
    · exact Option.some.inj (named.symm.trans owner)
  subst same
  exact ⟨device, member, owner, verifies, targetId, target, signed, payload.symm⟩

end Devices

/-! ## The check of all rows -/

theorem Verdicts.assign_eq_some {verdicts : Verdicts} {id name : JsString} {verdict found : Bool}
    (read : verdicts.assign id verdict name = some found) :
    verdicts name = some found ∨ id = name ∧ verdict = found := by
  unfold Verdicts.assign at read
  split at read
  · exact .inl read
  · by_cases same : name = id
    · subst same
      rw [Function.update_self] at read
      exact .inr ⟨rfl, Option.some.inj read⟩
    · rw [Function.update_of_ne same] at read
      exact .inl read

theorem Verdicts.assign_self {verdicts : Verdicts} {id : JsString} {verdict : Bool}
    (own : id ≠ js "__proto__") : verdicts.assign id verdict id = some verdict := by
  rw [Verdicts.assign, if_neg own, Function.update_self]

section VerifyAll

variable {channelId : JsString} {run : Verification} {entry other : LogEntry}

/-- The row is checked with its key once its payload matches. -/
def LogEntry.Awaits (channelId : JsString) (entry : LogEntry) : Prop :=
  entry.signed? ≠ none ∧ payloadMatchesEntry entry channelId = some true

theorem mem_enter : other ∈ (run.enter channelId entry).awaiting ↔
    other ∈ run.awaiting ∨ other = entry ∧ entry.Awaits channelId := by
  unfold Verification.enter LogEntry.Awaits
  cases entry.signed? with
  | none => simp
  | some signed =>
    rcases payloadMatchesEntry entry channelId with _ | _ | _ <;> simp

theorem failed_enter : (run.enter channelId entry).failed = false ↔
    run.failed = false ∧ (entry.signed? ≠ none → payloadMatchesEntry entry channelId ≠ none) := by
  unfold Verification.enter
  cases entry.signed? with
  | none => simp
  | some signed =>
    rcases payloadMatchesEntry entry channelId with _ | _ | _ <;> simp

theorem results_enter {id : JsString}
    (positive : (run.enter channelId entry).results id = some true) :
    run.results id = some true := by
  unfold Verification.enter at positive
  split at positive
  · exact positive
  · split at positive
    · exact positive
    · rcases Verdicts.assign_eq_some positive with before | ⟨_, equal⟩
      · exact before
      · cases equal
    · exact positive

variable {entries : List LogEntry}

theorem mem_awaiting : other ∈ (verifyAll channelId entries).awaiting ↔
    other ∈ entries ∧ other.Awaits channelId := by
  have walk : ∀ (entries : List LogEntry) (run : Verification),
      other ∈ (entries.foldl (Verification.enter channelId) run).awaiting ↔
        other ∈ run.awaiting ∨ other ∈ entries ∧ other.Awaits channelId := by
    intro entries
    induction entries with
    | nil => simp
    | cons entry entries ih =>
      intro run
      rw [List.foldl_cons, ih, mem_enter, List.mem_cons]
      constructor
      · rintro ((before | ⟨rfl, awaits⟩) | ⟨listed, awaits⟩)
        · exact .inl before
        · exact .inr ⟨.inl rfl, awaits⟩
        · exact .inr ⟨.inr listed, awaits⟩
      · rintro (before | ⟨rfl | listed, awaits⟩)
        · exact .inl (.inl before)
        · exact .inl (.inr ⟨rfl, awaits⟩)
        · exact .inr ⟨listed, awaits⟩
  rw [verifyAll, walk]
  simp

theorem failed_verifyAll :
    (verifyAll channelId entries).failed = false ↔ Checkable channelId entries := by
  have walk : ∀ (entries : List LogEntry) (run : Verification),
      (entries.foldl (Verification.enter channelId) run).failed = false ↔
        run.failed = false ∧ Checkable channelId entries := by
    intro entries
    induction entries with
    | nil => simp [Checkable]
    | cons entry entries ih =>
      intro run
      rw [List.foldl_cons, ih, failed_enter, Checkable, Checkable, List.forall_mem_cons, and_assoc]
  rw [verifyAll, walk]
  simp

theorem results_verifyAll (id : JsString) :
    (verifyAll channelId entries).results id ≠ some true := by
  have walk : ∀ (entries : List LogEntry) (run : Verification),
      (entries.foldl (Verification.enter channelId) run).results id = some true →
        run.results id = some true := by
    intro entries
    induction entries with
    | nil => exact fun _ positive => positive
    | cons entry entries ih => exact fun run positive => results_enter (ih _ positive)
  intro positive
  cases walk entries _ positive

end VerifyAll

/-! ## Marks -/

section Marks

variable {olm : OlmLibrary} {channelId : JsString} {entries : List LogEntry}

theorem LogEntry.outcome_true {entry : LogEntry} {loaded : Bool}
    (positive : entry.outcome olm loaded = true) : entry.outcome olm true = true := by
  unfold LogEntry.outcome at positive ⊢
  split at positive
  · cases positive
  · rw [Bool.and_eq_true] at positive
    rw [Bool.true_and]
    exact positive.2

/-- What is known in every state: the tab shows the rows of the answer, and a positive result
is that of a row with this id. -/
structure LogTab.Checked (olm : OlmLibrary) (channelId : JsString) (entries : List LogEntry)
    (tab : LogTab) : Prop where
  shown : ∀ shown, tab.entries = some shown → shown = entries
  published : ∀ id, tab.verifiedMap id = some true →
    Checkable channelId entries ∧ Passed olm channelId entries id
  running : ∀ run, tab.verifying = some run →
    (run.failed = false → Checkable channelId entries) ∧
      (∀ id, run.results id = some true → Passed olm channelId entries id) ∧
      ∀ entry ∈ run.awaiting, entry ∈ entries ∧ entry.Awaits channelId

theorem LogTab.Checked.next {before after : LogTab} {event : LogTabEvent}
    (checked : before.Checked olm channelId entries)
    (moved : before.next olm channelId entries event = some after) :
    after.Checked olm channelId entries := by
  cases event with
  | answered =>
    simp only [LogTab.next] at moved
    split at moved
    · cases moved
    · cases moved
      refine ⟨fun shown same => (Option.some.inj same).symm, checked.published, ?_⟩
      intro run started
      split at started
      · cases started
      · cases started
        exact ⟨failed_verifyAll.mp, fun id positive => absurd positive (results_verifyAll id),
          fun entry member => mem_awaiting.mp member⟩
  | checked index loaded =>
    obtain ⟨run, running, moved⟩ := Option.bind_eq_some_iff.mp moved
    obtain ⟨entry, here, moved⟩ := Option.bind_eq_some_iff.mp moved
    cases moved
    obtain ⟨checkable, results, awaiting⟩ := checked.running run running
    refine ⟨checked.shown, checked.published, ?_⟩
    rintro _ ⟨⟩
    refine ⟨checkable, ?_, fun other member => awaiting other (List.mem_of_mem_eraseIdx member)⟩
    intro id positive
    rcases Verdicts.assign_eq_some positive with earlier | ⟨rfl, passes⟩
    · exact results id earlier
    · obtain ⟨listed, -, matching⟩ := awaiting entry (List.mem_of_getElem? here)
      exact ⟨entry, listed, rfl, matching, LogEntry.outcome_true passes⟩
  | verified =>
    obtain ⟨run, running, moved⟩ := Option.bind_eq_some_iff.mp moved
    obtain ⟨checkable, results, -⟩ := checked.running run running
    split at moved
    · rename_i ended
      rw [Bool.and_eq_true, Bool.not_eq_true'] at ended
      cases moved
      refine ⟨checked.shown, fun id positive => ⟨checkable ended.2, results id positive⟩, ?_⟩
      rintro _ ⟨⟩
    · cases moved

theorem LogTab.checked_of_reachable {tab : LogTab}
    (reached : (logTab olm channelId entries).Reachable System.unguarded tab) :
    tab.Checked olm channelId entries := by
  apply reached.invariant
  · rintro _ rfl
    exact ⟨nofun, nofun, nofun⟩
  · intro before event after _ checked _ moved
    exact checked.next moved

theorem Verdicts.read_eq_true {verdicts : Verdicts} {id : JsString} :
    verdicts.read id = some true ↔
      verdicts id = some true ∨ verdicts id = none ∧ id ∈ inheritedNames := by
  unfold Verdicts.read
  cases found : verdicts id with
  | none => by_cases inherited : id ∈ inheritedNames <;> simp [inherited]
  | some verdict => simp

theorem signatureBadge_eq_signed {entry : LogEntry} {verified : Option Bool} :
    SignatureBadge entry verified = .signed ↔ entry.signed? ≠ none ∧ verified = some true := by
  unfold SignatureBadge
  cases entry.signed? with
  | none => simp
  | some signed => rcases verified with _ | _ | _ <;> simp

/-- Only rows of the answer that bring a signature and find something true under their id
are marked. -/
theorem LogTab.Marks.finds {tab : LogTab} {entry : LogEntry}
    (reached : (logTab olm channelId entries).Reachable System.unguarded tab)
    (marks : tab.Marks entry) :
    entry ∈ entries ∧ entry.signed? ≠ none ∧ entry.FindsTrue olm channelId entries := by
  have checked := LogTab.checked_of_reachable reached
  obtain ⟨⟨shown, same, listed⟩, badge⟩ := marks
  obtain ⟨signed, positive⟩ := signatureBadge_eq_signed.mp badge
  cases checked.shown shown same
  refine ⟨listed, signed, ?_⟩
  rcases Verdicts.read_eq_true.mp positive with own | ⟨-, inherited⟩
  · exact .inr (checked.published entry.id own)
  · exact .inl inherited

/-- The tab while it waits for the checks of some rows. -/
def LogTab.waiting (entries : List LogEntry) (results : Verdicts) (awaiting : List LogEntry) :
    LogTab :=
  ⟨some entries, Verdicts.empty, some ⟨results, awaiting, false⟩⟩

theorem reachable_next {before after : LogTab} (event : LogTabEvent)
    (reached : (logTab olm channelId entries).Reachable System.unguarded before)
    (moved : before.next olm channelId entries event = some after) :
    (logTab olm channelId entries).Reachable System.unguarded after :=
  .step reached trivial moved

theorem reachable_checked {results : Verdicts} {awaiting : List LogEntry} {entry : LogEntry}
    (index : Nat) (here : awaiting[index]? = some entry)
    (reached : (logTab olm channelId entries).Reachable System.unguarded
      (.waiting entries results awaiting)) :
    (logTab olm channelId entries).Reachable System.unguarded
      (.waiting entries (results.assign entry.id (entry.outcome olm true))
        (awaiting.eraseIdx index)) := by
  apply reachable_next (.checked index true) reached
  simp only [LogTab.next, LogTab.waiting, Option.bind_eq_bind, Option.bind_some, here]

/-- The checks may come back in any order, so that of any row may be the last one. -/
theorem reachable_last {entry : LogEntry} {others : List LogEntry} {results : Verdicts}
    (reached : (logTab olm channelId entries).Reachable System.unguarded
      (.waiting entries results (entry :: others))) :
    ∃ last, (logTab olm channelId entries).Reachable System.unguarded
      (.waiting entries last [entry]) := by
  induction others generalizing results with
  | nil => exact ⟨results, reached⟩
  | cons other others ih => exact ih (reachable_checked 1 rfl reached)

theorem reachable_of_mem {entry : LogEntry} {awaiting : List LogEntry} {results : Verdicts}
    (member : entry ∈ awaiting) (reached : (logTab olm channelId entries).Reachable System.unguarded
      (.waiting entries results awaiting)) :
    ∃ last, (logTab olm channelId entries).Reachable System.unguarded
      (.waiting entries last [entry]) := by
  induction awaiting generalizing results with
  | nil => cases member
  | cons first rest ih =>
    rcases List.mem_cons.mp member with rfl | later
    · exact reachable_last reached
    · exact ih later (reachable_checked 0 rfl reached)

theorem reachable_answered (filled : entries ≠ []) :
    (logTab olm channelId entries).Reachable System.unguarded
      ⟨some entries, Verdicts.empty, some (verifyAll channelId entries)⟩ := by
  apply reachable_next .answered (.initial rfl)
  simp only [LogTab.next, LogTab.mounted, List.isEmpty_iff, filled, if_false]

/-- Every row of the answer that brings a signature and finds something true under its id is
marked in some state. -/
theorem exists_marks {entry : LogEntry} (listed : entry ∈ entries) (signed : entry.signed? ≠ none)
    (finds : entry.FindsTrue olm channelId entries) :
    ∃ tab, (logTab olm channelId entries).Reachable System.unguarded tab ∧ tab.Marks entry := by
  have answered : (logTab olm channelId entries).Reachable System.unguarded _ :=
    reachable_answered (List.ne_nil_of_mem listed)
  by_cases inherited : entry.id ∈ inheritedNames
  · -- Already the empty map has something true under this id.
    refine ⟨_, answered, ⟨entries, rfl, listed⟩, ?_⟩
    exact signatureBadge_eq_signed.mpr ⟨signed, Verdicts.read_eq_true.mpr (.inr ⟨rfl, inherited⟩)⟩
  · obtain ⟨checkable, other, present, same, matching, passes⟩ := finds.resolve_left inherited
    have own : other.id ≠ js "__proto__" := by
      rintro equal
      rw [← same, equal] at inherited
      exact inherited (by decide)
    have awaits : other ∈ (verifyAll channelId entries).awaiting := by
      refine mem_awaiting.mpr ⟨present, ?_, matching⟩
      intro unsigned
      rw [LogEntry.outcome, unsigned] at passes
      cases passes
    have start : (logTab olm channelId entries).Reachable System.unguarded
        (.waiting entries (verifyAll channelId entries).results
          (verifyAll channelId entries).awaiting) := by
      rw [LogTab.waiting, ← failed_verifyAll.mpr checkable]
      exact answered
    obtain ⟨results, last⟩ := reachable_of_mem awaits start
    have published := reachable_next .verified (reachable_checked 0 rfl last) rfl
    refine ⟨_, published, ⟨entries, rfl, listed⟩, ?_⟩
    refine signatureBadge_eq_signed.mpr ⟨signed, Verdicts.read_eq_true.mpr (.inl ?_)⟩
    show results.assign other.id (other.outcome olm true) entry.id = some true
    rw [← same, Verdicts.assign_self own, passes]

end Marks

namespace SampleLog

def event (targetId : JsString) : Statement :=
  .membershipEvent (js "event") (js "today") (js "group") (js "member_added") (js "alice") targetId

/-- A device of Alice's that has added Bob. -/
def phone : Device spelledOut := ⟨js "alice", sampleAccount, [event (js "bob")]⟩

/-- An account of the server's own. -/
def server : spelledOut.Account := (⟨2, 0, [], [], none⟩ : Symbolic.Account)

/-- The row of an event with a signature made by an account. -/
def row (account : spelledOut.Account) (targetId : JsString) : LogEntry where
  id := js "event"
  action := js "member_added"
  actor_id := some (js "alice")
  target_id := some targetId
  actor_ed25519_key := some (getIdentityKeys spelledOut account).ed25519IdentityKey
  payload := (event targetId).payload
  signature := some (signPayload spelledOut account (event targetId).payload)
  created_at := js "today"

section

variable (account : spelledOut.Account)

include account

theorem row_matches (targetId : JsString) :
    payloadMatchesEntry (row account targetId) (js "group") = some true :=
  (payloadMatchesEntry_eq_true rfl).mpr ⟨js "alice", targetId, rfl, .inr rfl, .inr rfl⟩

theorem row_signed (targetId : JsString)
    (named : (getIdentityKeys spelledOut account).ed25519IdentityKey ≠ []) :
    (row account targetId).signed? = some (signPayload spelledOut account (event targetId).payload,
        (getIdentityKeys spelledOut account).ed25519IdentityKey) := by
  have filled : signPayload spelledOut account (event targetId).payload ≠ [] :=
    fun empty => named (List.append_eq_nil_iff.mp empty).1
  simp only [LogEntry.signed?, row, filled, named, or_self, if_false]

theorem row_passes (targetId : JsString)
    (named : (getIdentityKeys spelledOut account).ed25519IdentityKey ≠ []) :
    (row account targetId).Passes spelledOut (js "group") := by
  refine ⟨row_matches account targetId, ?_⟩
  rw [LogEntry.outcome, row_signed account targetId named]
  exact spelledOut_verifies account _

theorem row_finds (targetId : JsString)
    (named : (getIdentityKeys spelledOut account).ed25519IdentityKey ≠ []) :
    (row account targetId).FindsTrue spelledOut (js "group") [row account targetId] := by
  refine .inr ⟨?_, _, List.mem_singleton_self _, rfl, row_passes account targetId named⟩
  intro entry member _
  rw [List.mem_singleton.mp member, row_matches]
  exact Option.some_ne_none _

end

theorem phone_unforged : Unforged [phone] [row sampleAccount (js "bob")] := by
  intro device member entry listed _ _
  cases List.mem_singleton.mp member
  cases List.mem_singleton.mp listed
  exact ⟨event (js "bob"), List.mem_singleton_self _, rfl⟩

/-- The server signs with a key of its own, under which the phone's does not verify. -/
theorem server_unforged : Unforged [phone] [row server (js "mallory")] := by
  intro device member entry listed _ verifies
  cases List.mem_singleton.mp member
  cases List.mem_singleton.mp listed
  obtain ⟨signature, carried, verified⟩ := verifies
  cases Option.some.inj carried
  have same : signPayload spelledOut server (event (js "mallory")).payload =
      phone.key ++ (event (js "mallory")).payload := of_decide_eq_true verified
  have keys : (getIdentityKeys spelledOut server).ed25519IdentityKey = phone.key :=
    (List.append_left_inj _).mp same
  exact absurd keys (by decide)

end SampleLog

end Vortex.Web
