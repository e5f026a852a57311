import Vortex.Channels.MembershipLog

/-!
# What an encrypted channel stores

The content of a message is written when it is sent and when it is edited. Sending to an
encrypted channel demands an envelope; editing demands a text that is not blank. So the
rows of an Olm channel hold nothing but envelopes as long as nobody edits one into
something else.
-/

namespace Vortex.Channels

open Foundation
open Vortex.Gateway (ChannelInfo checkContent_ok checkEncryption isValidDmOlmEnvelope post
  storeMessage_cases stored_of_post)

/-- A text that parses to an Olm envelope. -/
def IsEnvelope (content : JsString) : Prop :=
  ∃ parsed, Json.parse content = some parsed ∧ isValidDmOlmEnvelope parsed = true

instance (content : JsString) : Decidable (IsEnvelope content) :=
  decidable_of_iff ((Json.parse content).any isValidDmOlmEnvelope = true) (by
    rw [Option.any_eq_true]
    exact Iff.rfl)

def DmChannel.IsOlm (channel : DmChannel) : Prop :=
  channel.info.isEncrypted = true ∧ channel.info.encryptionScheme = js "olm"

instance (channel : DmChannel) : Decidable channel.IsOlm := inferInstanceAs (Decidable (_ ∧ _))

/-- The content of every message of an encrypted channel is null or an envelope. -/
def Database.Sealed (database : Database) : Prop :=
  ∀ channel ∈ database.channels.rows, channel.IsOlm → ∀ message ∈ database.messages.rows,
    message.dmChannelId = some channel.id → ∀ content, message.content = some content →
      IsEnvelope content

/-- An edit that comes to the update of a message of an encrypted channel writes an
envelope. -/
def Ciphered (request : DmRequest) (database : Database) : Prop :=
  match request.route with
  | .editMessage messageId body =>
      request.surroundings.limited = false → request.surroundings.fails .updateMessage = false →
        ∀ content, editedContent body = some content →
          ∀ channel ∈ database.channels.rows, channel.id = request.channelId → channel.IsOlm →
            ∀ message ∈ database.messages.rows, request.sent messageId message = true →
              IsEnvelope content
  | _ => True

/-- The requests that send, edit and delete messages. -/
def DmRequest.OfMessages (request : DmRequest) : Prop :=
  match request.route with
  | .sendMessage _ | .editMessage _ _ | .deleteMessage _ => True
  | _ => False

/-! ## One request -/

section

variable {request : DmRequest} {database : Database}

/-- What an encrypted channel lets in. -/
theorem envelope_of_checkEncryption {channel : DmChannel} {content : JsString}
    (checked : checkEncryption channel.info content = .ok ()) (olm : channel.IsOlm) :
    IsEnvelope content := by
  obtain ⟨encrypted, scheme⟩ := olm
  unfold checkEncryption at checked
  rw [encrypted, scheme] at checked
  simp only [Bool.not_true, Bool.false_eq_true, ↓reduceIte] at checked
  split at checked
  · cases checked
  · rename_i parsed found
    split at checked
    · rename_i valid
      exact ⟨parsed, found, valid⟩
    · cases checked

theorem sealed_sendMessage (kept : database.Sealed) (body : Option Json) :
    (sendMessage request body database).database.Sealed := by
  intro channel listed olm message member here content text
  unfold sendMessage at listed member
  dsimp only at listed member
  split at member
  · rename_i nothing
    rw [nothing] at listed
    exact kept channel listed olm message member here content text
  · rename_i stored outcome
    rw [outcome] at listed
    rcases Table.mem_insertIgnore.mp member with member | ⟨rfl, -⟩
    · exact kept channel listed olm message member here content text
    · obtain ⟨rest, outcome⟩ := stored_of_post outcome
      obtain ⟨user, body', checked, shown, row, -, -, accepted, -, -, rfl⟩ :=
        storeMessage_cases outcome
      obtain ⟨info, loaded, passed⟩ := checkContent_ok accepted
      have same : request.channelId = channel.id := Option.some.inj here
      have found : database.channels.find? request.channelId = some channel :=
        Table.find?_eq_some.mpr ⟨listed, same.symm⟩
      unfold messageEnvironment at loaded
      dsimp only at loaded
      rw [found] at loaded
      split at loaded
      · cases loaded
      · cases loaded
        cases text
        exact envelope_of_checkEncryption passed olm

/-- The messages after an update are those before, changed where the user has sent them. -/
theorem sealed_updateSent_iff (kept : database.Sealed) {messageId missing : JsString}
    {change : DirectMessage → DirectMessage} {keeps : ∀ row, (change row).id = row.id}
    {found : DirectMessage → HttpResponse}
    (inside : ∀ row, (change row).dmChannelId = row.dmChannelId) :
    (updateSent request messageId change keeps found missing database).database.Sealed ↔
      ∀ channel ∈ database.channels.rows, channel.id = request.channelId → channel.IsOlm →
        ∀ message ∈ database.messages.rows, request.sent messageId message = true →
          ∀ content, (change message).content = some content → IsEnvelope content := by
  unfold updateSent
  split
  · rename_i absent
    refine iff_of_true kept fun channel _ _ _ message member sent => ?_
    exact absurd sent (List.find?_eq_none.mp absent message member)
  · constructor
    · intro after channel listed named olm message member sent
      have changed : change message ∈
          (database.messages.updateWhere (request.sent messageId) change keeps).rows :=
        Table.mem_updateWhere.mpr ⟨message, member, if_pos sent⟩
      refine after channel listed olm (change message) changed ?_
      rw [inside, named]
      simp only [DmRequest.sent, Bool.and_eq_true, decide_eq_true_eq] at sent
      exact sent.2
    · intro right channel listed olm message member here content text
      obtain ⟨stored, present, rfl⟩ := List.mem_map.mp member
      split at here
      · rename_i sent
        rw [if_pos sent] at text
        rw [inside] at here
        have named : channel.id = request.channelId := by
          have place := sent
          simp only [DmRequest.sent, Bool.and_eq_true, decide_eq_true_eq] at place
          exact Option.some.inj (here.symm.trans place.2)
        exact right channel listed named olm stored present sent content text
      · rename_i other
        rw [if_neg other] at text
        exact kept channel listed olm stored present here content text

theorem sealed_serve_iff (ofMessages : request.OfMessages) (kept : database.Sealed) :
    (serve request database).database.Sealed ↔ Ciphered request database := by
  unfold serve Ciphered
  unfold DmRequest.OfMessages at ofMessages
  cases route : request.route with
  | sendMessage body => exact iff_true_intro (sealed_sendMessage kept body)
  | deleteMessage messageId =>
    refine iff_true_intro ?_
    dsimp only
    unfold deleteMessage
    split
    · exact kept
    · split
      · exact kept
      · refine (sealed_updateSent_iff kept ?_).mpr ?_
        · exact fun _ => rfl
        · rintro _ _ _ _ _ _ _ content ⟨⟩
  | editMessage messageId body =>
    dsimp only
    unfold editMessage
    split
    · rename_i limited
      exact iff_of_true kept fun unlimited =>
        Bool.noConfusion (limited.symm.trans unlimited)
    rename_i unlimited
    rw [Bool.not_eq_true] at unlimited
    cases body with
    | none =>
      refine iff_of_true kept ?_
      rintro _ _ content ⟨⟩
    | some body =>
      rw [if_neg (by simp)]
      cases edited : editedContent (some body) with
      | none =>
        refine iff_of_true kept ?_
        rintro _ _ content ⟨⟩
      | some content =>
        dsimp only
        split
        · rename_i fails
          exact iff_of_true kept fun _ succeeds =>
            Bool.noConfusion (fails.symm.trans succeeds)
        rename_i succeeds
        rw [Bool.not_eq_true] at succeeds
        refine (sealed_updateSent_iff kept ?_).trans ?_
        · exact fun _ => rfl
        · simp only [unlimited, succeeds, Option.some.injEq, forall_eq', true_implies]
  | _ => rw [route] at ofMessages; exact ofMessages.elim

end

/-! ## Sequences of requests -/

/-- After every sequence of sent, edited and deleted messages an encrypted channel holds
only envelopes, as it did before, if and only if each edit of its messages writes one. -/
theorem sealed_iff {database : Database} {requests : List DmRequest} (kept : database.Sealed)
    (ofMessages : ∀ request ∈ requests, request.OfMessages) :
    Throughout (fun request before => (serve request before).database.Sealed) database requests ↔
      Throughout Ciphered database requests :=
  throughout_iff kept fun request member _ sealed => sealed_serve_iff (ofMessages request member) sealed

namespace Sample

def envelope : JsString :=
  js "\x7b\"kind\":\"dm-olm\",\"v\":1,\"senderDeviceId\":\"d\",\"ciphertexts\":\x7b\"bob:d\":\x7b\"type\":0,\"body\":\"x\"\x7d\x7d\x7d"

/-- An encrypted group with an envelope that Bob has sent. -/
def encrypted : Database :=
  { database with
    channels := ⟨[⟨channel, some (js "alice"), true, ⟨true, 1, js "olm"⟩⟩], by decide⟩
    messages :=
      ⟨[⟨js "m", js "bob", some envelope, none, none, some channel, .null⟩], by decide⟩ }

def unsending : DmRequest := asks (js "bob") (.deleteMessage (js "m"))

theorem encrypted_sealed : encrypted.Sealed := by
  intro channel listed olm message member here content text
  obtain rfl := List.mem_singleton.mp member
  cases text
  decide +kernel

end Sample

/-- Bob deletes his message, and the channel holds only envelopes. -/
theorem unsending_sealed : Throughout
    (fun request before => (serve request before).database.Sealed) Sample.encrypted
    [Sample.unsending] := by
  refine (sealed_iff Sample.encrypted_sealed ?_).mpr ?_
  · intro request member
    rw [List.mem_singleton.mp member]
    trivial
  · intro earlier request later split
    have member : request ∈ [Sample.unsending] :=
      split ▸ List.mem_append_right _ List.mem_cons_self
    rw [List.mem_singleton.mp member]
    trivial

/-- Bob edits his message of the encrypted group into a plain text. -/
theorem editing_unseals : Sample.encrypted.Sealed ∧ ¬ Throughout
    (fun request before => (serve request before).database.Sealed) Sample.encrypted
    [Sample.editing] := by
  refine ⟨Sample.encrypted_sealed, fun sealed => ?_⟩
  have plain := sealed [] Sample.editing [] rfl ⟨Sample.channel, some (js "alice"), true,
    ⟨true, 1, js "olm"⟩⟩ List.mem_cons_self ⟨rfl, rfl⟩
    ⟨js "m", js "bob", some (js "ho"), some Sample.surroundings.nowIso, none, some Sample.channel,
      .null⟩ ?_ rfl (js "ho") rfl
  · exact absurd plain (by decide +kernel)
  · exact List.mem_cons_self

end Vortex.Channels
