import Mathlib.Data.List.Basic

/-!
# Links between parties

Messages in flight between parties. A link leads from a sender to a receiver; it loses
nothing and keeps the order of its sender, and the messages of different links overtake
each other freely. A party that stops listening loses what is on its way to it.
-/

namespace Foundation

open List

/-- A message on its way. -/
structure Envelope (Party Message : Type) where
  sender : Party
  receiver : Party
  message : Message

/-- The messages in flight, those of each link oldest first. -/
structure Links (Party Message : Type) where
  inFlight : List (Envelope Party Message)

namespace Links

variable {Party Message : Type} [DecidableEq Party]

/-- Links with nothing in flight. -/
def idle : Links Party Message := ⟨[]⟩

/-- Whether an envelope is on a link. -/
def onLink (sender receiver : Party) (envelope : Envelope Party Message) : Bool :=
  envelope.sender = sender && envelope.receiver = receiver

/-- The messages of one link, oldest first. -/
def queue (links : Links Party Message) (sender receiver : Party) : List Message :=
  (links.inFlight.filter (onLink sender receiver)).map Envelope.message

/-- Send messages to each of some receivers. -/
def post (links : Links Party Message) (sender : Party) (receivers : List Party)
    (messages : List Message) : Links Party Message :=
  ⟨links.inFlight ++ receivers.flatMap fun receiver => messages.map (⟨sender, receiver, ·⟩)⟩

/-- The oldest message of a link, and what is left in flight without it. -/
def take? (links : Links Party Message) (sender receiver : Party) :
    Option (Message × Links Party Message) :=
  match links.inFlight.find? (onLink sender receiver) with
  | some envelope =>
      some (envelope.message, ⟨links.inFlight.eraseP (onLink sender receiver)⟩)
  | none => none

/-- Lose what is on its way to a party. -/
def silence (links : Links Party Message) (receiver : Party) : Links Party Message :=
  ⟨links.inFlight.filter fun envelope => envelope.receiver ≠ receiver⟩

/-- Nothing is in flight. -/
def Quiet (links : Links Party Message) : Prop := links.inFlight = []

theorem Quiet.queue {links : Links Party Message} (quiet : links.Quiet) (sender receiver : Party) :
    links.queue sender receiver = [] := by
  simp only [Links.queue, show links.inFlight = [] from quiet, filter_nil, map_nil]

/-- What is posted to one receiver is at the end of the link to it. -/
theorem filter_posted (sender source target : Party) (receivers : List Party)
    (messages : List Message) (nodup : receivers.Nodup) :
    ((receivers.flatMap fun receiver => messages.map (Envelope.mk sender receiver ·)).filter
        (onLink source target)).map Envelope.message =
      if source = sender ∧ target ∈ receivers then messages else [] := by
  have single (receiver : Party) :
      ((messages.map (Envelope.mk sender receiver ·)).filter (onLink source target)).map
          Envelope.message = if source = sender ∧ target = receiver then messages else [] := by
    by_cases same : source = sender ∧ target = receiver
    · obtain ⟨rfl, rfl⟩ := same
      have all : (messages.map (Envelope.mk source target ·)).filter (onLink source target) =
          messages.map (Envelope.mk source target ·) :=
        filter_eq_self.mpr (by simp [onLink])
      rw [all, map_map, if_pos ⟨rfl, rfl⟩]
      exact map_id messages
    · rw [if_neg same, filter_eq_nil_iff.mpr]
      · rfl
      · simp only [mem_map, onLink, Bool.and_eq_true, decide_eq_true_eq]
        rintro _ ⟨message, -, rfl⟩ ⟨rfl, rfl⟩
        exact same ⟨rfl, rfl⟩
  induction receivers with
  | nil => simp
  | cons receiver rest ih =>
    obtain ⟨fresh, nodup⟩ := nodup_cons.mp nodup
    rw [flatMap_cons, filter_append, map_append, single, ih nodup]
    by_cases same : target = receiver
    · subst same
      simp [fresh]
    · simp [same]

theorem queue_post (links : Links Party Message) (sender source target : Party)
    {receivers : List Party} (messages : List Message) (nodup : receivers.Nodup) :
    (links.post sender receivers messages).queue source target = links.queue source target ++
        if source = sender ∧ target ∈ receivers then messages else [] := by
  rw [queue, post, filter_append, map_append,
    filter_posted sender source target receivers messages nodup]
  rfl

/-- Taking removes the head of its own link, and nothing of any other. -/
theorem take?_eq_some {links after : Links Party Message} {sender receiver : Party}
    {message : Message} (taken : links.take? sender receiver = some (message, after)) :
    links.queue sender receiver = message :: after.queue sender receiver ∧
      ∀ source target, (source ≠ sender ∨ target ≠ receiver) →
        after.queue source target = links.queue source target := by
  obtain ⟨inFlight⟩ := links
  unfold take? at taken
  dsimp only at taken
  split at taken
  · rename_i envelope found
    obtain ⟨rfl, rfl⟩ := Prod.mk.inj (Option.some.inj taken)
    obtain ⟨matched, before, behind, rfl, others⟩ := find?_eq_some_iff_append.mp found
    have others : ∀ other ∈ before, ¬ onLink sender receiver other = true := by
      simpa using others
    have erased : (before ++ envelope :: behind).eraseP (onLink sender receiver) =
        before ++ behind := by
      rw [eraseP_append_right _ (by simpa using others), eraseP_cons_of_pos matched]
    rw [erased]
    constructor
    · simp only [queue, filter_append, filter_eq_nil_iff.mpr others, nil_append,
        filter_cons_of_pos matched, map_cons]
    · intro source target different
      have unmatched : ¬ onLink source target envelope = true := by
        intro also
        simp only [onLink, Bool.and_eq_true, decide_eq_true_eq] at matched also
        obtain ⟨rfl, rfl⟩ := matched
        obtain ⟨rfl, rfl⟩ := also
        simp at different
      simp only [queue, filter_append, filter_cons_of_neg unmatched]
  · cases taken

theorem queue_silence_self (links : Links Party Message) (sender receiver : Party) :
    (links.silence receiver).queue sender receiver = [] := by
  rw [queue, silence, filter_filter, filter_eq_nil_iff.mpr, map_nil]
  simp only [onLink, Bool.and_eq_true, decide_eq_true_eq, not_and, and_imp]
  rintro envelope - - rfl
  simp

theorem queue_silence_of_ne (links : Links Party Message) (sender : Party) {receiver target : Party}
    (different : target ≠ receiver) :
    (links.silence receiver).queue sender target = links.queue sender target := by
  rw [queue, silence, filter_filter, queue]
  congr 1
  apply filter_congr
  intro envelope _
  by_cases same : envelope.receiver = target
  · simp [onLink, same, different]
  · simp [onLink, same]

end Links

end Foundation
