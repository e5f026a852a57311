import Mathlib.Data.List.Basic

/-!
# Logs of writes to flags

A store of flags is written to by a log of writes, each of which raises or lowers one
flag. An observer passes the writes at its own pace. Who has passed all writes to a flag,
those in the order of the log, has passed the last one at the end.
-/

variable {number : Nat}

namespace Foundation

/-- A write of one flag. -/
structure Write (Key : Type) where
  key : Key
  raised : Bool
  deriving DecidableEq

namespace Write

variable {Key : Type}

/-- No write from a position on is to the flag. -/
def Untouched (log : List (Write Key)) (position : Nat) (key : Key) : Prop :=
  ∀ number write, log[number]? = some write → position ≤ number → write.key ≠ key

/-- All writes to the flag have been passed. -/
def Settled (log : List (Write Key)) (passed : List Nat) (key : Key) : Prop :=
  ∀ number write, log[number]? = some write → write.key = key → number ∈ passed

/-- The writes to each flag are passed in the order of the log. -/
def InOrder (log : List (Write Key)) (passed : List Nat) : Prop :=
  ∀ number ∈ passed, ∀ write, log[number]? = some write →
    ∀ earlier < number, ∀ other, log[earlier]? = some other → other.key = write.key →
      earlier ∈ passed

/-- The store has what the last write to each flag wrote. -/
def Stored (log : List (Write Key)) (holds : Key → Prop) : Prop :=
  ∀ number write, log[number]? = some write → Untouched log (number + 1) write.key →
    (holds write.key ↔ write.raised = true)

variable {log : List (Write Key)} {passed : List Nat} {write : Write Key} {key : Key}

/-- A position of a longer log is one of the log, or the new one. -/
theorem getElem?_concat_eq_some {number : Nat} {found : Write Key}
    (here : (log ++ [write])[number]? = some found) :
    log[number]? = some found ∨ number = log.length ∧ found = write := by
  rcases Nat.lt_trichotomy number log.length with inside | rfl | outside
  · left
    rwa [List.getElem?_append_left inside] at here
  · right
    rw [List.getElem?_concat_length] at here
    exact ⟨rfl, (Option.some.inj here).symm⟩
  · rw [List.getElem?_eq_none (by simp; omega)] at here
    cases here

theorem getElem?_concat_of_eq_some {found : Write Key} (here : log[number]? = some found) :
    (log ++ [write])[number]? = some found := by
  rw [List.getElem?_append_left (List.getElem?_eq_some_iff.mp here).1, here]

theorem untouched_concat {position : Nat} (untouched : Untouched (log ++ [write]) position key) :
    Untouched log position key := by
  intro number found here above
  exact untouched number found (getElem?_concat_of_eq_some here) above

/-- A write that is not passed leaves its flag unsettled. -/
theorem ne_of_settled_concat (fresh : log.length ∉ passed)
    (settled : Settled (log ++ [write]) passed key) : write.key ≠ key := by
  intro same
  exact fresh (settled log.length write List.getElem?_concat_length same)

theorem settled_concat (settled : Settled (log ++ [write]) passed key) :
    Settled log passed key := by
  intro number found here same
  exact settled number found (getElem?_concat_of_eq_some here) same

theorem ne_of_untouched_concat {position : Nat} (below : position ≤ log.length)
    (untouched : Untouched (log ++ [write]) position key) : write.key ≠ key :=
  untouched log.length write List.getElem?_concat_length below

theorem inOrder_concat (fresh : ∀ number ∈ passed, number < log.length)
    (ordered : InOrder log passed) : InOrder (log ++ [write]) passed := by
  intro number member found here earlier before other there same
  have inside := fresh number member
  rw [List.getElem?_append_left inside] at here
  rw [List.getElem?_append_left (by omega)] at there
  exact ordered number member found here earlier before other there same

/-- A write is stored by giving its flag what it writes. -/
theorem stored_concat {holds after : Key → Prop} (stored : Stored log holds)
    (written : after write.key ↔ write.raised = true)
    (others : ∀ key, key ≠ write.key → (after key ↔ holds key)) :
    Stored (log ++ [write]) after := by
  intro number found here untouched
  rcases getElem?_concat_eq_some here with inside | ⟨rfl, rfl⟩
  · have below : number + 1 ≤ log.length := (List.getElem?_eq_some_iff.mp inside).1
    rw [others _ (ne_of_untouched_concat below untouched).symm]
    exact stored number found inside (untouched_concat untouched)
  · exact written

/-- Who passes a write next and has then passed all writes to its flag, in order, has
passed the last one. -/
theorem untouched_of_settled_cons (here : log[number]? = some write) (fresh : number ∉ passed)
    (ordered : InOrder log passed) (settled : Settled log (number :: passed) write.key) :
    Untouched log (number + 1) write.key := by
  intro later found there above same
  rcases List.mem_cons.mp (settled later found there same) with equal | member
  · omega
  · exact fresh (ordered later member found there number (by omega) write here same.symm)

theorem inOrder_cons (here : log[number]? = some write)
    (earlier : ∀ before < number, ∀ other, log[before]? = some other → other.key = write.key → before ∈ passed)
    (ordered : InOrder log passed) : InOrder log (number :: passed) := by
  intro later member found there before below other between same
  rcases List.mem_cons.mp member with rfl | member
  · obtain rfl := Option.some.inj (here.symm.trans there)
    exact List.mem_cons_of_mem _ (earlier before below other between same)
  · exact List.mem_cons_of_mem _ (ordered later member found there before below other between same)

/-- To have passed another write settles no other flag. -/
theorem settled_of_settled_cons (here : log[number]? = some write) (different : write.key ≠ key)
    (settled : Settled log (number :: passed) key) : Settled log passed key := by
  intro other found there same
  rcases List.mem_cons.mp (settled other found there same) with rfl | member
  · obtain rfl := Option.some.inj (here.symm.trans there)
    exact absurd same different
  · exact member

end Write

end Foundation
