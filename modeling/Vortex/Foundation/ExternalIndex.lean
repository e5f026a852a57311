import Mathlib.Data.List.Basic

/-!
# Full-text indexes of external content

An index that does not keep the texts it was built from. For each row and each token it has the
positions of the token in the row's text; an insertion writes the positions of the tokens it is
given, and a deletion takes back those of the tokens it is given, whatever was inserted before.
-/

namespace Foundation

/-- The positions of each token in the text of each row. -/
abbrev ExternalIndex (Rowid Token : Type*) : Type _ := Rowid → Token → List Nat

namespace ExternalIndex

variable {Rowid Token : Type*} [DecidableEq Rowid] [DecidableEq Token]

def empty : ExternalIndex Rowid Token := fun _ _ => []

omit [DecidableEq Rowid] in
/-- The positions of a token in a text. -/
def positions (tokens : List Token) (token : Token) : List Nat :=
  (List.range tokens.length).filter fun position => tokens[position]? = some token

/-- `INSERT INTO fts(rowid, content)` -/
def insert (index : ExternalIndex Rowid Token) (rowid : Rowid) (tokens : List Token) :
    ExternalIndex Rowid Token :=
  fun other token =>
    if other = rowid ∧ token ∈ tokens then positions tokens token else index other token

/-- `INSERT INTO fts(fts, rowid, content) VALUES ('delete', ...)` -/
def delete (index : ExternalIndex Rowid Token) (rowid : Rowid) (tokens : List Token) :
    ExternalIndex Rowid Token :=
  fun other token => if other = rowid ∧ token ∈ tokens then [] else index other token

omit [DecidableEq Rowid] in
/-- The index has the entries of the texts of some rows, and no others. -/
def Holds (index : ExternalIndex Rowid Token) (texts : Rowid → Option (List Token)) : Prop :=
  ∀ rowid token, index rowid token = positions ((texts rowid).getD []) token

variable {index : ExternalIndex Rowid Token} {texts : Rowid → Option (List Token)} {rowid : Rowid}
  {tokens : List Token}

omit [DecidableEq Rowid] in
theorem positions_nil (token : Token) : positions [] token = [] := rfl

omit [DecidableEq Rowid] in
theorem positions_of_not_mem {token : Token} (absent : token ∉ tokens) :
    positions tokens token = [] := by
  rw [positions, List.filter_eq_nil_iff]
  intro position _
  rw [decide_eq_true_eq]
  intro found
  exact absent (List.mem_of_getElem? found)

omit [DecidableEq Rowid] in
theorem holds_empty : Holds (empty : ExternalIndex Rowid Token) fun _ => none :=
  fun _ _ => rfl

section

variable (holds : index.Holds texts)

include holds

/-- A row without an entry gets one. -/
theorem Holds.insert (absent : texts rowid = none) :
    (index.insert rowid tokens).Holds (Function.update texts rowid (some tokens)) := by
  intro other token
  unfold ExternalIndex.insert
  by_cases same : other = rowid
  · cases same
    rw [Function.update_self, Option.getD_some]
    by_cases member : token ∈ tokens
    · rw [if_pos ⟨rfl, member⟩]
    · rw [if_neg fun both => member both.2, holds, absent, positions_of_not_mem member]
      rfl
  · rw [Function.update_of_ne same, if_neg fun both => same both.1, holds]

/-- The deletion of exactly the text that was inserted leaves nothing of it. -/
theorem Holds.delete (stored : texts rowid = some tokens) :
    (index.delete rowid tokens).Holds (Function.update texts rowid none) := by
  intro other token
  unfold ExternalIndex.delete
  by_cases same : other = rowid
  · cases same
    rw [Function.update_self, Option.getD_none, positions_nil]
    by_cases member : token ∈ tokens
    · rw [if_pos ⟨rfl, member⟩]
    · rw [if_neg fun both => member both.2, holds, stored, Option.getD_some,
        positions_of_not_mem member]
  · rw [Function.update_of_ne same, if_neg fun both => same both.1, holds]

/-- A text is replaced by another one. -/
theorem Holds.replace (stored : texts rowid = some tokens)
    (others : List Token) : ((index.delete rowid tokens).insert rowid others).Holds
      (Function.update texts rowid (some others)) := by
  have deleted := holds.delete stored
  have inserted : ((index.delete rowid tokens).insert rowid others).Holds _ :=
    deleted.insert (Function.update_self rowid none texts)
  rw [Function.update_idem] at inserted
  exact inserted

omit [DecidableEq Rowid] in
theorem Holds.congr {others : Rowid → Option (List Token)}
    (same : ∀ rowid, others rowid = texts rowid) : index.Holds others :=
  fun rowid token => by rw [same, holds]

end

end ExternalIndex

end Foundation
