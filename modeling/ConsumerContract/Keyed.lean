/-
This file holds association lists in key order: members of a mapping, and
declarations keyed by path. Keys are compared by code point, which is also the
order of their UTF-8 bytes. Every operation keeps the keys strictly increasing,
so that one list represents one finite map.
-/

namespace ConsumerContract

universe u

/-- Entries of a finite map with text keys, in increasing key order. -/
abbrev Keyed (α : Type u) := List (String × α)

namespace Keyed

variable {α : Type u}

/-- Sets the entry at `key`; an entry that was there before is replaced. -/
def insert (key : String) (value : α) : Keyed α → Keyed α
  | [] => [(key, value)]
  | (other, kept) :: rest =>
    if key < other then (key, value) :: (other, kept) :: rest
    else if key = other then (key, value) :: rest
    else (other, kept) :: insert key value rest

/-- The value at `key`. -/
def find? (key : String) : Keyed α → Option α
  | [] => none
  | (other, value) :: rest => if key = other then some value else find? key rest

/-- Whether some entry has this key. -/
def contains (key : String) (entries : Keyed α) : Bool :=
  (find? key entries).isSome

/-- All keys in order. -/
def keys (entries : Keyed α) : List String :=
  entries.map Prod.fst

/-- Entries given in any order; of two entries with one key the later one is kept. -/
def ofList (entries : List (String × α)) : Keyed α :=
  entries.foldl (fun built entry => insert entry.1 entry.2 built) []

/-- Both maps together, where no key may be in both. The first key of the second map that
is in the first one as well is reported. -/
def merge (entries : Keyed α) : Keyed α → Except String (Keyed α)
  | [] => .ok entries
  | (key, value) :: rest =>
    if contains key entries then .error key else merge (insert key value entries) rest

/-- Both maps together; at a common key the entry of the second map is kept. -/
def overlay (entries : Keyed α) : Keyed α → Keyed α
  | [] => entries
  | (key, value) :: rest => overlay (insert key value entries) rest

/-- The keys are strictly increasing, so the list is the only one for its map. -/
def Ordered (entries : Keyed α) : Prop :=
  (keys entries).Pairwise (· < ·)

/-! ### Look-up after an insertion -/

@[simp] theorem find?_nil (key : String) : find? key ([] : Keyed α) = none := rfl

theorem find?_insert_self (key : String) (value : α) (entries : Keyed α) :
    find? key (insert key value entries) = some value := by
  induction entries with
  | nil => simp [insert, find?]
  | cons entry rest inductionHypothesis =>
    unfold insert
    split
    · simp [find?]
    · split
      · simp [find?]
      · rename_i different
        simpa [find?, different] using inductionHypothesis

theorem find?_insert_of_ne {key other : String} (different : other ≠ key) (value : α)
    (entries : Keyed α) : find? other (insert key value entries) = find? other entries := by
  induction entries with
  | nil => simp [insert, find?, different]
  | cons entry rest inductionHypothesis =>
    unfold insert
    split
    · simp [find?, different]
    · split
      · rename_i same
        simp [find?, ← same, different]
      · simp [find?, inductionHypothesis]

end Keyed

end ConsumerContract
