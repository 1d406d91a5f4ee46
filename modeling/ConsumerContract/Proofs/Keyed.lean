/-
This file says when two keyed lists are the same map. A map that was built by
insertions has its keys in increasing order, and two lists in that order are
equal if they have the same look-ups. So maps can be followed through their
look-ups alone: a map that was joined from the maps of two lists of entries is
the map of both lists, one behind the other.
-/

import ConsumerContract.Keyed

namespace ConsumerContract.Keyed

universe u

variable {α : Type u}

/-! ### Look-ups and keys -/

theorem find?_append (key : String) (first second : List (String × α)) :
    find? key (first ++ second) = (find? key first).or (find? key second) := by
  induction first with
  | nil => rfl
  | cons entry rest inductionHypothesis =>
    rw [List.cons_append, find?, find?, inductionHypothesis]
    split
    · rfl
    · rfl

theorem find?_eq_none {key : String} {entries : List (String × α)} :
    find? key entries = none ↔ key ∉ keys entries := by
  induction entries with
  | nil => simp [find?, keys]
  | cons entry rest inductionHypothesis =>
    rw [find?, keys, List.map_cons, List.mem_cons, not_or, ← keys, ← inductionHypothesis]
    split
    · rename_i same
      simp [same]
    · rename_i different
      simp [different]

/-- Mapping the values changes what is found, and not where. -/
theorem find?_map {β : Type u} (change : α → β) (key : String) (entries : List (String × α)) :
    find? key (entries.map fun entry => (entry.1, change entry.2)) =
      (find? key entries).map change := by
  induction entries with
  | nil => rfl
  | cons entry rest inductionHypothesis =>
    rw [List.map_cons, find?, find?]
    split
    · rfl
    · exact inductionHypothesis

theorem keys_map {β : Type u} (change : α → β) (entries : List (String × α)) :
    keys (entries.map fun entry => (entry.1, change entry.2)) = keys entries := by
  rw [keys, keys, List.map_map]
  rfl

theorem contains_eq_true {key : String} {entries : Keyed α} :
    contains key entries = true ↔ key ∈ keys entries := by
  rw [contains, ← Option.ne_none_iff_isSome, ne_eq, find?_eq_none, Decidable.not_not]

theorem mem_of_find? {key : String} {value : α} {entries : List (String × α)}
    (found : find? key entries = some value) : (key, value) ∈ entries := by
  induction entries with
  | nil => cases found
  | cons entry rest inductionHypothesis =>
    rw [find?] at found
    split at found
    · rename_i same
      rw [same, ← Option.some.inj found]
      exact List.mem_cons_self
    · exact List.mem_cons_of_mem _ (inductionHypothesis found)

/-- Where no key occurs twice, an entry is found at its key. -/
theorem find?_eq_some {key : String} {value : α} {entries : List (String × α)}
    (distinct : (keys entries).Nodup) :
    find? key entries = some value ↔ (key, value) ∈ entries := by
  refine ⟨mem_of_find?, fun member => ?_⟩
  induction entries with
  | nil => cases member
  | cons entry rest inductionHypothesis =>
    obtain ⟨fresh, distinctRest⟩ := List.nodup_cons.mp distinct
    rw [find?]
    rcases List.mem_cons.mp member with rfl | later
    · rw [if_pos rfl]
    · have different : key ≠ entry.1 := fun same =>
        fresh (same ▸ List.mem_map_of_mem (f := Prod.fst) later)
      rw [if_neg different]
      exact inductionHypothesis distinctRest later

theorem find?_reverse {key : String} {entries : List (String × α)}
    (distinct : (keys entries).Nodup) : find? key entries.reverse = find? key entries := by
  have distinctReverse : (keys entries.reverse).Nodup := by
    rw [keys, List.map_reverse]
    exact List.pairwise_reverse.mpr (List.Pairwise.imp Ne.symm distinct)
  refine Option.ext fun value => ?_
  rw [find?_eq_some distinctReverse, find?_eq_some distinct, List.mem_reverse]

/-! ### Insertions -/

theorem find?_insert (key other : String) (value : α) (entries : Keyed α) :
    find? other (insert key value entries) =
      if other = key then some value else find? other entries := by
  split
  · rename_i same
    rw [same, find?_insert_self]
  · rename_i different
    exact find?_insert_of_ne different value entries

theorem mem_keys_insert {key other : String} {value : α} {entries : Keyed α} :
    other ∈ keys (insert key value entries) ↔ other = key ∨ other ∈ keys entries := by
  rw [← Decidable.not_iff_not, ← find?_eq_none, find?_insert, not_or, ← find?_eq_none]
  split
  · rename_i same
    simp [same]
  · rename_i different
    simp [different]

instance (entries : Keyed α) : Decidable (Ordered entries) :=
  inferInstanceAs (Decidable (List.Pairwise _ (keys entries)))

theorem ordered_insert {key : String} {value : α} {entries : Keyed α} (ordered : Ordered entries) :
    Ordered (insert key value entries) := by
  induction entries with
  | nil => exact List.pairwise_singleton _ _
  | cons entry rest inductionHypothesis =>
    obtain ⟨other, kept⟩ := entry
    obtain ⟨above, orderedRest⟩ := List.pairwise_cons.mp ordered
    unfold insert
    split
    · rename_i less
      refine List.pairwise_cons.mpr ⟨fun later member => ?_, ordered⟩
      rcases List.mem_cons.mp member with rfl | member
      · exact less
      · exact String.lt_trans less (above later member)
    · rename_i notLess
      split
      · rename_i same
        exact List.pairwise_cons.mpr ⟨same ▸ above, orderedRest⟩
      · rename_i different
        have greater : other < key :=
          String.not_le.mp fun le => different (String.le_antisymm le (String.not_lt.mp notLess))
        refine List.pairwise_cons.mpr ⟨fun later member => ?_, inductionHypothesis orderedRest⟩
        rcases mem_keys_insert.mp member with rfl | member
        · exact greater
        · exact above later member

theorem ordered_foldl_insert (added : List (String × α)) {entries : Keyed α}
    (ordered : Ordered entries) :
    Ordered (added.foldl (fun built entry => insert entry.1 entry.2 built) entries) := by
  induction added generalizing entries with
  | nil => exact ordered
  | cons entry rest inductionHypothesis => exact inductionHypothesis (ordered_insert ordered)

theorem ordered_ofList (entries : List (String × α)) : Ordered (ofList entries) :=
  ordered_foldl_insert entries List.Pairwise.nil

theorem Ordered.nodup {entries : Keyed α} (ordered : Ordered entries) : (keys entries).Nodup :=
  List.Pairwise.imp String.ne_of_lt ordered

/-! ### Equality of maps -/

/-- No key of an increasing list is found in a list of greater keys. -/
theorem find?_eq_none_of_lt {key : String} {entries : List (String × α)}
    (above : ∀ other ∈ keys entries, key < other) : find? key entries = none :=
  find?_eq_none.mpr fun member => String.lt_irrefl key (above key member)

/-- A map in key order is determined by its look-ups. -/
theorem eq_of_find? {first second : Keyed α} (orderedFirst : Ordered first)
    (orderedSecond : Ordered second) (same : ∀ key, find? key first = find? key second) :
    first = second := by
  induction first generalizing second with
  | nil =>
    cases second with
    | nil => rfl
    | cons entry rest =>
      have found := same entry.1
      rw [find?_nil, find?, if_pos rfl] at found
      cases found
  | cons entry rest inductionHypothesis =>
    cases second with
    | nil =>
      have found := same entry.1
      rw [find?_nil, find?, if_pos rfl] at found
      cases found
    | cons entry' rest' =>
      obtain ⟨above, orderedRest⟩ := List.pairwise_cons.mp orderedFirst
      obtain ⟨above', orderedRest'⟩ := List.pairwise_cons.mp orderedSecond
      -- The first keys are the least ones, so each of them can only be found in front.
      have sameKey : entry.1 = entry'.1 := by
        refine Decidable.byContradiction fun different => ?_
        rcases String.le_total entry.1 entry'.1 with le | le
        · have less : entry.1 < entry'.1 :=
            String.not_le.mp fun ge => different (String.le_antisymm le ge)
          have found := same entry.1
          rw [find?, if_pos rfl, find?, if_neg different, find?_eq_none_of_lt
            fun other member => String.lt_trans less (above' other member)] at found
          cases found
        · have less : entry'.1 < entry.1 :=
            String.not_le.mp fun ge => different (String.le_antisymm ge le)
          have found := same entry'.1
          rw [find?, if_neg (Ne.symm different), find?, if_pos rfl, find?_eq_none_of_lt
            fun other member => String.lt_trans less (above other member)] at found
          cases found
      have sameValue : entry.2 = entry'.2 := by
        have found := same entry.1
        rw [find?, if_pos rfl, find?, if_pos sameKey] at found
        exact Option.some.inj found
      have sameRest : rest = rest' := by
        refine inductionHypothesis orderedRest orderedRest' fun key => ?_
        by_cases atFront : key = entry.1
        · rw [atFront, find?_eq_none_of_lt above, sameKey, find?_eq_none_of_lt above']
        · have found := same key
          rwa [find?, if_neg atFront, find?, if_neg (sameKey ▸ atFront)] at found
      rw [sameRest, Prod.ext sameKey sameValue]

/-! ### Maps of lists of entries -/

theorem overlay_eq_foldl (entries added : Keyed α) :
    overlay entries added =
      added.foldl (fun built entry => insert entry.1 entry.2 built) entries := by
  induction added generalizing entries with
  | nil => rfl
  | cons entry rest inductionHypothesis => exact inductionHypothesis _

/-- Of several entries with one key the last one is found. -/
theorem find?_foldl_insert (key : String) (added : List (String × α)) (entries : Keyed α) :
    find? key (added.foldl (fun built entry => insert entry.1 entry.2 built) entries) =
      (find? key added.reverse).or (find? key entries) := by
  induction added generalizing entries with
  | nil => rfl
  | cons entry rest inductionHypothesis =>
    rw [List.foldl_cons, inductionHypothesis, find?_insert, List.reverse_cons, find?_append,
      Option.or_assoc]
    congr 1
    rw [find?, find?_nil]
    split
    · rfl
    · rfl

theorem find?_ofList (key : String) (entries : List (String × α)) :
    find? key (ofList entries) = find? key entries.reverse := by
  rw [ofList, find?_foldl_insert, find?_nil, Option.or_none]

theorem mem_keys_ofList {key : String} {entries : List (String × α)} :
    key ∈ keys (ofList entries) ↔ ∃ value, (key, value) ∈ entries := by
  have sameKeys : key ∈ keys (ofList entries) ↔ key ∈ keys entries.reverse := by
    rw [← Decidable.not_iff_not, ← find?_eq_none, find?_ofList, find?_eq_none]
  rw [sameKeys, keys, List.map_reverse, List.mem_reverse]
  simp [List.mem_map]

theorem mem_of_mem_ofList {key : String} {value : α} {entries : List (String × α)}
    (member : (key, value) ∈ ofList entries) : (key, value) ∈ entries := by
  have found : find? key entries.reverse = some value := by
    rw [← find?_ofList]
    exact (find?_eq_some (ordered_ofList entries).nodup).mpr member
  exact List.mem_reverse.mp (mem_of_find? found)

/-- Building a map from its own entries gives it back. -/
theorem ofList_of_ordered {entries : List (String × α)} (ordered : Ordered entries) :
    ofList entries = entries := by
  refine eq_of_find? (ordered_ofList entries) ordered fun key => ?_
  rw [find?_ofList, find?_reverse ordered.nodup]

theorem ofList_concat (key : String) (value : α) (entries : List (String × α)) :
    ofList (entries ++ [(key, value)]) = insert key value (ofList entries) := by
  rw [ofList, List.foldl_append]
  rfl

/-- Laying the map of one list over that of another is building the map of both. -/
theorem overlay_ofList (first second : List (String × α)) :
    overlay (ofList first) (ofList second) = ofList (first ++ second) := by
  have ordered : Ordered (overlay (ofList first) (ofList second)) := by
    rw [overlay_eq_foldl]
    exact ordered_foldl_insert _ (ordered_ofList first)
  refine eq_of_find? ordered (ordered_ofList _) fun key => ?_
  rw [overlay_eq_foldl, find?_foldl_insert, find?_reverse (ordered_ofList second).nodup,
    find?_ofList, find?_ofList, find?_ofList, List.reverse_append, find?_append]

/-! ### Joining maps without a common key -/

/-- Where joining two maps succeeds, it does what laying one over the other does. -/
theorem eq_overlay_of_merge {entries added merged : Keyed α}
    (success : merge entries added = .ok merged) : merged = overlay entries added := by
  induction added generalizing entries with
  | nil => exact (Except.ok.inj success).symm
  | cons entry rest inductionHypothesis =>
    rw [merge] at success
    split at success
    · cases success
    · exact inductionHypothesis success

/-- Maps without a common key can be joined. -/
theorem merge_of_disjoint {entries added : Keyed α} (distinct : (keys added).Nodup)
    (apart : ∀ key ∈ keys added, key ∉ keys entries) :
    merge entries added = .ok (overlay entries added) := by
  induction added generalizing entries with
  | nil => rfl
  | cons entry rest inductionHypothesis =>
    obtain ⟨fresh, distinctRest⟩ := List.nodup_cons.mp distinct
    rw [merge, overlay, if_neg fun found =>
      apart entry.1 List.mem_cons_self (contains_eq_true.mp found)]
    refine inductionHypothesis distinctRest fun key member inserted => ?_
    rcases mem_keys_insert.mp inserted with rfl | before
    · exact fresh member
    · exact apart key (List.mem_cons_of_mem _ member) before

/-- Maps that were joined have no key in common. -/
theorem disjoint_of_merge {entries added merged : Keyed α}
    (success : merge entries added = .ok merged) : ∀ key ∈ keys added, key ∉ keys entries := by
  induction added generalizing entries with
  | nil => exact nofun
  | cons entry rest inductionHypothesis =>
    rw [merge] at success
    split at success
    · cases success
    · rename_i fresh
      refine List.forall_mem_cons.mpr ⟨fun old => fresh (contains_eq_true.mpr old), ?_⟩
      intro key later old
      exact inductionHypothesis success key later (mem_keys_insert.mpr (Or.inr old))

/-- A path that both maps have makes joining them fail. -/
theorem merge_singleton (key : String) (value : α) (entries : Keyed α) :
    merge entries [(key, value)] =
      if key ∈ keys entries then .error key else .ok (insert key value entries) := by
  rw [merge, merge]
  by_cases member : key ∈ keys entries
  · rw [if_pos (contains_eq_true.mpr member), if_pos member]
  · rw [if_neg fun found => member (contains_eq_true.mp found), if_neg member]

end ConsumerContract.Keyed
