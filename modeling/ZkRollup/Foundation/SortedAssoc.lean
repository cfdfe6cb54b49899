import ZkRollup.Foundation.SliceSearch
import Mathlib.Algebra.BigOperators.Group.List.Basic
import Mathlib.Algebra.GroupWithZero.Nat
import Mathlib.Data.List.Basic
import Mathlib.Data.List.Nodup
import Mathlib.Data.List.Perm.Basic

/-!
Contract: association lists with strictly increasing keys, as finite maps.

Owns:
- `upsert`, the map update on such a list, and what it does to lookups, to the
  key set and to the order;
- extensionality: a sorted list is determined by its lookups, so a history of
  writes only matters through its last write to each key;
- the reading of a binary search followed by an overwrite or an insertion as
  `upsert`, and of a binary search followed by an index as `lookup`;
- what an overwrite at the found index does on a list that need not be sorted.

Lookups are core's `List.lookup`.
-/

set_option autoImplicit false

namespace Foundation

universe u v

variable {K : Type u} {V : Type v} [LinearOrder K]

/-- Keys strictly increase along the list. -/
def KeysIncrease (entries : List (K × V)) : Prop :=
  entries.Pairwise fun left right => left.1 < right.1

instance (entries : List (K × V)) : Decidable (KeysIncrease entries) :=
  inferInstanceAs (Decidable (entries.Pairwise _))

/-- Overwrite the value of a key, or insert it at its place. -/
def upsert (key : K) (value : V) : List (K × V) → List (K × V)
  | [] => [(key, value)]
  | entry :: rest =>
      if key < entry.1 then
        (key, value) :: entry :: rest
      else if key = entry.1 then
        (entry.1, value) :: rest
      else
        entry :: upsert key value rest

theorem lookup_cons_ite (key : K) (entry : K × V) (rest : List (K × V)) :
    (entry :: rest).lookup key = if key = entry.1 then some entry.2 else rest.lookup key := by
  rw [List.lookup_cons]
  by_cases same : key = entry.1
  · rw [if_pos same, beq_iff_eq.mpr same]
  · rw [if_neg same, beq_false_of_ne same]

namespace KeysIncrease

theorem nil : KeysIncrease ([] : List (K × V)) :=
  List.Pairwise.nil

theorem tail {entry : K × V} {rest : List (K × V)} (sorted : KeysIncrease (entry :: rest)) :
    KeysIncrease rest :=
  (List.pairwise_cons.mp sorted).2

theorem head_lt {entry : K × V} {rest : List (K × V)} (sorted : KeysIncrease (entry :: rest)) :
    ∀ other ∈ rest, entry.1 < other.1 :=
  (List.pairwise_cons.mp sorted).1

theorem lookup_eq_none_of_lt {key : K} {entries : List (K × V)}
    (above : ∀ entry ∈ entries, key < entry.1) : entries.lookup key = none := by
  induction entries with
  | nil => rfl
  | cons entry rest inductionHypothesis =>
      have different : key ≠ entry.1 := (above entry (by simp)).ne
      rw [lookup_cons_ite, if_neg different]
      exact inductionHypothesis fun other member => above other (List.mem_cons_of_mem _ member)

theorem lookup_tail_head {entry : K × V} {rest : List (K × V)}
    (sorted : KeysIncrease (entry :: rest)) : rest.lookup entry.1 = none :=
  lookup_eq_none_of_lt sorted.head_lt

end KeysIncrease

/-! ## Update laws -/

theorem mem_keys_upsert (key other : K) (value : V) (entries : List (K × V)) :
    other ∈ (upsert key value entries).map Prod.fst ↔
      other = key ∨ other ∈ entries.map Prod.fst := by
  induction entries with
  | nil => simp [upsert]
  | cons entry rest inductionHypothesis =>
      unfold upsert
      split_ifs with before same
      · simp
      · subst same
        simp
      · simp only [List.map_cons, List.mem_cons, inductionHypothesis]
        tauto

theorem lookup_upsert (key other : K) (value : V) (entries : List (K × V)) :
    (upsert key value entries).lookup other =
      if other = key then some value else entries.lookup other := by
  induction entries with
  | nil => rw [upsert, lookup_cons_ite]
  | cons entry rest inductionHypothesis =>
      by_cases before : key < entry.1
      · rw [upsert, if_pos before, lookup_cons_ite]
      · by_cases same : key = entry.1
        · rw [upsert, if_neg before, if_pos same, lookup_cons_ite, lookup_cons_ite, same]
          split_ifs <;> rfl
        · rw [upsert, if_neg before, if_neg same, lookup_cons_ite, lookup_cons_ite,
            inductionHypothesis]
          by_cases atEntry : other = entry.1
          · have notKey : other ≠ key := fun atKey => same (atKey.symm.trans atEntry)
            rw [if_pos atEntry, if_neg notKey, if_pos atEntry]
          · rw [if_neg atEntry, if_neg atEntry]

theorem lookup_upsert_self (key : K) (value : V) (entries : List (K × V)) :
    (upsert key value entries).lookup key = some value := by
  rw [lookup_upsert, if_pos rfl]

theorem lookup_upsert_of_ne {key other : K} (different : other ≠ key) (value : V)
    (entries : List (K × V)) :
    (upsert key value entries).lookup other = entries.lookup other := by
  rw [lookup_upsert, if_neg different]

theorem KeysIncrease.upsert {entries : List (K × V)} (sorted : KeysIncrease entries)
    (key : K) (value : V) : KeysIncrease (Foundation.upsert key value entries) := by
  induction entries with
  | nil => simp [Foundation.upsert, KeysIncrease]
  | cons entry rest inductionHypothesis =>
      unfold Foundation.upsert
      split_ifs with before same
      · refine List.pairwise_cons.mpr ⟨?_, sorted⟩
        intro other member
        rcases List.mem_cons.mp member with rfl | inRest
        · exact before
        · exact before.trans (sorted.head_lt other inRest)
      · exact List.pairwise_cons.mpr ⟨sorted.head_lt, sorted.tail⟩
      · refine List.pairwise_cons.mpr ⟨?_, inductionHypothesis sorted.tail⟩
        intro other member
        have keyMember : other.1 ∈ (Foundation.upsert key value rest).map Prod.fst :=
          List.mem_map_of_mem member
        rcases (mem_keys_upsert key other.1 value rest).mp keyMember with isKey | inRest
        · rw [isKey]
          exact lt_of_le_of_ne (not_lt.mp before) (Ne.symm same)
        · obtain ⟨old, oldMember, oldKey⟩ := List.mem_map.mp inRest
          rw [← oldKey]
          exact sorted.head_lt old oldMember

/-! ## Extensionality -/

theorem mem_keys_iff_lookup (key : K) (entries : List (K × V)) :
    key ∈ entries.map Prod.fst ↔ entries.lookup key ≠ none := by
  induction entries with
  | nil => simp
  | cons entry rest inductionHypothesis =>
      rw [List.map_cons, List.mem_cons, inductionHypothesis, lookup_cons_ite]
      by_cases same : key = entry.1 <;> simp [same]

/-- A strictly increasing association list is determined by its lookups. -/
theorem KeysIncrease.ext {left right : List (K × V)} (leftSorted : KeysIncrease left)
    (rightSorted : KeysIncrease right)
    (same : ∀ key, left.lookup key = right.lookup key) : left = right := by
  induction left generalizing right with
  | nil =>
      cases right with
      | nil => rfl
      | cons entry rest => simpa [lookup_cons_ite] using same entry.1
  | cons leftEntry leftRest inductionHypothesis =>
      cases right with
      | nil => simpa [lookup_cons_ite] using same leftEntry.1
      | cons rightEntry rightRest =>
          -- Each head key occurs in the other list, so neither is below the other.
          have leftNotBelow : ¬ leftEntry.1 < rightEntry.1 := by
            intro below
            have absent : (rightEntry :: rightRest).lookup leftEntry.1 = none := by
              apply KeysIncrease.lookup_eq_none_of_lt
              intro other member
              rcases List.mem_cons.mp member with rfl | inRest
              · exact below
              · exact below.trans (rightSorted.head_lt other inRest)
            rw [← same, lookup_cons_ite, if_pos rfl] at absent
            cases absent
          have rightNotBelow : ¬ rightEntry.1 < leftEntry.1 := by
            intro below
            have absent : (leftEntry :: leftRest).lookup rightEntry.1 = none := by
              apply KeysIncrease.lookup_eq_none_of_lt
              intro other member
              rcases List.mem_cons.mp member with rfl | inRest
              · exact below
              · exact below.trans (leftSorted.head_lt other inRest)
            rw [same, lookup_cons_ite, if_pos rfl] at absent
            cases absent
          have keyEqual : leftEntry.1 = rightEntry.1 :=
            le_antisymm (not_lt.mp rightNotBelow) (not_lt.mp leftNotBelow)
          have valueEqual : leftEntry.2 = rightEntry.2 := by
            have atHead := same leftEntry.1
            rw [lookup_cons_ite, if_pos rfl, lookup_cons_ite, if_pos keyEqual] at atHead
            exact Option.some.inj atHead
          have restEqual : leftRest = rightRest := by
            apply inductionHypothesis leftSorted.tail rightSorted.tail
            intro key
            by_cases isHead : key = leftEntry.1
            · rw [isHead, leftSorted.lookup_tail_head, keyEqual, rightSorted.lookup_tail_head]
            · have atKey := same key
              have isNotRight : key ≠ rightEntry.1 := fun equal =>
                isHead (equal.trans keyEqual.symm)
              rwa [lookup_cons_ite, lookup_cons_ite, if_neg isHead, if_neg isNotRight] at atKey
          rw [restEqual, Prod.ext keyEqual valueEqual]

/-! ## Histories of writes -/

/-- Updates one after the other. -/
def upsertAll (entries writes : List (K × V)) : List (K × V) :=
  writes.foldl (fun entries write => upsert write.1 write.2 entries) entries

/-- What a history of writes leaves at a key, if it writes there. -/
def lastWrite (writes : List (K × V)) (key : K) : Option V :=
  writes.reverse.lookup key

theorem KeysIncrease.upsertAll {entries : List (K × V)} (sorted : KeysIncrease entries)
    (writes : List (K × V)) : KeysIncrease (Foundation.upsertAll entries writes) := by
  induction writes generalizing entries with
  | nil => exact sorted
  | cons write rest inductionHypothesis =>
      exact inductionHypothesis (sorted.upsert write.1 write.2)

theorem lastWrite_cons (write : K × V) (rest : List (K × V)) (key : K) :
    lastWrite (write :: rest) key =
      (lastWrite rest key).or (if key = write.1 then some write.2 else none) := by
  unfold lastWrite
  rw [List.reverse_cons, List.lookup_append, lookup_cons_ite]
  rfl

/-- A key that was written holds its last value, any other the old one. -/
theorem lookup_upsertAll (entries writes : List (K × V)) (key : K) :
    (upsertAll entries writes).lookup key = (lastWrite writes key).or (entries.lookup key) := by
  induction writes generalizing entries with
  | nil => rfl
  | cons write rest inductionHypothesis =>
      have unfolded : upsertAll entries (write :: rest) =
          upsertAll (upsert write.1 write.2 entries) rest := rfl
      rw [unfolded, inductionHypothesis, lookup_upsert, lastWrite_cons]
      cases lastWrite rest key with
      | some value => rfl
      | none =>
          by_cases same : key = write.1
          · rw [if_pos same, if_pos same]
            rfl
          · rw [if_neg same, if_neg same]
            rfl

/-- The list forgets everything about a history but its last writes. -/
theorem KeysIncrease.upsertAll_congr {entries writes others : List (K × V)}
    (sorted : KeysIncrease entries) (same : ∀ key, lastWrite writes key = lastWrite others key) :
    Foundation.upsertAll entries writes = Foundation.upsertAll entries others := by
  apply (sorted.upsertAll writes).ext (sorted.upsertAll others)
  intro key
  rw [lookup_upsertAll, lookup_upsertAll, same key]

theorem lookup_eq_some_iff_of_nodup {writes : List (K × V)} (distinct : (writes.map Prod.fst).Nodup)
    (key : K) (value : V) : writes.lookup key = some value ↔ (key, value) ∈ writes := by
  induction writes with
  | nil => simp
  | cons write rest inductionHypothesis =>
      rw [List.map_cons, List.nodup_cons] at distinct
      rw [lookup_cons_ite, List.mem_cons]
      by_cases same : key = write.1
      · subst same
        have absent : (write.1, value) ∉ rest := fun member =>
          distinct.1 (List.mem_map.mpr ⟨_, member, rfl⟩)
        simp [absent, Prod.ext_iff, eq_comm]
      · rw [if_neg same, inductionHypothesis distinct.2]
        simp [Prod.ext_iff, same]

/-- Without overwrites, the order of the writes does not matter. -/
theorem lastWrite_perm {writes others : List (K × V)} (distinct : (writes.map Prod.fst).Nodup)
    (reordered : writes.Perm others) (key : K) : lastWrite writes key = lastWrite others key := by
  have reversed : writes.reverse.Perm others.reverse :=
    (List.reverse_perm writes).trans (reordered.trans (List.reverse_perm others).symm)
  have leftDistinct : (writes.reverse.map Prod.fst).Nodup := by
    rw [List.map_reverse]
    exact List.nodup_reverse.mpr distinct
  have rightDistinct : (others.reverse.map Prod.fst).Nodup :=
    (reversed.map Prod.fst).nodup_iff.mp leftDistinct
  apply Option.ext
  intro value
  show writes.reverse.lookup key = some value ↔ others.reverse.lookup key = some value
  rw [lookup_eq_some_iff_of_nodup leftDistinct, lookup_eq_some_iff_of_nodup rightDistinct,
    reversed.mem_iff]

/-! ## Binary search on any list -/

/-- What a search followed by an index reads. -/
def searchLookup (entries : List (K × V)) (key : K) : Option V :=
  match binarySearchByKey entries key Prod.fst with
  | .ok index => some (entries.get index).2
  | .err _ => none

theorem sum_map_modify {α : Type u} (weight : α → Nat) {entries : List α} {index : Nat}
    (bound : index < entries.length) (change : α → α) :
    ((entries.modify index change).map weight).sum + weight entries[index] =
      (entries.map weight).sum + weight (change entries[index]) := by
  induction entries generalizing index with
  | nil => simp at bound
  | cons entry rest inductionHypothesis =>
      cases index with
      | zero =>
          simp only [List.modify_zero_cons, List.map_cons, List.sum_cons, List.getElem_cons_zero]
          omega
      | succ index =>
          have step := inductionHypothesis (by simpa using bound)
          simp only [List.modify_succ_cons, List.map_cons, List.sum_cons, List.getElem_cons_succ]
          omega

/-- Overwriting the found entry leaves what a search for another key reads. -/
theorem searchLookup_modify_of_ne {entries : List (K × V)} {key other : K}
    {index : Fin entries.length} (found : binarySearchByKey entries key Prod.fst = .ok index)
    (different : other ≠ key) (value : V) :
    searchLookup (entries.modify index fun entry => (entry.1, value)) other =
      searchLookup entries other := by
  have sameLength : entries.length =
      (entries.modify index fun entry => (entry.1, value)).length :=
    (List.length_modify _ _ _).symm
  have sameKeys : ∀ position, (entries.get position).1 =
      ((entries.modify index fun entry => (entry.1, value)).get (position.cast sameLength)).1 := by
    intro position
    simp only [List.get_eq_getElem, Fin.val_cast, List.getElem_modify]
    split <;> rfl
  have sameSearch : binarySearchByKey (entries.modify index fun entry => (entry.1, value)) other
      Prod.fst = (binarySearchByKey entries other Prod.fst).cast sameLength :=
    searchKeys_cast sameLength sameKeys other
  unfold searchLookup
  rw [sameSearch]
  cases answer : binarySearchByKey entries other Prod.fst with
  | err position => rfl
  | ok position =>
      have atKey : (entries.get index).1 = key := searchKeys_ok found
      have atOther : (entries.get position).1 = other := searchKeys_ok answer
      have elsewhere : index.val ≠ position.val := by
        intro same
        apply different
        rw [← atOther, ← atKey, Fin.ext same]
      simp only [SearchResult.cast, List.get_eq_getElem, Fin.val_cast, List.getElem_modify,
        if_neg elsewhere]

/-! ## Reading binary search -/

private theorem modify_eq_upsert {key : K} (value : V) {entries : List (K × V)}
    (sorted : KeysIncrease entries) (index : Nat) (bound : index < entries.length)
    (found : (entries[index]).1 = key) :
    entries.modify index (fun entry => (entry.1, value)) = upsert key value entries := by
  induction entries generalizing index with
  | nil => simp at bound
  | cons entry rest inductionHypothesis =>
      cases index with
      | zero =>
          have headKey : entry.1 = key := found
          simp [upsert, headKey]
      | succ index =>
          have inRest : index < rest.length := by simpa using bound
          have below : entry.1 < key := by
            rw [← found]
            exact sorted.head_lt _ (List.getElem_mem inRest)
          rw [List.modify_succ_cons, upsert, if_neg below.not_gt, if_neg below.ne',
            inductionHypothesis sorted.tail index inRest found]

private theorem insertIdx_eq_upsert {key : K} (value : V) {entries : List (K × V)} (index : Nat)
    (bound : index ≤ entries.length)
    (below : ∀ other (inside : other < entries.length), other < index → (entries[other]).1 < key)
    (above : ∀ other (inside : other < entries.length), index ≤ other → key < (entries[other]).1) :
    entries.insertIdx index (key, value) = upsert key value entries := by
  induction entries generalizing index with
  | nil =>
      have atStart : index = 0 := by simpa using bound
      subst atStart
      rfl
  | cons entry rest inductionHypothesis =>
      cases index with
      | zero =>
          have headAbove : key < entry.1 := above 0 (by simp) (Nat.le_refl 0)
          simp [upsert, headAbove]
      | succ index =>
          have headBelow : entry.1 < key := below 0 (by simp) (Nat.succ_pos index)
          rw [List.insertIdx_succ_cons, upsert, if_neg headBelow.not_gt, if_neg headBelow.ne',
            inductionHypothesis index (by simpa using bound)
              (fun other inside before => below (other + 1) (by simpa using inside) (by omega))
              (fun other inside after => above (other + 1) (by simpa using inside) (by omega))]

private theorem lookup_of_get {entries : List (K × V)} (sorted : KeysIncrease entries)
    (index : Nat) (bound : index < entries.length) :
    entries.lookup (entries[index]).1 = some (entries[index]).2 := by
  induction entries generalizing index with
  | nil => simp at bound
  | cons entry rest inductionHypothesis =>
      cases index with
      | zero => rw [List.getElem_cons_zero, lookup_cons_ite, if_pos rfl]
      | succ index =>
          have inRest : index < rest.length := by simpa using bound
          have different : (rest[index]).1 ≠ entry.1 :=
            (sorted.head_lt _ (List.getElem_mem inRest)).ne'
          rw [List.getElem_cons_succ, lookup_cons_ite, if_neg different]
          exact inductionHypothesis sorted.tail index inRest

private theorem lookup_eq_none_of_search {key : K} {entries : List (K × V)} {index : Nat}
    (below : ∀ other (inside : other < entries.length), other < index → (entries[other]).1 < key)
    (above : ∀ other (inside : other < entries.length), index ≤ other → key < (entries[other]).1) :
    entries.lookup key = none := by
  by_contra present
  have member := (mem_keys_iff_lookup key entries).mpr present
  obtain ⟨entry, entryMember, entryKey⟩ := List.mem_map.mp member
  obtain ⟨other, inside, atOther⟩ := List.mem_iff_getElem.mp entryMember
  rw [← atOther] at entryKey
  rcases Nat.lt_or_ge other index with before | after
  · exact absurd entryKey (below other inside before).ne
  · exact absurd entryKey (above other inside after).ne'

/-- Searching a sorted list and indexing at the answer is a lookup. -/
theorem KeysIncrease.search_lookup {entries : List (K × V)} (sorted : KeysIncrease entries)
    (key : K) : searchLookup entries key = entries.lookup key := by
  have correct := binarySearchByKey_correct sorted key
  unfold searchLookup
  cases answer : binarySearchByKey entries key Prod.fst with
  | ok index =>
      rw [answer] at correct
      have found : (entries[index.val]).1 = key := correct
      have atIndex := lookup_of_get sorted index.val index.isLt
      rw [found] at atIndex
      exact atIndex.symm
  | err index =>
      rw [answer] at correct
      exact (lookup_eq_none_of_search (fun other inside => correct.1 ⟨other, inside⟩)
        (fun other inside => correct.2 ⟨other, inside⟩)).symm

/-- Searching a sorted list and writing at the answer is an update. -/
theorem KeysIncrease.search_upsert {entries : List (K × V)} (sorted : KeysIncrease entries)
    (key : K) (value : V) :
    (match binarySearchByKey entries key Prod.fst with
      | .ok index => entries.modify index (fun entry => (entry.1, value))
      | .err index => entries.insertIdx index (key, value)) =
      Foundation.upsert key value entries := by
  have correct := binarySearchByKey_correct sorted key
  cases answer : binarySearchByKey entries key Prod.fst with
  | ok index =>
      rw [answer] at correct
      exact modify_eq_upsert value sorted index.val index.isLt correct
  | err index =>
      rw [answer] at correct
      exact insertIdx_eq_upsert value index.val (Nat.le_of_lt_succ index.isLt)
        (fun other inside => correct.1 ⟨other, inside⟩)
        (fun other inside => correct.2 ⟨other, inside⟩)

end Foundation
