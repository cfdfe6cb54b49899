import Mathlib.Algebra.BigOperators.Group.List.Basic
import Mathlib.Algebra.GroupWithZero.Nat
import Mathlib.Logic.Relation

/-!
Contract: a log and somebody who follows it.

One side appends entries, the other takes them over one at a time and in order.
What has been taken over is a prefix of the log at all times, and neither side
ever loses an entry again.

Owns: the two moves, what a chain of moves keeps, and a criterion for where a
follower stands: when every entry weighs something, prefixes of one log are told
apart by their weight.
-/

set_option autoImplicit false

namespace Foundation

universe u

/-- A log, and how many of its entries have been taken over. -/
structure Follower (α : Type u) where
  log : List α
  position : Nat
  inside : position ≤ log.length

namespace Follower

variable {α : Type u}

def fresh : Follower α := ⟨[], 0, Nat.le_refl 0⟩

def taken (follower : Follower α) : List α :=
  follower.log.take follower.position

def ahead (follower : Follower α) : List α :=
  follower.log.drop follower.position

def append (follower : Follower α) (entry : α) : Follower α where
  log := follower.log ++ [entry]
  position := follower.position
  inside := by
    have inside := follower.inside
    rw [List.length_append]
    omega

def advance (follower : Follower α) (behind : follower.position < follower.log.length) :
    Follower α where
  log := follower.log
  position := follower.position + 1
  inside := behind

/-- A move of either side. -/
inductive Moves : Follower α → Follower α → Prop where
  | append (follower : Follower α) (entry : α) : Moves follower (follower.append entry)
  | advance (follower : Follower α) (behind : follower.position < follower.log.length) :
      Moves follower (follower.advance behind)

variable (follower : Follower α)

theorem taken_append_ahead : follower.taken ++ follower.ahead = follower.log :=
  List.take_append_drop follower.position follower.log

theorem taken_prefix : follower.taken <+: follower.log :=
  ⟨follower.ahead, follower.taken_append_ahead⟩

theorem taken_length : follower.taken.length = follower.position := by
  rw [taken, List.length_take, Nat.min_eq_left follower.inside]

@[simp] theorem taken_append (entry : α) : (follower.append entry).taken = follower.taken :=
  List.take_append_of_le_length follower.inside

@[simp] theorem taken_advance (behind : follower.position < follower.log.length) :
    (follower.advance behind).taken = follower.taken ++ [follower.log[follower.position]] :=
  List.take_succ_eq_append_getElem behind

/-- Nothing is left to take over exactly at the end of the log. -/
theorem ahead_eq_nil : follower.ahead = [] ↔ follower.position = follower.log.length := by
  have inside := follower.inside
  unfold ahead
  rw [List.drop_eq_nil_iff]
  omega

/-- The entry after a prefix that has been taken over is the next one. -/
theorem advance_of_split {entry : α} {rest : List α}
    (split : follower.log = follower.taken ++ entry :: rest) :
    ∃ behind : follower.position < follower.log.length,
      (follower.advance behind).taken = follower.taken ++ [entry] := by
  have longer := congrArg List.length split
  rw [List.length_append, follower.taken_length, List.length_cons] at longer
  have behind : follower.position < follower.log.length := by omega
  refine ⟨behind, ?_⟩
  have next : follower.log[follower.position]? = some entry := by
    rw [split, List.getElem?_append_right (Nat.le_of_eq follower.taken_length),
      follower.taken_length, Nat.sub_self, List.getElem?_cons_zero]
  rw [taken_advance, List.getElem_of_getElem? next |>.2]

variable {follower}

/-- What has been appended or taken over stays so. -/
theorem prefix_of_moves {later : Follower α} (moves : Relation.ReflTransGen Moves follower later) :
    follower.log <+: later.log ∧ follower.taken <+: later.taken := by
  induction moves with
  | refl => exact ⟨List.prefix_rfl, List.prefix_rfl⟩
  | tail _ last inductionHypothesis =>
      obtain ⟨logGrown, takenGrown⟩ := inductionHypothesis
      cases last with
      | append entry =>
          rw [taken_append]
          exact ⟨logGrown.trans (List.prefix_append _ _), takenGrown⟩
      | advance behind =>
          rw [taken_advance]
          exact ⟨logGrown, takenGrown.trans (List.prefix_append _ _)⟩

end Follower

/-- Two prefixes of one list that weigh the same are the same, if no entry
weighs nothing. -/
theorem prefix_eq_of_weight_eq {α : Type u} {first second whole : List α} (weight : α → Nat)
    (firstPrefix : first <+: whole) (secondPrefix : second <+: whole)
    (positive : ∀ entry ∈ whole, 0 < weight entry)
    (sameWeight : (first.map weight).sum = (second.map weight).sum) : first = second := by
  have longer : ∀ {short long : List α}, short <+: long → long <+: whole →
      (short.map weight).sum = (long.map weight).sum → short = long := by
    rintro short long ⟨more, rfl⟩ inWhole same
    rw [List.map_append, List.sum_append] at same
    cases more with
    | nil => rw [List.append_nil]
    | cons entry rest =>
        have weighs := positive entry (inWhole.subset (by simp))
        rw [List.map_cons, List.sum_cons] at same
        omega
  rcases List.prefix_or_prefix_of_prefix firstPrefix secondPrefix with shorter | shorter
  · exact longer shorter secondPrefix sameWeight
  · exact (longer shorter firstPrefix sameWeight.symm).symm

end Foundation
