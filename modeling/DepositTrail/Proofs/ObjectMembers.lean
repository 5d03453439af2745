import DepositTrail.Proofs.JsonReadBack
import Mathlib.Data.List.Forall2
import Mathlib.Data.List.Induction
import Mathlib.Data.List.Lex
import Mathlib.Data.Option.Basic
import Mathlib.Order.Basic

set_option autoImplicit false

/-! # Objects as maps

An object that has a key several times tells of it what stands last (`Json.last?`), and two objects
are the same if they tell the same of every key (`Json.Same`). The reader keeps the members of an
object in the order of their keys and each key once (`Json.ascending_ordered`), and of every key it
keeps what the object tells (`Json.last?_ordered`). So a value in order is the same as the value
(`Json.Plain.same_normal`).
-/

namespace DepositTrail.Json

/-! ## Values under keys -/

/-- The value under a key, the last one if there are several. -/
def last? (key : Text) (members : List (Text × Json)) : Option Json := member? key members.reverse

/-- The same value: the lists have the same values in the same order, and the objects have the same
keys and the same values under them, where of equal keys the last one counts. -/
inductive Same : Json → Json → Prop
  | refl (v : Json) : Same v v
  | arr {items items' : List Json} (h : List.Forall₂ Same items items') :
      Same (.arr items) (.arr items')
  | obj {members members' : List (Text × Json)}
      (h : ∀ key, Option.Rel Same (last? key members) (last? key members')) :
      Same (.obj members) (.obj members')

theorem member?_cons (key k : Text) (v : Json) (members : List (Text × Json)) :
    member? key ((k, v) :: members) = if k = key then some v else member? key members := by
  unfold member?
  split_ifs with h <;> simp [h]

theorem member?_append (key : Text) (front back : List (Text × Json)) :
    member? key (front ++ back) = (member? key front).or (member? key back) := by
  unfold member?
  rw [List.find?_append, Option.map_or]

theorem last?_cons (key k : Text) (v : Json) (members : List (Text × Json)) :
    last? key ((k, v) :: members)
      = (last? key members).or (if k = key then some v else none) := by
  rw [last?, List.reverse_cons, member?_append, member?_cons]
  rfl

theorem last?_concat (key k : Text) (v : Json) (members : List (Text × Json)) :
    last? key (members ++ [(k, v)]) = if k = key then some v else last? key members := by
  rw [last?, List.reverse_append, List.reverse_singleton, List.singleton_append, member?_cons]
  rfl

theorem mem_of_last? {key : Text} {v : Json} {members : List (Text × Json)}
    (h : last? key members = some v) : (key, v) ∈ members := by
  obtain ⟨m, hm, rfl⟩ := Option.map_eq_some_iff.mp h
  have hkey : m.1 = key := by simpa using List.find?_some hm
  have hmem := List.mem_of_find?_eq_some hm
  rw [List.mem_reverse] at hmem
  rwa [← hkey]

/-! ## Members in order -/

/-- The keys ascend, so that none is there twice. -/
def Ascending (members : List (Text × Json)) : Prop :=
  (members.map Prod.fst).Pairwise (· < ·)

/-- Members in the order of their keys, each key once. -/
def ordered (members : List (Text × Json)) : List (Text × Json) :=
  members.foldl (fun sorted m => insertMember m.1 m.2 sorted) []

theorem ordered_concat (members : List (Text × Json)) (m : Text × Json) :
    ordered (members ++ [m]) = insertMember m.1 m.2 (ordered members) := by
  rw [ordered, List.foldl_append]
  rfl

theorem member?_insertMember (key k : Text) (v : Json) (members : List (Text × Json)) :
    member? key (insertMember k v members) = if k = key then some v else member? key members := by
  induction members with
  | nil => rw [insertMember, member?_cons]
  | cons m members ih =>
      obtain ⟨k', v'⟩ := m
      unfold insertMember
      by_cases hsame : k = k'
      · subst hsame
        rw [if_pos rfl, member?_cons, member?_cons]
        split_ifs <;> rfl
      by_cases hless : k < k'
      · rw [if_neg hsame, if_pos hless, member?_cons]
      rw [if_neg hsame, if_neg hless, member?_cons, member?_cons, ih]
      -- the two keys are not the same, so at most one of them is the wanted one
      by_cases hkey : k = key
      · rw [if_pos hkey, if_pos hkey, if_neg fun h => hsame (hkey.trans h.symm)]
      · rw [if_neg hkey, if_neg hkey]

theorem keys_insertMember (k : Text) (v : Json) (members : List (Text × Json)) :
    ∀ key ∈ (insertMember k v members).map Prod.fst, key = k ∨ key ∈ members.map Prod.fst := by
  induction members with
  | nil => simp [insertMember]
  | cons m members ih =>
      obtain ⟨k', v'⟩ := m
      unfold insertMember
      intro key hkey
      split_ifs at hkey with hsame hless
      · subst hsame
        exact .inr hkey
      · exact List.mem_cons.mp hkey
      · rcases List.mem_cons.mp hkey with rfl | hkey
        · exact .inr List.mem_cons_self
        · exact (ih key hkey).imp_right (List.mem_cons_of_mem _)

theorem ascending_insertMember (k : Text) (v : Json) {members : List (Text × Json)}
    (h : Ascending members) : Ascending (insertMember k v members) := by
  induction members with
  | nil => simp [insertMember, Ascending]
  | cons m members ih =>
      obtain ⟨k', v'⟩ := m
      obtain ⟨hfirst, hrest⟩ := List.pairwise_cons.mp h
      unfold insertMember
      split_ifs with hsame hless
      · subst hsame
        exact h
      · refine List.pairwise_cons.mpr ⟨fun key hkey => ?_, h⟩
        rcases List.mem_cons.mp hkey with rfl | hkey
        · exact hless
        · exact lt_trans hless (hfirst key hkey)
      · have hmore : k' < k := lt_of_le_of_ne (not_lt.mp hless) (Ne.symm hsame)
        refine List.pairwise_cons.mpr ⟨fun key hkey => ?_, ih hrest⟩
        rcases keys_insertMember k v members key hkey with rfl | hkey
        · exact hmore
        · exact hfirst key hkey

theorem ascending_ordered (members : List (Text × Json)) : Ascending (ordered members) := by
  induction members using List.reverseRecOn with
  | nil => exact List.Pairwise.nil
  | append_singleton members m ih =>
      rw [ordered_concat]
      exact ascending_insertMember m.1 m.2 ih

/-- Where no key is there twice, the last value under a key is the only one. -/
theorem last?_eq_member? (key : Text) {members : List (Text × Json)} (h : Ascending members) :
    last? key members = member? key members := by
  induction members with
  | nil => rfl
  | cons m members ih =>
      obtain ⟨k, v⟩ := m
      obtain ⟨hfirst, hrest⟩ := List.pairwise_cons.mp h
      rw [last?_cons, member?_cons]
      split_ifs with hkey
      · have hnone : last? key members = none := by
          refine Option.eq_none_iff_forall_ne_some.mpr fun w hw => ?_
          have hmem : key ∈ members.map Prod.fst := List.mem_map_of_mem (mem_of_last? hw)
          exact absurd hkey (ne_of_lt (hfirst key hmem))
        rw [hnone, Option.none_or]
      · rw [Option.or_none, ih hrest]

/-- **Members in order** tell of every key what the members tell. -/
theorem last?_ordered (key : Text) (members : List (Text × Json)) :
    last? key (ordered members) = last? key members := by
  rw [last?_eq_member? key (ascending_ordered members)]
  induction members using List.reverseRecOn with
  | nil => rfl
  | append_singleton members m ih =>
      obtain ⟨k, v⟩ := m
      rw [ordered_concat, member?_insertMember, last?_concat, ih]

/-! ## Values in order -/

theorem normalItems_eq_map (items : List Json) : normalItems items = items.map normal := by
  induction items with
  | nil => rfl
  | cons v items ih => rw [normalItems, ih, List.map_cons]

theorem last?_normalMembers (key : Text) (members : List (Text × Json)) :
    last? key (normalMembers members) = (last? key members).map normal := by
  induction members with
  | nil => rfl
  | cons m members ih =>
      obtain ⟨k, v⟩ := m
      rw [normalMembers, last?_cons, last?_cons, ih, Option.map_or]
      split_ifs <;> rfl

/-- **A value in order** is the same value. -/
theorem Plain.same_normal {depth : ℕ} {v : Json} (h : Plain depth v) : Same v v.normal := by
  induction h with
  | null | bool b | int h | str t => exact .refl _
  | @arr depth items h ih =>
      rw [normal, normalItems_eq_map]
      exact .arr (List.forall₂_map_right_iff.mpr (List.forall₂_same.mpr ih))
  | @obj depth members h ih =>
      change Same (.obj members) (.obj (ordered (normalMembers members)))
      refine .obj fun key => ?_
      rw [last?_ordered, last?_normalMembers]
      cases hv : last? key members with
      | none => exact .none
      | some v => exact .some (ih (key, v) (mem_of_last? hv))

end DepositTrail.Json
