/-
Lists put together item by item.

A list is a merge of others when it is made of their items and each of them keeps its order.
Nothing says which of them an item is taken from next, so a merge stands for the trace of what
goes on side by side in any order.
-/

import Mathlib.Data.List.Forall2
import Mathlib.Data.List.Perm.Basic

namespace ContractSurvey
namespace Pool

variable {Item : Type}

/-- The items of two lists, each in its order. -/
inductive Merges : List Item → List Item → List Item → Prop
  | nil : Merges [] [] []
  | first {item : Item} {part others whole : List Item} (rest : Merges part others whole) :
      Merges (item :: part) others (item :: whole)
  | second {item : Item} {part others whole : List Item} (rest : Merges part others whole) :
      Merges part (item :: others) (item :: whole)

/-- The items of any number of lists, each in its order. -/
inductive MergesAll : List (List Item) → List Item → Prop
  | nil : MergesAll [] []
  | cons {part others whole : List Item} {parts : List (List Item)}
      (rest : MergesAll parts others) (mixed : Merges part others whole) :
      MergesAll (part :: parts) whole

theorem Merges.perm {part others whole : List Item} (mixed : Merges part others whole) :
    whole.Perm (part ++ others) := by
  induction mixed with
  | nil => exact List.Perm.refl _
  | first _ ih => exact ih.cons _
  | second _ ih => exact (ih.cons _).trans List.perm_middle.symm

/-- Items that come first can all be those of the second list. -/
theorem Merges.behind {part others whole : List Item} (mixed : Merges part others whole)
    (front : List Item) : Merges part (front ++ others) (front ++ whole) := by
  induction front with
  | nil => exact mixed
  | cons _ _ ih => exact .second ih

theorem merges_append (part others : List Item) : Merges part others (part ++ others) := by
  induction part with
  | nil =>
      have alone := Merges.nil.behind others
      rwa [List.append_nil] at alone
  | cons _ _ ih => exact .first ih

/-- Every item of a list stands in what it is merged into. -/
theorem MergesAll.subset {parts : List (List Item)} {whole part : List Item}
    (merged : MergesAll parts whole) (member : part ∈ parts) : part ⊆ whole := by
  induction merged with
  | nil => cases member
  | cons rest mixed ih =>
      intro item inPart
      apply mixed.perm.mem_iff.mpr
      rcases List.mem_cons.mp member with rfl | later
      · exact List.mem_append_left _ inPart
      · exact List.mem_append_right _ (ih later inPart)

theorem MergesAll.exists_of_mem {parts : List (List Item)} {whole : List Item} {item : Item}
    (merged : MergesAll parts whole) (member : item ∈ whole) : ∃ part ∈ parts, item ∈ part := by
  induction merged with
  | nil => cases member
  | cons rest mixed ih =>
      rcases List.mem_append.mp (mixed.perm.mem_iff.mp member) with own | behind
      · exact ⟨_, List.mem_cons_self .., own⟩
      · obtain ⟨part, among, inPart⟩ := ih behind
        exact ⟨part, List.mem_cons_of_mem _ among, inPart⟩

/-! ### Some of the items -/

theorem Merges.filter (keeps : Item → Bool) {part others whole : List Item}
    (mixed : Merges part others whole) :
    Merges (part.filter keeps) (others.filter keeps) (whole.filter keeps) := by
  induction mixed with
  | nil => exact .nil
  | @first item _ _ _ _ ih =>
      cases kept : keeps item with
      | false => simpa only [List.filter_cons, kept, Bool.false_eq_true, if_false] using ih
      | true => simpa only [List.filter_cons, kept, if_true] using ih.first
  | @second item _ _ _ _ ih =>
      cases kept : keeps item with
      | false => simpa only [List.filter_cons, kept, Bool.false_eq_true, if_false] using ih
      | true => simpa only [List.filter_cons, kept, if_true] using ih.second

theorem Merges.eq_first {part whole : List Item} (mixed : Merges part [] whole) :
    whole = part := by
  induction whole generalizing part with
  | nil =>
      cases mixed
      rfl
  | cons item rest ih =>
      cases mixed with
      | first later => rw [ih later]

theorem Merges.eq_second {others whole : List Item} (mixed : Merges [] others whole) :
    whole = others := by
  induction whole generalizing others with
  | nil =>
      cases mixed
      rfl
  | cons item rest ih =>
      cases mixed with
      | second later => rw [ih later]

/-! ### Parts with owners -/

section Owners

variable {Owner : Type} [DecidableEq Owner] {owner : Item → Owner}
  {owners : List Owner} {parts : List (List Item)} {whole : List Item}

private theorem filter_owner_eq_self {part : List Item} {name : Owner}
    (owned : ∀ item ∈ part, owner item = name) :
    part.filter (fun item => owner item = name) = part := by
  simpa [List.filter_eq_self] using owned

private theorem filter_owner_eq_nil {part : List Item} {name other : Owner}
    (owned : ∀ item ∈ part, owner item = name) (differs : name ≠ other) :
    part.filter (fun item => owner item = other) = [] := by
  apply List.filter_eq_nil_iff.mpr
  intro item member
  simpa [owned item member] using differs

/-- Nothing in a merge belongs to an owner that has no part in it. -/
theorem MergesAll.filter_eq_nil {name : Owner} (merged : MergesAll parts whole)
    (owned : List.Forall₂ (fun name part => ∀ item ∈ part, owner item = name) owners parts)
    (absent : name ∉ owners) : whole.filter (fun item => owner item = name) = [] := by
  induction merged generalizing owners with
  | nil => rfl
  | cons rest mixed ih =>
      cases owned with
      | cons ofFirst ofOthers =>
          obtain ⟨differs, missing⟩ := List.ne_and_not_mem_of_not_mem_cons absent
          have kept := mixed.filter fun item => owner item = name
          rw [ih ofOthers missing, filter_owner_eq_nil ofFirst (Ne.symm differs)] at kept
          exact kept.eq_first

/-- An owner that has one part in a merge owns the items of this part and no others. -/
theorem MergesAll.forall₂_filter (merged : MergesAll parts whole)
    (owned : List.Forall₂ (fun name part => ∀ item ∈ part, owner item = name) owners parts) :
    List.Forall₂ (fun name part => owners.count name = 1 →
      whole.filter (fun item => owner item = name) = part) owners parts := by
  induction merged generalizing owners with
  | nil =>
      cases owned
      exact .nil
  | cons rest mixed ih =>
      cases owned with
      | @cons first _ names _ ofFirst ofOthers =>
          have among := (List.forall₂_and_left ..).mpr ⟨fun _ member => member, ih ofOthers⟩
          refine .cons ?_ (among.imp ?_)
          · intro once
            rw [List.count_cons_self, Nat.add_eq_right] at once
            have absent : first ∉ names := List.count_eq_zero.mp once
            have kept := mixed.filter fun item => owner item = first
            rw [rest.filter_eq_nil ofOthers absent, filter_owner_eq_self ofFirst] at kept
            exact kept.eq_first
          · rintro name part ⟨listed, own⟩ once
            -- The name occurs among the later ones, so the first is another.
            have later : 0 < names.count name := List.count_pos_iff.mpr listed
            have differs : first ≠ name := by
              rintro rfl
              rw [List.count_cons_self] at once
              omega
            rw [List.count_cons_of_ne differs] at once
            have kept := mixed.filter fun item => owner item = name
            rw [filter_owner_eq_nil ofFirst differs] at kept
            exact kept.eq_second.trans (own once)

end Owners

end Pool
end ContractSurvey
