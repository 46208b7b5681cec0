/-
Registers of distinct keys.

Entering a key that is not there yet puts it behind the others.  So a list of entries under
distinct keys is the register that it is entered into, and its order is kept.
-/

import ContractSurvey.Register

namespace ContractSurvey
namespace Register

variable {Entry Key : Type} [DecidableEq Key]

theorem put_of_not_mem {register : Register Entry Key} {key : Key}
    (fresh : key ∉ register.keys) (entry : Entry) :
    put register key entry = register ++ [(key, entry)] := by
  induction register with
  | nil => rfl
  | cons first rest ih =>
      have other : first.1 ≠ key := by
        intro same
        exact fresh (same ▸ List.mem_cons_self ..)
      have behind : key ∉ keys rest := by
        intro member
        exact fresh (List.mem_cons_of_mem _ member)
      unfold put
      rw [if_neg other, ih behind]
      rfl

theorem get?_put_self (register : Register Entry Key) (key : Key) (entry : Entry) :
    (put register key entry).get? key = some entry := by
  induction register with
  | nil => exact if_pos rfl
  | cons first rest ih =>
      unfold put
      by_cases same : first.1 = key
      · rw [if_pos same]
        exact if_pos rfl
      · rw [if_neg same]
        exact (if_neg same).trans ih

theorem get?_put_of_ne {register : Register Entry Key} {key other : Key}
    (different : other ≠ key) (entry : Entry) :
    (put register key entry).get? other = register.get? other := by
  induction register with
  | nil => exact if_neg different.symm
  | cons first rest ih =>
      unfold put
      by_cases same : first.1 = key
      · rw [if_pos same]
        have distinct : first.1 ≠ other := by
          rw [same]
          exact different.symm
        unfold get?
        rw [if_neg different.symm, if_neg distinct]
      · rw [if_neg same]
        unfold get?
        rw [ih]

theorem get?_eq_none_iff (register : Register Entry Key) (key : Key) :
    register.get? key = none ↔ key ∉ register.keys := by
  induction register with
  | nil => exact iff_of_true rfl List.not_mem_nil
  | cons first rest ih =>
      change (if first.1 = key then some first.2 else get? rest key) = none ↔
        key ∉ first.1 :: keys rest
      by_cases same : first.1 = key
      · simp [same]
      · simp [same, ih, Ne.symm same]

theorem get?_append (front behind : Register Entry Key) (key : Key) :
    get? (front ++ behind) key = (front.get? key).or (behind.get? key) := by
  induction front with
  | nil => rfl
  | cons first rest ih =>
      change (if first.1 = key then some first.2 else get? (rest ++ behind) key) =
        (if first.1 = key then some first.2 else get? rest key).or _
      by_cases same : first.1 = key
      · rw [if_pos same, if_pos same]
        rfl
      · rw [if_neg same, if_neg same, ih]

/-- Under distinct keys each entry is found. -/
theorem get?_eq_some_iff {register : Register Entry Key} (distinct : register.keys.Nodup)
    (key : Key) (entry : Entry) :
    register.get? key = some entry ↔ (key, entry) ∈ register := by
  induction register with
  | nil => exact iff_of_false nofun List.not_mem_nil
  | cons first rest ih =>
      obtain ⟨fresh, later⟩ := List.nodup_cons.mp distinct
      change (if first.1 = key then some first.2 else get? rest key) = some entry ↔ _
      by_cases same : first.1 = key
      · have absent : (key, entry) ∉ rest := fun member =>
          fresh (same ▸ List.mem_map_of_mem member)
        rw [if_pos same, Option.some.injEq, List.mem_cons, or_iff_left absent, Prod.ext_iff]
        simp [same, eq_comm]
      · rw [if_neg same, ih later, List.mem_cons, or_iff_right]
        rintro rfl
        exact same rfl

private theorem foldl_put_of_nodup {register : Register Entry Key}
    {entries : List (Key × Entry)}
    (distinct : (register.keys ++ entries.map Prod.fst).Nodup) :
    entries.foldl (fun filled (key, entry) => put filled key entry) register =
      register ++ entries := by
  induction entries generalizing register with
  | nil => exact (List.append_nil _).symm
  | cons first rest ih =>
      obtain ⟨_, _, apart⟩ := List.nodup_append.mp distinct
      have fresh : first.1 ∉ register.keys := by
        intro member
        exact apart first.1 member first.1 (List.mem_cons_self ..) rfl
      have moved : (keys (register ++ [first]) ++ rest.map Prod.fst).Nodup := by
        unfold keys at distinct ⊢
        rwa [List.map_append, List.append_assoc]
      have later := ih moved
      rw [List.foldl_cons]
      change rest.foldl _ (put register first.1 first.2) = _
      rw [put_of_not_mem fresh, later, List.append_assoc]
      rfl

/-- Entries under distinct keys are kept as they are. -/
theorem ofEntries_of_nodup {entries : List (Key × Entry)}
    (distinct : (entries.map Prod.fst).Nodup) : ofEntries entries = entries :=
  foldl_put_of_nodup distinct

theorem mem_of_mem_put {register : Register Entry Key} {key : Key} {entry : Entry}
    {held : Key × Entry} (member : held ∈ put register key entry) :
    held = (key, entry) ∨ held ∈ register := by
  induction register with
  | nil => exact Or.inl (List.mem_singleton.mp member)
  | cons first rest ih =>
      unfold put at member
      split at member
      · rcases List.mem_cons.mp member with same | behind
        · exact Or.inl same
        · exact Or.inr (List.mem_cons_of_mem _ behind)
      · rcases List.mem_cons.mp member with rfl | behind
        · exact Or.inr (List.mem_cons_self ..)
        · exact (ih behind).imp_right (List.mem_cons_of_mem _)

private theorem mem_of_mem_foldl_put {register : Register Entry Key}
    {entries : List (Key × Entry)} {held : Key × Entry}
    (member : held ∈ entries.foldl (fun filled (key, entry) => put filled key entry) register) :
    held ∈ register ∨ held ∈ entries := by
  induction entries generalizing register with
  | nil => exact Or.inl member
  | cons first rest ih =>
      rcases ih member with before | behind
      · rcases mem_of_mem_put before with rfl | earlier
        · exact Or.inr (List.mem_cons_self ..)
        · exact Or.inl earlier
      · exact Or.inr (List.mem_cons_of_mem _ behind)

/-- What a register holds was entered. -/
theorem mem_of_mem_ofEntries {entries : List (Key × Entry)} {held : Key × Entry}
    (member : held ∈ ofEntries entries) : held ∈ entries :=
  (mem_of_mem_foldl_put member).resolve_left List.not_mem_nil

end Register
end ContractSurvey
