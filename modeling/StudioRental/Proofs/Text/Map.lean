import StudioRental.Text.Map
import StudioRental.Error
import Mathlib.Data.String.Basic
import Mathlib.Data.List.Perm.Basic

/-!
Maps of text built by entering keys one at a time.

A map is ordered when its keys strictly increase (`TextMap.Ordered`). Entering a key keeps a map
ordered; entering a key that is not there adds exactly its entry (`insert_perm`), and entering a
key after every key of the map puts it last (`insert_of_lt`). Two readings of a fold that enters
entries follow: entering distinct new keys adds exactly their entries (`foldl_insert_perm`), and
entering the entries of an ordered list one by one rebuilds that list (`foldl_insert_ordered`).
The last part, `foldlM_enter_eq_ok_iff`, reads a checked fold, one that refuses a bad entry or a
key entered before, as the plain fold under a condition on its entries.
-/

namespace StudioRental

namespace TextMap

/-- The keys strictly increase, so each is there once. -/
def Ordered (m : TextMap) : Prop := (m.map Prod.fst).Pairwise (· < ·)

instance : DecidablePred Ordered := fun m => inferInstanceAs (Decidable ((m.map Prod.fst).Pairwise _))

variable {k v : String} {m : TextMap}

theorem mem_keys_insert (x : String) :
    x ∈ (insert k v m).map Prod.fst ↔ x = k ∨ x ∈ m.map Prod.fst := by
  induction m with
  | nil => simp [insert]
  | cons e rest ih =>
    obtain ⟨k', v'⟩ := e
    unfold insert
    split
    · rename_i heq
      subst heq
      simp
    · split
      · simp
      · simp only [List.map_cons, List.mem_cons, ih]
        tauto

/-- Entering a key that is not there adds exactly its entry. -/
theorem insert_perm (h : k ∉ m.map Prod.fst) : (insert k v m).Perm ((k, v) :: m) := by
  induction m with
  | nil => exact List.Perm.refl _
  | cons e rest ih =>
    obtain ⟨k', v'⟩ := e
    have hne : k ≠ k' := fun heq => h (by simp [heq])
    have hrest : k ∉ rest.map Prod.fst := fun hk => h (List.mem_cons_of_mem _ hk)
    unfold insert
    rw [if_neg hne]
    split
    · exact List.Perm.refl _
    · exact ((ih hrest).cons _).trans (List.Perm.swap _ _ _)

/-- A key after every key of the map is entered last. -/
theorem insert_of_lt (h : ∀ x ∈ m.map Prod.fst, x < k) : insert k v m = m ++ [(k, v)] := by
  induction m with
  | nil => rfl
  | cons e rest ih =>
    obtain ⟨k', v'⟩ := e
    have hlt : k' < k := h k' List.mem_cons_self
    unfold insert
    rw [if_neg (ne_of_gt hlt), if_neg (lt_asymm hlt),
      ih fun x hx => h x (List.mem_cons_of_mem _ hx)]
    rfl

theorem Ordered.insert (h : Ordered m) : Ordered (insert k v m) := by
  induction m with
  | nil => exact List.pairwise_singleton _ _
  | cons e rest ih =>
    obtain ⟨k', v'⟩ := e
    have hm := List.pairwise_cons.1 h
    unfold TextMap.insert
    split
    · rename_i heq
      subst heq
      exact h
    · rename_i hne
      split
      · rename_i hlt
        exact List.pairwise_cons.2 ⟨fun x hx => by
          rcases List.mem_cons.1 hx with rfl | hx
          · exact hlt
          · exact lt_trans hlt (hm.1 x hx), h⟩
      · rename_i hnlt
        -- `k'` stays first: it is below `k` and below every other key
        have hgt : k' < k := lt_of_le_of_ne (not_lt.1 hnlt) (Ne.symm hne)
        refine List.pairwise_cons.2 ⟨fun x hx => ?_, ih hm.2⟩
        rcases (mem_keys_insert x).1 hx with rfl | hx
        · exact hgt
        · exact hm.1 x hx

section Fold

variable {key : String × String → String}

/-- Entering distinct keys, none of them in the map yet, adds exactly their entries. -/
theorem foldl_insert_perm (l : List (String × String)) (acc : TextMap)
    (hnodup : (l.map key).Nodup) (hnew : ∀ e ∈ l, key e ∉ acc.map Prod.fst) :
    (l.foldl (fun m e => m.insert (key e) e.2) acc).Perm (acc ++ l.map fun e => (key e, e.2)) := by
  induction l generalizing acc with
  | nil => simp
  | cons e l ih =>
    obtain ⟨hfresh, hnodup⟩ := List.nodup_cons.1 hnodup
    -- after `e` is entered, the later keys are still new
    have hnew' : ∀ e' ∈ l, key e' ∉ (acc.insert (key e) e.2).map Prod.fst := by
      intro e' he' hk
      rcases (mem_keys_insert _).1 hk with heq | hk
      · exact hfresh (heq ▸ List.mem_map_of_mem he')
      · exact hnew e' (List.mem_cons_of_mem _ he') hk
    rw [List.foldl_cons, List.map_cons]
    refine (ih _ hnodup hnew').trans ?_
    refine ((insert_perm (hnew e List.mem_cons_self)).append_right _).trans ?_
    exact List.perm_middle.symm

theorem Ordered.foldl_insert {l : List (String × String)} {acc : TextMap} (h : Ordered acc) :
    Ordered (l.foldl (fun m e => m.insert (key e) e.2) acc) := by
  induction l generalizing acc with
  | nil => exact h
  | cons e l ih => exact ih h.insert

/-- Entering the entries of an ordered list one by one, after an ordered start that they all
follow, rebuilds the list. -/
theorem foldl_insert_ordered (l : List (String × String)) (acc : TextMap)
    (h : Ordered (acc ++ l)) : l.foldl (fun m e => m.insert e.1 e.2) acc = acc ++ l := by
  induction l generalizing acc with
  | nil => simp
  | cons e l ih =>
    have hlast : ∀ x ∈ acc.map Prod.fst, x < e.1 := by
      rw [Ordered, List.map_append, List.pairwise_append] at h
      exact fun x hx => h.2.2 x hx e.1 List.mem_cons_self
    rw [List.foldl_cons, insert_of_lt hlast, ih]
    · simp
    · rwa [List.append_assoc, List.singleton_append]

/-- A checked fold: each step enters an entry under its key, or refuses the entry when it is bad
or its key was entered before. It succeeds exactly when every entry is good and the keys are
distinct and new, and then gives the plain fold; a refusal names a broken rule. -/
theorem foldlM_enter_eq_ok_iff {good : String × String → Prop}
    {f : TextMap → String × String → Except Error TextMap}
    (hok : ∀ acc e, good e → key e ∉ acc.map Prod.fst → f acc e = .ok (acc.insert (key e) e.2))
    (herr : ∀ acc e, ¬ (good e ∧ key e ∉ acc.map Prod.fst) → ∃ t, f acc e = .error (.validation t))
    (l : List (String × String)) (acc M : TextMap) :
    l.foldlM f acc = .ok M ↔ (∀ e ∈ l, good e) ∧ (l.map key).Nodup ∧
      (∀ e ∈ l, key e ∉ acc.map Prod.fst) ∧ M = l.foldl (fun m e => m.insert (key e) e.2) acc := by
  induction l generalizing acc with
  | nil =>
    simp only [List.foldlM_nil, List.not_mem_nil, false_imp_iff, implies_true, List.map_nil,
      List.nodup_nil, List.foldl_nil, true_and]
    exact ⟨fun h => (Except.ok.inj h).symm, fun h => h ▸ rfl⟩
  | cons e l ih =>
    rw [List.foldlM_cons]
    by_cases hstep : good e ∧ key e ∉ acc.map Prod.fst
    · rw [hok acc e hstep.1 hstep.2]
      change l.foldlM f _ = .ok M ↔ _
      rw [ih]
      simp only [List.forall_mem_cons, List.map_cons, List.nodup_cons, List.foldl_cons,
        mem_keys_insert, not_or]
      constructor
      · rintro ⟨hgood, hnodup, hnew, rfl⟩
        refine ⟨⟨hstep.1, hgood⟩, ⟨fun hk => ?_, hnodup⟩, ⟨hstep.2, fun e' he' => (hnew e' he').2⟩, rfl⟩
        obtain ⟨e', he', hk⟩ := List.mem_map.1 hk
        exact (hnew e' he').1 hk
      · rintro ⟨⟨-, hgood⟩, ⟨hfresh, hnodup⟩, ⟨-, hnew⟩, rfl⟩
        exact ⟨hgood, hnodup, fun e' he' => ⟨fun hk => hfresh (hk ▸ List.mem_map_of_mem he'),
          hnew e' he'⟩, rfl⟩
    · obtain ⟨t, ht⟩ := herr acc e hstep
      rw [ht]
      refine iff_of_false (fun h => by cases h) ?_
      rintro ⟨hgood, -, hnew, -⟩
      exact hstep ⟨hgood e List.mem_cons_self, hnew e List.mem_cons_self⟩

theorem foldlM_enter_eq_error {f : TextMap → String × String → Except Error TextMap}
    (herr : ∀ acc e err, f acc e = .error err → ∃ t, err = .validation t)
    (l : List (String × String)) (acc : TextMap) (err : Error) (h : l.foldlM f acc = .error err) :
    ∃ t, err = .validation t := by
  induction l generalizing acc with
  | nil => cases h
  | cons e l ih =>
    rw [List.foldlM_cons] at h
    cases hstep : f acc e with
    | error e' =>
      rw [hstep] at h
      cases h
      exact herr acc e _ hstep
    | ok acc' =>
      rw [hstep] at h
      exact ih acc' h

end Fold

end TextMap

end StudioRental
