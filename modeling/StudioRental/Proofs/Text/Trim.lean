import StudioRental.Text.Blank

/-!
Trimming blanks.

A list of characters is trimmed when it neither starts nor ends with a blank. `trimBlank` cuts
every text into blanks, a trimmed core and blanks (`trimBlank_decompose`), and a text so cut
trims to its core (`trimBlank_of_decompose`); so trimming is idempotent. ASCII case does not
change whether a character is blank (`isBlank_toLower`), which is what lets a comparison without
case ignore the blanks around a text.
-/

namespace StudioRental

namespace Text

/-- Neither the first nor the last character is blank. -/
def Trimmed (cs : List Char) : Prop :=
  (∀ c ∈ cs.head?, isBlank c = false) ∧ (∀ c ∈ cs.getLast?, isBlank c = false)

theorem trimBlank_toList (s : String) :
    (trimBlank s).toList =
      ((s.toList.dropWhile isBlank).reverse.dropWhile isBlank).reverse := by
  simp [trimBlank, trimBlankStart]

/-- Blanks, a trimmed core and blanks trim to the core. -/
theorem trimBlank_of_decompose {pre core post : List Char} (hpre : ∀ c ∈ pre, isBlank c = true)
    (hpost : ∀ c ∈ post, isBlank c = true) (hcore : Trimmed core) :
    trimBlank (String.ofList (pre ++ core ++ post)) = String.ofList core := by
  apply String.toList_injective
  rw [trimBlank_toList, String.toList_ofList, String.toList_ofList, List.append_assoc,
    List.dropWhile_append_of_pos hpre]
  cases core with
  | nil =>
    have hdrop : post.dropWhile isBlank = [] := by
      simpa using @List.dropWhile_append_of_pos Char isBlank post [] hpost
    rw [List.nil_append, hdrop]
    rfl
  | cons c cs =>
    have hc : isBlank c = false := hcore.1 c rfl
    -- Read from the back, the core starts with its last character, which is not blank either.
    obtain ⟨d, ds, hrev⟩ : ∃ d ds, (c :: cs).reverse = d :: ds :=
      List.exists_cons_of_ne_nil (by simp)
    have hd : isBlank d = false := hcore.2 d (by
      rw [← List.head?_reverse, hrev]
      rfl)
    rw [List.cons_append, List.dropWhile_cons_of_neg (by simp [hc]), ← List.cons_append,
      List.reverse_append, hrev,
      List.dropWhile_append_of_pos fun x hx => hpost x (List.mem_reverse.1 hx),
      List.dropWhile_cons_of_neg (by simp [hd]), ← hrev, List.reverse_reverse]

/-- Every text is blanks, its trimmed form and blanks. -/
theorem trimBlank_decompose (s : String) :
    ∃ pre post : List Char, (∀ c ∈ pre, isBlank c = true) ∧ (∀ c ∈ post, isBlank c = true) ∧
      s.toList = pre ++ (trimBlank s).toList ++ post ∧ Trimmed (trimBlank s).toList := by
  -- the blanks cut from the front, and then from the back of what is left
  obtain ⟨rest, hrest⟩ : ∃ rest, rest = s.toList.dropWhile isBlank := ⟨_, rfl⟩
  obtain ⟨core, hcore⟩ : ∃ core, core = rest.reverse.dropWhile isBlank := ⟨_, rfl⟩
  have hfront : s.toList = s.toList.takeWhile isBlank ++ rest := by
    rw [hrest, List.takeWhile_append_dropWhile]
  have hback : rest.reverse = rest.reverse.takeWhile isBlank ++ core := by
    rw [hcore, List.takeWhile_append_dropWhile]
  have htrim : (trimBlank s).toList = core.reverse := by rw [trimBlank_toList, ← hrest, ← hcore]
  refine ⟨s.toList.takeWhile isBlank, (rest.reverse.takeWhile isBlank).reverse,
    fun c hc => List.all_eq_true.1 List.all_takeWhile c hc,
    fun c hc => List.all_eq_true.1 List.all_takeWhile c (List.mem_reverse.1 hc), ?_, ?_⟩
  · rw [htrim, List.append_assoc, ← List.reverse_append, ← hback, List.reverse_reverse]
    exact hfront
  · rw [htrim]
    constructor
    · -- The first character of the trimmed text is the last one kept from the back, which is
      -- the first one kept from the front.
      intro c hc
      rw [List.head?_reverse] at hc
      have hne : core ≠ [] := by rintro h; simp [h] at hc
      have hlast : core.getLast? = rest.head? := by
        rw [← List.getLast?_reverse, hback, List.getLast?_append]
        cases h : core.getLast? with
        | none => simp [List.getLast?_eq_none_iff.1 h] at hne
        | some x => rfl
      rw [hlast, hrest, Option.mem_def] at hc
      have := List.head?_dropWhile_not isBlank s.toList
      rw [hc] at this
      exact this
    · intro c hc
      rw [List.getLast?_reverse] at hc
      have hne : core ≠ [] := by rintro h; simp [h] at hc
      rw [List.head?_eq_some_head hne, Option.mem_some_iff] at hc
      rw [← hc]
      subst hcore
      exact List.head_dropWhile_not isBlank hne

theorem trimBlank_trimBlank (s : String) : trimBlank (trimBlank s) = trimBlank s := by
  obtain ⟨-, -, -, -, -, htrim⟩ := trimBlank_decompose s
  have := @trimBlank_of_decompose [] _ [] (by simp) (by simp) htrim
  rwa [List.nil_append, List.append_nil, String.ofList_toList] at this

theorem isBlank_of_lt {c : Char} (h₁ : 32 < c.val.toNat) (h₂ : c.val.toNat < 133) :
    isBlank c = false := by
  simp only [isBlank, Char.toNat, Bool.or_eq_false_iff, Bool.and_eq_false_iff,
    decide_eq_false_iff_not, beq_eq_false_iff_ne, ne_eq]
  omega

theorem isBlank_of_isDigit {c : Char} (h : c.isDigit = true) : isBlank c = false := by
  simp only [Char.isDigit, Bool.and_eq_true, decide_eq_true_eq, ge_iff_le,
    UInt32.le_iff_toNat_le] at h
  have h0 : '0'.val.toNat = 48 := rfl
  have h9 : '9'.val.toNat = 57 := rfl
  exact isBlank_of_lt (by omega) (by omega)

theorem trimBlankStart_cons {c : Char} (h : isBlank c = false) (cs : List Char) :
    trimBlankStart (c :: cs) = c :: cs := by
  simp [trimBlankStart, h]

/-- Lowering the case of a character does not make it blank, nor stop it being blank. -/
theorem isBlank_toLower (c : Char) : isBlank c.toLower = isBlank c := by
  unfold Char.toLower
  split
  · rename_i h
    have hletter : 65 ≤ c.val.toNat ∧ c.val.toNat ≤ 90 := by
      simp only [ge_iff_le, UInt32.le_iff_toNat_le] at h
      exact ⟨h.1, h.2⟩
    have hshift : (c.val + ('a'.val - 'A'.val)).toNat = c.val.toNat + 32 := by
      rw [show 'a'.val - 'A'.val = 32 from rfl, UInt32.toNat_add]
      simp only [UInt32.reduceToNat]
      omega
    rw [isBlank_of_lt (c := ⟨_, _⟩) (by simp only [hshift]; omega) (by simp only [hshift]; omega),
      isBlank_of_lt (by omega) (by omega)]
  · rfl

end Text

end StudioRental
