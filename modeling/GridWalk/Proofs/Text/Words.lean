import GridWalk.Proofs.Text.Trim
import GridWalk.Text.Cut
import GridWalk.Text.Word

/-! Words between blanks.  No character of a name or a numeral is blank, so a word ends where a
blank or a sign begins, and a text is cut at a separator that starts at no earlier place. -/

namespace GridWalk.Text

/-! ### Characters -/

/-- A name: a letter or `_`, and then letters, digits and `_`. -/
inductive Name : List Char → Prop
  | mk {c : Char} {cs : List Char} (first : c.isAlpha = true ∨ c = '_')
      (rest : ∀ d ∈ cs, d.isAlphanum = true ∨ d = '_') : Name (c :: cs)

theorem isNamePart_eq_true_iff {c : Char} :
    isNamePart c = true ↔ c.isAlphanum = true ∨ c = '_' := by
  simp [isNamePart]

theorem isName_eq_true_iff {cs : List Char} : isName cs = true ↔ Name cs := by
  constructor
  · intro h
    cases cs with
    | nil => cases h
    | cons c cs =>
      simp only [isName, isNameStart, Bool.and_eq_true, Bool.or_eq_true, beq_iff_eq,
        List.all_eq_true] at h
      exact .mk h.1 fun d hd => isNamePart_eq_true_iff.1 (h.2 d hd)
  · rintro ⟨first, rest⟩
    simp only [isName, isNameStart, Bool.and_eq_true, Bool.or_eq_true, beq_iff_eq,
      List.all_eq_true]
    exact ⟨first, fun d hd => isNamePart_eq_true_iff.2 (rest d hd)⟩

theorem Name.forall_isNamePart {cs : List Char} (h : Name cs) : ∀ c ∈ cs, isNamePart c = true := by
  intro c hc
  obtain ⟨first, rest⟩ := h
  rw [isNamePart_eq_true_iff]
  rcases List.mem_cons.1 hc with rfl | hc
  · rcases first with first | first
    · exact .inl (by simp [Char.isAlphanum, first])
    · exact .inr first
  · exact rest c hc

theorem isNamePart_of_isDigit {c : Char} (h : c.isDigit = true) : isNamePart c = true := by
  simp [isNamePart, Char.isAlphanum, h]

theorem toNat_bounds_of_isAlphanum {c : Char} (h : c.isAlphanum = true) :
    48 ≤ c.toNat ∧ c.toNat ≤ 122 := by
  have bounds {low high : UInt32} (hlow : low ≤ c.val) (hhigh : c.val ≤ high) :
      low.toNat ≤ c.toNat ∧ c.toNat ≤ high.toNat :=
    ⟨UInt32.le_iff_toNat_le.1 hlow, UInt32.le_iff_toNat_le.1 hhigh⟩
  rcases (Bool.or_eq_true _ _).mp h with letter | digit
  · rcases (Bool.or_eq_true _ _).mp letter with upper | lower
    · obtain ⟨hlow, hhigh⟩ := bounds (of_decide_eq_true upper).1 (of_decide_eq_true upper).2
      exact ⟨Nat.le_trans (by decide) hlow, Nat.le_trans hhigh (by decide)⟩
    · obtain ⟨hl, hh⟩ := (Bool.and_eq_true _ _).mp lower
      obtain ⟨hlow, hhigh⟩ := bounds (of_decide_eq_true hl) (of_decide_eq_true hh)
      exact ⟨Nat.le_trans (by decide) hlow, Nat.le_trans hhigh (by decide)⟩
  · obtain ⟨hlow, hhigh⟩ := Char.isDigit_iff_toNat.1 digit
    exact ⟨hlow, Nat.le_trans hhigh (by decide)⟩

/-- Letters, digits and `_` lie between the two groups of blanks of ASCII and beyond. -/
theorem isBlank_eq_false_of_isNamePart {c : Char} (h : isNamePart c = true) :
    isBlank c = false := by
  have bounds : 48 ≤ c.toNat ∧ c.toNat ≤ 122 := by
    rcases isNamePart_eq_true_iff.1 h with halphanum | rfl
    · exact toNat_bounds_of_isAlphanum halphanum
    · decide
  simp only [isBlank, Bool.or_eq_false_iff, Bool.and_eq_false_iff, decide_eq_false_iff_not,
    beq_eq_false_iff_ne]
  omega

theorem isNamePart_eq_false_of_isBlank {c : Char} (h : isBlank c = true) :
    isNamePart c = false := by
  by_contra hpart
  simp [isBlank_eq_false_of_isNamePart (by simpa using hpart)] at h

theorem Blanks.not_mem {cs : List Char} {c : Char} (h : Blanks cs) (hc : isBlank c = false) :
    c ∉ cs := by
  intro hmem
  rw [h c hmem] at hc
  cases hc

theorem Name.not_mem {cs : List Char} {c : Char} (h : Name cs) (hc : isNamePart c = false) :
    c ∉ cs := by
  intro hmem
  rw [h.forall_isNamePart c hmem] at hc
  cases hc

theorem Name.not_blank {cs : List Char} (h : Name cs) : ∀ c ∈ cs, isBlank c = false :=
  fun c hc => isBlank_eq_false_of_isNamePart (h.forall_isNamePart c hc)

theorem Name.ne_nil {cs : List Char} (h : Name cs) : cs ≠ [] := by
  obtain ⟨-, -⟩ := h
  exact List.cons_ne_nil _ _

theorem Name.tight {cs : List Char} (h : Name cs) : Tight cs := .of_forall h.not_blank

/-! ### Where words end -/

section Munch

variable {p : Char → Bool} {w w' v v' : List Char}

theorem takeWhile_append_eq_left (hw : ∀ c ∈ w, p c = true) (hv : ∀ c ∈ v.head?, p c = false) :
    (w ++ v).takeWhile p = w := by
  have hstop : v.takeWhile p = [] := by
    cases v with
    | nil => rfl
    | cons c v => exact List.takeWhile_cons_of_neg (by simp [hv c rfl])
  rw [List.takeWhile_append_of_pos hw, hstop, List.append_nil]

/-- A text has only one longest start of characters that satisfy `p`. -/
theorem eq_of_append_eq_append (h : w ++ v = w' ++ v') (hw : ∀ c ∈ w, p c = true)
    (hv : ∀ c ∈ v.head?, p c = false) (hw' : ∀ c ∈ w', p c = true)
    (hv' : ∀ c ∈ v'.head?, p c = false) : w = w' ∧ v = v' := by
  have hsame : w = w' := by
    rw [← takeWhile_append_eq_left hw hv, h, takeWhile_append_eq_left hw' hv']
  subst hsame
  exact ⟨rfl, List.append_cancel_left h⟩

end Munch

/-- Between blanks, a character that is not blank and follows a blank starts the word. -/
theorem cons_eq_word_append {b word b' u v : List Char} {c d : Char} (hb : Blanks b)
    (hword : ∀ c ∈ word, isBlank c = false) (hb' : Blanks b') (hc : isBlank c = true)
    (hd : isBlank d = false) (h : b ++ word ++ b' = u ++ c :: d :: v) : d :: v = word ++ b' := by
  induction b generalizing u with
  | nil =>
    have hnot : d ∉ b' := hb'.not_mem hd
    exfalso
    rcases List.append_eq_append_iff.1 h with ⟨s, -, hs⟩ | ⟨s, hs, hs'⟩
    · exact hnot (by simp [hs])
    cases s with
    | nil =>
      rw [List.nil_append] at hs'
      exact hnot (by simp [← hs'])
    | cons c' s =>
      obtain ⟨rfl, -⟩ := List.cons.inj hs'
      have hmem : c ∈ [] ++ word := by simp [hs]
      simp [hword c hmem] at hc
  | cons c' b ih =>
    cases u with
    | cons c'' u => exact ih (fun c hc => hb c (List.mem_cons_of_mem _ hc)) (List.cons.inj h).2
    | nil =>
      have hrest : b ++ word ++ b' = d :: v := (List.cons.inj h).2
      cases b with
      | nil => exact hrest.symm
      | cons c'' b =>
        obtain ⟨rfl, -⟩ := List.cons.inj hrest
        simp [hb c'' (by simp)] at hd

/-! ### Cutting -/

theorem afterPrefix?_eq_none_iff {word cs : List Char} :
    afterPrefix? word cs = none ↔ ¬ word <+: cs := by
  rw [Option.eq_none_iff_forall_ne_some]
  constructor
  · rintro h ⟨rest, rfl⟩
    exact h rest (afterPrefix?_eq_some_iff.2 rfl)
  · intro h rest hrest
    exact h ⟨rest, (afterPrefix?_eq_some_iff.1 hrest).symm⟩

/-- A text is cut where its first part ends, if the separator starts at no place of that part. -/
theorem cut?_append {sep before after : List Char}
    (h : ∀ u v, before = u ++ v → v ≠ [] → ¬ sep <+: v ++ sep ++ after) :
    cut? sep (before ++ sep ++ after) = some (before, after) := by
  induction before with
  | nil =>
    have hsep : afterPrefix? sep (sep ++ after) = some after := afterPrefix?_eq_some_iff.2 rfl
    cases hcs : sep ++ after with
    | nil => simp_all [cut?]
    | cons c cs =>
      rw [hcs] at hsep
      simp only [List.nil_append, hcs, cut?, hsep]
  | cons c before ih =>
    have hhere : afterPrefix? sep (c :: before ++ sep ++ after) = none :=
      afterPrefix?_eq_none_iff.2 (h [] _ rfl (List.cons_ne_nil _ _))
    have hrest := ih fun u v huv hv => h (c :: u) v (congrArg _ huv) hv
    rw [List.cons_append, List.cons_append] at hhere ⊢
    simp only [cut?, hhere, hrest, Option.map_some]

theorem cut?_singleton {c : Char} {before after : List Char} (h : c ∉ before) :
    cut? [c] (before ++ c :: after) = some (before, after) := by
  have hcut : cut? [c] (before ++ [c] ++ after) = some (before, after) := by
    refine cut?_append fun u v huv hv hpre => h ?_
    cases v with
    | nil => exact absurd rfl hv
    | cons d v =>
      obtain ⟨rfl, -⟩ := List.cons_prefix_cons.1 hpre
      simp [huv]
  simpa using hcut

end GridWalk.Text
