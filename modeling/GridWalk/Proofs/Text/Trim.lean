import GridWalk.Text.Blank
import Mathlib.Data.List.DropRight

/-! What trimming leaves.  A text is its trimmed part between two runs of blanks, and a part without
blanks at its ends is what trimming leaves of it.  The blanks are the characters of `whiteSpace`. -/

namespace GridWalk.Text

variable {b b' cs : List Char}

/-- The characters with the Unicode property `White_Space`. -/
def whiteSpace : List Char :=
  ['\t', '\n', '\x0b', '\x0c', '\r', ' ', '\u0085', '\u00a0', '\u1680', '\u2000', '\u2001',
    '\u2002', '\u2003', '\u2004', '\u2005', '\u2006', '\u2007', '\u2008', '\u2009', '\u200a',
    '\u2028', '\u2029', '\u202f', '\u205f', '\u3000']

theorem isBlank_eq_true_iff {c : Char} : isBlank c = true ↔ c ∈ whiteSpace := by
  have hcode : c ∈ whiteSpace ↔ c.toNat ∈ whiteSpace.map Char.toNat :=
    (List.mem_map_of_injective fun _ _ => Char.toNat_inj.1).symm
  rw [hcode]
  simp only [isBlank, Bool.or_eq_true, Bool.and_eq_true, decide_eq_true_eq, beq_iff_eq]
  simp [whiteSpace]
  omega

theorem isBlank_eq_false_iff {c : Char} : isBlank c = false ↔ c ∉ whiteSpace := by
  rw [← Bool.not_eq_true, isBlank_eq_true_iff]

/-- Nothing but blanks. -/
def Blanks (cs : List Char) : Prop := ∀ c ∈ cs, isBlank c = true

instance : Decidable (Blanks cs) :=
  decidable_of_iff (cs.all isBlank = true) List.all_eq_true

theorem blanks_iff : Blanks cs ↔ cs ⊆ whiteSpace :=
  forall₂_congr fun _ _ => isBlank_eq_true_iff

theorem Blanks.nil : Blanks [] := nofun

theorem Blanks.of_subset (h : Blanks cs) (hsub : b ⊆ cs) : Blanks b := fun c hc => h c (hsub hc)

theorem Blanks.head_append (h : Blanks b) :
    ∀ c ∈ (b ++ cs).head?, isBlank c = true ∨ c ∈ cs.head? := by
  intro c hc
  cases b with
  | nil => exact .inr hc
  | cons d b =>
    obtain rfl : d = c := Option.some.inj hc
    exact .inl (h d List.mem_cons_self)

/-- No blank stands at either end. -/
structure Tight (cs : List Char) : Prop where
  head : ∀ c ∈ cs.head?, isBlank c = false
  last : ∀ c ∈ cs.getLast?, isBlank c = false

theorem tight_iff : Tight cs ↔
    (∀ c ∈ cs.head?, c ∉ whiteSpace) ∧ ∀ c ∈ cs.getLast?, c ∉ whiteSpace := by
  simp only [← isBlank_eq_false_iff]
  exact ⟨fun h => ⟨h.head, h.last⟩, fun h => ⟨h.1, h.2⟩⟩

/-- A text without any blank. -/
theorem Tight.of_forall (h : ∀ c ∈ cs, isBlank c = false) : Tight cs :=
  ⟨fun c hc => h c (List.mem_of_mem_head? hc), fun c hc => h c (List.mem_of_getLast? hc)⟩

theorem Tight.of_all (h : cs.all (!isBlank ·) = true) : Tight cs := by
  refine .of_forall fun c hc => ?_
  simpa using List.all_eq_true.1 h c hc

theorem Tight.eq_nil_of_blanks (h : Tight cs) (hb : Blanks cs) : cs = [] := by
  cases cs with
  | nil => rfl
  | cons c cs => exact absurd (hb c List.mem_cons_self) (by simp [h.head c rfl])

theorem Tight.eq_nil_of_append_left (h : Tight (b ++ cs)) (hb : Blanks b) : b = [] := by
  cases b with
  | nil => rfl
  | cons c b => exact absurd (hb c List.mem_cons_self) (by simp [h.head c rfl])

theorem Tight.eq_nil_of_append_right (h : Tight (cs ++ b)) (hb : Blanks b) : b = [] := by
  rcases List.eq_nil_or_concat b with rfl | ⟨b, c, rfl⟩
  · rfl
  · exact absurd (hb c (by simp)) (by simp [h.last c (by simp)])

/-- Words without blanks at their ends keep blanks away from the ends of a text. -/
theorem Tight.append {w w' : List Char} (hw : Tight w) (hw' : Tight w') (hne : w ≠ [])
    (hne' : w' ≠ []) : Tight (w ++ cs ++ w') where
  head c hc := by
    rw [List.append_assoc, List.head?_append_of_ne_nil _ hne] at hc
    exact hw.head c hc
  last c hc := by
    rw [List.getLast?_append_of_ne_nil _ hne'] at hc
    exact hw'.last c hc

/-! ### One end -/

theorem trimStart_append (h : Blanks b) : trimStart (b ++ cs) = trimStart cs :=
  List.dropWhile_append_of_pos h

theorem trimStart_eq_self (h : ∀ c ∈ cs.head?, isBlank c = false) : trimStart cs = cs := by
  cases cs with
  | nil => rfl
  | cons c cs => exact List.dropWhile_cons_of_neg (by simp [h c rfl])

theorem trimEnd_eq_self (h : ∀ c ∈ cs.getLast?, isBlank c = false) : trimEnd cs = cs := by
  refine List.rdropWhile_eq_self_iff.2 fun hne => ?_
  simp [h _ (List.getLast?_eq_getLast_of_ne_nil hne)]

theorem exists_blanks_append_trimStart (cs : List Char) :
    ∃ b, Blanks b ∧ cs = b ++ trimStart cs :=
  ⟨cs.takeWhile isBlank, fun _ => List.mem_takeWhile_imp, List.takeWhile_append_dropWhile.symm⟩

theorem exists_trimEnd_append_blanks (cs : List Char) :
    ∃ b, Blanks b ∧ cs = trimEnd cs ++ b :=
  ⟨cs.rtakeWhile isBlank, fun _ => List.mem_rtakeWhile_imp,
    List.rdropWhile_append_rtakeWhile.symm⟩

theorem head_trimStart (cs : List Char) : ∀ c ∈ (trimStart cs).head?, isBlank c = false := by
  intro c hc
  have h := List.head?_dropWhile_not isBlank cs
  rw [trimStart, Option.mem_def] at hc
  rwa [hc] at h

theorem last_trimEnd (cs : List Char) : ∀ c ∈ (trimEnd cs).getLast?, isBlank c = false := by
  intro c hc
  have hne : cs.rdropWhile isBlank ≠ [] := by
    rintro heq
    rw [trimEnd, dropEndWhile, ← List.rdropWhile, heq] at hc
    cases hc
  have hlast := List.rdropWhile_last_not isBlank cs hne
  rw [Option.mem_def, trimEnd, dropEndWhile, ← List.rdropWhile,
    List.getLast?_eq_getLast_of_ne_nil hne] at hc
  obtain rfl := Option.some.inj hc
  simpa using hlast

/-! ### Both ends -/

theorem trim_eq_self (h : Tight cs) : trim cs = cs := by
  rw [trim, trimStart_eq_self h.head, trimEnd_eq_self h.last]

theorem trim_append (hb : Blanks b) (hb' : Blanks b') : trim (b ++ cs ++ b') = trim cs := by
  rw [trim, List.append_assoc, trimStart_append hb]
  by_cases hcs : Blanks cs
  · have hall : Blanks (cs ++ b') := by
      intro c hc
      rcases List.mem_append.1 hc with hc | hc
      · exact hcs c hc
      · exact hb' c hc
    rw [trim, trimStart, trimStart, List.dropWhile_eq_nil_iff.2 hall,
      List.dropWhile_eq_nil_iff.2 hcs]
  · have hne : (cs.dropWhile isBlank).isEmpty = false := by
      rw [Bool.eq_false_iff, Ne, List.isEmpty_iff, List.dropWhile_eq_nil_iff]
      exact hcs
    rw [trimStart, List.dropWhile_append, hne]
    exact trimEnd_append_of_blank hb'

theorem tight_trim (cs : List Char) : Tight (trim cs) where
  head c hc := by
    obtain ⟨b, -, heq⟩ := exists_trimEnd_append_blanks (trimStart cs)
    refine head_trimStart cs c ?_
    rw [heq, Option.mem_def, List.head?_append, ← trim, Option.mem_def.1 hc]
    rfl
  last := last_trimEnd _

theorem exists_blanks_append_trim (cs : List Char) :
    ∃ b b', Blanks b ∧ Blanks b' ∧ cs = b ++ trim cs ++ b' := by
  obtain ⟨b, hb, heq⟩ := exists_blanks_append_trimStart cs
  obtain ⟨b', hb', heq'⟩ := exists_trimEnd_append_blanks (trimStart cs)
  refine ⟨b, b', hb, hb', ?_⟩
  rw [List.append_assoc, trim, ← heq', ← heq]

theorem trim_eq_nil_iff : trim cs = [] ↔ Blanks cs := by
  constructor
  · intro h
    obtain ⟨b, b', hb, hb', heq⟩ := exists_blanks_append_trim cs
    rw [h] at heq
    intro c hc
    rw [heq, List.append_nil] at hc
    rcases List.mem_append.1 hc with hc | hc
    · exact hb c hc
    · exact hb' c hc
  · intro h
    have hpadded : trim (cs ++ [] ++ []) = trim [] := trim_append h Blanks.nil
    simpa using hpadded

end GridWalk.Text
