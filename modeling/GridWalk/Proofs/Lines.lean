import GridWalk.Line
import Mathlib.Data.List.DropRight
import Mathlib.Data.UInt

/-! The lines of a text and their numbers.  The numbers grow from line to line as long as the text
has fewer than `2 ^ 32` lines, so a number names one line.  Any list of lines but the empty one is
the list of the lines of some text, and a line feed between two texts puts their lines one after the
other. -/

namespace GridWalk.Line

variable {text : String}

theorem getElem?_ofText (text : String) (i : Nat) :
    (ofText text)[i]? = ((rawLines text.toList)[i]?).map fun raw =>
      ⟨.ofNat (i + 1), String.ofList raw⟩ := by
  simp [ofText]

theorem number_of_getElem?_ofText {i : Nat} {line : Line} (h : (ofText text)[i]? = some line) :
    line.number = .ofNat (i + 1) := by
  rw [getElem?_ofText] at h
  obtain ⟨raw, -, rfl⟩ := Option.map_eq_some_iff.1 h
  rfl

/-- The number of a line is its place, counted from 1. -/
theorem toNat_number_of_getElem?_ofText {i : Nat} {line : Line}
    (hlines : (ofText text).length < UInt32.size) (h : (ofText text)[i]? = some line) :
    line.number.toNat = i + 1 := by
  have hi : i < (ofText text).length := (List.getElem?_eq_some_iff.1 h).1
  rw [number_of_getElem?_ofText h]
  exact UInt32.toNat_ofNat_of_lt' (by omega)

theorem pairwise_number_ofText (hlines : (ofText text).length < UInt32.size) :
    (ofText text).Pairwise (·.number < ·.number) := by
  rw [List.pairwise_iff_getElem]
  intro i j hi hj hij
  have first := toNat_number_of_getElem?_ofText hlines (List.getElem?_eq_getElem hi)
  have second := toNat_number_of_getElem?_ofText hlines (List.getElem?_eq_getElem hj)
  rw [UInt32.lt_iff_toNat_lt]
  omega

theorem getElem?_number_of_mem_ofText {line : Line}
    (hlines : (ofText text).length < UInt32.size) (h : line ∈ ofText text) :
    (ofText text)[line.number.toNat - 1]? = some line := by
  obtain ⟨i, hi⟩ := List.mem_iff_getElem?.1 h
  rw [toNat_number_of_getElem?_ofText hlines hi]
  exact hi

/-! ### Texts from lines -/

/-- What a line of a text can hold. -/
structure IsRaw (raw : List Char) : Prop where
  no_feed : '\n' ∉ raw
  no_return : raw.getLast? ≠ some '\r'

theorem not_mem_of_mem_splitOn {sep : Char} {cs part : List Char} (h : part ∈ cs.splitOn sep) :
    sep ∉ part := by
  induction cs generalizing part with
  | nil =>
    obtain rfl : part = [] := by simpa using h
    exact List.not_mem_nil
  | cons c cs ih =>
    rw [List.splitOn_cons_eq_if_modifyHead] at h
    split at h
    · rcases List.mem_cons.1 h with rfl | h
      · exact List.not_mem_nil
      · exact ih h
    next hne =>
      cases hparts : cs.splitOn sep with
      | nil => exact absurd hparts (List.splitOn_ne_nil sep cs)
      | cons first others =>
        rw [hparts] at ih
        rw [hparts, List.modifyHead_cons] at h
        rcases List.mem_cons.1 h with rfl | h
        · rw [List.mem_cons, not_or]
          exact ⟨fun heq => hne (beq_iff_eq.2 heq.symm), ih List.mem_cons_self⟩
        · exact ih (List.mem_cons_of_mem _ h)

theorem isRaw_of_mem_rawLines {text raw : List Char} (h : raw ∈ rawLines text) : IsRaw raw := by
  obtain ⟨part, hpart, rfl⟩ := List.mem_map.1 h
  have hstart : Text.dropEndWhile (· == '\r') part <+: part :=
    List.rdropWhile_prefix _ part
  refine ⟨fun hmem => not_mem_of_mem_splitOn hpart (hstart.subset hmem), fun hlast => ?_⟩
  have hne : part.rdropWhile (· == '\r') ≠ [] := by
    intro hnil
    rw [Text.dropEndWhile, ← List.rdropWhile, hnil] at hlast
    cases hlast
  have hstop := List.rdropWhile_last_not _ part hne
  rw [Text.dropEndWhile, ← List.rdropWhile, List.getLast?_eq_getLast_of_ne_nil hne] at hlast
  exact hstop (beq_iff_eq.2 (Option.some.inj hlast))

theorem isRaw_of_mem_ofText {line : Line} (h : line ∈ ofText text) : IsRaw line.raw.toList := by
  obtain ⟨i, hi⟩ := List.mem_iff_getElem?.1 h
  rw [getElem?_ofText] at hi
  obtain ⟨raw, hraw, rfl⟩ := Option.map_eq_some_iff.1 hi
  rw [String.toList_ofList]
  exact isRaw_of_mem_rawLines (List.mem_of_getElem? hraw)

theorem rawLines_intercalate {raws : List (List Char)} (h : ∀ raw ∈ raws, IsRaw raw)
    (hne : raws ≠ []) : rawLines (['\n'].intercalate raws) = raws := by
  rw [rawLines, List.splitOn_intercalate '\n' (fun raw hraw => (h raw hraw).no_feed) hne]
  refine (List.map_congr_left fun raw hraw => ?_).trans (List.map_id raws)
  refine List.rdropWhile_eq_self_iff.2 fun hraw' => ?_
  have hlast := (h raw hraw).no_return
  rw [List.getLast?_eq_getLast_of_ne_nil hraw'] at hlast
  simpa using hlast

/-- The text whose lines are the given ones. -/
def textOf (lines : List Line) : String := "\n".intercalate (lines.map raw)

theorem ofText_textOf {lines : List Line} (h : ∀ line ∈ lines, IsRaw line.raw.toList)
    (hne : lines ≠ []) :
    ofText (textOf lines) = lines.mapIdx fun i line => ⟨.ofNat (i + 1), line.raw⟩ := by
  have hraws : rawLines (textOf lines).toList = lines.map (·.raw.toList) := by
    rw [textOf, String.toList_intercalate, List.map_map]
    exact rawLines_intercalate (by simpa using h) (by simpa using hne)
  rw [ofText, hraws]
  refine List.ext_getElem (by simp) fun i hi hi' => ?_
  simp

theorem rawLines_of_isRaw {raw : List Char} (h : IsRaw raw) : rawLines raw = [raw] := by
  simpa [List.intercalate] using rawLines_intercalate (List.forall_mem_singleton.2 h) (by simp)

/-! ### Texts one after the other -/

theorem rawLines_append_feed (first second : List Char) :
    rawLines (first ++ '\n' :: second) = rawLines first ++ rawLines second := by
  rw [rawLines, List.splitOn_append_cons_self, List.map_append, rawLines, rawLines]

/-- Lines whose numbers follow the number `start`. -/
def numberedFrom (start : Nat) (raws : List (List Char)) : List Line :=
  raws.mapIdx fun i raw => ⟨.ofNat (start + i + 1), String.ofList raw⟩

theorem ofText_eq_numberedFrom (text : String) :
    ofText text = numberedFrom 0 (rawLines text.toList) := by
  simp only [ofText, numberedFrom, Nat.zero_add]

@[simp] theorem length_numberedFrom (start : Nat) (raws : List (List Char)) :
    (numberedFrom start raws).length = raws.length := List.length_mapIdx

theorem numberedFrom_cons (start : Nat) (raw : List Char) (raws : List (List Char)) :
    numberedFrom start (raw :: raws)
      = ⟨.ofNat (start + 1), String.ofList raw⟩ :: numberedFrom (start + 1) raws := by
  simp only [numberedFrom, List.mapIdx_cons, Nat.add_assoc, Nat.add_comm 1]

theorem numberedFrom_append (start : Nat) (first second : List (List Char)) :
    numberedFrom start (first ++ second)
      = numberedFrom start first ++ numberedFrom (start + first.length) second := by
  simp only [numberedFrom, List.mapIdx_append, Nat.add_assoc, Nat.add_left_comm]

theorem toNat_number_of_mem_numberedFrom {start : Nat} {raws : List (List Char)} {line : Line}
    (hstart : start + raws.length < UInt32.size) (h : line ∈ numberedFrom start raws) :
    start < line.number.toNat ∧ line.number.toNat ≤ start + raws.length := by
  obtain ⟨i, hi, rfl⟩ := List.mem_mapIdx.1 h
  rw [UInt32.toNat_ofNat_of_lt' (by omega)]
  omega

theorem toNat_number_of_mem_ofText {line : Line} (hlines : (ofText text).length < UInt32.size)
    (h : line ∈ ofText text) :
    1 ≤ line.number.toNat ∧ line.number.toNat ≤ (ofText text).length := by
  rw [ofText_eq_numberedFrom] at h hlines ⊢
  rw [length_numberedFrom] at hlines ⊢
  have hbounds := toNat_number_of_mem_numberedFrom (by omega) h
  omega

/-- The number of the line at a place that counts from 1. -/
def numberAt (lines : List Line) (place : UInt32) : UInt32 :=
  ((lines[place.toNat - 1]?).map number).getD 0

end GridWalk.Line
