import GridWalk.Compile
import GridWalk.Grid.Ascii
import GridWalk.Proofs.Edits

/-! Line endings.  A carriage return that is put in before a line feed or at the end of a text comes
to stand at the end of a part, and programs and levels alike leave out what is there.  So texts that
differ in such carriage returns alone are the same program and the same level. -/

namespace GridWalk

namespace Text

/-- The second text is the first with carriage returns put in, any number of them before each line
feed and at the end. -/
inductive Returned : List Char → List Char → Prop
  | done : Returned [] []
  | keep (c : Char) {cs cs' : List Char} (rest : Returned cs cs') : Returned (c :: cs) (c :: cs')
  | beforeFeed {cs cs' : List Char} (rest : Returned ('\n' :: cs) cs') :
      Returned ('\n' :: cs) ('\r' :: cs')
  | atEnd {cs' : List Char} (rest : Returned [] cs') : Returned [] ('\r' :: cs')

/-- The text with a carriage return before each of its line feeds. -/
def crlf (cs : List Char) : List Char := cs.flatMap fun c => if c = '\n' then ['\r', '\n'] else [c]

theorem returned_crlf (cs : List Char) : Returned cs (crlf cs) := by
  induction cs with
  | nil => exact .done
  | cons c cs ih =>
    rw [crlf, List.flatMap_cons, ← crlf]
    split
    next hfeed =>
      rw [hfeed]
      exact .beforeFeed (.keep '\n' ih)
    next => exact .keep c ih

/-- The second part is the first with carriage returns at its end. -/
def Trails (part part' : List Char) : Prop :=
  ∃ returns, (∀ c ∈ returns, c = '\r') ∧ part' = part ++ returns

section Parts

variable {part part' cs cs' : List Char} {parts parts' : List (List Char)}

theorem Trails.refl (part : List Char) : Trails part part := ⟨[], nofun, by simp⟩

theorem Trails.cons (c : Char) (h : Trails part part') : Trails (c :: part) (c :: part') := by
  obtain ⟨returns, hreturns, rfl⟩ := h
  exact ⟨returns, hreturns, rfl⟩

theorem Trails.cons_return (h : Trails [] part') : Trails [] ('\r' :: part') := by
  obtain ⟨returns, hreturns, heq⟩ := h
  exact ⟨'\r' :: returns, List.forall_mem_cons.2 ⟨rfl, hreturns⟩, congrArg ('\r' :: ·) heq⟩

theorem splitOn_cons_of_ne {c : Char} (hc : c ≠ '\n') (cs : List Char) :
    (c :: cs).splitOn '\n' = (cs.splitOn '\n').modifyHead (c :: ·) := by
  rw [List.splitOn_cons_eq_if_modifyHead, if_neg (by simpa using hc)]

theorem forall₂_trails_modifyHead (c : Char) (h : List.Forall₂ Trails parts parts') :
    List.Forall₂ Trails (parts.modifyHead (c :: ·)) (parts'.modifyHead (c :: ·)) := by
  cases h with
  | nil => exact .nil
  | cons head tail => exact .cons (head.cons c) tail

theorem forall₂_trails_keep (c : Char)
    (h : List.Forall₂ Trails (cs.splitOn '\n') (cs'.splitOn '\n')) :
    List.Forall₂ Trails ((c :: cs).splitOn '\n') ((c :: cs').splitOn '\n') := by
  by_cases hc : c = '\n'
  · rw [hc]
    exact .cons (.refl []) h
  · rw [splitOn_cons_of_ne hc, splitOn_cons_of_ne hc]
    exact forall₂_trails_modifyHead c h

/-- Where a part ends, one more carriage return before what follows lengthens that part. -/
theorem forall₂_trails_return (h : List.Forall₂ Trails ([] :: parts) (cs'.splitOn '\n')) :
    List.Forall₂ Trails ([] :: parts) (('\r' :: cs').splitOn '\n') := by
  rw [splitOn_cons_of_ne (by decide)]
  cases hsplit : cs'.splitOn '\n' with
  | nil => exact absurd hsplit (List.splitOn_ne_nil '\n' cs')
  | cons first others =>
    rw [hsplit] at h
    obtain ⟨hfirst, hothers⟩ := List.forall₂_cons.1 h
    exact .cons hfirst.cons_return hothers

/-- The carriage returns that are put in stand at the ends of the parts. -/
theorem Returned.forall₂_trails (h : Returned cs cs') :
    List.Forall₂ Trails (cs.splitOn '\n') (cs'.splitOn '\n') := by
  induction h with
  | done => exact .cons (.refl []) .nil
  | keep c rest ih => exact forall₂_trails_keep c ih
  | beforeFeed rest ih => exact forall₂_trails_return ih
  | atEnd rest ih => exact forall₂_trails_return ih

/-- What is made of the parts without the carriage returns at their ends does not change. -/
theorem Returned.map_splitOn {α : Type} {f : List Char → α} (h : Returned cs cs')
    (hf : ∀ part part', Trails part part' → f part' = f part) :
    (cs'.splitOn '\n').map f = (cs.splitOn '\n').map f := by
  rw [← List.forall₂_eq_eq_eq, List.forall₂_map_left_iff, List.forall₂_map_right_iff]
  exact h.forall₂_trails.flip.imp fun part' part htrails => hf part part' htrails

theorem Trails.dropEndWhile (h : Trails part part') :
    dropEndWhile (· == '\r') part' = dropEndWhile (· == '\r') part := by
  obtain ⟨returns, hreturns, rfl⟩ := h
  rw [Text.dropEndWhile, Text.dropEndWhile, List.reverse_append, List.dropWhile_append_of_pos]
  simpa using hreturns

theorem Trails.trim (h : Trails part part') : trim part' = trim part := by
  obtain ⟨returns, hreturns, rfl⟩ := h
  exact trim_append Blanks.nil (Line.blanks_of_returns hreturns)

end Parts

end Text

open Text (Returned)

theorem Line.ofText_of_returned {text text' : String} (h : Returned text.toList text'.toList) :
    ofText text' = ofText text := by
  have hraws : rawLines text'.toList = rawLines text.toList :=
    h.map_splitOn fun _ _ htrails => htrails.dropEndWhile
  rw [ofText, ofText, hraws]

theorem Grid.Ascii.rows_of_returned {cs cs' : List Char} (h : Returned cs cs') :
    rows cs' = rows cs := by
  rw [rows, rows, h.map_splitOn fun _ _ htrails => htrails.trim]

/-- Carriage returns before line feeds and at the end of a text change neither what the text is as a
program, with any options, nor what it is as a level. -/
theorem line_endings_agree {text text' : String} (h : Returned text.toList text'.toList) :
    (∀ options, compile text' options = compile text options) ∧
    Grid.ofAscii text' = Grid.ofAscii text := by
  constructor
  · intro options
    rw [compile, compile, Line.ofText_of_returned h]
  · rw [Grid.ofAscii, Grid.ofAscii, Grid.Ascii.rows_of_returned h]

/-- A level in which every line ends in a carriage return and a line feed.  As a program, it fails
with an error that quotes its first line without the carriage return. -/
theorem line_endings_agree_crlf :
    let text := "S.G\n..W\n"
    let text' := "S.G\r\n..W\r\n"
    Returned text.toList text'.toList ∧
    Grid.ofAscii text' = Grid.ofAscii text ∧ (Grid.ofAscii text).isOk = true ∧
    compile text' .unlimited
      = .error ((Problem.unrecognized "S.G").on ⟨1, "S.G"⟩) := by
  intro text text'
  have hcrlf : text'.toList = Text.crlf text.toList := by decide +kernel
  have hreturned : Returned text.toList text'.toList := hcrlf ▸ Text.returned_crlf text.toList
  obtain ⟨hcompile, hlevel⟩ := line_endings_agree hreturned
  refine ⟨hreturned, hlevel, by decide +kernel, ?_⟩
  rw [hcompile]
  decide +kernel

end GridWalk
