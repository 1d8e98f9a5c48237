import GridWalk.Proofs.Edits

/-! The lines of a text as spans of its bytes.  The spans are found with an offset that runs over
the parts of the text, and each is cut out of the text as it stands.  `partition_ofText` says that
every cut succeeds and gives the line with the same index, and how the lines make up the text. -/

namespace GridWalk

namespace Text

/-! ### Slices -/

/-- A range of the bytes of a text. -/
structure Span where
  start : Nat
  stop : Nat
  deriving DecidableEq, Repr

/-- The place is inside the text or at its end, and not inside a character. -/
def IsBoundary (text : String) (place : Nat) : Prop := (String.Pos.Raw.mk place).IsValid text

instance (text : String) (place : Nat) : Decidable (IsBoundary text place) :=
  inferInstanceAs (Decidable ((String.Pos.Raw.mk place).IsValid text))

/-- The bytes of a span, unless its ends are out of order or one of them is no boundary. -/
def slice? (text : String) (span : Span) : Option String :=
  if h : span.start ≤ span.stop ∧ IsBoundary text span.start ∧ IsBoundary text span.stop then
    some (text.extract (text.pos ⟨span.start⟩ h.2.1) (text.pos ⟨span.stop⟩ h.2.2))
  else none

/-- The span lies in the text and a slice of it can be taken. -/
structure Span.Inside (text : String) (span : Span) : Prop where
  ordered : span.start ≤ span.stop
  in_range : span.stop ≤ text.utf8ByteSize
  start_boundary : IsBoundary text span.start
  stop_boundary : IsBoundary text span.stop

theorem inside_of_slice? {text middle : String} {span : Span}
    (h : slice? text span = some middle) : span.Inside text := by
  unfold slice? at h
  split at h
  next hspan =>
    obtain ⟨hordered, hstart, hstop⟩ := hspan
    exact ⟨hordered, hstop.le_utf8ByteSize, hstart, hstop⟩
  · cases h

theorem isBoundary_append (before after : String) :
    IsBoundary (before ++ after) before.utf8ByteSize :=
  String.Pos.Raw.isValid_iff_exists_append.2 ⟨before, after, rfl, rfl⟩

theorem slice?_append (before middle after : String) :
    slice? (before ++ middle ++ after)
      ⟨before.utf8ByteSize, before.utf8ByteSize + middle.utf8ByteSize⟩ = some middle := by
  have hstart : IsBoundary (before ++ middle ++ after) before.utf8ByteSize := by
    rw [String.append_assoc]
    exact isBoundary_append before (middle ++ after)
  have hstop : IsBoundary (before ++ middle ++ after)
      (before.utf8ByteSize + middle.utf8ByteSize) := by
    rw [← String.utf8ByteSize_append]
    exact isBoundary_append (before ++ middle) after
  have hbytes : (before ++ middle ++ after).toByteArray.extract before.utf8ByteSize
      (before.utf8ByteSize + middle.utf8ByteSize) = middle.toByteArray := by
    have hskip := ByteArray.extract_append_size_add (a := before.toByteArray)
      (b := middle.toByteArray ++ after.toByteArray) (i := 0) (j := middle.toByteArray.size)
    rw [String.toByteArray_append, String.toByteArray_append, ByteArray.append_assoc,
      ← String.size_toByteArray, ← String.size_toByteArray]
    exact hskip.trans (ByteArray.extract_append_eq_left rfl)
  rw [slice?, dif_pos ⟨Nat.le_add_right _ _, hstart, hstop⟩, Option.some.injEq,
    ← String.toByteArray_inj]
  exact hbytes

/-! ### Parts -/

/-- Parts with a line feed before each. -/
def fed (parts : List (List Char)) : List Char := parts.flatMap ('\n' :: ·)

/-- The line ends here, or nothing but carriage returns comes before its end. -/
def endsLine (cs : List Char) : Bool := (cs.dropWhile (· == '\r')).head?.all (· == '\n')

/-- The text without the runs of carriage returns that stand directly before a line feed or the end
of the text. -/
def withoutReturns : List Char → List Char
  | [] => []
  | c :: cs => if c == '\r' && endsLine cs then withoutReturns cs else c :: withoutReturns cs

/-- What stands between two line feeds, or between a line feed and an end of the text, with `i` line
feeds before it. -/
def IsSegment (cs : List Char) (i : Nat) (part : List Char) : Prop :=
  ∃ before after, cs = before ++ part ++ after ∧ '\n' ∉ part ∧ before.count '\n' = i ∧
    (∀ c ∈ before.getLast?, c = '\n') ∧ ∀ c ∈ after.head?, c = '\n'

section Parts

variable {part : List Char} {parts : List (List Char)}

theorem fed_cons (part : List Char) (parts : List (List Char)) :
    fed (part :: parts) = '\n' :: (part ++ fed parts) := by
  rw [fed, List.flatMap_cons, List.cons_append, fed]

theorem head?_fed (parts : List (List Char)) : ∀ c ∈ (fed parts).head?, c = '\n' := by
  intro c hc
  cases parts with
  | nil => cases hc
  | cons part parts =>
    rw [fed_cons] at hc
    exact (Option.some.inj hc).symm

theorem intercalate_cons (part : List Char) (parts : List (List Char)) :
    ['\n'].intercalate (part :: parts) = part ++ fed parts := by
  induction parts generalizing part with
  | nil => simp [fed]
  | cons next parts ih =>
    rw [List.intercalate_cons_cons, ih, fed_cons, List.append_assoc]
    rfl

theorem count_fed (h : ∀ part ∈ parts, '\n' ∉ part) : (fed parts).count '\n' = parts.length := by
  induction parts with
  | nil => rfl
  | cons part parts ih =>
    obtain ⟨hpart, hparts⟩ := List.forall_mem_cons.1 h
    rw [fed_cons, List.count_cons_self, List.count_append, List.count_eq_zero_of_not_mem hpart,
      ih hparts, Nat.zero_add, List.length_cons]

theorem isSegment_of_getElem? {i : Nat} (h : ∀ part ∈ parts, '\n' ∉ part)
    (hi : parts[i]? = some part) : IsSegment (['\n'].intercalate parts) i part := by
  induction parts generalizing i with
  | nil => cases hi
  | cons first parts ih =>
    obtain ⟨hfirst, hparts⟩ := List.forall_mem_cons.1 h
    cases i with
    | zero =>
      obtain rfl := Option.some.inj hi
      exact ⟨[], fed parts, intercalate_cons first parts, hfirst, rfl, nofun, head?_fed parts⟩
    | succ i =>
      cases parts with
      | nil => cases hi
      | cons second parts =>
      obtain ⟨before, after, hcs, hpart, hcount, hlast, hhead⟩ := ih hparts hi
      refine ⟨first ++ '\n' :: before, after, ?_, hpart, ?_, ?_, hhead⟩
      · rw [List.intercalate_cons_cons, hcs]
        simp
      · rw [List.count_append, List.count_eq_zero_of_not_mem hfirst, List.count_cons_self, hcount,
          Nat.zero_add]
      · intro c hc
        cases before with
        | nil => simpa using hc.symm
        | cons d before =>
          refine hlast c ?_
          simpa using hc

/-! ### Carriage returns -/

theorem dropEndWhile_eq_nil_iff {p : Char → Bool} {cs : List Char} :
    dropEndWhile p cs = [] ↔ cs.all p = true := by
  rw [List.all_eq_true]
  exact List.rdropWhile_eq_nil_iff

theorem dropEndWhile_cons (p : Char → Bool) (c : Char) (cs : List Char) :
    dropEndWhile p (c :: cs) = if p c && cs.all p then [] else c :: dropEndWhile p cs := by
  cases hall : cs.all p with
  | true =>
    have hnone : dropEndWhile p cs = [] := dropEndWhile_eq_nil_iff.2 hall
    rw [hnone, Bool.and_true, dropEndWhile, List.reverse_cons, List.dropWhile_append,
      List.reverse_eq_nil_iff.1 hnone]
    cases hc : p c <;> simp [hc]
  | false =>
    have hsome : (cs.reverse.dropWhile p).isEmpty = false := by
      rw [Bool.eq_false_iff, Ne, List.isEmpty_iff, ← List.reverse_eq_nil_iff, ← dropEndWhile,
        dropEndWhile_eq_nil_iff, hall]
      exact Bool.false_ne_true
    rw [Bool.and_false, dropEndWhile, List.reverse_cons, List.dropWhile_append, hsome]
    exact List.reverse_concat

theorem endsLine_append {rest : List Char} (hpart : '\n' ∉ part)
    (hrest : ∀ c ∈ rest.head?, c = '\n') :
    endsLine (part ++ rest) = part.all (· == '\r') := by
  induction part with
  | nil =>
    cases rest with
    | nil => rfl
    | cons c rest =>
      obtain rfl := hrest c rfl
      rfl
  | cons c part ih =>
    have htail := ih (List.not_mem_of_not_mem_cons hpart)
    by_cases hc : c = '\r'
    · rw [List.cons_append, List.all_cons, ← htail, hc]
      rfl
    · have hreturn : (c == '\r') = false := beq_eq_false_iff_ne.2 hc
      have hfeed : (c == '\n') = false := by
        rw [beq_eq_false_iff_ne]
        rintro rfl
        exact hpart List.mem_cons_self
      rw [endsLine, List.cons_append, List.dropWhile_cons_of_neg (by simp [hc]), List.all_cons,
        hreturn, Bool.false_and]
      exact hfeed

theorem withoutReturns_append {rest : List Char} (hpart : '\n' ∉ part)
    (hrest : ∀ c ∈ rest.head?, c = '\n') :
    withoutReturns (part ++ rest) = dropEndWhile (· == '\r') part ++ withoutReturns rest := by
  induction part with
  | nil => rfl
  | cons c part ih =>
    have htail := ih (List.not_mem_of_not_mem_cons hpart)
    rw [List.cons_append, withoutReturns,
      endsLine_append (List.not_mem_of_not_mem_cons hpart) hrest, dropEndWhile_cons, htail]
    split
    next hall =>
      have hnone : dropEndWhile (· == '\r') part = [] := by
        rw [dropEndWhile_eq_nil_iff]
        exact ((Bool.and_eq_true _ _).mp hall).2
      rw [hnone]
    next => rfl

theorem withoutReturns_fed (h : ∀ part ∈ parts, '\n' ∉ part) :
    withoutReturns (fed parts) = fed (parts.map (dropEndWhile (· == '\r'))) := by
  induction parts with
  | nil => rfl
  | cons part parts ih =>
    obtain ⟨hpart, hparts⟩ := List.forall_mem_cons.1 h
    rw [fed_cons, withoutReturns, if_neg (by simp), withoutReturns_append hpart (head?_fed parts),
      ih hparts, List.map_cons, fed_cons]

theorem withoutReturns_intercalate (h : ∀ part ∈ parts, '\n' ∉ part) :
    withoutReturns (['\n'].intercalate parts)
      = ['\n'].intercalate (parts.map (dropEndWhile (· == '\r'))) := by
  cases parts with
  | nil => rfl
  | cons part parts =>
    obtain ⟨hpart, hparts⟩ := List.forall_mem_cons.1 h
    rw [List.map_cons, intercalate_cons, intercalate_cons,
      withoutReturns_append hpart (head?_fed parts), withoutReturns_fed hparts]

end Parts

end Text

namespace Line

open Text

/-! ### Spans -/

/-- The length of the text in bytes. -/
def byteLength (cs : List Char) : Nat := (String.ofList cs).utf8ByteSize

/-- The spans of the lines of some parts.  The first part starts at the offset, and a line feed
follows each. -/
def spansFrom (offset : Nat) : List (List Char) → List Span
  | [] => []
  | part :: parts =>
    ⟨offset, offset + byteLength (dropEndWhile (· == '\r') part)⟩
      :: spansFrom (offset + byteLength part + 1) parts

def spans (text : String) : List Span := spansFrom 0 (parts text)

section Spans

variable {offset : Nat} {part : List Char} {parts : List (List Char)}

theorem byteLength_append (cs cs' : List Char) :
    byteLength (cs ++ cs') = byteLength cs + byteLength cs' := by
  rw [byteLength, String.ofList_append, String.utf8ByteSize_append, byteLength, byteLength]

/-- What is left of a part has its place at the start of the part. -/
theorem slice?_dropEndWhile (before part after : List Char) (p : Char → Bool) :
    slice? (String.ofList (before ++ (part ++ after)))
      ⟨byteLength before, byteLength before + byteLength (dropEndWhile p part)⟩
        = some (String.ofList (dropEndWhile p part)) := by
  have hpart : part = dropEndWhile p part ++ part.rtakeWhile p :=
    List.rdropWhile_append_rtakeWhile.symm
  have htext : String.ofList (before ++ (part ++ after))
      = String.ofList before ++ String.ofList (dropEndWhile p part)
        ++ String.ofList (part.rtakeWhile p ++ after) := by
    conv_lhs => rw [hpart]
    simp only [String.ofList_append, String.append_assoc]
  rw [htext]
  exact slice?_append _ _ _

/-- The offset is the length of the text before the parts, and one part keeps it so. -/
theorem map_slice?_spansFrom (before : List Char) (parts : List (List Char)) :
    (spansFrom (byteLength before) parts).map
        (slice? (String.ofList (before ++ ['\n'].intercalate parts)))
      = parts.map fun part => some (String.ofList (dropEndWhile (· == '\r') part)) := by
  induction parts generalizing before with
  | nil => rfl
  | cons part parts ih =>
    rw [spansFrom, List.map_cons, List.map_cons, intercalate_cons, slice?_dropEndWhile]
    refine congrArg _ ?_
    cases parts with
    | nil => rfl
    | cons next parts =>
      have hoffset : byteLength before + byteLength part + 1
          = byteLength (before ++ part ++ ['\n']) := by
        rw [byteLength_append, byteLength_append]
        rfl
      have htext : before ++ (part ++ fed (next :: parts))
          = before ++ part ++ ['\n'] ++ ['\n'].intercalate (next :: parts) := by
        rw [intercalate_cons, fed_cons]
        simp
      rw [hoffset, htext]
      exact ih (before ++ part ++ ['\n'])

theorem offset_le_of_mem_spansFrom {span : Span} (h : span ∈ spansFrom offset parts) :
    offset ≤ span.start := by
  induction parts generalizing offset with
  | nil => cases h
  | cons part parts ih =>
    rcases List.mem_cons.1 h with rfl | h
    · exact Nat.le_refl _
    · have hle := ih h
      omega

theorem pairwise_spansFrom (offset : Nat) (parts : List (List Char)) :
    (spansFrom offset parts).Pairwise fun span later => span.stop < later.start := by
  induction parts generalizing offset with
  | nil => exact .nil
  | cons part parts ih =>
    refine List.pairwise_cons.2 ⟨fun later hlater => ?_, ih _⟩
    have hkept : byteLength part = byteLength (dropEndWhile (· == '\r') part)
        + byteLength (part.rtakeWhile (· == '\r')) := by
      rw [← byteLength_append]
      exact congrArg _ List.rdropWhile_append_rtakeWhile.symm
    have hstart := offset_le_of_mem_spansFrom hlater
    show offset + byteLength (dropEndWhile (· == '\r') part) < later.start
    omega

end Spans

/-! ### The partition -/

/-- What the lines of a text and their spans make of it. -/
structure Partition (text : String) (lines : List Line) (spans : List Span) : Prop where
  count : lines.length = text.toList.count '\n' + 1
  numbered : lines.map (·.number.toNat) = List.range' 1 lines.length
  is_raw : ∀ line ∈ lines, IsRaw line.raw.toList
  segment : ∀ i line, lines[i]? = some line → ∃ returns, (∀ c ∈ returns, c = '\r') ∧
    IsSegment text.toList i (line.raw.toList ++ returns)
  joined : (textOf lines).toList = withoutReturns text.toList
  /-- No carriage return is left out where none stands directly before a line feed or the end. -/
  unchanged : (∀ before after, text.toList = before ++ '\r' :: after →
    ∃ c ∈ after.head?, c ≠ '\n') → textOf lines = text
  cut : spans.map (slice? text) = lines.map fun line => some line.raw
  inside : ∀ span ∈ spans, span.Inside text
  apart : spans.Pairwise fun span later => span.stop < later.start

section Partition

variable {text : String}

theorem intercalate_parts (text : String) : ['\n'].intercalate (parts text) = text.toList :=
  List.intercalate_splitOn '\n'

theorem not_mem_of_mem_parts {part : List Char} (h : part ∈ parts text) : '\n' ∉ part :=
  not_mem_of_mem_splitOn h

theorem length_parts_eq_count (text : String) :
    (parts text).length = text.toList.count '\n' + 1 := by
  have hfeeds : ∀ part ∈ parts text, '\n' ∉ part := fun _ => not_mem_of_mem_parts
  rw [← intercalate_parts text]
  cases hparts : parts text with
  | nil => exact absurd hparts (parts_ne_nil text)
  | cons part others =>
    rw [hparts] at hfeeds
    obtain ⟨hpart, hothers⟩ := List.forall_mem_cons.1 hfeeds
    rw [intercalate_cons, List.count_append, List.count_eq_zero_of_not_mem hpart,
      count_fed hothers, List.length_cons, Nat.zero_add]

theorem map_raw_ofText (text : String) :
    (ofText text).map raw
      = (parts text).map fun part => String.ofList (dropEndWhile (· == '\r') part) := by
  rw [ofText_eq_mapIdx]
  refine List.ext_getElem (by simp) fun i hi hi' => ?_
  simp [ofPart]

theorem toList_textOf_ofText (text : String) :
    (textOf (ofText text)).toList
      = ['\n'].intercalate ((parts text).map (dropEndWhile (· == '\r'))) := by
  rw [textOf, map_raw_ofText, String.toList_intercalate, List.map_map]
  simp [Function.comp_def]

theorem map_number_ofText (hlines : (ofText text).length < UInt32.size) :
    (ofText text).map (·.number.toNat) = List.range' 1 (ofText text).length := by
  refine List.ext_getElem (by simp) fun i hi hi' => ?_
  have hline := List.getElem?_eq_getElem (l := ofText text) (by simpa using hi)
  rw [List.getElem_map, List.getElem_range', toNat_number_of_getElem?_ofText hlines hline]
  omega

theorem exists_isSegment {i : Nat} {line : Line} (h : (ofText text)[i]? = some line) :
    ∃ returns, (∀ c ∈ returns, c = '\r') ∧
      IsSegment text.toList i (line.raw.toList ++ returns) := by
  rw [ofText_eq_mapIdx, List.getElem?_mapIdx] at h
  obtain ⟨part, hpart, rfl⟩ := Option.map_eq_some_iff.1 h
  obtain ⟨returns, hreturns, heq⟩ := exists_returns (i := i) part
  have hsegment := isSegment_of_getElem? (fun _ => not_mem_of_mem_parts) hpart
  rw [intercalate_parts] at hsegment
  exact ⟨returns, hreturns, heq ▸ hsegment⟩

/-- A part keeps its end when no carriage return stands before a line feed or at the end of the
text. -/
theorem dropEndWhile_part (h : ∀ before after, text.toList = before ++ '\r' :: after →
    ∃ c ∈ after.head?, c ≠ '\n') {part : List Char} (hpart : part ∈ parts text) :
    dropEndWhile (· == '\r') part = part := by
  refine List.rdropWhile_eq_self_iff.2 fun hne hlast => ?_
  obtain ⟨i, hi⟩ := List.mem_iff_getElem?.1 hpart
  obtain ⟨before, after, htext, -, -, -, hhead⟩ :=
    isSegment_of_getElem? (fun _ => not_mem_of_mem_parts) hi
  have hsplit : part = part.dropLast ++ ['\r'] := by
    rw [← beq_iff_eq.1 hlast]
    exact (List.dropLast_append_getLast hne).symm
  rw [intercalate_parts, hsplit] at htext
  obtain ⟨c, hc, hfeed⟩ := h (before ++ part.dropLast) after (by simpa using htext)
  exact hfeed (hhead c hc)

theorem textOf_ofText (h : ∀ before after, text.toList = before ++ '\r' :: after →
    ∃ c ∈ after.head?, c ≠ '\n') : textOf (ofText text) = text := by
  have hkept : (parts text).map (dropEndWhile (· == '\r')) = parts text :=
    (List.map_congr_left fun _ => dropEndWhile_part h).trans (List.map_id _)
  rw [← String.toList_inj, toList_textOf_ofText, hkept, intercalate_parts]

theorem map_slice?_spans (text : String) :
    (spans text).map (slice? text) = (ofText text).map fun line => some line.raw := by
  have hcut := map_slice?_spansFrom [] (parts text)
  rw [intercalate_parts, List.nil_append, String.ofList_toList] at hcut
  have hraw := congrArg (List.map some) (map_raw_ofText text)
  rw [List.map_map, List.map_map] at hraw
  exact hcut.trans hraw.symm

theorem inside_of_mem_spans {span : Span} (h : span ∈ spans text) : span.Inside text := by
  have hslice : slice? text span ∈ (spans text).map (slice? text) := List.mem_map_of_mem h
  rw [map_slice?_spans] at hslice
  obtain ⟨line, -, hline⟩ := List.mem_map.1 hslice
  exact inside_of_slice? hline.symm

end Partition

/-- Each line of a text is one of the segments between its line feeds, without the carriage returns
at its end, and the spans that a running offset gives cut the lines out of the text. -/
theorem partition_ofText {text : String} (hlines : (ofText text).length < UInt32.size - 1) :
    Partition text (ofText text) (spans text) where
  count := by rw [← length_parts, length_parts_eq_count]
  numbered := map_number_ofText (by omega)
  is_raw line := isRaw_of_mem_ofText
  segment i line := exists_isSegment
  joined := by
    rw [toList_textOf_ofText, ← withoutReturns_intercalate fun _ => not_mem_of_mem_parts,
      intercalate_parts]
  unchanged := textOf_ofText
  cut := map_slice?_spans text
  inside span := inside_of_mem_spans
  apart := pairwise_spansFrom 0 (parts text)

/-- Characters of up to four bytes, a line that is empty and carriage returns inside and at the ends
of lines. -/
theorem partition_ofText_mixedEndings :
    let text := "x = 1 # é\r\r\n\n☃\r☃\r\n# 😀\r"
    (ofText text).length < UInt32.size - 1 ∧
    spans text = [⟨0, 10⟩, ⟨13, 13⟩, ⟨14, 21⟩, ⟨23, 29⟩] ∧
    (ofText text).map raw = ["x = 1 # é", "", "☃\r☃", "# 😀"] ∧
    Partition text (ofText text) (spans text) := by
  intro text
  have hlines : (ofText text).length < UInt32.size - 1 := by decide +kernel
  exact ⟨hlines, by decide +kernel, by decide +kernel, partition_ofText hlines⟩

end Line

end GridWalk
