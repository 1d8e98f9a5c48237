import GridWalk.Json.Tagged
import GridWalk.Proofs.Json.Lawful

/-! The law of codecs for records and for types with variants.  The fields of a record are told
apart by their names, so the entries of a field are read into its slot and leave the others alone.
The tag of a variant stands apart from the names of its fields. -/

namespace GridWalk.Json

theorem Draft.ofEntries_eq_map (es : List (String × Json)) :
    ofEntries es = es.map fun e => (some e.1, ofJson e.2) := by
  induction es with
  | nil => rfl
  | cons e es ih => rw [ofEntries, ih, List.map_cons]

/-- A field whose values are read back, also where they are left out. -/
structure Field.Lawful {α : Type} (f : Field α) (depth : Nat) : Prop where
  codec : f.codec.Lawful depth
  absent : ∀ v, f.omits v = true → f.absent = some v

namespace Field

variable {α : Type} {c : Codec α} {depth : Nat}

theorem Lawful.required (name : String) (h : c.Lawful depth) :
    (Field.required name c).Lawful depth where
  codec := h
  absent _ homits := by cases homits

theorem Lawful.optional (name : String) (h : c.Lawful depth) (hnull : ∀ a, c.encode a ≠ .null) :
    (Field.optional name c).Lawful depth where
  codec := h.option hnull
  absent _ homits := by cases homits

theorem Lawful.defaulted (name : String) (h : c.Lawful depth) (hnull : ∀ a, c.encode a ≠ .null) :
    (Field.defaulted name c).Lawful depth where
  codec := h.option hnull
  absent _ homits := by cases homits

theorem Lawful.omitting {f : Field (Option α)} (h : f.Lawful depth)
    (habsent : f.absent = some none) : f.omitting.Lawful depth where
  codec := h.codec
  absent v homits := by
    obtain rfl : v = none := Option.isNone_iff_eq_none.1 homits
    exact habsent

end Field

namespace Fields

variable {α : Type} {ts : List Type} {fs : Fields ts} {access : Access} {depth : Nat}

def names : {ts : List Type} → Fields ts → List String
  | _, nil => []
  | _, cons f fs => f.name :: fs.names

/-- Fields with different names, each of which is read back. -/
inductive Lawful (depth : Nat) : {ts : List Type} → Fields ts → Prop where
  | nil : Lawful depth .nil
  | cons {α : Type} {ts : List Type} {f : Field α} {fs : Fields ts} (hf : f.Lawful depth)
      (hname : f.name ∉ fs.names) (hfs : fs.Lawful depth) : Lawful depth (.cons f fs)

theorem name_mem_of_mem_entries {vs : Values ts} {e : String × Json} (h : e ∈ fs.entries vs) :
    e.1 ∈ fs.names := by
  induction fs with
  | nil => cases h
  | cons f fs ih =>
    obtain ⟨v, vs⟩ := vs
    simp only [entries] at h
    split at h
    · exact List.mem_cons_of_mem _ (ih h)
    · rcases List.mem_cons.1 h with rfl | h
      · exact List.mem_cons_self
      · exact List.mem_cons_of_mem _ (ih h)

theorem Lawful.sound {vs : Values ts} {e : String × Json} (hfs : fs.Lawful depth)
    (h : e ∈ fs.entries vs) {room : Nat} (hroom : depth ≤ room) :
    (Draft.ofJson e.2).isSound room = true := by
  induction hfs with
  | nil => cases h
  | cons hf hname hfs ih =>
    obtain ⟨v, vs⟩ := vs
    simp only [entries] at h
    split at h
    · exact ih h
    · rcases List.mem_cons.1 h with rfl | h
      · exact hf.codec.sound v room hroom
      · exact ih h

/-- Entries with other names leave the slot of a field as it is. -/
theorem readEntries_cons {f : Field α} {slot : Option α} {slots : Slots ts}
    {es : List (Option String × Draft)} (h : ∀ e ∈ es, e.1 ≠ some f.name) :
    (cons f fs).readEntries access (slot, slots) es
      = (fs.readEntries access slots es).map fun slots => (slot, slots) := by
  induction es generalizing slots with
  | nil => rfl
  | cons e es ih =>
    obtain ⟨key, d⟩ := e
    have hrest : ∀ slots, _ := fun slots => @ih slots fun e he => h e (List.mem_cons_of_mem _ he)
    cases key with
    | none => rfl
    | some key =>
      have hne : ¬ f.name = key := fun heq => h (some key, d) List.mem_cons_self (heq ▸ rfl)
      simp only [readEntries, put?, if_neg hne]
      cases fs.put? access slots key d with
      | none =>
        simp only [Option.map_none, hrest]
        cases d.isWhole with
        | true => rfl
        | false => rfl
      | some result =>
        cases result with
        | error fault => rfl
        | ok slots => exact hrest slots

def filled : {ts : List Type} → Fields ts → Values ts → Slots ts
  | _, nil, _ => ()
  | _, cons f fs, (v, vs) => (if f.omits v then none else some v, fs.filled vs)

theorem Lawful.readEntries_entries (hfs : fs.Lawful depth) (haccess : access.Allows depth)
    (vs : Values ts) :
    fs.readEntries access fs.unread (Draft.ofEntries (fs.entries vs)) = .ok (fs.filled vs) := by
  induction hfs with
  | nil => rfl
  | @cons α ts f fs hf hname hfs ih =>
    obtain ⟨v, vs⟩ := vs
    have hothers : ∀ e ∈ Draft.ofEntries (fs.entries vs), e.1 ≠ some f.name := by
      intro e he heq
      rw [Draft.ofEntries_eq_map] at he
      obtain ⟨e', he', rfl⟩ := List.mem_map.1 he
      exact hname (Option.some.inj heq ▸ name_mem_of_mem_entries he')
    by_cases homits : f.omits v = true
    · simp only [entries, filled, if_pos homits, unread, readEntries_cons hothers, ih, Except.map]
      rfl
    · have hdecode := hf.codec.decode v access haccess
      simp only [entries, filled, if_neg homits, unread, Draft.ofEntries, readEntries, put?,
        if_true, hdecode, Except.map, readEntries_cons hothers, ih]
      rfl

theorem Lawful.close_filled (hfs : fs.Lawful depth) (vs : Values ts) :
    fs.close (fs.filled vs) = .ok vs := by
  induction hfs with
  | nil => rfl
  | cons hf hname hfs ih =>
    obtain ⟨v, vs⟩ := vs
    rw [filled, close]
    split
    next hslot =>
      split at hslot
      next homits => simp [hf.absent v homits] at hslot
      · cases hslot
    next w hslot =>
      have hvalue : w = v := by
        split at hslot
        next homits => simpa [hf.absent v homits] using hslot.symm
        · exact (Option.some.inj hslot).symm
      rw [ih, hvalue]
      rfl

theorem Lawful.decodeObject_entries (hfs : fs.Lawful depth) (haccess : access.Allows depth)
    (vs : Values ts) :
    fs.decodeObject access (Draft.ofEntries (fs.entries vs)) .closed = .ok vs := by
  have hread := hfs.readEntries_entries haccess vs
  have hclose := hfs.close_filled vs
  simp only [decodeObject, hread, hclose, Codec.whenClosed]

end Fields

theorem Codec.lawful_record {α : Type} {ts : List Type} {fs : Fields ts} {depth : Nat}
    {ofValues : Values ts → α} {toValues : α → Values ts} (name : String) (hfs : fs.Lawful depth)
    (hinverse : ∀ a, ofValues (toValues a) = a) :
    (record name fs ofValues toValues).Lawful (depth + 1) where
  decode a access haccess := by
    obtain ⟨inside, hinside, hallows⟩ := haccess.inside
    have hobject := hfs.decodeObject_entries hallows (toValues a)
    simp only [record, Draft.ofJson, Fields.decode, hinside, hobject, Except.map, hinverse]
  sound a room hroom := by
    apply Draft.isSound_object hroom
    intro e he room hroom
    exact hfs.sound he hroom

namespace Tagged

variable {α : Type} {tag name : String} {variants : List (Variant α)} {access : Access}
  {depth : Nat}

/-- One of the variants has the name, and reads `a` from the entries. -/
structure Reads (tag : String) (variants : List (Variant α)) (depth : Nat) (a : α) (name : String)
    (entries : List (String × Json)) : Prop where
  variant : ∃ v, variants.find? (fun v => v.name == name) = some v ∧
    v.decode (.object (Draft.ofEntries entries) .closed) = .ok a
  tag_ne : ∀ e ∈ entries, e.1 ≠ tag
  sound : ∀ e ∈ entries, ∀ room ≥ depth, (Draft.ofJson e.2).isSound room = true

theorem reads_record {ts : List Type} {fs : Fields ts} {type label : String} {a : α}
    {ofValues : Values ts → α} {vs : Values ts} (hfs : fs.Lawful depth) (htag : tag ∉ fs.names)
    (hfind : variants.find? (fun v => v.name == name) = some (.record type name label fs ofValues))
    (hvalue : ofValues vs = a) : Reads tag variants depth a name (fs.entries vs) where
  variant := by
    refine ⟨_, hfind, ?_⟩
    have hallows : Access.buffer.Allows depth := trivial
    have hobject := hfs.decodeObject_entries hallows vs
    simp only [Variant.record, Fields.decode, Access.inside?, hobject, Except.map, hvalue]
  tag_ne e he heq := htag (heq ▸ Fields.name_mem_of_mem_entries he)
  sound e he room hroom := hfs.sound he hroom

theorem reads_unit {a : α}
    (hfind : variants.find? (fun v => v.name == name) = some (.unit name a)) :
    Reads tag variants depth a name [] where
  variant := ⟨_, hfind, rfl⟩
  tag_ne _ he := by cases he
  sound _ he := by cases he

/-- Entries beside the tag are kept, the last one first. -/
theorem readEntries_ofEntries {split : Split α} {es : List (String × Json)}
    (htag : ∀ e ∈ es, e.1 ≠ tag) (hkept : ∀ e ∈ es, isKept access (.ofJson e.2) = true) :
    readEntries tag variants access split (Draft.ofEntries es)
      = .ok { split with others := (Draft.ofEntries es).reverse ++ split.others } := by
  induction es generalizing split with
  | nil => rfl
  | cons e es ih =>
    obtain ⟨key, v⟩ := e
    have hne : key ≠ tag := htag (key, v) List.mem_cons_self
    have hfirst : isKept access (.ofJson v) = true := hkept (key, v) List.mem_cons_self
    have hrest := fun split => @ih split (fun e he => htag e (List.mem_cons_of_mem _ he))
      fun e he => hkept e (List.mem_cons_of_mem _ he)
    simp only [Draft.ofEntries, readEntries, if_neg hne, if_pos hfirst, hrest]
    simp

theorem isKept_of_allows {d : Draft} (haccess : access.Allows depth)
    (hsound : ∀ room ≥ depth, d.isSound room = true) : isKept access d = true := by
  cases access with
  | text room => exact hsound room haccess
  | buffer => rfl

end Tagged

theorem Codec.lawful_tagged {α : Type} {variants : List (Variant α)} {depth : Nat}
    {write : α → String × List (String × Json)} (type tag : String)
    (h : ∀ a, Tagged.Reads tag variants depth a (write a).1 (write a).2) :
    (tagged type tag variants write).Lawful (depth + 1) where
  decode a access haccess := by
    obtain ⟨inside, hinside, hallows⟩ := haccess.inside
    obtain ⟨⟨v, hfind, hdecode⟩, htag, hsound⟩ := h a
    have hread : Tagged.readTag variants inside (.string (some (write a).1)) = .ok v := by
      simp only [Tagged.readTag, hfind]
    have hothers := @Tagged.readEntries_ofEntries α tag variants inside ⟨some v, []⟩ (write a).2
      htag fun e he => Tagged.isKept_of_allows hallows (hsound e he)
    simp only [tagged, Draft.ofJson, Draft.ofEntries, Tagged.decode, hinside, Tagged.decodeObject,
      Tagged.readEntries, if_true, hread, hothers, whenClosed, List.append_nil,
      List.reverse_reverse, hdecode]
  sound a room hroom := by
    apply Draft.isSound_object hroom
    intro e he room hroom
    rcases List.mem_cons.1 he with rfl | he
    · simp [Draft.ofJson, Draft.isSound]
    · exact (h a).sound e he room hroom

end GridWalk.Json
