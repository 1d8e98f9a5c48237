import GridWalk.Json.Choice
import GridWalk.Proofs.Json.Scan

/-! The law of codecs: what is written is read back.  Values can be read straight from a text, where
the containers may only be so deep, or from a buffer, which holds sound values.  The law therefore
speaks about every access that has room for the containers of the codec, and it says that written
values are sound. -/

namespace GridWalk.Json

/-- The access has room for `depth` containers inside one another. -/
def Access.Allows : Access → Nat → Prop
  | text room, depth => depth ≤ room
  | buffer, _ => True

theorem Access.Allows.inside {access : Access} {depth : Nat} (h : access.Allows (depth + 1)) :
    ∃ inside, access.inside? = some inside ∧ inside.Allows depth := by
  cases access with
  | text room =>
    cases room with
    | zero => exact absurd h (Nat.not_succ_le_zero depth)
    | succ room => exact ⟨.text room, rfl, Nat.le_of_succ_le_succ h⟩
  | buffer => exact ⟨.buffer, rfl, trivial⟩

theorem Access.Allows.mono {access : Access} {depth deeper : Nat} (h : access.Allows deeper)
    (hle : depth ≤ deeper) : access.Allows depth := by
  cases access with
  | text room => exact Nat.le_trans hle h
  | buffer => trivial

/-- Written values are read back wherever there is room for `depth` containers. -/
structure Codec.Lawful {α : Type} (c : Codec α) (depth : Nat) : Prop where
  decode : ∀ a access, access.Allows depth → c.decode access (.ofJson (c.encode a)) = .ok a
  sound : ∀ a room, depth ≤ room → (Draft.ofJson (c.encode a)).isSound room = true

def Codec.RoundTrips {α : Type} (c : Codec α) : Prop := ∀ a, c.read (c.write a) = .ok a

namespace Draft

theorem itemsSound_ofItems {room : Nat} {vs : List Json}
    (h : ∀ v ∈ vs, (ofJson v).isSound room = true) : itemsSound room (ofItems vs) = true := by
  induction vs with
  | nil => simp [ofItems, itemsSound]
  | cons v vs ih =>
    have hfirst := h v List.mem_cons_self
    have hrest := ih fun v' hv' => h v' (List.mem_cons_of_mem v hv')
    simp [ofItems, itemsSound, hfirst, hrest]

theorem entriesSound_ofEntries {room : Nat} {es : List (String × Json)}
    (h : ∀ e ∈ es, (ofJson e.2).isSound room = true) :
    entriesSound room (ofEntries es) = true := by
  induction es with
  | nil => simp [ofEntries, entriesSound]
  | cons e es ih =>
    obtain ⟨k, v⟩ := e
    have hfirst := h (k, v) List.mem_cons_self
    have hrest := ih fun e he => h e (List.mem_cons_of_mem (k, v) he)
    simp only [ofEntries, entriesSound, hrest, Option.isSome_some, Bool.true_and, Bool.and_true]
    exact hfirst

theorem isSound_array {room depth : Nat} {vs : List Json} (hroom : depth + 1 ≤ room)
    (h : ∀ v ∈ vs, ∀ room ≥ depth, (ofJson v).isSound room = true) :
    (ofJson (.array vs)).isSound room = true := by
  cases room with
  | zero => exact absurd hroom (Nat.not_succ_le_zero depth)
  | succ room =>
    have hitems := itemsSound_ofItems fun v hv => h v hv room (Nat.le_of_succ_le_succ hroom)
    simp [ofJson, isSound, hitems]

theorem isSound_object {room depth : Nat} {es : List (String × Json)} (hroom : depth + 1 ≤ room)
    (h : ∀ e ∈ es, ∀ room ≥ depth, (ofJson e.2).isSound room = true) :
    (ofJson (.object es)).isSound room = true := by
  cases room with
  | zero => exact absurd hroom (Nat.not_succ_le_zero depth)
  | succ room =>
    have hentries := entriesSound_ofEntries fun e he => h e he room (Nat.le_of_succ_le_succ hroom)
    simp [ofJson, isSound, hentries]

end Draft

namespace Codec

variable {α β : Type} {c : Codec α} {depth : Nat}

theorem Lawful.roundTrips (h : c.Lawful depth) (hdepth : depth ≤ depthLimit) : c.RoundTrips := by
  intro a
  have hdecode := h.decode a (.text depthLimit) hdepth
  simp only [read, write, Draft.ofText_render, hdecode]
  rfl

theorem Lawful.mono {deeper : Nat} (h : c.Lawful depth) (hle : depth ≤ deeper) :
    c.Lawful deeper where
  decode a access haccess := h.decode a access (haccess.mono hle)
  sound a room hroom := h.sound a room (Nat.le_trans hle hroom)

theorem Lawful.iso {ofBase : α → β} {toBase : β → α} (h : c.Lawful depth)
    (hinverse : ∀ b, ofBase (toBase b) = b) : (c.iso ofBase toBase).Lawful depth where
  decode b access haccess := by
    have hdecode := h.decode (toBase b) access haccess
    simp only [Codec.iso, hdecode, Except.map, hinverse]
  sound b := h.sound (toBase b)

theorem Lawful.refine {check : α → Except String β} {toBase : β → α} (h : c.Lawful depth)
    (hcheck : ∀ b, check (toBase b) = .ok b) : (c.refine check toBase).Lawful depth where
  decode b access haccess := by
    have hdecode := h.decode (toBase b) access haccess
    simp only [Codec.refine, hdecode, hcheck]
    rfl
  sound b := h.sound (toBase b)

theorem read_eq_ok_iff {text : String} {a : α} : c.read text = .ok a ↔
    c.decode (.text depthLimit) (Draft.ofText text).1 = .ok a ∧
    (Draft.ofText text).2.isEmpty = true := by
  unfold read
  simp only
  cases c.decode (.text depthLimit) (Draft.ofText text).1 with
  | error fault => simp
  | ok a' => cases (Draft.ofText text).2 <;> simp

theorem mapError_eq_ok_iff {ε ε' : Type} {x : Except ε β} {f : ε → ε'} {b : β} :
    x.mapError f = .ok b ↔ x = .ok b := by
  cases x with
  | error fault => exact iff_of_false nofun nofun
  | ok b' => exact ⟨fun h => congrArg _ (Except.ok.inj h), fun h => congrArg _ (Except.ok.inj h)⟩

section Refine

variable {check : α → Except String β} {toBase : β → α} {text : String}

/-- A value that was read is checked. -/
theorem read_refine_of_read {a : α} (h : c.read text = .ok a) :
    (c.refine check toBase).read text = (check a).mapError .rejected := by
  obtain ⟨hdecode, hrest⟩ := read_eq_ok_iff.1 h
  simp only [read, Codec.refine, hdecode]
  cases check a with
  | error reason => rfl
  | ok b => exact if_pos hrest

/-- Only what was read and passed the check is given. -/
theorem read_refine_eq_ok_iff {b : β} : (c.refine check toBase).read text = .ok b ↔
    ∃ a, c.read text = .ok a ∧ check a = .ok b := by
  constructor
  · intro h
    obtain ⟨hdecode, hrest⟩ := read_eq_ok_iff.1 h
    simp only [Codec.refine] at hdecode
    cases hbase : c.decode (.text depthLimit) (Draft.ofText text).1 with
    | error fault => simp [hbase] at hdecode
    | ok a =>
      rw [hbase] at hdecode
      exact ⟨a, read_eq_ok_iff.2 ⟨hbase, hrest⟩, mapError_eq_ok_iff.1 hdecode⟩
  · rintro ⟨a, hread, hcheck⟩
    rw [read_refine_of_read hread, hcheck]
    rfl

end Refine

theorem lawful_bool : bool.Lawful 0 where
  decode _ _ _ := rfl
  sound _ _ _ := by simp [bool, Draft.ofJson, Draft.isSound]

theorem lawful_string : string.Lawful 0 where
  decode _ _ _ := rfl
  sound _ _ _ := by simp [string, Draft.ofJson, Draft.isSound]

theorem decodeNat_ofJson {n : UInt64} {limit : Nat} (h : n.toNat < limit) (expected : String) :
    decodeNat limit expected (.ofJson (.number n)) = .ok n.toNat := by
  have hrange : (0 : Int) ≤ n.toNat ∧ (n.toNat : Int) < limit := by omega
  rw [Draft.ofJson, decodeNat, if_pos hrange, Int.toNat_natCast]

theorem isSound_ofJson_number (n : UInt64) (room : Nat) :
    (Draft.ofJson (.number n)).isSound room = true := by
  simp [Draft.ofJson, Draft.isSound]

theorem lawful_uint16 : uint16.Lawful 0 where
  decode n access _ := by
    have hnat : n.toUInt64.toNat = n.toNat := UInt16.toNat_toUInt64 n
    have hlt : n.toUInt64.toNat < UInt16.size := hnat ▸ n.toNat_lt
    have hread := decodeNat_ofJson hlt "u16"
    rw [uint16]
    simp only
    rw [hread, hnat, Except.map, UInt16.ofNat_toNat]
  sound n room _ := isSound_ofJson_number _ room

theorem lawful_uint32 : uint32.Lawful 0 where
  decode n access _ := by
    have hnat : n.toUInt64.toNat = n.toNat := UInt32.toNat_toUInt64 n
    have hlt : n.toUInt64.toNat < UInt32.size := hnat ▸ n.toNat_lt
    have hread := decodeNat_ofJson hlt "u32"
    rw [uint32]
    simp only
    rw [hread, hnat, Except.map, UInt32.ofNat_toNat]
  sound n room _ := isSound_ofJson_number _ room

theorem lawful_uint64 (expected : String) : (uint64 expected).Lawful 0 where
  decode n access _ := by
    have hread := decodeNat_ofJson n.toNat_lt expected
    rw [uint64]
    simp only
    rw [hread, Except.map, UInt64.ofNat_toNat]
  sound n room _ := isSound_ofJson_number n room

/-- An absent value is told from a present one where no present one is written as `null`. -/
theorem Lawful.option (h : c.Lawful depth) (hnull : ∀ a, c.encode a ≠ .null) :
    c.option.Lawful depth where
  decode
    | none, _, _ => rfl
    | some a, access, haccess => by
      have hdecode := h.decode a access haccess
      have hpresent := hnull a
      have hencode : c.option.encode (some a) = c.encode a := rfl
      rw [hencode]
      cases hv : c.encode a with
      | null => exact absurd hv hpresent
      | _ =>
        rw [hv] at hdecode
        simp only [Draft.ofJson] at hdecode ⊢
        simp only [Codec.option, hdecode, Except.map]
  sound
    | none, _, _ => by simp [Codec.option, Draft.ofJson, Draft.isSound]
    | some a, room, hroom => h.sound a room hroom

theorem decodeItems_ofItems {access : Access} (h : c.Lawful depth) (haccess : access.Allows depth)
    (as : List α) : decodeItems c access (Draft.ofItems (as.map c.encode)) = .ok as := by
  induction as with
  | nil => rfl
  | cons a as ih =>
    have hdecode := h.decode a access haccess
    simp only [List.map_cons, Draft.ofItems, decodeItems, hdecode, ih, Except.map]

theorem Lawful.list (h : c.Lawful depth) : c.list.Lawful (depth + 1) where
  decode as access haccess := by
    obtain ⟨inside, hinside, hallows⟩ := haccess.inside
    have hitems := decodeItems_ofItems h hallows as
    simp only [Codec.list, Draft.ofJson, hinside, hitems, whenClosed]
  sound as room hroom := by
    apply Draft.isSound_array hroom
    intro v hv
    obtain ⟨a, -, rfl⟩ := List.mem_map.1 hv
    exact h.sound a

theorem lawful_choice {all : List α} {name : α → String}
    (hfind : ∀ a, all.find? (fun b => name b == name a) = some a) :
    (choice all name).Lawful 0 where
  decode a _ _ := by
    have hname := hfind a
    simp only [choice, Draft.ofJson, Choice.decode, Choice.ofName, hname]
  sound a _ _ := by simp [choice, Draft.ofJson, Draft.isSound]

end Codec

end GridWalk.Json
