import GridWalk.Json.Basic
import GridWalk.Json.Fault

/-! Codecs: how the values of a type are written as JSON and read back.  Reading goes through a
draft in the order of the text and stops at the first fault. -/

namespace GridWalk.Json

/-- How the parts of a text come to a reader. -/
inductive Access where
  /-- Straight from the text.  `room` is the number of containers that may still be opened inside
  one another. -/
  | text (room : Nat)
  /-- From values that were read before their type was known, and are sound. -/
  | buffer
  deriving DecidableEq, Repr

def Access.inside? : Access → Option Access
  | text 0 => none
  | text (room + 1) => some (text room)
  | buffer => some buffer

structure Codec (α : Type) where
  encode : α → Json
  decode : Access → Draft → Except Fault α

namespace Codec

variable {α β : Type}

/-- The codec of a type whose values are those of `α` under other names. -/
def iso (c : Codec α) (ofBase : α → β) (toBase : β → α) : Codec β where
  encode b := c.encode (toBase b)
  decode access d := (c.decode access d).map ofBase

/-- The codec of a type whose values are written as those of `α` that pass a check. -/
def refine (c : Codec α) (check : α → Except String β) (toBase : β → α) : Codec β where
  encode b := c.encode (toBase b)
  decode access d :=
    match c.decode access d with
    | .error fault => .error fault
    | .ok a => (check a).mapError .rejected

def bool : Codec Bool where
  encode := .bool
  decode _
    | .bool b => .ok b
    | d => .error (d.mismatch "a boolean")

def string : Codec String where
  encode := .string
  decode _
    | .string (some s) => .ok s
    | d => .error (d.mismatch "a string")

def decodeNat (limit : Nat) (expected : String) : Draft → Except Fault Nat
  | .number (some (.integer n)) =>
    if 0 ≤ n ∧ n < limit then .ok n.toNat
    else .error (.invalidValue (.number (.integer n)) expected)
  | d => .error (d.mismatch expected)

def uint16 : Codec UInt16 where
  encode n := .number n.toUInt64
  decode _ d := (decodeNat UInt16.size "u16" d).map .ofNat

def uint32 : Codec UInt32 where
  encode n := .number n.toUInt64
  decode _ d := (decodeNat UInt32.size "u32" d).map .ofNat

/-- Numbers of 64 bits.  `expected` is what messages call them. -/
def uint64 (expected : String) : Codec UInt64 where
  encode := .number
  decode _ d := (decodeNat UInt64.size expected d).map .ofNat

/-- A value that can be absent, which is written as `null`. -/
def option (c : Codec α) : Codec (Option α) where
  encode
    | none => .null
    | some a => c.encode a
  decode access
    | .null => .ok none
    | d => (c.decode access d).map some

def decodeItems (c : Codec α) (access : Access) : List Draft → Except Fault (List α)
  | [] => .ok []
  | d :: ds =>
    match c.decode access d with
    | .error fault => .error fault
    | .ok a => (decodeItems c access ds).map (a :: ·)

def whenClosed (ending : Ending) (result : Except Fault α) : Except Fault α :=
  match ending with
  | .closed => result
  | .broken => .error .malformed

def list (c : Codec α) : Codec (List α) where
  encode as := .array (as.map c.encode)
  decode access
    | .array items ending =>
      match access.inside? with
      | none => .error .malformed
      | some inside =>
        match decodeItems c inside items with
        | .error fault => .error fault
        | .ok as => whenClosed ending (.ok as)
    | d => .error (d.mismatch "a sequence")

def write (c : Codec α) (a : α) : String := (c.encode a).render

/-- The number of containers that a text may open inside one another. -/
def depthLimit : Nat := 127

/-- The value of a text.  Nothing but space may follow it. -/
def read (c : Codec α) (text : String) : Except Fault α :=
  let (d, rest) := Draft.ofText text
  match c.decode (.text depthLimit) d with
  | .error fault => .error fault
  | .ok a => if rest.isEmpty then .ok a else .error .malformed

end Codec

end GridWalk.Json
