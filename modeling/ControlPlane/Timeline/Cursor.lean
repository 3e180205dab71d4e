import ControlPlane.Lib.Hex
import ControlPlane.Lib.Machine

/-! The cursor of the timeline: a revision and the key of the last event of a page, as text. -/

namespace ControlPlane

namespace I64

/-- The cast `as u64`. -/
def toU64 (a : Int) : Nat := (a % 2 ^ 64).toNat

/-- The cast of a `u64` by `as i64`. -/
def ofU64 (n : Nat) : Int := if n < 2 ^ 63 then n else (n : Int) - 2 ^ 64

theorem toU64_lt (a : Int) : toU64 a < 2 ^ 64 := by
  simp only [toU64]
  omega

theorem toU64_ofU64 {n : Nat} (h : n < 2 ^ 64) : toU64 (ofU64 n) = n := by
  rw [toU64, ofU64]
  split <;> omega

theorem ofU64_toU64 {a : Int} (hmin : -2 ^ 63 ≤ a) (hmax : a < 2 ^ 63) : ofU64 (toU64 a) = a := by
  rw [ofU64, toU64]
  by_cases h : (a % 2 ^ 64).toNat < 2 ^ 63
  · rw [if_pos h]
    omega
  · rw [if_neg h]
    omega

end I64

class UuidText where
  simple : Uuid → List Char
  parseStr : List Char → Option Uuid

/-- The simple form is 32 lower-case hexadecimal digits, and it is read back. -/
class LawfulUuidText [UuidText] : Prop where
  length_simple : ∀ id, (UuidText.simple id).length = 32
  digit_of_mem : ∀ {id c}, c ∈ UuidText.simple id → ∃ d, c = Hex.digit d
  parseStr_simple : ∀ id, UuidText.parseStr (UuidText.simple id) = some id

/-- The instants the chrono library can represent, and its reading of a timestamp. -/
class Chrono where
  IsInstant : DateTime → Prop
  timestampOpt : Int → Nat → Option DateTime

/-- A timestamp is an `i64`, and an instant outside a leap second is read back from it. -/
class LawfulChrono [Chrono] : Prop where
  secs_fit : ∀ {t : DateTime}, Chrono.IsInstant t → -2 ^ 63 ≤ t.secs ∧ t.secs < 2 ^ 63
  timestampOpt_eq : ∀ {t : DateTime}, Chrono.IsInstant t → t.nanos < 10 ^ 9 →
    Chrono.timestampOpt t.secs t.nanos = some t

inductive TimelineError
  | invalidLimit
  | invalidCursor
  | revisionChanged (requested current : Nat)
  deriving DecidableEq, Repr

def MAX_TIMELINE_PAGE_LIMIT : Nat := 100

def TimelineError.message : TimelineError → String
  | .invalidLimit => s!"timeline limit must be between 1 and {MAX_TIMELINE_PAGE_LIMIT}"
  | .invalidCursor => "timeline cursor is invalid"
  | .revisionChanged requested current =>
    s!"timeline cursor revision {requested} does not match current revision {current}"

@[ext] structure TimelineCursor where
  revision : Nat
  occurredAt : DateTime
  eventId : Uuid
  deriving DecidableEq, Repr

def CURSOR_VERSION : List Char := "v1".toList

namespace TimelineCursor

def len (text : List Char) : Nat := (text.map Char.utf8Size).sum

theorem len_append (front back : List Char) : len (front ++ back) = len front + len back := by
  simp [len]

theorem len_dot (text : List Char) : len ('.' :: text) = 1 + len text := rfl

theorem len_of_ascii {text : List Char} (h : ∀ c ∈ text, c.utf8Size = 1) :
    len text = text.length := by
  have hsize : text.map Char.utf8Size = List.replicate text.length 1 := by
    rw [List.eq_replicate_iff]
    refine ⟨List.length_map _, fun b hb => ?_⟩
    obtain ⟨c, hc, rfl⟩ := List.mem_map.mp hb
    exact h c hc
  rw [len, hsize, List.sum_replicate_nat, Nat.mul_one]

theorem len_of_digits {text : List Char} (h : ∀ c ∈ text, ∃ d, c = Hex.digit d) :
    len text = text.length := by
  refine len_of_ascii fun c hc => ?_
  obtain ⟨d, rfl⟩ := h c hc
  exact Hex.utf8Size_digit d

@[simp] theorem len_padded (width n : Nat) : len (Hex.padded width n) = width := by
  rw [len_of_digits fun _ => Hex.mem_padded, Hex.length_padded]

section Codec

variable [UuidText]

def fields (cursor : TimelineCursor) : List (List Char) :=
  [CURSOR_VERSION, Hex.padded 16 cursor.revision, Hex.padded 16 (I64.toU64 cursor.occurredAt.secs),
    Hex.padded 8 cursor.occurredAt.nanos, UuidText.simple cursor.eventId]

def encode (cursor : TimelineCursor) : List Char := ['.'].intercalate cursor.fields

section Fields

variable [LawfulUuidText]

@[simp] theorem len_simple (id : Uuid) : len (UuidText.simple id) = 32 := by
  rw [len_of_digits fun _ => LawfulUuidText.digit_of_mem, LawfulUuidText.length_simple]

theorem dot_not_mem {cursor : TimelineCursor} {field : List Char} (h : field ∈ cursor.fields) :
    '.' ∉ field := by
  have hdigit : ∀ d, '.' ≠ Hex.digit d := fun d => (Hex.digit_ne (by decide) d).symm
  intro hdot
  simp only [fields, List.mem_cons, List.not_mem_nil, or_false] at h
  rcases h with rfl | rfl | rfl | rfl | rfl
  · revert hdot
    decide
  · obtain ⟨d, hd⟩ := Hex.mem_padded hdot
    exact hdigit d hd
  · obtain ⟨d, hd⟩ := Hex.mem_padded hdot
    exact hdigit d hd
  · obtain ⟨d, hd⟩ := Hex.mem_padded hdot
    exact hdigit d hd
  · obtain ⟨d, hd⟩ := LawfulUuidText.digit_of_mem hdot
    exact hdigit d hd

omit [LawfulUuidText] in
theorem encode_eq (cursor : TimelineCursor) :
    cursor.encode = CURSOR_VERSION ++ '.' :: (Hex.padded 16 cursor.revision ++
      '.' :: (Hex.padded 16 (I64.toU64 cursor.occurredAt.secs) ++
        '.' :: (Hex.padded 8 cursor.occurredAt.nanos ++ '.' :: UuidText.simple cursor.eventId))) := by
  simp [encode, fields, List.intercalate, List.intersperse]

theorem len_encode (cursor : TimelineCursor) : len cursor.encode = 78 := by
  have hversion : len CURSOR_VERSION = 2 := by decide
  rw [encode_eq]
  simp only [len_append, len_dot, len_padded, len_simple, hversion]

end Fields

variable [Chrono]

def parseFields (revision seconds nanos eventId : List Char) :
    Except TimelineError TimelineCursor :=
  if len revision ≠ 16 ∨ len seconds ≠ 16 ∨ len nanos ≠ 8 ∨ len eventId ≠ 32 then
    .error .invalidCursor
  else
    let cursor : Option TimelineCursor := do
      let revision ← Hex.fromStrRadix 64 revision
      let secondsBits ← Hex.fromStrRadix 64 seconds
      let nanos ← Hex.fromStrRadix 32 nanos
      guard (nanos < 1000000000)
      let occurredAt ← Chrono.timestampOpt (I64.ofU64 secondsBits) nanos
      let eventId ← UuidText.parseStr eventId
      return { revision, occurredAt, eventId }
    match cursor with
    | some cursor => .ok cursor
    | none => .error .invalidCursor

def parse (value : List Char) : Except TimelineError TimelineCursor :=
  if 96 < len value then .error .invalidCursor
  else match value.splitOn '.' with
    | [version, revision, seconds, nanos, eventId] =>
      if version ≠ CURSOR_VERSION then .error .invalidCursor
      else parseFields revision seconds nanos eventId
    | _ => .error .invalidCursor

structure Sound (cursor : TimelineCursor) : Prop where
  revision : cursor.revision < 2 ^ 64
  occurredAt : Chrono.IsInstant cursor.occurredAt
  nanos : cursor.occurredAt.nanos < 10 ^ 9

variable [LawfulUuidText] [LawfulChrono]

theorem parseFields_fields {cursor : TimelineCursor} (h : cursor.Sound) :
    parseFields (Hex.padded 16 cursor.revision)
      (Hex.padded 16 (I64.toU64 cursor.occurredAt.secs)) (Hex.padded 8 cursor.occurredAt.nanos)
      (UuidText.simple cursor.eventId) = .ok cursor := by
  obtain ⟨hmin, hmax⟩ := LawfulChrono.secs_fit h.occurredAt
  have hnanos : cursor.occurredAt.nanos < 1000000000 := h.nanos
  have hrevision : Hex.fromStrRadix 64 (Hex.padded 16 cursor.revision) = some cursor.revision :=
    Hex.fromStrRadix_padded (by decide) (by simpa using h.revision) h.revision
  have hseconds : Hex.fromStrRadix 64 (Hex.padded 16 (I64.toU64 cursor.occurredAt.secs)) =
      some (I64.toU64 cursor.occurredAt.secs) :=
    Hex.fromStrRadix_padded (by decide) (by simpa using I64.toU64_lt _) (I64.toU64_lt _)
  have hsubsec : Hex.fromStrRadix 32 (Hex.padded 8 cursor.occurredAt.nanos) =
      some cursor.occurredAt.nanos :=
    Hex.fromStrRadix_padded (by decide) (by omega) (by omega)
  simp [parseFields, hrevision, hseconds, hsubsec, I64.ofU64_toU64 hmin hmax,
    LawfulChrono.timestampOpt_eq h.occurredAt h.nanos, LawfulUuidText.parseStr_simple, guard,
    hnanos]

theorem parse_encode {cursor : TimelineCursor} (h : cursor.Sound) :
    parse cursor.encode = .ok cursor := by
  have hsplit : cursor.encode.splitOn '.' = cursor.fields :=
    List.splitOn_intercalate '.' (fun _ => dot_not_mem) (by simp [fields])
  rw [parse, len_encode, hsplit]
  simp [fields, parseFields_fields h]

end Codec

end TimelineCursor

end ControlPlane
