import ControlPlane.Fleet.Text
import ControlPlane.Lib.Hex

/-! JSON values as Python holds them, and the text `json.dumps` writes with an indent of two,
sorted keys and every character outside printable ASCII escaped. -/

namespace ControlPlane.Fleet

/-- The entries of a `dict` are listed by key: dicts compare without an order, and `sort_keys`
writes them in that one.  A float is given by its text. -/
inductive Json
  | null
  | bool (b : Bool)
  | int (n : Int)
  | float (digits : Text)
  | str (t : Text)
  | list (items : List Json)
  | dict (entries : List (Text × Json))

abbrev Dict := List (Text × Json)

namespace Json

def ascii (c : Char) : CodePoint := CodePoint.ofChar c

/-- `\uXXXX` for a UTF-16 code unit. -/
def unicodeEscape (unit : Nat) : Text := ascii '\\' :: ascii 'u' :: (Hex.padded 4 unit).map ascii

def escape (c : CodePoint) : Text :=
  if c.val = 0x22 then text "\\\""
  else if c.val = 0x5c then text "\\\\"
  else if c.val = 0x0a then text "\\n"
  else if c.val = 0x0d then text "\\r"
  else if c.val = 0x09 then text "\\t"
  else if c.val = 0x0c then text "\\f"
  else if c.val = 0x08 then text "\\b"
  else if 0x20 ≤ c.val ∧ c.val ≤ 0x7e then [c]
  else if c.val < 0x10000 then unicodeEscape c.val
  else
    unicodeEscape (0xd800 + (c.val - 0x10000) / 0x400) ++
      unicodeEscape (0xdc00 + (c.val - 0x10000) % 0x400)

def quoted (t : Text) : Text := ascii '"' :: (t.flatMap escape ++ [ascii '"'])

def decimal (n : Int) : Text := text (toString n)

def newline (level : Nat) : Text := ascii '\n' :: List.replicate (2 * level) (ascii ' ')

mutual

def dumps (level : Nat) : Json → Text
  | .null => text "null"
  | .bool b => text (if b then "true" else "false")
  | .int n => decimal n
  | .float digits => digits
  | .str t => quoted t
  | .list [] => text "[]"
  | .list (v :: rest) =>
    text "[" ++ newline (level + 1) ++ dumps (level + 1) v ++ dumpsItems (level + 1) rest ++
      newline level ++ text "]"
  | .dict [] => text "\x7b\x7d"
  | .dict ((key, v) :: rest) =>
    text "\x7b" ++ newline (level + 1) ++ quoted key ++ text ": " ++ dumps (level + 1) v ++
      dumpsEntries (level + 1) rest ++ newline level ++ text "\x7d"

def dumpsItems (level : Nat) : List Json → Text
  | [] => []
  | v :: rest => text "," ++ newline level ++ dumps level v ++ dumpsItems level rest

def dumpsEntries (level : Nat) : List (Text × Json) → Text
  | [] => []
  | (key, v) :: rest =>
    text "," ++ newline level ++ quoted key ++ text ": " ++ dumps level v ++
      dumpsEntries level rest

end

def escapedSize (c : CodePoint) : Nat :=
  if c.val = 0x22 ∨ c.val = 0x5c ∨ c.val = 0x0a ∨ c.val = 0x0d ∨ c.val = 0x09 ∨ c.val = 0x0c ∨
      c.val = 0x08 then 2
  else if 0x20 ≤ c.val ∧ c.val ≤ 0x7e then 1
  else if c.val < 0x10000 then 6
  else 12

def quotedSize (t : Text) : Nat := 2 + (t.map escapedSize).sum

theorem bytes_unicodeEscape (unit : Nat) : (unicodeEscape unit).bytes = 6 := by
  have hdigits : Text.bytes ((Hex.padded 4 unit).map ascii) = 4 := by
    rw [Text.bytes_eq_length, List.length_map, Hex.length_padded]
    intro c hc
    obtain ⟨d, hd, rfl⟩ := List.mem_map.mp hc
    obtain ⟨n, rfl⟩ := Hex.mem_padded hd
    exact Hex.toNat_digit_lt n
  rw [unicodeEscape, Text.bytes_cons, Text.bytes_cons, hdigits]
  rfl

theorem bytes_escape (c : CodePoint) : (escape c).bytes = escapedSize c := by
  unfold escapedSize
  by_cases hshort : c.val = 0x22 ∨ c.val = 0x5c ∨ c.val = 0x0a ∨ c.val = 0x0d ∨ c.val = 0x09 ∨
      c.val = 0x0c ∨ c.val = 0x08
  · rw [if_pos hshort]
    unfold escape
    rcases hshort with h | h | h | h | h | h | h
    all_goals
      rw [h]
      rfl
  · rw [if_neg hshort]
    simp only [not_or] at hshort
    obtain ⟨hquote, hbackslash, hnewline, hreturn, htab, hfeed, hback⟩ := hshort
    rw [escape, if_neg hquote, if_neg hbackslash, if_neg hnewline, if_neg hreturn, if_neg htab,
      if_neg hfeed, if_neg hback]
    split
    · next hplain =>
      have hsize : c.utf8Size = 1 := if_pos (hplain.2.trans_lt (by decide))
      rw [Text.bytes_cons, hsize, Text.bytes_nil]
    · split
      · exact bytes_unicodeEscape _
      · rw [Text.bytes_append, bytes_unicodeEscape, bytes_unicodeEscape]

theorem bytes_quoted (t : Text) : (quoted t).bytes = quotedSize t := by
  have hquote : (ascii '"').utf8Size = 1 := rfl
  have hflat : Text.bytes (t.flatMap escape) = (t.map escapedSize).sum := by
    induction t with
    | nil => rfl
    | cons c t ih =>
      rw [List.flatMap_cons, Text.bytes_append, bytes_escape, ih, List.map_cons, List.sum_cons]
  rw [quoted, Text.bytes_cons, Text.bytes_append, hflat, Text.bytes_cons, Text.bytes_nil, hquote,
    quotedSize]
  omega

@[simp] theorem bytes_newline (level : Nat) : (newline level).bytes = 1 + 2 * level := by
  have hspaces : Text.bytes (List.replicate (2 * level) (ascii ' ')) = 2 * level := by
    rw [Text.bytes_eq_length, List.length_replicate]
    intro c hc
    rw [List.eq_of_mem_replicate hc]
    decide
  rw [newline, Text.bytes_cons, hspaces]
  rfl

end Json

end ControlPlane.Fleet
