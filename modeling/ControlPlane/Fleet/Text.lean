import Mathlib

/-! Python text: sequences of code points, lone surrogates among them. -/

namespace ControlPlane.Fleet

abbrev CodePoint := Fin 0x110000

abbrev Text := List CodePoint

instance : LawfulBEq Text := inferInstance

namespace CodePoint

theorem toNat_lt (c : Char) : c.toNat < 0x110000 := by
  rcases c.valid with h | h
  · exact Nat.lt_trans h (by decide)
  · exact h.2

def ofChar (c : Char) : CodePoint := ⟨c.toNat, toNat_lt c⟩

/-- The characters that `str.strip` takes away. -/
def isSpace (c : CodePoint) : Bool :=
  (9 ≤ c.val && c.val ≤ 13) || (28 ≤ c.val && c.val ≤ 32) || c.val == 0x85 || c.val == 0xa0 ||
    c.val == 0x1680 || (0x2000 ≤ c.val && c.val ≤ 0x200a) || c.val == 0x2028 || c.val == 0x2029 ||
    c.val == 0x202f || c.val == 0x205f || c.val == 0x3000

def isSurrogate (c : CodePoint) : Bool := 0xd800 ≤ c.val && c.val ≤ 0xdfff

def utf8Size (c : CodePoint) : Nat :=
  if c.val < 0x80 then 1 else if c.val < 0x800 then 2 else if c.val < 0x10000 then 3 else 4

end CodePoint

def text (literal : String) : Text := literal.toList.map CodePoint.ofChar

/-- Rewriting a literal so makes it quick to evaluate. -/
theorem text_ofList (l : List Char) : text (String.ofList l) = l.map CodePoint.ofChar := by
  rw [text, String.toList_ofList]

namespace Text

def asString (t : Text) : String := String.ofList (t.map fun c => Char.ofNat c.val)

def strip (t : Text) : Text := (t.dropWhile CodePoint.isSpace).rdropWhile CodePoint.isSpace

/-- `t.encode("utf-8")` by its length; a surrogate cannot be encoded. -/
def encodedSize (t : Text) : Option Nat :=
  if t.any CodePoint.isSurrogate then none else some (t.map CodePoint.utf8Size).sum

def bytes (t : Text) : Nat := (t.map CodePoint.utf8Size).sum

@[simp] theorem bytes_nil : bytes [] = 0 := rfl

@[simp] theorem bytes_cons (c : CodePoint) (t : Text) : bytes (c :: t) = c.utf8Size + bytes t := rfl

@[simp] theorem bytes_append (s t : Text) : bytes (s ++ t) = bytes s + bytes t := by
  simp [bytes]

theorem bytes_eq_length {t : Text} (h : ∀ c ∈ t, c.val < 0x80) : t.bytes = t.length := by
  induction t with
  | nil => rfl
  | cons c t ih =>
    have hc : c.utf8Size = 1 := if_pos (h c List.mem_cons_self)
    rw [bytes_cons, hc, ih fun d hd => h d (List.mem_cons_of_mem c hd), List.length_cons,
      Nat.add_comm]

theorem strip_eq_self_iff {t : Text} : t.strip = t ↔
    (∀ c ∈ t.head?, c.isSpace = false) ∧ (∀ c ∈ t.getLast?, c.isSpace = false) := by
  constructor
  · intro h
    have hlen := congrArg List.length h
    have hr : (t.dropWhile CodePoint.isSpace).rdropWhile CodePoint.isSpace <+:
        t.dropWhile CodePoint.isSpace := List.rdropWhile_prefix _ _
    have hd : t.dropWhile CodePoint.isSpace <:+ t := List.dropWhile_suffix _
    have hdrop : t.dropWhile CodePoint.isSpace = t :=
      hd.eq_of_length (le_antisymm hd.length_le (hlen ▸ hr.length_le))
    have hrdrop : t.rdropWhile CodePoint.isSpace = t := by
      rw [strip, hdrop] at h
      exact h
    rw [List.dropWhile_eq_self_iff] at hdrop
    rw [List.rdropWhile_eq_self_iff] at hrdrop
    constructor
    · intro c hc
      cases t with
      | nil => cases hc
      | cons a rest =>
        obtain rfl : a = c := Option.some.inj hc
        simpa using hdrop (Nat.succ_pos _)
    · intro c hc
      have hne : t ≠ [] := List.ne_nil_of_mem (List.mem_of_getLast? hc)
      rw [← (List.getLast_eq_iff_getLast?_eq_some hne).mpr hc]
      simpa using hrdrop hne
  · rintro ⟨hhead, hlast⟩
    have hdrop : t.dropWhile CodePoint.isSpace = t := by
      cases t with
      | nil => rfl
      | cons a rest => rw [List.dropWhile_cons_of_neg (by simp [hhead a rfl])]
    have hrdrop : t.rdropWhile CodePoint.isSpace = t := by
      rw [List.rdropWhile_eq_self_iff]
      intro hne
      simp [hlast _ (List.getLast?_eq_some_getLast hne)]
    rw [strip, hdrop, hrdrop]

@[simp] theorem strip_strip (t : Text) : t.strip.strip = t.strip := by
  rw [strip_eq_self_iff]
  have hprefix : t.strip <+: t.dropWhile CodePoint.isSpace := List.rdropWhile_prefix _ _
  constructor
  · intro c hc
    obtain ⟨rest, hrest⟩ := hprefix
    have hhead : (t.dropWhile CodePoint.isSpace).head? = some c := by
      rw [← hrest, List.head?_append, hc]
      rfl
    have := List.head?_dropWhile_not CodePoint.isSpace t
    rw [hhead] at this
    simpa using this
  · intro c hc
    have hne : t.strip ≠ [] := List.ne_nil_of_mem (List.mem_of_getLast? hc)
    rw [← (List.getLast_eq_iff_getLast?_eq_some hne).mpr hc]
    rw [← Bool.not_eq_true]
    exact List.rdropWhile_last_not CodePoint.isSpace _ hne

end Text

end ControlPlane.Fleet
