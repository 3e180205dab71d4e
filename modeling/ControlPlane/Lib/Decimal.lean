import ControlPlane.Lib.Hex

/-! Unsigned integers in base 10, as the standard library reads them: one plus sign may lead, and
every step is checked against the width of the type. -/

namespace ControlPlane.Decimal

def digitOf (c : Char) : Nat := c.toNat - '0'.toNat

def valueOf (c : Char) : Option Nat := if c.isDigit then some (digitOf c) else none

def readFrom (bits : Nat) : Nat → List Char → Option Nat
  | acc, [] => some acc
  | acc, c :: rest => do
    let d ← valueOf c
    let next ← (some (acc * 10 + d)).filter (· < 2 ^ bits)
    readFrom bits next rest

/-- `str::parse` for an unsigned type of `bits` bits. -/
def fromStr (bits : Nat) (text : List Char) : Option Nat :=
  if Hex.dropPlus text = [] then none else readFrom bits 0 (Hex.dropPlus text)

def denote (acc : Nat) (text : List Char) : Nat :=
  text.foldl (fun n c => n * 10 + digitOf c) acc

structure Digits (text : List Char) (n : Nat) : Prop where
  ne_nil : text ≠ []
  digit : ∀ c ∈ text, c.isDigit = true
  value : denote 0 text = n

theorem le_denote (acc : Nat) (text : List Char) : acc ≤ denote acc text := by
  induction text generalizing acc with
  | nil => exact le_refl acc
  | cons c rest ih =>
    calc
      acc ≤ acc * 10 + digitOf c := by omega
      _ ≤ denote acc (c :: rest) := ih _

/-- A prefix denotes no more than the whole, so the checks of the steps amount to one at the
end. -/
theorem readFrom_eq_some {bits acc n : Nat} (hacc : acc < 2 ^ bits) (text : List Char) :
    readFrom bits acc text = some n ↔
      (∀ c ∈ text, c.isDigit = true) ∧ denote acc text = n ∧ n < 2 ^ bits := by
  induction text generalizing acc with
  | nil =>
    simp only [readFrom, denote, List.foldl_nil, List.not_mem_nil, false_implies, implies_true,
      true_and, Option.some.injEq]
    constructor
    · rintro rfl
      exact ⟨rfl, hacc⟩
    · exact And.left
  | cons c rest ih =>
    by_cases hdigit : c.isDigit = true
    · by_cases hlt : acc * 10 + digitOf c < 2 ^ bits
      · have hread : readFrom bits acc (c :: rest) =
            readFrom bits (acc * 10 + digitOf c) rest := by
          simp [readFrom, valueOf, hdigit, Option.filter, hlt]
        rw [hread, ih hlt]
        simp [denote, hdigit]
      · have hread : readFrom bits acc (c :: rest) = none := by
          simp [readFrom, valueOf, hdigit, Option.filter, hlt]
        have hle := le_denote (acc * 10 + digitOf c) rest
        rw [hread]
        constructor
        · intro h
          cases h
        · rintro ⟨-, rfl, hbits⟩
          exact absurd (lt_of_le_of_lt hle hbits) hlt
    · have hread : readFrom bits acc (c :: rest) = none := by
        simp [readFrom, valueOf, hdigit]
      rw [hread]
      constructor
      · intro h
        cases h
      · intro h
        exact absurd (h.1 c List.mem_cons_self) hdigit

theorem fromStr_eq_some {bits n : Nat} {text : List Char} :
    fromStr bits text = some n ↔ Digits (Hex.dropPlus text) n ∧ n < 2 ^ bits := by
  by_cases hnil : Hex.dropPlus text = []
  · rw [fromStr, if_pos hnil]
    constructor
    · intro h
      cases h
    · intro h
      exact absurd hnil h.1.ne_nil
  · rw [fromStr, if_neg hnil, readFrom_eq_some (Nat.two_pow_pos bits)]
    constructor
    · intro h
      exact ⟨⟨hnil, h.1, h.2.1⟩, h.2.2⟩
    · intro h
      exact ⟨h.1.digit, h.1.value, h.2⟩

theorem Digits.unique {text : List Char} {m n : Nat} (hm : Digits text m) (hn : Digits text n) :
    m = n :=
  hm.value.symm.trans hn.value

theorem Digits.dropPlus {text : List Char} {n : Nat} (h : Digits text n) :
    Hex.dropPlus text = text := by
  refine (Hex.dropPlus_cases text).resolve_right fun hplus => ?_
  have hmem : '+' ∈ text := by
    rw [hplus]
    exact List.mem_cons_self
  exact absurd (h.digit '+' hmem) (by decide)

theorem head_plus_of_dropPlus_ne {text : List Char} (h : Hex.dropPlus text ≠ text) :
    text.head? = some '+' := by
  rw [(Hex.dropPlus_cases text).resolve_left h, List.head?_cons]

theorem not_digits_of_head_plus {text : List Char} {n : Nat} (h : text.head? = some '+') :
    ¬Digits text n := by
  intro hdigits
  exact absurd (hdigits.digit '+' (List.mem_of_head? h)) (by decide)

example : fromStr 64 "0017".toList = some 17 := by decide
example : fromStr 64 "+5".toList = some 5 := by decide
example : fromStr 64 "18446744073709551616".toList = none := by decide

end ControlPlane.Decimal
