import Mathlib.Data.List.Induction
import Mathlib.Data.Nat.Basic
import Mathlib.Tactic.IntervalCases

/-! Unsigned integers in hexadecimal: the zero-padded lower-case form a formatter writes and the
radix-16 reader of the standard library. -/

namespace ControlPlane.Hex

def digit (d : Nat) : Char := "0123456789abcdef".toList.getD (d % 16) '0'

def valueOf (c : Char) : Option Nat :=
  if '0' ≤ c ∧ c ≤ '9' then some (c.toNat - '0'.toNat)
  else if 'a' ≤ c ∧ c ≤ 'f' then some (c.toNat - 'a'.toNat + 10)
  else if 'A' ≤ c ∧ c ≤ 'F' then some (c.toNat - 'A'.toNat + 10)
  else none

/-- The lower-case digits of `n`, padded with zeros to `width` of them; `n` has no more. -/
def padded : Nat → Nat → List Char
  | 0, _ => []
  | width + 1, n => padded width (n / 16) ++ [digit n]

def readDigit (acc : Option Nat) (c : Char) : Option Nat := do
  return (← acc) * 16 + (← valueOf c)

def read (digits : List Char) : Option Nat := digits.foldl readDigit (some 0)

def dropPlus : List Char → List Char
  | '+' :: rest => rest
  | text => text

/-- `from_str_radix(_, 16)` for an unsigned type of `bits` bits: a plus sign may lead, and
there must be a digit. -/
def fromStrRadix (bits : Nat) (text : List Char) : Option Nat :=
  if dropPlus text = [] then none else (read (dropPlus text)).filter (· < 2 ^ bits)

def grouped {α : Type} (sep : α) : List Nat → List α → List α
  | [], l => l
  | k :: ks, l => l.take k ++ sep :: grouped sep ks (l.drop k)

theorem valueOf_digit (d : Nat) : valueOf (digit d) = some (d % 16) := by
  have hlt : d % 16 < 16 := Nat.mod_lt _ (by decide)
  rw [digit]
  generalize d % 16 = e at hlt
  interval_cases e <;> rfl

theorem utf8Size_digit (d : Nat) : (digit d).utf8Size = 1 := by
  have hlt : d % 16 < 16 := Nat.mod_lt _ (by decide)
  rw [digit]
  generalize d % 16 = e at hlt
  interval_cases e <;> rfl

theorem toNat_digit_lt (d : Nat) : (digit d).toNat < 0x80 := by
  have hlt : d % 16 < 16 := Nat.mod_lt _ (by decide)
  rw [digit]
  generalize d % 16 = e at hlt
  interval_cases e <;> decide

@[simp] theorem length_padded (width n : Nat) : (padded width n).length = width := by
  induction width generalizing n with
  | zero => rfl
  | succ width ih => simp [padded, ih]

theorem mem_padded {width n : Nat} {c : Char} (h : c ∈ padded width n) : ∃ d, c = digit d := by
  induction width generalizing n with
  | zero => cases h
  | succ width ih =>
    rcases List.mem_append.mp h with h | h
    · exact ih h
    · exact ⟨n, List.mem_singleton.mp h⟩

theorem read_padded (width n : Nat) : read (padded width n) = some (n % 16 ^ width) := by
  induction width generalizing n with
  | zero => simp [padded, read, Nat.mod_one]
  | succ width ih =>
    have hfold : read (padded (width + 1) n) =
        readDigit (read (padded width (n / 16))) (digit n) := by
      simp [read, padded, List.foldl_append]
    rw [hfold, ih, readDigit, valueOf_digit]
    have hsplit : n % 16 ^ (width + 1) = n / 16 % 16 ^ width * 16 + n % 16 := by
      rw [Nat.pow_succ', Nat.mod_mul]
      omega
    rw [hsplit]
    rfl

theorem digit_ne {c : Char} (h : valueOf c = none) (d : Nat) : digit d ≠ c := by
  rintro rfl
  rw [valueOf_digit] at h
  cases h

theorem fromStrRadix_padded {bits width n : Nat} (hwidth : width ≠ 0) (hn : n < 16 ^ width)
    (hbits : n < 2 ^ bits) : fromStrRadix bits (padded width n) = some n := by
  have hne : padded width n ≠ [] := by
    rw [← List.length_pos_iff, length_padded]
    exact Nat.pos_of_ne_zero hwidth
  have hplus : dropPlus (padded width n) = padded width n := by
    cases hd : padded width n with
    | nil => rfl
    | cons c rest =>
      obtain ⟨d, rfl⟩ := mem_padded (hd ▸ List.mem_cons_self : c ∈ padded width n)
      rw [dropPlus]
      rintro rest' hplus
      exact digit_ne (by decide) d (List.cons.inj hplus).1
  rw [fromStrRadix, hplus, if_neg hne, read_padded, Nat.mod_eq_of_lt hn]
  simp [hbits]

def IsDigit (c : Char) : Prop := (valueOf c).isSome

instance (c : Char) : Decidable (IsDigit c) := inferInstanceAs (Decidable (_ = true))

def lower (c : Char) : Char := if 'A' ≤ c ∧ c ≤ 'F' then Char.ofNat (c.toNat + 0x20) else c

def denote (text : List Char) : Nat := text.foldl (fun n c => n * 16 + (valueOf c).getD 0) 0

structure Digits (text : List Char) (n : Nat) : Prop where
  digit : ∀ c ∈ text, IsDigit c
  value : denote text = n

def Signed (text : List Char) (n : Nat) : Prop := dropPlus text ≠ [] ∧ Digits (dropPlus text) n

theorem denote_concat (text : List Char) (c : Char) :
    denote (text ++ [c]) = denote text * 16 + (valueOf c).getD 0 := by
  simp [denote]

theorem read_concat (text : List Char) (c : Char) :
    read (text ++ [c]) = readDigit (read text) c := by
  simp [read]

theorem read_eq_some {text : List Char} {n : Nat} : read text = some n ↔ Digits text n := by
  induction text using List.reverseRecOn generalizing n with
  | nil =>
    constructor
    · intro h
      cases h
      exact ⟨by simp, rfl⟩
    · intro h
      rw [← h.value]
      rfl
  | append_singleton text c ih =>
    rw [read_concat, readDigit]
    constructor
    · intro h
      obtain ⟨acc, hacc, h⟩ := Option.bind_eq_some_iff.1 h
      obtain ⟨d, hd, h⟩ := Option.bind_eq_some_iff.1 h
      cases h
      obtain ⟨hdigit, hvalue⟩ := ih.1 hacc
      refine ⟨?_, ?_⟩
      · intro c' hc'
        rcases List.mem_append.1 hc' with hc' | hc'
        · exact hdigit c' hc'
        · rw [List.mem_singleton.1 hc', IsDigit, hd]
          rfl
      · rw [denote_concat, hvalue, hd, Option.getD_some]
    · intro h
      obtain ⟨d, hd⟩ := Option.isSome_iff_exists.1 (h.digit c (by simp))
      have hread : read text = some (denote text) :=
        ih.2 ⟨fun c' hc' => h.digit c' (List.mem_append_left _ hc'), rfl⟩
      rw [hread, hd, ← h.value, denote_concat, hd]
      rfl

theorem fromStrRadix_eq_some {bits n : Nat} {text : List Char} :
    fromStrRadix bits text = some n ↔ Signed text n ∧ n < 2 ^ bits := by
  rw [fromStrRadix, Signed]
  by_cases h : dropPlus text = []
  · simp [h]
  · rw [if_neg h, Option.filter_eq_some_iff, read_eq_some]
    simp [h]

section Digit

variable {c : Char} {d : Nat} (h : valueOf c = some d)
include h

theorem valueOf_cases :
    ('0'.toNat ≤ c.toNat ∧ c.toNat ≤ '9'.toNat ∧ c.toNat = d + '0'.toNat) ∨
      ('a'.toNat ≤ c.toNat ∧ c.toNat ≤ 'f'.toNat ∧ c.toNat + 10 = d + 'a'.toNat) ∨
        ('A'.toNat ≤ c.toNat ∧ c.toNat ≤ 'F'.toNat ∧ c.toNat + 10 = d + 'A'.toNat) := by
  rw [valueOf] at h
  split at h
  · next hrange =>
    have hrange' : '0'.toNat ≤ c.toNat ∧ c.toNat ≤ '9'.toNat := hrange
    cases h
    omega
  · split at h
    · next hrange =>
      have hrange' : 'a'.toNat ≤ c.toNat ∧ c.toNat ≤ 'f'.toNat := hrange
      cases h
      omega
    · split at h
      · next hrange =>
        have hrange' : 'A'.toNat ≤ c.toNat ∧ c.toNat ≤ 'F'.toNat := hrange
        cases h
        omega
      · cases h

theorem lt_of_valueOf : d < 16 := by
  have hranges := valueOf_cases h
  simp only [Char.reduceToNat] at hranges
  omega

theorem digit_eq_lower : digit d = lower c := by
  have hchar : ∀ k, c.toNat = k → c = Char.ofNat k := by
    rintro k rfl
    exact (Char.ofNat_toNat c).symm
  rcases valueOf_cases h with ⟨hmin, hmax, hvalue⟩ | ⟨hmin, hmax, hvalue⟩ | ⟨hmin, hmax, hvalue⟩ <;>
    simp only [Char.reduceToNat] at hmin hmax hvalue
  · rw [hchar (d + 48) hvalue]
    have hle : d ≤ 9 := by omega
    clear hvalue hmax hmin hchar h
    interval_cases d <;> rfl
  · rw [hchar (d + 87) (by omega)]
    have hle : 10 ≤ d ∧ d ≤ 15 := by omega
    clear hvalue hmax hmin hchar h
    obtain ⟨hge, hle⟩ := hle
    interval_cases d <;> rfl
  · rw [hchar (d + 55) (by omega)]
    have hle : 10 ≤ d ∧ d ≤ 15 := by omega
    clear hvalue hmax hmin hchar h
    obtain ⟨hge, hle⟩ := hle
    interval_cases d <;> rfl

theorem utf8Size_of_valueOf : c.utf8Size = 1 := by
  have hranges := valueOf_cases h
  simp only [Char.reduceToNat] at hranges
  rw [Char.utf8Size_eq_one_iff]
  have hle : c.toNat ≤ 127 := by omega
  exact hle

end Digit

theorem denote_lt {text : List Char} (h : ∀ c ∈ text, IsDigit c) :
    denote text < 16 ^ text.length := by
  induction text using List.reverseRecOn with
  | nil => exact Nat.one_pos
  | append_singleton text c ih =>
    obtain ⟨d, hd⟩ := Option.isSome_iff_exists.1 (h c (by simp))
    have hlt := ih fun c' hc' => h c' (List.mem_append_left _ hc')
    have hd' := lt_of_valueOf hd
    rw [denote_concat, hd, Option.getD_some, List.length_append, List.length_singleton, pow_succ]
    omega

theorem padded_denote {text : List Char} (h : ∀ c ∈ text, IsDigit c) :
    padded text.length (denote text) = text.map lower := by
  induction text using List.reverseRecOn with
  | nil => rfl
  | append_singleton text c ih =>
    obtain ⟨d, hd⟩ := Option.isSome_iff_exists.1 (h c (by simp))
    have hd' := lt_of_valueOf hd
    have hdiv : (denote text * 16 + d) / 16 = denote text := by omega
    have hdigit : digit (denote text * 16 + d) = digit d := by
      rw [digit, digit, Nat.mul_add_mod_self_right]
    rw [denote_concat, hd, Option.getD_some, List.length_append, List.length_singleton, padded,
      hdiv, hdigit, ih fun c' hc' => h c' (List.mem_append_left _ hc'), List.map_append,
      List.map_singleton, digit_eq_lower hd]

theorem IsDigit.utf8Size {c : Char} (h : IsDigit c) : c.utf8Size = 1 := by
  obtain ⟨d, hd⟩ := Option.isSome_iff_exists.1 h
  exact utf8Size_of_valueOf hd

theorem not_isDigit_plus : ¬IsDigit '+' := by decide

theorem dropPlus_of_digits {text : List Char} (h : ∀ c ∈ text, IsDigit c) :
    dropPlus text = text := by
  cases text with
  | nil => rfl
  | cons c rest =>
    rw [dropPlus]
    rintro rest' hplus
    exact not_isDigit_plus ((List.cons.inj hplus).1 ▸ h c List.mem_cons_self)

theorem dropPlus_cases (text : List Char) :
    dropPlus text = text ∨ text = '+' :: dropPlus text := by
  cases text with
  | nil => exact .inl rfl
  | cons c rest =>
    by_cases h : c = '+'
    · subst h
      exact .inr rfl
    · refine .inl ?_
      rw [dropPlus]
      rintro rest' hplus
      exact h (List.cons.inj hplus).1

theorem Digits.signed {text : List Char} {n : Nat} (h : Digits text n) (hne : text ≠ []) :
    Signed text n := by
  rw [Signed, dropPlus_of_digits h.digit]
  exact ⟨hne, h⟩

theorem Signed.digits {text : List Char} {n : Nat} (h : Signed text n)
    (hplus : text.head? ≠ some '+') : Digits text n := by
  rcases dropPlus_cases text with heq | heq
  · rw [Signed, heq] at h
    exact h.2
  · rw [heq] at hplus
    exact absurd rfl hplus

theorem Signed.mem {text : List Char} {n : Nat} (h : Signed text n) {c : Char} (hc : c ∈ text) :
    IsDigit c ∨ c = '+' := by
  rcases dropPlus_cases text with heq | heq
  · exact .inl (h.2.digit c (by rwa [heq]))
  · rw [heq] at hc
    rcases List.mem_cons.1 hc with hc | hc
    · exact .inr hc
    · exact .inl (h.2.digit c hc)

theorem Signed.utf8Size {text : List Char} {n : Nat} (h : Signed text n) {c : Char}
    (hc : c ∈ text) : c.utf8Size = 1 := by
  rcases h.mem hc with hdigit | rfl
  · exact hdigit.utf8Size
  · rfl

theorem Signed.lt {text : List Char} {n : Nat} (h : Signed text n) : n < 16 ^ text.length := by
  have hlt := denote_lt h.2.digit
  rw [h.2.value] at hlt
  refine hlt.trans_le (Nat.pow_le_pow_right (by decide) ?_)
  rcases dropPlus_cases text with heq | heq
  · rw [heq]
  · exact heq ▸ Nat.le_succ _

theorem digit_lt_digit {d e : Nat} (h : d % 16 < e % 16) : digit d < digit e := by
  have he : e % 16 < 16 := Nat.mod_lt _ (by decide)
  rw [digit, digit]
  generalize d % 16 = a at h
  generalize e % 16 = b at h he
  interval_cases b <;> interval_cases a <;> decide

section Lex

variable {α : Type} [LT α]

theorem append_lt_append {l m : List α} (h : l < m) (hlen : l.length = m.length) (s t : List α) :
    l ++ s < m ++ t := by
  induction h with
  | nil => cases hlen
  | rel hab => exact List.Lex.rel hab
  | cons _ ih => exact List.Lex.cons (ih (Nat.succ.inj hlen))

theorem grouped_lt_grouped (sep : α) (ks : List Nat) {l m : List α} (h : l < m)
    (hlen : l.length = m.length) : grouped sep ks l < grouped sep ks m := by
  induction ks generalizing l m with
  | nil => exact h
  | cons k ks ih =>
    rw [grouped, grouped]
    induction k generalizing l m with
    | zero => exact List.Lex.cons (ih h hlen)
    | succ k ihk =>
      cases h with
      | nil => cases hlen
      | rel hab => exact List.Lex.rel hab
      | cons h => exact List.Lex.cons (ihk h (Nat.succ.inj hlen))

end Lex

theorem length_grouped {α : Type} (sep : α) {ks : List Nat} {l : List α} (h : ks.sum ≤ l.length) :
    (grouped sep ks l).length = l.length + ks.length := by
  induction ks generalizing l with
  | nil => rfl
  | cons k ks ih =>
    rw [List.sum_cons] at h
    rw [grouped, List.length_append, List.length_cons, ih (by rw [List.length_drop]; omega),
      List.length_take, List.length_drop, List.length_cons]
    omega

theorem filter_grouped {α : Type} [DecidableEq α] {sep : α} (ks : List Nat) {l : List α}
    (h : sep ∉ l) : (grouped sep ks l).filter (· != sep) = l := by
  induction ks generalizing l with
  | nil => exact List.filter_eq_self.2 fun a ha => bne_iff_ne.2 fun heq => h (heq ▸ ha)
  | cons k ks ih =>
    have htake : (l.take k).filter (· != sep) = l.take k :=
      List.filter_eq_self.2 fun a ha => bne_iff_ne.2 fun heq => h (heq ▸ List.mem_of_mem_take ha)
    rw [grouped, List.filter_append, List.filter_cons_of_neg (by simp),
      ih (mt List.mem_of_mem_drop h), htake, List.take_append_drop]

theorem padded_lt_padded {width n m : Nat} (h : n < m) (hm : m < 16 ^ width) :
    padded width n < padded width m := by
  induction width generalizing n m with
  | zero => exact absurd (Nat.lt_one_iff.1 hm ▸ h) (Nat.not_lt_zero n)
  | succ width ih =>
    rw [padded, padded]
    have hlen : (padded width (n / 16)).length = (padded width (m / 16)).length := by
      rw [length_padded, length_padded]
    have hm' : m / 16 < 16 ^ width := by
      rw [Nat.div_lt_iff_lt_mul (by decide), ← Nat.pow_succ]
      exact hm
    rcases (Nat.div_le_div_right h.le : n / 16 ≤ m / 16).lt_or_eq with hdiv | hdiv
    · exact append_lt_append (ih hdiv hm') hlen _ _
    · rw [hdiv]
      apply List.append_left_lt
      exact List.Lex.rel (digit_lt_digit (by omega))

end ControlPlane.Hex
