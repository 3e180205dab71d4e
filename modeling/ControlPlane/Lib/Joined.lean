import Mathlib.Data.List.Nodup

/-! Texts joined by a separator.  What is free of the separator can be read back from either end;
two free texts next to each other cannot be told apart. -/

namespace ControlPlane.Joined

section Split

variable {α : Type} {c : α} {a b s t : List α}

theorem rest_inj (hs : c ∉ s) (ht : c ∉ t) (h : a ++ c :: s = b ++ c :: t) : s = t := by
  induction a generalizing b with
  | nil =>
    cases b with
    | nil => exact (List.cons.inj h).2
    | cons x b =>
      obtain ⟨rfl, rfl⟩ := List.cons.inj h
      simp at hs
  | cons x a ih =>
    cases b with
    | nil =>
      obtain ⟨rfl, rfl⟩ := List.cons.inj h
      simp at ht
    | cons y b => exact ih (List.cons.inj h).2

theorem front_inj (ha : c ∉ a) (hb : c ∉ b) : a ++ c :: s = b ++ c :: t ↔ a = b ∧ s = t := by
  constructor
  · intro h
    have hreverse : s.reverse ++ c :: a.reverse = t.reverse ++ c :: b.reverse := by
      simpa using congrArg List.reverse h
    have hfront : a = b := List.reverse_injective
      (rest_inj (by simpa using ha) (by simpa using hb) hreverse)
    subst hfront
    exact ⟨rfl, (List.cons.inj (List.append_cancel_left h)).2⟩
  · rintro ⟨rfl, rfl⟩
    rfl

end Split

def pair (key : String × String) : String := key.1 ++ ":" ++ key.2

section Label

variable {κ : Type} {asStr : κ → String}

def labelId (asStr : κ → String) (label : κ × String × String) : String :=
  asStr label.1 ++ ":" ++ label.2.1 ++ ":" ++ label.2.2

theorem labelId_inj (hcolon : ∀ kind, ':' ∉ (asStr kind).toList)
    (hinj : Function.Injective asStr) {label other : κ × String × String} :
    labelId asStr label = labelId asStr other ↔
      label.1 = other.1 ∧ pair label.2 = pair other.2 := by
  have hsplit : ∀ label : κ × String × String, (labelId asStr label).toList =
      (asStr label.1).toList ++ ':' :: (pair label.2).toList := by
    intro label
    simp [labelId, pair]
  rw [← String.toList_inj, hsplit, hsplit, front_inj (hcolon label.1) (hcolon other.1),
    String.toList_inj, String.toList_inj, hinj.eq_iff]

/-- The ids of different labels differ unless two keys of one kind read the same. -/
theorem nodup_labelIds_iff (hcolon : ∀ kind, ':' ∉ (asStr kind).toList)
    (hinj : Function.Injective asStr) {labels : List (κ × String × String)}
    (hlabels : labels.Nodup) :
    (labels.map (labelId asStr)).Nodup ↔
      ∀ kind key other, (kind, key) ∈ labels → (kind, other) ∈ labels →
        pair key = pair other → key = other := by
  rw [List.nodup_map_iff_inj_on hlabels]
  constructor
  · intro h kind key other hkey hother hpair
    exact congrArg Prod.snd (h _ hkey _ hother ((labelId_inj hcolon hinj).2 ⟨rfl, hpair⟩))
  · rintro h ⟨kind, key⟩ hlabel ⟨kind', other⟩ hother hid
    obtain ⟨rfl, hpair⟩ := (labelId_inj hcolon hinj).1 hid
    rw [h kind key other hlabel hother hpair]

theorem injective_of_nodup (kinds : List κ) (hall : ∀ kind, kind ∈ kinds)
    (hnodup : (kinds.map asStr).Nodup) : Function.Injective asStr :=
  fun kind other h => List.inj_on_of_nodup_map hnodup (hall kind) (hall other) h

end Label

end ControlPlane.Joined
