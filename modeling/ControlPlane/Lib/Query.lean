import Mathlib.Data.List.Nodup

/-! Query strings: items `name=value`, joined by ampersands. -/

namespace ControlPlane.Query

/-- `str::split_once`: what stands before the first separator and what stands after it. -/
def splitOnce (sep : Char) : List Char → Option (List Char × List Char)
  | [] => none
  | c :: rest =>
    if c = sep then some ([], rest)
    else (splitOnce sep rest).map fun parts => (c :: parts.1, parts.2)

theorem splitOnce_append {sep : Char} {name : List Char} (h : sep ∉ name) (value : List Char) :
    splitOnce sep (name ++ sep :: value) = some (name, value) := by
  induction name with
  | nil => simp [splitOnce]
  | cons c name ih =>
    rw [List.mem_cons, not_or] at h
    simp [splitOnce, Ne.symm h.1, ih h.2]

theorem eq_append_of_splitOnce {sep : Char} {text : List Char} {parts : List Char × List Char}
    (h : splitOnce sep text = some parts) :
    sep ∉ parts.1 ∧ text = parts.1 ++ sep :: parts.2 := by
  induction text generalizing parts with
  | nil => cases h
  | cons c rest ih =>
    by_cases hc : c = sep
    · subst hc
      rw [splitOnce, if_pos rfl, Option.some.injEq] at h
      subst h
      exact ⟨List.not_mem_nil, rfl⟩
    · rw [splitOnce, if_neg hc, Option.map_eq_some_iff] at h
      obtain ⟨tail, htail, rfl⟩ := h
      obtain ⟨hmem, rfl⟩ := ih htail
      refine ⟨?_, rfl⟩
      rw [List.mem_cons, not_or]
      exact ⟨Ne.symm hc, hmem⟩

theorem not_mem_of_mem_splitOn {sep : Char} {text piece : List Char}
    (h : piece ∈ text.splitOn sep) : sep ∉ piece := by
  induction text generalizing piece with
  | nil =>
    rw [List.splitOn_nil, List.mem_singleton] at h
    subst h
    exact List.not_mem_nil
  | cons c rest ih =>
    obtain ⟨first, pieces, hrest⟩ := List.exists_cons_of_ne_nil (List.splitOn_ne_nil sep rest)
    rw [hrest] at ih
    rw [List.splitOn_cons_eq_if_modifyHead, hrest] at h
    by_cases hc : c = sep
    · rw [if_pos (beq_iff_eq.2 hc), List.mem_cons] at h
      rcases h with rfl | h
      · exact List.not_mem_nil
      · exact ih h
    · rw [if_neg (mt beq_iff_eq.1 hc), List.modifyHead_cons, List.mem_cons] at h
      rcases h with rfl | h
      · rw [List.mem_cons, not_or]
        exact ⟨Ne.symm hc, ih List.mem_cons_self⟩
      · exact ih (List.mem_cons_of_mem _ h)

abbrev Item := List Char × List Char

namespace Item

def text (item : Item) : List Char := item.1 ++ '=' :: item.2

structure Delimited (item : Item) : Prop where
  name_equals : '=' ∉ item.1
  name_ampersand : '&' ∉ item.1
  value_ampersand : '&' ∉ item.2

theorem Delimited.text {item : Item} (h : item.Delimited) : '&' ∉ item.text := by
  rw [Item.text, List.mem_append, List.mem_cons, not_or, not_or]
  exact ⟨h.name_ampersand, by decide, h.value_ampersand⟩

end Item

structure Lists (raw : List Char) (items : List Item) : Prop where
  ne_nil : items ≠ []
  delimited : ∀ item ∈ items, item.Delimited
  text : raw = ['&'].intercalate (items.map Item.text)

theorem Lists.splitOn {raw : List Char} {items : List Item} (h : Lists raw items) :
    raw.splitOn '&' = items.map Item.text := by
  rw [h.text]
  refine List.splitOn_intercalate '&' ?_ (by simpa using h.ne_nil)
  intro piece hpiece
  obtain ⟨item, hitem, rfl⟩ := List.mem_map.1 hpiece
  exact (h.delimited item hitem).text

theorem Lists.splitOnce {raw : List Char} {items : List Item} (h : Lists raw items) :
    (raw.splitOn '&').map (splitOnce '=') = items.map some := by
  rw [h.splitOn, List.map_map]
  refine List.map_congr_left ?_
  intro item hitem
  exact splitOnce_append (h.delimited item hitem).name_equals item.2

theorem Lists.unique {raw : List Char} {items items' : List Item} (h : Lists raw items)
    (h' : Lists raw items') : items = items' := by
  have hsome : Function.Injective (List.map (some : Item → Option Item)) :=
    List.map_injective_iff.2 fun _ _ => Option.some.inj
  exact hsome (h.splitOnce.symm.trans h'.splitOnce)

theorem lists_of_splitOn {raw : List Char} {items : List Item}
    (h : (raw.splitOn '&').map (splitOnce '=') = items.map some) : Lists raw items := by
  have hpiece : ∀ item ∈ items, ∃ piece ∈ raw.splitOn '&', splitOnce '=' piece = some item := by
    intro item hitem
    have hmem : some item ∈ (raw.splitOn '&').map (splitOnce '=') :=
      h ▸ List.mem_map_of_mem hitem
    exact List.mem_map.1 hmem
  have htext : raw.splitOn '&' = items.map Item.text := by
    refine List.ext_getElem ?_ ?_
    · simpa using congrArg List.length h
    · intro i hi hi'
      have hget := List.getElem_of_eq h (by simpa using hi)
      rw [List.getElem_map, List.getElem_map] at hget
      rw [List.getElem_map]
      exact (eq_append_of_splitOnce hget).2
  refine ⟨?_, ?_, ?_⟩
  · intro hnil
    rw [hnil] at htext
    exact List.splitOn_ne_nil '&' raw htext
  · intro item hitem
    obtain ⟨piece, hmem, hsplit⟩ := hpiece item hitem
    obtain ⟨hequals, rfl⟩ := eq_append_of_splitOnce hsplit
    have hampersand := not_mem_of_mem_splitOn hmem
    rw [List.mem_append, List.mem_cons, not_or, not_or] at hampersand
    exact ⟨hequals, hampersand.1, hampersand.2.2⟩
  · rw [← htext, List.intercalate_splitOn]

example : splitOnce '=' "limit=1=2".toList = some ("limit".toList, "1=2".toList) := by decide

end ControlPlane.Query
