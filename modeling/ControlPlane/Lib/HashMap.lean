import ControlPlane.Lib.Recency

/-! Finite maps whose iteration order nobody may rely on: an `Iteration` of a map is any
arrangement of its values. -/

namespace ControlPlane

open Recency (find put keys)

structure HashMap (K V : Type) where
  entries : List (K × V)
  nodup : (keys entries).Nodup

namespace HashMap

variable {K V : Type}

def empty : HashMap K V := ⟨[], List.nodup_nil⟩

def values (m : HashMap K V) : List V := m.entries.map Prod.snd

structure Iteration (m : HashMap K V) where
  values : List V
  perm : values.Perm m.values

def iter (m : HashMap K V) : Iteration m := ⟨m.values, List.Perm.refl _⟩

theorem Iteration.exists_last {m : HashMap K V} (it : Iteration m) {v : V} (h : v ∈ it.values) :
    ∃ (it' : Iteration m) (front : List V), it'.values = front ++ [v] := by
  obtain ⟨before, rest, hvalues⟩ := List.append_of_mem h
  have hperm : ((before ++ rest) ++ [v]).Perm it.values := by
    rw [hvalues]
    exact (List.perm_append_singleton v _).trans List.perm_middle.symm
  exact ⟨⟨(before ++ rest) ++ [v], hperm.trans it.perm⟩, before ++ rest, rfl⟩

variable [DecidableEq K]

def get (m : HashMap K V) (k : K) : Option V := find k m.entries

def insert (m : HashMap K V) (k : K) (v : V) : HashMap K V :=
  ⟨put k v m.entries, Recency.nodup_put m.nodup v⟩

def ofList (l : List (K × V)) : HashMap K V := l.foldl (fun m e => m.insert e.1 e.2) empty

@[simp] theorem get_empty (k : K) : (empty : HashMap K V).get k = none := rfl

@[simp] theorem get_insert (m : HashMap K V) (k : K) (v : V) (x : K) :
    (m.insert k v).get x = if x = k then some v else m.get x := by
  by_cases h : x = k
  · subst h
    rw [if_pos rfl]
    exact Recency.find_put_self _ _ _
  · rw [if_neg h]
    exact Recency.find_put_of_ne h _ _

theorem mem_entries_iff {m : HashMap K V} {k : K} {v : V} :
    (k, v) ∈ m.entries ↔ m.get k = some v :=
  (Recency.find_eq_some_iff m.nodup).symm

theorem mem_values_iff {m : HashMap K V} {v : V} : v ∈ m.values ↔ ∃ k, m.get k = some v := by
  simp only [values, List.mem_map, Prod.exists, exists_eq_right, mem_entries_iff]

theorem Iteration.mem_iff {m : HashMap K V} (it : Iteration m) {v : V} :
    v ∈ it.values ↔ ∃ k, m.get k = some v := by
  rw [it.perm.mem_iff, mem_values_iff]

theorem get_ofList_concat (l : List (K × V)) (e : K × V) (x : K) :
    (ofList (l ++ [e])).get x = if x = e.1 then some e.2 else (ofList l).get x := by
  rw [ofList, List.foldl_concat, get_insert]
  rfl

theorem mem_of_get_ofList {l : List (K × V)} {k : K} {v : V} (h : (ofList l).get k = some v) :
    (k, v) ∈ l := by
  induction l using List.reverseRecOn with
  | nil => cases h
  | append_singleton l e ih =>
    rw [get_ofList_concat] at h
    split at h
    · next hk =>
      cases h
      simp [hk]
    · exact List.mem_append_left _ (ih h)

theorem isSome_get_ofList {l : List (K × V)} {k : K} :
    ((ofList l).get k).isSome ↔ k ∈ l.map Prod.fst := by
  induction l using List.reverseRecOn with
  | nil => simp [ofList]
  | append_singleton l e ih =>
    rw [get_ofList_concat]
    split
    · next hk => simp [hk]
    · next hk => simp [ih, hk]

section Keyed

variable {key : V → K}

def Keyed (key : V → K) (m : HashMap K V) : Prop := ∀ k v, m.get k = some v → key v = k

theorem Keyed.empty : Keyed key (HashMap.empty : HashMap K V) := nofun

theorem Keyed.insert {m : HashMap K V} (h : Keyed key m) (v : V) :
    Keyed key (m.insert (key v) v) := by
  intro k w hw
  rw [get_insert] at hw
  split at hw
  · next hk =>
    cases hw
    exact hk.symm
  · exact h k w hw

theorem Keyed.get_iff {m : HashMap K V} (h : Keyed key m) (it : Iteration m) {k : K} {v : V} :
    m.get k = some v ↔ v ∈ it.values ∧ key v = k := by
  rw [it.mem_iff]
  constructor
  · intro hv
    exact ⟨⟨k, hv⟩, h k v hv⟩
  · rintro ⟨⟨k', hv⟩, rfl⟩
    rwa [h k' v hv]

theorem Keyed.nodup {m : HashMap K V} (h : Keyed key m) (it : Iteration m) :
    (it.values.map key).Nodup := by
  rw [(it.perm.map key).nodup_iff, values, List.map_map]
  have hkeys : m.entries.map (key ∘ Prod.snd) = keys m.entries := by
    apply List.map_congr_left
    rintro ⟨k, v⟩ he
    exact h k v (mem_entries_iff.mp he)
  rw [hkeys]
  exact m.nodup

end Keyed

end HashMap

end ControlPlane
