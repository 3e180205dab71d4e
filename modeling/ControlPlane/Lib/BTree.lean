import Mathlib

/-! Ordered maps and sets, with tuples compared lexicographically. -/

universe u v

namespace ControlPlane

abbrev BTreeMap (K : Type u) (V : Type v) [Ord K] := Std.TreeMap K V
abbrev BTreeSet (K : Type u) [Ord K] := Std.TreeSet K

section Tuple

variable {α : Type u} {β : Type v} [Ord α] [Ord β]

instance tupleOrd : Ord (α × β) := lexOrd

instance tupleTransOrd [Std.TransOrd α] [Std.TransOrd β] : Std.TransOrd (α × β) :=
  inferInstanceAs (Std.TransCmp (compareLex _ _))

instance tupleLawfulEqOrd [Std.LawfulEqOrd α] [Std.LawfulEqOrd β] : Std.LawfulEqOrd (α × β) where
  eq_of_compare {a b} h := by
    change (compareOn Prod.fst a b).then (compareOn Prod.snd a b) = .eq at h
    rw [Ordering.then_eq_eq] at h
    exact Prod.ext (Std.LawfulEqOrd.eq_of_compare h.1) (Std.LawfulEqOrd.eq_of_compare h.2)

end Tuple

namespace BTreeMap

variable {K : Type u} {V : Type v} [Ord K] [Std.TransOrd K] [Std.LawfulEqOrd K]

theorem getElem?_insert_eq [DecidableEq K] (m : BTreeMap K V) (k a : K) (v : V) :
    (m.insert k v)[a]? = if k = a then some v else m[a]? := by
  rw [Std.TreeMap.getElem?_insert]
  exact if_congr Std.LawfulEqCmp.compare_eq_iff_eq rfl rfl

theorem getD_insert_eq [DecidableEq K] (m : BTreeMap K V) (k a : K) (v fallback : V) :
    (m.insert k v).getD a fallback = if k = a then v else m.getD a fallback := by
  rw [Std.TreeMap.getD_insert]
  exact if_congr Std.LawfulEqCmp.compare_eq_iff_eq rfl rfl

theorem getElem?_alter_eq [DecidableEq K] (m : BTreeMap K V) (k a : K)
    (f : Option V → Option V) : (m.alter k f)[a]? = if k = a then f m[k]? else m[a]? := by
  rw [Std.TreeMap.getElem?_alter]
  exact if_congr Std.LawfulEqCmp.compare_eq_iff_eq rfl rfl

theorem keys_perm_of_mem_iff {m : BTreeMap K V} {l : List K}
    (h : ∀ k, (∃ v : V, m[k]? = some v) ↔ k ∈ l) (hl : l.Nodup) : m.keys.Perm l := by
  apply (List.perm_ext_iff_of_nodup Std.TreeMap.nodup_keys hl).2
  intro k
  rw [Std.TreeMap.mem_keys, Std.TreeMap.mem_iff_isSome_getElem?, Option.isSome_iff_exists]
  exact h k

theorem keys_eq_of_mem_iff {m : BTreeMap K V} {l : List K}
    (hl : l.Pairwise fun a b => compare a b = .lt) (h : ∀ k, k ∈ m ↔ k ∈ l) : m.keys = l := by
  have hnodup : l.Nodup := hl.imp fun {a b} hab hne => by
    rw [hne, Std.ReflOrd.compare_self] at hab
    cases hab
  have hperm : m.keys.Perm l := (List.perm_ext_iff_of_nodup Std.TreeMap.nodup_keys hnodup).mpr
    fun k => Std.TreeMap.mem_keys.trans (h k)
  refine hperm.eq_of_pairwise (fun a b _ _ hab hba => ?_) Std.TreeMap.ordered_keys hl
  rw [Std.OrientedOrd.eq_swap, hba] at hab
  cases hab

theorem compare_pair {α : Type u} {β : Type v} [Ord α] [Ord β] (x y : α × β) :
    compare x y = (compare x.1 y.1).then (compare x.2 y.2) := rfl

theorem mem_ofList_iff {l : List (K × V)} {k : K} :
    k ∈ (Std.TreeMap.ofList l : BTreeMap K V) ↔ k ∈ l.map Prod.fst := by
  classical
  rw [Std.TreeMap.mem_ofList, List.contains_iff_mem]

theorem getElem?_ofList_eq_some_iff {l : List (K × V)} (hl : (l.map Prod.fst).Nodup) {k : K}
    {v : V} : (Std.TreeMap.ofList l : BTreeMap K V)[k]? = some v ↔ (k, v) ∈ l := by
  have distinct : l.Pairwise (fun a b => ¬compare a.1 b.1 = .eq) := by
    refine (List.pairwise_map.mp hl).imp ?_
    intro a b hab hc
    exact hab (Std.LawfulEqOrd.eq_of_compare hc)
  have of_mem : ∀ w, (k, w) ∈ l → (Std.TreeMap.ofList l : BTreeMap K V)[k]? = some w :=
    fun w hw => Std.TreeMap.getElem?_ofList_of_mem Std.ReflOrd.compare_self distinct hw
  constructor
  · intro h
    have hk : k ∈ l.map Prod.fst := by
      rw [← mem_ofList_iff]
      exact Std.TreeMap.mem_iff_isSome_getElem?.mpr (by rw [h]; rfl)
    obtain ⟨⟨k', w⟩, hw, rfl⟩ := List.mem_map.mp hk
    rw [of_mem w hw, Option.some.injEq] at h
    exact h ▸ hw
  · exact of_mem v

theorem toList_insert_perm [DecidableEq K] (m : BTreeMap K V) (k : K) (v : V) :
    (m.insert k v).toList.Perm ((k, v) :: m.toList.filter fun e => k ≠ e.1) := by
  simpa [beq_eq_decide] using Std.TreeMap.toList_insert_perm (t := m) (k := k) (v := v)

theorem toList_perm_of_getElem? [DecidableEq K] {m : BTreeMap K V} {k : K} {v : V}
    (h : m[k]? = some v) : m.toList.Perm ((k, v) :: m.toList.filter fun e => k ≠ e.1) := by
  have hsame : m.Equiv (m.insert k v) := by
    refine Std.TreeMap.Equiv.of_forall_constGet?_eq fun a => ?_
    rw [getElem?_insert_eq]
    split
    · next hk => rw [← hk, h]
    · rfl
  exact (Std.TreeMap.equiv_iff_toList_perm.mp hsame).trans (toList_insert_perm m k v)

theorem toList_filter_of_getElem?_none [DecidableEq K] {m : BTreeMap K V} {k : K}
    (h : m[k]? = none) : (m.toList.filter fun e => k ≠ e.1) = m.toList := by
  rw [List.filter_eq_self]
  rintro ⟨a, v⟩ he
  rw [Std.TreeMap.mem_toList_iff_getElem?_eq_some] at he
  simp only [ne_eq, decide_eq_true_eq]
  rintro rfl
  rw [h] at he
  cases he

theorem getElem?_ofList_eq [DecidableEq K] (l : List (K × V)) (k : K) :
    (Std.TreeMap.ofList l : BTreeMap K V)[k]? =
      (l.reverse.find? fun e => e.1 = k).map Prod.snd := by
  have inserted : ∀ (l : List (K × V)) (m : BTreeMap K V), (m.insertMany l)[k]? =
      ((l.reverse.find? fun e => e.1 = k).map Prod.snd).or m[k]? := by
    intro l
    induction l with
    | nil => intro m; simp
    | cons e l ih =>
      intro m
      rw [Std.TreeMap.insertMany_cons, ih, getElem?_insert_eq, List.reverse_cons,
        List.find?_append]
      cases l.reverse.find? fun e => e.1 = k with
      | some e' => rfl
      | none => by_cases hk : e.1 = k <;> simp [hk]
  have h := inserted l ∅
  rwa [Std.TreeMap.getElem?_emptyc, Option.or_none, ← Std.TreeMap.ofList_eq_insertMany_empty] at h

theorem getElem?_foldl_insert [DecidableEq K] {A : Type v} (key : A → K) (value : A → V)
    (l : List A) (m : BTreeMap K V) (k : K) :
    (l.foldl (fun m a => m.insert (key a) (value a)) m)[k]? =
      ((l.reverse.find? fun a => key a = k).map value).or m[k]? := by
  induction l using List.reverseRecOn with
  | nil => simp
  | append_singleton l a ih =>
    rw [List.foldl_concat, getElem?_insert_eq, ih, List.reverse_concat, List.find?_cons]
    by_cases hk : key a = k <;> simp [hk]

theorem find?_toList [DecidableEq K] (m : BTreeMap K V) (k : K) :
    (m.toList.reverse.find? fun e => e.1 = k) = m[k]?.map fun v => (k, v) := by
  cases hk : m[k]? with
  | none =>
    rw [Option.map_none, List.find?_eq_none]
    rintro ⟨a, v⟩ he
    rw [List.mem_reverse, Std.TreeMap.mem_toList_iff_getElem?_eq_some] at he
    simp only [decide_eq_true_eq]
    rintro rfl
    rw [hk] at he
    cases he
  | some v =>
    have hmem : (k, v) ∈ m.toList.reverse :=
      List.mem_reverse.2 (Std.TreeMap.mem_toList_iff_getElem?_eq_some.2 hk)
    obtain ⟨e, he⟩ := Option.isSome_iff_exists.1
      (List.find?_isSome.2 ⟨(k, v), hmem, decide_eq_true rfl⟩ :
        (m.toList.reverse.find? fun e => e.1 = k).isSome)
    obtain ⟨a, w⟩ := e
    have ha : a = k := by simpa using List.find?_some he
    have hw := List.mem_of_find?_eq_some he
    rw [List.mem_reverse, Std.TreeMap.mem_toList_iff_getElem?_eq_some, ha, hk,
      Option.some.injEq] at hw
    rw [he, ha, ← hw]
    rfl

theorem countP_values_of_getElem? [DecidableEq K] {m : BTreeMap K V} {k : K} {v : V}
    (h : m[k]? = some v) {p : V → Bool} (hp : p v = true) :
    (m.toList.map Prod.snd).countP p =
      (m.toList.filter fun e => k ≠ e.1).countP (fun e => p e.2) + 1 := by
  rw [List.countP_map, (toList_perm_of_getElem? h).countP_eq,
    List.countP_cons_of_pos (p := p ∘ Prod.snd) (a := (k, v)) hp]
  rfl

theorem countP_values_eq_one_iff [DecidableEq K] {m : BTreeMap K V} {p : V → Bool} :
    (m.toList.map Prod.snd).countP p = 1 ↔
      ∃ (k : K) (v : V), m[k]? = some v ∧ p v = true ∧
        ∀ (k' : K) (v' : V), m[k']? = some v' → p v' = true → k' = k := by
  constructor
  · intro hcount
    have hpos : 0 < (m.toList.map Prod.snd).countP p := by rw [hcount]; exact Nat.one_pos
    obtain ⟨v, hmem, hp⟩ := List.countP_pos_iff.mp hpos
    obtain ⟨⟨k, v'⟩, hkv, rfl⟩ := List.mem_map.mp hmem
    have hget := Std.TreeMap.mem_toList_iff_getElem?_eq_some.mp hkv
    refine ⟨k, v', hget, hp, fun k' w hw hpw => ?_⟩
    rw [countP_values_of_getElem? hget hp, Nat.succ_inj, List.countP_eq_zero] at hcount
    by_contra hne
    refine hcount (k', w) ?_ hpw
    rw [List.mem_filter, Std.TreeMap.mem_toList_iff_getElem?_eq_some]
    exact ⟨hw, by simpa using Ne.symm hne⟩
  · rintro ⟨k, v, hget, hp, honly⟩
    rw [countP_values_of_getElem? hget hp, Nat.succ_inj, List.countP_eq_zero]
    rintro ⟨k', w⟩ hmem hpw
    rw [List.mem_filter, Std.TreeMap.mem_toList_iff_getElem?_eq_some] at hmem
    have hne : k ≠ k' := by simpa using hmem.2
    exact hne (honly k' w hmem.1 hpw).symm

theorem sum_values_eq (m : BTreeMap K V) (f : V → Nat) :
    ((m.toList.map Prod.snd).map f).sum = (m.keys.map fun k => (m[k]?.map f).getD 0).sum := by
  rw [← Std.TreeMap.map_fst_toList_eq_keys, List.map_map, List.map_map]
  congr 1
  apply List.map_congr_left
  rintro ⟨k, v⟩ hmem
  simp [Std.TreeMap.mem_toList_iff_getElem?_eq_some.mp hmem]

theorem sum_values_alter [DecidableEq K] (m : BTreeMap K Nat) (k : K) (f : Option Nat → Nat) :
    ((m.alter k fun v => some (f v)).toList.map Prod.snd).sum + m[k]?.getD 0 =
      (m.toList.map Prod.snd).sum + f m[k]? := by
  have hinsert : (m.alter k fun v => some (f v)).toList.Perm (m.insert k (f m[k]?)).toList := by
    apply Std.TreeMap.equiv_iff_toList_perm.mp
    refine Std.TreeMap.Equiv.of_forall_constGet?_eq fun a => ?_
    rw [getElem?_alter_eq, getElem?_insert_eq]
  rw [((hinsert.trans (toList_insert_perm m k _)).map Prod.snd).sum_eq, List.map_cons,
    List.sum_cons]
  cases h : m[k]? with
  | some n =>
    rw [((toList_perm_of_getElem? h).map Prod.snd).sum_eq, List.map_cons, List.sum_cons]
    simp only [Option.getD_some]
    omega
  | none =>
    rw [toList_filter_of_getElem?_none h]
    simp only [Option.getD_none]
    omega

def pushAt (m : BTreeMap K (List V)) (k : K) (v : V) : BTreeMap K (List V) :=
  m.insert k (m.getD k [] ++ [v])

def collect (key : V → Option K) (l : List V) : BTreeMap K (List V) :=
  l.foldl (fun m v => match key v with | some k => pushAt m k v | none => m) ∅

theorem getD_collect [DecidableEq K] (key : V → Option K) (l : List V) (k : K) :
    (collect key l).getD k [] = l.filter fun v => key v = some k := by
  induction l using List.reverseRecOn with
  | nil => simp [collect]
  | append_singleton l v ih =>
    rw [collect, List.foldl_concat, List.filter_append, ← ih, collect]
    cases hv : key v with
    | none => simp [hv]
    | some k' =>
      dsimp only
      rw [pushAt, Std.TreeMap.getD_eq_getD_getElem?, getElem?_insert_eq]
      by_cases hk : k' = k
      · simp [hv, hk]
      · simp [hv, hk, Std.TreeMap.getD_eq_getD_getElem?]

def gather {A : Type v} (key : A → Option K) (value : A → V) (l : List A) : BTreeMap K (List V) :=
  l.foldl
    (fun m a =>
      match key a with
      | some k => m.alter k fun values => some (values.getD [] ++ [value a])
      | none => m)
    ∅

theorem getElem?_gather [DecidableEq K] {A : Type v} (key : A → Option K) (value : A → V)
    (l : List A) (k : K) :
    (gather key value l)[k]? =
      if l.filter (fun a => key a = some k) = [] then none
      else some ((l.filter fun a => key a = some k).map value) := by
  induction l using List.reverseRecOn with
  | nil => simp [gather]
  | append_singleton l a ih =>
    rw [gather, List.foldl_concat, ← gather, List.filter_append]
    cases ha : key a with
    | none => simpa [ha] using ih
    | some k' =>
      dsimp only
      rw [getElem?_alter_eq]
      by_cases hk : k' = k
      · subst hk
        rw [if_pos rfl, ih]
        split <;> simp_all
      · simpa [ha, hk] using ih

def accumulate {A : Type v} (key : A → Option K) (new : A → V) (observe : V → A → V)
    (l : List A) : BTreeMap K V :=
  l.foldl
    (fun m a =>
      match key a with
      | none => m
      | some k =>
        match m[k]? with
        | some v => m.insert k (observe v a)
        | none => m.insert k (new a))
    ∅

def observed {A : Type v} (new : A → V) (observe : V → A → V) : List A → Option V
  | [] => none
  | a :: l => some (l.foldl observe (new a))

theorem observed_concat {A : Type v} (new : A → V) (observe : V → A → V) (l : List A) (a : A) :
    observed new observe (l ++ [a]) =
      some (((observed new observe l).map fun v => observe v a).getD (new a)) := by
  cases l with
  | nil => rfl
  | cons b l => rw [List.cons_append, observed, observed, List.foldl_concat]; rfl

theorem getElem?_accumulate [DecidableEq K] {A : Type v} (key : A → Option K) (new : A → V)
    (observe : V → A → V) (l : List A) (k : K) :
    (accumulate key new observe l)[k]? =
      observed new observe (l.filter fun a => key a = some k) := by
  induction l using List.reverseRecOn with
  | nil => simp [accumulate, observed]
  | append_singleton l a ih =>
    rw [accumulate, List.foldl_concat, ← accumulate, List.filter_append]
    cases ha : key a with
    | none => simpa [ha] using ih
    | some k' =>
      dsimp only
      by_cases hk : k' = k
      · subst hk
        rw [List.filter_singleton, ha, decide_eq_true rfl, cond_true, observed_concat, ← ih]
        cases (accumulate key new observe l)[k']? with
        | none => rw [getElem?_insert_eq, if_pos rfl]; rfl
        | some v => rw [getElem?_insert_eq, if_pos rfl]; rfl
      · rw [List.filter_singleton, ha, decide_eq_false (by simpa using hk), cond_false,
          List.append_nil, ← ih]
        cases (accumulate key new observe l)[k']? with
        | none => rw [getElem?_insert_eq, if_neg hk]
        | some v => rw [getElem?_insert_eq, if_neg hk]

structure Counts {A : Type v} [DecidableEq K] (name : A → K) (l : List A) (m : BTreeMap K Nat) :
    Prop where
  count : ∀ k, m.getD k 0 = l.countP fun a => name a = k
  named : ∀ k, k ∈ m ↔ ∃ a ∈ l, name a = k
  sum : (m.toList.map Prod.snd).sum = l.length

namespace Counts

variable [DecidableEq K] {A : Type v} {name : A → K} {l : List A} {m : BTreeMap K Nat}

theorem single (name : A → K) (a : A) :
    Counts name [a] ((∅ : BTreeMap K Nat).insert (name a) 1) where
  count k := by
    rw [getD_insert_eq, List.countP_singleton, Std.TreeMap.getD_emptyc]
    simp only [decide_eq_true_eq]
  named k := by
    rw [Std.TreeMap.mem_insert]
    simp
  sum := by
    rw [((toList_insert_perm _ _ _).map Prod.snd).sum_eq]
    rfl

theorem alter (h : Counts name l m) (a : A) {f : Option Nat → Nat}
    (hf : f m[name a]? = m[name a]?.getD 0 + 1) :
    Counts name (l ++ [a]) (m.alter (name a) fun count => some (f count)) where
  count k := by
    rw [Std.TreeMap.getD_eq_getD_getElem?, getElem?_alter_eq, List.countP_append, ← h.count,
      Std.TreeMap.getD_eq_getD_getElem?, List.countP_singleton]
    by_cases hk : name a = k
    · subst hk
      simp [hf]
    · simp [hk]
  named k := by
    rw [Std.TreeMap.mem_iff_isSome_getElem?, getElem?_alter_eq]
    by_cases hk : name a = k
    · simp [hk]
    · rw [if_neg hk, ← Std.TreeMap.mem_iff_isSome_getElem?, h.named]
      simp [hk]
  sum := by
    have hsum := sum_values_alter m (name a) f
    rw [h.sum, hf] at hsum
    rw [List.length_append, List.length_singleton]
    omega

omit [Std.TransOrd K] [Std.LawfulEqOrd K] in
theorem of_perm {l' : List A} (h : Counts name l m) (hl : l.Perm l') : Counts name l' m where
  count k := by rw [h.count, hl.countP_eq]
  named k := by
    rw [h.named]
    exact exists_congr fun a => and_congr_left fun _ => hl.mem_iff
  sum := by rw [h.sum, hl.length_eq]

end Counts
theorem ofList_equiv_of_perm {l l' : List (K × V)} (hl : (l.map Prod.fst).Nodup) (h : l.Perm l') :
    (Std.TreeMap.ofList l : BTreeMap K V).Equiv (Std.TreeMap.ofList l') := by
  have hl' : (l'.map Prod.fst).Nodup := (h.map Prod.fst).nodup_iff.mp hl
  apply Std.TreeMap.Equiv.of_forall_constGet?_eq
  intro k
  apply Option.ext
  intro v
  rw [getElem?_ofList_eq_some_iff hl, getElem?_ofList_eq_some_iff hl', h.mem_iff]

/-- The tree that the entries make in their order.  Maps with the same entries have the same one. -/
def canonical (m : BTreeMap K V) : BTreeMap K V := Std.TreeMap.ofList m.toList

theorem canonical_equiv (m : BTreeMap K V) : m.canonical.Equiv m := by
  have hnodup : (m.toList.map Prod.fst).Nodup := by
    rw [Std.TreeMap.map_fst_toList_eq_keys]
    exact Std.TreeMap.nodup_keys
  apply Std.TreeMap.Equiv.of_forall_constGet?_eq
  intro k
  apply Option.ext
  intro v
  rw [canonical, getElem?_ofList_eq_some_iff hnodup]
  exact Std.TreeMap.mem_toList_iff_getElem?_eq_some

omit [Std.LawfulEqOrd K] in
theorem canonical_eq_of_equiv {m m' : BTreeMap K V} (h : m.Equiv m') :
    m.canonical = m'.canonical := by
  rw [canonical, canonical, h.toList_eq]

theorem gather_perm [DecidableEq K] {A : Type v} (key : A → Option K) (value : A → V)
    {l l' : List A} (h : l.Perm l') (k : K) :
    Option.Rel List.Perm (gather key value l)[k]? (gather key value l')[k]? := by
  have hfilter := h.filter fun a => key a = some k
  rw [getElem?_gather, getElem?_gather]
  split
  · next hnil =>
    rw [hnil, List.nil_perm] at hfilter
    rw [if_pos hfilter]
    exact .none
  · next hne =>
    rw [if_neg fun hnil => hne (by rwa [hnil, List.perm_nil] at hfilter)]
    exact .some (hfilter.map value)

theorem forall₂_toList {W : Type v} {R : V → W → Prop} {m : BTreeMap K V} {m' : BTreeMap K W}
    (h : ∀ k : K, Option.Rel R m[k]? m'[k]?) :
    List.Forall₂ (fun e e' => e.1 = e'.1 ∧ R e.2 e'.2) m.toList m'.toList := by
  have hmem : ∀ k, k ∈ m ↔ k ∈ m' := by
    intro k
    have hk := h k
    rw [Std.TreeMap.mem_iff_isSome_getElem?, Std.TreeMap.mem_iff_isSome_getElem?]
    generalize m[k]? = v at hk ⊢
    generalize m'[k]? = w at hk ⊢
    cases hk <;> simp
  have hkeys : m.keys = m'.keys := by
    apply keys_eq_of_mem_iff Std.TreeMap.ordered_keys
    intro k
    rw [Std.TreeMap.mem_keys]
    exact hmem k
  rw [← Std.TreeMap.map_fst_toList_eq_keys, ← Std.TreeMap.map_fst_toList_eq_keys] at hkeys
  have hpairs : List.Forall₂ (· = ·) (m.toList.map Prod.fst) (m'.toList.map Prod.fst) := by
    rw [hkeys, List.forall₂_eq_eq_eq]
  rw [List.forall₂_map_left_iff, List.forall₂_map_right_iff, List.forall₂_iff_zip] at hpairs
  rw [List.forall₂_iff_zip]
  refine ⟨hpairs.1, ?_⟩
  rintro ⟨a, v⟩ ⟨b, w⟩ hzip
  have hv := Std.TreeMap.mem_toList_iff_getElem?_eq_some.mp (List.of_mem_zip hzip).1
  have hw := Std.TreeMap.mem_toList_iff_getElem?_eq_some.mp (List.of_mem_zip hzip).2
  have hab : a = b := hpairs.2 hzip
  subst hab
  have hrel := h a
  rw [hv, hw] at hrel
  cases hrel with
  | some hvw => exact ⟨rfl, hvw⟩

end BTreeMap

namespace BTreeSet

theorem contains_foldl_insert {K : Type u} [Ord K] [Std.TransOrd K] [Std.LawfulEqOrd K]
    [DecidableEq K] (p : K → Prop) [DecidablePred p] (keys : List K) (s : BTreeSet K) (a : K) :
    (keys.foldl (fun s k => if p k then s.insert k else s) s).contains a =
      (s.contains a || keys.any fun k => p k ∧ k = a) := by
  induction keys generalizing s with
  | nil => simp
  | cons k keys ih =>
    rw [List.foldl_cons, ih, List.any_cons, ← Bool.or_assoc]
    congr 1
    by_cases hp : p k
    · have heq : (compare k a == .eq) = decide (k = a) := by
        rw [Bool.eq_iff_iff, beq_iff_eq, Std.LawfulEqCmp.compare_eq_iff_eq, decide_eq_true_iff]
      rw [if_pos hp, Std.TreeSet.contains_insert, heq, Bool.or_comm]
      simp [hp]
    · simp [hp]

end BTreeSet

end ControlPlane
