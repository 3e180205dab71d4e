import Mathlib.Data.List.Chain
import Mathlib.Data.List.DropRight

/-! Slugs: the words of a text joined by single separators, and cut to a length. -/

namespace ControlPlane.Slug

variable {α : Type*}

def words (isWord : α → Bool) (t : List α) : List (List α) :=
  (t.splitOnP fun c => !isWord c).filter (· ≠ [])

def join (sep : α) (ws : List (List α)) : List α := [sep].intercalate ws

def collapse (isWord : α → Bool) (sep : α) : (inRun : Bool) → List α → List α
  | _, [] => []
  | inRun, c :: rest =>
    if isWord c then c :: collapse isWord sep false rest
    else if inRun then collapse isWord sep true rest
    else sep :: collapse isWord sep true rest

section Trim

variable [DecidableEq α]

def trim (sep : α) (t : List α) : List α := (t.dropWhile (· == sep)).rdropWhile (· == sep)

def cut (sep : α) (n : Nat) (t : List α) : List α := (t.take n).rdropWhile (· == sep)

/-- Two texts agree up to a length, where a separator at the end of either does not count. -/
def Clash (sep : α) (n : Nat) (s t : List α) : Prop :=
  s.take n = t.take n ∨ t.take n = s ++ [sep] ∨ s.take n = t ++ [sep]

instance (sep : α) (n : Nat) (s t : List α) : Decidable (Clash sep n s t) :=
  inferInstanceAs (Decidable (_ ∨ _))

end Trim

theorem Clash.symm {sep : α} {n : Nat} {s t : List α} (h : Clash sep n s t) : Clash sep n t s := by
  rcases h with h | h | h
  · exact .inl h.symm
  · exact .inr (.inr h)
  · exact .inr (.inl h)

section Join

variable (sep : α)

@[simp] theorem join_nil : join sep [] = [] := rfl

def tail (ws : List (List α)) : List α := if ws = [] then [] else sep :: join sep ws

theorem join_cons (w : List α) (ws : List (List α)) : join sep (w :: ws) = w ++ tail sep ws := by
  cases ws with
  | nil => simp [join, tail]
  | cons v ws => simp [join, tail, List.intercalate]

theorem join_append {ws : List (List α)} (h : ws ≠ []) (vs : List (List α)) :
    join sep (ws ++ vs) = join sep ws ++ tail sep vs := by
  induction ws with
  | nil => exact absurd rfl h
  | cons w ws ih =>
    rw [List.cons_append, join_cons, join_cons, List.append_assoc]
    congr 1
    cases ws with
    | nil => rfl
    | cons v ws =>
      have hne : v :: ws ≠ [] := List.cons_ne_nil v ws
      have htail (us : List (List α)) (hus : us ≠ []) : tail sep us = sep :: join sep us := if_neg hus
      rw [htail _ (List.append_ne_nil_of_left_ne_nil hne vs), ih hne, htail _ hne, List.cons_append]

theorem join_eq_nil_iff {ws : List (List α)} (h : ∀ w ∈ ws, w ≠ []) : join sep ws = [] ↔ ws = [] := by
  cases ws with
  | nil => simp
  | cons w ws =>
    rw [join_cons]
    simp [h w List.mem_cons_self]

theorem join_injective [DecidableEq α] {ws vs : List (List α)} (hws : ∀ w ∈ ws, sep ∉ w) (hvs : ∀ v ∈ vs, sep ∉ v)
    (hws' : ws ≠ []) (hvs' : vs ≠ []) (h : join sep ws = join sep vs) : ws = vs := by
  have hsplit := congrArg (List.splitOn sep) h
  rwa [join, join, List.splitOn_intercalate sep hws hws',
    List.splitOn_intercalate sep hvs hvs'] at hsplit

end Join

section Words

variable {isWord : α → Bool}

theorem words_cons_word {c : α} (hc : isWord c = true) {t h : List α} {ws : List (List α)}
    (hsplit : t.splitOnP (fun c => !isWord c) = h :: ws) :
    words isWord (c :: t) = (c :: h) :: ws.filter (· ≠ []) := by
  rw [words, List.splitOnP_cons_eq_if_modifyHead, hsplit]
  simp [hc]

theorem words_cons_other {c : α} (hc : isWord c = false) (t : List α) :
    words isWord (c :: t) = words isWord t := by
  rw [words, List.splitOnP_cons_eq_if_modifyHead]
  simp [hc, words]

theorem words_append_cons {c : α} (hc : isWord c = false) (s t : List α) :
    words isWord (s ++ c :: t) = words isWord s ++ words isWord t := by
  rw [words, List.splitOnP_append_cons s t (by simp [hc]), List.filter_append]
  rfl

theorem words_of_forall {w : List α} (hne : w ≠ []) (h : ∀ c ∈ w, isWord c = true) :
    words isWord w = [w] := by
  rw [words, List.splitOnP_eq_singleton fun c hc => by simp [h c hc]]
  simp [hne]

theorem isWord_of_mem_words {t : List α} :
    ∀ w ∈ words isWord t, ∀ c ∈ w, isWord c = true := by
  have hall : ∀ w ∈ t.splitOnP fun c => !isWord c, ∀ c ∈ w, isWord c = true := by
    induction t with
    | nil => simp
    | cons c t ih =>
      obtain ⟨h, ws, hsplit⟩ :=
        List.exists_cons_of_ne_nil (List.splitOnP_ne_nil (fun c => !isWord c) t)
      rw [hsplit, List.forall_mem_cons] at ih
      rw [List.splitOnP_cons_eq_if_modifyHead, hsplit]
      cases hc : isWord c with
      | false => simpa using ih
      | true => simpa [hc] using ih
  exact fun w hw => hall w (List.mem_of_mem_filter hw)

theorem ne_nil_of_mem_words {t w : List α} (h : w ∈ words isWord t) : w ≠ [] := by
  simpa using (List.mem_filter.mp h).2

end Words

theorem rdropWhile_cons (p : α → Bool) (a : α) (l : List α) : (a :: l).rdropWhile p =
    if l.rdropWhile p = [] then (if p a then [] else [a]) else a :: l.rdropWhile p := by
  induction l using List.reverseRecOn with
  | nil => simp [List.rdropWhile_singleton]
  | append_singleton l b ih =>
    rw [← List.cons_append, List.rdropWhile_concat, List.rdropWhile_concat]
    by_cases hb : p b = true
    · rw [if_pos hb, if_pos hb, ih]
    · rw [if_neg hb, if_neg hb, if_neg (by simp), List.cons_append]

section Collapse

variable [DecidableEq α] {isWord : α → Bool} {sep : α} (hsep : isWord sep = false)

include hsep

theorem dropWhile_collapse (t : List α) :
    (collapse isWord sep false t).dropWhile (· == sep) = collapse isWord sep true t := by
  have hstart (t : List α) : (collapse isWord sep true t).dropWhile (· == sep) =
      collapse isWord sep true t := by
    induction t with
    | nil => rfl
    | cons c t ih =>
      cases hc : isWord c with
      | false => simpa [collapse, hc] using ih
      | true =>
        have hne : (c == sep) = false := by
          rw [beq_eq_false_iff_ne]
          rintro rfl
          simp [hc] at hsep
        simp [collapse, hc, hne]
  cases t with
  | nil => rfl
  | cons c t =>
    cases hc : isWord c with
    | false => simpa [collapse, hc] using hstart t
    | true =>
      have := hstart (c :: t)
      simpa [collapse, hc] using this

theorem rdropWhile_collapse (t : List α) :
    (collapse isWord sep true t).rdropWhile (· == sep) = join sep (words isWord t) ∧
      ∀ h ws, t.splitOnP (fun c => !isWord c) = h :: ws →
        (collapse isWord sep false t).rdropWhile (· == sep) =
          h ++ tail sep (ws.filter (· ≠ [])) := by
  induction t with
  | nil =>
    refine ⟨rfl, fun h ws hsplit => ?_⟩
    obtain ⟨rfl, rfl⟩ := List.cons.inj hsplit
    rfl
  | cons c t ih =>
    obtain ⟨ihjoin, ihword⟩ := ih
    cases hc : isWord c with
    | false =>
      refine ⟨?_, fun h ws hsplit => ?_⟩
      · rw [words_cons_other hc, ← ihjoin]
        simp [collapse, hc]
      · rw [List.splitOnP_cons_eq_if_modifyHead] at hsplit
        simp only [hc, Bool.not_false, if_true] at hsplit
        obtain ⟨rfl, rfl⟩ := List.cons.inj hsplit
        have hcollapse : collapse isWord sep false (c :: t) = sep :: collapse isWord sep true t := by
          simp [collapse, hc]
        have hnil := join_eq_nil_iff sep fun w (hw : w ∈ words isWord t) =>
          ne_nil_of_mem_words hw
        rw [hcollapse, rdropWhile_cons, ihjoin]
        simp only [hnil, beq_self_eq_true, if_true, List.nil_append]
        rfl
    | true =>
      have hne : (c == sep) = false := by
        rw [beq_eq_false_iff_ne]
        rintro rfl
        simp [hc] at hsep
      have hkeep (l : List α) : (c :: l).rdropWhile (· == sep) = c :: l.rdropWhile (· == sep) := by
        rw [rdropWhile_cons, hne, if_neg Bool.false_ne_true]
        split_ifs with hnil
        · rw [hnil]
        · rfl
      have hcollapse (b : Bool) : collapse isWord sep b (c :: t) = c :: collapse isWord sep false t := by
        simp [collapse, hc]
      obtain ⟨h, ws, hsplit⟩ := List.exists_cons_of_ne_nil (List.splitOnP_ne_nil (fun c => !isWord c) t)
      constructor
      · rw [hcollapse, hkeep, ihword h ws hsplit, words_cons_word hc hsplit, join_cons]
        rfl
      · intro h' ws' hsplit'
        rw [List.splitOnP_cons_eq_if_modifyHead, hsplit] at hsplit'
        simp only [hc, Bool.not_true, Bool.false_eq_true, if_false, List.modifyHead_cons] at hsplit'
        obtain ⟨rfl, rfl⟩ := List.cons.inj hsplit'
        rw [hcollapse, hkeep, ihword h ws hsplit]
        rfl

theorem trim_collapse (t : List α) :
    trim sep (collapse isWord sep false t) = join sep (words isWord t) := by
  rw [trim, dropWhile_collapse hsep, (rdropWhile_collapse hsep t).1]

end Collapse

section Cut

variable {sep : α}

structure Clean (sep : α) (t : List α) : Prop where
  chain : t.IsChain fun a b => ¬(a = sep ∧ b = sep)
  last : ∀ c ∈ t.getLast?, c ≠ sep

theorem clean_of_not_mem {w : List α} (h : sep ∉ w) : Clean sep w := by
  constructor
  · induction w with
    | nil => exact .nil
    | cons c w ih =>
      rw [List.mem_cons, not_or] at h
      rw [List.isChain_cons]
      exact ⟨fun _ _ heq => h.1 heq.1.symm, ih h.2⟩
  · rintro c hc rfl
    exact h (List.mem_of_getLast? hc)

theorem clean_join {ws : List (List α)} (h : ∀ w ∈ ws, w ≠ [] ∧ sep ∉ w) :
    Clean sep (join sep ws) := by
  induction ws with
  | nil => exact clean_of_not_mem List.not_mem_nil
  | cons w ws ih =>
    obtain ⟨hw, hws⟩ := List.forall_mem_cons.mp h
    have hword := clean_of_not_mem hw.2
    have hrest := ih hws
    rw [join_cons, tail]
    split_ifs with hnil
    · rwa [List.append_nil]
    · have hne : join sep ws ≠ [] := by
        rwa [Ne, join_eq_nil_iff sep fun v hv => (hws v hv).1]
      constructor
      · rw [List.isChain_append, List.isChain_cons]
        refine ⟨hword.chain, ⟨fun c hc heq => ?_, hrest.chain⟩, fun c hc d _ heq => ?_⟩
        · obtain ⟨v, vs, rfl⟩ := List.exists_cons_of_ne_nil hnil
          obtain ⟨hv, -⟩ := List.forall_mem_cons.mp hws
          obtain ⟨d, v, rfl⟩ := List.exists_cons_of_ne_nil hv.1
          rw [join_cons] at hc
          obtain rfl : d = c := Option.some.inj hc
          exact hv.2 (heq.2 ▸ List.mem_cons_self)
        · exact hword.last c hc heq.1
      · intro c hc
        rw [List.getLast?_append, List.getLast?_cons, List.getLast?_eq_some_getLast hne] at hc
        apply hrest.last c
        rw [List.getLast?_eq_some_getLast hne]
        simpa using hc

variable [DecidableEq α]

theorem rdropWhile_of_last {t : List α} (h : ∀ c ∈ t.getLast?, c ≠ sep) :
    t.rdropWhile (· == sep) = t := by
  rw [List.rdropWhile_eq_self_iff]
  intro hne
  simpa using h _ (List.getLast?_eq_some_getLast hne)

theorem take_eq_cut {t : List α} (h : Clean sep t) (n : Nat) :
    t.take n = cut sep n t ∨ t.take n = cut sep n t ++ [sep] := by
  have hchain := h.chain.take n
  rw [cut]
  rcases List.eq_nil_or_concat (t.take n) with hnil | ⟨p, c, hp⟩
  · simp [hnil]
  · rw [List.concat_eq_append] at hp
    rw [hp] at hchain ⊢
    by_cases hc : c = sep
    · right
      subst hc
      have hlast : ∀ d ∈ p.getLast?, d ≠ c := by
        rintro d hd rfl
        exact (List.isChain_append.mp hchain).2.2 d hd d rfl ⟨rfl, rfl⟩
      rw [List.rdropWhile_concat_pos _ _ _ (by simp), rdropWhile_of_last hlast]
    · left
      rw [List.rdropWhile_concat_neg _ _ _ (by simpa using hc)]

theorem cut_of_take {s t : List α} {n : Nat} (hs : Clean sep s) (h : t.take n = s ++ [sep]) :
    cut sep n s = s ∧ cut sep n t = s := by
  have hlength := congrArg List.length h
  rw [List.length_take, List.length_append, List.length_singleton] at hlength
  have hle : s.length ≤ n := by omega
  rw [cut, cut, h, List.take_of_length_le hle, List.rdropWhile_concat_pos _ _ _ (by simp)]
  exact ⟨rdropWhile_of_last hs.last, rdropWhile_of_last hs.last⟩

theorem eq_of_take_eq_cut {s t : List α} {n : Nat} (h : cut sep n s = cut sep n t)
    (hs : s.take n = cut sep n s) (ht : t.take n = cut sep n t ++ [sep]) :
    t.take n = s ++ [sep] := by
  rw [← h, ← hs] at ht
  have hlength := congrArg List.length ht
  rw [List.length_append, List.length_singleton, List.length_take, List.length_take] at hlength
  rw [ht, List.take_of_length_le (by omega)]

/-- Two texts have one slug exactly if they clash. -/
theorem cut_eq_iff {s t : List α} {n : Nat} (hs : Clean sep s) (ht : Clean sep t) :
    cut sep n s = cut sep n t ↔ Clash sep n s t := by
  constructor
  · intro h
    rcases take_eq_cut hs n with hs' | hs' <;> rcases take_eq_cut ht n with ht' | ht'
    · exact .inl (hs'.trans (h.trans ht'.symm))
    · exact .inr (.inl (eq_of_take_eq_cut h hs' ht'))
    · exact .inr (.inr (eq_of_take_eq_cut h.symm ht' hs'))
    · exact .inl (hs'.trans (h ▸ ht'.symm))
  · rintro (h | h | h)
    · rw [cut, cut, h]
    · obtain ⟨hs', ht'⟩ := cut_of_take hs h
      exact hs'.trans ht'.symm
    · obtain ⟨ht', hs'⟩ := cut_of_take ht h
      exact hs'.trans ht'.symm

omit [DecidableEq α] in
theorem clash_iff_of_length_le {s t : List α} {n : Nat} (hs : Clean sep s) (ht : Clean sep t)
    (hsn : s.length ≤ n) (htn : t.length ≤ n) : Clash sep n s t ↔ s = t := by
  rw [Clash, List.take_of_length_le hsn, List.take_of_length_le htn]
  constructor
  · rintro (h | h | h)
    · exact h
    · exact absurd rfl (ht.last sep (h ▸ List.getLast?_concat))
    · exact absurd rfl (hs.last sep (h ▸ List.getLast?_concat))
  · exact Or.inl

structure Shaped (isWord : α → Bool) (sep : α) (t : List α) : Prop where
  head : ∃ c rest, t = c :: rest ∧ isWord c = true
  chars : ∀ c ∈ t, isWord c = true ∨ c = sep

variable {isWord : α → Bool}

omit [DecidableEq α] in
theorem shaped_join {ws : List (List α)} (hne : ws ≠ [])
    (h : ∀ w ∈ ws, w ≠ [] ∧ ∀ c ∈ w, isWord c = true) : Shaped isWord sep (join sep ws) := by
  have hchars : ∀ c ∈ join sep ws, isWord c = true ∨ c = sep := by
    clear hne
    induction ws with
    | nil => exact List.forall_mem_nil _
    | cons w ws ih =>
      obtain ⟨hw, hws⟩ := List.forall_mem_cons.mp h
      intro c hc
      rw [join_cons, tail, List.mem_append] at hc
      rcases hc with hc | hc
      · exact .inl (hw.2 c hc)
      · split_ifs at hc with hnil
        · cases hc
        · rcases List.mem_cons.mp hc with rfl | hc
          · exact .inr rfl
          · exact ih hws c hc
  refine ⟨?_, hchars⟩
  obtain ⟨w, ws, rfl⟩ := List.exists_cons_of_ne_nil hne
  obtain ⟨hw, -⟩ := List.forall_mem_cons.mp h
  obtain ⟨c, w, rfl⟩ := List.exists_cons_of_ne_nil hw.1
  rw [join_cons]
  exact ⟨c, _, rfl, hw.2 c List.mem_cons_self⟩

theorem Shaped.cut {t : List α} (h : Shaped isWord sep t) (hsep : isWord sep = false) {n : Nat}
    (hn : n ≠ 0) : Shaped isWord sep (cut sep n t) := by
  obtain ⟨⟨c, rest, rfl, hc⟩, hchars⟩ := h
  have hcut : Slug.cut sep n (c :: rest) <+: c :: rest :=
    (List.rdropWhile_prefix _ _).trans (List.take_prefix n _)
  refine ⟨?_, fun d hd => hchars d (hcut.subset hd)⟩
  have hne : (c == sep) = false := by
    rw [beq_eq_false_iff_ne]
    rintro rfl
    simp [hc] at hsep
  obtain ⟨n, rfl⟩ := Nat.exists_eq_succ_of_ne_zero hn
  rw [Slug.cut, List.take_succ_cons, rdropWhile_cons, hne, if_neg Bool.false_ne_true]
  split_ifs
  · exact ⟨c, [], rfl, hc⟩
  · exact ⟨c, _, rfl, hc⟩

theorem length_cut_le (n : Nat) (t : List α) : (cut sep n t).length ≤ n :=
  (List.rdropWhile_prefix _ _).length_le.trans (List.length_take_le n t)

end Cut

end ControlPlane.Slug
