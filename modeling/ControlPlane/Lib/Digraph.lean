import Mathlib.Logic.Relation
import Mathlib.Data.List.Infix

/-! Directed graphs whose vertices list their successors in a fixed order, and the paths a
depth-first search takes through them.  Paths are written with their last vertex at the head,
as the search keeps its stack. -/

namespace ControlPlane

structure OrderedGraph (V : Type) where
  roots : List V
  next : V → List V

namespace OrderedGraph

open Relation

variable {V : Type} (G : OrderedGraph V)

def Edge (x y : V) : Prop := y ∈ G.next x

def OnCycle (x : V) : Prop := TransGen G.Edge x x

/-- There is a walk from `x` to `y` none of whose vertices is in `avoid`. -/
def Reaches (avoid : List V) (x y : V) : Prop :=
  x ∉ avoid ∧ ReflTransGen (fun a b => G.Edge a b ∧ b ∉ avoid) x y

def choices : List V → List V
  | [] => G.roots
  | x :: _ => G.next x

/-- A path that always takes the first choice from which `u` can still be reached without
returning to the path. -/
inductive Leads (u : V) : List V → Prop
  | nil : Leads u []
  | cons {x : V} {behind skipped rest : List V} :
    G.choices behind = skipped ++ x :: rest → (∀ c ∈ skipped, ¬G.Reaches behind c u) →
    G.Reaches behind x u → Leads u behind → Leads u (x :: behind)

def upTo [DecidableEq V] (w : V) : List V → List V
  | [] => []
  | x :: path => if x = w then [x] else x :: upTo w path

/-- A vertex is covered if the first path to some `u` passes through it at or after a
vertex that `u` has an edge to. -/
def Covered [DecidableEq V] (t : V) : Prop :=
  ∃ u path w, G.Leads u (u :: path) ∧ w ∈ G.next u ∧ w ∈ u :: path ∧ t ∈ upTo w (u :: path)

variable {G}

section Reaches

variable {avoid : List V} {x y z : V}

theorem Reaches.refl (h : x ∉ avoid) : G.Reaches avoid x x := ⟨h, .refl⟩

theorem Reaches.tail (h : G.Reaches avoid x y) (he : G.Edge y z) (hz : z ∉ avoid) :
    G.Reaches avoid x z := ⟨h.1, h.2.tail ⟨he, hz⟩⟩

theorem Reaches.head (hx : x ∉ avoid) (he : G.Edge x y) (h : G.Reaches avoid y z) :
    G.Reaches avoid x z := ⟨hx, .head ⟨he, h.1⟩ h.2⟩

theorem Reaches.mono {avoid' : List V} (hsub : avoid' ⊆ avoid) (h : G.Reaches avoid x y) :
    G.Reaches avoid' x y :=
  ⟨fun hx => h.1 (hsub hx), ReflTransGen.mono (fun _ _ he => ⟨he.1, fun hb => he.2 (hsub hb)⟩) _ _ h.2⟩

theorem Reaches.closed {P : V → Prop} (hclosed : ∀ a, P a → ∀ b ∈ G.next a, P b ∨ b ∈ avoid)
    (hx : P x) (h : G.Reaches avoid x y) : P y := by
  obtain ⟨-, hwalk⟩ := h
  induction hwalk with
  | refl => exact hx
  | tail _ he ih => exact (hclosed _ ih _ he.1).resolve_right he.2

end Reaches

section Leads

variable {u x : V} {path behind : List V}

theorem Leads.notMem (h : G.Leads u (x :: behind)) : x ∉ behind := by
  cases h with
  | cons _ _ hr _ => exact hr.1

theorem Leads.tail (h : G.Leads u (x :: behind)) : G.Leads u behind := by
  cases h with
  | cons _ _ _ ht => exact ht

theorem Leads.of_suffix {path' : List V} (h : G.Leads u path) (hs : path' <:+ path) :
    G.Leads u path' := by
  induction path with
  | nil =>
    rw [List.suffix_nil.mp hs]
    exact .nil
  | cons x path ih =>
    rcases List.suffix_cons_iff.mp hs with rfl | hs
    · exact h
    · exact ih h.tail hs

theorem Leads.nodup (h : G.Leads u path) : path.Nodup := by
  induction path with
  | nil => exact List.nodup_nil
  | cons x path ih => exact List.nodup_cons.mpr ⟨h.notMem, ih h.tail⟩

theorem Leads.cons_inj {y : V} (hx : G.Leads u (x :: behind)) (hy : G.Leads u (y :: behind)) :
    x = y := by
  cases hx with
  | @cons _ _ skipped rest hc hs hr _ =>
    cases hy with
    | @cons _ _ skipped' rest' hc' hs' hr' _ =>
      rw [hc, List.append_eq_append_iff] at hc'
      rcases hc' with ⟨as, rfl, htail⟩ | ⟨bs, rfl, htail⟩
      · cases as with
        | nil => exact (List.cons.inj htail).1
        | cons a as =>
          obtain ⟨rfl, -⟩ := List.cons.inj htail
          exact absurd hr (hs' _ (by simp))
      · cases bs with
        | nil => exact (List.cons.inj htail).1.symm
        | cons b bs =>
          obtain ⟨rfl, -⟩ := List.cons.inj htail
          exact absurd hr' (hs _ (by simp))

theorem Leads.suffix_total {path' : List V} (h : G.Leads u path) (h' : G.Leads u path') :
    path <:+ path' ∨ path' <:+ path := by
  induction path with
  | nil => exact .inl (List.nil_suffix)
  | cons x behind ih =>
    rcases ih h.tail with ⟨ahead, rfl⟩ | hs
    · induction ahead using List.reverseRecOn with
      | nil => exact .inr (List.suffix_cons x _)
      | append_singleton ahead y =>
        have hy : G.Leads u (y :: behind) := h'.of_suffix ⟨ahead, by simp⟩
        obtain rfl := h.cons_inj hy
        exact .inl ⟨ahead, by simp⟩
    · exact .inr (hs.trans (List.suffix_cons x behind))

theorem Leads.unique {path' : List V} (h : G.Leads u (u :: path)) (h' : G.Leads u (u :: path')) :
    path = path' := by
  have no_proper : ∀ {p p' : List V}, G.Leads u (u :: p') → u :: p <:+ u :: p' → p = p' := by
    intro p p' hp' hs
    rcases List.suffix_cons_iff.mp hs with heq | hs
    · exact (List.cons.inj heq).2
    · exact absurd (hs.subset List.mem_cons_self) hp'.notMem
  rcases h.suffix_total h' with hs | hs
  · exact no_proper h' hs
  · exact (no_proper h hs).symm

theorem Leads.edge {y : V} (h : G.Leads u (x :: y :: behind)) : G.Edge y x := by
  cases h with
  | cons hc _ _ _ =>
    rw [choices] at hc
    rw [Edge, hc]
    exact List.mem_append_right _ List.mem_cons_self

end Leads

variable (G) in
/-- Behind each vertex of the stack, whatever the choices passed over reach is done. -/
inductive Tracks (done : V → Prop) : List V → Prop
  | nil : Tracks done []
  | cons {x : V} {behind skipped rest : List V} :
    G.choices behind = skipped ++ x :: rest →
    (∀ c ∈ skipped, ∀ y, G.Reaches behind c y → done y) → x ∉ behind →
    Tracks done behind → Tracks done (x :: behind)

section Tracks

variable {done : V → Prop} {u x : V} {path behind : List V}

theorem Tracks.mono {done' : V → Prop} (h : G.Tracks done path) (hd : ∀ x, done x → done' x) :
    G.Tracks done' path := by
  induction h with
  | nil => exact .nil
  | cons hc hs hx _ ih => exact .cons hc (fun c hm y hr => hd y (hs c hm y hr)) hx ih

theorem Tracks.nodup (h : G.Tracks done path) : path.Nodup := by
  induction h with
  | nil => exact List.nodup_nil
  | cons _ _ hx _ ih => exact List.nodup_cons.mpr ⟨hx, ih⟩

/-- A stack leads to every vertex that is not done and that its top still reaches. -/
theorem Tracks.leads (h : G.Tracks done (x :: behind)) (hu : ¬done u)
    (hr : G.Reaches behind x u) : G.Leads u (x :: behind) := by
  induction behind generalizing x with
  | nil =>
    cases h with
    | cons hc hs _ _ => exact .cons hc (fun c hm hcu => hu (hs c hm u hcu)) hr .nil
  | cons y behind ih =>
    cases h with
    | cons hc hs hx ht =>
      have hedge : G.Edge y x := by
        rw [choices] at hc
        rw [Edge, hc]
        exact List.mem_append_right _ List.mem_cons_self
      have hy : y ∉ behind := (List.nodup_cons.mp ht.nodup).1
      have hback := Reaches.head hy hedge (hr.mono (List.subset_cons_self y behind))
      exact .cons hc (fun c hm hcu => hu (hs c hm u hcu)) hr (ih ht hback)

end Tracks

section Covered

variable [DecidableEq V] {u w t x : V} {path : List V}

theorem mem_upTo_self : x ∈ upTo w (x :: path) := by
  unfold upTo
  split <;> exact List.mem_cons_self

theorem Leads.walk_upTo (h : G.Leads u (x :: path)) (hw : w ∈ x :: path)
    (ht : t ∈ upTo w (x :: path)) : ReflTransGen G.Edge w t ∧ ReflTransGen G.Edge t x := by
  induction path generalizing x t with
  | nil =>
    obtain rfl := List.mem_singleton.mp hw
    rw [upTo, if_pos rfl, List.mem_singleton] at ht
    exact ht ▸ ⟨.refl, .refl⟩
  | cons y path ih =>
    rw [upTo] at ht
    split at ht
    · next hx =>
      obtain rfl := List.mem_singleton.mp ht
      exact hx ▸ ⟨.refl, .refl⟩
    · next hx =>
      have hw' : w ∈ y :: path := (List.mem_cons.mp hw).resolve_left (Ne.symm hx)
      rcases List.mem_cons.mp ht with rfl | ht
      · exact ⟨(ih h.tail hw' mem_upTo_self).1.tail h.edge, .refl⟩
      · obtain ⟨h1, h2⟩ := ih h.tail hw' ht
        exact ⟨h1, h2.tail h.edge⟩

theorem Covered.onCycle (h : G.Covered t) : G.OnCycle t := by
  obtain ⟨u, path, w, hlead, hedge, hw, ht⟩ := h
  obtain ⟨hwt, htu⟩ := hlead.walk_upTo hw ht
  exact TransGen.trans_left (TransGen.tail' htu hedge) hwt

end Covered

end OrderedGraph

end ControlPlane
