import ControlPlane.Api.Grammar

/-! The three parsers against the parameters that the documentation lists. -/

namespace ControlPlane.Api

open Coordination (PlanningPolicy)

def nothing (_ _ : List Char) : Prop := False

def cursors [UuidText] [Chrono] (name value : List Char) : Prop :=
  name = "cursor".toList ∧ ∃ cursor, TimelineCursor.parse value = .ok cursor

def planningParameters : List (Parameter PlanningPolicy) :=
  [⟨"max_assignments", 256, 16, PlanningPolicy.maxAssignments⟩,
    ⟨"max_assignments_per_agent", 32, 2, PlanningPolicy.maxAssignmentsPerAgent⟩,
    ⟨"max_interventions", 512, 32, PlanningPolicy.maxInterventions⟩,
    ⟨"max_holds", 1024, 64, PlanningPolicy.maxHolds⟩]

def explorerParameters : List (Parameter ExplorerPolicy) :=
  [⟨"timeline_limit", 250, 100, ExplorerPolicy.timelineLimit⟩,
    ⟨"session_limit", 250, 100, ExplorerPolicy.sessionLimit⟩,
    ⟨"lesson_limit", 1000, 250, ExplorerPolicy.lessonLimit⟩]

def timelineParameters : List (Parameter TimelinePolicy) :=
  [⟨"limit", 100, 50, TimelinePolicy.limit⟩]

def planningPolicy (raw : Option (List Char)) : Except ApiError PlanningPolicy :=
  (PlanningQuery.parse raw).map PlanningQuery.policy

def explorerPolicy (raw : Option (List Char)) : Except ApiError ExplorerPolicy :=
  (ExplorerQuery.parse raw).map ExplorerQuery.policy

def timelinePolicy [UuidText] [Chrono] (raw : Option (List Char)) :
    Except ApiError TimelinePolicy :=
  (TimelineQuery.parse raw).map TimelineQuery.policy

theorem PlanningQuery.independent : Independent PlanningQuery.fields where
  nodup := by decide
  fits := by decide
  get_set := by simp [fields]
  get_set_other := by simp [fields]

theorem ExplorerQuery.independent : Independent ExplorerQuery.fields where
  nodup := by decide
  fits := by decide
  get_set := by simp [fields]
  get_set_other := by simp [fields]

structure Documents {P Q : Type} (default : Q) (policy : Q → P) (p : Parameter P)
    (field : Field Q) : Prop where
  name : p.name = field.name
  maximum : p.maximum = field.maximum
  unset : field.get default = none
  value : ∀ query, p.value (policy query) = (field.get query).getD p.default

theorem PlanningQuery.documents :
    List.Forall₂ (Documents {} policy) planningParameters fields :=
  .cons ⟨rfl, rfl, rfl, fun _ => rfl⟩ (.cons ⟨rfl, rfl, rfl, fun _ => rfl⟩
    (.cons ⟨rfl, rfl, rfl, fun _ => rfl⟩ (.cons ⟨rfl, rfl, rfl, fun _ => rfl⟩ .nil)))

theorem ExplorerQuery.documents :
    List.Forall₂ (Documents {} policy) explorerParameters fields :=
  .cons ⟨rfl, rfl, rfl, fun _ => rfl⟩ (.cons ⟨rfl, rfl, rfl, fun _ => rfl⟩
    (.cons ⟨rfl, rfl, rfl, fun _ => rfl⟩ .nil))

section Integers

variable {P Q : Type} {noun : String} {fields : List (Field Q)} {parameters : List (Parameter P)}
  {default : Q} {policy : Q → P}

theorem exists_field {p : Parameter P}
    (hdocuments : List.Forall₂ (Documents default policy) parameters fields) (hp : p ∈ parameters) :
    ∃ field ∈ fields, Documents default policy p field := by
  induction hdocuments with
  | nil => cases hp
  | cons hfield hrest ih =>
    rcases List.mem_cons.1 hp with rfl | hp
    · exact ⟨_, List.mem_cons_self, hfield⟩
    · obtain ⟨field, hmem, hfield⟩ := ih hp
      exact ⟨field, List.mem_cons_of_mem _ hmem, hfield⟩

theorem exists_parameter {field : Field Q}
    (hdocuments : List.Forall₂ (Documents default policy) parameters fields)
    (hfield : field ∈ fields) : ∃ p ∈ parameters, Documents default policy p field := by
  induction hdocuments with
  | nil => cases hfield
  | cons hp hrest ih =>
    rcases List.mem_cons.1 hfield with rfl | hfield
    · exact ⟨_, List.mem_cons_self, hp⟩
    · obtain ⟨p, hmem, hp⟩ := ih hfield
      exact ⟨p, List.mem_cons_of_mem _ hmem, hp⟩

theorem exact_integers (h : Independent fields)
    (hdocuments : List.Forall₂ (Documents default policy) parameters fields)
    (raw : Option (List Char)) :
    Exact Signed parameters nothing
      (fun raw => (parseQuery noun (assignInteger noun fields) default raw).map policy) raw := by
  apply exact_signed
  · intro name value query
    rw [decides_assignInteger h name value query]
    constructor
    · intro hadmits
      obtain ⟨field, hfield, hname, n, hn, hpos, hle⟩ := hadmits
      obtain ⟨p, hp, hdoc⟩ := exists_parameter hdocuments hfield
      exact .inl ⟨p, hp, by rw [hname, hdoc.name], n, hn, hpos, by rwa [hdoc.maximum]⟩
    · intro hknown
      rcases hknown with ⟨p, hp, hname, n, hn, hpos, hle⟩ | hnothing
      · obtain ⟨field, hfield, hdoc⟩ := exists_field hdocuments hp
        exact ⟨field, hfield, by rw [hname, hdoc.name], n, hn, hpos, by rwa [← hdoc.maximum]⟩
      · exact hnothing.elim
  · intro p hp
    obtain ⟨field, hfield, hdoc⟩ := exists_field hdocuments hp
    refine ⟨field.get, ?_, hdoc.unset, hdoc.value⟩
    rw [hdoc.name]
    exact sets_assignInteger h hfield

end Integers

theorem exact_planning (raw : Option (List Char)) :
    Exact Signed planningParameters nothing planningPolicy raw :=
  exact_integers PlanningQuery.independent PlanningQuery.documents raw

theorem exact_explorer (raw : Option (List Char)) :
    Exact Signed explorerParameters nothing explorerPolicy raw :=
  exact_integers ExplorerQuery.independent ExplorerQuery.documents raw

section Timeline

variable [UuidText] [Chrono]

theorem TimelineQuery.assign_limit {value : List Char} {query result : TimelineQuery} :
    assign "limit".toList value query = .ok result ↔
      ∃ n, Signed value n ∧ 1 ≤ n ∧ n ≤ 100 ∧ result = { query with limit := some n } := by
  rw [assign, if_pos rfl]
  cases hvalue : Decimal.fromStr 64 value with
  | none =>
    constructor
    · intro h
      cases h
    · intro h
      obtain ⟨n, hsigned, -, hle, -⟩ := h
      have hn := Decimal.fromStr_eq_some.2 ⟨hsigned, (by omega : n < 2 ^ 64)⟩
      rw [hvalue] at hn
      cases hn
  | some m =>
    have hm := (Decimal.fromStr_eq_some.1 hvalue).1
    by_cases hbounds : m = 0 ∨ m > MAX_TIMELINE_PAGE_LIMIT
    · simp only [if_pos hbounds]
      constructor
      · intro h
        cases h
      · intro h
        obtain ⟨n, hsigned, hpos, hle, -⟩ := h
        obtain rfl := hm.unique hsigned
        simp only [MAX_TIMELINE_PAGE_LIMIT] at hbounds
        omega
    · simp only [if_neg hbounds, Except.ok.injEq]
      simp only [MAX_TIMELINE_PAGE_LIMIT] at hbounds
      constructor
      · intro h
        exact ⟨m, hm, by omega, by omega, h.symm⟩
      · intro h
        obtain ⟨n, hsigned, -, -, rfl⟩ := h
        rw [hm.unique hsigned]

theorem TimelineQuery.assign_other {name value : List Char} (hname : name ≠ "limit".toList)
    {query result : TimelineQuery} :
    assign name value query = .ok result ↔ name = "cursor".toList ∧
      ∃ cursor, TimelineCursor.parse value = .ok cursor ∧
        result = { query with cursor := some cursor } := by
  rw [assign, if_neg hname]
  by_cases hcursor : name = "cursor".toList
  · rw [if_pos hcursor]
    cases hparse : TimelineCursor.parse value with
    | error error => simp
    | ok cursor => simp [hcursor, eq_comm]
  · rw [if_neg hcursor]
    constructor
    · intro h
      cases h
    · intro h
      exact absurd h.1 hcursor

theorem decides_timeline :
    Decides TimelineQuery.assign (Known Signed timelineParameters cursors) := by
  intro name value query
  have hknown : Known Signed timelineParameters cursors name value ↔
      (name = "limit".toList ∧ ∃ n, Signed value n ∧ 1 ≤ n ∧ n ≤ 100) ∨ cursors name value := by
    simp [Known, timelineParameters]
  rw [hknown]
  by_cases hname : name = "limit".toList
  · subst hname
    have hother : ¬cursors "limit".toList value := fun h => absurd h.1 (by decide)
    simp only [TimelineQuery.assign_limit, true_and, hother, or_false]
    constructor
    · intro h
      obtain ⟨result, n, hsigned, hpos, hle, -⟩ := h
      exact ⟨n, hsigned, hpos, hle⟩
    · intro h
      obtain ⟨n, hsigned, hpos, hle⟩ := h
      exact ⟨_, n, hsigned, hpos, hle, rfl⟩
  · simp only [TimelineQuery.assign_other hname, hname, false_and, false_or, cursors]
    constructor
    · intro h
      obtain ⟨result, hcursor, cursor, hparse, -⟩ := h
      exact ⟨hcursor, cursor, hparse⟩
    · intro h
      obtain ⟨hcursor, cursor, hparse⟩ := h
      exact ⟨_, hcursor, cursor, hparse, rfl⟩

theorem sets_limit : Sets TimelineQuery.assign "limit".toList Signed TimelineQuery.limit where
  self := by
    intro value query query' hok
    obtain ⟨n, hsigned, -, -, rfl⟩ := TimelineQuery.assign_limit.1 hok
    exact ⟨n, rfl, hsigned⟩
  other := by
    intro name value query query' hok hname
    obtain ⟨-, cursor, -, rfl⟩ := (TimelineQuery.assign_other hname).1 hok
    rfl

theorem exact_timeline (raw : Option (List Char)) :
    Exact Signed timelineParameters cursors timelinePolicy raw := by
  apply exact_signed decides_timeline
  intro p hp
  obtain rfl := List.mem_singleton.1 hp
  exact ⟨TimelineQuery.limit, sets_limit, rfl, fun _ => rfl⟩

/-- The grammar has digits alone for integers, while the standard library lets a plus sign lead:
a parser keeps to the grammar on every query string but those that a sign is the only fault of. -/
theorem query_strings_exact (raw : Option (List Char)) :
    (Exact Decimal.Digits planningParameters nothing planningPolicy raw ↔
      ¬Plussed planningParameters nothing raw) ∧
    (Exact Decimal.Digits explorerParameters nothing explorerPolicy raw ↔
      ¬Plussed explorerParameters nothing raw) ∧
    (Exact Decimal.Digits timelineParameters cursors timelinePolicy raw ↔
      ¬Plussed timelineParameters cursors raw) := by
  refine ⟨exact_digits_iff (exact_planning raw) ?_, exact_digits_iff (exact_explorer raw) ?_,
    exact_digits_iff (exact_timeline raw) ?_⟩
  · intro _ _ _ h
    exact h
  · intro _ _ _ h
    exact h
  · intro p hp value h
    obtain rfl := List.mem_singleton.1 hp
    exact absurd h.1 (by decide)

end Timeline

/-- `max_holds=+5` is taken for `max_holds=5`. -/
theorem plus_sign_accepted :
    planningPolicy (some "max_holds=+5".toList) =
      .ok { PlanningPolicy.default with maxHolds := 5 } ∧
    ¬∀ raw, Exact Decimal.Digits planningParameters nothing planningPolicy raw := by
  refine ⟨rfl, ?_⟩
  intro hexact
  have hok := (hexact (some "max_holds=+5".toList)).accepts.1 ⟨_, rfl⟩
  obtain ⟨items, hitems, hlisted⟩ := hok
  have hwritten : Written (some "max_holds=+5".toList) [("max_holds".toList, "+5".toList)] :=
    .items (Query.lists_of_splitOn rfl)
  obtain rfl := hitems.unique hwritten
  rcases hlisted.known _ List.mem_cons_self with ⟨_, _, _, n, hn, _⟩ | hnothing
  · exact Decimal.not_digits_of_head_plus rfl hn
  · exact hnothing

end ControlPlane.Api
