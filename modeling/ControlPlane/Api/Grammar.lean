import ControlPlane.Api.Query

/-! The grammar of the query strings: which texts a parser accepts, and the policy each one
stands for. -/

namespace ControlPlane.Api

open Query (Item Lists splitOnce)

/-- An integer as the standard library reads it, one plus sign allowed. -/
def Signed (text : List Char) (n : Nat) : Prop := Decimal.Digits (Hex.dropPlus text) n

section Loop

variable {Q : Type} {noun : String} {assign : List Char → List Char → Q → Except ApiError Q}

inductive Assigns (assign : List Char → List Char → Q → Except ApiError Q) :
    List (List Char) → List Item → Q → Q → Prop
  | done : Assigns assign seen [] query query
  | next : name ∉ seen → assign name value query = .ok query' →
      Assigns assign (name :: seen) items query' query'' →
      Assigns assign seen ((name, value) :: items) query query''

theorem parseParameters_eq_ok {seen pieces : List (List Char)} {query result : Q} :
    parseParameters noun assign seen pieces query = .ok result ↔
      ∃ items : List Item, pieces.map (splitOnce '=') = items.map some ∧
        Assigns assign seen items query result := by
  constructor
  · intro h
    induction pieces generalizing seen query with
    | nil =>
      cases h
      exact ⟨[], rfl, .done⟩
    | cons piece pieces ih =>
      rw [parseParameters] at h
      cases hsplit : splitOnce '=' piece with
      | none =>
        rw [hsplit] at h
        cases h
      | some item =>
        simp only [hsplit] at h
        by_cases hseen : item.1 ∈ seen
        · rw [if_pos hseen] at h
          cases h
        · rw [if_neg hseen] at h
          cases hassign : assign item.1 item.2 query with
          | error error =>
            rw [hassign] at h
            cases h
          | ok query' =>
            rw [hassign] at h
            obtain ⟨items, hitems, hrun⟩ := ih h
            refine ⟨item :: items, ?_, .next hseen hassign hrun⟩
            rw [List.map_cons, List.map_cons, hsplit, hitems]
  · intro h
    obtain ⟨items, hitems, hrun⟩ := h
    induction hrun generalizing pieces with
    | done =>
      rw [List.map_nil, List.map_eq_nil_iff] at hitems
      rw [hitems, parseParameters]
    | next hseen hassign hrun ih =>
      cases pieces with
      | nil => cases hitems
      | cons piece pieces =>
        rw [List.map_cons, List.map_cons, List.cons.injEq] at hitems
        rw [parseParameters, hitems.1]
        simp only [if_neg hseen, hassign]
        exact ih hitems.2

variable {seen : List (List Char)} {items : List Item} {query result : Q}

theorem Assigns.fresh (h : Assigns assign seen items query result) :
    (items.map Prod.fst).Nodup ∧ ∀ item ∈ items, item.1 ∉ seen := by
  induction h with
  | done => exact ⟨List.nodup_nil, by simp⟩
  | next hseen hassign hrun ih =>
    refine ⟨?_, ?_⟩
    · rw [List.map_cons, List.nodup_cons]
      refine ⟨?_, ih.1⟩
      intro hmem
      obtain ⟨item, hitem, hname⟩ := List.mem_map.1 hmem
      exact ih.2 item hitem (hname ▸ List.mem_cons_self)
    · intro item hitem
      rcases List.mem_cons.1 hitem with rfl | hitem
      · exact hseen
      · exact mt (List.mem_cons_of_mem _) (ih.2 item hitem)

def Decides (assign : List Char → List Char → Q → Except ApiError Q)
    (Admits : List Char → List Char → Prop) : Prop :=
  ∀ name value query, (∃ query', assign name value query = .ok query') ↔ Admits name value

variable {Admits : List Char → List Char → Prop}

theorem Assigns.admitted (hdecides : Decides assign Admits)
    (h : Assigns assign seen items query result) : ∀ item ∈ items, Admits item.1 item.2 := by
  induction h with
  | done => simp
  | next hseen hassign hrun ih =>
    intro item hitem
    rcases List.mem_cons.1 hitem with rfl | hitem
    · exact (hdecides _ _ _).1 ⟨_, hassign⟩
    · exact ih item hitem

theorem Assigns.exists (hdecides : Decides assign Admits) (hnodup : (items.map Prod.fst).Nodup)
    (hseen : ∀ item ∈ items, item.1 ∉ seen) (hadmits : ∀ item ∈ items, Admits item.1 item.2)
    (query : Q) : ∃ result, Assigns assign seen items query result := by
  induction items generalizing seen query with
  | nil => exact ⟨query, .done⟩
  | cons item items ih =>
    rw [List.map_cons, List.nodup_cons] at hnodup
    obtain ⟨query', hassign⟩ := (hdecides item.1 item.2 query).2 (hadmits item List.mem_cons_self)
    have hseen' : ∀ other ∈ items, other.1 ∉ item.1 :: seen := by
      intro other hother
      rw [List.mem_cons, not_or]
      refine ⟨?_, hseen other (List.mem_cons_of_mem item hother)⟩
      intro hname
      exact hnodup.1 (hname ▸ List.mem_map_of_mem hother)
    obtain ⟨result, hrun⟩ := ih hnodup.2 hseen'
      (fun other hother => hadmits other (List.mem_cons_of_mem item hother)) query'
    exact ⟨result, .next (hseen item List.mem_cons_self) hassign hrun⟩

structure Sets (assign : List Char → List Char → Q → Except ApiError Q) (name : List Char)
    (numeral : List Char → Nat → Prop) (get : Q → Option Nat) : Prop where
  self : ∀ {value query query'}, assign name value query = .ok query' →
    ∃ n, get query' = some n ∧ numeral value n
  other : ∀ {name' value query query'}, assign name' value query = .ok query' → name' ≠ name →
    get query' = get query

variable {name : List Char} {numeral : List Char → Nat → Prop} {get : Q → Option Nat}

theorem Assigns.get_eq (hsets : Sets assign name numeral get)
    (h : Assigns assign seen items query result) (habsent : ∀ value, (name, value) ∉ items) :
    get result = get query := by
  induction h with
  | done => rfl
  | next hseen hassign hrun ih =>
    rw [ih fun value hmem => habsent value (List.mem_cons_of_mem _ hmem)]
    apply hsets.other hassign
    rintro rfl
    exact habsent _ List.mem_cons_self

theorem Assigns.get_self (hsets : Sets assign name numeral get)
    (h : Assigns assign seen items query result) {value : List Char}
    (hmem : (name, value) ∈ items) : ∃ n, get result = some n ∧ numeral value n := by
  induction h with
  | done => cases hmem
  | next hseen hassign hrun ih =>
    rcases List.mem_cons.1 hmem with heq | hmem
    · cases heq
      obtain ⟨n, hn, hvalue⟩ := hsets.self hassign
      refine ⟨n, ?_, hvalue⟩
      rw [hrun.get_eq hsets, hn]
      intro value hlater
      exact hrun.fresh.2 _ hlater List.mem_cons_self
    · exact ih hmem

end Loop

section Fields

variable {Q : Type} {noun : String} {fields : List (Field Q)}

/-- The fields have names of their own, caps that fit the type, and do not share storage. -/
structure Independent (fields : List (Field Q)) : Prop where
  nodup : (fields.map Field.name).Nodup
  fits : ∀ field ∈ fields, field.maximum < 2 ^ 64
  get_set : ∀ field ∈ fields, ∀ n query, field.get (field.set n query) = some n
  get_set_other : ∀ field ∈ fields, ∀ other ∈ fields, field.name ≠ other.name →
    ∀ n query, other.get (field.set n query) = other.get query

theorem bounded_eq_ok {name : List Char} {value maximum n : Nat} :
    bounded noun name value maximum = .ok n ↔ n = value ∧ 1 ≤ value ∧ value ≤ maximum := by
  rw [bounded]
  by_cases h : value = 0 ∨ value > maximum
  · rw [if_pos h]
    constructor
    · intro hok
      cases hok
    · intro hn
      omega
  · rw [if_neg h, Except.ok.injEq]
    omega

structure Puts (fields : List (Field Q)) (name value : List Char) (query result : Q)
    (field : Field Q) (n : Nat) : Prop where
  mem : field ∈ fields
  name : name = field.name.toList
  signed : Signed value n
  pos : 1 ≤ n
  le : n ≤ field.maximum
  result : result = field.set n query

theorem Independent.find (h : Independent fields) {field : Field Q} (hmem : field ∈ fields) :
    fields.find? (fun other => other.name.toList = field.name.toList) = some field := by
  cases hfind : fields.find? (fun other => other.name.toList = field.name.toList) with
  | none => exact absurd (List.find?_eq_none.1 hfind field hmem) (by simp)
  | some other =>
    have hname : other.name = field.name := by
      simpa [String.toList_inj] using List.find?_some hfind
    rw [List.inj_on_of_nodup_map h.nodup (List.mem_of_find?_eq_some hfind) hmem hname]

theorem assignInteger_eq_ok (h : Independent fields) {name value : List Char} {query result : Q} :
    assignInteger noun fields name value query = .ok result ↔
      ∃ field n, Puts fields name value query result field n := by
  constructor
  · intro hok
    rw [assignInteger] at hok
    cases hvalue : Decimal.fromStr 64 value with
    | none =>
      rw [hvalue] at hok
      cases hok
    | some n =>
      simp only [hvalue] at hok
      cases hfind : fields.find? fun field => field.name.toList = name with
      | none =>
        rw [hfind] at hok
        cases hok
      | some field =>
        simp only [hfind] at hok
        cases hbounded : bounded noun name n field.maximum with
        | error error =>
          rw [hbounded] at hok
          cases hok
        | ok m =>
          obtain ⟨rfl, hpos, hle⟩ := bounded_eq_ok.1 hbounded
          rw [hbounded, Except.map, Except.ok.injEq] at hok
          have hname : field.name.toList = name := by simpa using List.find?_some hfind
          exact ⟨field, m, List.mem_of_find?_eq_some hfind, hname.symm,
            (Decimal.fromStr_eq_some.1 hvalue).1, hpos, hle, hok.symm⟩
  · intro hputs
    obtain ⟨field, n, hputs⟩ := hputs
    have hlt := lt_of_le_of_lt hputs.le (h.fits field hputs.mem)
    have hvalue := Decimal.fromStr_eq_some.2 ⟨hputs.signed, hlt⟩
    have hbounded : bounded noun name n field.maximum = .ok n :=
      bounded_eq_ok.2 ⟨rfl, hputs.pos, hputs.le⟩
    rw [assignInteger, hvalue]
    simp only [hputs.name ▸ h.find hputs.mem, hbounded, Except.map, hputs.result]

theorem decides_assignInteger (h : Independent fields) :
    Decides (assignInteger noun fields) fun name value =>
      ∃ field ∈ fields, name = field.name.toList ∧ ∃ n, Signed value n ∧ 1 ≤ n ∧
        n ≤ field.maximum := by
  intro name value query
  constructor
  · intro hok
    obtain ⟨result, hok⟩ := hok
    obtain ⟨field, n, hputs⟩ := (assignInteger_eq_ok h).1 hok
    exact ⟨field, hputs.mem, hputs.name, n, hputs.signed, hputs.pos, hputs.le⟩
  · intro hadmits
    obtain ⟨field, hmem, hname, n, hsigned, hpos, hle⟩ := hadmits
    exact ⟨field.set n query, (assignInteger_eq_ok h).2 ⟨field, n, hmem, hname, hsigned, hpos, hle, rfl⟩⟩

theorem sets_assignInteger (h : Independent fields) {field : Field Q} (hmem : field ∈ fields) :
    Sets (assignInteger noun fields) field.name.toList Signed field.get where
  self := by
    intro value query query' hok
    obtain ⟨field', n, hputs⟩ := (assignInteger_eq_ok h).1 hok
    have heq : field = field' :=
      List.inj_on_of_nodup_map h.nodup hmem hputs.mem (String.toList_inj.1 hputs.name)
    subst heq
    refine ⟨n, ?_, hputs.signed⟩
    rw [hputs.result, h.get_set field hmem]
  other := by
    intro name value query query' hok hname
    obtain ⟨field', n, hputs⟩ := (assignInteger_eq_ok h).1 hok
    rw [hputs.result]
    apply h.get_set_other field' hputs.mem field hmem
    intro heq
    exact hname (hputs.name.trans (congrArg String.toList heq))

end Fields

section Grammar

variable {P Q : Type}

structure Parameter (P : Type) where
  name : String
  maximum : Nat
  default : Nat
  value : P → Nat

inductive Written : Option (List Char) → List Item → Prop
  | absent : Written none []
  | empty : Written (some []) []
  | items : Lists text items → Written (some text) items

theorem Written.unique {raw : Option (List Char)} {items items' : List Item}
    (h : Written raw items) (h' : Written raw items') : items = items' := by
  have hnil : ∀ {items : List Item}, ¬Lists [] items := by
    intro items hlists
    have hsplit := hlists.splitOnce
    cases items with
    | nil => exact hlists.ne_nil rfl
    | cons item items => cases hsplit
  cases h with
  | absent => cases h' with
    | absent => rfl
  | empty => cases h' with
    | empty => rfl
    | items hlists' => exact absurd hlists' hnil
  | items hlists => cases h' with
    | empty => exact absurd hlists hnil
    | items hlists' => exact hlists.unique hlists'

variable (numeral : List Char → Nat → Prop) (parameters : List (Parameter P))
  (other : List Char → List Char → Prop)

def Known (name value : List Char) : Prop :=
  (∃ p ∈ parameters, name = p.name.toList ∧ ∃ n, numeral value n ∧ 1 ≤ n ∧ n ≤ p.maximum) ∨
    other name value

structure Listed (items : List Item) : Prop where
  nodup : (items.map Prod.fst).Nodup
  known : ∀ item ∈ items, Known numeral parameters other item.1 item.2

def Holds (items : List Item) (policy : P) : Prop :=
  ∀ p ∈ parameters, (∀ value, (p.name.toList, value) ∈ items → numeral value (p.value policy)) ∧
    ((∀ value, (p.name.toList, value) ∉ items) → p.value policy = p.default)

/-- A parser accepts the query string exactly when the grammar does, and the policy it gives is
the one the items stand for. -/
structure Exact (parse : Option (List Char) → Except ApiError P) (raw : Option (List Char)) :
    Prop where
  accepts : (∃ policy, parse raw = .ok policy) ↔
    ∃ items, Written raw items ∧ Listed numeral parameters other items
  holds : ∀ policy, parse raw = .ok policy → ∃ items, Written raw items ∧
    Listed numeral parameters other items ∧ Holds numeral parameters items policy

/-- The query string would be accepted but for the plus sign before some integer. -/
def Plussed (raw : Option (List Char)) : Prop :=
  ∃ items, Written raw items ∧ Listed Signed parameters other items ∧
    ∃ item ∈ items, ∃ p ∈ parameters, item.1 = p.name.toList ∧ item.2.head? = some '+'

variable {numeral parameters other} {noun : String} {default : Q} {policy : Q → P}
  {assign : List Char → List Char → Q → Except ApiError Q}

theorem parseQuery_eq_ok {raw : Option (List Char)} {query : Q} :
    parseQuery noun assign default raw = .ok query ↔
      ∃ items, Written raw items ∧ Assigns assign [] items default query := by
  have hdone : ∀ {raw}, Written raw [] → ((.ok default : Except ApiError Q) = .ok query ↔
      ∃ items, Written raw items ∧ Assigns assign [] items default query) := by
    intro raw hraw
    constructor
    · intro hok
      cases hok
      exact ⟨[], hraw, .done⟩
    · intro hitems
      obtain ⟨items, hitems, hrun⟩ := hitems
      obtain rfl := hitems.unique hraw
      cases hrun
      rfl
  cases raw with
  | none => exact hdone .absent
  | some text =>
    by_cases htext : text = []
    · rw [parseQuery, if_pos htext]
      subst htext
      exact hdone .empty
    · rw [parseQuery, if_neg htext, parseParameters_eq_ok]
      constructor
      · intro hitems
        obtain ⟨items, hsplit, hrun⟩ := hitems
        exact ⟨items, .items (Query.lists_of_splitOn hsplit), hrun⟩
      · intro hitems
        obtain ⟨items, hitems, hrun⟩ := hitems
        cases hitems with
        | empty => exact absurd rfl htext
        | items hlists => exact ⟨items, hlists.splitOnce, hrun⟩

structure Reads (assign : List Char → List Char → Q → Except ApiError Q) (default : Q)
    (policy : Q → P) (p : Parameter P) (get : Q → Option Nat) : Prop where
  sets : Sets assign p.name.toList Signed get
  unset : get default = none
  value : ∀ query, p.value (policy query) = (get query).getD p.default

theorem exact_signed (hdecides : Decides assign (Known Signed parameters other))
    (hreads : ∀ p ∈ parameters, ∃ get, Reads assign default policy p get)
    (raw : Option (List Char)) :
    Exact Signed parameters other (fun raw => (parseQuery noun assign default raw).map policy)
      raw where
  accepts := by
    constructor
    · intro hok
      obtain ⟨result, hok⟩ := hok
      cases hquery : parseQuery noun assign default raw with
      | error error =>
        rw [hquery] at hok
        cases hok
      | ok query =>
        obtain ⟨items, hitems, hrun⟩ := parseQuery_eq_ok.1 hquery
        exact ⟨items, hitems, hrun.fresh.1, hrun.admitted hdecides⟩
    · intro hitems
      obtain ⟨items, hitems, hlisted⟩ := hitems
      have hrun : ∃ query, Assigns assign [] items default query :=
        Assigns.exists hdecides hlisted.nodup (by simp) hlisted.known default
      obtain ⟨query, hrun⟩ := hrun
      refine ⟨policy query, ?_⟩
      rw [parseQuery_eq_ok.2 ⟨items, hitems, hrun⟩]
      rfl
  holds := by
    intro result hok
    cases hquery : parseQuery noun assign default raw with
    | error error =>
      rw [hquery] at hok
      cases hok
    | ok query =>
      rw [hquery] at hok
      cases hok
      obtain ⟨items, hitems, hrun⟩ := parseQuery_eq_ok.1 hquery
      refine ⟨items, hitems, ⟨hrun.fresh.1, hrun.admitted hdecides⟩, ?_⟩
      intro p hp
      obtain ⟨get, hget⟩ := hreads p hp
      refine ⟨?_, ?_⟩
      · intro value hvalue
        obtain ⟨n, hn, hsigned⟩ := hrun.get_self hget.sets hvalue
        rw [hget.value, hn]
        exact hsigned
      · intro habsent
        rw [hget.value, hrun.get_eq hget.sets habsent, hget.unset, Option.getD_none]

theorem Signed.of_digits {text : List Char} {n : Nat} (h : Decimal.Digits text n) :
    Signed text n := by
  rw [Signed, h.dropPlus]
  exact h

theorem Signed.digits {text : List Char} {n : Nat} (h : Signed text n)
    (hplus : text.head? ≠ some '+') : Decimal.Digits text n := by
  have hdrop : Hex.dropPlus text = text := by
    by_contra hne
    exact hplus (Decimal.head_plus_of_dropPlus_ne hne)
  rwa [Signed, hdrop] at h

theorem Listed.mono {numeral numeral' : List Char → Nat → Prop} {items : List Item}
    (h : Listed numeral parameters other items)
    (himp : ∀ item ∈ items, ∀ p ∈ parameters, item.1 = p.name.toList →
      ∀ n, numeral item.2 n → numeral' item.2 n) : Listed numeral' parameters other items where
  nodup := h.nodup
  known := by
    intro item hitem
    rcases h.known item hitem with ⟨p, hp, hname, n, hn, hbounds⟩ | hother
    · exact .inl ⟨p, hp, hname, n, himp item hitem p hp hname n hn, hbounds⟩
    · exact .inr hother

/-- Where a plus sign may lead an integer, one does or all of them are plain digits. -/
theorem listed_signed_iff {raw : Option (List Char)} :
    (∃ items, Written raw items ∧ Listed Signed parameters other items) ↔
      (∃ items, Written raw items ∧ Listed Decimal.Digits parameters other items) ∨
        Plussed parameters other raw := by
  constructor
  · rintro ⟨items, hitems, hlisted⟩
    by_cases hplussed : Plussed parameters other raw
    · exact .inr hplussed
    · refine .inl ⟨items, hitems, hlisted.mono ?_⟩
      intro item hitem p hp hname n hn
      apply hn.digits
      intro hplus
      exact hplussed ⟨items, hitems, hlisted, item, hitem, p, hp, hname, hplus⟩
  · rintro (⟨items, hitems, hlisted⟩ | ⟨items, hitems, hlisted, -⟩)
    · exact ⟨items, hitems, hlisted.mono fun _ _ _ _ _ _ => Signed.of_digits⟩
    · exact ⟨items, hitems, hlisted⟩

theorem exact_digits_iff {parse : Option (List Char) → Except ApiError P} {raw : Option (List Char)}
    (h : Exact Signed parameters other parse raw)
    (hother : ∀ p ∈ parameters, ∀ value, ¬other p.name.toList value) :
    Exact Decimal.Digits parameters other parse raw ↔ ¬Plussed parameters other raw := by
  constructor
  · intro hexact hplussed
    obtain ⟨items, hitems, hlisted, item, hitem, p, hp, hname, hplus⟩ := hplussed
    obtain ⟨items', hitems', hlisted'⟩ := hexact.accepts.1 (h.accepts.2 ⟨items, hitems, hlisted⟩)
    obtain rfl := hitems.unique hitems'
    rcases hlisted'.known item hitem with ⟨_, _, _, n, hn, _⟩ | hin
    · exact Decimal.not_digits_of_head_plus hplus hn
    · exact hother p hp item.2 (hname ▸ hin)
  · intro hplain
    have hdigits : ∀ {items}, Written raw items → Listed Signed parameters other items →
        ∀ item ∈ items, ∀ p ∈ parameters, item.1 = p.name.toList →
          ∀ n, Signed item.2 n → Decimal.Digits item.2 n := by
      intro items hitems hlisted item hitem p hp hname n hn
      apply hn.digits
      intro hplus
      exact hplain ⟨items, hitems, hlisted, item, hitem, p, hp, hname, hplus⟩
    refine ⟨?_, ?_⟩
    · rw [h.accepts, listed_signed_iff, or_iff_left hplain]
    · intro policy hok
      obtain ⟨items, hitems, hlisted, hholds⟩ := h.holds policy hok
      refine ⟨items, hitems, hlisted.mono (hdigits hitems hlisted), ?_⟩
      intro p hp
      refine ⟨?_, (hholds p hp).2⟩
      intro value hvalue
      exact hdigits hitems hlisted (p.name.toList, value) hvalue p hp rfl _
        ((hholds p hp).1 value hvalue)

end Grammar

end ControlPlane.Api
