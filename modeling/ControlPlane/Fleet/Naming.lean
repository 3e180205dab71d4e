import ControlPlane.Fleet.RoundTrip

/-! Which items of a dispatch cycle get a queue file of their own. -/

namespace ControlPlane.Fleet.Dispatcher

open Check (bind_eq_ok_iff)

theorem map_asciiLower_of_slugChar {t : Text} (h : ∀ c ∈ t, isSlugChar c = true) :
    t.map asciiLower = t := by
  refine (List.map_congr_left fun c hc => ?_).trans (List.map_id t)
  have hchar := h c hc
  simp only [isSlugChar, Bool.or_eq_true, Bool.and_eq_true, decide_eq_true_eq] at hchar
  exact dif_neg (by omega)

theorem Source.name_spec (source : Source) :
    source.name ≠ [] ∧ ∀ c ∈ source.name, isSlugChar c = true := by
  have hall : source.name ≠ [] ∧ source.name.all isSlugChar = true := by
    cases source <;> decide
  exact ⟨hall.1, List.all_eq_true.mp hall.2⟩

theorem val_lt_of_slugChar {t : Text} (h : ∀ c ∈ t, isSlugChar c = true) :
    ∀ c ∈ t, c.val < 0x80 := by
  intro c hc
  have hbounds := isSlugChar_bounds (.inl (h c hc))
  omega

theorem Source.name_inj {source other : Source} : source.name = other.name ↔ source = other := by
  cases source <;> cases other <;> decide

namespace Item

section Identity

variable [Hashlib]

def Distinct (a b : Item) : Prop :=
  a.sourceKey ≠ b.sourceKey ∨ suffixOf a.version ≠ suffixOf b.version

theorem Distinct.symm {a b : Item} (h : a.Distinct b) : b.Distinct a := h.imp Ne.symm Ne.symm

end Identity

def Encodable (item : Item) : Prop :=
  item.sourceKey.encodedSize.isSome ∧ item.version.encodedSize.isSome

variable [Python] [Hashlib]

def fullName (item : Item) : Text := item.name item.repository (suffixOf item.version)

/-- The names of two items lose their difference on the way to a job id: their words agree as far
as there is room for them. -/
def Confusable (a b : Item) : Prop :=
  Slug.Clash hyphen 120 (joined a.fullName) (joined b.fullName)

def job (item : Item) : Job :=
  item.jobWith item.repository (providerOf item.sourceKey) (suffixOf item.version)

theorem jobId_eq_iff {a b : Item} : a.job.jobId = b.job.jobId ↔ a.Confusable b := slug_eq_iff

theorem fileName_eq_iff {a b : Item} : fileName a.job = fileName b.job ↔ a.Confusable b := by
  rw [fileName, fileName, List.append_left_inj, jobId_eq_iff]

theorem jobFor_eq_ok_iff {item : Item} {job : Job} :
    jobFor item item.repository = .ok job ↔ item.Encodable ∧ item.job = job :=
  Dispatcher.jobFor_eq_ok_iff

def repositoryWords (item : Item) : List Text :=
  Slug.words isSlugChar (Python.lower
    (item.repository.map fun c => if c = Json.ascii '/' then hyphen else c))

def sourceIdWords (item : Item) : List Text := Slug.words isSlugChar (Python.lower item.sourceId)

structure Ascii (item : Item) : Prop where
  repository : ∀ c ∈ item.repository, c.val < 0x80
  sourceId : ∀ c ∈ item.sourceId, c.val < 0x80

theorem slugWords_fullName [LawfulPython] {item : Item} (h : item.Ascii) :
    slugWords item.fullName = (item.source.name :: item.repositoryWords) ++
      (item.sourceIdWords ++ [suffixOf item.version]) := by
  obtain ⟨hsource, hsourceChars⟩ := item.source.name_spec
  obtain ⟨hsuffix, hsuffixChars⟩ := suffixOf_spec item.version
  have hrepository : ∀ c ∈ item.repository.map fun c =>
      if c = Json.ascii '/' then hyphen else c, c.val < 0x80 := by
    intro c hc
    obtain ⟨d, hd, rfl⟩ := List.mem_map.mp hc
    split_ifs
    · decide
    · exact h.repository d hd
  have hname : item.fullName = item.source.name ++ hyphen ::
      ((item.repository.map fun c => if c = Json.ascii '/' then hyphen else c) ++ hyphen ::
        (item.sourceId ++ hyphen :: suffixOf item.version)) := by
    have hsep : text "-" = [hyphen] := rfl
    simp only [fullName, name, hsep, List.append_assoc, List.cons_append, List.nil_append]
  have hascii : ∀ c ∈ item.fullName, c.val < 0x80 := by
    have hhyphen : hyphen.val < 0x80 := by decide
    rw [hname]
    simp only [List.forall_mem_append, List.forall_mem_cons]
    exact ⟨val_lt_of_slugChar hsourceChars, hhyphen, hrepository, hhyphen, h.sourceId, hhyphen,
      val_lt_of_slugChar hsuffixChars⟩
  have hlower : asciiLower hyphen = hyphen := by decide
  have hwords : Slug.words isSlugChar (Python.lower item.fullName) =
      (item.source.name :: item.repositoryWords) ++
        (item.sourceIdWords ++ [suffixOf item.version]) := by
    rw [LawfulPython.lower_ascii _ hascii, hname]
    simp only [List.map_append, List.map_cons, hlower,
      Slug.words_append_cons isSlugChar_hyphen]
    rw [map_asciiLower_of_slugChar hsourceChars, map_asciiLower_of_slugChar hsuffixChars,
      Slug.words_of_forall hsource hsourceChars, Slug.words_of_forall hsuffix hsuffixChars,
      repositoryWords, sourceIdWords, LawfulPython.lower_ascii _ hrepository,
      LawfulPython.lower_ascii _ h.sourceId]
    simp
  rw [slugWords, hwords]
  exact if_neg (by simp)

theorem confusable_iff_of_short [LawfulPython] {a b : Item} (ha : a.Ascii) (hb : b.Ascii)
    (hlength : (joined a.fullName).length ≤ 120) (hlength' : (joined b.fullName).length ≤ 120) :
    a.Confusable b ↔ a.source = b.source ∧
      a.repositoryWords ++ a.sourceIdWords = b.repositoryWords ++ b.sourceIdWords ∧
      suffixOf a.version = suffixOf b.version := by
  rw [Confusable, ← slug_eq_iff, slug_eq_iff_of_length_le hlength hlength',
    slugWords_fullName ha, slugWords_fullName hb, List.cons_append, List.cons_append,
    List.cons.injEq, Source.name_inj, ← List.append_assoc, ← List.append_assoc]
  apply and_congr_right'
  constructor
  · intro h
    obtain ⟨hwords, hsuffix⟩ := List.append_inj' h (by simp only [List.length_singleton])
    exact ⟨hwords, List.singleton_inj.mp hsuffix⟩
  · intro h
    rw [h.1, h.2]

theorem confusable_of_long [LawfulPython] {a b : Item} (ha : a.Ascii) (hb : b.Ascii)
    (hsource : a.source = b.source) (hrepository : a.repository = b.repository)
    (hlong : 120 ≤ (Slug.join hyphen (a.source.name :: a.repositoryWords)).length) :
    a.Confusable b := by
  have hrepositoryWords : b.repositoryWords = a.repositoryWords := by
    rw [repositoryWords, repositoryWords, hrepository]
  refine .inl ?_
  rw [joined, joined, slugWords_fullName ha, slugWords_fullName hb, ← hsource, hrepositoryWords,
    Slug.join_append hyphen (List.cons_ne_nil _ _), Slug.join_append hyphen (List.cons_ne_nil _ _),
    List.take_append_of_le_length hlong, List.take_append_of_le_length hlong]

end Item

section Queues

variable [Python] [Hashlib]

structure Queues where
  origin : Text → Text → Option Item
  filed : ∀ provider name item, origin provider name = some item →
    item.job.provider = provider ∧ fileName item.job = name

namespace Queues

def roots (queues : Queues) : StateRoots := fun provider name =>
  (queues.origin provider name).map fun item => payload item.job

def Holds (queues : Queues) (item : Item) : Prop :=
  queues.origin item.job.provider (fileName item.job) = some item

def empty : Queues where
  origin _ _ := none
  filed := nofun

def put (queues : Queues) (item : Item) : Queues where
  origin provider name := (queues.origin provider name).or
    (if item.job.provider = provider ∧ fileName item.job = name then some item else none)
  filed provider name other h := by
    rw [Option.or_eq_some_iff] at h
    cases h with
    | inl h => exact queues.filed provider name other h
    | inr h =>
      obtain ⟨hname, heq⟩ := Option.ite_none_right_eq_some.mp h.2
      cases heq
      exact hname

def archive (queues : Queues) (provider name : Text) : Queues where
  origin p n := if p = provider ∧ n = name then none else queues.origin p n
  filed p n item h := queues.filed p n item (Option.ite_none_left_eq_some.mp h).2

theorem roots_put (queues : Queues) (item : Item) :
    (queues.put item).roots = queueJob item.job queues.roots := by
  funext provider name
  rw [queueJob]
  split_ifs with hsome
  · cases horigin : queues.origin provider name with
    | some other => simp [roots, put, horigin]
    | none =>
      have hne : ¬(item.job.provider = provider ∧ fileName item.job = name) := by
        rintro ⟨rfl, rfl⟩
        simp [roots, horigin] at hsome
      simp [roots, put, horigin, hne]
  · have hnone : queues.origin item.job.provider (fileName item.job) = none := by
      simpa [roots] using hsome
    by_cases hp : item.job.provider = provider
    · subst hp
      by_cases hn : fileName item.job = name
      · subst hn
        simp [roots, put, hnone, atomicWriteJson, payload]
      · simp [roots, put, hn, atomicWriteJson, Function.update_of_ne (Ne.symm hn)]
    · simp [roots, put, hp, Function.update_of_ne (Ne.symm hp)]

theorem roots_archive (queues : Queues) (provider name : Text) :
    (queues.archive provider name).roots =
      Function.update queues.roots provider
        (Function.update (queues.roots provider) name none) := by
  funext p n
  by_cases hp : p = provider
  · subst hp
    by_cases hn : n = name
    · subst hn
      simp [roots, archive]
    · simp [roots, archive, hn]
  · simp [roots, archive, hp]

theorem origin_foldl_put (items : List Item) (queues : Queues) (provider name : Text) :
    (items.foldl put queues).origin provider name =
      (queues.origin provider name).or (items.find? fun item =>
        item.job.provider = provider ∧ fileName item.job = name) := by
  induction items generalizing queues with
  | nil => simp
  | cons item items ih =>
    rw [List.foldl_cons, ih, put, List.find?_cons]
    dsimp only
    rw [Option.or_assoc]
    congr 1
    by_cases h : item.job.provider = provider ∧ fileName item.job = name
    · simp [h]
    · simp [h]

theorem roots_foldl_put (items : List Item) (queues : Queues) :
    (items.foldl put queues).roots =
      items.foldl (fun roots item => queueJob item.job roots) queues.roots := by
  induction items generalizing queues with
  | nil => rfl
  | cons item items ih => rw [List.foldl_cons, List.foldl_cons, ih, roots_put]

end Queues

end Queues

def Ledger.due (ledger : Ledger) : List Item → List Item
  | [] => []
  | item :: rest =>
    if ledger item.sourceKey = some item.version ∨ item.repository = [] then ledger.due rest
    else item :: Ledger.due (Function.update ledger item.sourceKey (some item.version)) rest

theorem Ledger.due_sublist (ledger : Ledger) (items : List Item) :
    (ledger.due items).Sublist items := by
  induction items generalizing ledger with
  | nil => exact .slnil
  | cons item items ih =>
    rw [Ledger.due]
    split_ifs
    · exact (ih ledger).cons _
    · exact (ih _).cons_cons _

section Cycle

variable [Python] [Hashlib]

theorem Cycle.handle_of_skipped {cycle : Cycle} {item : Item}
    (h : cycle.ledger item.sourceKey = some item.version ∨ item.repository = []) :
    cycle.handle item = .ok { cycle with skipped := cycle.skipped + 1 } := by
  rw [Cycle.handle]
  split_ifs with hledger hrepository
  · rfl
  · rfl
  · exact absurd h (not_or.mpr ⟨hledger, hrepository⟩)

theorem Cycle.handle_eq_ok_iff {cycle after : Cycle} {item : Item}
    (h : ¬(cycle.ledger item.sourceKey = some item.version ∨ item.repository = [])) :
    cycle.handle item = .ok after ↔ item.Encodable ∧
      { cycle with
        stateRoots := queueJob item.job cycle.stateRoots
        ledger := Function.update cycle.ledger item.sourceKey (some item.version)
        queued := cycle.queued ++ [(item, item.job)] } = after := by
  rw [not_or] at h
  rw [Cycle.handle, if_neg h.1, if_neg h.2, bind_eq_ok_iff]
  constructor
  · rintro ⟨job, hjob, hafter⟩
    obtain ⟨hencodable, rfl⟩ := Item.jobFor_eq_ok_iff.mp hjob
    exact ⟨hencodable, Except.ok.inj hafter⟩
  · rintro ⟨hencodable, rfl⟩
    exact ⟨item.job, Item.jobFor_eq_ok_iff.mpr ⟨hencodable, rfl⟩, rfl⟩

/-- What the rest of a cycle does: the items that are due are put into the queues. -/
theorem Cycle.foldlM_handle {items : List Item} {cycle after : Cycle}
    (h : items.foldlM Cycle.handle cycle = .ok after) :
    after.queued = cycle.queued ++ (cycle.ledger.due items).map (fun item => (item, item.job)) ∧
    after.stateRoots = (cycle.ledger.due items).foldl (fun roots item => queueJob item.job roots)
      cycle.stateRoots ∧
    ∀ item ∈ cycle.ledger.due items, item.Encodable := by
  induction items generalizing cycle with
  | nil =>
    cases h
    simp [Ledger.due]
  | cons item items ih =>
    rw [List.foldlM_cons, bind_eq_ok_iff] at h
    obtain ⟨next, hnext, hrest⟩ := h
    by_cases hskip : cycle.ledger item.sourceKey = some item.version ∨ item.repository = []
    · rw [Cycle.handle_of_skipped hskip] at hnext
      cases hnext
      rw [Ledger.due, if_pos hskip]
      have hafter := ih hrest
      exact hafter
    · obtain ⟨hencodable, rfl⟩ := (Cycle.handle_eq_ok_iff hskip).mp hnext
      obtain ⟨hqueued, hroots, hall⟩ := ih hrest
      rw [Ledger.due, if_neg hskip, List.map_cons, List.foldl_cons, List.forall_mem_cons]
      refine ⟨hqueued.trans ?_, hroots, hencodable, hall⟩
      rw [List.append_assoc]
      rfl

theorem Cycle.exists_foldlM_handle {items : List Item} {cycle : Cycle}
    (h : ∀ item ∈ cycle.ledger.due items, item.Encodable) :
    ∃ after, items.foldlM Cycle.handle cycle = .ok after := by
  induction items generalizing cycle with
  | nil => exact ⟨cycle, rfl⟩
  | cons item items ih =>
    by_cases hskip : cycle.ledger item.sourceKey = some item.version ∨ item.repository = []
    · rw [Ledger.due, if_pos hskip] at h
      rw [List.foldlM_cons, Cycle.handle_of_skipped hskip]
      exact ih h
    · rw [Ledger.due, if_neg hskip, List.forall_mem_cons] at h
      rw [List.foldlM_cons, (Cycle.handle_eq_ok_iff hskip).mpr ⟨h.1, rfl⟩]
      exact ih h.2

variable {ledger : Ledger} {queues : Queues} {discovered : List Item} {cycle : Cycle}

theorem queued_runCycle {stateRoots : StateRoots}
    (h : runCycle ledger stateRoots discovered = .ok cycle) :
    cycle.queued = (ledger.due discovered).map fun item => (item, item.job) :=
  (Cycle.foldlM_handle h).1

theorem stateRoots_runCycle (h : runCycle ledger queues.roots discovered = .ok cycle) :
    cycle.stateRoots = ((ledger.due discovered).foldl Queues.put queues).roots := by
  rw [Queues.roots_foldl_put]
  exact (Cycle.foldlM_handle h).2.1

theorem encodable_runCycle {stateRoots : StateRoots}
    (h : runCycle ledger stateRoots discovered = .ok cycle) :
    ∀ item ∈ ledger.due discovered, item.Encodable :=
  (Cycle.foldlM_handle h).2.2

/-- The files that a dispatcher and its runners can leave in the queues.  A cycle that is killed, or
that an error ends, has handled some items and keeps the old ledger. -/
inductive Reached : Ledger → StateRoots → Prop
  | start : Reached (fun _ => none) (fun _ _ => none)
  | cycle {ledger stateRoots discovered cycle} (before : Reached ledger stateRoots)
    (ran : runCycle ledger stateRoots discovered = .ok cycle) :
    Reached cycle.ledger cycle.stateRoots
  | broken {ledger stateRoots handled cycle} (before : Reached ledger stateRoots)
    (ran : runCycle ledger stateRoots handled = .ok cycle) : Reached ledger cycle.stateRoots
  | unreadable {ledger stateRoots} (before : Reached ledger stateRoots) :
    Reached (fun _ => none) stateRoots
  | archived {ledger stateRoots} (before : Reached ledger stateRoots) (provider name : Text) :
    Reached ledger (Function.update stateRoots provider
      (Function.update (stateRoots provider) name none))

theorem Reached.exists_roots {stateRoots : StateRoots} (h : Reached ledger stateRoots) :
    ∃ queues : Queues, queues.roots = stateRoots := by
  induction h with
  | start => exact ⟨.empty, rfl⟩
  | cycle _ ran ih =>
    obtain ⟨queues, rfl⟩ := ih
    exact ⟨_, (stateRoots_runCycle ran).symm⟩
  | broken _ ran ih =>
    obtain ⟨queues, rfl⟩ := ih
    exact ⟨_, (stateRoots_runCycle ran).symm⟩
  | unreadable _ ih => exact ih
  | archived _ provider name ih =>
    obtain ⟨queues, rfl⟩ := ih
    exact ⟨queues.archive provider name, queues.roots_archive provider name⟩

/-- No work is swallowed in a cycle: ids differ where the items do, and each item that is recorded
has a queue file that was written for it. -/
structure Unswallowed (ledger : Ledger) (queues : Queues) (discovered : List Item) : Prop where
  ids : ∀ a ∈ discovered, ∀ b ∈ discovered, ∀ job other,
    jobFor a a.repository = .ok job → jobFor b b.repository = .ok other → a.Distinct b →
      job.jobId ≠ other.jobId
  files : ∀ cycle, runCycle ledger queues.roots discovered = .ok cycle →
    ∀ item job, (item, job) ∈ cycle.queued → ∃ own : Item, ¬own.Distinct item ∧
      ((ledger.due discovered).foldl Queues.put queues).origin job.provider (fileName job) =
        some own ∧
      cycle.stateRoots job.provider (fileName job) = some (payload own.job)

/-- No two different items are confused, neither among the discovered ones nor with an item that
waits in the queue which one of them is put into. -/
structure NoneConfused (ledger : Ledger) (queues : Queues) (discovered : List Item) : Prop where
  found : ∀ a ∈ discovered, ∀ b ∈ discovered, a.Encodable → b.Encodable → a.Distinct b →
    ¬a.Confusable b
  waiting : (∀ a ∈ ledger.due discovered, a.Encodable) → ∀ a ∈ ledger.due discovered, ∀ b,
    queues.Holds b → b.job.provider = a.job.provider → a.Distinct b → ¬a.Confusable b

theorem Unswallowed.noneConfused (h : Unswallowed ledger queues discovered) :
    NoneConfused ledger queues discovered where
  found a ha b hb hencodable hencodable' hdistinct hconfusable :=
    h.ids a ha b hb a.job b.job (Item.jobFor_eq_ok_iff.mpr ⟨hencodable, rfl⟩)
      (Item.jobFor_eq_ok_iff.mpr ⟨hencodable', rfl⟩) hdistinct (Item.jobId_eq_iff.mpr hconfusable)
  waiting hencodable a ha b hholds hprovider hdistinct hconfusable := by
    have hran : ∃ cycle, runCycle ledger queues.roots discovered = .ok cycle :=
      Cycle.exists_foldlM_handle hencodable
    obtain ⟨cycle, hcycle⟩ := hran
    have hqueued : (a, a.job) ∈ cycle.queued := by
      rw [queued_runCycle hcycle]
      exact List.mem_map_of_mem ha
    obtain ⟨own, hsame, horigin, -⟩ := h.files cycle hcycle a a.job hqueued
    -- the item that waits keeps its file, and the file goes by the name of the new one
    rw [Queues.origin_foldl_put, ← hprovider, Item.fileName_eq_iff.mpr hconfusable, hholds] at horigin
    cases horigin
    exact hsame hdistinct.symm

theorem NoneConfused.unswallowed (h : NoneConfused ledger queues discovered) :
    Unswallowed ledger queues discovered where
  ids := by
    intro a ha b hb job other hjob hother hdistinct heq
    obtain ⟨hencodable, rfl⟩ := Item.jobFor_eq_ok_iff.mp hjob
    obtain ⟨hencodable', rfl⟩ := Item.jobFor_eq_ok_iff.mp hother
    exact h.found a ha b hb hencodable hencodable' hdistinct (Item.jobId_eq_iff.mp heq)
  files := by
    intro cycle hcycle item job hqueued
    rw [queued_runCycle hcycle] at hqueued
    obtain ⟨_, hdue, heq⟩ := List.mem_map.mp hqueued
    cases heq
    have hencodable := encodable_runCycle hcycle
    have hmem {a : Item} (ha : a ∈ ledger.due discovered) : a ∈ discovered :=
      (ledger.due_sublist discovered).subset ha
    have hown : ∃ own : Item, ¬own.Distinct item ∧
        ((ledger.due discovered).foldl Queues.put queues).origin item.job.provider
          (fileName item.job) = some own := by
      rw [Queues.origin_foldl_put]
      cases horigin : queues.origin item.job.provider (fileName item.job) with
      | some own =>
        -- the file was there before
        refine ⟨own, fun hdistinct => ?_, rfl⟩
        obtain ⟨hprovider, hname⟩ := queues.filed _ _ _ horigin
        have hholds : queues.Holds own := by rwa [Queues.Holds, hprovider, hname]
        exact h.waiting hencodable item hdue own hholds hprovider hdistinct.symm
          (Item.fileName_eq_iff.mp hname.symm)
      | none =>
        cases hfind : (ledger.due discovered).find? fun other =>
            other.job.provider = item.job.provider ∧ fileName other.job = fileName item.job with
        | some own =>
          refine ⟨own, fun hdistinct => ?_, rfl⟩
          have hnames := List.find?_some hfind
          rw [decide_eq_true_eq] at hnames
          have hfound := List.mem_of_find?_eq_some hfind
          exact h.found own (hmem hfound) item (hmem hdue) (hencodable own hfound)
            (hencodable item hdue) hdistinct (Item.fileName_eq_iff.mp hnames.2)
        | none =>
          rw [List.find?_eq_none] at hfind
          exact absurd (decide_eq_true ⟨rfl, rfl⟩) (hfind item hdue)
    obtain ⟨own, hsame, horigin⟩ := hown
    refine ⟨own, hsame, horigin, ?_⟩
    rw [stateRoots_runCycle hcycle, Queues.roots, horigin]
    rfl

/-- Nothing is swallowed exactly if nothing is confused. -/
theorem unswallowed_iff (ledger : Ledger) (queues : Queues) (discovered : List Item) :
    Unswallowed ledger queues discovered ↔ NoneConfused ledger queues discovered :=
  ⟨fun h => h.noneConfused, fun h => h.unswallowed⟩

theorem swallowed_of_confusable {a b : Item} (ha : a.Encodable) (hb : b.Encodable)
    (harepository : a.repository ≠ []) (hbrepository : b.repository ≠ [])
    (hkey : a.sourceKey ≠ b.sourceKey) (hprovider : a.job.provider = b.job.provider)
    (hconfusable : a.Confusable b) :
    ∃ cycle, runCycle (fun _ => none) Queues.empty.roots [a, b] = .ok cycle ∧
      cycle.ledger b.sourceKey = some b.version ∧ (b, b.job) ∈ cycle.queued ∧
      cycle.stateRoots b.job.provider (fileName b.job) = some (payload a.job) := by
  have hdue : Ledger.due (fun _ => none) [a, b] = [a, b] := by
    simp [Ledger.due, harepository, hbrepository, Function.update_of_ne hkey.symm]
  have hran : ∃ cycle, runCycle (fun _ => none) Queues.empty.roots [a, b] = .ok cycle ∧
      cycle.ledger b.sourceKey = some b.version := by
    rw [runCycle, List.foldlM_cons]
    have hfirst : ∃ first, Cycle.handle { ledger := fun _ => none, stateRoots := Queues.empty.roots }
        a = .ok first ∧ first.ledger = Function.update (fun _ => none) a.sourceKey (some a.version) :=
      ⟨_, (Cycle.handle_eq_ok_iff (by simp [harepository])).mpr ⟨ha, rfl⟩, rfl⟩
    obtain ⟨first, hfirst, hfirstLedger⟩ := hfirst
    have hsecond : ∃ second, first.handle b = .ok second ∧
        second.ledger = Function.update first.ledger b.sourceKey (some b.version) := by
      refine ⟨_, (Cycle.handle_eq_ok_iff ?_).mpr ⟨hb, rfl⟩, rfl⟩
      simp [hbrepository, hfirstLedger, Function.update_of_ne hkey.symm]
    obtain ⟨second, hsecond, hsecondLedger⟩ := hsecond
    refine ⟨second, bind_eq_ok_iff.mpr ⟨first, hfirst, bind_eq_ok_iff.mpr ⟨second, hsecond, rfl⟩⟩, ?_⟩
    rw [hsecondLedger, Function.update_self]
  obtain ⟨cycle, hcycle, hledger⟩ := hran
  refine ⟨cycle, hcycle, hledger, ?_, ?_⟩
  · rw [queued_runCycle hcycle, hdue]
    exact List.mem_cons_of_mem _ List.mem_cons_self
  · rw [stateRoots_runCycle hcycle, hdue]
    simp [Queues.roots, Queues.put, Queues.empty, hprovider, Item.fileName_eq_iff.mpr hconfusable]

end Cycle

end Dispatcher

namespace Sample

def longRepository : Text :=
  text "hacker-house-medellin/" ++ List.replicate 100 (Json.ascii 'a')

def longIssue (number : Int) : Dispatcher.Item :=
  Dispatcher.githubItem longRepository number (text "2026-03-01T12:00:00Z")
    (text "Seal without a date")
    (text "https://github.com/" ++ longRepository ++ text "/issues/" ++ Json.decimal number)
    (text "The seal is printed without its date.")

abbrev longHashlib : Hashlib where
  sha256 t :=
    if t = (longIssue 1).sourceKey then
      0xe8057a0dd64b787b2247fd8dd9c6631039c0d916f2191e805402c53709f024e2
    else if t = (longIssue 3).sourceKey then
      0xda37fdc37a6e13619346cff04417089f014abc78fe0107876eaf24bfd871e01f
    else if t = text "2026-03-01T12:00:00Z" then
      0x0f5db5cfc6e80c6978638acf69245f883a4636599a7107a17a18eaef20a88031
    else 0

theorem job_longIssue :
    letI := python []
    letI := longHashlib
    fileName (longIssue 1).job = fileName (longIssue 3).job ∧
      (longIssue 1).job.provider = (longIssue 3).job.provider ∧
      (longIssue 1).job.task ≠ (longIssue 3).job.task := by
  decide +kernel

theorem distinct_longIssue :
    letI := longHashlib
    (longIssue 1).Distinct (longIssue 3) :=
  .inl (by decide)

theorem encodable_longIssue : (longIssue 1).Encodable ∧ (longIssue 3).Encodable :=
  ⟨⟨by decide, by decide⟩, ⟨by decide, by decide⟩⟩

end Sample

/-- The second issue is recorded, and the file is that of the first one. -/
theorem issue_swallowed :
    letI := Sample.python []
    letI := Sample.longHashlib
    (Sample.longIssue 1).Distinct (Sample.longIssue 3) ∧
    (∃ cycle, Dispatcher.runCycle (fun _ => none) Dispatcher.Queues.empty.roots
        [Sample.longIssue 1, Sample.longIssue 3] = .ok cycle ∧
      cycle.ledger (Sample.longIssue 3).sourceKey = some (Sample.longIssue 3).version ∧
      (Sample.longIssue 3, (Sample.longIssue 3).job) ∈ cycle.queued ∧
      cycle.stateRoots (Sample.longIssue 3).job.provider (fileName (Sample.longIssue 3).job) =
        some (payload (Sample.longIssue 1).job) ∧
      (Sample.longIssue 1).job.task ≠ (Sample.longIssue 3).job.task) ∧
    ¬Dispatcher.Unswallowed (fun _ => none) .empty [Sample.longIssue 1, Sample.longIssue 3] := by
  let := Sample.python []
  let := Sample.longHashlib
  have hdistinct := Sample.distinct_longIssue
  obtain ⟨hname, hprovider, htask⟩ := Sample.job_longIssue
  obtain ⟨hfirst, hsecond⟩ := Sample.encodable_longIssue
  have hkey : (Sample.longIssue 1).sourceKey ≠ (Sample.longIssue 3).sourceKey := by decide
  have hrepository : Sample.longRepository ≠ [] := by decide
  have hconfusable := Dispatcher.Item.fileName_eq_iff.mp hname
  obtain ⟨cycle, hcycle, hledger, hqueued, hfile⟩ := Dispatcher.swallowed_of_confusable hfirst hsecond
    hrepository hrepository hkey hprovider hconfusable
  refine ⟨hdistinct, ⟨cycle, hcycle, hledger, hqueued, hfile, htask⟩, fun h => ?_⟩
  exact h.noneConfused.found _ List.mem_cons_self _ (List.mem_cons_of_mem _ List.mem_cons_self)
    hfirst hsecond hdistinct hconfusable

end ControlPlane.Fleet
