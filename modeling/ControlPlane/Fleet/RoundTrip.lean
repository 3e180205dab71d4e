import ControlPlane.Fleet.Dispatcher

/-! Which jobs the runner reads back from its queue. -/

namespace ControlPlane.Fleet

open Check (bind_eq_ok_iff)

namespace Text

theorem strip_ne_nil {t : Text} {c : CodePoint} (hc : c ∈ t) (hspace : c.isSpace = false) :
    t.strip ≠ [] := by
  intro hnil
  rw [strip, List.rdropWhile_eq_nil_iff] at hnil
  have hall : ∀ d ∈ t, d.isSpace = true := by
    intro d hd
    rw [← List.takeWhile_append_dropWhile (p := CodePoint.isSpace) (l := t), List.mem_append] at hd
    rcases hd with hd | hd
    · exact List.mem_takeWhile_imp hd
    · exact hnil d hd
  rw [hall c hc] at hspace
  cases hspace

theorem strip_between {pre post : Text} {first last : CodePoint} (hpre : pre.head? = some first)
    (hpost : post.getLast? = some last) (hfirst : first.isSpace = false)
    (hlast : last.isSpace = false) (t : Text) : strip (pre ++ t ++ post) = pre ++ t ++ post := by
  rw [strip_eq_self_iff, List.append_assoc, List.head?_append, hpre, ← List.append_assoc,
    List.getLast?_append, hpost]
  constructor
  · intro c hc
    obtain rfl : first = c := Option.some.inj hc
    exact hfirst
  · intro c hc
    obtain rfl : last = c := Option.some.inj hc
    exact hlast

theorem bytes_le (t : Text) : t.bytes ≤ 4 * t.length := by
  induction t with
  | nil => rfl
  | cons c t ih =>
    have hc : c.utf8Size ≤ 4 := by
      unfold CodePoint.utf8Size
      split_ifs <;> decide
    rw [bytes_cons, List.length_cons]
    omega

theorem trimmed_iff {limit : Nat} {t : Text} :
    t.Trimmed limit ↔ t.strip = t ∧ t ≠ [] ∧ t.Fits limit :=
  ⟨fun h => ⟨h.strip, h.ne_nil, h.fits⟩, fun ⟨hstrip, hne, hfits⟩ => ⟨hstrip, hne, hfits⟩⟩

instance (limit : Nat) (t : Text) : Decidable (t.Trimmed limit) :=
  decidable_of_iff _ trimmed_iff.symm

end Text

namespace Dispatcher

theorem isSlugChar_digit (d : Nat) : isSlugChar (CodePoint.ofChar (Hex.digit d)) = true := by
  have hlt : d % 16 < 16 := Nat.mod_lt _ (by decide)
  rw [Hex.digit]
  generalize d % 16 = e at hlt
  interval_cases e <;> decide

theorem suffixOf_spec [Hashlib] (version : Text) :
    suffixOf version ≠ [] ∧ ∀ c ∈ suffixOf version, isSlugChar c = true := by
  constructor
  · intro hnil
    have hlength := congrArg List.length hnil
    simp [suffixOf] at hlength
  · intro c hc
    obtain ⟨d, hd, rfl⟩ := List.mem_map.mp hc
    obtain ⟨n, rfl⟩ := Hex.mem_padded (List.mem_of_mem_take hd)
    exact isSlugChar_digit n

theorem providerOf_mem [Hashlib] (sourceKey : Text) : providerOf sourceKey ∈ Fleet.PROVIDERS := by
  have hmem : providerOf sourceKey ∈ Dispatcher.PROVIDERS := List.get_mem _ _
  have hperm : ∀ p ∈ Dispatcher.PROVIDERS, p ∈ Fleet.PROVIDERS := by decide
  exact hperm _ hmem

theorem isSlugChar_bounds {c : CodePoint} (h : isSlugChar c = true ∨ c = hyphen) :
    0x2d = c.val ∨ (0x30 ≤ c.val ∧ c.val ≤ 0x39) ∨ (0x61 ≤ c.val ∧ c.val ≤ 0x7a) := by
  rcases h with h | rfl
  · simp only [isSlugChar, Bool.or_eq_true, Bool.and_eq_true, decide_eq_true_eq] at h
    omega
  · exact .inl rfl

theorem matchesId_of_shaped {t : Text} (h : Slug.Shaped isSlugChar hyphen t)
    (hlength : t.length ≤ 128) : matchesId t := by
  obtain ⟨⟨c, rest, rfl, hc⟩, hchars⟩ := h
  have hrest : rest.all CodePoint.isIdChar = true := by
    rw [List.all_eq_true]
    intro d hd
    have := isSlugChar_bounds (hchars d (List.mem_cons_of_mem c hd))
    simp only [CodePoint.isIdChar, CodePoint.isAlnum, Bool.or_eq_true, Bool.and_eq_true,
      decide_eq_true_eq, beq_iff_eq]
    omega
  have hhead : c.isAlnum = true := by
    simp only [isSlugChar, Bool.or_eq_true, Bool.and_eq_true, decide_eq_true_eq] at hc
    simp only [CodePoint.isAlnum, Bool.or_eq_true, Bool.and_eq_true, decide_eq_true_eq]
    omega
  rw [List.length_cons] at hlength
  simp only [matchesId, hhead, hrest, Bool.and_true, Bool.true_and, decide_eq_true_eq]
  omega

theorem isSpace_of_slugChar {c : CodePoint} (h : isSlugChar c = true ∨ c = hyphen) :
    c.isSpace = false := by
  have hbounds := isSlugChar_bounds h
  rw [← Bool.not_eq_true]
  simp only [CodePoint.isSpace, Bool.or_eq_true, Bool.and_eq_true, decide_eq_true_eq, beq_iff_eq]
  omega

section AgentRef

variable {rest : Text} (h : ∀ c ∈ rest, isSlugChar c = true ∨ c = hyphen)
include h

theorem agentRef_bounds {c : CodePoint} (hc : c ∈ text "agent/" ++ rest) : 0x2d = c.val ∨
    c.val = 0x2f ∨ (0x30 ≤ c.val ∧ c.val ≤ 0x39) ∨ (0x61 ≤ c.val ∧ c.val ≤ 0x7a) := by
  rcases List.mem_append.mp hc with hc | hc
  · have hall : (text "agent/").all (fun c => c.val == 0x2f || (0x61 ≤ c.val && c.val ≤ 0x7a)) =
        true := by decide
    have hletter := List.all_eq_true.mp hall c hc
    simp only [Bool.or_eq_true, Bool.and_eq_true, decide_eq_true_eq, beq_iff_eq] at hletter
    exact .inr (hletter.imp_right .inr)
  · exact (isSlugChar_bounds (h c hc)).imp_right .inr

theorem count_slash_agentRef : (text "agent/" ++ rest).count (Json.ascii '/') = 1 := by
  have hnone : rest.count (Json.ascii '/') = 0 := by
    rw [List.count_eq_zero]
    intro hmem
    exact absurd (isSlugChar_bounds (h _ hmem)) (by decide)
  rw [List.count_append, hnone]
  rfl

theorem not_infix_agentRef {t : Text}
    (ht : t.any (fun c => c.val = 0x2e || c.val = 0x40) = true) :
    ¬t <:+: text "agent/" ++ rest := by
  intro hpart
  obtain ⟨c, hc, hval⟩ := List.any_eq_true.mp ht
  have hbounds := agentRef_bounds h (hpart.subset hc)
  simp only [Bool.or_eq_true, decide_eq_true_eq] at hval
  omega

theorem not_unsafe_agentRef : ¬(text "agent/" ++ rest).any (fun c =>
    c.val < 0x20 || UNSAFE_REF_CHARS.contains c) = true := by
  intro hany
  obtain ⟨c, hc, hval⟩ := List.any_eq_true.mp hany
  have hunsafe : UNSAFE_REF_CHARS.all (fun c => c.val < 0x2d || c.val = 0x3a || c.val = 0x3f ||
      (0x5b ≤ c.val && c.val ≤ 0x60) || 0x7a < c.val) = true := by decide
  have hbad := List.all_eq_true.mp hunsafe c
  have hbounds := agentRef_bounds h hc
  simp only [Bool.or_eq_true, Bool.and_eq_true, decide_eq_true_eq, List.contains_iff_mem]
    at hval hbad
  rcases hval with hval | hval
  · omega
  · have hoff := hbad hval
    omega

theorem safeRef_agent (hne : rest ≠ []) : SafeRef (text "agent/" ++ rest) := by
  have hlast : ∀ c ∈ (text "agent/" ++ rest).getLast?, isSlugChar c = true ∨ c = hyphen := by
    intro c hc
    rw [List.getLast?_append_of_ne_nil _ hne] at hc
    exact h c (List.mem_of_getLast? hc)
  constructor
  · rw [Text.strip_eq_self_iff]
    constructor
    · intro c hc
      obtain rfl : Json.ascii 'a' = c := Option.some.inj hc
      decide
    · intro c hc
      exact isSpace_of_slugChar (hlast c hc)
  · rintro (hnil | (hpre | hpre | hpre) | (hsuf | hsuf | hsuf) | hpart | hpart | hpart | hany)
    · simp [text] at hnil
    · cases (List.cons_prefix_cons.mp hpre).1
    · cases (List.cons_prefix_cons.mp hpre).1
    · cases (List.cons_prefix_cons.mp hpre).1
    · obtain ⟨p, hp⟩ := hsuf
      have hslash := hlast (Json.ascii '/') (hp ▸ List.getLast?_concat)
      exact absurd (isSlugChar_bounds hslash) (by decide)
    · exact not_infix_agentRef h (by decide) hsuf.isInfix
    · exact not_infix_agentRef h (by decide) hsuf.isInfix
    · exact not_infix_agentRef h (by decide) hpart
    · exact not_infix_agentRef h (by decide) hpart
    · have hcount := hpart.sublist.count_le (Json.ascii '/')
      rw [count_slash_agentRef h] at hcount
      revert hcount
      decide
    · exact not_unsafe_agentRef h hany

end AgentRef

/-- What an item needs so that the runner can read its job. -/
structure Item.Readable (item : Item) (repository : Text) : Prop where
  task : (item.task repository).Fits MAX_TASK_BYTES
  repository : ¬(Json.ascii '\n' ∈ repository ∨ Json.ascii '\r' ∈ repository)
  title : item.publicTitle.strip = item.publicTitle
  encodable : item.publicTitle.any CodePoint.isSurrogate = false
  url : item.criterion.Fits 2048

theorem trimmed_publicTitle_iff (item : Item) : item.publicTitle.Trimmed 2048 ↔
    item.publicTitle.strip = item.publicTitle ∧
      item.publicTitle.any CodePoint.isSurrogate = false := by
  constructor
  · rintro ⟨hstrip, -, size, hsize, -⟩
    simp only [Text.encodedSize, Option.ite_none_left_eq_some] at hsize
    exact ⟨hstrip, Bool.not_eq_true _ ▸ hsize.1⟩
  · rintro ⟨hstrip, hclean⟩
    have hlength : item.publicTitle.length ≤ 300 := List.length_take_le _ _
    have hbytes := Text.bytes_le item.publicTitle
    refine ⟨hstrip, ?_, _, if_neg (by simp [hclean]), ?_⟩
    · intro hnil
      simp [Item.publicTitle, text] at hnil
    · change item.publicTitle.bytes ≤ 2048
      omega

theorem trimmed_criterion_iff (item : Item) :
    item.criterion.Trimmed 2048 ↔ item.criterion.Fits 2048 := by
  refine ⟨fun h => h.fits, fun h => ⟨?_, by simp [Item.criterion, text], h⟩⟩
  have hfirst : (text "Address the real source item ").head? = some (Json.ascii 'A') := rfl
  have hlast : (text " without fabricated evidence.").getLast? = some (Json.ascii '.') := by decide
  exact Text.strip_between hfirst hlast (by decide) (by decide) item.url

theorem bounded_successCriteria_iff (item : Item) :
    Bounded 2048 32 item.successCriteria ↔ item.criterion.Fits 2048 := by
  rw [← trimmed_criterion_iff]
  refine ⟨fun h => h.trimmed _ List.mem_cons_self, fun h => ⟨by simp [Item.successCriteria], ?_⟩⟩
  have hrest : ∀ t ∈ item.successCriteria.tail, t.Trimmed 2048 := by
    simp only [Item.successCriteria, List.tail_cons]
    repeat rw [text_ofList]
    decide
  exact List.forall_mem_cons.mpr ⟨h, hrest⟩

theorem bounded_constraints : Bounded 2048 32 CONSTRAINTS := by
  refine ⟨by decide, ?_⟩
  simp only [CONSTRAINTS]
  repeat rw [text_ofList]
  decide

theorem strip_repositoryUrl (repository : Text) :
    (repositoryUrl repository).strip = repositoryUrl repository := by
  have hfirst : (text "https://github.com/").head? = some (Json.ascii 'h') := rfl
  have hlast : (text ".git").getLast? = some (Json.ascii 't') := by decide
  exact Text.strip_between hfirst hlast (by decide) (by decide) repository

theorem safe_repositoryUrl_iff (repository : Text) :
    ¬(Json.ascii '\n' ∈ repositoryUrl repository ∨ Json.ascii '\r' ∈ repositoryUrl repository ∨
        text "-" <+: repositoryUrl repository) ↔
      ¬(Json.ascii '\n' ∈ repository ∨ Json.ascii '\r' ∈ repository) := by
  have hmem {c : CodePoint} (hc : (text "https://github.com/" ++ text ".git").all (· ≠ c) = true) :
      c ∈ repositoryUrl repository ↔ c ∈ repository := by
    have hnot : c ∉ text "https://github.com/" ++ text ".git" := by
      intro hmem
      simpa using List.all_eq_true.mp hc c hmem
    rw [List.mem_append, not_or] at hnot
    simp only [repositoryUrl, List.mem_append, hnot, false_or, or_false]
  have hdash : ¬text "-" <+: repositoryUrl repository := by
    intro hpre
    cases (List.cons_prefix_cons.mp hpre).1
  rw [hmem (by decide), hmem (by decide)]
  simp only [hdash, or_false]

theorem Item.queuePriority_le (item : Item) : item.queuePriority ≤ 1000 := by
  unfold Item.queuePriority
  split_ifs <;> decide

section Normal

variable [Python] {item : Item} {repository provider suffix : Text}

theorem safeRef_branch (hsuffix : suffix ≠ []) (hchars : ∀ c ∈ suffix, isSlugChar c = true) :
    SafeRef (text "agent/" ++ slug item.sourceId 36 ++ text "-" ++ suffix) := by
  have hslug := (shaped_slug item.sourceId (by decide : (36 : Nat) ≠ 0)).chars
  rw [List.append_assoc, List.append_assoc]
  refine safeRef_agent ?_ (by simp [hsuffix])
  intro c hc
  rw [List.mem_append, List.mem_append] at hc
  rcases hc with hc | hc | hc
  · exact hslug c hc
  · exact .inr (List.mem_singleton.mp hc)
  · exact .inl (hchars c hc)

theorem Item.normal_jobWith_iff (hprovider : provider ∈ Fleet.PROVIDERS) (hsuffix : suffix ≠ [])
    (hchars : ∀ c ∈ suffix, isSlugChar c = true) :
    (item.jobWith repository provider suffix).Normal ↔ item.Readable repository := by
  constructor
  · intro h
    obtain ⟨hstrip, hclean⟩ := (trimmed_publicTitle_iff item).mp (h.publicTitle _ rfl)
    exact {
      task := h.task
      repository := (safe_repositoryUrl_iff repository).mp h.repository
      title := hstrip
      encodable := hclean
      url := (bounded_successCriteria_iff item).mp h.successCriteria }
  · intro h
    have hid := shaped_slug (item.name repository suffix) (by decide : (120 : Nat) ≠ 0)
    have hlength : (slug (item.name repository suffix) 120).length ≤ 120 :=
      Slug.length_cut_le 120 _
    have hspace : ∀ c ∈ slug (item.name repository suffix) 120, c.isSpace = false :=
      fun c hc => isSpace_of_slugChar (hid.chars c hc)
    have hwork : Json.ascii 'W' ∈ item.task repository := by
      simp only [Item.task, List.append_assoc, List.mem_append]
      exact .inl (by decide)
    have hmain : SafeRef (text "main") := ⟨by decide, by decide⟩
    have htitle := (trimmed_publicTitle_iff item).mpr ⟨h.title, h.encodable⟩
    exact {
      jobId_strip := Text.strip_eq_self_iff.mpr
        ⟨fun c hc => hspace c (List.mem_of_head? hc), fun c hc => hspace c (List.mem_of_getLast? hc)⟩
      jobId := matchesId_of_shaped hid (hlength.trans (by decide))
      provider := hprovider
      task_strip := Text.strip_ne_nil hwork (by decide)
      task := h.task
      repository_strip := strip_repositoryUrl repository
      repository_ne := by simp [Item.jobWith, repositoryUrl, text]
      repository := (safe_repositoryUrl_iff repository).mpr h.repository
      baseRef := hmain
      branch := by
        rintro _ ⟨⟩
        exact safeRef_branch hsuffix hchars
      timeoutSeconds := (by decide : 60 ≤ 7200 ∧ 7200 ≤ 24 * 3600)
      maxAttempts := (by decide : 1 ≤ 3 ∧ 3 ≤ 10)
      priority := item.queuePriority_le
      model := nofun
      publicTitle := by
        rintro _ ⟨⟩
        exact htitle
      successCriteria := (bounded_successCriteria_iff item).mpr h.url
      constraints := bounded_constraints }

end Normal

section Size

theorem quotedSize_le (t : Text) : Json.quotedSize t ≤ 2 + 12 * t.length := by
  have hsum : (t.map Json.escapedSize).sum ≤ 12 * t.length := by
    induction t with
    | nil => rfl
    | cons c t ih =>
      have hc : Json.escapedSize c ≤ 12 := by
        unfold Json.escapedSize
        split_ifs <;> decide
      rw [List.map_cons, List.sum_cons, List.length_cons]
      omega
  rw [Json.quotedSize]
  omega

theorem quotedSize_le_of_le {t : Text} {n : Nat} (h : t.length ≤ n) :
    Json.quotedSize t ≤ 2 + 12 * n := by
  have := quotedSize_le t
  omega

theorem length_INSTRUCTIONS_le : INSTRUCTIONS.length ≤ 500 := by
  rw [INSTRUCTIONS]
  repeat rw [text_ofList]
  decide +kernel

theorem Item.length_task_le (item : Item) (repository : Text) : (item.task repository).length ≤
    610 + item.url.length + repository.length + item.title.length + item.body.length := by
  have hsource : item.source.name.length ≤ 6 := by cases item.source <;> decide
  have hbody : (orElse (some item.body) (text "(no description)")).length ≤ 16 + item.body.length := by
    simp only [orElse]
    split_ifs
    · simp [text]
    · omega
  have hinstructions := length_INSTRUCTIONS_le
  rw [Item.task]
  generalize orElse (some item.body) (text "(no description)") = body at hbody ⊢
  repeat rw [text_ofList]
  simp only [List.length_append, List.length_map, List.length_cons, List.length_nil]
  omega

theorem textsSize_le {ts : List Text} {n : Nat} (h : ∀ t ∈ ts, t.length ≤ n) :
    textsSize ts ≤ 4 + ts.length * (8 + 12 * n) := by
  have hsum : (ts.map fun t => 6 + Json.quotedSize t).sum ≤ ts.length * (8 + 12 * n) := by
    induction ts with
    | nil => simp
    | cons t ts ih =>
      obtain ⟨ht, hts⟩ := List.forall_mem_cons.mp h
      have hsize := quotedSize_le_of_le ht
      have hrest := ih hts
      rw [List.map_cons, List.sum_cons, List.length_cons, Nat.succ_mul]
      omega
  cases ts with
  | nil => simp [textsSize]
  | cons t ts => exact Nat.add_le_add_left hsum 4

theorem length_of_mem_CONSTRAINTS : ∀ t ∈ CONSTRAINTS, t.length ≤ 110 := by
  rw [CONSTRAINTS]
  repeat rw [text_ofList]
  decide

theorem Item.length_of_mem_successCriteria (item : Item) :
    ∀ t ∈ item.successCriteria, t.length ≤ 100 + item.url.length := by
  have hrest : ∀ t ∈ item.successCriteria.tail, t.length ≤ 100 := by
    simp only [Item.successCriteria, List.tail_cons]
    repeat rw [text_ofList]
    decide
  have hcriterion : item.criterion.length ≤ 100 + item.url.length := by
    rw [Item.criterion]
    repeat rw [text_ofList]
    simp only [List.length_append, List.length_map, List.length_cons, List.length_nil]
    omega
  exact List.forall_mem_cons.mpr ⟨hcriterion, fun t ht => (hrest t ht).trans (Nat.le_add_right _ _)⟩

/-- However its texts are escaped, an item of moderate length has a job that fits. -/
theorem Item.size_jobWith_le [Python] (item : Item) (repository provider suffix : Text) :
    (item.jobWith repository provider suffix).size ≤ 25000 + 12 * (5 * item.url.length +
      2 * repository.length + item.title.length + item.body.length + provider.length +
      suffix.length) := by
  have hid : Json.quotedSize (slug (item.name repository suffix) 120) ≤ 2 + 12 * 120 :=
    quotedSize_le_of_le (Slug.length_cut_le 120 _)
  have hbranch : (text "agent/" ++ slug item.sourceId 36 ++ text "-" ++ suffix).length ≤
      43 + suffix.length := by
    have hslug : (slug item.sourceId 36).length ≤ 36 := Slug.length_cut_le 36 _
    simp [text]
    omega
  have hbranch' := quotedSize_le_of_le hbranch
  have hprovider := quotedSize_le provider
  have htitle : Json.quotedSize item.publicTitle ≤ 2 + 12 * 300 :=
    quotedSize_le_of_le (List.length_take_le _ _)
  have hurl : (repositoryUrl repository).length ≤ 23 + repository.length := by
    simp [repositoryUrl, text]
    omega
  have hurl' := quotedSize_le_of_le hurl
  have htask := quotedSize_le_of_le (item.length_task_le repository)
  have hcriteria := textsSize_le item.length_of_mem_successCriteria
  have hconstraints := textsSize_le length_of_mem_CONSTRAINTS
  have hpriority : intSize item.queuePriority = 2 := by
    unfold queuePriority
    split_ifs <;> decide
  have hmain : Json.quotedSize (text "main") = 6 := by decide
  have hints : intSize 3 = 1 ∧ intSize 7200 = 4 := by decide
  have hlengths : item.successCriteria.length = 4 ∧ CONSTRAINTS.length = 3 := ⟨rfl, rfl⟩
  simp only [Job.size, Item.jobWith, boolSize, optionSize, hpriority, hmain, hints]
  rw [hlengths.1] at hcriteria
  rw [hlengths.2] at hconstraints
  simp only [if_true, Bool.false_eq_true, if_false]
  omega

end Size

section Queue

variable [Python] [Hashlib]

omit [Python] [Hashlib] in
theorem encoded_eq_ok_iff {α : Type} {t : Text} {x y : α} :
    (do let _ ← utf8 t; return x) = (.ok y : Except JobError α) ↔
      t.encodedSize.isSome ∧ x = y := by
  rw [bind_eq_ok_iff, Option.isSome_iff_exists]
  constructor
  · rintro ⟨size, hsize, h⟩
    exact ⟨⟨size, utf8_eq_ok_iff.mp hsize⟩, Except.ok.inj h⟩
  · rintro ⟨⟨size, hsize⟩, h⟩
    exact ⟨size, utf8_eq_ok_iff.mpr hsize, congrArg Except.ok h⟩

theorem jobFor_eq_ok_iff {item : Item} {repository : Text} {job : Job} :
    jobFor item repository = .ok job ↔
      (item.sourceKey.encodedSize.isSome ∧ item.version.encodedSize.isSome) ∧
        item.jobWith repository (providerOf item.sourceKey) (suffixOf item.version) = job := by
  rw [jobFor, bind_eq_ok_iff]
  constructor
  · rintro ⟨provider, hprovider, h⟩
    obtain ⟨suffix, hsuffix, h⟩ := bind_eq_ok_iff.mp h
    obtain ⟨hkey, rfl⟩ := encoded_eq_ok_iff.mp hprovider
    obtain ⟨hversion, rfl⟩ := encoded_eq_ok_iff.mp hsuffix
    exact ⟨⟨hkey, hversion⟩, Except.ok.inj h⟩
  · rintro ⟨⟨hkey, hversion⟩, h⟩
    refine ⟨_, encoded_eq_ok_iff.mpr ⟨hkey, rfl⟩, bind_eq_ok_iff.mpr ?_⟩
    exact ⟨_, encoded_eq_ok_iff.mpr ⟨hversion, rfl⟩, congrArg Except.ok h⟩

theorem normal_jobFor_iff {item : Item} {repository : Text} {job : Job}
    (h : jobFor item repository = .ok job) : job.Normal ↔ item.Readable repository := by
  obtain ⟨-, rfl⟩ := jobFor_eq_ok_iff.mp h
  obtain ⟨hsuffix, hchars⟩ := suffixOf_spec item.version
  exact Item.normal_jobWith_iff (providerOf_mem item.sourceKey) hsuffix hchars

omit [Python] [Hashlib] in
theorem queueJob_of_vacant {job : Job} {stateRoots : StateRoots}
    (h : stateRoots job.provider (fileName job) = none) :
    queueJob job stateRoots job.provider (fileName job) = some (payload job) := by
  rw [queueJob, h, if_neg (by simp), Function.update_self, atomicWriteJson, Function.update_self,
    payload]

/-- The runner of the queue finds a job the dispatcher has written exactly if it admits the
provider, the file is not too large and the item is readable. -/
theorem queueJob_survives_iff [LawfulPython] {admittedProviders : List Text}
    {stateRoots : StateRoots} {item : Item} {repository : Text} {job : Job}
    (hjob : jobFor item repository = .ok job)
    (hvacant : stateRoots job.provider (fileName job) = none)
    (hloads : Python.loads (payload job) = some (.dict job.asdict)) :
    Survives admittedProviders (queueJob job stateRoots job.provider) job ↔
      job.provider ∈ admittedProviders ∧ job.size ≤ MAX_JOB_BYTES ∧ item.Readable repository := by
  rw [Survives, ← normal_jobFor_iff hjob]
  simp only [queueJob_of_vacant hvacant, Option.some.injEq, exists_eq_left',
    readQueued_payload_iff hloads]

end Queue

end Dispatcher

/-- Which jobs survive their queue: those of an operator unless the new file is too large, those
of the dispatcher if moreover the item is readable and the runner takes the provider. -/
theorem survives_iff [Python] [LawfulPython] [Hashlib] (admittedProviders : List Text) :
    (∀ (queue queue' : Directory) (path contents : Text) (job : Job),
      enqueue admittedProviders queue path contents = .ok (job, queue') →
      Python.loads (payload job) = some (.dict job.asdict) →
      (Survives admittedProviders queue' job ↔
        queue (fileName job) ≠ none ∨ job.size ≤ MAX_JOB_BYTES)) ∧
    (∀ (stateRoots : Dispatcher.StateRoots) (item : Dispatcher.Item) (repository : Text) (job : Job),
      Dispatcher.jobFor item repository = .ok job →
      stateRoots job.provider (fileName job) = none →
      Python.loads (payload job) = some (.dict job.asdict) →
      (Survives admittedProviders (Dispatcher.queueJob job stateRoots job.provider) job ↔
        job.provider ∈ admittedProviders ∧ job.size ≤ MAX_JOB_BYTES ∧ item.Readable repository)) :=
  ⟨fun _ _ _ _ _ hqueued hloads => enqueue_survives_iff hqueued hloads,
    fun _ _ _ _ hjob hvacant hloads => Dispatcher.queueJob_survives_iff hjob hvacant hloads⟩

namespace Sample

def empty : Directory := fun _ => none

abbrev python (files : List (Text × Job)) : Python where
  lower := List.map asciiLower
  strOf _ := []
  intOf _ := .error .conversion
  loads contents := (files.lookup contents).map fun job => .dict job.asdict

instance (files : List (Text × Job)) : @LawfulPython (python files) :=
  @LawfulPython.mk (python files) fun _ _ => rfl

theorem loads_head (contents : Text) (job : Job) (files : List (Text × Job)) :
    (python ((contents, job) :: files)).loads contents = some (.dict job.asdict) := by
  simp only [Python.loads]
  rw [List.lookup_cons_self, Option.map_some]

instance : Hashlib where
  sha256 t :=
    if t = text "github:apostille-me/site#7" then
      0xb5d5654c8513414e95eb216066811040925f41e2efdf1808dc7cbd0eb6bad6c7
    else if t = text "2026-03-01T12:00:00Z" then
      0x0f5db5cfc6e80c6978638acf69245f883a4636599a7107a17a18eaef20a88031
    else 0

def item : Dispatcher.Item :=
  Dispatcher.githubItem (text "apostille-me/site") 7 (text "2026-03-01T12:00:00Z")
    (text "Seal without a date") (text "https://github.com/apostille-me/site/issues/7")
    (text "The seal is printed without its date.")

def dispatched : Job :=
  @Dispatcher.Item.jobWith (python []) item (text "apostille-me/site") (text "anthropic")
    (text "0f5db5cf")

theorem size_dispatched : dispatched.size ≤ MAX_JOB_BYTES :=
  (@Dispatcher.Item.size_jobWith_le (python []) _ _ _ _).trans (by decide)

theorem readable_item : item.Readable (text "apostille-me/site") where
  task := by
    simp only [item, Dispatcher.githubItem, Dispatcher.Item.task, Dispatcher.INSTRUCTIONS]
    repeat rw [text_ofList]
    decide +kernel
  repository := by decide
  title := by decide
  encodable := by decide
  url := by
    simp only [item, Dispatcher.githubItem, Dispatcher.Item.criterion]
    repeat rw [text_ofList]
    decide

def accented : Job where
  jobId := text "accented"
  provider := text "openai"
  repository := text "https://github.com/apostille-me/site.git"
  task := List.replicate 32768 (Json.ascii 'é')

def accentedFile : Text :=
  text "\x7b\"allow_no_change\": false, \"base_ref\": \"main\", \"branch\": null, " ++
    text "\"constraints\": [], \"job_id\": \"accented\", \"max_attempts\": 3, \"model\": null, " ++
    text "\"priority\": 100, \"provider\": \"openai\", \"public_title\": null, " ++
    text "\"repository\": \"https://github.com/apostille-me/site.git\", " ++
    text "\"require_observation\": true, \"require_pull_request\": true, " ++
    text "\"require_test_evidence\": false, \"success_criteria\": [], \"task\": \"" ++
    accented.task ++ text "\", \"timeout_seconds\": 3600\x7d"

theorem loads_second (contents other : Text) (job : Job) :
    (python [(other, job), (contents, job)]).loads contents = some (.dict job.asdict) := by
  by_cases h : contents = other
  · rw [h, loads_head]
  · have hne : (contents == other) = false := beq_false_of_ne h
    simp only [Python.loads, List.lookup_cons, hne, BEq.rfl, Option.map_some]

theorem bytes_replicate (n : Nat) (c : CodePoint) :
    Text.bytes (List.replicate n c) = n * c.utf8Size := by
  simp [Text.bytes]

theorem quotedSize_replicate (n : Nat) (c : CodePoint) :
    Json.quotedSize (List.replicate n c) = 2 + n * Json.escapedSize c := by
  simp [Json.quotedSize]

theorem bytes_accented : Text.bytes accented.task = 65536 := bytes_replicate 32768 _

theorem normal_accented : accented.Normal where
  jobId_strip := by decide
  jobId := by decide
  provider := by decide
  task_strip := Text.strip_ne_nil (List.mem_replicate.mpr ⟨by decide, rfl⟩) (by decide)
  task := by
    have hclean : accented.task.any CodePoint.isSurrogate = false := by
      rw [List.any_eq_false]
      intro c hc
      rw [List.eq_of_mem_replicate hc]
      decide
    refine ⟨65536, ?_, by decide⟩
    rw [Text.encodedSize, hclean, if_neg Bool.false_ne_true, ← bytes_accented]
    rfl
  repository_strip := by decide
  repository_ne := by decide
  repository := by decide
  baseRef := ⟨by decide, by decide⟩
  branch := nofun
  timeoutSeconds := by decide
  maxAttempts := by decide
  priority := by decide
  model := nofun
  publicTitle := nofun
  successCriteria := ⟨by decide, nofun⟩
  constraints := ⟨by decide, nofun⟩

theorem bytes_accentedFile : accentedFile.bytes ≤ MAX_JOB_BYTES := by
  rw [accentedFile]
  repeat rw [text_ofList]
  simp only [Text.bytes_append, bytes_accented]
  decide

theorem size_accented : accented.size > MAX_JOB_BYTES := by
  have htask : Json.quotedSize accented.task = 196610 :=
    (quotedSize_replicate 32768 _).trans (by decide)
  have hle : Json.quotedSize accented.task ≤ accented.size := by
    rw [Job.size]
    omega
  rw [htask] at hle
  exact lt_of_lt_of_le (by decide) hle

end Sample

theorem survives_iff_dispatched :
    letI := Sample.python [(payload Sample.dispatched, Sample.dispatched)]
    (∃ queue, enqueue Fleet.PROVIDERS Sample.empty (text "job.json") (payload Sample.dispatched) =
      .ok (Sample.dispatched, queue) ∧ Survives Fleet.PROVIDERS queue Sample.dispatched) ∧
    Dispatcher.jobFor Sample.item (text "apostille-me/site") = .ok Sample.dispatched ∧
    Survives Fleet.PROVIDERS
      (Dispatcher.queueJob Sample.dispatched (fun _ => Sample.empty) (text "anthropic"))
      Sample.dispatched := by
  let := Sample.python [(payload Sample.dispatched, Sample.dispatched)]
  have hloads : Python.loads (payload Sample.dispatched) = some (.dict Sample.dispatched.asdict) :=
    Sample.loads_head _ _ []
  have hjob : Dispatcher.jobFor Sample.item (text "apostille-me/site") = .ok Sample.dispatched := by
    have hprovider : Dispatcher.providerOf Sample.item.sourceKey = text "anthropic" := by
      decide
    have hsuffix : Dispatcher.suffixOf Sample.item.version = text "0f5db5cf" := by
      decide
    rw [Dispatcher.jobFor_eq_ok_iff, hprovider, hsuffix]
    exact ⟨by decide, rfl⟩
  have hnormal := (Dispatcher.normal_jobFor_iff hjob).mpr Sample.readable_item
  have hqueued := enqueue_of_loads Fleet.PROVIDERS Sample.empty (text "job.json") hloads
    (bytes_payload Sample.dispatched ▸ Sample.size_dispatched) hnormal (by decide) rfl
  obtain ⟨hoperator, hdispatcher⟩ := survives_iff Fleet.PROVIDERS
  refine ⟨⟨_, hqueued, ?_⟩, hjob, ?_⟩
  · exact (hoperator _ _ _ _ _ hqueued hloads).mpr (.inr Sample.size_dispatched)
  · exact (hdispatcher _ _ _ _ hjob rfl hloads).mpr
      ⟨by decide, Sample.size_dispatched, Sample.readable_item⟩

/-- The runner refuses the file that was made from the operator's. -/
theorem enqueue_accented :
    letI := Sample.python [(Sample.accentedFile, Sample.accented),
      (payload Sample.accented, Sample.accented)]
    Python.loads (payload Sample.accented) = some (.dict Sample.accented.asdict) ∧
    ∃ queue, enqueue Fleet.PROVIDERS Sample.empty (text "job.json") Sample.accentedFile =
        .ok (Sample.accented, queue) ∧
      queue (text "accented.json") = some (payload Sample.accented) ∧
      readQueued Fleet.PROVIDERS (text "accented.json") (payload Sample.accented) =
        .error (.valueError (text "queue/accented.json exceeds the 131072-byte limit")) ∧
      ¬Survives Fleet.PROVIDERS queue Sample.accented := by
  let := Sample.python [(Sample.accentedFile, Sample.accented),
    (payload Sample.accented, Sample.accented)]
  have hqueued := enqueue_of_loads Fleet.PROVIDERS Sample.empty (text "job.json")
    (Sample.loads_head Sample.accentedFile _ _) Sample.bytes_accentedFile Sample.normal_accented
    (by decide) rfl
  have hname : fileName Sample.accented = text "accented.json" := by decide
  have hread : readQueued Fleet.PROVIDERS (text "accented.json") (payload Sample.accented) =
      .error (.valueError (text "queue/accented.json exceeds the 131072-byte limit")) := by
    have hlarge : (payload Sample.accented).bytes > MAX_JOB_BYTES :=
      bytes_payload Sample.accented ▸ Sample.size_accented
    have hmessage : text "queue/" ++ text "accented.json" ++ text " exceeds the " ++
        natText MAX_JOB_BYTES ++ text "-byte limit" =
          text "queue/accented.json exceeds the 131072-byte limit" := by decide
    rw [readQueued, loadJson, check, if_pos hlarge, hmessage]
    rfl
  refine ⟨Sample.loads_second _ _ _, _, hqueued, ?_, hread, ?_⟩
  · rw [hname, atomicWriteJson, Function.update_self, payload]
  · rintro ⟨contents, hcontents, hok⟩
    rw [hname, atomicWriteJson, Function.update_self] at hcontents
    obtain rfl := Option.some.inj hcontents
    rw [hname] at hok
    cases hread.symm.trans hok

end ControlPlane.Fleet
