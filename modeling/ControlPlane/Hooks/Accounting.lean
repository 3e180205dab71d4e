import ControlPlane.Hooks.Proxy

/-! The tokens of a thread: what the daemon counts against what the app server told. -/

namespace ControlPlane.Hooks

open Cumulative (latest level Grows reported)
open Fleet (CodePoint Text Json Dict text)
open ControlPlane.Runtime (HookNumber RuntimeHookEnvelope RuntimeConfig RuntimeMonitor RuntimeState
  Accounted total)

section Owed

variable (side : Side) (agentId : String)

@[simp] theorem owed_nil : owed side agentId [] = 0 := rfl

@[simp] theorem owed_append (dues dues' : List (String × Totals)) :
    owed side agentId (dues ++ dues') = owed side agentId dues + owed side agentId dues' := by
  simp only [owed, List.filter_append, List.map_append, List.sum_append]

@[simp] theorem owed_cons (due : String × Totals) (dues : List (String × Totals)) :
    owed side agentId (due :: dues) =
      (if due.1 = agentId then side.of due.2 else 0) + owed side agentId dues := by
  simp only [owed, List.filter_cons, decide_eq_true_eq]
  split
  · rw [List.map_cons, List.sum_cons]
  · rw [Nat.zero_add]

theorem owed_eraseIdx {dues : List (String × Totals)} {position : Nat} {due : String × Totals}
    (h : dues[position]? = some due) :
    owed side agentId dues =
      (if due.1 = agentId then side.of due.2 else 0) +
        owed side agentId (dues.eraseIdx position) := by
  obtain ⟨hlt, rfl⟩ := List.getElem?_eq_some_iff.1 h
  have hperm := (List.getElem_cons_eraseIdx_perm hlt).symm
  rw [← owed_cons]
  exact List.Perm.sum_eq ((hperm.filter _).map _)

theorem owed_eq_zero_iff {dues : List (String × Totals)} :
    owed side agentId dues = 0 ↔ ∀ due ∈ dues, due.1 = agentId → side.of due.2 = 0 := by
  simp only [owed, List.sum_eq_zero_iff, List.mem_map, List.mem_filter, decide_eq_true_eq]
  constructor
  · exact fun h due hmem hagent => h _ ⟨due, ⟨hmem, hagent⟩, rfl⟩
  · rintro h _ ⟨due, ⟨hmem, hagent⟩, rfl⟩
    exact h due hmem hagent

end Owed

theorem total_concat_side (side : Side) (hooks : List RuntimeHookEnvelope)
    (hook : RuntimeHookEnvelope) (agentId : String) :
    total side.delta (hooks ++ [hook]) agentId = total side.delta hooks agentId +
      if hook.agent.agentId = agentId then side.delta hook else 0 := by
  rw [Runtime.total_concat]
  simp only [eq_comm (a := agentId)]

section Map

variable [Python] (settings : Settings) (circumstances : Circumstances)

section Host

variable [LawfulPython]

theorem identifier_host : identifier (some (.str (text "host"))) (text "host") = text "host" := by
  have hascii : (text "host").all (fun c => c.val < 0x80 && c.isAlnum) = true := by decide +kernel
  have hsafe : ∀ c ∈ text "host", isSafe c = true := by
    intro c hc
    have hc := List.all_eq_true.1 hascii c hc
    rw [Bool.and_eq_true, decide_eq_true_eq] at hc
    rw [isSafe, LawfulPython.isalnum_ascii c hc.1, hc.2, Bool.true_or]
  have htext : textOf (some (.str (text "host"))) = some (text "host") := rfl
  rw [identifier, htext]
  dsimp only
  rw [List.filter_eq_self.2 hsafe]
  rfl

/-- Without a thread the totals are kept under the name that its agent gets anyway. -/
theorem agentOf_threadKey (params : Dict) :
    agentOf settings (threadKey params) =
      (identifier (some (.str (settings.overrideAgentId (text "codex") (threadId params))))
        (text "openai:unidentified")).asString := by
  rw [agentOf, threadKey]
  cases threadId params with
  | some key => rfl
  | none =>
    have hid : settings.overrideAgentId (text "codex") (some (text "host")) =
        settings.overrideAgentId (text "codex") none := by
      unfold Settings.overrideAgentId
      split
      · rfl
      · exact congrArg _ identifier_host
    rw [Option.getD_none, hid]

end Host

theorem tokenUsage_ok [LawfulPython] {method : Text} {params : Dict} {previous totals : Totals}
    {envelope : HookEnvelope}
    (h : tokenUsage settings circumstances method params previous totals = .ok envelope) :
    due envelope =
      (agentOf settings (threadKey params), totals.1 - previous.1, totals.2 - previous.2) := by
  rw [agentOf_threadKey]
  unfold tokenUsage at h
  obtain ⟨eventId, -, h⟩ := Check.bind_eq_ok_iff.1 h
  cases h
  rfl

theorem codexHook_ok {method : Text} {params : Dict} {envelope : HookEnvelope}
    (h : codexHook settings circumstances method params = .ok (some envelope)) :
    (due envelope).2 = (0, 0) := by
  unfold codexHook at h
  dsimp only at h
  split at h
  · cases h
  · obtain ⟨eventId, -, h⟩ := Check.bind_eq_ok_iff.1 h
    cases h
    rfl

theorem map_of_reading [LawfulPython] {payload : Dict} {key : Text} {totals : Totals}
    (h : readingOf payload = some (key, totals)) (tokenState : HashMap Text Totals) :
    ∃ result, mapCodexNotification settings circumstances tokenState payload =
        (tokenState.insert key totals, result) ∧
      ((∃ raised, result = .error raised) ∨ ∃ envelope, result = .ok (some envelope) ∧
        due envelope = (agentOf settings key,
          totals.1 - ((tokenState.get key).getD (0, 0)).1,
          totals.2 - ((tokenState.get key).getD (0, 0)).2)) := by
  unfold readingOf tokenReading at h
  unfold mapCodexNotification
  generalize textOf (payload.get "method") = method at h ⊢
  generalize payload.get "params" = params at h ⊢
  generalize text "thread/tokenUsage/updated" = usage at h ⊢
  match method, params with
  | some method, some (.dict params) =>
    dsimp only at h ⊢
    split at h
    · next reading hread =>
      subst h
      split at hread
      · next hmethod =>
        rw [if_pos hmethod]
        obtain ⟨found, hfound, hread⟩ := Check.bind_eq_ok_iff.1 hread
        cases found with
        | none => cases hread
        | some found =>
          cases hread
          rw [hfound]
          refine ⟨_, rfl, ?_⟩
          cases husage : tokenUsage settings circumstances method params
            ((tokenState.get (threadKey params)).getD (0, 0)) totals with
          | error raised => exact .inl ⟨raised, rfl⟩
          | ok envelope =>
            exact .inr ⟨envelope, rfl, tokenUsage_ok settings circumstances husage⟩
      · cases hread
    · cases h

theorem map_of_no_reading {payload : Dict} (h : readingOf payload = none)
    (tokenState : HashMap Text Totals) :
    ∃ result, mapCodexNotification settings circumstances tokenState payload =
        (tokenState, result) ∧
      ∀ envelope, result = .ok (some envelope) → (due envelope).2 = (0, 0) := by
  unfold readingOf tokenReading at h
  unfold mapCodexNotification
  generalize textOf (payload.get "method") = method at h ⊢
  generalize payload.get "params" = params at h ⊢
  generalize text "thread/tokenUsage/updated" = usage at h ⊢
  split
  · next method params =>
    split
    · next hmethod =>
      dsimp only at h
      rw [if_pos hmethod] at h
      cases hread : codexTokenTotals params with
      | error raised =>
        refine ⟨.error raised, rfl, ?_⟩
        intro envelope henvelope
        cases henvelope
      | ok totals =>
        cases totals with
        | none =>
          refine ⟨.ok none, rfl, ?_⟩
          intro envelope henvelope
          cases henvelope
        | some totals =>
          rw [hread] at h
          exact absurd h (Option.some_ne_none (threadKey params, totals))
    · refine ⟨codexHook settings circumstances method params, rfl, ?_⟩
      intro envelope henvelope
      exact codexHook_ok settings circumstances henvelope
  · refine ⟨.ok none, rfl, ?_⟩
    intro envelope henvelope
    cases henvelope

end Map

end ControlPlane.Hooks
