import ControlPlane.Provider.Adapter

/-! The privacy boundary of the adapters: no envelope comes from a payload that names hidden
reasoning anywhere. -/

namespace ControlPlane.Provider

open Serde (Value Deserialize)
open Serde.Value (EntriesHaveKey)

def EqIgnoreAsciiCase (left right : String) : Prop :=
  toAsciiLowercase left = toAsciiLowercase right

def Forbidden (key : String) : Prop :=
  ∃ name ∈ FORBIDDEN_REASONING_KEYS, EqIgnoreAsciiCase key name

/-- Some key of the value, at whatever depth, is a name of hidden reasoning. -/
def NamesHiddenReasoning {N : Type} (value : Value N) : Prop :=
  ∃ key, value.HasKey key ∧ Forbidden key

theorem forbidden_iff {key : String} :
    Forbidden key ↔ toAsciiLowercase key ∈ FORBIDDEN_REASONING_KEYS := by
  have hlower : ∀ name ∈ FORBIDDEN_REASONING_KEYS, toAsciiLowercase name = name := by decide
  constructor
  · intro h
    obtain ⟨name, hname, heq⟩ := h
    rw [EqIgnoreAsciiCase, hlower name hname] at heq
    rwa [heq]
  · intro h
    exact ⟨_, h, (hlower _ h).symm⟩

/-- The screen of some keys stops at a forbidden one of them, or there is none and it passes. -/
inductive Verdict (keys : String → Prop) : Except AdapterError Unit → Prop
  | stopped {key : String} (hkey : keys key) (hforbidden : Forbidden key) :
    Verdict keys (.error (.forbiddenReasoningField key))
  | passed (hclean : ∀ key, keys key → ¬Forbidden key) : Verdict keys (.ok ())

namespace Verdict

variable {keys others : String → Prop} {screen rest : Except AdapterError Unit}

theorem congr (h : Verdict keys screen) (hkeys : ∀ key, keys key ↔ others key) :
    Verdict others screen := by
  cases h with
  | stopped hkey hforbidden => exact .stopped ((hkeys _).1 hkey) hforbidden
  | passed hclean => exact .passed fun key hkey => hclean key ((hkeys key).2 hkey)

theorem seq (h : Verdict keys screen) (hrest : Verdict others rest) :
    Verdict (fun key => keys key ∨ others key) (screen >>= fun _ => rest) := by
  cases h with
  | stopped hkey hforbidden => exact .stopped (.inl hkey) hforbidden
  | passed hclean =>
    cases hrest with
    | stopped hkey hforbidden => exact .stopped (.inr hkey) hforbidden
    | passed hcleanRest =>
      apply Verdict.passed
      intro key hkey
      exact hkey.elim (hclean key) (hcleanRest key)

theorem entry (h : Verdict keys screen) (name : String) :
    Verdict (fun key => name = key ∨ keys key)
      (if toAsciiLowercase name ∈ FORBIDDEN_REASONING_KEYS then
        .error (.forbiddenReasoningField name) else screen) := by
  split
  · next hin => exact .stopped (.inl rfl) (forbidden_iff.2 hin)
  · next hout =>
    cases h with
    | stopped hkey hforbidden => exact .stopped (.inr hkey) hforbidden
    | passed hclean =>
      apply Verdict.passed
      intro key hkey
      cases hkey with
      | inl hname => exact hname ▸ mt forbidden_iff.1 hout
      | inr hkey => exact hclean key hkey

end Verdict

section Screen

variable {N : Type}

theorem verdict_rejectEntries {values : List (String × Value N)}
    (h : ∀ entry ∈ values, Verdict (fun key => entry.2.HasKey key)
      (rejectHiddenReasoning entry.2)) :
    Verdict (fun key => EntriesHaveKey key values) (rejectEntries values) := by
  induction values with
  | nil =>
    apply Verdict.passed
    intro key hkey
    obtain ⟨entry, hentry, -⟩ := hkey
    cases hentry
  | cons entry values ih =>
    rw [List.forall_mem_cons] at h
    have hrest := (h.1.seq (ih h.2)).entry entry.1
    exact hrest.congr fun key => Value.entriesHaveKey_cons_iff.symm

theorem verdict_rejectElements {values : List (Value N)}
    (h : ∀ nested ∈ values, Verdict (fun key => nested.HasKey key)
      (rejectHiddenReasoning nested)) :
    Verdict (fun key => ∃ nested ∈ values, nested.HasKey key) (rejectElements values) := by
  induction values with
  | nil =>
    apply Verdict.passed
    intro key hkey
    obtain ⟨nested, hnested, -⟩ := hkey
    cases hnested
  | cons nested values ih =>
    rw [List.forall_mem_cons] at h
    exact (h.1.seq (ih h.2)).congr fun key => (List.exists_mem_cons_iff _ _ _).symm

theorem verdict_rejectHiddenReasoning (value : Value N) :
    Verdict (fun key => value.HasKey key) (rejectHiddenReasoning value) := by
  induction value using Value.induction with
  | object values ih =>
    exact (verdict_rejectEntries ih).congr fun key => Value.hasKey_object_iff.symm
  | array values ih =>
    exact (verdict_rejectElements ih).congr fun key => Value.hasKey_array_iff.symm
  | _ =>
    apply Verdict.passed
    intro key hkey
    cases hkey

example : rejectHiddenReasoning (N := Nat)
    (.object [("context", .array [.null, .object [("ScratchPad", .string "private")]])]) =
      .error (.forbiddenReasoningField "ScratchPad") := rfl

/-- An adapter that reports a forbidden field exactly if the payload has one, and reports it
before anything else that is wrong with the payload. -/
structure Screens (normalizer : Origin → Value N → Except AdapterError EventEnvelope) : Prop where
  exact : ∀ origin value, (∃ field, normalizer origin value =
    .error (.forbiddenReasoningField field)) ↔ NamesHiddenReasoning value
  named : ∀ origin value field, normalizer origin value =
    .error (.forbiddenReasoningField field) → value.HasKey field ∧ Forbidden field
  clean : ∀ origin value envelope, normalizer origin value = .ok envelope →
    ¬NamesHiddenReasoning value
  precedes : ∀ origin value message, normalizer origin value = .error (.invalidPayload message) →
    ¬NamesHiddenReasoning value

variable {T : Type} [Deserialize N T] {provider : ProviderKind}
  {parts : T → String × AdapterContext × ObservableAgentUpdate} {origin : Origin}

theorem adapt_of_stopped {value : Value N} {error : AdapterError}
    (h : rejectHiddenReasoning value = .error error) :
    adapt provider parts origin value = .error error := by
  rw [adapt, h]
  rfl

theorem adapt_of_passed {value : Value N} (h : rejectHiddenReasoning value = .ok ())
    (field : String) :
    adapt provider parts origin value ≠ .error (.forbiddenReasoningField field) := by
  rw [adapt, h]
  cases (Deserialize.fromValue value : Except String T) with
  | error message =>
    intro heq
    cases heq
  | ok observation =>
    intro heq
    cases heq

theorem adapt_cases (provider : ProviderKind)
    (parts : T → String × AdapterContext × ObservableAgentUpdate) (origin : Origin)
    (value : Value N) :
    (∃ field, value.HasKey field ∧ Forbidden field ∧
      adapt provider parts origin value = .error (.forbiddenReasoningField field)) ∨
    ¬NamesHiddenReasoning value ∧
      ∀ field, adapt provider parts origin value ≠ .error (.forbiddenReasoningField field) := by
  have hverdict := verdict_rejectHiddenReasoning value
  cases hscreen : rejectHiddenReasoning value with
  | error error =>
    rw [hscreen] at hverdict
    cases hverdict with
    | stopped hkey hforbidden => exact .inl ⟨_, hkey, hforbidden, adapt_of_stopped hscreen⟩
  | ok u =>
    rw [hscreen] at hverdict
    cases hverdict with
    | passed hclean =>
      refine .inr ⟨?_, adapt_of_passed hscreen⟩
      intro h
      obtain ⟨key, hkey, hforbidden⟩ := h
      exact hclean key hkey hforbidden

theorem clean_of_unreported (provider : ProviderKind)
    (parts : T → String × AdapterContext × ObservableAgentUpdate) (origin : Origin)
    {value : Value N} (h : ∀ field,
      adapt provider parts origin value ≠ .error (.forbiddenReasoningField field)) :
    ¬NamesHiddenReasoning value := by
  cases adapt_cases provider parts origin value with
  | inl hstopped =>
    obtain ⟨field, -, -, hreported⟩ := hstopped
    exact absurd hreported (h field)
  | inr hpassed => exact hpassed.1

theorem screens_adapt (provider : ProviderKind)
    (parts : T → String × AdapterContext × ObservableAgentUpdate) :
    Screens (N := N) (adapt provider parts) where
  exact origin value := by
    cases adapt_cases provider parts origin value with
    | inl h =>
      obtain ⟨field, hkey, hforbidden, heq⟩ := h
      exact iff_of_true ⟨field, heq⟩ ⟨field, hkey, hforbidden⟩
    | inr h =>
      refine iff_of_false ?_ h.1
      intro hreported
      obtain ⟨field, heq⟩ := hreported
      exact h.2 field heq
  named origin value field heq := by
    cases adapt_cases provider parts origin value with
    | inl h =>
      obtain ⟨key, hkey, hforbidden, hreported⟩ := h
      rw [hreported, Except.error.injEq, AdapterError.forbiddenReasoningField.injEq] at heq
      exact heq ▸ ⟨hkey, hforbidden⟩
    | inr h => exact absurd heq (h.2 field)
  clean origin value envelope heq := by
    refine clean_of_unreported provider parts origin ?_
    intro field hreported
    rw [hreported] at heq
    cases heq
  precedes origin value message heq := by
    refine clean_of_unreported provider parts origin ?_
    intro field hreported
    rw [hreported] at heq
    cases heq

end Screen

/-- Whatever the payload and however it would be read, each adapter reports a forbidden reasoning
field exactly if one of the keys in the payload is such a name, up to the case of ASCII letters. -/
theorem hidden_reasoning_screened (N : Type) [Deserialize N OpenAiObservation]
    [Deserialize N AnthropicObservation] [Deserialize N GeminiObservation] :
    Screens (normalizeOpenai : Origin → Value N → _) ∧
      Screens (normalizeAnthropic : Origin → Value N → _) ∧
      Screens (normalizeGemini : Origin → Value N → _) :=
  ⟨screens_adapt _ _, screens_adapt _ _, screens_adapt _ _⟩

end ControlPlane.Provider
