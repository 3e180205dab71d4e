import ControlPlane.Hooks.Payload
import ControlPlane.Runtime.Wire

/-! The envelope of a hook as the adapter builds and posts it, and as the daemon reads it. -/

namespace ControlPlane.Hooks

open Fleet (CodePoint Text Json Dict text)
open ControlPlane.Runtime (HookNumber RuntimeAgentRef RuntimeHookEnvelope RuntimeHookKind)
open Serde (Value Codec Field Fields)

structure Resources where
  cpuPercent : Option F64 := none
  rssBytes : Option Nat := none
  memoryPercent : Option F64 := none
  deriving DecidableEq, Repr

structure HookEnvelope where
  eventId : Uuid
  occurredAt : DateTime
  agentId : Text
  provider : Text
  model : Text
  instanceId : Option Text
  kind : RuntimeHookKind
  summary : Text
  controlCapable : Bool
  inputTokensDelta : Nat
  outputTokensDelta : Nat
  adapter : Text
  nativeEvent : Text
  hostOs : Text
  sessionId : Option Text
  pid : Option Nat
  toolName : Option Text
  resources : Resources
  deriving DecidableEq, Repr

structure Circumstances where
  now : DateTime
  uuid4 : Uuid
  pid : Option Nat
  resources : Resources

/-- What a mapping has to say; it leaves out what keeps its default. -/
structure Report where
  provider : Text
  agentId : Text
  model : Text
  sessionId : Option Text
  instanceId : Option Text := none
  kind : RuntimeHookKind
  summary : Text
  nativeEvent : Text
  toolName : Option Text := none
  eventId : Option Uuid := none
  inputTokensDelta : Nat := 0
  outputTokensDelta : Nat := 0
  controlCapable : Bool := false

section Build

variable [Python] (settings : Settings) (circumstances : Circumstances)

def baseEnvelope (report : Report) : HookEnvelope where
  eventId := report.eventId.getD circumstances.uuid4
  occurredAt := circumstances.now
  agentId := identifier (some (.str report.agentId)) (report.provider ++ text ":unidentified")
  provider := report.provider
  model := identifier (some (.str report.model)) (text "unreported")
  instanceId := (Settings.isSet report.instanceId).map fun instanceId =>
    identifier (some (.str instanceId)) (text "unreported")
  kind := report.kind
  summary := report.summary.take 4096
  controlCapable := report.controlCapable
  inputTokensDelta := report.inputTokensDelta
  outputTokensDelta := report.outputTokensDelta
  adapter := report.provider ++ text "-native"
  nativeEvent := identifier (some (.str report.nativeEvent)) (text "unknown")
  hostOs := identifier (some (.str settings.platform)) (text "unknown")
  sessionId := (Settings.isSet report.sessionId).map fun sessionId =>
    identifier (some (.str sessionId)) (text "unreported")
  pid := circumstances.pid.filter fun pid => 0 < pid
  toolName := (Settings.isSet report.toolName).map fun toolName =>
    identifier (some (.str toolName)) (text "unknown-tool")
  resources := circumstances.resources

end Build

class HookText [WireText] where
  /-- The instants of Python's clock. -/
  IsDatetime : DateTime → Prop
  isoformat : DateTime → String
  parse_isoformat : ∀ {t}, IsDatetime t → WireText.parseInstant (isoformat t) = some t

section Wire

variable {N : Type}

def optionalEntry {A : Type} (name : String) (write : A → Value N) (value : Option A) :
    List (String × Value N) :=
  (value.map fun value => (name, write value)).toList

theorem lookup_optionalEntry {A : Type} (name : String) (write : A → Value N) (value : Option A)
    (key : String) :
    (optionalEntry name write value).lookup key =
      if key = name then value.map write else none := by
  cases value with
  | none => simp [optionalEntry]
  | some value =>
    by_cases h : key = name
    · simp [optionalEntry, h]
    · simp [optionalEntry, h]

theorem keys_optionalEntry {A : Type} (name : String) (write : A → Value N) (value : Option A) :
    ((optionalEntry name write value).map Prod.fst).Sublist [name] := by
  cases value with
  | none => exact List.nil_sublist _
  | some value => exact List.Sublist.refl _

def written (t : Text) : Value N := .string t.asString

namespace HookEnvelope

variable (envelope : HookEnvelope)

def agentEntries : List (String × Value N) :=
  [("agent_id", written envelope.agentId), ("provider", written envelope.provider),
    ("model", written envelope.model)] ++ optionalEntry "instance_id" written envelope.instanceId

def metadataEntries : List (String × String) :=
  [("adapter", envelope.adapter.asString), ("native_event", envelope.nativeEvent.asString),
    ("host_os", envelope.hostOs.asString)]

theorem decode_unsigned [HookNumber N] {bound : Nat} (hbound : bound ≤ 2 ^ 64) (n : Nat) :
    (Wire.unsigned bound hbound : Codec N Nat).decode (.number (WireNumber.ofNat n)) =
      if n < bound then some n else none := by
  change (WireNumber.toU64 (WireNumber.ofNat n : N)).filter (· < bound) = _
  split
  · next h =>
    rw [WireNumber.toU64_ofNat (h.trans_le hbound), Option.filter_some, if_pos (decide_eq_true h)]
  · next h =>
    refine Option.filter_eq_none_iff.2 ?_
    intro m hm
    rw [HookNumber.eq_of_toU64 hm]
    simpa using h

theorem read_optional_unsigned [HookNumber N] {bound : Nat} (hbound : bound ≤ 2 ^ 64)
    {name : String} (hnull : (Wire.unsigned bound hbound : Codec N Nat).decode .null = none)
    (hrebuild : ∀ n, (Wire.unsigned bound hbound : Codec N Nat).rebuild n = n)
    (value : Option Nat) :
    (Field.optional name _ hnull hrebuild).read
        (value.map fun n => .number (WireNumber.ofNat n)) =
      if value.all (· < bound) then some value else none := by
  cases value with
  | none => rfl
  | some n =>
    have hwritten : (Value.number (WireNumber.ofNat n) : Value N) ≠ .null := nofun
    rw [Option.map_some, Field.read_optional_some hwritten, decode_unsigned]
    simp only [Option.all_some, decide_eq_true_eq]
    split <;> rfl

def fits : Bool :=
  envelope.inputTokensDelta < 2 ^ 64 && envelope.outputTokensDelta < 2 ^ 64 &&
    envelope.pid.all (· < 2 ^ 32) && envelope.resources.rssBytes.all (· < 2 ^ 64)

def names : List String :=
  ["protocol_version", "event_id", "occurred_at", "agent", "kind", "summary", "control_capable",
    "input_tokens_delta", "output_tokens_delta", "metadata", "session_id", "pid", "tool_name",
    "cpu_percent", "rss_bytes", "memory_percent"]

theorem names_subset : names ⊆
    ["protocol_version", "event_id", "occurred_at", "agent", "session_id", "pid", "kind",
      "control_capable", "summary", "tool_name", "confidence", "cpu_percent", "rss_bytes",
      "memory_percent", "input_tokens_delta", "output_tokens_delta", "metadata"] := by
  decide

variable [HookNumber N]

open Runtime.HookNumber (ofF64 toF64)

variable (N) in
def hook : RuntimeHookEnvelope where
  protocolVersion := "v1"
  eventId := envelope.eventId
  occurredAt := envelope.occurredAt
  agent := ⟨envelope.agentId.asString, envelope.provider.asString, envelope.model.asString,
    envelope.instanceId.map Text.asString⟩
  sessionId := envelope.sessionId.map Text.asString
  pid := envelope.pid
  kind := envelope.kind
  controlCapable := envelope.controlCapable
  summary := some envelope.summary.asString
  toolName := envelope.toolName.map Text.asString
  confidence := none
  cpuPercent := envelope.resources.cpuPercent.map fun x => toF64 (ofF64 x : N)
  rssBytes := envelope.resources.rssBytes
  memoryPercent := envelope.resources.memoryPercent.map fun x => toF64 (ofF64 x : N)
  inputTokensDelta := envelope.inputTokensDelta
  outputTokensDelta := envelope.outputTokensDelta
  metadata := BTreeMap.canonical (Std.TreeMap.ofList envelope.metadataEntries)

theorem decode_agent : (RuntimeAgentRef.codec : Codec N _).decode (.object envelope.agentEntries) =
    some (envelope.hook N).agent := by
  have hkeys : ((envelope.agentEntries : List (String × Value N)).map Prod.fst).Sublist
      ["agent_id", "provider", "model", "instance_id"] := by
    rw [agentEntries, List.map_append]
    exact List.Sublist.append (List.Sublist.refl _) (keys_optionalEntry _ _ _)
  have hinstance : envelope.agentEntries.lookup "instance_id" =
      envelope.instanceId.map (written : Text → Value N) := by
    simp [agentEntries, lookup_optionalEntry, List.lookup_cons]
  let agent := (envelope.hook N).agent
  refine Option.map_eq_some_iff.2
    ⟨(agent.agentId, agent.provider, agent.model, agent.instanceId, ()), ?_, rfl⟩
  rw [Fields.read_object _ _ hkeys (by decide) (List.Subset.refl _)]
  refine Fields.decode_cons_eq_some.2 ⟨rfl, ?_⟩
  refine Fields.decode_cons_eq_some.2 ⟨rfl, ?_⟩
  refine Fields.decode_cons_eq_some.2 ⟨rfl, ?_⟩
  refine Fields.decode_cons_eq_some.2 ⟨?_, rfl⟩
  exact (congrArg _ hinstance).trans (Field.read_optional_map fun _ _ => rfl)

variable [WireText] [HookText]

def entries : List (String × Value N) :=
  [("protocol_version", .string "v1"),
    ("event_id", .string (WireText.displayUuid envelope.eventId)),
    ("occurred_at", .string (HookText.isoformat envelope.occurredAt)),
    ("agent", .object envelope.agentEntries),
    ("kind", .string envelope.kind.wireName),
    ("summary", written envelope.summary),
    ("control_capable", .bool envelope.controlCapable),
    ("input_tokens_delta", .number (WireNumber.ofNat envelope.inputTokensDelta)),
    ("output_tokens_delta", .number (WireNumber.ofNat envelope.outputTokensDelta)),
    ("metadata", .object (envelope.metadataEntries.map fun entry => (entry.1, .string entry.2)))] ++
  (optionalEntry "session_id" written envelope.sessionId ++
  optionalEntry "pid" (fun pid => .number (WireNumber.ofNat pid)) envelope.pid ++
  optionalEntry "tool_name" written envelope.toolName ++
  optionalEntry "cpu_percent" (fun x => .number (ofF64 x)) envelope.resources.cpuPercent ++
  optionalEntry "rss_bytes" (fun n => .number (WireNumber.ofNat n)) envelope.resources.rssBytes ++
  optionalEntry "memory_percent" (fun x => .number (ofF64 x)) envelope.resources.memoryPercent)

def value : Value N := .object envelope.entries

theorem keys_entries :
    ((envelope.entries : List (String × Value N)).map Prod.fst).Sublist names := by
  rw [entries, List.map_append, List.map_append, List.map_append, List.map_append, List.map_append,
    List.map_append]
  refine List.Sublist.append (List.Sublist.refl _) ?_
  exact (((((keys_optionalEntry _ _ _).append (keys_optionalEntry _ _ _)).append
    (keys_optionalEntry _ _ _)).append (keys_optionalEntry _ _ _)).append
    (keys_optionalEntry _ _ _)).append (keys_optionalEntry _ _ _)

theorem lookup_entries :
    envelope.entries.lookup "session_id" = envelope.sessionId.map (written : Text → Value N) ∧
    envelope.entries.lookup "pid" =
      envelope.pid.map (fun pid => (.number (WireNumber.ofNat pid) : Value N)) ∧
    envelope.entries.lookup "tool_name" = envelope.toolName.map (written : Text → Value N) ∧
    (envelope.entries : List (String × Value N)).lookup "confidence" = none ∧
    envelope.entries.lookup "cpu_percent" =
      envelope.resources.cpuPercent.map (fun x => (.number (ofF64 x) : Value N)) ∧
    envelope.entries.lookup "rss_bytes" =
      envelope.resources.rssBytes.map (fun n => (.number (WireNumber.ofNat n) : Value N)) ∧
    envelope.entries.lookup "memory_percent" =
      envelope.resources.memoryPercent.map (fun x => (.number (ofF64 x) : Value N)) := by
  simp [entries, List.lookup_append, lookup_optionalEntry, List.lookup_cons]

theorem decode_of_fits (hclock : HookText.IsDatetime envelope.occurredAt)
    (hfits : envelope.fits = true) :
    (RuntimeHookEnvelope.codec : Codec N _).decode envelope.value = some (envelope.hook N) := by
  obtain ⟨hsession, hpid, htool, hconfidence, hcpu, hrss, hmemory⟩ :=
    lookup_entries (N := N) envelope
  simp only [fits, Bool.and_eq_true, decide_eq_true_eq] at hfits
  obtain ⟨⟨⟨hinput, houtput⟩, hpidFits⟩, hrssFits⟩ := hfits
  let hook := envelope.hook N
  refine Option.map_eq_some_iff.2
    ⟨(hook.protocolVersion, hook.eventId, hook.occurredAt, hook.agent, hook.sessionId, hook.pid,
      hook.kind, hook.controlCapable, hook.summary, hook.toolName, hook.confidence,
      hook.cpuPercent, hook.rssBytes, hook.memoryPercent, hook.inputTokensDelta,
      hook.outputTokensDelta, hook.metadata, ()), ?_, rfl⟩
  rw [value, Fields.read_object _ _ envelope.keys_entries (by decide) names_subset]
  refine Fields.decode_cons_eq_some.2 ⟨rfl, ?_⟩
  refine Fields.decode_cons_eq_some.2 ⟨WireText.parse_displayUuid _, ?_⟩
  refine Fields.decode_cons_eq_some.2 ⟨HookText.parse_isoformat hclock, ?_⟩
  refine Fields.decode_cons_eq_some.2 ⟨envelope.decode_agent, ?_⟩
  refine Fields.decode_cons_eq_some.2
    ⟨(congrArg _ hsession).trans (Field.read_optional_map fun _ _ => rfl), ?_⟩
  refine Fields.decode_cons_eq_some.2
    ⟨(congrArg _ hpid).trans ((read_optional_unsigned _ _ _ _).trans (if_pos hpidFits)), ?_⟩
  refine Fields.decode_cons_eq_some.2 ⟨Codec.decode_encode RuntimeHookKind.codec trivial, ?_⟩
  refine Fields.decode_cons_eq_some.2 ⟨rfl, ?_⟩
  refine Fields.decode_cons_eq_some.2 ⟨rfl, ?_⟩
  refine Fields.decode_cons_eq_some.2
    ⟨(congrArg _ htool).trans (Field.read_optional_map fun _ _ => rfl), ?_⟩
  refine Fields.decode_cons_eq_some.2 ⟨congrArg _ hconfidence, ?_⟩
  refine Fields.decode_cons_eq_some.2
    ⟨(congrArg _ hcpu).trans (Field.read_optional_map fun _ _ => rfl), ?_⟩
  refine Fields.decode_cons_eq_some.2
    ⟨(congrArg _ hrss).trans ((read_optional_unsigned _ _ _ _).trans (if_pos hrssFits)), ?_⟩
  refine Fields.decode_cons_eq_some.2
    ⟨(congrArg _ hmemory).trans (Field.read_optional_map fun _ _ => rfl), ?_⟩
  refine Fields.decode_cons_eq_some.2 ⟨(decode_unsigned le_rfl _).trans (if_pos hinput), ?_⟩
  refine Fields.decode_cons_eq_some.2 ⟨(decode_unsigned le_rfl _).trans (if_pos houtput), ?_⟩
  exact Fields.decode_cons_eq_some.2 ⟨rfl, rfl⟩

theorem counts_of_decode {hook : RuntimeHookEnvelope}
    (h : (RuntimeHookEnvelope.codec : Codec N _).decode envelope.value = some hook) :
    envelope.fits = true ∧ hook.agent.agentId = envelope.agentId.asString ∧
      hook.inputTokensDelta = envelope.inputTokensDelta ∧
      hook.outputTokensDelta = envelope.outputTokensDelta := by
  obtain ⟨-, hpid, -, -, -, hrss, -⟩ := lookup_entries (N := N) envelope
  obtain ⟨members, hread, rfl⟩ := Option.map_eq_some_iff.1 h
  rw [value, Fields.read_object _ _ envelope.keys_entries (by decide) names_subset] at hread
  iterate 3 replace hread := (Fields.decode_cons_eq_some.1 hread).2
  have hagent := envelope.decode_agent.symm.trans (Fields.decode_cons_eq_some.1 hread).1
  iterate 2 replace hread := (Fields.decode_cons_eq_some.1 hread).2
  have hpidRead := (congrArg _ hpid).symm.trans (Fields.decode_cons_eq_some.1 hread).1
  iterate 7 replace hread := (Fields.decode_cons_eq_some.1 hread).2
  have hrssRead := (congrArg _ hrss).symm.trans (Fields.decode_cons_eq_some.1 hread).1
  iterate 2 replace hread := (Fields.decode_cons_eq_some.1 hread).2
  have hinput : (Wire.u64 : Codec N Nat).decode (.number (WireNumber.ofNat _)) = some _ :=
    (Fields.decode_cons_eq_some.1 hread).1
  replace hread := (Fields.decode_cons_eq_some.1 hread).2
  have houtput : (Wire.u64 : Codec N Nat).decode (.number (WireNumber.ofNat _)) = some _ :=
    (Fields.decode_cons_eq_some.1 hread).1
  rw [Wire.u64, decode_unsigned, Option.ite_none_right_eq_some] at hinput houtput
  erw [read_optional_unsigned, Option.ite_none_right_eq_some] at hpidRead hrssRead
  refine ⟨?_, ?_, ?_, ?_⟩
  · simp only [fits, Bool.and_eq_true, decide_eq_true_eq]
    exact ⟨⟨⟨hinput.1, houtput.1⟩, hpidRead.1⟩, hrssRead.1⟩
  · exact congrArg RuntimeAgentRef.agentId (Option.some.inj hagent).symm
  · exact (Option.some.inj hinput.2).symm
  · exact (Option.some.inj houtput.2).symm

/-- The daemon reads what the adapter says, or a number is too large for it. -/
theorem decode_value (hclock : HookText.IsDatetime envelope.occurredAt) :
    (RuntimeHookEnvelope.codec : Codec N _).decode envelope.value =
      if envelope.fits then some (envelope.hook N) else none := by
  split
  · next hfits => exact envelope.decode_of_fits hclock hfits
  · next hfits =>
    refine Option.eq_none_iff_forall_ne_some.2 ?_
    exact fun hook h => hfits (envelope.counts_of_decode h).1

end HookEnvelope

end Wire

end ControlPlane.Hooks
