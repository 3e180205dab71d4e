import ControlPlane.Hooks.Accounting
import ControlPlane.Runtime.Resolution

/-! What every run keeps: the daemon's counters, the hooks on their way and what is lost balance
what the worker has seen. -/

namespace ControlPlane.Hooks

open Cumulative (latest level Grows reported)
open Fleet (CodePoint Text Json Dict text)
open ControlPlane.Runtime (HookNumber RuntimeHookEnvelope RuntimeConfig RuntimeMonitor RuntimeState
  Accounted total)

section Balance

variable [Python] (settings : Settings) (agentId : String)

def queued (event : Option Dict) : Option (Text × Totals) := event.bind readingOf

/-- What the daemon has counted for an agent, what is on its way and what is lost are together
what the worker has seen. -/
structure Balanced (record : List Mark) (bridge : Bridge) : Prop where
  accounted :
    Accounted bridge.monitor.config.hookCapacity (acceptedOf record) bridge.monitor.state
  kept : ∀ key, bridge.tokenState.get key = latest (takenOf record) key
  passed : (takenOf record ++ bridge.queue.filterMap queued).Sublist (notifiedOf record)
  balance : ∀ side : Side, Grows side.of (notifiedOf record) →
    total side.delta (acceptedOf record) agentId +
        owed side agentId (bridge.inFlight.map due) + owed side agentId (missingOf record) =
      reported side.of (fun key => agentOf settings key = agentId) (takenOf record)

def Spares (_ : Bridge) (op : Op) : Prop :=
  ∀ hook, op = .daemon (.ingestHook hook) → hook.agent.agentId ≠ agentId

theorem Balanced.new (config : RuntimeConfig) : Balanced settings agentId [] (.new config) where
  accounted := .new
  kept _ := rfl
  passed := List.Sublist.refl _
  balance _ _ := rfl

end Balance

section Append

variable (record marks : List Mark)

@[simp] theorem notifiedOf_append : notifiedOf (record ++ marks) =
    notifiedOf record ++ notifiedOf marks := List.filterMap_append

@[simp] theorem takenOf_append : takenOf (record ++ marks) = takenOf record ++ takenOf marks :=
  List.filterMap_append

@[simp] theorem acceptedOf_append : acceptedOf (record ++ marks) =
    acceptedOf record ++ acceptedOf marks := List.filterMap_append

@[simp] theorem missingOf_append : missingOf (record ++ marks) =
    missingOf record ++ missingOf marks := List.filterMap_append

end Append

namespace Balanced

variable [Python] {settings : Settings} {agentId : String} {record marks : List Mark}
  {bridge : Bridge}

theorem of_queue (h : Balanced settings agentId record bridge)
    {queue : List (Option Dict)} {working : Bool} (htaken : takenOf marks = [])
    (haccepted : acceptedOf marks = []) (hmissing : missingOf marks = [])
    (hpassed : (takenOf record ++ queue.filterMap queued).Sublist
      (notifiedOf record ++ notifiedOf marks)) :
    Balanced settings agentId (record ++ marks)
      { bridge with queue := queue, working := working } := by
  constructor
  · rw [acceptedOf_append, haccepted, List.append_nil]
    exact h.accounted
  · rw [takenOf_append, htaken, List.append_nil]
    exact h.kept
  · rw [takenOf_append, htaken, List.append_nil, notifiedOf_append]
    exact hpassed
  · intro side hgrows
    rw [notifiedOf_append] at hgrows
    rw [acceptedOf_append, haccepted, missingOf_append, hmissing, takenOf_append, htaken,
      List.append_nil, List.append_nil, List.append_nil]
    exact h.balance side (hgrows.sublist (List.sublist_append_left _ _))

theorem of_dropped (h : Balanced settings agentId record bridge) {event : Option Dict}
    {rest : List (Option Dict)} {working : Bool} (hqueue : bridge.queue = event :: rest) :
    Balanced settings agentId record { bridge with queue := rest, working := working } := by
  have hrest : (rest.filterMap queued).Sublist (bridge.queue.filterMap queued) := by
    rw [hqueue]
    exact (List.sublist_cons_self event rest).filterMap queued
  rw [← List.append_nil record]
  refine h.of_queue rfl rfl rfl ?_
  exact ((hrest.append_left _).trans h.passed).trans (List.sublist_append_left _ _)

theorem of_idle (h : Balanced settings agentId record bridge) {envelope : HookEnvelope}
    (hdue : (due envelope).2 = (0, 0)) :
    Balanced settings agentId record
      { bridge with inFlight := bridge.inFlight ++ [envelope] } where
  accounted := h.accounted
  kept := h.kept
  passed := h.passed
  balance side hgrows := by
    have hzero : side.of (due envelope).2 = 0 := by
      rw [hdue]
      cases side <;> rfl
    simp only [List.map_append, List.map_cons, List.map_nil, owed_append, owed_cons, owed_nil,
      hzero, ite_self, Nat.add_zero]
    exact h.balance side hgrows

theorem of_rise (h : Balanced settings agentId record bridge) (side : Side) (key : Text)
    (totals : Totals) : side.of (bridge.rise key totals) =
      side.of totals - level side.of (takenOf record) key := by
  rw [Bridge.rise, h.kept, level]
  cases latest (takenOf record) key <;> cases side <;> rfl

theorem of_reading (h : Balanced settings agentId record bridge) {rest : List (Option Dict)}
    {payload : Dict} {key : Text} {totals : Totals} {inFlight : List HookEnvelope}
    (hqueue : bridge.queue = some payload :: rest)
    (hreading : readingOf payload = some (key, totals)) (htaken : takenOf marks = [(key, totals)])
    (haccepted : acceptedOf marks = []) (hnotified : notifiedOf marks = [])
    (hadds : ∀ side : Side, owed side agentId (inFlight.map due) +
      owed side agentId (missingOf marks) = owed side agentId (bridge.inFlight.map due) +
        if agentOf settings key = agentId then side.of (bridge.rise key totals) else 0) :
    Balanced settings agentId (record ++ marks)
      { bridge with
        queue := rest
        tokenState := bridge.tokenState.insert key totals
        inFlight := inFlight } := by
  have hpassed : (takenOf (record ++ marks) ++ rest.filterMap queued).Sublist
      (notifiedOf (record ++ marks)) := by
    have hold := h.passed
    have hhead : queued (some payload) = some (key, totals) := hreading
    rw [hqueue, List.filterMap_cons_some hhead] at hold
    rwa [takenOf_append, htaken, notifiedOf_append, hnotified, List.append_nil, List.append_assoc]
  constructor
  · rw [acceptedOf_append, haccepted, List.append_nil]
    exact h.accounted
  · intro k
    rw [HashMap.get_insert, takenOf_append, htaken, Cumulative.latest_concat, h.kept]
  · exact hpassed
  · intro side hgrows
    have hgrowsTaken := hgrows.sublist ((List.sublist_append_left _ _).trans hpassed)
    rw [notifiedOf_append, hnotified, List.append_nil] at hgrows
    rw [takenOf_append, htaken] at hgrowsTaken ⊢
    rw [Cumulative.reported_concat hgrowsTaken.le_of_concat, ← h.balance side hgrows,
      acceptedOf_append, haccepted, List.append_nil, missingOf_append, owed_append, ← h.of_rise]
    have hadds := hadds side
    dsimp only
    omega

theorem of_delivery (h : Balanced settings agentId record bridge) {position : Nat}
    {envelope : HookEnvelope} {monitor : RuntimeMonitor}
    (hat : bridge.inFlight[position]? = some envelope) (htaken : takenOf marks = [])
    (hnotified : notifiedOf marks = [])
    (haccounted : Accounted monitor.config.hookCapacity (acceptedOf (record ++ marks))
      monitor.state)
    (hcounts : ∀ side : Side, total side.delta (acceptedOf (record ++ marks)) agentId +
      owed side agentId (missingOf marks) = total side.delta (acceptedOf record) agentId +
        if (due envelope).1 = agentId then side.of (due envelope).2 else 0) :
    Balanced settings agentId (record ++ marks)
      { bridge with inFlight := bridge.inFlight.eraseIdx position, monitor := monitor } := by
  constructor
  · exact haccounted
  · rw [takenOf_append, htaken, List.append_nil]
    exact h.kept
  · rw [takenOf_append, htaken, List.append_nil, notifiedOf_append, hnotified, List.append_nil]
    exact h.passed
  · intro side hgrows
    rw [notifiedOf_append, hnotified, List.append_nil] at hgrows
    have hdue : (bridge.inFlight.map due)[position]? = some (due envelope) := by
      rw [List.getElem?_map, hat]
      rfl
    have hbalance := h.balance side hgrows
    rw [owed_eraseIdx side agentId hdue, List.eraseIdx_map] at hbalance
    rw [takenOf_append, htaken, List.append_nil, missingOf_append, owed_append, ← hbalance]
    have hcounts := hcounts side
    dsimp only
    omega

theorem work [LawfulPython] (h : Balanced settings agentId record bridge)
    (circumstances : Circumstances) :
    Balanced settings agentId (record ++ (bridge.work settings circumstances).2)
      (bridge.work settings circumstances).1 := by
  unfold Bridge.work
  split
  · next rest _ hqueue =>
    rw [List.append_nil]
    exact h.of_dropped hqueue
  · next payload rest _ hqueue =>
    cases hreading : readingOf payload with
    | none =>
      obtain ⟨result, hmap, hidle⟩ :=
        map_of_no_reading settings circumstances hreading bridge.tokenState
      have hmarks : ∀ raised, bridge.takenMarks settings payload raised = [] := by
        intro raised
        rw [Bridge.takenMarks, hreading]
      have hrest : Balanced settings agentId record { bridge with queue := rest } :=
        h.of_dropped hqueue
      rw [hmap]
      dsimp only
      cases result with
      | error raised =>
        dsimp only
        rw [hmarks, List.append_nil]
        exact hrest
      | ok posted =>
        cases posted with
        | none =>
          dsimp only
          rw [hmarks, List.append_nil]
          exact hrest
        | some envelope =>
          dsimp only
          rw [hmarks, List.append_nil]
          exact hrest.of_idle (hidle envelope rfl)
    | some reading =>
      obtain ⟨key, totals⟩ := reading
      obtain ⟨result, hmap, hresult⟩ :=
        map_of_reading settings circumstances hreading bridge.tokenState
      rw [hmap]
      rcases hresult with ⟨raised, rfl⟩ | ⟨envelope, rfl, hdue⟩
      · have hmarks : bridge.takenMarks settings payload true = [.taken key totals,
            .uncounted (agentOf settings key) (bridge.rise key totals)] := by
          rw [Bridge.takenMarks, hreading]
          rfl
        dsimp only
        rw [hmarks]
        refine h.of_reading hqueue hreading rfl rfl rfl ?_
        intro side
        have hmissing : missingOf [.taken key totals,
            .uncounted (agentOf settings key) (bridge.rise key totals)] =
          [(agentOf settings key, bridge.rise key totals)] := rfl
        rw [hmissing, owed_cons, owed_nil, Nat.add_zero]
      · have hmarks : bridge.takenMarks settings payload false = [.taken key totals] := by
          rw [Bridge.takenMarks, hreading]
          rfl
        dsimp only
        rw [hmarks]
        refine h.of_reading hqueue hreading rfl rfl rfl ?_
        intro side
        have hmissing : missingOf [.taken key totals] = [] := rfl
        have hposted : due envelope = (agentOf settings key, bridge.rise key totals) := hdue
        rw [hmissing, owed_nil, Nat.add_zero, List.map_append, owed_append, List.map_cons,
          hposted, List.map_nil, owed_cons, owed_nil, Nat.add_zero]
  · rw [List.append_nil]
    exact h

theorem skip (h : Balanced settings agentId record bridge) :
    Balanced settings agentId record bridge.skip := by
  unfold Bridge.skip
  split
  · next payload rest _ hqueue => exact h.of_dropped hqueue
  · exact h

theorem of_accepted (h : Balanced settings agentId record bridge) {position : Nat}
    {envelope : HookEnvelope} {hook : RuntimeHookEnvelope}
    (hat : bridge.inFlight[position]? = some envelope)
    (hagent : hook.agent.agentId = (due envelope).1)
    (hdelta : ∀ side : Side, side.delta hook = side.of (due envelope).2)
    (haccepts : bridge.monitor.accepts (.ingestHook hook) = [hook]) :
    Balanced settings agentId (record ++ [.accepted hook])
      { bridge with
        inFlight := bridge.inFlight.eraseIdx position
        monitor := bridge.monitor.step (.ingestHook hook) } := by
  have hmarks : acceptedOf [.accepted hook] = [hook] := rfl
  refine h.of_delivery hat rfl rfl ?_ ?_
  · have hstep := RuntimeMonitor.accounted_step h.accounted (.ingestHook hook)
    rwa [haccepts, ← bridge.monitor.config_step (.ingestHook hook), ← hmarks, ← acceptedOf_append]
      at hstep
  · intro side
    have hmissing : missingOf [.accepted hook] = [] := rfl
    rw [acceptedOf_append, hmarks, total_concat_side, hmissing, owed_nil, Nat.add_zero, hagent,
      hdelta]

theorem of_lost (h : Balanced settings agentId record bridge) {position : Nat}
    {envelope : HookEnvelope} (hat : bridge.inFlight[position]? = some envelope) :
    Balanced settings agentId (record ++ [.uncounted (due envelope).1 (due envelope).2])
      { bridge with inFlight := bridge.inFlight.eraseIdx position } := by
  have hmarks : acceptedOf [.uncounted (due envelope).1 (due envelope).2] = [] := rfl
  refine h.of_delivery hat rfl rfl ?_ ?_
  · rw [acceptedOf_append, hmarks, List.append_nil]
    exact h.accounted
  · intro side
    have hmissing : missingOf [.uncounted (due envelope).1 (due envelope).2] = [due envelope] := rfl
    rw [acceptedOf_append, hmarks, List.append_nil, hmissing, owed_cons, owed_nil, Nat.add_zero]

theorem of_daemon (h : Balanced settings agentId record bridge) {op : RuntimeMonitor.Op}
    (hspares : ∀ hook, op = .ingestHook hook → hook.agent.agentId ≠ agentId) :
    Balanced settings agentId (record ++ (bridge.monitor.accepts op).map .accepted)
      { bridge with monitor := bridge.monitor.step op } := by
  have hother : ∀ hooks : List RuntimeHookEnvelope, takenOf (hooks.map .accepted) = [] ∧
      notifiedOf (hooks.map .accepted) = [] ∧ missingOf (hooks.map .accepted) = [] ∧
      acceptedOf (hooks.map .accepted) = hooks := by
    intro hooks
    induction hooks with
    | nil => exact ⟨rfl, rfl, rfl, rfl⟩
    | cons hook hooks ih => exact ⟨ih.1, ih.2.1, ih.2.2.1, congrArg _ ih.2.2.2⟩
  obtain ⟨htaken, hnotified, hmissing, haccepted⟩ := hother (bridge.monitor.accepts op)
  have htotal : ∀ side : Side,
      total side.delta (acceptedOf record ++ bridge.monitor.accepts op) agentId =
        total side.delta (acceptedOf record) agentId := by
    intro side
    rcases bridge.monitor.accepts_cases op with ⟨hnone, -, -⟩ | ⟨hook, hop, -, hone, -⟩
    · rw [hnone, List.append_nil]
    · rw [hone, total_concat_side, if_neg (hspares hook hop), Nat.add_zero]
  constructor
  · rw [acceptedOf_append, haccepted]
    have hstep := RuntimeMonitor.accounted_step h.accounted op
    rwa [← bridge.monitor.config_step op] at hstep
  · rw [takenOf_append, htaken, List.append_nil]
    exact h.kept
  · rw [takenOf_append, htaken, List.append_nil, notifiedOf_append, hnotified, List.append_nil]
    exact h.passed
  · intro side hgrows
    rw [notifiedOf_append, hnotified, List.append_nil] at hgrows
    rw [acceptedOf_append, haccepted, htotal, missingOf_append, hmissing, List.append_nil,
      takenOf_append, htaken, List.append_nil]
    exact h.balance side hgrows

theorem of_putNowait (h : Balanced settings agentId record bridge) {event : Option Dict}
    (htaken : takenOf marks = []) (haccepted : acceptedOf marks = [])
    (hmissing : missingOf marks = []) (hnotified : notifiedOf marks = (queued event).toList) :
    Balanced settings agentId (record ++ marks) (bridge.putNowait event) := by
  unfold Bridge.putNowait
  split
  · refine h.of_queue htaken haccepted hmissing ?_
    rw [List.filterMap_append, ← List.append_assoc, hnotified]
    have hone : [event].filterMap queued = (queued event).toList := by
      cases hqueued : queued event <;> simp [hqueued]
    rw [hone]
    exact h.passed.append_right _
  · refine h.of_queue htaken haccepted hmissing ?_
    exact h.passed.trans (List.sublist_append_left _ _)

omit [Python] in
theorem eq_of_ingestHook_error {monitor after : RuntimeMonitor} {hook : RuntimeHookEnvelope}
    {error : Runtime.RuntimeError} (h : monitor.ingestHook hook = (after, .error error)) :
    after = monitor := by
  cases hvalid : hook.validate with
  | error invalid =>
    rw [RuntimeMonitor.ingestHook_of_invalid hvalid] at h
    exact (Prod.ext_iff.1 h).1.symm
  | ok _ =>
    by_cases hseen : hook.eventId ∈ monitor.state.hookIds
    · rw [RuntimeMonitor.ingestHook_of_seen hvalid hseen] at h
      exact (Prod.ext_iff.1 h).1.symm
    · rw [RuntimeMonitor.ingestHook_of_new hvalid hseen] at h
      cases (Prod.ext_iff.1 h).2

section Act

variable (N : Type) [HookNumber N] [WireText] [HookText]

omit [Python] in
theorem receive_cases (bridge : Bridge) (envelope : HookEnvelope) :
    bridge.receive N envelope =
        (bridge.monitor, [.uncounted (due envelope).1 (due envelope).2]) ∨
      ∃ hook : RuntimeHookEnvelope, hook.agent.agentId = (due envelope).1 ∧
        (∀ side : Side, side.delta hook = side.of (due envelope).2) ∧
        bridge.monitor.accepts (.ingestHook hook) = [hook] ∧
        bridge.receive N envelope =
          (bridge.monitor.step (.ingestHook hook), [.accepted hook]) := by
  unfold Bridge.receive
  cases hdecode : (RuntimeHookEnvelope.codec : Serde.Codec N _).decode envelope.value with
  | none => exact .inl rfl
  | some hook =>
    obtain ⟨-, hagent, hinput, houtput⟩ := envelope.counts_of_decode hdecode
    dsimp only
    rcases hingest : bridge.monitor.ingestHook hook with ⟨monitor, result⟩
    cases result with
    | error error =>
      rw [eq_of_ingestHook_error hingest]
      exact .inl rfl
    | ok _ =>
      refine .inr ⟨hook, hagent, ?_, ?_, ?_⟩
      · intro side
        cases side
        · exact hinput
        · exact houtput
      · rw [RuntimeMonitor.accepts, hingest]
        rfl
      · rw [RuntimeMonitor.step, hingest]

theorem step [LawfulPython] (h : Balanced settings agentId record bridge) {op : Op}
    (hspares : Spares agentId bridge op) :
    Balanced settings agentId (record ++ bridge.marks settings N op)
      (bridge.step settings N op) := by
  have hidle : Balanced settings agentId (record ++ []) bridge := by
    rw [List.append_nil]
    exact h
  rw [Bridge.marks, Bridge.step]
  cases op with
  | wrote payload =>
    rw [Bridge.act]
    split
    · have hmarks : ∀ reading : Option (Text × Totals), ∃ marks,
          marks = (reading.toList.map fun reading => Mark.notified reading.1 reading.2) ∧
          takenOf marks = [] ∧ acceptedOf marks = [] ∧ missingOf marks = [] ∧
          notifiedOf marks = reading.toList := by
        intro reading
        cases reading <;> exact ⟨_, rfl, rfl, rfl, rfl, rfl⟩
      obtain ⟨marks, hmarks, htaken, haccepted, hmissing, hnotified⟩ := hmarks (readingOf payload)
      rw [← hmarks]
      exact h.of_putNowait htaken haccepted hmissing hnotified
    · exact hidle
  | ended => exact h.of_putNowait rfl rfl rfl rfl
  | worked circumstances => exact h.work circumstances
  | unsampled =>
    rw [Bridge.act, List.append_nil]
    exact h.skip
  | arrived position =>
    rw [Bridge.act]
    cases hat : bridge.inFlight[position]? with
    | none => exact hidle
    | some envelope =>
      dsimp only
      rcases receive_cases N bridge envelope with
        hreceive | ⟨hook, hagent, hdelta, haccepts, hreceive⟩
      · rw [hreceive]
        exact h.of_lost hat
      · rw [hreceive]
        exact h.of_accepted hat hagent hdelta haccepts
  | lost position =>
    rw [Bridge.act]
    cases hat : bridge.inFlight[position]? with
    | none => exact hidle
    | some envelope => exact h.of_lost hat
  | daemon op => exact h.of_daemon fun hook hop => hspares hook (congrArg _ hop)

end Act

end Balanced

section Ran

variable [Python] [LawfulPython] (settings : Settings) (agentId : String)
  (N : Type) [HookNumber N] [WireText] [HookText] (config : RuntimeConfig)

/-- Nobody but the proxy reports hooks of the agent during a run. -/
def Spared (ops : List Op) : Prop :=
  ∀ hook, .daemon (.ingestHook hook) ∈ ops → hook.agent.agentId ≠ agentId

variable {agentId}

theorem balanced_ran {ops : List Op} (h : Spared agentId ops) :
    Balanced settings agentId (record settings N config ops) (ran settings N config ops) := by
  have hstart : Balanced settings agentId [] (.new config) := .new settings agentId config
  refine Run.invariant_emitted_along (Q := Spares agentId)
    (fun record bridge op hbalanced hspares => hbalanced.step N hspares) hstart ?_
  exact Run.along_of_forall fun op hop bridge hook heq => h hook (heq ▸ hop)

end Ran

section Counted

variable [Python] (settings : Settings) (side : Side) (agentId : String)

def told (record : List Mark) : Nat :=
  reported side.of (fun key => agentOf settings key = agentId) (notifiedOf record)

structure Settled (record : List Mark) (bridge : Bridge) : Prop where
  seen : ∀ key, agentOf settings key = agentId →
    level side.of (takenOf record) key = level side.of (notifiedOf record) key
  arrived : ∀ envelope ∈ bridge.inFlight, (due envelope).1 = agentId →
    side.of (due envelope).2 = 0
  nothingLost : ∀ missing ∈ missingOf record, missing.1 = agentId → side.of missing.2 = 0

variable {settings side agentId}

theorem settled_iff {record : List Mark} {bridge : Bridge}
    (hgrows : Grows side.of (notifiedOf record))
    (htaken : (takenOf record).Sublist (notifiedOf record)) :
    Settled settings side agentId record bridge ↔
      reported side.of (fun key => agentOf settings key = agentId) (takenOf record) =
          told settings side agentId record ∧
        owed side agentId (bridge.inFlight.map due) = 0 ∧
        owed side agentId (missingOf record) = 0 := by
  rw [told, (hgrows.reported_le_of_sublist htaken).2, owed_eq_zero_iff, owed_eq_zero_iff,
    List.forall_mem_map]
  exact ⟨fun h => ⟨h.seen, h.arrived, h.nothingLost⟩, fun ⟨h, h', h''⟩ => ⟨h, h', h''⟩⟩

variable [LawfulPython] (settings side)
variable (N : Type) [HookNumber N] [WireText] [HookText] (config : RuntimeConfig)

/-- Whatever is dropped, raised, lost or refused, the daemon never counts more of an agent's
tokens than the app server told of, and it counts them all once they are settled. -/
theorem tokens_le_told {ops : List Op} (h : Spared agentId ops)
    (hgrows : Grows side.of (notifiedOf (record settings N config ops))) :
    side.tokens (ran settings N config ops).monitor.state agentId ≤
        told settings side agentId (record settings N config ops) ∧
      (told settings side agentId (record settings N config ops) ≤ U64.MAX →
        (side.tokens (ran settings N config ops).monitor.state agentId =
            told settings side agentId (record settings N config ops) ↔
          Settled settings side agentId (record settings N config ops)
            (ran settings N config ops))) := by
  have hbalanced := balanced_ran settings N config h
  generalize ran settings N config ops = bridge at hbalanced ⊢
  generalize record settings N config ops = record at hbalanced hgrows ⊢
  have htokens : side.tokens bridge.monitor.state agentId =
      min U64.MAX (total side.delta (acceptedOf record) agentId) := by
    cases side with
    | input => exact hbalanced.accounted.input agentId
    | output => exact hbalanced.accounted.output agentId
  have hbalance := hbalanced.balance side hgrows
  have htaken : (takenOf record).Sublist (notifiedOf record) :=
    (List.sublist_append_left _ _).trans hbalanced.passed
  have hle : reported side.of (fun key => agentOf settings key = agentId) (takenOf record) ≤
      told settings side agentId record := (hgrows.reported_le_of_sublist htaken).1
  rw [htokens]
  refine ⟨by omega, ?_⟩
  intro hfits
  rw [settled_iff hgrows htaken]
  omega

end Counted

namespace Sample

open ControlPlane.Sample (firstSeconds rfc3339)

inductive Number
  | unsigned (n : Nat)
  | single (x : F32)
  | double (x : F64)

namespace Number

def toU64 : Number → Option Nat
  | unsigned n => if n < 2 ^ 64 then some n else none
  | _ => none

def toF32 : Number → F32
  | unsigned n => F32.ofNat n
  | single x => x
  | double x => F32.ofRat x.toRat x.sign

def toF64 : Number → F64
  | unsigned n => F64.ofNat n
  | single x => F64.ofRat x.toRat x.sign
  | double x => x

theorem toU64_unsigned {n : Nat} (h : n < 2 ^ 64) : toU64 (unsigned n) = some n := if_pos h

theorem toF32_single {x : F32} (_ : x.isFinite = true) : toF32 (single x) = x := rfl

theorem eq_of_toU64 {n m : Nat} (h : toU64 (unsigned n) = some m) : m = n :=
  (Option.some.inj (Option.ite_none_right_eq_some.1 h).2).symm

end Number

instance hookNumber : HookNumber Number where
  ofNat := .unsigned
  toU64 := Number.toU64
  toU64_ofNat := Number.toU64_unsigned
  ofF32 := .single
  toF32 := Number.toF32
  toF32_ofF32 := Number.toF32_single
  eq_of_toU64 := Number.eq_of_toU64
  ofF64 := .double
  toF64 := Number.toF64

instance hookText : HookText where
  IsDatetime t := t ∈ firstSeconds
  isoformat := rfc3339
  parse_isoformat := WireText.parse_displayInstant

def tokenText (input output : Int) : Text :=
  text "meta-agent:thread/tokenUsage/updated|t1|||" ++
    Json.decimal input ++ text ":" ++ Json.decimal output

instance python : Python where
  isalnum := CodePoint.isAlnum
  float _ := none
  uuid5 name :=
    if name = tokenText 10 5 then 0x39549b1afbd65e8aab8dc4da41baa7eb
    else if name = tokenText 12 9 then 0x93c9dfca6b2c59c9b1bf373d5d4924d4
    else if name = tokenText 20 12 then 0x981720b82e65519989f753429561fc87
    else 0

instance lawfulPython : LawfulPython where
  isalnum_ascii _ _ := rfl

def settings : Settings := ⟨none, none, none, none, text "linux"⟩

def usage (input output : Int) : Op :=
  .wrote [(text "method", .str (text "thread/tokenUsage/updated")),
    (text "params", .dict [(text "threadId", .str (text "t1")),
      (text "tokenUsage", .dict [(text "total", .dict
        [(text "inputTokens", .int input), (text "outputTokens", .int output)])])])]

def work (seconds : Nat) : Op := .worked ⟨⟨seconds, 0⟩, 0, none, {}⟩

def lossy : List Op :=
  [usage 10 5, usage 12 9, work 1, .arrived 0, work 2, .lost 0, usage 20 12, work 3, .arrived 0]

abbrev lossyBridge : Bridge := ran settings Number RuntimeMonitor.smallConfig lossy

abbrev lossyRecord : List Mark := record settings Number RuntimeMonitor.smallConfig lossy

end Sample

theorem tokens_le_told_lossy :
    Side.input.tokens Sample.lossyBridge.monitor.state "codex:t1" = 18 ∧
      18 ≤ told Sample.settings .input "codex:t1" Sample.lossyRecord ∧
      ¬Settled Sample.settings .input "codex:t1" Sample.lossyRecord Sample.lossyBridge := by
  have hspared : Spared "codex:t1" Sample.lossy := by
    intro hook hmem
    simp [Sample.lossy, Sample.usage, Sample.work] at hmem
  have hnotified : notifiedOf Sample.lossyRecord =
      [(text "t1", 10, 5), (text "t1", 12, 9), (text "t1", 20, 12)] := by
    decide +kernel
  have hcounted : Side.input.tokens Sample.lossyBridge.monitor.state "codex:t1" = 18 := by
    decide +kernel
  have htold : told Sample.settings .input "codex:t1" Sample.lossyRecord = 20 := by
    rw [told, hnotified]
    decide +kernel
  have hgrows : Grows Side.input.of (notifiedOf Sample.lossyRecord) := by
    rw [hnotified]
    simp [Grows, Side.of]
  obtain ⟨hle, hall⟩ := tokens_le_told Sample.settings .input Sample.Number
    RuntimeMonitor.smallConfig hspared hgrows
  have hfits : told Sample.settings .input "codex:t1" Sample.lossyRecord ≤ U64.MAX := by
    rw [htold]
    decide
  refine ⟨hcounted, hcounted ▸ hle, ?_⟩
  rw [← hall hfits, hcounted, htold]
  decide

end ControlPlane.Hooks
