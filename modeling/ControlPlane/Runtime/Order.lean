import ControlPlane.Runtime.Resolution

/-! The order in which a poll hands out commands, against the order in which they were issued. -/

namespace ControlPlane.Runtime

section Reversed

variable {α : Type}

theorem filter_set_sublist {p : α → Bool} {a : α} (h : p a = false) (l : List α) (i : Nat) :
    ((l.set i a).filter p).Sublist (l.filter p) := by
  induction l generalizing i with
  | nil => exact .slnil
  | cons b l ih =>
    cases i with
    | zero =>
      rw [List.set_cons_zero, List.filter_cons_of_neg (by simp [h])]
      exact (List.sublist_cons_self b l).filter p
    | succ i =>
      rw [List.set_cons_succ, List.filter_cons, List.filter_cons]
      split
      · exact (ih i).cons_cons b
      · exact ih i

theorem eq_reverse_iff {l : List α} (h : l.Nodup) : l = l.reverse ↔ l.length ≤ 1 := by
  cases l with
  | nil => simp
  | cons a l =>
    cases l using List.reverseRecOn with
    | nil => simp
    | append_singleton l b =>
      have hne : a ≠ b := by
        rintro rfl
        simp at h
      simp [hne]

end Reversed

namespace RuntimeMonitor

def issuesCommand (monitor : RuntimeMonitor) : Op → List ControlCommand
  | .enqueueCommand request commandId createdAt =>
    match (monitor.enqueueCommand request commandId createdAt).2 with
    | .ok command => [command]
    | .error _ => []
  | _ => []

def issuedCommands (config : RuntimeConfig) (ops : List Op) : List ControlCommand :=
  Run.emitted issuesCommand step (.new config) ops

def waitsFor (agentId : String) (command : ControlCommand) : Bool :=
  command.agentId = agentId ∧ command.status = .pending

theorem issuesCommand_of_false {monitor : RuntimeMonitor} {op : Op}
    (h : monitor.issues op = false) : monitor.issuesCommand op = [] := by
  cases op with
  | enqueueCommand request commandId createdAt =>
    rw [issues] at h
    rw [issuesCommand]
    cases hresult : (monitor.enqueueCommand request commandId createdAt).2 with
    | error error => rfl
    | ok command =>
      rw [hresult] at h
      cases h
  | _ => rfl

theorem enqueueCommand_of_issues {monitor : RuntimeMonitor} {request : ControlCommandRequest}
    {commandId : Uuid} {createdAt : DateTime}
    (h : monitor.issues (.enqueueCommand request commandId createdAt) = true) :
    request.validate = .ok () ∧
      monitor.issuesCommand (.enqueueCommand request commandId createdAt) =
        [.issue request commandId createdAt] := by
  rw [issues] at h
  rw [issuesCommand]
  cases hresult : (monitor.enqueueCommand request commandId createdAt).2 with
  | error error =>
    rw [hresult] at h
    cases h
  | ok command =>
    obtain ⟨valid, -, rfl, -⟩ := enqueueCommand_ok hresult
    exact ⟨valid, rfl⟩

structure Logged (issued : List ControlCommand) (monitor : RuntimeMonitor) : Prop where
  pending : ∀ command ∈ issued, command.status = .pending
  sublist : (monitor.state.commands.filter fun command =>
    command.status = .pending).reverse.Sublist issued

theorem Logged.new (config : RuntimeConfig) : Logged [] (.new config) where
  pending := by simp
  sublist := .slnil

theorem Logged.step {issued : List ControlCommand} {monitor : RuntimeMonitor}
    (h : Logged issued monitor) (op : Op) :
    Logged (issued ++ monitor.issuesCommand op) (monitor.step op) := by
  rcases monitor.commands_cases op with ⟨hissues, heq⟩ | ⟨request, commandId, createdAt, rfl,
    hissues, -, heq⟩ | ⟨ack, now, position, command, -, hissues, -, heq⟩
  · rw [issuesCommand_of_false hissues, List.append_nil]
    refine ⟨h.pending, ?_⟩
    rw [heq]
    exact h.sublist
  · rw [(enqueueCommand_of_issues hissues).2]
    refine ⟨?_, ?_⟩
    · intro command hcommand
      rcases List.mem_append.1 hcommand with hold | hnew
      · exact h.pending command hold
      · rw [List.mem_singleton.1 hnew]
        rfl
    · rw [heq]
      have htake : (((ControlCommand.issue request commandId createdAt ::
          monitor.state.commands).take monitor.config.commandCapacity).filter fun command =>
            command.status = .pending).Sublist (ControlCommand.issue request commandId createdAt ::
              monitor.state.commands.filter fun command => command.status = .pending) := by
        refine ((List.take_sublist _ _).filter _).trans ?_
        rw [List.filter_cons_of_pos (by simp [ControlCommand.issue])]
      refine htake.reverse.trans ?_
      rw [List.reverse_cons]
      exact h.sublist.append_right _
  · rw [issuesCommand_of_false hissues, List.append_nil]
    refine ⟨h.pending, ?_⟩
    rw [heq]
    refine (filter_set_sublist ?_ _ _).reverse.trans h.sublist
    rw [ControlCommand.resolve]
    split <;> rfl

theorem logged_ran (config : RuntimeConfig) (ops : List Op) :
    Logged (issuedCommands config ops) (ran config ops) := by
  have hran : Logged ([] ++ issuedCommands config ops) (ran config ops) :=
    Run.invariant_emitted (fun _ _ op h => h.step op) (.new config) ops
  exact hran

def unresolved (issued : List ControlCommand) (monitor : RuntimeMonitor) (agentId : String) :
    List ControlCommand :=
  issued.filter fun command => command ∈ monitor.state.commands ∧ command.agentId = agentId

def applied (commands : List ControlCommand) : Option ControlAction :=
  commands.foldl (fun _ command => some command.action) none

/-- The poll lists the unresolved commands oldest first, and an agent that applies them in turn
ends with the action that was requested last. -/
structure InIssueOrder (issued : List ControlCommand) (monitor : RuntimeMonitor)
    (agentId : String) (polled : List ControlCommand) : Prop where
  oldest_first : polled = unresolved issued monitor agentId
  last_requested : applied polled =
    (unresolved issued monitor agentId).getLast?.map ControlCommand.action

theorem applied_eq (commands : List ControlCommand) :
    applied commands = commands.getLast?.map ControlCommand.action := by
  cases commands using List.reverseRecOn with
  | nil => rfl
  | append_singleton commands command =>
    rw [applied, List.foldl_append, List.getLast?_concat]
    rfl

theorem polled_eq {monitor : RuntimeMonitor} {agentId : String} {polled : List ControlCommand}
    (h : monitor.pendingCommands agentId = .ok polled) :
    polled = monitor.state.commands.filter (waitsFor agentId) := by
  rw [pendingCommands] at h
  cases hvalid : validateText "agent_id" agentId 256 with
  | error error =>
    rw [hvalid] at h
    cases h
  | ok _ =>
    rw [hvalid] at h
    cases h
    rfl

section Logged

variable {issued : List ControlCommand} {monitor : RuntimeMonitor} {agentId : String}
  (h : Logged issued monitor) (hnodup : issued.Nodup)
include h hnodup

/-- A poll is the list of the unresolved commands from its end. -/
theorem filter_waitsFor_eq :
    monitor.state.commands.filter (waitsFor agentId) =
      (unresolved issued monitor agentId).reverse := by
  rw [← List.reverse_eq_iff]
  have hsublist : (monitor.state.commands.filter (waitsFor agentId)).reverse.Sublist issued := by
    refine List.Sublist.trans (List.Sublist.reverse ?_) h.sublist
    apply List.monotone_filter_right
    intro command hwaits
    simp only [waitsFor, decide_eq_true_eq] at hwaits ⊢
    exact hwaits.2
  have hunresolved : (unresolved issued monitor agentId).Sublist issued := List.filter_sublist
  rw [← hnodup.perm_iff_eq_of_sublist hsublist hunresolved]
  refine (List.perm_ext_iff_of_nodup (hnodup.sublist hsublist) (hnodup.filter _)).2 ?_
  intro command
  simp only [List.mem_reverse, List.mem_filter, waitsFor, decide_eq_true_eq]
  constructor
  · intro hcommand
    obtain ⟨hmem, hagent, hpending⟩ := hcommand
    refine ⟨h.sublist.subset ?_, hmem, hagent⟩
    rw [List.mem_reverse, List.mem_filter]
    exact ⟨hmem, decide_eq_true hpending⟩
  · intro hcommand
    obtain ⟨hissued, hmem, hagent⟩ := hcommand
    exact ⟨hmem, hagent, h.pending command hissued⟩

theorem inIssueOrder_iff :
    InIssueOrder issued monitor agentId (monitor.state.commands.filter (waitsFor agentId)) ↔
      (monitor.state.commands.filter (waitsFor agentId)).length ≤ 1 := by
  have hunresolved : (unresolved issued monitor agentId).Nodup := hnodup.filter _
  rw [filter_waitsFor_eq h hnodup, List.length_reverse, ← eq_reverse_iff hunresolved]
  constructor
  · intro horder
    exact horder.oldest_first.symm
  · intro heq
    refine ⟨heq.symm, ?_⟩
    rw [applied_eq, ← heq]

end Logged

/-- A command is issued to an agent for which another one waits and stays in the queue. -/
def Overtakes (monitor : RuntimeMonitor) : Op → Prop
  | .enqueueCommand request commandId createdAt =>
    monitor.issues (.enqueueCommand request commandId createdAt) = true ∧
      ∃ command ∈ monitor.state.commands.take (monitor.config.commandCapacity - 1),
        waitsFor request.agentId command = true
  | _ => False

def Alone (monitor : RuntimeMonitor) : Prop :=
  ∀ agentId, (monitor.state.commands.filter (waitsFor agentId)).length ≤ 1

theorem take_cons {α : Type} (a : α) (l : List α) (n : Nat) :
    (a :: l).take n = if n = 0 then [] else a :: l.take (n - 1) := by
  cases n with
  | zero => rfl
  | succ n => rfl

theorem Alone.step {monitor : RuntimeMonitor} (h : monitor.Alone) {op : Op}
    (hop : ¬monitor.Overtakes op) : (monitor.step op).Alone := by
  intro agentId
  rcases monitor.commands_cases op with ⟨-, heq⟩ | ⟨request, commandId, createdAt, rfl,
    hissues, -, heq⟩ | ⟨ack, now, position, command, -, -, -, heq⟩ <;> rw [heq]
  · exact h agentId
  · rw [take_cons]
    by_cases hcapacity : monitor.config.commandCapacity = 0
    · simp [hcapacity]
    · rw [if_neg hcapacity, List.filter_cons]
      have hrest := ((List.take_sublist (monitor.config.commandCapacity - 1)
        monitor.state.commands).filter (waitsFor agentId)).length_le
      by_cases hagent : waitsFor agentId (.issue request commandId createdAt) = true
      · have hid : request.agentId = agentId := by
          simp only [waitsFor, decide_eq_true_eq] at hagent
          exact hagent.1
        have hnone : (monitor.state.commands.take (monitor.config.commandCapacity - 1)).filter
            (waitsFor agentId) = [] := by
          rw [List.filter_eq_nil_iff]
          intro command hcommand hwaits
          exact hop ⟨hissues, command, hcommand, hid ▸ hwaits⟩
        rw [if_pos hagent, hnone, List.length_singleton]
      · rw [if_neg hagent]
        exact hrest.trans (h agentId)
  · refine (filter_set_sublist ?_ _ _).length_le.trans (h agentId)
    simp only [waitsFor, ControlCommand.resolve]
    split <;> simp

theorem two_le_of_overtakes {monitor : RuntimeMonitor} {request : ControlCommandRequest}
    {commandId : Uuid} {createdAt : DateTime}
    (h : monitor.Overtakes (.enqueueCommand request commandId createdAt)) :
    2 ≤ ((monitor.step (.enqueueCommand request commandId createdAt)).state.commands.filter
      (waitsFor request.agentId)).length := by
  obtain ⟨hissues, command, hcommand, hwaits⟩ := h
  rcases monitor.commands_cases (.enqueueCommand request commandId createdAt) with ⟨hno, -⟩ |
    ⟨request', commandId', createdAt', hop, -, -, heq⟩ | ⟨ack, now, position, resolved, hop, -⟩
  · rw [hissues] at hno
    cases hno
  · cases hop
    have hcapacity : monitor.config.commandCapacity ≠ 0 := by
      intro hzero
      rw [hzero] at hcommand
      cases hcommand
    have hfirst : waitsFor request.agentId (.issue request commandId createdAt) = true := by
      simp [waitsFor, ControlCommand.issue]
    have hrest : 0 < ((monitor.state.commands.take
        (monitor.config.commandCapacity - 1)).filter (waitsFor request.agentId)).length :=
      List.length_pos_of_mem (List.mem_filter.2 ⟨hcommand, hwaits⟩)
    rw [heq, take_cons, if_neg hcapacity, List.filter_cons_of_pos hfirst, List.length_cons]
    omega
  · cases hop

def PollsInOrder (config : RuntimeConfig) (ops : List Op) : Prop :=
  ∀ before rest, ops = before ++ rest → ∀ agentId polled,
    (ran config before).pendingCommands agentId = .ok polled →
      InIssueOrder (issuedCommands config before) (ran config before) agentId polled

theorem nodup_issuedCommands {config : RuntimeConfig} {before rest : List Op}
    (h : ((issuedCommands config (before ++ rest)).map ControlCommand.commandId).Nodup) :
    (issuedCommands config before).Nodup := by
  rw [issuedCommands, Run.emitted_append, List.map_append] at h
  exact (List.Nodup.of_append_left h).of_map

theorem alone_of_along {config : RuntimeConfig} {ops : List Op}
    (h : Run.Along (fun monitor op => ¬monitor.Overtakes op) step (.new config) ops) :
    (ran config ops).Alone :=
  Run.invariant_along (P := Alone) (fun _ _ halone hop => halone.step hop)
    (fun _ => Nat.zero_le _) h

/-- With ids that are all different, the polls of a run are in the order of issue exactly when
no command is issued to an agent while another waits for it. -/
theorem polls_in_order_iff (config : RuntimeConfig) (ops : List Op)
    (hids : ((issuedCommands config ops).map ControlCommand.commandId).Nodup) :
    PollsInOrder config ops ↔
      Run.Along (fun monitor op => ¬monitor.Overtakes op) step (.new config) ops := by
  constructor
  · intro h
    rw [Run.along_iff]
    rintro before op rest rfl hover
    cases op with
    | enqueueCommand request commandId createdAt =>
      have hops : before ++ .enqueueCommand request commandId createdAt :: rest =
          (before ++ [.enqueueCommand request commandId createdAt]) ++ rest := by simp
      have hvalid := (enqueueCommand_of_issues hover.1).1
      have hpoll : ∃ polled, (ran config (before ++ [.enqueueCommand request commandId
          createdAt])).pendingCommands request.agentId = .ok polled :=
        pendingCommands_of_valid hvalid
      obtain ⟨polled, hpolled⟩ := hpoll
      have horder := h _ rest hops request.agentId polled hpolled
      rw [polled_eq hpolled, inIssueOrder_iff (logged_ran config _)
        (nodup_issuedCommands (hops ▸ hids))] at horder
      have htwo := two_le_of_overtakes hover
      rw [ran, Run.after_append, Run.after_cons, Run.after_nil] at horder
      exact absurd horder (Nat.not_le_of_lt htwo)
    | _ => exact hover
  · intro h before rest heq agentId polled hpolled
    subst heq
    have halone := alone_of_along (Run.Along.append.1 h).1
    rw [polled_eq hpolled, inIssueOrder_iff (logged_ran config before) (nodup_issuedCommands hids)]
    exact halone agentId

theorem polls_in_order_single :
    PollsInOrder smallConfig [.ingestHook (sessionHook "a" 1),
      .enqueueCommand ⟨"a", .pause⟩ 7 ⟨1, 0⟩] :=
  (polls_in_order_iff smallConfig _ (by decide)).2 ⟨id, fun h => absurd h.2 (by decide), trivial⟩

def overtaken : List Op :=
  [.ingestHook (sessionHook "a" 1), .enqueueCommand ⟨"a", .pause⟩ 7 ⟨1, 0⟩,
    .enqueueCommand ⟨"a", .resume⟩ 8 ⟨2, 0⟩]

/-- They are polled as a resume and then a pause. -/
theorem newest_command_polled_first :
    (ran smallConfig overtaken).pendingCommands "a" =
      .ok [.issue ⟨"a", .resume⟩ 8 ⟨2, 0⟩, .issue ⟨"a", .pause⟩ 7 ⟨1, 0⟩] ∧
    ¬∀ config ops, ((issuedCommands config ops).map ControlCommand.commandId).Nodup →
      PollsInOrder config ops := by
  refine ⟨rfl, ?_⟩
  intro h
  have hpolls := h smallConfig overtaken (by decide) overtaken [] (List.append_nil _).symm "a" _ rfl
  have hlast := hpolls.last_requested
  revert hlast
  decide

end RuntimeMonitor

end ControlPlane.Runtime
