import ControlPlane.Fleet.Workspace
import ControlPlane.Lib.BTree

/-! The delivery contract: what is collected after a provider has exited, and what is
missing from it. -/

namespace ControlPlane.Fleet

/-- A field is `none` when the command that answers for it failed. -/
structure DeliveryEvidence where
  pullRequestUrl : Option String := none
  pullRequestState : Option String := none
  pullRequestHead : Option String := none
  headCommit : Option String := none
  remoteBranchCommit : Option String := none
  commitsAhead : Option Int := none
  dirtyEntries : Option Nat := none
  deriving DecidableEq, Repr

structure ObservationSummary where
  counts : BTreeMap String Nat
  testEvidenceCount : Nat

def ObservationSummary.empty : ObservationSummary := ⟨∅, 0⟩

namespace ObservationSummary

def progressCount (observations : ObservationSummary) : Nat :=
  observations.counts.getD "progress_updated" 0

def reflectionCount (observations : ObservationSummary) : Nat :=
  observations.counts.getD "reflection_recorded" 0

end ObservationSummary

inductive LedgerLine
  | blank
  /-- not a JSON object with a text `kind` and an object `data` -/
  | invalid
  /-- the evidence of an event is `none` when the field cannot be iterated; an item is the
  text of its `kind`, or `none` when it is not an object -/
  | event (kind : String) (evidence : Option (List (Option String)))
  deriving DecidableEq, Repr

inductive Ledger
  | missing
  | unreadable
  | oversized
  | lines (lines : List LedgerLine)
  deriving DecidableEq, Repr

/-- Of the characters outside ASCII none becomes a letter of `OPEN`, the only text compared. -/
def upper (t : String) : List Char := t.toList.map Char.toUpper

def lowerChar (c : Char) : List Char :=
  -- the two characters outside ASCII that become ASCII letters
  if c = '\u212a' then ['k']
  else if c = '\u0130' then ['i', '\u0307']
  else [c.toLower]

def lower (t : String) : List Char := t.toList.flatMap lowerChar

def isTestEvidence (item : Option String) : Bool :=
  match item with
  | some kind => ["test".toList, "ci".toList, "validation".toList].contains (lower kind)
  | none => false

def readLine (observations : ObservationSummary) : LedgerLine → Except Raised ObservationSummary
  | .blank => .ok observations
  | .invalid => .error .configuration
  | .event kind evidence =>
    let counts := observations.counts.insert kind (observations.counts.getD kind 0 + 1)
    if kind = "reflection_recorded" then
      match evidence with
      | some items => .ok ⟨counts, observations.testEvidenceCount + items.countP isTestEvidence⟩
      -- iterating anything else is a `TypeError`
      | none => .error .unhandled
    else .ok ⟨counts, observations.testEvidenceCount⟩

def readObservationSummary : Ledger → Except Raised ObservationSummary
  | .missing => .ok .empty
  | .unreadable | .oversized => .error .configuration
  | .lines lines => lines.foldlM readLine .empty

def isEvent (kind : String) : LedgerLine → Bool
  | .event kind' _ => kind' == kind
  | _ => false

def testEvidence : LedgerLine → Nat
  | .event kind (some items) => if kind = "reflection_recorded" then items.countP isTestEvidence else 0
  | _ => 0

namespace Ledger

def count (ledger : Ledger) (kind : String) : Nat :=
  match ledger with
  | .lines read => read.countP (isEvent kind)
  | _ => 0

def tests (ledger : Ledger) : Nat :=
  match ledger with
  | .lines read => (read.map testEvidence).sum
  | _ => 0

end Ledger

section Read

variable {observations observations' : ObservationSummary}

theorem getD_insert_count (counts : BTreeMap String Nat) (kind kind' : String) :
    (counts.insert kind (counts.getD kind 0 + 1)).getD kind' 0 =
      counts.getD kind' 0 + (kind == kind').toNat := by
  rw [Std.TreeMap.getD_insert]
  by_cases h : kind = kind'
  · simp [h]
  · simp [h, Std.LawfulEqCmp.compare_eq_iff_eq]

theorem readLine_ok {line : LedgerLine} (h : readLine observations line = .ok observations') :
    (∀ kind, observations'.counts.getD kind 0 =
      observations.counts.getD kind 0 + (isEvent kind line).toNat) ∧
    observations'.testEvidenceCount = observations.testEvidenceCount + testEvidence line := by
  cases line with
  | blank =>
    cases h
    simp [isEvent, testEvidence]
  | invalid => simp [readLine] at h
  | event kind evidence =>
    simp only [readLine] at h
    split at h
    · next hkind =>
      cases evidence with
      | none => simp at h
      | some items =>
        cases h
        exact ⟨fun kind' => getD_insert_count _ kind kind', by simp [testEvidence, hkind]⟩
    · next hkind =>
      cases h
      refine ⟨fun kind' => getD_insert_count _ kind kind', ?_⟩
      cases evidence <;> simp [testEvidence, hkind]

theorem readLines_ok {read : List LedgerLine}
    (h : read.foldlM readLine observations = .ok observations') :
    (∀ kind, observations'.counts.getD kind 0 =
      observations.counts.getD kind 0 + read.countP (isEvent kind)) ∧
    observations'.testEvidenceCount =
      observations.testEvidenceCount + (read.map testEvidence).sum := by
  induction read generalizing observations with
  | nil =>
    cases h
    simp
  | cons line read ih =>
    rw [List.foldlM_cons] at h
    cases hline : readLine observations line with
    | error raised =>
      rw [hline] at h
      cases h
    | ok next =>
      rw [hline] at h
      obtain ⟨hcounts, htests⟩ := ih h
      obtain ⟨hcounts', htests'⟩ := readLine_ok hline
      refine ⟨fun kind => ?_, ?_⟩
      · rw [hcounts, hcounts', List.countP_cons]
        cases isEvent kind line <;> simp
        omega
      · rw [htests, htests', List.map_cons, List.sum_cons, Nat.add_assoc]

theorem readObservationSummary_ok {ledger : Ledger}
    (h : readObservationSummary ledger = .ok observations) :
    (∀ kind, observations.counts.getD kind 0 = ledger.count kind) ∧
      observations.testEvidenceCount = ledger.tests := by
  cases ledger with
  | missing =>
    cases h
    simp [ObservationSummary.empty, Ledger.count, Ledger.tests]
  | unreadable => simp [readObservationSummary] at h
  | oversized => simp [readObservationSummary] at h
  | lines read =>
    obtain ⟨hcounts, htests⟩ := readLines_ok h
    simpa [ObservationSummary.empty, Ledger.count, Ledger.tests] using And.intro hcounts htests

end Read

def given (value : Option String) : Bool :=
  match value with
  | some value => value ≠ ""
  | none => false

def missingWorktree (evidence : DeliveryEvidence) : List String :=
  match evidence.dirtyEntries with
  | none => ["worktree_state_unverified"]
  | some 0 => []
  | some _ => ["worktree_not_clean"]

def missingCommit (job : Job) (evidence : DeliveryEvidence) : List String :=
  let none_ahead := match evidence.commitsAhead with
    | none => true
    | some ahead => ahead < 1
  if !job.allowNoChange && none_ahead then ["no_new_commit"] else []

def missingRemote (evidence : DeliveryEvidence) : List String :=
  if !given evidence.remoteBranchCommit then ["remote_branch_missing"]
  else if evidence.headCommit ≠ evidence.remoteBranchCommit then ["remote_branch_head_mismatch"]
  else []

def missingPullRequest (job : Job) (evidence : DeliveryEvidence) : List String :=
  if job.requirePullRequest then
    if !given evidence.pullRequestUrl then ["pull_request_missing"]
    else
      (if upper (evidence.pullRequestState.getD "") ≠ "OPEN".toList then ["pull_request_not_open"]
        else []) ++
      (if !given evidence.pullRequestHead then ["pull_request_head_unverified"]
        else if !given evidence.remoteBranchCommit ||
            evidence.pullRequestHead ≠ evidence.remoteBranchCommit then
          ["pull_request_head_mismatch"]
        else [])
  else []

def missingObservations (job : Job) (observations : ObservationSummary) : List String :=
  if job.requireObservation then
    (if observations.progressCount < 2 then ["public_progress_incomplete"] else []) ++
    (if observations.reflectionCount < 1 then ["public_reflection_missing"] else [])
  else []

def missingTests (job : Job) (observations : ObservationSummary) : List String :=
  if job.requireTestEvidence && observations.testEvidenceCount < 1 then ["test_evidence_missing"]
  else []

def missingDeliveryRequirements (job : Job) (evidence : DeliveryEvidence)
    (observations : ObservationSummary) : List String :=
  missingWorktree evidence ++ missingCommit job evidence ++ missingRemote evidence ++
    missingPullRequest job evidence ++ missingObservations job observations ++
    missingTests job observations

/-- The contract itself, for so many progress events, reflections and items of test evidence:
everything it asks for is known, and as it should be. -/
structure Delivered (job : Job) (evidence : DeliveryEvidence) (progress reflections tests : Nat) :
    Prop where
  clean : evidence.dirtyEntries = some 0
  ahead : job.allowNoChange = false → ∃ ahead, evidence.commitsAhead = some ahead ∧ 1 ≤ ahead
  pushed : ∃ commit, commit ≠ "" ∧ evidence.headCommit = some commit ∧
    evidence.remoteBranchCommit = some commit
  pullRequest : job.requirePullRequest = true →
    (∃ url, evidence.pullRequestUrl = some url ∧ url ≠ "") ∧
    (∃ state, evidence.pullRequestState = some state ∧ upper state = "OPEN".toList) ∧
    evidence.pullRequestHead = evidence.headCommit
  observed : job.requireObservation = true → 2 ≤ progress ∧ 1 ≤ reflections
  tested : job.requireTestEvidence = true → 1 ≤ tests

section Requirements

variable {job : Job} {evidence : DeliveryEvidence} {observations : ObservationSummary}

theorem given_iff {value : Option String} : given value = true ↔ ∃ v, value = some v ∧ v ≠ "" := by
  cases value with
  | none => simp [given]
  | some v => simp [given]

theorem missingWorktree_eq_nil : missingWorktree evidence = [] ↔ evidence.dirtyEntries = some 0 := by
  simp only [missingWorktree]
  split <;> simp_all

theorem missingCommit_eq_nil : missingCommit job evidence = [] ↔
    (job.allowNoChange = false → ∃ ahead, evidence.commitsAhead = some ahead ∧ 1 ≤ ahead) := by
  cases hj : job.allowNoChange <;> cases h : evidence.commitsAhead <;> simp [missingCommit, h, hj]

theorem missingRemote_eq_nil : missingRemote evidence = [] ↔
    ∃ commit, commit ≠ "" ∧ evidence.headCommit = some commit ∧
      evidence.remoteBranchCommit = some commit := by
  simp only [missingRemote]
  cases h : evidence.remoteBranchCommit with
  | none => simp [given]
  | some commit => by_cases hc : commit = "" <;> simp [given, hc]

theorem missingPullRequest_eq_nil {commit : String} (known : commit ≠ "")
    (pushed : evidence.remoteBranchCommit = some commit) :
    missingPullRequest job evidence = [] ↔ (job.requirePullRequest = true →
      (∃ url, evidence.pullRequestUrl = some url ∧ url ≠ "") ∧
      (∃ state, evidence.pullRequestState = some state ∧ upper state = "OPEN".toList) ∧
      evidence.pullRequestHead = some commit) := by
  cases hj : job.requirePullRequest with
  | false => simp [missingPullRequest, hj]
  | true =>
    have hpushed : given evidence.remoteBranchCommit = true := given_iff.2 ⟨commit, pushed, known⟩
    simp only [missingPullRequest, hj, if_true, forall_const]
    rw [← given_iff]
    cases hurl : given evidence.pullRequestUrl with
    | false => simp
    | true =>
      have hstate : upper (evidence.pullRequestState.getD "") = "OPEN".toList ↔
          ∃ state, evidence.pullRequestState = some state ∧ upper state = "OPEN".toList := by
        cases evidence.pullRequestState with
        | none => simp [upper]
        | some state => simp
      have hhead : given evidence.pullRequestHead = true ∧
          evidence.pullRequestHead = evidence.remoteBranchCommit ↔
          evidence.pullRequestHead = some commit := by
        rw [pushed]
        refine ⟨fun h => h.2, fun h => ⟨?_, h⟩⟩
        rw [h]
        exact given_iff.2 ⟨commit, rfl, known⟩
      rw [← hstate, ← hhead]
      simp only [Bool.not_true, Bool.false_eq_true, if_false, List.append_eq_nil_iff, hpushed,
        Bool.false_or, decide_eq_true_eq, true_and]
      apply and_congr
      · by_cases h : upper (evidence.pullRequestState.getD "") = "OPEN".toList <;> simp [h]
      · cases given evidence.pullRequestHead with
        | false => simp
        | true => by_cases h : evidence.pullRequestHead = evidence.remoteBranchCommit <;> simp [h]

theorem missingObservations_eq_nil : missingObservations job observations = [] ↔
    (job.requireObservation = true →
      2 ≤ observations.progressCount ∧ 1 ≤ observations.reflectionCount) := by
  cases hj : job.requireObservation with
  | false => simp [missingObservations, hj]
  | true =>
    simp only [missingObservations, hj, if_true, forall_const, List.append_eq_nil_iff]
    apply and_congr
    · by_cases h : observations.progressCount < 2 <;> simp [h]
      omega
    · by_cases h : observations.reflectionCount < 1 <;> simp [h]
      omega

theorem missingTests_eq_nil : missingTests job observations = [] ↔
    (job.requireTestEvidence = true → 1 ≤ observations.testEvidenceCount) := by
  cases hj : job.requireTestEvidence with
  | false => simp [missingTests, hj]
  | true =>
    by_cases h : observations.testEvidenceCount < 1 <;> simp [missingTests, hj, h]
    omega

/-- Nothing is missing exactly when the contract is kept; what is not known is missing. -/
theorem missingDeliveryRequirements_eq_nil :
    missingDeliveryRequirements job evidence observations = [] ↔
      Delivered job evidence observations.progressCount observations.reflectionCount
        observations.testEvidenceCount := by
  simp only [missingDeliveryRequirements, List.append_eq_nil_iff, missingWorktree_eq_nil,
    missingCommit_eq_nil, missingRemote_eq_nil, missingObservations_eq_nil, missingTests_eq_nil]
  constructor
  · rintro ⟨⟨⟨⟨⟨clean, ahead⟩, commit, known, head, pushed⟩, pullRequest⟩, observed⟩, tested⟩
    rw [missingPullRequest_eq_nil known pushed] at pullRequest
    refine ⟨clean, ahead, ⟨commit, known, head, pushed⟩, ?_, observed, tested⟩
    rw [head]
    exact pullRequest
  · intro h
    obtain ⟨commit, known, head, pushed⟩ := h.pushed
    refine ⟨⟨⟨⟨⟨h.clean, h.ahead⟩, commit, known, head, pushed⟩, ?_⟩, h.observed⟩, h.tested⟩
    rw [missingPullRequest_eq_nil known pushed, ← head]
    exact h.pullRequest

end Requirements

end ControlPlane.Fleet
