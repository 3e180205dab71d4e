import Mathlib.Algebra.Order.BigOperators.Group.List
import ControlPlane.Fleet.Job
import ControlPlane.Fleet.Json
import ControlPlane.Lib.Check

/-! Jobs as files: what is read from a mapping, and what is written to a queue. -/

namespace ControlPlane.Fleet

open Check (bind_eq_ok_iff)

/-- What reading a job raises; a text that cannot be encoded and a file that is no JSON raise
`ValueError`s too, `conversion` is whatever else `int` raises. -/
inductive JobError
  | valueError (message : Text)
  | encoding
  | decode
  | conversion
  deriving DecidableEq, Repr

/-- The parts of Python that the handling of jobs leaves open: lower-casing, `str` and `int` of
values that are neither a text nor an integer, and `json.loads`. -/
class Python where
  lower : Text → Text
  strOf : Json → Text
  intOf : Json → Except JobError Int
  loads : Text → Option Json

def asciiLower (c : CodePoint) : CodePoint :=
  if h : 0x41 ≤ c.val ∧ c.val ≤ 0x5a then ⟨c.val + 0x20, by omega⟩ else c

/-- On ASCII, `lower` works character by character. -/
class LawfulPython [Python] : Prop where
  lower_ascii : ∀ t : Text, (∀ c ∈ t, c.val < 0x80) → Python.lower t = t.map asciiLower

def PROVIDERS : List Text := [text "anthropic", text "openai"]

def MAX_JOB_BYTES : Nat := 128 * 1024

def MAX_TASK_BYTES : Nat := 64 * 1024

def UNSAFE_REF_CHARS : Text := text " ~^:?*[\\"

def JOB_FIELDS : List Text :=
  [text "job_id", text "provider", text "repository", text "task", text "base_ref", text "branch",
    text "timeout_seconds", text "max_attempts", text "priority", text "model",
    text "public_title", text "success_criteria", text "constraints",
    text "require_pull_request", text "require_observation", text "require_test_evidence",
    text "allow_no_change"]

def REQUIRED_FIELDS : List Text :=
  [text "job_id", text "provider", text "repository", text "task"]

/-- `", ".join(names)` -/
def commaJoin (names : List Text) : Text := (text ", ").intercalate names

def natText (n : Nat) : Text := text (toString n)

def check (failed : Prop) [Decidable failed] (message : Text) : Except JobError Unit :=
  if failed then .error (.valueError message) else .ok ()

def utf8 (t : Text) : Except JobError Nat :=
  match t.encodedSize with
  | some size => .ok size
  | none => .error .encoding

namespace CodePoint

def isAlnum (c : CodePoint) : Bool :=
  (0x30 ≤ c.val && c.val ≤ 0x39) || (0x41 ≤ c.val && c.val ≤ 0x5a) ||
    (0x61 ≤ c.val && c.val ≤ 0x7a)

def isIdChar (c : CodePoint) : Bool :=
  c.isAlnum || c.val == 0x2e || c.val == 0x5f || c.val == 0x2d

end CodePoint

/-- `ID_RE.fullmatch` -/
def matchesId : Text → Bool
  | [] => false
  | c :: rest => c.isAlnum && (rest.length ≤ 127 && rest.all CodePoint.isIdChar)

def unsafeRef (candidate : Text) : Prop :=
  candidate = [] ∨
    (text "-" <+: candidate ∨ text "/" <+: candidate ∨ text "." <+: candidate) ∨
    (text "/" <:+ candidate ∨ text "." <:+ candidate ∨ text ".lock" <:+ candidate) ∨
    text ".." <:+: candidate ∨ text "@\x7b" <:+: candidate ∨ text "//" <:+: candidate ∨
    candidate.any fun c => c.val < 32 || UNSAFE_REF_CHARS.contains c

instance (candidate : Text) : Decidable (unsafeRef candidate) :=
  inferInstanceAs (Decidable (_ ∨ _))

def validateGitRef (value field : Text) : Except JobError Text := do
  let candidate := value.strip
  check (unsafeRef candidate) (field ++ text " contains unsafe git-ref characters")
  return candidate

section Strings

variable (field : Text) (maximumBytes : Nat)

def boundedString : Json → Except JobError Text
  | .str item => do
    check (item.strip = []) (field ++ text " contains an invalid string")
    let size ← utf8 item
    check (size > maximumBytes) (field ++ text " contains an invalid string")
    return item.strip
  | _ => .error (.valueError (field ++ text " contains an invalid string"))

def boundedStrings (maximumValues : Nat) : Option Json → Except JobError (List Text)
  | none | some .null => .ok []
  | some (.list items) => do
    check (items.length > maximumValues)
      (field ++ text " must be a list of at most " ++ natText maximumValues ++ text " strings")
    items.mapM (boundedString field maximumBytes)
  | some _ => .error (.valueError
      (field ++ text " must be a list of at most " ++ natText maximumValues ++ text " strings"))

end Strings

namespace Dict

def get (value : Dict) (name : String) : Option Json := value.lookup (text name)

def getD (value : Dict) (name : String) (default : Json) : Json := (value.get name).getD default

def textOf (value : Dict) (name : String) : Text :=
  match value.get name with
  | some (.str t) => t
  | _ => []

end Dict

def isPresent (value : Dict) (name : Text) : Bool :=
  match value.lookup name with
  | some (.str t) => t.strip ≠ []
  | _ => false

def optionalRef (field : Text) : Option Json → Except JobError (Option Text)
  | none | some .null => .ok none
  | some (.str branch) => return some (← validateGitRef branch field)
  | some _ => .error (.valueError (field ++ text " must be a string"))

def modelOf : Option Json → Except JobError (Option Text)
  | none | some .null => .ok none
  | some (.str model) => do
    check (model.length > 128) (text "model must be a string of at most 128 characters")
    return some model
  | some _ => .error (.valueError (text "model must be a string of at most 128 characters"))

def publicTitleOf : Option Json → Except JobError (Option Text)
  | none | some .null => .ok none
  | some (.str title) => do
    let message := text "public_title must be a non-empty string of at most 2048 bytes"
    check (title.strip = []) message
    let size ← utf8 title
    check (size > 2048) message
    return some title.strip
  | some _ => .error (.valueError
      (text "public_title must be a non-empty string of at most 2048 bytes"))

def booleanOf (name : Text) : Json → Except JobError Bool
  | .bool b => .ok b
  | _ => .error (.valueError (name ++ text " must be a boolean"))

def inRange (n low high : Int) (message : Text) : Except JobError Nat := do
  check (¬(low ≤ n ∧ n ≤ high)) message
  return n.toNat

section Mapping

variable [Python]

def pyStr : Json → Text
  | .str t => t
  | v => Python.strOf v

def pyInt : Json → Except JobError Int
  | .int n => .ok n
  | .bool b => .ok b.toNat
  | v => Python.intOf v

def Job.fromMapping (value : Dict) : Except JobError Job := do
  let extras := (value.map Prod.fst).filter (· ∉ JOB_FIELDS)
  check (extras ≠ []) (text "unknown job fields: " ++ commaJoin extras)
  let missing := REQUIRED_FIELDS.filter fun name => !isPresent value name
  check (missing ≠ []) (text "missing non-empty string fields: " ++ commaJoin missing)
  let jobId := (value.textOf "job_id").strip
  check (¬matchesId jobId) (text "job_id must match [a-zA-Z0-9][a-zA-Z0-9._-]\x7b0,127\x7d")
  let provider := Python.lower (value.textOf "provider").strip
  check (provider ∉ PROVIDERS) (text "provider must be one of: " ++ commaJoin PROVIDERS)
  let task := value.textOf "task"
  let taskBytes ← utf8 task
  check (taskBytes > MAX_TASK_BYTES)
    (text "task exceeds the " ++ natText MAX_TASK_BYTES ++ text "-byte limit")
  let repository := (value.textOf "repository").strip
  check (Json.ascii '\n' ∈ repository ∨ Json.ascii '\r' ∈ repository ∨ text "-" <+: repository)
    (text "repository contains unsafe characters")
  let baseRef ← validateGitRef (pyStr (value.getD "base_ref" (.str (text "main")))) (text "base_ref")
  let branch ← optionalRef (text "branch") (value.get "branch")
  let timeoutSeconds ← pyInt (value.getD "timeout_seconds" (.int 3600))
  let maxAttempts ← pyInt (value.getD "max_attempts" (.int 3))
  let priority ← pyInt (value.getD "priority" (.int 100))
  let timeoutSeconds ← inRange timeoutSeconds 60 (24 * 3600)
    (text "timeout_seconds must be between 60 and 86400")
  let maxAttempts ← inRange maxAttempts 1 10 (text "max_attempts must be between 1 and 10")
  let priority ← inRange priority 0 1000 (text "priority must be between 0 and 1000")
  let model ← modelOf (value.get "model")
  let publicTitle ← publicTitleOf (value.get "public_title")
  let requirePullRequest ← booleanOf (text "require_pull_request")
    (value.getD "require_pull_request" (.bool true))
  let requireObservation ← booleanOf (text "require_observation")
    (value.getD "require_observation" (.bool true))
  let requireTestEvidence ← booleanOf (text "require_test_evidence")
    (value.getD "require_test_evidence" (.bool false))
  let allowNoChange ← booleanOf (text "allow_no_change")
    (value.getD "allow_no_change" (.bool false))
  let successCriteria ← boundedStrings (text "success_criteria") 2048 32
    (value.get "success_criteria")
  let constraints ← boundedStrings (text "constraints") 2048 32 (value.get "constraints")
  return {
    jobId, provider, repository, task, baseRef, branch, timeoutSeconds, maxAttempts, priority,
    model, publicTitle, successCriteria, constraints, requirePullRequest, requireObservation,
    requireTestEvidence, allowNoChange }

end Mapping

def Json.option : Option Text → Json
  | some t => .str t
  | none => .null

def Json.texts (ts : List Text) : Json := .list (ts.map .str)

/-- `dataclasses.asdict` -/
def Job.asdict (job : Job) : Dict :=
  [(text "allow_no_change", .bool job.allowNoChange),
    (text "base_ref", .str job.baseRef),
    (text "branch", .option job.branch),
    (text "constraints", .texts job.constraints),
    (text "job_id", .str job.jobId),
    (text "max_attempts", .int job.maxAttempts),
    (text "model", .option job.model),
    (text "priority", .int job.priority),
    (text "provider", .str job.provider),
    (text "public_title", .option job.publicTitle),
    (text "repository", .str job.repository),
    (text "require_observation", .bool job.requireObservation),
    (text "require_pull_request", .bool job.requirePullRequest),
    (text "require_test_evidence", .bool job.requireTestEvidence),
    (text "success_criteria", .texts job.successCriteria),
    (text "task", .str job.task),
    (text "timeout_seconds", .int job.timeoutSeconds)]

theorem check_eq_ok_iff {failed : Prop} [Decidable failed] {message : Text} {u : Unit} :
    check failed message = .ok u ↔ ¬failed := by
  by_cases h : failed <;> simp [check, h]

theorem utf8_eq_ok_iff {t : Text} {size : Nat} : utf8 t = .ok size ↔ t.encodedSize = some size := by
  cases h : t.encodedSize <;> simp [utf8, h]

def Text.Fits (limit : Nat) (t : Text) : Prop := ∃ size, t.encodedSize = some size ∧ size ≤ limit

instance (limit : Nat) (t : Text) : Decidable (t.Fits limit) :=
  decidable_of_iff ((t.encodedSize.map fun size => decide (size ≤ limit)) = some true) (by
    simp [Text.Fits])

theorem Text.Fits.sublist {limit : Nat} {s t : Text} (h : t.Fits limit) (hs : s.Sublist t) :
    s.Fits limit := by
  obtain ⟨size, hsize, hle⟩ := h
  simp only [Text.encodedSize, Option.ite_none_left_eq_some, Option.some.injEq] at hsize
  obtain ⟨hclean, rfl⟩ := hsize
  have hclean' : ¬s.any CodePoint.isSurrogate := by
    intro hany
    obtain ⟨c, hc, hsurrogate⟩ := List.any_eq_true.mp hany
    exact hclean (List.any_eq_true.mpr ⟨c, hs.subset hc, hsurrogate⟩)
  refine ⟨_, if_neg hclean', ((hs.map _).sum_le_sum fun _ _ => Nat.zero_le _).trans hle⟩

theorem Text.strip_sublist (t : Text) : t.strip.Sublist t :=
  (List.rdropWhile_prefix _ _).sublist.trans (List.dropWhile_suffix _).sublist

structure Text.Trimmed (limit : Nat) (t : Text) : Prop where
  strip : t.strip = t
  ne_nil : t ≠ []
  fits : t.Fits limit

theorem Text.Trimmed.of_strip {limit : Nat} {t : Text} (hne : t.strip ≠ []) (h : t.Fits limit) :
    t.strip.Trimmed limit :=
  ⟨Text.strip_strip t, hne, h.sublist t.strip_sublist⟩

structure Bounded (maximumBytes maximumValues : Nat) (ts : List Text) : Prop where
  length_le : ts.length ≤ maximumValues
  trimmed : ∀ t ∈ ts, t.Trimmed maximumBytes

section Accept

variable {field : Text} {maximumBytes maximumValues : Nat}

theorem boundedString_eq_ok {v : Json} {t : Text}
    (h : boundedString field maximumBytes v = .ok t) : t.Trimmed maximumBytes := by
  cases v with
  | str item =>
    simp only [boundedString, bind_eq_ok_iff, check_eq_ok_iff, utf8_eq_ok_iff] at h
    obtain ⟨-, hne, size, hsize, -, hle, ht⟩ := h
    cases ht
    exact .of_strip hne ⟨size, hsize, Nat.not_lt.mp hle⟩
  | _ => cases h

theorem boundedString_str {t : Text} (h : t.Trimmed maximumBytes) :
    boundedString field maximumBytes (.str t) = .ok t := by
  obtain ⟨size, hsize, hle⟩ := h.fits
  simp only [boundedString, bind_eq_ok_iff, check_eq_ok_iff, utf8_eq_ok_iff, h.strip]
  exact ⟨(), h.ne_nil, size, hsize, (), Nat.not_lt.mpr hle, rfl⟩

theorem mapM_boundedString_eq_ok {vs : List Json} {ts : List Text}
    (h : vs.mapM (boundedString field maximumBytes) = .ok ts) :
    ts.length = vs.length ∧ ∀ t ∈ ts, t.Trimmed maximumBytes := by
  induction vs generalizing ts with
  | nil =>
    cases h
    exact ⟨rfl, nofun⟩
  | cons v vs ih =>
    simp only [List.mapM_cons, bind_eq_ok_iff] at h
    obtain ⟨t, ht, rest, hrest, hts⟩ := h
    cases hts
    obtain ⟨hlength, htrimmed⟩ := ih hrest
    refine ⟨congrArg Nat.succ hlength, fun u hu => ?_⟩
    rcases List.mem_cons.mp hu with rfl | hu
    · exact boundedString_eq_ok ht
    · exact htrimmed u hu

theorem mapM_boundedString_str {ts : List Text} (h : ∀ t ∈ ts, t.Trimmed maximumBytes) :
    (ts.map Json.str).mapM (boundedString field maximumBytes) = .ok ts := by
  induction ts with
  | nil => rfl
  | cons t ts ih =>
    simp only [List.map_cons, List.mapM_cons, bind_eq_ok_iff]
    exact ⟨t, boundedString_str (h t List.mem_cons_self), ts,
      ih fun u hu => h u (List.mem_cons_of_mem t hu), rfl⟩

theorem boundedStrings_eq_ok {value : Option Json} {ts : List Text}
    (h : boundedStrings field maximumBytes maximumValues value = .ok ts) :
    Bounded maximumBytes maximumValues ts := by
  match value with
  | none | some .null =>
    cases h
    exact ⟨Nat.zero_le _, nofun⟩
  | some (.list items) =>
    simp only [boundedStrings, bind_eq_ok_iff, check_eq_ok_iff] at h
    obtain ⟨-, hle, hitems⟩ := h
    obtain ⟨hlength, htrimmed⟩ := mapM_boundedString_eq_ok hitems
    exact ⟨hlength ▸ Nat.not_lt.mp hle, htrimmed⟩
  | some (.bool _) | some (.int _) | some (.float _) | some (.str _) | some (.dict _) => cases h

theorem boundedStrings_texts {ts : List Text} (h : Bounded maximumBytes maximumValues ts) :
    boundedStrings field maximumBytes maximumValues (some (.texts ts)) = .ok ts := by
  simp only [Json.texts, boundedStrings, bind_eq_ok_iff, check_eq_ok_iff, List.length_map]
  exact ⟨(), Nat.not_lt.mpr h.length_le, mapM_boundedString_str h.trimmed⟩

structure SafeRef (t : Text) : Prop where
  strip : t.strip = t
  safe : ¬unsafeRef t

theorem validateGitRef_eq_ok {value t : Text} (h : validateGitRef value field = .ok t) :
    SafeRef t := by
  simp only [validateGitRef, bind_eq_ok_iff, check_eq_ok_iff] at h
  obtain ⟨-, hsafe, ht⟩ := h
  cases ht
  exact ⟨Text.strip_strip value, hsafe⟩

theorem validateGitRef_self {t : Text} (h : SafeRef t) : validateGitRef t field = .ok t := by
  simp only [validateGitRef, bind_eq_ok_iff, check_eq_ok_iff, h.strip]
  exact ⟨(), h.safe, rfl⟩

theorem optionalRef_eq_ok {value : Option Json} {branch : Option Text}
    (h : optionalRef field value = .ok branch) : ∀ b, branch = some b → SafeRef b := by
  rintro b rfl
  match value with
  | none | some .null => cases h
  | some (.str t) =>
    simp only [optionalRef, bind_eq_ok_iff] at h
    obtain ⟨u, hu, hb⟩ := h
    cases hb
    exact validateGitRef_eq_ok hu
  | some (.bool _) | some (.int _) | some (.float _) | some (.list _) | some (.dict _) => cases h

theorem optionalRef_option {branch : Option Text} (h : ∀ b, branch = some b → SafeRef b) :
    optionalRef field (some (.option branch)) = .ok branch := by
  cases branch with
  | none => rfl
  | some b =>
    simp only [Json.option, optionalRef, bind_eq_ok_iff]
    exact ⟨b, validateGitRef_self (h b rfl), rfl⟩

theorem modelOf_eq_ok {value : Option Json} {model : Option Text} (h : modelOf value = .ok model) :
    ∀ m, model = some m → m.length ≤ 128 := by
  rintro m rfl
  match value with
  | none | some .null => cases h
  | some (.str t) =>
    simp only [modelOf, bind_eq_ok_iff, check_eq_ok_iff] at h
    obtain ⟨-, hle, hm⟩ := h
    cases hm
    exact Nat.not_lt.mp hle
  | some (.bool _) | some (.int _) | some (.float _) | some (.list _) | some (.dict _) => cases h

theorem modelOf_option {model : Option Text} (h : ∀ m, model = some m → m.length ≤ 128) :
    modelOf (some (.option model)) = .ok model := by
  cases model with
  | none => rfl
  | some m =>
    simp only [Json.option, modelOf, bind_eq_ok_iff, check_eq_ok_iff]
    exact ⟨(), Nat.not_lt.mpr (h m rfl), rfl⟩

theorem publicTitleOf_eq_ok {value : Option Json} {title : Option Text}
    (h : publicTitleOf value = .ok title) : ∀ t, title = some t → t.Trimmed 2048 := by
  rintro t rfl
  match value with
  | none | some .null => cases h
  | some (.str u) =>
    simp only [publicTitleOf, bind_eq_ok_iff, check_eq_ok_iff, utf8_eq_ok_iff] at h
    obtain ⟨-, hne, size, hsize, -, hle, ht⟩ := h
    cases ht
    exact .of_strip hne ⟨size, hsize, Nat.not_lt.mp hle⟩
  | some (.bool _) | some (.int _) | some (.float _) | some (.list _) | some (.dict _) => cases h

theorem publicTitleOf_option {title : Option Text} (h : ∀ t, title = some t → t.Trimmed 2048) :
    publicTitleOf (some (.option title)) = .ok title := by
  cases title with
  | none => rfl
  | some t =>
    have ht := h t rfl
    obtain ⟨size, hsize, hle⟩ := ht.fits
    simp only [Json.option, publicTitleOf, bind_eq_ok_iff, check_eq_ok_iff, utf8_eq_ok_iff,
      ht.strip]
    exact ⟨(), ht.ne_nil, size, hsize, (), Nat.not_lt.mpr hle, rfl⟩

theorem inRange_eq_ok_iff {n low high : Int} {message : Text} {k : Nat} :
    inRange n low high message = .ok k ↔ (low ≤ n ∧ n ≤ high) ∧ n.toNat = k := by
  simp only [inRange, bind_eq_ok_iff, check_eq_ok_iff, not_not]
  constructor
  · rintro ⟨-, hrange, hk⟩
    cases hk
    exact ⟨hrange, rfl⟩
  · rintro ⟨hrange, rfl⟩
    exact ⟨(), hrange, rfl⟩

end Accept

/-- A job as reading returns it. -/
structure Job.Normal (job : Job) : Prop where
  jobId_strip : job.jobId.strip = job.jobId
  jobId : matchesId job.jobId
  provider : job.provider ∈ PROVIDERS
  task_strip : job.task.strip ≠ []
  task : job.task.Fits MAX_TASK_BYTES
  repository_strip : job.repository.strip = job.repository
  repository_ne : job.repository ≠ []
  repository : ¬(Json.ascii '\n' ∈ job.repository ∨ Json.ascii '\r' ∈ job.repository ∨
    text "-" <+: job.repository)
  baseRef : SafeRef job.baseRef
  branch : ∀ b, job.branch = some b → SafeRef b
  timeoutSeconds : 60 ≤ job.timeoutSeconds ∧ job.timeoutSeconds ≤ 24 * 3600
  maxAttempts : 1 ≤ job.maxAttempts ∧ job.maxAttempts ≤ 10
  priority : job.priority ≤ 1000
  model : ∀ m, job.model = some m → m.length ≤ 128
  publicTitle : ∀ t, job.publicTitle = some t → t.Trimmed 2048
  successCriteria : Bounded 2048 32 job.successCriteria
  constraints : Bounded 2048 32 job.constraints

theorem matchesId_ne_nil {jobId : Text} (h : matchesId jobId) : jobId ≠ [] := by
  rintro rfl
  cases h

theorem provider_ne_nil {provider : Text} (h : provider ∈ PROVIDERS) : provider ≠ [] := by
  rintro rfl
  revert h
  decide

theorem isPresent_iff {value : Dict} {name : String} :
    isPresent value (text name) = true ↔ (value.textOf name).strip ≠ [] := by
  unfold isPresent Dict.textOf Dict.get
  split <;> simp [Text.strip]

section Normal

variable [Python]

theorem Job.normal_of_fromMapping {value : Dict} {job : Job}
    (h : Job.fromMapping value = .ok job) : job.Normal := by
  simp only [Job.fromMapping, bind_eq_ok_iff, check_eq_ok_iff, utf8_eq_ok_iff] at h
  obtain ⟨-, -, -, hmissing, -, hid, -, hprovider, taskBytes, htask, -, hbytes, -, hrepository,
    baseRef, hbaseRef, branch, hbranch, timeoutInt, -, attemptsInt, -, priorityInt, -,
    timeoutSeconds, htimeout, maxAttempts, hattempts, priority, hpriority, model, hmodel,
    publicTitle, htitle, requirePullRequest, -, requireObservation, -, requireTestEvidence, -,
    allowNoChange, -, successCriteria, hcriteria, constraints, hconstraints, hjob⟩ := h
  cases hjob
  have hpresent : ∀ name ∈ REQUIRED_FIELDS, isPresent value name = true := by
    simpa using hmissing
  rw [inRange_eq_ok_iff] at htimeout hattempts hpriority
  have htimeout' : 60 ≤ timeoutSeconds ∧ timeoutSeconds ≤ 24 * 3600 := by omega
  have hattempts' : 1 ≤ maxAttempts ∧ maxAttempts ≤ 10 := by omega
  have hpriority' : priority ≤ 1000 := by omega
  exact {
    jobId_strip := Text.strip_strip _
    jobId := not_not.mp hid
    provider := not_not.mp hprovider
    task_strip := isPresent_iff.mp (hpresent (text "task") (by decide))
    task := ⟨taskBytes, htask, Nat.not_lt.mp hbytes⟩
    repository_strip := Text.strip_strip _
    repository_ne := isPresent_iff.mp (hpresent (text "repository") (by decide))
    repository := hrepository
    baseRef := validateGitRef_eq_ok hbaseRef
    branch := optionalRef_eq_ok hbranch
    timeoutSeconds := htimeout'
    maxAttempts := hattempts'
    priority := hpriority'
    model := modelOf_eq_ok hmodel
    publicTitle := publicTitleOf_eq_ok htitle
    successCriteria := boundedStrings_eq_ok hcriteria
    constraints := boundedStrings_eq_ok hconstraints }

section Fields

omit [Python]

variable (job : Job)

theorem get_asdict :
    job.asdict.get "base_ref" = some (.str job.baseRef) ∧
    job.asdict.get "branch" = some (.option job.branch) ∧
    job.asdict.get "timeout_seconds" = some (.int job.timeoutSeconds) ∧
    job.asdict.get "max_attempts" = some (.int job.maxAttempts) ∧
    job.asdict.get "priority" = some (.int job.priority) ∧
    job.asdict.get "model" = some (.option job.model) ∧
    job.asdict.get "public_title" = some (.option job.publicTitle) ∧
    job.asdict.get "require_pull_request" = some (.bool job.requirePullRequest) ∧
    job.asdict.get "require_observation" = some (.bool job.requireObservation) ∧
    job.asdict.get "require_test_evidence" = some (.bool job.requireTestEvidence) ∧
    job.asdict.get "allow_no_change" = some (.bool job.allowNoChange) ∧
    job.asdict.get "success_criteria" = some (.texts job.successCriteria) ∧
    job.asdict.get "constraints" = some (.texts job.constraints) :=
  ⟨rfl, rfl, rfl, rfl, rfl, rfl, rfl, rfl, rfl, rfl, rfl, rfl, rfl⟩

theorem textOf_asdict :
    job.asdict.textOf "job_id" = job.jobId ∧ job.asdict.textOf "provider" = job.provider ∧
      job.asdict.textOf "repository" = job.repository ∧ job.asdict.textOf "task" = job.task :=
  ⟨rfl, rfl, rfl, rfl⟩

theorem extras_asdict : (job.asdict.map Prod.fst).filter (· ∉ JOB_FIELDS) = [] := by
  simp only [Job.asdict, List.map_cons, List.map_nil]
  decide

end Fields

theorem lower_provider [LawfulPython] {provider : Text} (h : provider ∈ PROVIDERS) :
    provider.strip = provider ∧ Python.lower provider = provider := by
  have hascii : ∀ p ∈ PROVIDERS, p.all (fun c => c.val < 0x80) = true ∧ p.map asciiLower = p ∧
      p.strip = p := by decide
  obtain ⟨hlt, hmap, hstrip⟩ := hascii provider h
  have hlower := LawfulPython.lower_ascii provider fun c hc =>
    of_decide_eq_true (List.all_eq_true.mp hlt c hc)
  exact ⟨hstrip, hlower.trans hmap⟩

/-- Writing a job and reading the mapping back returns the job exactly if it is one that
reading can return. -/
theorem Job.fromMapping_asdict_iff [LawfulPython] (job : Job) :
    Job.fromMapping job.asdict = .ok job ↔ job.Normal := by
  refine ⟨Job.normal_of_fromMapping, fun h => ?_⟩
  obtain ⟨hbaseRef, hbranch, htimeout, hattempts, hpriority, hmodel, htitle, hpull, hobservation,
    htest, hchange, hcriteria, hconstraints⟩ := get_asdict job
  obtain ⟨hjobId, hprovider, hrepository, htask⟩ := textOf_asdict job
  obtain ⟨hstrip, hlower⟩ := lower_provider h.provider
  obtain ⟨taskBytes, hencoded, hle⟩ := h.task
  have hmissing : REQUIRED_FIELDS.filter (fun name => !isPresent job.asdict name) = [] := by
    rw [List.filter_eq_nil_iff]
    intro name hname
    simp only [REQUIRED_FIELDS, List.mem_cons, List.not_mem_nil, or_false] at hname
    rw [Bool.not_eq_true', Bool.not_eq_false]
    rcases hname with rfl | rfl | rfl | rfl <;> rw [isPresent_iff]
    · rw [hjobId, h.jobId_strip]
      exact matchesId_ne_nil h.jobId
    · rw [hprovider, hstrip]
      exact provider_ne_nil h.provider
    · rw [hrepository, h.repository_strip]
      exact h.repository_ne
    · rw [htask]
      exact h.task_strip
  have htimeoutRange := h.timeoutSeconds
  have hattemptsRange := h.maxAttempts
  have hpriorityRange := h.priority
  simp only [Job.fromMapping, bind_eq_ok_iff, check_eq_ok_iff, utf8_eq_ok_iff, inRange_eq_ok_iff,
    extras_asdict, hmissing, hjobId, hprovider, hrepository, htask, h.jobId_strip, hstrip, hlower,
    h.repository_strip, Dict.getD, hbaseRef, hbranch, htimeout, hattempts, hpriority, hmodel,
    htitle, hpull, hobservation, htest, hchange, hcriteria, hconstraints, Option.getD_some, pyStr,
    pyInt, booleanOf, not_not]
  exact ⟨(), trivial, (), trivial, (), h.jobId, (), h.provider, taskBytes, hencoded, (),
    Nat.not_lt.mpr hle, (), h.repository, job.baseRef, validateGitRef_self h.baseRef, job.branch,
    optionalRef_option h.branch, job.timeoutSeconds, rfl, job.maxAttempts, rfl, job.priority, rfl,
    job.timeoutSeconds, ⟨by omega, rfl⟩, job.maxAttempts, ⟨by omega, rfl⟩, job.priority,
    ⟨by omega, rfl⟩, job.model, modelOf_option h.model, job.publicTitle,
    publicTitleOf_option h.publicTitle, _, rfl, _, rfl, _, rfl, _, rfl, job.successCriteria,
    boundedStrings_texts h.successCriteria, job.constraints, boundedStrings_texts h.constraints,
    rfl⟩

end Normal

end ControlPlane.Fleet
