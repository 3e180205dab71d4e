import ControlPlane.Fleet.JobFile

/-! The queue of a runner: the files that are put into it and what the runner reads from them. -/

namespace ControlPlane.Fleet

open Check (bind_eq_ok_iff)

abbrev Directory := Text → Option Text

def fileName (job : Job) : Text := job.jobId ++ text ".json"

def payloadOf (value : Dict) : Text := (Json.dict value).dumps 0 ++ text "\n"

def atomicWriteJson (directory : Directory) (name : Text) (value : Dict) : Directory :=
  Function.update directory name (some (payloadOf value))

def payload (job : Job) : Text := payloadOf job.asdict

section Read

variable [Python]

def loadJson (path contents : Text) (maxBytes : Nat) : Except JobError Dict := do
  check (contents.bytes > maxBytes)
    (path ++ text " exceeds the " ++ natText maxBytes ++ text "-byte limit")
  match Python.loads contents with
  | some (.dict value) => return value
  | some _ => .error (.valueError (path ++ text " must contain one JSON object"))
  | none => .error .decode

/-- `admitted_providers` is the allowlist of the runner. -/
def validateAdmittedJob (admittedProviders : List Text) (job : Job) : Except JobError Unit :=
  check (job.provider ∉ admittedProviders)
    (text "provider " ++ job.provider ++ text " is not admitted by this runner")

/-- How `load_jobs` reads one file; on an error the file goes to `archive/invalid`. -/
def readQueued (admittedProviders : List Text) (name contents : Text) : Except JobError Job := do
  let job ← Job.fromMapping (← loadJson (text "queue/" ++ name) contents MAX_JOB_BYTES)
  validateAdmittedJob admittedProviders job
  return job

def enqueue (admittedProviders : List Text) (queue : Directory) (path contents : Text) :
    Except JobError (Job × Directory) := do
  let job ← Job.fromMapping (← loadJson path contents MAX_JOB_BYTES)
  validateAdmittedJob admittedProviders job
  match queue (fileName job) with
  | some queued =>
    let existing ← Job.fromMapping
      (← loadJson (text "queue/" ++ fileName job) queued MAX_JOB_BYTES)
    check (existing ≠ job)
      (text "queued job " ++ job.jobId ++ text " already exists with different content")
    return (job, queue)
  | none => return (job, atomicWriteJson queue (fileName job) job.asdict)

def Survives (admittedProviders : List Text) (queue : Directory) (job : Job) : Prop :=
  ∃ contents, queue (fileName job) = some contents ∧
    readQueued admittedProviders (fileName job) contents = .ok job

end Read

def optionSize : Option Text → Nat
  | some t => Json.quotedSize t
  | none => 4

def textsSize : List Text → Nat
  | [] => 2
  | ts => 4 + (ts.map fun t => 6 + Json.quotedSize t).sum

def boolSize (b : Bool) : Nat := if b then 4 else 5

def intSize (n : Nat) : Nat := (Nat.toDigits 10 n).length

def Job.size (job : Job) : Nat :=
  335 + boolSize job.allowNoChange + Json.quotedSize job.baseRef + optionSize job.branch +
    textsSize job.constraints + Json.quotedSize job.jobId + intSize job.maxAttempts +
    optionSize job.model + intSize job.priority + Json.quotedSize job.provider +
    optionSize job.publicTitle + Json.quotedSize job.repository +
    boolSize job.requireObservation + boolSize job.requirePullRequest +
    boolSize job.requireTestEvidence + textsSize job.successCriteria +
    Json.quotedSize job.task + intSize job.timeoutSeconds

namespace Json

theorem bytes_str (t : Text) (level : Nat) : ((Json.str t).dumps level).bytes = quotedSize t :=
  bytes_quoted t

theorem bytes_option (t : Option Text) (level : Nat) :
    ((option t).dumps level).bytes = optionSize t := by
  cases t with
  | none => rfl
  | some t => exact bytes_quoted t

theorem bytes_bool (b : Bool) (level : Nat) : ((Json.bool b).dumps level).bytes = boolSize b := by
  cases b <;> rfl

theorem bytes_int (n : Nat) (level : Nat) : ((Json.int n).dumps level).bytes = intSize n := by
  have hdigits : (Json.int n).dumps level = (Nat.toDigits 10 n).map CodePoint.ofChar := by
    rw [dumps, decimal, text, ← Nat.toList_repr]
    rfl
  rw [hdigits, Text.bytes_eq_length, List.length_map, intSize]
  intro c hc
  obtain ⟨d, hd, rfl⟩ := List.mem_map.mp hc
  have hdigit := Nat.isDigit_of_mem_toDigits (by decide) (by decide) hd
  simp only [Char.isDigit, Bool.and_eq_true, decide_eq_true_eq] at hdigit
  have hle : d.toNat ≤ 57 := hdigit.2
  exact hle.trans_lt (by decide)

theorem bytes_dumpsItems (ts : List Text) (level : Nat) :
    (dumpsItems level (ts.map .str)).bytes =
      (ts.map fun t => 2 + 2 * level + quotedSize t).sum := by
  induction ts with
  | nil => rfl
  | cons t ts ih =>
    have hcomma : (text ",").bytes = 1 := rfl
    simp only [List.map_cons, dumpsItems, dumps, Text.bytes_append, bytes_newline, bytes_quoted, ih,
      List.sum_cons, hcomma]
    omega

theorem bytes_texts (ts : List Text) : ((texts ts).dumps 1).bytes = textsSize ts := by
  cases ts with
  | nil => rfl
  | cons t ts =>
    have hopen : (text "[").bytes = 1 := rfl
    have hclose : (text "]").bytes = 1 := rfl
    have hitems : (dumpsItems (1 + 1) (ts.map .str)).bytes =
        (ts.map fun t => 6 + quotedSize t).sum := bytes_dumpsItems ts 2
    simp only [texts, List.map_cons, dumps, Text.bytes_append, bytes_newline, bytes_quoted,
      textsSize, List.sum_cons, hopen, hclose]
    rw [hitems]
    omega

theorem bytes_dumpsEntries (entries : Dict) (level : Nat) :
    (dumpsEntries level entries).bytes =
      (entries.map fun e => 4 + 2 * level + quotedSize e.1 + (e.2.dumps level).bytes).sum := by
  induction entries with
  | nil => rfl
  | cons e entries ih =>
    obtain ⟨key, v⟩ := e
    have hcomma : (text ",").bytes = 1 := rfl
    have hcolon : (text ": ").bytes = 2 := rfl
    simp only [List.map_cons, dumpsEntries, Text.bytes_append, bytes_newline, bytes_quoted, ih,
      List.sum_cons, hcomma, hcolon]
    omega

theorem bytes_dict {entries : Dict} (h : entries ≠ []) :
    ((dict entries).dumps 0).bytes =
      2 + (entries.map fun e => 6 + quotedSize e.1 + (e.2.dumps 1).bytes).sum := by
  cases entries with
  | nil => exact absurd rfl h
  | cons e entries =>
    obtain ⟨key, v⟩ := e
    have hopen : (text "\x7b").bytes = 1 := rfl
    have hclose : (text "\x7d").bytes = 1 := rfl
    have hcolon : (text ": ").bytes = 2 := rfl
    have hentries : (dumpsEntries (0 + 1) entries).bytes =
        (entries.map fun e => 6 + quotedSize e.1 + (e.2.dumps 1).bytes).sum :=
      bytes_dumpsEntries entries 1
    simp only [List.map_cons, dumps, Text.bytes_append, bytes_newline, bytes_quoted,
      List.sum_cons, hopen, hclose, hcolon]
    rw [hentries, Nat.zero_add 1]
    omega

end Json

theorem bytes_payload (job : Job) : (payload job).bytes = job.size := by
  have hnewline : (text "\n").bytes = 1 := rfl
  have hkeys : (job.asdict.map fun e => 6 + Json.quotedSize e.1).sum = 332 := by
    simp only [Job.asdict, List.map_cons, List.map_nil]
    decide
  have hentries : ((Json.dict job.asdict).dumps 0).bytes =
      2 + (job.asdict.map fun e => 6 + Json.quotedSize e.1 + (e.2.dumps 1).bytes).sum :=
    Json.bytes_dict (by simp [Job.asdict])
  rw [List.sum_map_add, hkeys] at hentries
  rw [payload, payloadOf, Text.bytes_append, hentries, hnewline]
  simp only [Job.asdict, List.map_cons, List.map_nil, List.sum_cons, List.sum_nil,
    Json.bytes_option, Json.bytes_texts, Json.bytes_bool, Json.bytes_int, Json.bytes_str,
    Job.size]
  omega

section RoundTrip

variable [Python]

theorem loadJson_payload_iff {job : Job} (hloads : Python.loads (payload job) = some (.dict job.asdict))
    {path : Text} {value : Dict} : loadJson path (payload job) MAX_JOB_BYTES = .ok value ↔
      job.size ≤ MAX_JOB_BYTES ∧ value = job.asdict := by
  simp only [loadJson, bind_eq_ok_iff, check_eq_ok_iff, hloads, bytes_payload]
  constructor
  · rintro ⟨-, hsize, hvalue⟩
    cases hvalue
    exact ⟨Nat.not_lt.mp hsize, rfl⟩
  · rintro ⟨hsize, rfl⟩
    exact ⟨(), Nat.not_lt.mpr hsize, rfl⟩

theorem readQueued_payload_iff [LawfulPython] {job : Job}
    (hloads : Python.loads (payload job) = some (.dict job.asdict)) {admittedProviders : List Text}
    {name : Text} : readQueued admittedProviders name (payload job) = .ok job ↔
      job.provider ∈ admittedProviders ∧ job.size ≤ MAX_JOB_BYTES ∧ job.Normal := by
  simp only [readQueued, bind_eq_ok_iff, loadJson_payload_iff hloads, validateAdmittedJob,
    check_eq_ok_iff]
  constructor
  · rintro ⟨_, ⟨hsize, rfl⟩, read, hread, -, hadmitted, hjob⟩
    cases hjob
    exact ⟨not_not.mp hadmitted, hsize, (Job.fromMapping_asdict_iff job).mp hread⟩
  · rintro ⟨hadmitted, hsize, hnormal⟩
    exact ⟨_, ⟨hsize, rfl⟩, job, (Job.fromMapping_asdict_iff job).mpr hnormal, (),
      not_not.mpr hadmitted, rfl⟩

theorem enqueue_of_loads [LawfulPython] (admittedProviders : List Text) (queue : Directory)
    (path : Text) {contents : Text} {job : Job} (hloads : Python.loads contents = some (.dict job.asdict))
    (hsize : contents.bytes ≤ MAX_JOB_BYTES) (hnormal : job.Normal)
    (hadmitted : job.provider ∈ admittedProviders) (hvacant : queue (fileName job) = none) :
    enqueue admittedProviders queue path contents =
      .ok (job, atomicWriteJson queue (fileName job) job.asdict) := by
  have hload : loadJson path contents MAX_JOB_BYTES = .ok job.asdict := by
    simp only [loadJson, bind_eq_ok_iff, check_eq_ok_iff, hloads]
    exact ⟨(), Nat.not_lt.mpr hsize, rfl⟩
  simp only [enqueue, bind_eq_ok_iff, hload, validateAdmittedJob, check_eq_ok_iff]
  exact ⟨_, rfl, job, (Job.fromMapping_asdict_iff job).mpr hnormal, (), not_not.mpr hadmitted,
    by rw [hvacant]; rfl⟩

/-- What `enqueue` leaves in the queue: the file that was there, which reads as the job, or a file
of its own. -/
theorem enqueue_cases {admittedProviders : List Text} {queue queue' : Directory}
    {path contents : Text} {job : Job}
    (h : enqueue admittedProviders queue path contents = .ok (job, queue')) :
    job.Normal ∧ job.provider ∈ admittedProviders ∧
      ((queue' = queue ∧ Survives admittedProviders queue job) ∨
        (queue (fileName job) = none ∧ queue' (fileName job) = some (payload job))) := by
  simp only [enqueue, bind_eq_ok_iff, validateAdmittedJob, check_eq_ok_iff, not_not] at h
  obtain ⟨value, -, read, hread, -, hadmitted, h⟩ := h
  cases hqueued : queue (fileName read) with
  | some queued =>
    simp only [hqueued, bind_eq_ok_iff, check_eq_ok_iff, not_not] at h
    obtain ⟨value', hvalue', existing, hexisting, -, rfl, h⟩ := h
    cases h
    refine ⟨Job.normal_of_fromMapping hread, hadmitted, .inl ⟨rfl, queued, hqueued, ?_⟩⟩
    simp only [readQueued, bind_eq_ok_iff, validateAdmittedJob, check_eq_ok_iff, not_not]
    exact ⟨value', hvalue', _, hexisting, (), hadmitted, rfl⟩
  | none =>
    simp only [hqueued] at h
    cases h
    exact ⟨Job.normal_of_fromMapping hread, hadmitted,
      .inr ⟨hqueued, Function.update_self _ _ _⟩⟩

theorem enqueue_survives_iff [LawfulPython] {admittedProviders : List Text}
    {queue queue' : Directory} {path contents : Text} {job : Job}
    (h : enqueue admittedProviders queue path contents = .ok (job, queue'))
    (hloads : Python.loads (payload job) = some (.dict job.asdict)) :
    Survives admittedProviders queue' job ↔
      queue (fileName job) ≠ none ∨ job.size ≤ MAX_JOB_BYTES := by
  obtain ⟨hnormal, hadmitted, ⟨rfl, hsurvives⟩ | ⟨hnone, hqueue'⟩⟩ := enqueue_cases h
  · obtain ⟨queued, hqueued, -⟩ := id hsurvives
    exact iff_of_true hsurvives (.inl (by simp [hqueued]))
  · rw [Survives]
    simp only [hqueue', Option.some.injEq, exists_eq_left', readQueued_payload_iff hloads, hnone,
      ne_eq, not_true_eq_false, false_or, hadmitted, hnormal, true_and, and_true]

end RoundTrip

end ControlPlane.Fleet
