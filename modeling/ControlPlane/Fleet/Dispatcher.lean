import ControlPlane.Fleet.QueueFile
import ControlPlane.Lib.Slug

/-! The dispatcher: a job for every item it discovers, put into the queue of a provider. -/

namespace ControlPlane.Fleet

/-- The digest of the UTF-8 bytes of a text. -/
class Hashlib where
  sha256 : Text → BitVec 256

namespace Dispatcher

def PROVIDERS : List Text := [text "openai", text "anthropic"]

inductive Source
  | github
  | linear
  deriving DecidableEq, Repr

def Source.name : Source → Text
  | .github => text "github"
  | .linear => text "linear"

/-- An item as discovered; one from GitHub has no identifier and no priority, one from Linear no
number. -/
structure Item where
  source : Source
  sourceKey : Text
  version : Text
  repository : Text
  title : Text
  url : Text
  body : Text
  identifier : Option Text := none
  number : Option Int := none
  priority : Int := 0
  deriving DecidableEq, Repr

def githubItem (fullName : Text) (number : Int) (updatedAt title url body : Text) : Item where
  source := .github
  sourceKey := text "github:" ++ fullName ++ text "#" ++ Json.decimal number
  version := updatedAt
  repository := fullName
  title := title
  url := url
  body := body
  number := some number

def linearItem (identifier updatedAt repository title url body : Text) (priority : Int) : Item where
  source := .linear
  sourceKey := text "linear:" ++ identifier
  version := updatedAt
  repository := repository
  title := title
  url := url
  body := body
  identifier := some identifier
  priority := priority

section Digest

variable [Hashlib]

/-- `PROVIDERS[digest[0] % len(PROVIDERS)]` -/
def providerOf (sourceKey : Text) : Text :=
  PROVIDERS.get ⟨(Hashlib.sha256 sourceKey).toNat / 2 ^ 248 % PROVIDERS.length,
    Nat.mod_lt _ (by decide)⟩

/-- `hexdigest()[:8]` -/
def suffixOf (version : Text) : Text :=
  ((Hex.padded 64 (Hashlib.sha256 version).toNat).take 8).map CodePoint.ofChar

def providerFor (sourceKey : Text) : Except JobError Text := do
  let _ ← utf8 sourceKey
  return providerOf sourceKey

def versionSuffix (version : Text) : Except JobError Text := do
  let _ ← utf8 version
  return suffixOf version

end Digest

def hyphen : CodePoint := Json.ascii '-'

def isSlugChar (c : CodePoint) : Bool :=
  (0x61 ≤ c.val && c.val ≤ 0x7a) || (0x30 ≤ c.val && c.val ≤ 0x39)

def slug [Python] (value : Text) (maximum : Nat) : Text :=
  let out := Slug.trim hyphen (Slug.collapse isSlugChar hyphen false (Python.lower value))
  Slug.cut hyphen maximum (if out = [] then text "issue" else out)

theorem isSlugChar_hyphen : isSlugChar hyphen = false := by decide

section Slug

variable [Python]

def slugWords (value : Text) : List Text :=
  if Slug.words isSlugChar (Python.lower value) = [] then [text "issue"]
  else Slug.words isSlugChar (Python.lower value)

def joined (value : Text) : Text := Slug.join hyphen (slugWords value)

theorem slugWords_spec (value : Text) : slugWords value ≠ [] ∧
    ∀ w ∈ slugWords value, w ≠ [] ∧ ∀ c ∈ w, isSlugChar c = true := by
  rw [slugWords]
  split_ifs with hnil
  · have hissue : (text "issue").all isSlugChar = true := by decide
    refine ⟨by simp, fun w hw => ?_⟩
    obtain rfl := List.mem_singleton.mp hw
    exact ⟨by decide, List.all_eq_true.mp hissue⟩
  · exact ⟨hnil, fun w hw => ⟨Slug.ne_nil_of_mem_words hw, Slug.isWord_of_mem_words w hw⟩⟩

theorem slug_eq (value : Text) (maximum : Nat) :
    slug value maximum = Slug.cut hyphen maximum (joined value) := by
  have hnil : Slug.join hyphen (Slug.words isSlugChar (Python.lower value)) = [] ↔
      Slug.words isSlugChar (Python.lower value) = [] :=
    Slug.join_eq_nil_iff hyphen fun w hw => Slug.ne_nil_of_mem_words hw
  rw [slug, Slug.trim_collapse isSlugChar_hyphen, joined, slugWords]
  simp only [hnil]
  split_ifs
  · rw [Slug.join_cons]
    rfl
  · rfl

theorem shaped_slug (value : Text) {maximum : Nat} (hmaximum : maximum ≠ 0) :
    Slug.Shaped isSlugChar hyphen (slug value maximum) := by
  obtain ⟨hne, hwords⟩ := slugWords_spec value
  rw [slug_eq]
  exact (Slug.shaped_join hne hwords).cut isSlugChar_hyphen hmaximum

theorem hyphen_not_mem {value w : Text} (hw : w ∈ slugWords value) : hyphen ∉ w := by
  intro hmem
  have hchar := ((slugWords_spec value).2 w hw).2 hyphen hmem
  exact Bool.false_ne_true (isSlugChar_hyphen.symm.trans hchar)

theorem clean_joined (value : Text) : Slug.Clean hyphen (joined value) :=
  Slug.clean_join fun w hw => ⟨((slugWords_spec value).2 w hw).1, hyphen_not_mem hw⟩

theorem slug_eq_iff {value other : Text} {maximum : Nat} :
    slug value maximum = slug other maximum ↔
      Slug.Clash hyphen maximum (joined value) (joined other) := by
  rw [slug_eq, slug_eq, Slug.cut_eq_iff (clean_joined value) (clean_joined other)]

theorem slug_eq_iff_of_length_le {value other : Text} {maximum : Nat}
    (hvalue : (joined value).length ≤ maximum) (hother : (joined other).length ≤ maximum) :
    slug value maximum = slug other maximum ↔ slugWords value = slugWords other := by
  rw [slug_eq_iff, Slug.clash_iff_of_length_le (clean_joined value) (clean_joined other) hvalue hother]
  refine ⟨fun h => ?_, fun h => congrArg (Slug.join hyphen) h⟩
  exact Slug.join_injective hyphen (fun w => hyphen_not_mem) (fun w => hyphen_not_mem)
    (slugWords_spec value).1 (slugWords_spec other).1 h

end Slug

def INSTRUCTIONS : Text :=
  text "Inspect the current repository and issue state before changing anything. Implement the smallest " ++
  text "coherent change that satisfies the issue, preserve unrelated work, run the relevant validation, " ++
  text "publish bounded progress/reflection through meta-agent-observe, commit focused changes, push the " ++
  text "assigned branch, and open or update a pull request. If the issue cannot be completed safely from " ++
  text "this repository, do not invent success: publish a blocker with evidence and leave delivery partial."

namespace Item

variable (item : Item)

def sourceId : Text :=
  orElse item.identifier (text "issue-" ++
    match item.number with
    | some number => Json.decimal number
    | none => text "None")

def name (repository suffix : Text) : Text :=
  item.source.name ++ text "-" ++
    repository.map (fun c => if c = Json.ascii '/' then hyphen else c) ++ text "-" ++
    item.sourceId ++ text "-" ++ suffix

def publicTitle : Text := (item.sourceId ++ text ": " ++ item.title).take 300

def task (repository : Text) : Text :=
  text "Work the real " ++ item.source.name ++ text " item at " ++ item.url ++ text ".\n" ++
    text "Target repository: " ++ repository ++ text ".\n" ++
    text "Title: " ++ item.title ++ text "\n\n" ++
    text "Issue context:\n" ++ orElse (some item.body) (text "(no description)") ++ text "\n\n" ++
    INSTRUCTIONS

def queuePriority : Nat := if item.priority = 1 then 20 else if item.priority = 2 then 40 else 80

def criterion : Text :=
  text "Address the real source item " ++ item.url ++ text " without fabricated evidence."

def successCriteria : List Text :=
  [item.criterion,
    text "Publish at least one bounded progress event and one evidence-backed reflection.",
    text "Run repository-relevant validation and record real test evidence when applicable.",
    text "Push a focused branch and open or update a pull request whose head matches the pushed commit."]

end Item

def CONSTRAINTS : List Text :=
  [text "Never expose provider prompts, transcripts, private reasoning, credentials, or authorization values.",
    text "Do not force-push, rewrite unrelated history, or claim an external action that was not verified.",
    text "Do not broaden work outside the source issue unless required to satisfy its stated acceptance criteria."]

def repositoryUrl (repository : Text) : Text :=
  text "https://github.com/" ++ repository ++ text ".git"

section JobFor

variable [Python]

def Item.jobWith (item : Item) (repository provider suffix : Text) : Job where
  jobId := slug (item.name repository suffix) 120
  provider := provider
  repository := repositoryUrl repository
  task := item.task repository
  baseRef := text "main"
  branch := some (text "agent/" ++ slug item.sourceId 36 ++ text "-" ++ suffix)
  timeoutSeconds := 7200
  maxAttempts := 3
  priority := item.queuePriority
  publicTitle := some item.publicTitle
  successCriteria := item.successCriteria
  constraints := CONSTRAINTS
  requirePullRequest := true
  requireObservation := true
  requireTestEvidence := false
  allowNoChange := false

variable [Hashlib]

def jobFor (item : Item) (repository : Text) : Except JobError Job := do
  let provider ← providerFor item.sourceKey
  let suffix ← versionSuffix item.version
  return item.jobWith repository provider suffix

end JobFor

abbrev StateRoots := Text → Directory

/-- A file that exists under the job's name counts as the job. -/
def queueJob (job : Job) (stateRoots : StateRoots) : StateRoots :=
  if (stateRoots job.provider (fileName job)).isSome then stateRoots
  else Function.update stateRoots job.provider
    (atomicWriteJson (stateRoots job.provider) (fileName job) job.asdict)

abbrev Ledger := Text → Option Text

structure Cycle where
  ledger : Ledger
  stateRoots : StateRoots
  queued : List (Item × Job) := []
  skipped : Nat := 0

section Cycle

variable [Python] [Hashlib]

def Cycle.handle (cycle : Cycle) (item : Item) : Except JobError Cycle :=
  if cycle.ledger item.sourceKey = some item.version then
    .ok { cycle with skipped := cycle.skipped + 1 }
  else if item.repository = [] then
    .ok { cycle with skipped := cycle.skipped + 1 }
  else do
    let job ← jobFor item item.repository
    return { cycle with
      stateRoots := queueJob job cycle.stateRoots
      ledger := Function.update cycle.ledger item.sourceKey (some item.version)
      queued := cycle.queued ++ [(item, job)] }

/-- The cycle from the discovered items on; an error ends it before the ledger is written. -/
def runCycle (ledger : Ledger) (stateRoots : StateRoots) (discovered : List Item) :
    Except JobError Cycle :=
  discovered.foldlM Cycle.handle { ledger, stateRoots }

end Cycle

end Dispatcher

end ControlPlane.Fleet
