import ControlPlane.Fleet.JobFile
import ControlPlane.Lib.Binary64

/-! What the hook adapter reads out of the payloads of agents. -/

namespace ControlPlane.Hooks

open Fleet (CodePoint Text Json Dict text)

/-- The parts of Python that the adapter leaves open: which characters are letters or digits,
`float` of a text, and `uuid5` of the UTF-8 bytes of a name. -/
class Python where
  isalnum : CodePoint → Bool
  float : Text → Option F64
  uuid5 : Text → Uuid

/-- On ASCII, `isalnum` is true of the letters and the digits. -/
class LawfulPython [Python] : Prop where
  isalnum_ascii : ∀ c : CodePoint, c.val < 0x80 → Python.isalnum c = c.isAlnum

inductive Raised
  /-- An integer is too large for a float. -/
  | overflow
  /-- A lone surrogate has no UTF-8. -/
  | encoding
  deriving DecidableEq, Repr

/-- `str(value).strip()[:256]` of a value that is neither a collection nor nothing at all. -/
def textOf (value : Option Json) : Option Text :=
  let rendered : Option Text :=
    match value with
    | none | some .null | some (.list _) | some (.dict _) => none
    | some (.bool b) => some (text (if b then "True" else "False"))
    | some (.int n) => some (Json.decimal n)
    | some (.float digits) => some digits
    | some (.str t) => some t
  (rendered.map Text.strip).bind fun stripped =>
    if stripped = [] then none else some (stripped.take 256)

def notNull : Json → Option Json
  | .null => none
  | value => some value

def first (payload : Dict) (keys : List String) : Option Json :=
  keys.findSome? fun key => (payload.get key).bind notNull

def nestedDict (payload : Dict) (keys : List String) : Option Dict :=
  match first payload keys with
  | some (.dict entries) => some entries
  | _ => none

def nestedOrEmpty (payload : Dict) (key : String) : Dict := (nestedDict payload [key]).getD []

variable [Python]

def isSafe (c : CodePoint) : Bool := Python.isalnum c || (text "._:/-").contains c

def identifier (value : Option Json) (fallback : Text) : Text :=
  match textOf value with
  | none => fallback
  | some candidate =>
    let safe := (candidate.filter isSafe).take 256
    if safe = [] then fallback else safe

def isTruthy : Json → Bool
  | .null => false
  | .bool b => b
  | .int n => n != 0
  | .float digits => (Python.float digits).any fun x => x.magnitude != 0
  | .str t => !t.isEmpty
  | .list items => !items.isEmpty
  | .dict entries => !entries.isEmpty

def orElse (a b : Option Json) : Option Json := if a.any isTruthy then a else b

def finite (x : F64) : Option F64 := if x.isFinite then some x else none

def finiteNumber : Option Json → Except Raised (Option F64)
  | some (.bool b) => .ok (some (F64.ofNat b.toNat))
  | some (.int n) =>
    let x := F64.ofRat n false
    if x.isInf then .error .overflow else .ok (some x)
  | some (.float digits) | some (.str digits) => .ok ((Python.float digits).bind finite)
  | _ => .ok none

def numericField (payload : Dict) (keys : List String) : Except Raised (Option Nat) := do
  let parsed ← finiteNumber (first payload keys)
  return (parsed.filter fun x => 0 ≤ x.toRat).map fun x => ⌊x.toRat⌋₊

abbrev Totals := Nat × Nat

def codexTokenTotals (params : Dict) : Except Raised (Option Totals) :=
  match nestedDict params ["tokenUsage", "token_usage", "usage"] with
  | none => .ok none
  | some usage => do
    let totals := nestedDict usage
      ["total", "totalUsage", "total_usage", "totalTokenUsage", "total_token_usage"]
    let selected := (totals.filter fun totals => !totals.isEmpty).getD usage
    let inputTokens ← numericField selected
      ["inputTokens", "input_tokens", "promptTokens", "prompt_tokens"]
    let outputTokens ← numericField selected
      ["outputTokens", "output_tokens", "completionTokens", "completion_tokens"]
    return if inputTokens.isNone && outputTokens.isNone then none
      else some (inputTokens.getD 0, outputTokens.getD 0)

def threadId (params : Dict) : Option Text :=
  (textOf (first params ["threadId", "thread_id"])).or
    (textOf (first (nestedOrEmpty params "thread") ["id", "threadId", "thread_id"]))

def turnId (params : Dict) : Option Text :=
  (textOf (first params ["turnId", "turn_id"])).or
    (textOf (first (nestedOrEmpty params "turn") ["id", "turnId", "turn_id"]))

/-- An id that is the same whenever the notification is; a fresh one where nothing names it. -/
def codexEventId (method : Text) (threadId turnId itemId suffix : Option Text) (uuid4 : Uuid) :
    Except Raised Uuid :=
  let named := [threadId.getD [], turnId.getD [], itemId.getD [], suffix.getD []]
  if named.all List.isEmpty then .ok uuid4
  else
    let name := text "meta-agent:" ++ (text "|").intercalate (method :: named)
    if name.any CodePoint.isSurrogate then .error .encoding else .ok (Python.uuid5 name)

/-- What the operator sets for an adapter: `--agent-id` and `--model`, and the variables that
stand in for them. -/
structure Settings where
  agentIdOverride : Option Text
  modelOverride : Option Text
  META_AGENT_ID : Option Text
  META_AGENT_MODEL : Option Text
  /-- `platform.system().lower()` -/
  platform : Text

namespace Settings

variable (settings : Settings)

def isSet (value : Option Text) : Option Text := value.filter fun value => !value.isEmpty

def configuredId : Option Text := (isSet settings.agentIdOverride).or (isSet settings.META_AGENT_ID)

def configuredModel : Option Text :=
  (isSet settings.modelOverride).or (isSet settings.META_AGENT_MODEL)

def overrideAgentId (pre : Text) (sessionId : Option Text) : Text :=
  match settings.configuredId with
  | some configured => identifier (some (.str configured)) (pre ++ text ":host")
  | none => pre ++ text ":" ++ identifier (sessionId.map .str) (text "host")

def overrideModel (payloadModel : Option Json) : Text :=
  identifier ((settings.configuredModel.map .str).or payloadModel) (text "unreported")

end Settings

end ControlPlane.Hooks
