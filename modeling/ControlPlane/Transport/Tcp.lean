import ControlPlane.Store.Idempotency
import ControlPlane.Transport.Handlers

/-! One TCP connection of an agent: lines, the frames the framing layer makes of them, and a
reply to each frame. -/

namespace ControlPlane

structure TcpLine where
  bytes : List UInt8
  receivedAt : DateTime

abbrev TcpFrame := Except String String × DateTime

/-- The framing layer: a line decoder, and a stream that ends after the first decoder error. -/
structure FramedRead where
  decode : List UInt8 → Except String String
  frames : List TcpLine → List TcpFrame
  frames_nil : frames [] = []
  frames_of_ok : ∀ {line : TcpLine} {text : String} (lines : List TcpLine),
    decode line.bytes = .ok text → frames (line :: lines) =
      (.ok text, line.receivedAt) :: frames lines
  frames_of_error : ∀ {line : TcpLine} {error : String} (lines : List TcpLine),
    decode line.bytes = .error error → frames (line :: lines) = [(.error error, line.receivedAt)]

namespace FramedRead

variable (framed : FramedRead)

def frameOf (line : TcpLine) : TcpFrame := (framed.decode line.bytes, line.receivedAt)

def IsDecoded (line : TcpLine) : Prop := (framed.decode line.bytes).isOk = true

theorem frames_of_decoded {lines : List TcpLine}
    (h : ∀ line ∈ lines.dropLast, framed.IsDecoded line) :
    framed.frames lines = lines.map framed.frameOf := by
  induction lines with
  | nil => exact framed.frames_nil
  | cons line lines ih =>
    cases hdecode : framed.decode line.bytes with
    | ok text =>
      have htail : framed.frames lines = lines.map framed.frameOf := by
        apply ih
        intro other hother
        cases lines with
        | nil => cases hother
        | cons next lines => exact h other (List.mem_cons_of_mem line hother)
      rw [framed.frames_of_ok lines hdecode, htail, List.map_cons, frameOf, hdecode]
    | error error =>
      cases lines with
      | nil => rw [framed.frames_of_error [] hdecode, List.map_singleton, frameOf, hdecode]
      | cons next lines =>
        have hdecoded := h line List.mem_cons_self
        rw [IsDecoded, hdecode] at hdecoded
        cases hdecoded

theorem decoded_of_length {lines : List TcpLine}
    (h : (framed.frames lines).length = lines.length) :
    ∀ line ∈ lines.dropLast, framed.IsDecoded line := by
  induction lines with
  | nil => exact nofun
  | cons line lines ih =>
    cases hdecode : framed.decode line.bytes with
    | ok text =>
      rw [framed.frames_of_ok lines hdecode, List.length_cons, List.length_cons,
        Nat.succ_inj] at h
      intro other hother
      cases lines with
      | nil => cases hother
      | cons next lines =>
        cases hother with
        | head =>
          rw [IsDecoded, hdecode]
          rfl
        | tail _ hother => exact ih h other hother
    | error error =>
      rw [framed.frames_of_error lines hdecode, List.length_singleton, List.length_cons] at h
      obtain rfl : lines = [] := List.eq_nil_of_length_eq_zero (Nat.succ_inj.mp h).symm
      exact nofun

end FramedRead

namespace Endpoint

variable {C : Type → Type → Type} [LruCache C] [CounterArith]

def handleConnection (endpoint : Endpoint) (inner : StoreInner C) :
    List TcpFrame → StoreInner C × List Reply
  | [] => (inner, [])
  | frame :: frames =>
    let (inner, reply) := endpoint.handleFrame inner frame.1 frame.2
    let (inner, replies) := endpoint.handleConnection inner frames
    (inner, reply :: replies)

def handled (endpoint : Endpoint) (framed : FramedRead) (inner : StoreInner C)
    (lines : List TcpLine) : StoreInner C :=
  Run.after (fun inner line =>
    (endpoint.handleFrame inner (framed.decode line.bytes) line.receivedAt).1) inner lines

structure Carries (endpoint : Endpoint) (framed : FramedRead) (line : TcpLine)
    (event : EventEnvelope) : Prop where
  payload : ∃ text payload, framed.decode line.bytes = .ok text ∧
    endpoint.parser.fromStr text = .ok payload ∧ payload.intoParts.2 = event ∧
    endpoint.auth.authorizeIngest payload.intoParts.1 = .ok ()
  valid : event.validate = .ok ()

/-- A connection that serves every line: one reply a line, in order, to what the line said, and
an acknowledgement for every event that was in one. -/
structure Serves (endpoint : Endpoint) (framed : FramedRead) (inner : StoreInner C)
    (lines : List TcpLine) (outcome : StoreInner C × List Reply) : Prop where
  store : outcome.1 = endpoint.handled framed inner lines
  replies : outcome.2.length = lines.length
  inOrder : ∀ (i : Nat) (line : TcpLine), lines[i]? = some line → outcome.2[i]? =
    some (endpoint.handleFrame (endpoint.handled framed inner (lines.take i))
      (framed.decode line.bytes) line.receivedAt).2
  ingested : ∀ (i : Nat) (line : TcpLine) (event : EventEnvelope), lines[i]? = some line →
    endpoint.Carries framed line event →
    ∃ ack, outcome.2[i]? = some (.ack ack) ∧ ack.accepted = true ∧ ack.eventId = event.eventId

theorem handleFrame_of_carries {endpoint : Endpoint} {framed : FramedRead} {line : TcpLine}
    {event : EventEnvelope} (h : endpoint.Carries framed line event) (inner : StoreInner C) :
    ∃ ack, (endpoint.handleFrame inner (framed.decode line.bytes) line.receivedAt).2 = .ack ack ∧
      ack.accepted = true ∧ ack.eventId = event.eventId := by
  obtain ⟨⟨text, payload, hdecode, hparse, rfl, hauthorized⟩, hvalid⟩ := h
  simp only [handleFrame, hdecode, hparse, hauthorized]
  unfold ingestReply ingest
  simp only [hvalid]
  cases (LruCache.get inner.seenEventIds payload.intoParts.2.eventId).1 with
  | some revision => exact ⟨_, rfl, rfl, rfl⟩
  | none => exact ⟨_, rfl, rfl, rfl⟩

variable (endpoint : Endpoint) (framed : FramedRead)

theorem length_handleConnection (inner : StoreInner C) (frames : List TcpFrame) :
    (endpoint.handleConnection inner frames).2.length = frames.length := by
  induction frames generalizing inner with
  | nil => rfl
  | cons frame frames ih => simp only [handleConnection, List.length_cons, ih]

theorem handleConnection_fst (inner : StoreInner C) (lines : List TcpLine) :
    (endpoint.handleConnection inner (lines.map framed.frameOf)).1 =
      endpoint.handled framed inner lines := by
  induction lines generalizing inner with
  | nil => rfl
  | cons line lines ih =>
    rw [List.map_cons, handleConnection]
    exact ih _

theorem getElem?_handleConnection (inner : StoreInner C) {lines : List TcpLine} {i : Nat}
    {line : TcpLine} (h : lines[i]? = some line) :
    (endpoint.handleConnection inner (lines.map framed.frameOf)).2[i]? =
      some (endpoint.handleFrame (endpoint.handled framed inner (lines.take i))
        (framed.decode line.bytes) line.receivedAt).2 := by
  induction lines generalizing inner i with
  | nil => cases h
  | cons first lines ih =>
    rw [List.map_cons, handleConnection]
    cases i with
    | zero =>
      rw [List.getElem?_cons_zero, Option.some.injEq] at h
      subst h
      rfl
    | succ i =>
      rw [List.getElem?_cons_succ] at h
      exact ih _ h

/-- A connection serves every line iff every line but the last one decodes. -/
theorem serves_iff (inner : StoreInner C) (lines : List TcpLine) :
    endpoint.Serves framed inner lines (endpoint.handleConnection inner (framed.frames lines)) ↔
      ∀ line ∈ lines.dropLast, framed.IsDecoded line := by
  constructor
  · intro h
    apply framed.decoded_of_length
    rw [← h.replies, length_handleConnection]
  · intro h
    rw [framed.frames_of_decoded h]
    refine ⟨endpoint.handleConnection_fst framed inner lines, ?_, ?_, ?_⟩
    · rw [length_handleConnection, List.length_map]
    · intro i line hline
      exact endpoint.getElem?_handleConnection framed inner hline
    · intro i line event hline hcarries
      obtain ⟨ack, hreply, hack⟩ := handleFrame_of_carries hcarries
        (endpoint.handled framed inner (lines.take i))
      exact ⟨ack, by rw [endpoint.getElem?_handleConnection framed inner hline, hreply], hack⟩

end Endpoint

def withoutCarriageReturn (line : List UInt8) : List UInt8 :=
  if line.getLast? = some 13 then line.dropLast else line

def decodeLine (maxLength : Nat) (line : List UInt8) : Except String String :=
  if maxLength < line.length then .error "max line length exceeded"
  else
    match String.fromUTF8? ⟨(withoutCarriageReturn line).toArray⟩ with
    | some text => .ok text
    | none => .error "Unable to decode input as UTF8"

def framesOf (decode : List UInt8 → Except String String) : List TcpLine → List TcpFrame
  | [] => []
  | line :: lines =>
    match decode line.bytes with
    | .ok text => (.ok text, line.receivedAt) :: framesOf decode lines
    | .error error => [(.error error, line.receivedAt)]

def FramedRead.lines (maxLength : Nat) : FramedRead where
  decode := decodeLine maxLength
  frames := framesOf (decodeLine maxLength)
  frames_nil := rfl
  frames_of_ok _ h := by rw [framesOf, h]
  frames_of_error _ h := by rw [framesOf, h]

namespace Sample

def listener : Endpoint := { closed with maxPayloadBytes := 64 * 1024 }

def notUtf8 : TcpLine := ⟨[0xFF], instant 0⟩

def notJson : TcpLine := ⟨[0x78], instant 1⟩

/-- After a line that is not UTF-8 the connection ends, and the next line gets no reply. -/
theorem undecodable_line_ends_connection : ¬∀ (endpoint : Endpoint)
    (inner : StoreInner RecencyCache) (lines : List TcpLine),
    endpoint.Serves (.lines endpoint.maxPayloadBytes) inner lines
      (endpoint.handleConnection inner
        ((FramedRead.lines endpoint.maxPayloadBytes).frames lines)) := by
  intro h
  have hreplies := (h listener (.new cache (instant 0)) [notUtf8, notJson]).replies
  exact absurd hreplies (by decide)

end Sample

end ControlPlane
