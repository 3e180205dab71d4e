import ControlPlane.Timeline.Walk

/-! The texts that the cursor parser accepts, against the grammar of a cursor: a version and four
fields of hexadecimal digits of fixed widths. -/

namespace ControlPlane

class SimpleUuidText [UuidText] : Prop where
  isSome_parseStr : ∀ {text : List Char}, TimelineCursor.len text = 32 →
    ((UuidText.parseStr text).isSome ↔ ∀ c ∈ text, Hex.IsDigit c)
  simple_eq : ∀ {text : List Char} {id : Uuid}, TimelineCursor.len text = 32 →
    UuidText.parseStr text = some id → UuidText.simple id = text.map Hex.lower

class ExactChrono [Chrono] : Prop where
  of_timestampOpt : ∀ {secs : Int} {nanos : Nat} {t : DateTime}, nanos < 10 ^ 9 →
    Chrono.timestampOpt secs nanos = some t → t = ⟨secs, nanos⟩ ∧ Chrono.IsInstant t

def IsTimestamp [Chrono] (t : DateTime) : Prop := Chrono.IsInstant t ∧ t.nanos < 10 ^ 9

namespace TimelineCursor

structure Fields where
  revision : List Char
  seconds : List Char
  nanos : List Char
  eventId : List Char

namespace Fields

def parts (f : Fields) : List (List Char) := [f.revision, f.seconds, f.nanos, f.eventId]

def text (f : Fields) : List Char := ['.'].intercalate (CURSOR_VERSION :: f.parts)

structure Denote (numeral : List Char → Nat → Prop) (f : Fields) (revision : Nat)
    (occurredAt : DateTime) : Prop where
  length_revision : f.revision.length = 16
  length_seconds : f.seconds.length = 16
  length_nanos : f.nanos.length = 8
  length_eventId : f.eventId.length = 32
  revision : numeral f.revision revision
  seconds : ∃ bits, numeral f.seconds bits ∧ occurredAt.secs = I64.ofU64 bits
  nanos : numeral f.nanos occurredAt.nanos
  eventId : ∀ c ∈ f.eventId, Hex.IsDigit c

end Fields

/-- The text is written after the grammar, for a time of which `instant` holds. -/
def Written (numeral : List Char → Nat → Prop) (instant : DateTime → Prop) (text : List Char) :
    Prop :=
  ∃ (f : Fields) (revision : Nat) (occurredAt : DateTime),
    text = f.text ∧ f.Denote numeral revision occurredAt ∧ instant occurredAt

/-- A plus sign stands for the first digit of some number. -/
def Plussed (instant : DateTime → Prop) (text : List Char) : Prop :=
  ∃ (f : Fields) (revision : Nat) (occurredAt : DateTime),
    text = f.text ∧ f.Denote Hex.Signed revision occurredAt ∧ instant occurredAt ∧
      ∃ number ∈ [f.revision, f.seconds, f.nanos], number.head? = some '+'

/-- The text names an instant of a leap second. -/
def Leaping [Chrono] (text : List Char) : Prop :=
  Written Hex.Digits (fun t => Chrono.IsInstant t ∧ 10 ^ 9 ≤ t.nanos) text

section Parse

variable [UuidText] [Chrono]

/-- The parser accepts the text exactly when the grammar does, and what it reads is written as
the text again, its digits in lower case. -/
structure Exact (instant : DateTime → Prop) (text : List Char) : Prop where
  accepts : (∃ cursor, parse text = .ok cursor) ↔ Written Hex.Digits instant text
  encodes : ∀ cursor, parse text = .ok cursor → cursor.encode = text.map Hex.lower

end Parse

namespace Fields

variable {f : Fields} {revision : Nat} {occurredAt : DateTime}

theorem Denote.mono {numeral numeral' : List Char → Nat → Prop}
    (h : f.Denote numeral revision occurredAt)
    (himp : ∀ number ∈ [f.revision, f.seconds, f.nanos], ∀ n, numeral number n → numeral' number n) :
    f.Denote numeral' revision occurredAt := by
  obtain ⟨bits, hbits, hsecs⟩ := h.seconds
  exact { h with
    revision := himp _ (by simp) _ h.revision
    seconds := ⟨bits, himp _ (by simp) _ hbits, hsecs⟩
    nanos := himp _ (by simp) _ h.nanos }

theorem Denote.signed (h : f.Denote Hex.Digits revision occurredAt) :
    f.Denote Hex.Signed revision occurredAt := by
  refine h.mono fun number hnumber n hn => hn.signed ?_
  rw [← List.length_pos_iff]
  simp only [List.mem_cons, List.not_mem_nil, or_false] at hnumber
  rcases hnumber with rfl | rfl | rfl
  · simp [h.length_revision]
  · simp [h.length_seconds]
  · simp [h.length_nanos]

theorem Denote.digits (h : f.Denote Hex.Signed revision occurredAt)
    (hplain : ∀ number ∈ [f.revision, f.seconds, f.nanos], number.head? ≠ some '+') :
    f.Denote Hex.Digits revision occurredAt :=
  h.mono fun number hnumber _ hn => hn.digits (hplain number hnumber)

theorem Denote.isDigit (h : f.Denote Hex.Digits revision occurredAt) {number : List Char}
    (hnumber : number ∈ [f.revision, f.seconds, f.nanos]) {c : Char} (hc : c ∈ number) :
    Hex.IsDigit c := by
  obtain ⟨bits, hbits, -⟩ := h.seconds
  simp only [List.mem_cons, List.not_mem_nil, or_false] at hnumber
  rcases hnumber with rfl | rfl | rfl
  · exact h.revision.digit c hc
  · exact hbits.digit c hc
  · exact h.nanos.digit c hc

theorem Denote.mem (h : f.Denote Hex.Signed revision occurredAt) {field : List Char}
    (hfield : field ∈ f.parts) {c : Char} (hc : c ∈ field) : Hex.IsDigit c ∨ c = '+' := by
  obtain ⟨bits, hbits, -⟩ := h.seconds
  simp only [parts, List.mem_cons, List.not_mem_nil, or_false] at hfield
  rcases hfield with rfl | rfl | rfl | rfl
  · exact h.revision.mem hc
  · exact hbits.mem hc
  · exact h.nanos.mem hc
  · exact .inl (h.eventId c hc)

theorem Denote.len_eq (h : f.Denote Hex.Signed revision occurredAt) {field : List Char}
    (hfield : field ∈ f.parts) : len field = field.length := by
  refine len_of_ascii fun c hc => ?_
  rcases h.mem hfield hc with hdigit | rfl
  · exact hdigit.utf8Size
  · rfl

theorem Denote.splitOn (h : f.Denote Hex.Signed revision occurredAt) :
    f.text.splitOn '.' = CURSOR_VERSION :: f.parts := by
  refine List.splitOn_intercalate '.' (fun field hfield hdot => ?_) (List.cons_ne_nil _ _)
  rcases List.mem_cons.1 hfield with rfl | hfield
  · revert hdot
    decide
  · rcases h.mem hfield hdot with hdigit | hplus
    · revert hdigit
      decide
    · cases hplus

theorem text_eq (f : Fields) : f.text = CURSOR_VERSION ++ '.' :: (f.revision ++
    '.' :: (f.seconds ++ '.' :: (f.nanos ++ '.' :: f.eventId))) := by
  simp [text, parts, List.intercalate, List.intersperse]

theorem Denote.len_text (h : f.Denote Hex.Signed revision occurredAt) : len f.text = 78 := by
  have hversion : len CURSOR_VERSION = 2 := by decide
  rw [text_eq]
  simp only [len_append, len_dot, hversion, h.len_eq (by simp [parts] : f.revision ∈ f.parts),
    h.len_eq (by simp [parts] : f.seconds ∈ f.parts), h.len_eq (by simp [parts] : f.nanos ∈ f.parts),
    h.len_eq (by simp [parts] : f.eventId ∈ f.parts), h.length_revision, h.length_seconds,
    h.length_nanos, h.length_eventId]

theorem Denote.unique (h : f.Denote Hex.Signed revision occurredAt) {f' : Fields} {revision' : Nat}
    {occurredAt' : DateTime} (h' : f'.Denote Hex.Signed revision' occurredAt')
    (htext : f.text = f'.text) : f = f' := by
  have hparts : CURSOR_VERSION :: f.parts = CURSOR_VERSION :: f'.parts := by
    rw [← h.splitOn, ← h'.splitOn, htext]
  simp only [parts, List.cons.injEq, and_true, true_and] at hparts
  obtain ⟨hrevision, hseconds, hnanos, heventId⟩ := hparts
  cases f
  cases f'
  simp_all

theorem Denote.value_eq (h : f.Denote Hex.Signed revision occurredAt) {revision' : Nat}
    {occurredAt' : DateTime} (h' : f.Denote Hex.Signed revision' occurredAt') :
    revision = revision' ∧ occurredAt.nanos = occurredAt'.nanos :=
  ⟨h.revision.2.value.symm.trans h'.revision.2.value, h.nanos.2.value.symm.trans h'.nanos.2.value⟩

end Fields

section Parse

variable [UuidText] [Chrono]

structure Read (f : Fields) (cursor : TimelineCursor) : Prop where
  len_revision : len f.revision = 16
  len_seconds : len f.seconds = 16
  len_nanos : len f.nanos = 8
  len_eventId : len f.eventId = 32
  revision : Hex.fromStrRadix 64 f.revision = some cursor.revision
  occurredAt : ∃ bits nanos, Hex.fromStrRadix 64 f.seconds = some bits ∧
    Hex.fromStrRadix 32 f.nanos = some nanos ∧ nanos < 10 ^ 9 ∧
      Chrono.timestampOpt (I64.ofU64 bits) nanos = some cursor.occurredAt
  eventId : UuidText.parseStr f.eventId = some cursor.eventId

theorem Read.of_parseFields {f : Fields} {cursor : TimelineCursor}
    (h : parseFields f.revision f.seconds f.nanos f.eventId = .ok cursor) : Read f cursor := by
  rw [parseFields] at h
  split at h
  · cases h
  · next hlen =>
    push Not at hlen
    obtain ⟨hlenRevision, hlenSeconds, hlenNanos, hlenEventId⟩ := hlen
    dsimp only at h
    split at h
    · next hread =>
      cases h
      obtain ⟨revision, hrevision, hread⟩ := Option.bind_eq_some_iff.1 hread
      obtain ⟨bits, hbits, hread⟩ := Option.bind_eq_some_iff.1 hread
      obtain ⟨nanos, hnanos, hread⟩ := Option.bind_eq_some_iff.1 hread
      obtain ⟨_, hguard, hread⟩ := Option.bind_eq_some_iff.1 hread
      obtain ⟨occurredAt, htime, hread⟩ := Option.bind_eq_some_iff.1 hread
      obtain ⟨eventId, hid, hread⟩ := Option.bind_eq_some_iff.1 hread
      cases hread
      have hlt : nanos < 10 ^ 9 := (Option.guard_eq_some' ()).1 hguard
      exact ⟨hlenRevision, hlenSeconds, hlenNanos, hlenEventId, hrevision,
        ⟨bits, nanos, hbits, hnanos, hlt, htime⟩, hid⟩
    · cases h

theorem Read.parseFields_eq {f : Fields} {cursor : TimelineCursor} (h : Read f cursor) :
    parseFields f.revision f.seconds f.nanos f.eventId = .ok cursor := by
  obtain ⟨bits, nanos, hbits, hnanos, hlt, htime⟩ := h.occurredAt
  have hlt' : nanos < 1000000000 := hlt
  simp [parseFields, h.len_revision, h.len_seconds, h.len_nanos, h.len_eventId, h.revision,
    hbits, hnanos, hlt', htime, h.eventId, guard]

theorem Read.of_parse {text : List Char} {cursor : TimelineCursor}
    (h : parse text = .ok cursor) : ∃ f : Fields, text = f.text ∧ Read f cursor := by
  rw [parse] at h
  split at h
  · cases h
  · split at h
    · next version revision seconds nanos eventId hsplit =>
      split at h
      · cases h
      · next hversion =>
        obtain rfl := not_not.1 hversion
        refine ⟨⟨revision, seconds, nanos, eventId⟩, ?_, .of_parseFields h⟩
        rw [Fields.text, Fields.parts, ← hsplit, List.intercalate_splitOn]
    · cases h

theorem Fields.Denote.read [LawfulChrono] {f : Fields} {cursor : TimelineCursor}
    (h : f.Denote Hex.Signed cursor.revision cursor.occurredAt)
    (hinstant : IsTimestamp cursor.occurredAt)
    (hid : UuidText.parseStr f.eventId = some cursor.eventId) : Read f cursor := by
  obtain ⟨bits, hbits, hsecs⟩ := h.seconds
  have hrevision := h.revision.lt
  have hlt := hbits.lt
  have hnanos := h.nanos.lt
  rw [h.length_revision] at hrevision
  rw [h.length_seconds] at hlt
  rw [h.length_nanos] at hnanos
  refine ⟨?_, ?_, ?_, ?_, ?_, ⟨bits, cursor.occurredAt.nanos, ?_, ?_, hinstant.2, ?_⟩, hid⟩
  · rw [h.len_eq (by simp [parts]), h.length_revision]
  · rw [h.len_eq (by simp [parts]), h.length_seconds]
  · rw [h.len_eq (by simp [parts]), h.length_nanos]
  · rw [h.len_eq (by simp [parts]), h.length_eventId]
  · exact Hex.fromStrRadix_eq_some.2 ⟨h.revision, hrevision.trans_eq (by decide)⟩
  · exact Hex.fromStrRadix_eq_some.2 ⟨hbits, hlt.trans_eq (by decide)⟩
  · exact Hex.fromStrRadix_eq_some.2 ⟨h.nanos, hnanos.trans_eq (by decide)⟩
  · rw [← hsecs]
    exact LawfulChrono.timestampOpt_eq hinstant.1 hinstant.2

section Grammar

variable [SimpleUuidText]

theorem Read.denote [ExactChrono] {f : Fields} {cursor : TimelineCursor} (h : Read f cursor) :
    f.Denote Hex.Signed cursor.revision cursor.occurredAt ∧ IsTimestamp cursor.occurredAt := by
  obtain ⟨bits, nanos, hbits, hnanos, hlt, htime⟩ := h.occurredAt
  obtain ⟨htime, hinstant⟩ := ExactChrono.of_timestampOpt hlt htime
  have hlength : ∀ {number : List Char} {bits n : Nat},
      Hex.fromStrRadix bits number = some n → len number = number.length := by
    intro number bits n hn
    exact len_of_ascii fun c hc => (Hex.fromStrRadix_eq_some.1 hn).1.utf8Size hc
  have hdigits : ∀ c ∈ f.eventId, Hex.IsDigit c :=
    (SimpleUuidText.isSome_parseStr h.len_eventId).1 (by rw [h.eventId]; rfl)
  refine ⟨⟨?_, ?_, ?_, ?_, ?_, ⟨bits, ?_, ?_⟩, ?_, hdigits⟩, hinstant, ?_⟩
  · rw [← hlength h.revision, h.len_revision]
  · rw [← hlength hbits, h.len_seconds]
  · rw [← hlength hnanos, h.len_nanos]
  · rw [← len_of_ascii fun c hc => (hdigits c hc).utf8Size, h.len_eventId]
  · exact (Hex.fromStrRadix_eq_some.1 h.revision).1
  · exact (Hex.fromStrRadix_eq_some.1 hbits).1
  · rw [htime]
  · rw [htime]
    exact (Hex.fromStrRadix_eq_some.1 hnanos).1
  · rw [htime]
    exact hlt

theorem Read.parse_text [ExactChrono] {f : Fields} {cursor : TimelineCursor} (h : Read f cursor) :
    parse f.text = .ok cursor := by
  obtain ⟨hdenote, -⟩ := h.denote
  rw [parse, hdenote.len_text, hdenote.splitOn]
  simp only [Fields.parts, h.parseFields_eq]
  rfl

theorem parse_isOk_iff [LawfulChrono] [ExactChrono] {text : List Char} :
    (∃ cursor, parse text = .ok cursor) ↔ Written Hex.Signed IsTimestamp text := by
  constructor
  · rintro ⟨cursor, hparse⟩
    obtain ⟨f, rfl, hread⟩ := Read.of_parse hparse
    exact ⟨f, cursor.revision, cursor.occurredAt, rfl, hread.denote⟩
  · rintro ⟨f, revision, occurredAt, rfl, hdenote, hinstant⟩
    have hlen : len f.eventId = 32 := by
      rw [hdenote.len_eq (by simp [Fields.parts]), hdenote.length_eventId]
    obtain ⟨eventId, hid⟩ := Option.isSome_iff_exists.1
      ((SimpleUuidText.isSome_parseStr hlen).2 hdenote.eventId)
    have hread : Read f ⟨revision, occurredAt, eventId⟩ := hdenote.read hinstant hid
    exact ⟨_, hread.parse_text⟩

theorem Read.encode_eq [ExactChrono] {f : Fields} {cursor : TimelineCursor} (h : Read f cursor)
    (hdigits : f.Denote Hex.Digits cursor.revision cursor.occurredAt) :
    cursor.encode = f.text.map Hex.lower := by
  have hpadded : ∀ {number : List Char} {n width : Nat}, Hex.Digits number n →
      number.length = width → Hex.padded width n = number.map Hex.lower := by
    rintro number n width hnumber rfl
    rw [← hnumber.value, Hex.padded_denote hnumber.digit]
  obtain ⟨bits, hbits, hsecs⟩ := hdigits.seconds
  have hlt := Hex.denote_lt hbits.digit
  rw [hbits.value, hdigits.length_seconds] at hlt
  have hdot : Hex.lower '.' = '.' := by decide
  have hversion : CURSOR_VERSION.map Hex.lower = CURSOR_VERSION := by decide
  rw [TimelineCursor.encode_eq, Fields.text_eq, hsecs, I64.toU64_ofU64 (hlt.trans_eq (by decide)),
    hpadded hdigits.revision hdigits.length_revision, hpadded hbits hdigits.length_seconds,
    hpadded hdigits.nanos hdigits.length_nanos, SimpleUuidText.simple_eq h.len_eventId h.eventId]
  simp only [List.map_append, List.map_cons, hdot, hversion]

variable [LawfulChrono] [ExactChrono] {instant : DateTime → Prop} {text : List Char}

theorem not_plussed_of_exact (h : Exact instant text) : ¬Plussed IsTimestamp text := by
  rintro ⟨f, revision, occurredAt, rfl, hsigned, hinstant, number, hnumber, hplus⟩
  obtain ⟨f', _, _, htext, hdigits, -⟩ :=
    h.accepts.1 (parse_isOk_iff.2 ⟨f, revision, occurredAt, rfl, hsigned, hinstant⟩)
  obtain rfl := hsigned.unique hdigits.signed htext
  exact Hex.not_isDigit_plus (hdigits.isDigit hnumber (List.mem_of_head? hplus))

theorem nanos_lt_of_exact (h : Exact instant text) {f : Fields} {revision : Nat}
    {occurredAt : DateTime} (htext : text = f.text) (hdigits : f.Denote Hex.Digits revision occurredAt)
    (hinstant : instant occurredAt) : occurredAt.nanos < 10 ^ 9 := by
  obtain ⟨f', _, _, htext', hsigned, -, hnanos⟩ :=
    parse_isOk_iff.1 (h.accepts.2 ⟨f, revision, occurredAt, htext, hdigits, hinstant⟩)
  obtain rfl := hsigned.unique hdigits.signed (htext'.symm.trans htext)
  rwa [← (hsigned.value_eq hdigits.signed).2]

theorem exact_of_not_plussed (himp : ∀ t, IsTimestamp t → instant t)
    (hplain : ¬Plussed IsTimestamp text)
    (hexact : Written Hex.Digits instant text → Written Hex.Digits IsTimestamp text) :
    Exact instant text := by
  have hdigits : ∀ {f : Fields} {revision : Nat} {occurredAt : DateTime}, text = f.text →
      f.Denote Hex.Signed revision occurredAt → IsTimestamp occurredAt →
        f.Denote Hex.Digits revision occurredAt := by
    intro f revision occurredAt htext hsigned hinstant
    exact hsigned.digits fun number hnumber hplus =>
      hplain ⟨f, revision, occurredAt, htext, hsigned, hinstant, number, hnumber, hplus⟩
  refine ⟨?_, fun cursor hparse => ?_⟩
  · rw [parse_isOk_iff]
    constructor
    · rintro ⟨f, revision, occurredAt, htext, hsigned, hinstant⟩
      exact ⟨f, revision, occurredAt, htext, hdigits htext hsigned hinstant, himp _ hinstant⟩
    · intro hwritten
      obtain ⟨f, revision, occurredAt, htext, hdenote, hinstant⟩ := hexact hwritten
      exact ⟨f, revision, occurredAt, htext, hdenote.signed, hinstant⟩
  · obtain ⟨f, htext, hread⟩ := Read.of_parse hparse
    obtain ⟨hsigned, hinstant⟩ := hread.denote
    rw [hread.encode_eq (hdigits htext hsigned hinstant), htext]

/-- The parser keeps to the grammar exactly where no number starts with a plus sign; if the
instants of leap seconds count, where the text names none of them either. -/
theorem parse_exact_iff (text : List Char) :
    (Exact IsTimestamp text ↔ ¬Plussed IsTimestamp text) ∧
      (Exact Chrono.IsInstant text ↔ ¬Plussed IsTimestamp text ∧ ¬Leaping text) := by
  refine ⟨⟨not_plussed_of_exact, fun h => exact_of_not_plussed (fun _ => id) h id⟩,
    ?_, ?_⟩
  · intro h
    refine ⟨not_plussed_of_exact h, ?_⟩
    rintro ⟨f, revision, occurredAt, htext, hdigits, hinstant, hleap⟩
    exact absurd (nanos_lt_of_exact h htext hdigits hinstant) (not_lt.2 hleap)
  · rintro ⟨hplain, hleap⟩
    refine exact_of_not_plussed (fun _ ht => ht.1) hplain ?_
    rintro ⟨f, revision, occurredAt, htext, hdigits, hinstant⟩
    have hnanos : occurredAt.nanos < 10 ^ 9 := by
      by_contra hge
      exact hleap ⟨f, revision, occurredAt, htext, hdigits, hinstant, not_lt.1 hge⟩
    exact ⟨f, revision, occurredAt, htext, hdigits, hinstant, hnanos⟩

end Grammar

end Parse

end TimelineCursor

namespace Sample

instance simpleUuidText : SimpleUuidText where
  isSome_parseStr := by
    intro text hlen
    have hread : (Hex.read text).isSome ↔ ∀ c ∈ text, Hex.IsDigit c := by
      rw [Option.isSome_iff_exists]
      constructor
      · rintro ⟨n, hn⟩
        exact (Hex.read_eq_some.1 hn).digit
      · exact fun hdigits => ⟨_, Hex.read_eq_some.2 ⟨hdigits, rfl⟩⟩
    rw [← hread]
    by_cases hlength : text.length = 32
    · simp only [UuidText.parseStr, if_pos hlength, Option.isSome_map]
    · simp only [UuidText.parseStr, if_neg hlength, hread]
      constructor
      · intro h
        cases h
      · intro hdigits
        rw [TimelineCursor.len_of_ascii fun c hc => (hdigits c hc).utf8Size] at hlen
        exact absurd hlen hlength
  simple_eq := by
    intro text id hlen hparse
    simp only [UuidText.parseStr] at hparse
    obtain ⟨hlength, hparse⟩ := Option.ite_none_right_eq_some.1 hparse
    obtain ⟨n, hn, rfl⟩ := Option.map_eq_some_iff.1 hparse
    have hdigits := Hex.read_eq_some.1 hn
    have hlt := Hex.denote_lt hdigits.digit
    rw [hdigits.value, hlength] at hlt
    have hmod : n % 2 ^ 128 = n := Nat.mod_eq_of_lt (hlt.trans_eq (by decide))
    simp only [UuidText.simple, BitVec.toNat_ofNat, hmod]
    rw [← Hex.padded_denote hdigits.digit, hlength, hdigits.value]

instance exactChrono : ExactChrono where
  of_timestampOpt := by
    intro secs nanos t _ h
    simp only [Chrono.timestampOpt] at h
    obtain ⟨hrange, h⟩ := Option.ite_none_right_eq_some.1 h
    cases h
    exact ⟨rfl, hrange⟩

theorem signed_of_read {number : List Char} {n : Nat}
    (h : Hex.fromStrRadix 64 number = some n) : Hex.Signed number n :=
  (Hex.fromStrRadix_eq_some.1 h).1

def zeros (width : Nat) : List Char := List.replicate width '0'

theorem signed_zeros : Hex.Signed (zeros 16) 0 ∧ Hex.Signed (zeros 8) 0 :=
  ⟨signed_of_read rfl, signed_of_read rfl⟩

def epoch (revision : List Char) : TimelineCursor.Fields where
  revision := revision
  seconds := zeros 16
  nanos := zeros 8
  eventId := zeros 32

theorem denote_epoch {revision : List Char} {n : Nat} (hlength : revision.length = 16)
    (hrevision : Hex.Signed revision n) : (epoch revision).Denote Hex.Signed n ⟨0, 0⟩ where
  length_revision := hlength
  length_seconds := rfl
  length_nanos := rfl
  length_eventId := rfl
  revision := hrevision
  seconds := ⟨0, signed_zeros.1, rfl⟩
  nanos := signed_zeros.2
  eventId c hc := by
    obtain rfl := List.eq_of_mem_replicate hc
    decide

def upper : TimelineCursor.Fields := epoch "00000000000000fF".toList

theorem denote_upper : upper.Denote Hex.Signed 255 ⟨0, 0⟩ :=
  denote_epoch rfl (signed_of_read rfl)

def plus : TimelineCursor.Fields := epoch "+000000000000001".toList

theorem denote_plus : plus.Denote Hex.Signed 1 ⟨0, 0⟩ :=
  denote_epoch rfl (signed_of_read rfl)

end Sample

namespace TimelineCursor

open Sample

theorem parse_exact_upper : Exact IsTimestamp upper.text := by
  refine (parse_exact_iff _).1.2 ?_
  rintro ⟨f, _, _, htext, hsigned, -, hplus⟩
  obtain rfl := denote_upper.unique hsigned htext
  revert hplus
  decide

/-- A plus sign and 15 digits are read as a revision. -/
theorem parse_plus :
    parse plus.text = .ok ⟨1, ⟨0, 0⟩, 0⟩ ∧ ∀ instant, ¬Written Hex.Digits instant plus.text := by
  constructor
  · have hinstant : IsTimestamp ⟨0, 0⟩ := ⟨⟨by decide, by decide⟩, by decide⟩
    have hread : Read plus ⟨1, ⟨0, 0⟩, 0⟩ := denote_plus.read hinstant (by decide)
    exact hread.parse_text
  · rintro instant ⟨f, _, _, htext, hdigits, -⟩
    obtain rfl := denote_plus.unique hdigits.signed htext
    exact Hex.not_isDigit_plus (hdigits.isDigit List.mem_cons_self List.mem_cons_self)

end TimelineCursor

end ControlPlane
