import ControlPlane.Timeline.Walk

/-! Cursors of events within a leap second.  Their nanoseconds go past `10 ^ 9`, which the
encoding writes and the parser refuses. -/

namespace ControlPlane

namespace TimelineCursor

section Codec

variable [UuidText] [Chrono]

/-- A cursor as a retained event can give rise to: the revision is a `u64` and the time one that
an event can carry. -/
structure Issuable (cursor : TimelineCursor) : Prop where
  revision : cursor.revision < 2 ^ 64
  occurredAt : Chrono.IsInstant cursor.occurredAt
  nanos : cursor.occurredAt.nanos < 2 * 10 ^ 9

theorem parseFields_of_leap {cursor : TimelineCursor} (hnanos : cursor.occurredAt.nanos < 2 ^ 32)
    (hleap : 10 ^ 9 ≤ cursor.occurredAt.nanos) (revision seconds eventId : List Char) :
    parseFields revision seconds (Hex.padded 8 cursor.occurredAt.nanos) eventId =
      .error .invalidCursor := by
  have hsubsec : Hex.fromStrRadix 32 (Hex.padded 8 cursor.occurredAt.nanos) =
      some cursor.occurredAt.nanos :=
    Hex.fromStrRadix_padded (by decide) (by omega) hnanos
  have hrefused : ¬cursor.occurredAt.nanos < 1000000000 := not_lt.2 hleap
  unfold parseFields
  split
  · rfl
  · cases hr : Hex.fromStrRadix 64 revision <;> cases hs : Hex.fromStrRadix 64 seconds <;>
      simp [hsubsec, hrefused, guard]

variable [LawfulUuidText]

theorem parse_encode_of_leap {cursor : TimelineCursor} (h : cursor.Issuable)
    (hleap : 10 ^ 9 ≤ cursor.occurredAt.nanos) : parse cursor.encode = .error .invalidCursor := by
  have hsplit : cursor.encode.splitOn '.' = cursor.fields :=
    List.splitOn_intercalate '.' (fun _ => dot_not_mem) (by simp [fields])
  have hnanos : cursor.occurredAt.nanos < 2 ^ 32 := h.nanos.trans (by decide)
  rw [parse, len_encode, hsplit]
  simp [fields, parseFields_of_leap hnanos hleap]

theorem parse_encode_iff [LawfulChrono] {cursor : TimelineCursor} (h : cursor.Issuable) :
    parse cursor.encode = .ok cursor ↔ cursor.occurredAt.nanos < 10 ^ 9 := by
  constructor
  · intro hparse
    by_contra hleap
    rw [parse_encode_of_leap h (not_lt.1 hleap)] at hparse
    cases hparse
  · exact fun hnanos => parse_encode ⟨h.revision, h.occurredAt, hnanos⟩

end Codec

end TimelineCursor

section Page

variable [UuidText] {snapshot : Snapshot} {policy : TimelinePolicy}
  {cursor : Option TimelineCursor} {page : TimelinePage} {text : List Char}

theorem eq_cutPage (h : buildTimelinePage snapshot policy cursor = .ok page) :
    page = cutPage snapshot policy cursor := by
  have hvalid : policy.validate = .ok policy := by
    cases hv : policy.validate with
    | error error => simp [buildTimelinePage, hv, bind, Except.bind] at h
    | ok valid =>
      unfold TimelinePolicy.validate at hv
      split at hv
      · cases hv
      · exact hv.symm
  rcases buildTimelinePage_cases hvalid snapshot cursor with ⟨_, -, -, hstale⟩ | ⟨-, hcut⟩
  · rw [hstale] at h
    cases h
  · rw [hcut] at h
    exact (Except.ok.inj h).symm

theorem nextCursor_eq (hpage : buildTimelinePage snapshot policy cursor = .ok page)
    (hnext : page.nextCursor = some text) :
    ∃ last ∈ snapshot.recentEvents, page.events.getLast? = some last ∧
      text = (cursorOf snapshot.revision last).encode := by
  rw [eq_cutPage hpage] at hnext ⊢
  unfold cutPage at hnext ⊢
  dsimp only at hnext ⊢
  obtain ⟨-, hmap⟩ := Option.ite_none_right_eq_some.1 hnext
  obtain ⟨last, hlast, rfl⟩ := Option.map_eq_some_iff.1 hmap
  have hretained : last ∈ retained snapshot :=
    List.mem_of_mem_filter (List.mem_of_mem_take (List.mem_of_getLast? hlast))
  exact ⟨last, (retained_perm snapshot).mem_iff.1 hretained, hlast, rfl⟩

variable [Chrono] [LawfulUuidText] [LawfulChrono]

/-- A cursor is read back exactly if its event lies outside a leap second, and so is the cursor
that a page hands out. -/
theorem cursor_round_trip_iff :
    (∀ cursor : TimelineCursor, cursor.Issuable →
      (TimelineCursor.parse cursor.encode = .ok cursor ↔ cursor.occurredAt.nanos < 10 ^ 9)) ∧
    ∀ (snapshot : Snapshot) (policy : TimelinePolicy) (cursor : Option TimelineCursor)
      (page : TimelinePage) (text : List Char),
      (∀ record ∈ snapshot.recentEvents, (cursorOf snapshot.revision record).Issuable) →
      buildTimelinePage snapshot policy cursor = .ok page → page.nextCursor = some text →
      ∃ last ∈ snapshot.recentEvents, page.events.getLast? = some last ∧
        (TimelineCursor.parse text = .ok (cursorOf snapshot.revision last) ↔
          last.event.occurredAt.nanos < 10 ^ 9) := by
  refine ⟨fun cursor h => TimelineCursor.parse_encode_iff h, ?_⟩
  intro snapshot policy cursor page text hissuable hpage hnext
  obtain ⟨last, hmem, hlast, rfl⟩ := nextCursor_eq hpage hnext
  exact ⟨last, hmem, hlast, TimelineCursor.parse_encode_iff (hissuable last hmem)⟩

end Page

namespace Sample

def leap : DateTime := ⟨1483228799, 1500000000⟩

def within (eventId : Uuid) (event : AgentEvent) : StoreOp :=
  .ingest { envelope eventId 0 event with occurredAt := leap } .http leap

def newYear : Snapshot :=
  snapshot (run cache (instant 0) [within 1 (created "a"), within 2 (started "a")] :
    StoreInner RecencyCache) leap

end Sample

open Sample in
/-- A cursor of the second before. -/
theorem cursor_round_trip_before :
    TimelineCursor.parse (TimelineCursor.encode ⟨2, ⟨1483228799, 999999999⟩, 1⟩) =
      .ok ⟨2, ⟨1483228799, 999999999⟩, 1⟩ :=
  (cursor_round_trip_iff.1 ⟨2, ⟨1483228799, 999999999⟩, 1⟩
    ⟨by decide, ⟨by decide, by decide⟩, by decide⟩).2 (by decide)

open Sample in
/-- The first page over two events of the leap second hands out a cursor that is refused. -/
theorem leap_cursor_refused :
    newYear.recentEvents.length = 2 ∧
      ∃ page text, buildTimelinePage newYear ⟨1⟩ none = .ok page ∧ page.nextCursor = some text ∧
        TimelineCursor.parse text = .error .invalidCursor := by
  have hrefused : TimelineCursor.parse (TimelineCursor.encode ⟨2, leap, 2⟩) =
      .error .invalidCursor :=
    TimelineCursor.parse_encode_of_leap ⟨by decide, ⟨by decide, by decide⟩, by decide⟩ (by decide)
  exact ⟨rfl, _, _, rfl, rfl, hrefused⟩

end ControlPlane
