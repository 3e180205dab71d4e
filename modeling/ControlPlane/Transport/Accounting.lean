import ControlPlane.Store.Revision
import ControlPlane.Transport.Handlers

/-! The accounts of the transports: every input is accepted, a duplicate or rejected, and the
totals by transport add up, until a counter reaches its maximum. -/

namespace ControlPlane

def total (counts : BTreeMap String Nat) : Nat := (counts.toList.map Prod.snd).sum

theorem le_total (counts : BTreeMap String Nat) (key : String) :
    counts[key]?.getD 0 ≤ total counts := by
  have hsum := BTreeMap.sum_values_alter counts key fun _ => 0
  rw [total]
  omega

theorem total_increment (counts : BTreeMap String Nat) (h : total counts + 1 < 2 ^ 64)
    (transport : Transport) : total (increment counts transport) = total counts + 1 := by
  have hle := le_total counts transport.asStr
  have hsum := BTreeMap.sum_values_alter counts transport.asStr fun count =>
    U64.wrappingAdd (count.getD 0) 1
  have hwrap : U64.wrappingAdd (counts[transport.asStr]?.getD 0) 1 =
      counts[transport.asStr]?.getD 0 + 1 := Nat.mod_eq_of_lt (by omega)
  rw [hwrap] at hsum
  rw [increment, total, total] at *
  omega

section Store

variable {C : Type → Type → Type} [LruCache C] [CounterArith]

theorem counters_applyEvent (inner : StoreInner C) (envelope : EventEnvelope) :
    (applyEvent inner envelope).counters = inner.counters := by
  have hframe : Frame fun before after : StoreInner C => after.counters = before.counters :=
    .of_field (fun _ _ _ => rfl) fun _ _ _ _ _ => rfl
  exact hframe.event (fun _ _ _ => rfl) inner envelope

theorem counters_accept (inner : StoreInner C) (event : EventEnvelope) (transport : Transport)
    (receivedAt : DateTime) :
    (accept inner event transport receivedAt).counters =
      { inner.counters with
        accepted := U64.saturatingAdd inner.counters.accepted 1
        acceptedByTransport := increment inner.counters.acceptedByTransport transport } := by
  simp only [accept, counters_applyEvent]

inductive Entered (before after : StoreInner C) : Prop
  | accepted (transport : Transport)
    (revision : after.revision = U64.saturatingAdd before.revision 1)
    (counters : after.counters = { before.counters with
      accepted := U64.saturatingAdd before.counters.accepted 1
      acceptedByTransport := increment before.counters.acceptedByTransport transport })
  | duplicate (revision : after.revision = before.revision)
    (counters : after.counters = { before.counters with
      duplicate := U64.saturatingAdd before.counters.duplicate 1 })
  | rejected (transport : Transport) (revision : after.revision = before.revision)
    (counters : after.counters = { before.counters with
      rejected := U64.saturatingAdd before.counters.rejected 1
      rejectedByTransport := increment before.counters.rejectedByTransport transport })

theorem entered_step (inner : StoreInner C) (op : StoreOp) : Entered inner (inner.step op) := by
  cases op with
  | recordRejection transport => exact .rejected transport rfl rfl
  | ingest event transport receivedAt =>
    rw [StoreInner.step]
    unfold ingest
    split
    · exact .rejected transport rfl rfl
    · dsimp only
      split
      · exact .duplicate rfl rfl
      · exact .accepted transport (revision_accept _ _ _ _) (counters_accept _ _ _ _)

end Store

section Books

variable {C : Type → Type → Type} {before after : StoreInner C}

/-- Exactly one of the three counters moved, by one, and the revision with `accepted`. -/
def CountedOnce (before after : StoreInner C) : Prop :=
  (after.counters.accepted = before.counters.accepted + 1 ∧
    after.counters.duplicate = before.counters.duplicate ∧
    after.counters.rejected = before.counters.rejected ∧
    after.revision = before.revision + 1) ∨
  (after.counters.accepted = before.counters.accepted ∧
    after.counters.duplicate = before.counters.duplicate + 1 ∧
    after.counters.rejected = before.counters.rejected ∧ after.revision = before.revision) ∨
  (after.counters.accepted = before.counters.accepted ∧
    after.counters.duplicate = before.counters.duplicate ∧
    after.counters.rejected = before.counters.rejected + 1 ∧ after.revision = before.revision)

structure Balanced (inner : StoreInner C) : Prop where
  revision : inner.revision = inner.counters.accepted
  accepted : inner.counters.accepted = total inner.counters.acceptedByTransport
  rejected : inner.counters.rejected = total inner.counters.rejectedByTransport

/-- The books balance, and no more was entered than there were inputs. -/
structure Books (processed : Nat) (inner : StoreInner C) : Prop where
  balanced : Balanced inner
  entries : inner.counters.accepted + inner.counters.duplicate + inner.counters.rejected ≤ processed

theorem Books.mono {processed more : Nat} (h : Books processed after) (hle : processed ≤ more) :
    Books more after :=
  ⟨h.balanced, h.entries.trans hle⟩

theorem Books.enter {processed : Nat} (h : Books processed before)
    (hroom : processed + 1 < 2 ^ 64) (hentered : Entered before after) :
    Books (processed + 1) after ∧ CountedOnce before after := by
  have hentries := h.entries
  have hrevision := h.balanced.revision
  have haccepted := h.balanced.accepted
  have hrejected := h.balanced.rejected
  cases hentered with
  | accepted transport revision counters =>
    rw [U64.saturatingAdd_of_lt (by omega)] at revision counters
    have htotal := total_increment before.counters.acceptedByTransport (by omega)
      transport
    refine ⟨⟨⟨?_, ?_, ?_⟩, ?_⟩, .inl ⟨?_, ?_, ?_, revision⟩⟩ <;> rw [counters] <;> try rw [revision]
    all_goals dsimp only; omega
  | duplicate revision counters =>
    rw [U64.saturatingAdd_of_lt (by omega)] at counters
    refine ⟨⟨⟨?_, ?_, ?_⟩, ?_⟩, .inr (.inl ⟨?_, ?_, ?_, revision⟩)⟩ <;> rw [counters] <;>
      try rw [revision]
    all_goals dsimp only; omega
  | rejected transport revision counters =>
    rw [U64.saturatingAdd_of_lt (by omega)] at counters
    have htotal := total_increment before.counters.rejectedByTransport (by omega)
      transport
    refine ⟨⟨⟨?_, ?_, ?_⟩, ?_⟩, .inr (.inr ⟨?_, ?_, ?_, revision⟩)⟩ <;> rw [counters] <;>
      try rw [revision]
    all_goals dsimp only; omega

theorem Books.start [LruCache C] (cache : CacheConfig) (startedAt : DateTime) :
    Books 0 (.new cache startedAt : StoreInner C) :=
  ⟨⟨rfl, rfl, rfl⟩, le_rfl⟩

end Books

namespace Endpoint

variable {C : Type → Type → Type} [LruCache C] [CounterArith]

def served (endpoint : Endpoint) (cache : CacheConfig) (startedAt : DateTime)
    (inputs : List (Input × DateTime)) : StoreInner C :=
  Run.after endpoint.process (.new cache startedAt) inputs

variable (endpoint : Endpoint) (cache : CacheConfig) (startedAt : DateTime)

@[simp] theorem served_concat (inputs : List (Input × DateTime)) (input : Input × DateTime) :
    (endpoint.served cache startedAt (inputs ++ [input]) : StoreInner C) =
      endpoint.process (endpoint.served cache startedAt inputs) input := by
  rw [served, Run.after_append]
  rfl

theorem books_served {inputs : List (Input × DateTime)} (hlen : inputs.length < 2 ^ 64) :
    Books inputs.length (endpoint.served cache startedAt inputs : StoreInner C) := by
  induction inputs using List.reverseRecOn with
  | nil => exact Books.start cache startedAt
  | append_singleton inputs input ih =>
    rw [List.length_append, List.length_singleton] at hlen ⊢
    have hbooks := ih (by omega)
    rw [served_concat]
    rcases endpoint.process_eq_or_step (endpoint.served cache startedAt inputs : StoreInner C)
      input with hsame | ⟨op, hstep⟩
    · rw [hsame]
      exact hbooks.mono (Nat.le_succ _)
    · rw [hstep]
      exact (hbooks.enter hlen (entered_step _ op)).1

/-- Fewer than `2 ^ 64` inputs are each counted once, and the books balance after them. -/
theorem accounted_once {inputs : List (Input × DateTime)} (hlen : inputs.length < 2 ^ 64) :
    Balanced (endpoint.served cache startedAt inputs : StoreInner C) ∧
    ∀ before input after, inputs = before ++ input :: after → input.1.isIngestion = true →
      CountedOnce (endpoint.served cache startedAt before : StoreInner C)
        (endpoint.served cache startedAt (before ++ [input])) := by
  refine ⟨(endpoint.books_served cache startedAt hlen).balanced, ?_⟩
  rintro before input after rfl hinput
  rw [List.length_append, List.length_cons] at hlen
  have hbooks : Books before.length (endpoint.served cache startedAt before : StoreInner C) :=
    endpoint.books_served cache startedAt (by omega)
  rw [served_concat]
  obtain ⟨op, hstep⟩ := endpoint.process_step
    (endpoint.served cache startedAt before : StoreInner C) hinput
  rw [hstep]
  exact (hbooks.enter (by omega) (entered_step _ op)).2

end Endpoint

namespace Sample

def oversized : Endpoint.Input × DateTime := (.datagram [0], instant 0)

theorem accounted_once_oversized : [oversized].length < 2 ^ 64 ∧
    Balanced (closed.served cache (instant 0) [oversized] : StoreInner RecencyCache) ∧
    CountedOnce (closed.served cache (instant 0) [] : StoreInner RecencyCache)
      (closed.served cache (instant 0) [oversized]) := by
  have hlen : [oversized].length < 2 ^ 64 := by decide
  have haccounted := closed.accounted_once (C := RecencyCache) cache (instant 0) hlen
  exact ⟨hlen, haccounted.1, haccounted.2 [] oversized [] rfl rfl⟩

theorem process_oversized (inner : StoreInner RecencyCache) :
    closed.process inner oversized = recordRejection inner .udp := rfl

theorem rejected_oversized (n : Nat) :
    (closed.served cache (instant 0) (List.replicate n oversized) :
      StoreInner RecencyCache).counters.rejected = min n U64.MAX := by
  induction n with
  | zero => rfl
  | succ n ih =>
    rw [List.replicate_succ', Endpoint.served_concat, process_oversized]
    rw [recordRejection, ih]
    simp only [U64.saturatingAdd]
    omega

theorem not_countedOnce_oversized {n : Nat} (hn : U64.MAX ≤ n) :
    ¬CountedOnce (closed.served cache (instant 0) (List.replicate n oversized) :
      StoreInner RecencyCache) (closed.served cache (instant 0)
        (List.replicate n oversized ++ [oversized])) := by
  intro hcounted
  have hfull := rejected_oversized n
  rw [min_eq_right hn] at hfull
  rw [Endpoint.served_concat, process_oversized] at hcounted
  rcases hcounted with ⟨haccepted, -⟩ | ⟨-, hduplicate, -⟩ | ⟨-, -, hrejected, -⟩
  · exact absurd haccepted (Nat.ne_of_lt (Nat.lt_succ_self _))
  · exact absurd hduplicate (Nat.ne_of_lt (Nat.lt_succ_self _))
  · rw [recordRejection, hfull] at hrejected
    simp only [U64.saturatingAdd] at hrejected
    omega

theorem rejections_saturate : ¬∀ (endpoint : Endpoint) (cache : CacheConfig) (startedAt : DateTime)
    (inputs before after : List (Endpoint.Input × DateTime)) (input : Endpoint.Input × DateTime),
    inputs = before ++ input :: after → input.1.isIngestion = true →
      CountedOnce (endpoint.served cache startedAt before : StoreInner RecencyCache)
        (endpoint.served cache startedAt (before ++ [input])) := fun h =>
  not_countedOnce_oversized (le_refl U64.MAX)
    (h closed cache (instant 0) _ (List.replicate U64.MAX oversized) [] oversized rfl rfl)

end Sample

end ControlPlane
