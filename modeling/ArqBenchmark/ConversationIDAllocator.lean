import Mathlib.Data.Finset.Card
import Mathlib.Data.FinEnum
import ArqBenchmark.Loops
import ArqBenchmark.Runs
import ArqBenchmark.SequenceNumber

namespace ArqBenchmark

structure ConversationIDError where
  what : String
deriving DecidableEq, Repr

def ConversationIDError.noMoreIDs : ConversationIDError := ⟨"No more conversation IDs to allocate"⟩

structure ConversationIDAllocator where
  lastAllocated : ConversationID
  allocatedIDs : Finset ConversationID
deriving DecidableEq

namespace ConversationIDAllocator

def new : ConversationIDAllocator := ⟨0, ∅⟩

def contains (a : ConversationIDAllocator) (id : ConversationID) : Bool := decide (id ∈ a.allocatedIDs)

/-- There is no result when `probes` turns of the loop are not enough. -/
def getNewID (probes : ℕ) (a : ConversationIDAllocator) :
    Option (Except ConversationIDError ConversationID × ConversationIDAllocator) :=
  if a.allocatedIDs.card = 255 + 1 then some (.error .noMoreIDs, a)
  else
    (Loops.advanceWhile (· + 1) a.contains probes a.lastAllocated).map fun id =>
      (.ok id, { lastAllocated := id, allocatedIDs := insert id a.allocatedIDs })

def registerID (a : ConversationIDAllocator) (id : ConversationID) : Bool × ConversationIDAllocator :=
  (!a.contains id, { a with allocatedIDs := insert id a.allocatedIDs })

def releaseID (a : ConversationIDAllocator) (id : ConversationID) : Bool × ConversationIDAllocator :=
  (a.contains id, { a with allocatedIDs := a.allocatedIDs.erase id })

def probed (last : ConversationID) (n : ℕ) : ConversationID := last + 1 + UInt8.ofNat n

theorem iterate_eq_probed (last : ConversationID) (n : ℕ) : (· + 1)^[n + 1] last = probed last n := by
  induction n with
  | zero => exact (UInt8.add_zero (last + 1)).symm
  | succ n ih =>
    rw [Function.iterate_succ_apply', ih, probed, probed, UInt8.ofNat_add, UInt8.add_assoc]
    rfl

theorem exists_probed (last id : ConversationID) : ∃ n < 256, probed last n = id := by
  refine ⟨(id - (last + 1)).toNat, UInt8.toNat_lt _, ?_⟩
  rw [probed, UInt8.ofNat_toNat, UInt8.add_comm, UInt8.sub_add_cancel]

def FirstFree (inUse : ConversationID → Prop) (last id : ConversationID) : Prop :=
  ∃ n < 256, probed last n = id ∧ ¬ inUse id ∧ ∀ i < n, inUse (probed last i)

theorem card_eq_iff (ids : Finset ConversationID) : ids.card = 255 + 1 ↔ ∀ id, id ∈ ids := by
  have hcard : Fintype.card ConversationID = 255 + 1 := FinEnum.card_eq_fintypeCard.symm
  rw [← hcard, Finset.card_eq_iff_eq_univ, Finset.eq_univ_iff_forall]

theorem getNewID_full {a : ConversationIDAllocator} (h : ∀ id, id ∈ a.allocatedIDs) (probes : ℕ) :
    a.getNewID probes = some (.error .noMoreIDs, a) :=
  if_pos ((card_eq_iff a.allocatedIDs).mpr h)

theorem getNewID_free {a : ConversationIDAllocator} (h : ¬ ∀ id, id ∈ a.allocatedIDs) :
    ∃ id, a.getNewID 256 = some (.ok id, ⟨id, insert id a.allocatedIDs⟩) ∧
      FirstFree (· ∈ a.allocatedIDs) a.lastAllocated id := by
  obtain ⟨free, hfree⟩ := not_forall.mp h
  have hprobe : ∃ n < 256, a.contains ((· + 1)^[n + 1] a.lastAllocated) = false := by
    obtain ⟨n, hn, hid⟩ := exists_probed a.lastAllocated free
    refine ⟨n, hn, ?_⟩
    rw [iterate_eq_probed, hid]
    exact decide_eq_false hfree
  obtain ⟨n, hn, hloop, hstop, hgo⟩ := Loops.advanceWhile_rule hprobe
  simp only [iterate_eq_probed] at hloop hstop hgo
  refine ⟨probed a.lastAllocated n, ?_, n, hn, rfl, of_decide_eq_false hstop, ?_⟩
  · rw [getNewID, if_neg (fun hcard => h ((card_eq_iff _).mp hcard)), hloop]
    rfl
  · intro i hi
    exact of_decide_eq_true (hgo i hi)

inductive Call
  | getNewID
  | registerID (id : ConversationID)
  | releaseID (id : ConversationID)

inductive Event
  | returned (id : ConversationID)
  | thrown (error : ConversationIDError)
  | registered (id : ConversationID)
  | released (id : ConversationID)
deriving DecidableEq

def InUse (history : List Event) (id : ConversationID) : Prop :=
  ∃ before e after, history = before ++ e :: after ∧ (e = .returned id ∨ e = .registered id) ∧
    .released id ∉ after

/-- The ID that `getNewID` has returned last, and 0 before it has returned one. -/
def previous (history : List Event) : ConversationID :=
  history.foldl (fun last e => match e with
    | .returned id => id
    | _ => last) 0

section History

variable {history before after : List Event} {e e' : Event} {id id' : ConversationID}

theorem concat_eq (h : history ++ [e] = before ++ e' :: after) : before = history ∧ e' = e ∧ after = [] ∨
    ∃ rest, after = rest ++ [e] ∧ history = before ++ e' :: rest := by
  rcases List.eq_nil_or_concat after with rfl | ⟨rest, x, rfl⟩
  · obtain ⟨rfl, h'⟩ := List.append_inj' h rfl
    cases h'
    exact .inl ⟨rfl, rfl, rfl⟩
  · rw [List.concat_eq_append, ← List.cons_append, ← List.append_assoc] at h
    obtain ⟨rfl, h'⟩ := List.append_inj' h rfl
    cases h'
    exact .inr ⟨rest, List.concat_eq_append, rfl⟩

theorem inUse_concat : InUse (history ++ [e]) id ↔
    (e = .returned id ∨ e = .registered id) ∨ InUse history id ∧ e ≠ .released id := by
  constructor
  · rintro ⟨before, e', after, heq, htakes, hkept⟩
    rcases concat_eq heq with ⟨rfl, rfl, rfl⟩ | ⟨rest, rfl, rfl⟩
    · exact .inl htakes
    · rw [List.mem_append, not_or, List.mem_singleton] at hkept
      exact .inr ⟨⟨before, e', rest, rfl, htakes, hkept.1⟩, fun h => hkept.2 h.symm⟩
  · rintro (htakes | ⟨⟨before, e', after, rfl, htakes, hkept⟩, hother⟩)
    · exact ⟨history, e, [], rfl, htakes, List.not_mem_nil⟩
    · refine ⟨before, e', after ++ [e], List.append_assoc _ _ _, htakes, ?_⟩
      rw [List.mem_append, not_or, List.mem_singleton]
      exact ⟨hkept, fun h => hother h.symm⟩

theorem inUse_nil : ¬ InUse [] id := by
  rintro ⟨before, e, after, h, -⟩
  cases before <;> cases h

theorem inUse_returned : InUse (history ++ [.returned id']) id ↔ id = id' ∨ InUse history id := by
  simp only [inUse_concat, Event.returned.injEq, reduceCtorEq, or_false, ne_eq, not_false_eq_true,
    and_true, eq_comm]

theorem inUse_thrown {error : ConversationIDError} :
    InUse (history ++ [.thrown error]) id ↔ InUse history id := by
  simp only [inUse_concat, reduceCtorEq, or_self, ne_eq, not_false_eq_true, and_true, false_or]

theorem inUse_registered : InUse (history ++ [.registered id']) id ↔ id = id' ∨ InUse history id := by
  simp only [inUse_concat, Event.registered.injEq, reduceCtorEq, false_or, ne_eq, not_false_eq_true,
    and_true, eq_comm]

theorem inUse_released : InUse (history ++ [.released id']) id ↔ id ≠ id' ∧ InUse history id := by
  simp only [inUse_concat, Event.released.injEq, reduceCtorEq, or_self, ne_eq, false_or, eq_comm,
    and_comm]

theorem previous_concat (history : List Event) (e : Event) : previous (history ++ [e]) = match e with
    | .returned id => id
    | _ => previous history := by
  rw [previous, List.foldl_append]
  cases e <;> rfl

end History

structure Recorded where
  allocator : ConversationIDAllocator
  history : List Event

namespace Recorded

def new : Recorded := ⟨.new, []⟩

def next (s : Recorded) : Call → Option Recorded
  | .getNewID =>
    match s.allocator.getNewID 256 with
    | some (.ok id, a) => some ⟨a, s.history ++ [.returned id]⟩
    | some (.error error, a) => some ⟨a, s.history ++ [.thrown error]⟩
    | none => none
  | .registerID id => some ⟨(s.allocator.registerID id).2, s.history ++ [.registered id]⟩
  | .releaseID id => some ⟨(s.allocator.releaseID id).2, s.history ++ [.released id]⟩

structure Accounted (s : Recorded) : Prop where
  used : ∀ id, id ∈ s.allocator.allocatedIDs ↔ InUse s.history id
  last : s.allocator.lastAllocated = previous s.history
  unique : ∀ before id after, s.history = before ++ .returned id :: after → ¬ InUse before id

variable {s t : Recorded} {id : ConversationID}

theorem new_accounted : new.Accounted where
  used id := iff_of_false (Finset.notMem_empty id) inUse_nil
  last := rfl
  unique before id after h := by cases before <;> cases h

theorem Accounted.unique_concat (h : s.Accounted) {e : Event}
    (he : ∀ id, e = .returned id → ¬ InUse s.history id) :
    ∀ before id after, s.history ++ [e] = before ++ .returned id :: after → ¬ InUse before id := by
  intro before id after heq
  rcases concat_eq heq with ⟨rfl, hlast, -⟩ | ⟨rest, -, hrest⟩
  · exact he id hlast.symm
  · exact h.unique before id rest hrest

theorem Accounted.returns (h : s.Accounted) (hfree : ¬ InUse s.history id) :
    Accounted ⟨⟨id, insert id s.allocator.allocatedIDs⟩, s.history ++ [.returned id]⟩ where
  used i := by rw [Finset.mem_insert, h.used, inUse_returned]
  last := (previous_concat s.history (.returned id)).symm
  unique := h.unique_concat fun i hi => by
    cases hi
    exact hfree

theorem Accounted.throws (h : s.Accounted) (error : ConversationIDError) :
    Accounted ⟨s.allocator, s.history ++ [.thrown error]⟩ where
  used i := by rw [h.used, inUse_thrown]
  last := by rw [h.last, previous_concat]
  unique := h.unique_concat nofun

theorem Accounted.registers (h : s.Accounted) (id : ConversationID) :
    Accounted ⟨(s.allocator.registerID id).2, s.history ++ [.registered id]⟩ where
  used i := by rw [registerID, Finset.mem_insert, h.used, inUse_registered]
  last := h.last.trans (previous_concat s.history (.registered id)).symm
  unique := h.unique_concat nofun

theorem Accounted.releases (h : s.Accounted) (id : ConversationID) :
    Accounted ⟨(s.allocator.releaseID id).2, s.history ++ [.released id]⟩ where
  used i := by rw [releaseID, Finset.mem_erase, h.used, inUse_released]
  last := h.last.trans (previous_concat s.history (.released id)).symm
  unique := h.unique_concat nofun

structure Allocates (s : Recorded) : Prop where
  throws_iff : (∃ error a, s.allocator.getNewID 256 = some (.error error, a)) ↔ ∀ id, InUse s.history id
  throws : ∀ error a, s.allocator.getNewID 256 = some (.error error, a) → error = .noMoreIDs ∧ a = s.allocator
  returns : (∃ id, ¬ InUse s.history id) → ∃ id, FirstFree (InUse s.history) (previous s.history) id ∧
    s.allocator.getNewID 256 = some (.ok id, ⟨id, insert id s.allocator.allocatedIDs⟩)

theorem Accounted.getNewID_full (h : s.Accounted) (hfull : ∀ id, InUse s.history id) :
    s.allocator.getNewID 256 = some (.error .noMoreIDs, s.allocator) :=
  ConversationIDAllocator.getNewID_full (fun id => (h.used id).mpr (hfull id)) 256

theorem Accounted.getNewID_free (h : s.Accounted) (hfree : ∃ id, ¬ InUse s.history id) :
    ∃ id, FirstFree (InUse s.history) (previous s.history) id ∧
      s.allocator.getNewID 256 = some (.ok id, ⟨id, insert id s.allocator.allocatedIDs⟩) := by
  have hused : (· ∈ s.allocator.allocatedIDs) = InUse s.history := funext fun id => propext (h.used id)
  have hnotall : ¬ ∀ id, id ∈ s.allocator.allocatedIDs := by
    obtain ⟨id, hid⟩ := hfree
    exact fun hall => hid ((h.used id).mp (hall id))
  obtain ⟨id, hget, hfirst⟩ := ConversationIDAllocator.getNewID_free hnotall
  rw [hused, h.last] at hfirst
  exact ⟨id, hfirst, hget⟩

theorem Accounted.allocates (h : s.Accounted) : s.Allocates := by
  by_cases hfull : ∀ id, InUse s.history id
  · have hget := h.getNewID_full hfull
    refine ⟨iff_of_true ⟨_, _, hget⟩ hfull, ?_, fun ⟨id, hid⟩ => absurd (hfull id) hid⟩
    intro error a heq
    rw [hget] at heq
    cases heq
    exact ⟨rfl, rfl⟩
  · obtain ⟨id, hfirst, hget⟩ := h.getNewID_free (not_forall.mp hfull)
    refine ⟨iff_of_false ?_ hfull, ?_, fun _ => ⟨id, hfirst, hget⟩⟩
    · rintro ⟨error, a, heq⟩
      rw [hget] at heq
      cases heq
    · intro error a heq
      rw [hget] at heq
      cases heq

theorem Accounted.next (h : s.Accounted) (c : Call) : ∃ t, s.next c = some t ∧ t.Accounted := by
  cases c with
  | getNewID =>
    by_cases hfull : ∀ id, InUse s.history id
    · refine ⟨_, ?_, h.throws .noMoreIDs⟩
      rw [Recorded.next, h.getNewID_full hfull]
    · obtain ⟨id, hfirst, hget⟩ := h.getNewID_free (not_forall.mp hfull)
      obtain ⟨n, -, -, hfree, -⟩ := hfirst
      refine ⟨_, ?_, h.returns hfree⟩
      rw [Recorded.next, hget]
  | registerID id => exact ⟨_, rfl, h.registers id⟩
  | releaseID id => exact ⟨_, rfl, h.releases id⟩

theorem ids_unique (calls : List Call) : ∃ s, Runs.replay next new calls = some s ∧
    s.Allocates ∧ (∀ id, id ∈ s.allocator.allocatedIDs ↔ InUse s.history id) ∧
    ∀ before id after, s.history = before ++ .returned id :: after → ¬ InUse before id := by
  obtain ⟨s, hs, h⟩ := Runs.replay_of_invariant (fun s c (h : s.Accounted) => h.next c) new_accounted calls
  exact ⟨s, hs, h.allocates, h.used, h.unique⟩

end Recorded

end ConversationIDAllocator

end ArqBenchmark
