import Gatehouse.Proofs.Replay.Calls
import Mathlib.Data.List.Induction

/-! # What a register answers

A register answers a check from the checks that it has accepted before. Under an identifier it keeps
the expiry of the last of them, as long as that has not come: sweeps, purges, refused checks and
the checks of other identifiers leave it as it is.
-/

namespace Gatehouse.ReplayRegister

/-- The calls that have been made and what each was answered. -/
def transcript (r : ReplayRegister) : List Call → List (Call × Option Bool)
  | [] => []
  | c :: calls => (c, (r.perform c).1) :: transcript (r.perform c).2 calls

/-- What a call has put down, if it is a check that was accepted. -/
def sighting? : Call × Option Bool → Option (ReplayKey × Instant)
  | (.check _ key expires, some true) => some (key, expires)
  | _ => none

def sightings (events : List (Call × Option Bool)) : History :=
  events.filterMap sighting?

/-- The checks of an identifier that were accepted. -/
def accepted (key : ReplayKey) (events : List (Call × Option Bool)) : List Call :=
  (events.filter fun e => (sighting? e).any fun s => s.1 = key).map Prod.fst

/-- Among the expiries that have not come, a register keeps the one that its history has under an
identifier. -/
def Records (r : ReplayRegister) (history : History) (now : Instant) (key : ReplayKey) : Prop :=
  ∀ x, now < x → (r.seen.get? key = some x ↔ (key, x) ∈ history)

variable {r r' : ReplayRegister} {history : History} {now t x expires : Instant} {key : ReplayKey}
  {c : Call} {calls past : List Call} {events : List (Call × Option Bool)}

theorem after_append (r : ReplayRegister) (calls : List Call) (c : Call) :
    r.after (calls ++ [c]) = ((r.after calls).perform c).2 := by
  simp [after]

theorem transcript_append (r : ReplayRegister) (calls : List Call) (c : Call) :
    r.transcript (calls ++ [c]) = r.transcript calls ++ [(c, ((r.after calls).perform c).1)] := by
  induction calls generalizing r with
  | nil => rfl
  | cons first calls ih => exact congrArg _ (ih _)

theorem sighting?_eq_some {e : Call × Option Bool} :
    sighting? e = some (key, x) ↔ ∃ t, e = (.check t key x, some true) := by
  constructor
  · intro sighted
    unfold sighting? at sighted
    split at sighted
    · cases sighted
      exact ⟨_, rfl⟩
    · cases sighted
  · intro ⟨t, made⟩
    rw [made]
    rfl

theorem mem_sightings : (key, x) ∈ sightings events ↔
    ∃ t, (Call.check t key x, some true) ∈ events := by
  simp only [sightings, List.mem_filterMap, sighting?_eq_some]
  constructor
  · intro ⟨e, mem, t, made⟩
    exact ⟨t, made ▸ mem⟩
  · intro ⟨t, mem⟩
    exact ⟨_, mem, t, rfl⟩

theorem get?_unexpired (later : now < x) :
    (r.unexpired now).get? key = some x ↔ r.seen.get? key = some x := by
  rw [unexpired, Table.get?_filter, Option.filter_eq_some_iff]
  exact and_iff_left (decide_eq_true later)

theorem get?_swept (later : now < x) :
    (r.swept now).seen.get? key = some x ↔ r.seen.get? key = some x := by
  rw [swept]
  split
  · exact get?_unexpired later
  · exact Iff.rfl

theorem Records.later (h : r.Records history now key) (le : now ≤ t) : r.Records history t key :=
  fun x later => h x (Instant.lt_of_le_of_lt le later)

/-- A check is refused where an expiry is on record that has not come. -/
theorem Records.refused_iff (h : r.Records history now key) :
    (r.check now key expires).1 = false ↔ ∃ x, (key, x) ∈ history ∧ now < x := by
  rw [check_eq, Bool.not_eq_false', holds_iff]
  constructor
  · intro ⟨x, found, later⟩
    exact ⟨x, (h x later).1 found, later⟩
  · intro ⟨x, mem, later⟩
    exact ⟨x, (h x later).2 mem, later⟩

theorem Records.same_answer (h : r.Records history now key) (h' : r'.Records history now key)
    (expires : Instant) : (r.check now key expires).1 = (r'.check now key expires).1 := by
  rw [← Bool.not_inj_iff, Bool.eq_iff_iff]
  simp only [Bool.not_eq_true']
  exact h.refused_iff.trans h'.refused_iff.symm

theorem Records.check (h : r.Records history t key) (k : ReplayKey) (expires : Instant) :
    (r.check t k expires).2.Records
      (history ++ (if (r.check t k expires).1 then [(k, expires)] else [])) t key := by
  intro x later
  have kept : (r.swept t).seen.get? key = some x ↔ (key, x) ∈ history :=
    (get?_swept later).trans (h x later)
  rw [ReplayRegister.check]
  cases held : (r.swept t).holds t k with
  | true => simpa [held] using kept
  | false =>
      simp only [Bool.false_eq_true, if_false, if_true, Table.get?_insert, List.mem_append,
        List.mem_singleton, Prod.mk.injEq]
      by_cases same : key = k
      · subst same
        -- An expiry that has not come would have made the register refuse.
        have none : (key, x) ∉ history := by
          intro mem
          have holds := holds_iff.2 ⟨x, kept.2 mem, later⟩
          cases held.symm.trans holds
        simp [none, eq_comm]
      · simpa [same] using kept

/-- What an accepted check puts down is the only change to the record. -/
theorem Records.perform (h : r.Records history c.now key) :
    (r.perform c).2.Records (history ++ (sighting? (c, (r.perform c).1)).toList) c.now key := by
  cases c with
  | check t k expires =>
      have next := Records.check (t := t) h k expires
      simp only [ReplayRegister.perform, Prod.map]
      cases answer : (r.check t k expires).1 with
      | true =>
          rw [answer] at next
          exact next
      | false =>
          rw [answer] at next
          exact next
  | purge t =>
      intro x later
      simp only [ReplayRegister.perform, sighting?, Option.toList, List.append_nil]
      exact (get?_unexpired later).trans (h x later)

theorem records_empty (sweep : Sweep) : (empty sweep).Records [] now key := by
  intro x _
  simp [empty, Table.get?_empty]

theorem sightings_transcript (r : ReplayRegister) (calls : List Call) (c : Call) :
    sightings (r.transcript (calls ++ [c])) = sightings (r.transcript calls) ++
      (sighting? (c, ((r.after calls).perform c).1)).toList := by
  rw [transcript_append, sightings, List.filterMap_append]
  rfl

/-- A register that starts empty keeps what its accepted checks have put down. -/
theorem records_after (sweep : Sweep) (clock : calls.Pairwise fun a b => a.now ≤ b.now)
    (onward : ∀ c ∈ calls, c.now ≤ now) :
    ((empty sweep).after calls).Records (sightings ((empty sweep).transcript calls)) now key := by
  -- From the end, so that what is known before a call is known at the instant of the call.
  induction calls using List.reverseRecOn generalizing now with
  | nil => exact records_empty sweep
  | append_singleton calls c ih =>
      obtain ⟨clock, -, last⟩ := List.pairwise_append.1 clock
      have before := ih clock fun a mem => last a mem c (List.mem_singleton_self c)
      rw [after_append, sightings_transcript]
      exact before.perform.later (onward c (by simp))

theorem accepted_append (key : ReplayKey) (e : Call × Option Bool) :
    accepted key (events ++ [e]) =
      accepted key events ++ if (sighting? e).any (fun s => s.1 = key) then [e.1] else [] := by
  rw [accepted, List.filter_append, List.map_append, accepted]
  cases made : (sighting? e).any fun s => s.1 = key <;> simp [made]

/-- So does one on which no other calls are made than the accepted checks of the identifier. -/
theorem records_accepted (sweep other : Sweep) (clock : calls.Pairwise fun a b => a.now ≤ b.now)
    (onward : ∀ c ∈ calls, c.now ≤ now) :
    ((empty other).after (accepted key ((empty sweep).transcript calls))).Records
      (sightings ((empty sweep).transcript calls)) now key := by
  induction calls using List.reverseRecOn generalizing now with
  | nil => exact records_empty other
  | append_singleton calls c ih =>
      obtain ⟨clock, -, last⟩ := List.pairwise_append.1 clock
      have upTo : ∀ a ∈ calls, a.now ≤ c.now :=
        fun a mem => last a mem c (List.mem_singleton_self c)
      have whole : ((empty sweep).after calls).Records _ c.now key := records_after sweep clock upTo
      have part := ih clock upTo
      refine Records.later ?_ (onward c (by simp))
      rw [sightings_transcript, transcript_append, accepted_append]
      cases made : sighting? (c, (((empty sweep).after calls).perform c).1) with
      | none => simpa using part
      | some s =>
          obtain ⟨k, x⟩ := s
          obtain ⟨t, same⟩ := sighting?_eq_some.1 made
          obtain ⟨rfl, answer⟩ := Prod.mk.inj same
          by_cases own : k = key
          · subst own
            -- The check is accepted here too, since both registers have the same on record.
            have whole : ((empty sweep).after calls).Records _ t k := whole
            have part : ((empty other).after _).Records _ t k := part
            have taken : (((empty sweep).after calls).check t k x).1 = true :=
              Option.some.inj answer
            have next := Records.check part k x
            rw [part.same_answer whole, taken] at next
            simpa [after_append, ReplayRegister.perform, Call.now] using next
          · intro y later
            simpa [own, Ne.symm own] using part y later

/-- Whatever calls have been made on a register that starts empty, while the clock has not gone
back: a check is refused exactly if an earlier check of its identifier was accepted with an expiry
that has not come. That expiry is the one on record. The register answers as if it had been asked
nothing but the accepted checks of the identifier, however often it is swept. -/
theorem check_refused_iff_accepted (sweep : Sweep)
    (clock : past.Pairwise fun a b => a.now ≤ b.now) (onward : ∀ c ∈ past, c.now ≤ now)
    (key : ReplayKey) (expires : Instant) :
    let r := (empty sweep).after past
    let events := (empty sweep).transcript past
    ((r.check now key expires).1 = false ↔
      ∃ t x, (Call.check t key x, some true) ∈ events ∧ now < x) ∧
    (∀ x, now < x →
      (r.seen.get? key = some x ↔ ∃ t, (Call.check t key x, some true) ∈ events)) ∧
    ∀ other : Sweep, (r.check now key expires).1 =
      (((empty other).after (accepted key events)).check now key expires).1 := by
  intro r events
  have whole : r.Records (sightings events) now key := records_after sweep clock onward
  refine ⟨?_, ?_, ?_⟩
  · rw [whole.refused_iff]
    simp only [mem_sightings]
    constructor
    · intro ⟨x, ⟨t, mem⟩, later⟩
      exact ⟨t, x, mem, later⟩
    · intro ⟨t, x, mem, later⟩
      exact ⟨x, ⟨t, mem⟩, later⟩
  · intro x later
    exact (whole x later).trans mem_sightings
  · intro other
    exact whole.same_answer (records_accepted sweep other clock onward) expires

/-- Two checks of one identifier, of which the second would keep it for longer, a purge, and a
check of the identifier in another context. -/
def sampleCalls : List Call :=
  [.check (.ofSecond 0) ⟨"SAML", "_m1"⟩ (.ofSecond 10),
    .check (.ofSecond 4) ⟨"SAML", "_m1"⟩ (.ofSecond 90), .purge (.ofSecond 6),
    .check (.ofSecond 8) ⟨"SAML1", "_m1"⟩ (.ofSecond 90)]

/-- The identifier is kept until the expiry of the check that was accepted, and no longer. -/
theorem sampleCalls_refused_until :
    sampleCalls.Pairwise (fun a b => a.now ≤ b.now) ∧ (∀ c ∈ sampleCalls, c.now ≤ .ofSecond 9) ∧
      (((empty {}).after sampleCalls).check (.ofSecond 9) ⟨"SAML", "_m1"⟩ (.ofSecond 90)).1 = false ∧
      (((empty {}).after sampleCalls).check (.ofSecond 10) ⟨"SAML", "_m1"⟩ (.ofSecond 90)).1 =
        true := by
  have clock : sampleCalls.Pairwise fun a b => a.now ≤ b.now := by decide +kernel
  have onward : ∀ c ∈ sampleCalls, c.now ≤ .ofSecond 9 := by decide +kernel
  have onward' : ∀ c ∈ sampleCalls, c.now ≤ .ofSecond 10 :=
    fun c mem => Instant.le_trans (onward c mem) (by decide)
  have before := check_refused_iff_accepted {} clock onward ⟨"SAML", "_m1"⟩ (.ofSecond 90)
  have after := check_refused_iff_accepted {} clock onward' ⟨"SAML", "_m1"⟩ (.ofSecond 90)
  refine ⟨clock, onward, ?_, ?_⟩
  · exact before.1.2 ⟨.ofSecond 0, .ofSecond 10, by decide +kernel, by decide⟩
  · rw [after.2.2 {}]
    decide +kernel

end Gatehouse.ReplayRegister
