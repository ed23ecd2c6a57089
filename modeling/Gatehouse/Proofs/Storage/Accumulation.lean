import Gatehouse.Proofs.Replay.Answers
import Gatehouse.Proofs.Storage.Calls
import Gatehouse.Proofs.Storage.Sweeping

/-! # Expired entries do not accumulate

A store is swept when something is to be created in it, a replay register when it is asked about an
identifier. Whatever else is done with them, what they hold just after that has been put in since
the last sweep or had not expired by then.
-/

namespace Gatehouse

variable {interval : Duration} {now : Instant}

namespace Store

/-- The record that a call has put in, if it has created one. -/
def write? : Call × Answer → Option (Write RecordName Record)
  | (⟨now, .create context key record⟩, .created (.ok ())) => some ⟨now, ⟨context, key⟩, record⟩
  | _ => none

def writes (events : List (Call × Answer)) : List (Write RecordName Record) :=
  events.filterMap write?

variable {s : Store} {past : List (Write RecordName Record)} {context key : String} {c : Call}
  {calls : List Call}

theorem tended_empty :
    Tended Record.expires interval now (empty ⟨interval, none⟩).sweep
      (empty ⟨interval, none⟩).records [] :=
  ⟨by simp, .inl ⟨rfl, Table.get?_empty⟩⟩

theorem justTended_swept (tended : Tended Record.expires interval now s.sweep s.records past) :
    JustTended Record.expires interval now (s.swept now).sweep (s.swept now).records past := by
  have unexpired (_ : RecordName) (r : Record) (kept : (!r.isExpired now) = true) :
      now < r.expires := by
    simpa [Record.isExpired, Instant.not_le] using kept
  unfold swept
  by_cases due : s.sweep.isDue now
  · rw [if_pos due]
    exact tended.due unexpired
  · rw [if_neg due]
    exact tended.undue (by simpa using due)

/-- Whether or not the name is free, the store has been swept if that was due. -/
theorem justTended_create (tended : Tended Record.expires interval now s.sweep s.records past)
    (fits : RecordName.Fits ⟨context, key⟩) (record : Record) :
    let c : Call := ⟨now, .create context key record⟩
    JustTended Record.expires interval now (s.perform c).2.sweep (s.perform c).2.records
      (past ++ (write? (c, (s.perform c).1)).toList) := by
  have named := RecordName.of_fitting fits
  have swept := justTended_swept tended
  cases held : s.live? now ⟨context, key⟩ with
  | none => simpa [perform, create_of_free record named held, write?] using swept.insert _ record
  | some shown => simpa [perform, create_of_shown record named held, write?] using swept

theorem tended_perform (tended : Tended Record.expires interval c.now s.sweep s.records past) :
    Tended Record.expires interval c.now (s.perform c).2.sweep (s.perform c).2.records
      (past ++ (write? (c, (s.perform c).1)).toList) := by
  obtain ⟨now, action⟩ := c
  cases action with
  | create context key record =>
      by_cases fits : RecordName.Fits ⟨context, key⟩
      · exact (justTended_create tended fits record).tended
      · obtain ⟨reason, unnamed⟩ := RecordName.of_misfit fits
        simpa [perform, create_of_unnamed record unnamed, write?] using tended
  | read context key => simpa [perform, write?] using tended
  | take context key =>
      cases named : RecordName.of context key with
      | error fault => simpa [perform, take_of_unnamed named, write?] using tended
      | ok name =>
          simp only [perform, take_of_named named, Prod.map, write?, Option.toList, List.append_nil]
          exact tended.erase name
  | delete context key =>
      cases named : RecordName.of context key with
      | error fault => simpa [perform, delete, named, write?] using tended
      | ok name =>
          simp only [perform, delete, named, Prod.map, write?, Option.toList, List.append_nil]
          exact tended.erase name
  | purge context =>
      simp only [perform, purge, Prod.map, id, write?, Option.toList, List.append_nil]
      exact tended.filter _

theorem writes_history (s : Store) (calls : List Call) (c : Call) :
    writes (s.history (calls ++ [c])) =
      writes (s.history calls) ++ (write? (c, ((s.after calls).perform c).1)).toList := by
  rw [history_append, writes, List.filterMap_append]
  rfl

theorem tended_after (interval : Duration) (clock : calls.Pairwise fun a b => a.now ≤ b.now)
    (onward : ∀ c ∈ calls, c.now ≤ now) :
    let s := (empty ⟨interval, none⟩).after calls
    Tended Record.expires interval now s.sweep s.records
      (writes ((empty ⟨interval, none⟩).history calls)) := by
  -- From the end, so that what is known before a call is known at the instant of the call.
  induction calls using List.reverseRecOn generalizing now with
  | nil => exact tended_empty
  | append_singleton calls c ih =>
      obtain ⟨clock, -, last⟩ := List.pairwise_append.1 clock
      have before := ih clock fun a mem => last a mem c (List.mem_singleton_self c)
      rw [after_append, writes_history]
      exact (tended_perform before).later (onward c (by simp))

end Store

namespace ReplayRegister

/-- The expiry that a call has put down, if it is a check that was accepted. -/
def write? : Call × Option Bool → Option (Write ReplayKey Instant)
  | (.check now key expires, some true) => some ⟨now, key, expires⟩
  | _ => none

def writes (events : List (Call × Option Bool)) : List (Write ReplayKey Instant) :=
  events.filterMap write?

variable {r : ReplayRegister} {past : List (Write ReplayKey Instant)} {c : Call} {calls : List Call}

theorem tended_empty :
    Tended id interval now (empty ⟨interval, none⟩).sweep (empty ⟨interval, none⟩).seen [] :=
  ⟨by simp, .inl ⟨rfl, Table.get?_empty⟩⟩

theorem justTended_swept (tended : Tended id interval now r.sweep r.seen past) :
    JustTended id interval now (r.swept now).sweep (r.swept now).seen past := by
  unfold swept
  by_cases due : r.sweep.isDue now
  · rw [if_pos due]
    exact tended.due fun key expires kept => of_decide_eq_true kept
  · rw [if_neg due]
    exact tended.undue (by simpa using due)

/-- Whatever it is answered, the register has been swept if that was due. -/
theorem justTended_check (tended : Tended id interval now r.sweep r.seen past) (key : ReplayKey)
    (expires : Instant) :
    let c : Call := .check now key expires
    JustTended id interval now (r.perform c).2.sweep (r.perform c).2.seen
      (past ++ (write? (c, (r.perform c).1)).toList) := by
  have swept := justTended_swept tended
  cases held : (r.swept now).holds now key with
  | true => simpa [perform, check, held, write?] using swept
  | false => simpa [perform, check, held, write?] using swept.insert key expires

theorem tended_perform (tended : Tended id interval c.now r.sweep r.seen past) :
    Tended id interval c.now (r.perform c).2.sweep (r.perform c).2.seen
      (past ++ (write? (c, (r.perform c).1)).toList) := by
  cases c with
  | check now key expires => exact (justTended_check tended key expires).tended
  | purge now =>
      simp only [perform, purge, write?, Option.toList, List.append_nil]
      exact tended.filter _

theorem writes_transcript (r : ReplayRegister) (calls : List Call) (c : Call) :
    writes (r.transcript (calls ++ [c])) =
      writes (r.transcript calls) ++ (write? (c, ((r.after calls).perform c).1)).toList := by
  rw [transcript_append, writes, List.filterMap_append]
  rfl

theorem tended_after (interval : Duration) (clock : calls.Pairwise fun a b => a.now ≤ b.now)
    (onward : ∀ c ∈ calls, c.now ≤ now) :
    let r := (empty ⟨interval, none⟩).after calls
    Tended id interval now r.sweep r.seen
      (writes ((empty ⟨interval, none⟩).transcript calls)) := by
  induction calls using List.reverseRecOn generalizing now with
  | nil => exact tended_empty
  | append_singleton calls c ih =>
      obtain ⟨clock, -, last⟩ := List.pairwise_append.1 clock
      have before := ih clock fun a mem => last a mem c (List.mem_singleton_self c)
      rw [after_append, writes_transcript]
      exact (tended_perform before).later (onward c (by simp))

end ReplayRegister

/-- Whatever calls have been made on a store or on a register that starts empty, while the clock has
not gone back, and whatever the interval between sweeps: just after a creation under a name that
fits, or after a check, each entry that is held is the last that was put in under its key, and was
put in no earlier than the last sweep unless it expires after it. The last sweep was less than the
interval ago, or just now. -/
theorem expired_entries_do_not_accumulate (interval : Duration) (now : Instant) :
    (∀ (past : List Store.Call) (context key : String) (record : Record),
      RecordName.Fits ⟨context, key⟩ → past.Pairwise (fun a b => a.now ≤ b.now) →
      (∀ c ∈ past, c.now ≤ now) →
      let calls := past ++ [⟨now, .create context key record⟩]
      Tidy Record.expires interval now ((Store.empty ⟨interval, none⟩).after calls).records
        (Store.writes ((Store.empty ⟨interval, none⟩).history calls))) ∧
    ∀ (past : List ReplayRegister.Call) (key : ReplayKey) (expires : Instant),
      past.Pairwise (fun a b => a.now ≤ b.now) → (∀ c ∈ past, c.now ≤ now) →
      let calls := past ++ [.check now key expires]
      Tidy id interval now ((ReplayRegister.empty ⟨interval, none⟩).after calls).seen
        (ReplayRegister.writes ((ReplayRegister.empty ⟨interval, none⟩).transcript calls)) := by
  constructor
  · intro past context key record fits clock onward calls
    have before := Store.tended_after interval clock onward
    rw [Store.after_append, Store.writes_history]
    exact (Store.justTended_create before fits record).tidy
  · intro past key expires clock onward calls
    have before := ReplayRegister.tended_after interval clock onward
    rw [ReplayRegister.after_append, ReplayRegister.writes_transcript]
    exact (ReplayRegister.justTended_check before key expires).tidy

/-- A record that is never fetched, and one that had expired when it was created. -/
def sampleCreations : List Store.Call :=
  [⟨.ofSecond 0, .create "artifact" "_m1" ⟨"first", .ofSecond 10⟩⟩,
    ⟨.ofSecond 30, .create "artifact" "_m2" ⟨"second", .ofSecond 20⟩⟩]

/-- The same for identifiers, with a purge in between. -/
def sampleChecks : List ReplayRegister.Call :=
  [.check (.ofSecond 0) ⟨"SAML", "_m1"⟩ (.ofSecond 10), .purge (.ofSecond 20),
    .check (.ofSecond 30) ⟨"SAML", "_m2"⟩ (.ofSecond 20)]

/-- A minute after the first call a sweep is due, and both are left with what is put in then. -/
theorem sampleCreations_swept :
    let store := Store.empty ⟨.ofSeconds 60, none⟩
    let creations := sampleCreations ++
      [⟨.ofSecond 60, .create "artifact" "_m3" ⟨"third", .ofSecond 70⟩⟩]
    let register := ReplayRegister.empty ⟨.ofSeconds 60, none⟩
    let checks := sampleChecks ++ [.check (.ofSecond 60) ⟨"SAML", "_m3"⟩ (.ofSecond 70)]
    (Tidy Record.expires (.ofSeconds 60) (.ofSecond 60) (store.after creations).records
      (Store.writes (store.history creations)) ∧ (store.after creations).size = 1) ∧
    Tidy id (.ofSeconds 60) (.ofSecond 60) (register.after checks).seen
      (ReplayRegister.writes (register.transcript checks)) ∧ (register.after checks).size = 1 := by
  have tidy := expired_entries_do_not_accumulate (.ofSeconds 60) (.ofSecond 60)
  have fits : RecordName.Fits ⟨"artifact", "_m3"⟩ := ⟨by decide +kernel, by decide +kernel⟩
  refine ⟨⟨tidy.1 sampleCreations "artifact" "_m3" _ fits ?_ ?_, ?_⟩,
    tidy.2 sampleChecks ⟨"SAML", "_m3"⟩ _ ?_ ?_, ?_⟩
  all_goals decide +kernel

end Gatehouse
