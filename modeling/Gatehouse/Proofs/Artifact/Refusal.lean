import Gatehouse.Proofs.Artifact.Memory
import Gatehouse.Proofs.Artifact.Redemption
import Gatehouse.Proofs.Storage.History

/-! # What a refused message leaves

A message that is attached is refused before the storage is asked. Otherwise the storage may have
swept out what had expired before it finds the slot taken. This is not seen later on, since nothing
that has expired is shown again as long as the clock of the storage does not go back.
-/

namespace Gatehouse

namespace Store

/-- Whether two stores show the same from an instant on. -/
def SameFrom (now : Instant) (s s' : Store) : Prop :=
  ∀ t name, now ≤ t → s.live? t name = s'.live? t name

variable {s s' : Store} {now t : Instant} {context key : String}

theorem SameFrom.later (same : SameFrom now s s') (le : now ≤ t) : SameFrom t s s' :=
  fun u name hu => same u name (Instant.le_trans le hu)

theorem sameFrom_swept (s : Store) (now : Instant) : SameFrom now (s.swept now) s :=
  fun _ _ le => live?_swept le

theorem SameFrom.create (same : SameFrom now s s') (le : now ≤ t) (context key : String)
    (r : Record) :
    (s.create t context key r).1 = (s'.create t context key r).1 ∧
      SameFrom t (s.create t context key r).2 (s'.create t context key r).2 := by
  refine ⟨(same_answers fun _ => same t _ le).1 r, fun u name hu => ?_⟩
  by_cases fits : RecordName.Fits ⟨context, key⟩
  · rw [live?_create fits hu, live?_create fits hu, same t name le,
      same u name (Instant.le_trans le hu)]
  · obtain ⟨reason, unnamed⟩ := RecordName.of_misfit fits
    rw [create_of_unnamed r unnamed, create_of_unnamed r unnamed]
    exact same u name (Instant.le_trans le hu)

theorem SameFrom.take (same : SameFrom now s s') (le : now ≤ t) (context key : String) :
    (s.take t context key).1 = (s'.take t context key).1 ∧
      SameFrom t (s.take t context key).2 (s'.take t context key).2 := by
  refine ⟨(same_answers fun _ => same t _ le).2.2, fun u name hu => ?_⟩
  by_cases fits : RecordName.Fits ⟨context, key⟩
  · rw [live?_take fits, live?_take fits, same u name (Instant.le_trans le hu)]
  · obtain ⟨reason, unnamed⟩ := RecordName.of_misfit fits
    rw [take_of_unnamed unnamed, take_of_unnamed unnamed]
    exact same u name (Instant.le_trans le hu)

theorem SameFrom.read (same : SameFrom now s s') (le : now ≤ t) :
    s.read t context key = s'.read t context key :=
  (same_answers fun _ => same t _ le).2.1

end Store

namespace Use

variable {u : Use} {s s' : Store} {uses : List Use} {now : Instant} {j : Nat}

open Store

/-- A call answers the same on stores that show the same, and leaves them showing the same. -/
theorem perform_same (same : SameFrom now s s') (le : now ≤ u.clocks.storage) :
    ∃ a left left', u.perform (.memory s) = (a, .memory left) ∧
      u.perform (.memory s') = (a, .memory left') ∧ SameFrom u.clocks.storage left left' := by
  cases kind : u.kind with
  | store content relyingParty =>
      simp only [perform, kind]
      cases attached : content.parent with
      | some parent =>
          rw [ArtifactMap.store_attached attached, ArtifactMap.store_attached attached]
          exact ⟨_, s, s', rfl, rfl, same.later le⟩
      | none =>
          obtain ⟨answers, after⟩ := same.create le u.map.settings.context
            (ArtifactMap.key u.artifact) (u.map.kept u.clocks.map content relyingParty)
          rw [ArtifactMap.store_memory attached, ArtifactMap.store_memory attached, answers]
          exact ⟨_, _, _, rfl, rfl, after⟩
  | retrieve presenter =>
      obtain ⟨answers, after⟩ :=
        same.take le u.map.settings.context (ArtifactMap.key u.artifact)
      simp only [perform, kind, ArtifactMap.retrieve_memory, answers]
      exact ⟨_, _, _, rfl, rfl, after⟩
  | relyingParty =>
      simp only [perform, kind, ArtifactMap.relyingParty_memory, same.read le]
      exact ⟨_, s, s', rfl, rfl, same.later le⟩

theorem answer_cons_zero (start : Storage) :
    answer start (u :: uses) 0 = some (u.perform start).1 :=
  rfl

theorem answer_cons_succ (start : Storage) :
    answer start (u :: uses) (j + 1) = answer (u.perform start).2 uses j :=
  rfl

/-- Stores that show the same answer the same to all that is asked of them later. -/
theorem answer_same (same : SameFrom now s s')
    (clock : uses.Pairwise fun v w => v.clocks.storage ≤ w.clocks.storage)
    (onward : ∀ u ∈ uses, now ≤ u.clocks.storage) (j : Nat) :
    answer (.memory s) uses j = answer (.memory s') uses j := by
  induction uses generalizing s s' now j with
  | nil => rfl
  | cons u uses ih =>
      obtain ⟨a, left, left', first, first', after⟩ :=
        perform_same (u := u) same (onward u (List.mem_cons_self ..))
      obtain ⟨later, clock⟩ := List.pairwise_cons.1 clock
      cases j with
      | zero => rw [answer_cons_zero, answer_cons_zero, first, first']
      | succ j =>
          rw [answer_cons_succ, answer_cons_succ, first, first']
          exact ih after clock later j

/-- Whether what has been done to a storage is not seen from an instant on. -/
structure Unseen (now : Instant) (before left : Storage) : Prop where
  /-- All that is asked later is answered as if it had not been done. -/
  answers : ∀ later : List Use, (∀ u ∈ later, now ≤ u.clocks.storage) →
    (later.Pairwise fun v w => v.clocks.storage ≤ w.clocks.storage) →
      ∀ j, answer left later j = answer before later j
  /-- What was shown is held as it was. -/
  held : ∀ s, before = .memory s → ∃ s', left = .memory s' ∧
    ∀ name r, s.live? now name = some r → s'.records.get? name = some r

theorem unseen_of_unchanged (now : Instant) (s : Storage) : Unseen now s s where
  answers _ _ _ _ := rfl
  held store same := ⟨store, same, fun _ _ shown => (live?_eq_some.1 shown).1⟩

theorem unseen_swept (now : Instant) (s : Store) :
    Unseen now (.memory s) (.memory (s.swept now)) where
  answers later onward clock j := answer_same (sameFrom_swept s now) clock onward j
  held store same := by
    obtain rfl := Storage.memory.inj same
    refine ⟨_, rfl, fun name r shown => ?_⟩
    exact (live?_eq_some.1 ((live?_swept (Instant.le_refl now)).trans shown)).1

end Use

namespace ArtifactMap

theorem store_unseen {m : ArtifactMap} {s : Storage} {clocks : ClockReadings} {content : Fragment}
    {a : Artifact} {relyingParty : Option String} {fault : Error}
    (refused : (m.store s clocks content a relyingParty).1 = .error fault) :
    Use.Unseen clocks.storage s (m.store s clocks content a relyingParty).2 := by
  cases s with
  | unavailable reason =>
      have unchanged : (m.store (.unavailable reason) clocks content a relyingParty).2 =
          .unavailable reason := by
        cases attached : content.parent with
        | some parent => rw [store_attached attached]
        | none => simp only [store, attached, Storage.create, Prod.map_snd, id]
      rw [unchanged]
      exact Use.unseen_of_unchanged _ _
  | memory s =>
      obtain ⟨fault, left, answered, rfl | rfl⟩ :=
        store_of_refused relyingParty (refuses_of_error refused)
      · rw [answered]
        exact Use.unseen_of_unchanged _ _
      · rw [answered]
        exact Use.unseen_swept _ _

/-- A message that is refused leaves nothing to be seen. A storage in memory refuses it for no other
reasons than that it is attached, that the context is none, or that there is another message under
the handle; the artifact can always serve as a key, and shares it with those of its handle only. -/
theorem refused_message_unseen (m : ArtifactMap) (clocks : ClockReadings) (content : Fragment)
    (a : Artifact) (relyingParty : Option String) :
    (∀ s fault, (m.store s clocks content a relyingParty).1 = .error fault →
      Use.Unseen clocks.storage s (m.store s clocks content a relyingParty).2) ∧
    (content.parent ≠ none → ∀ s, ∃ reason,
      m.store s clocks content a relyingParty = (.error (.contractViolation reason), s)) ∧
    (∀ s, (∃ fault, (m.store (.memory s) clocks content a relyingParty).1 = .error fault) ↔
      m.Refuses s clocks.storage content a) ∧
    RecordName.isLegal (key a) ∧ ∀ b : Artifact, key b = key a ↔ b.handle = a.handle := by
  refine ⟨fun s fault => store_unseen, fun attached s => ?_,
    fun s => ⟨fun ⟨fault, refused⟩ => refuses_of_error refused, fun refuses => ?_⟩,
    Slot.key_legal a.handle, fun b => ?_⟩
  · obtain ⟨parent, attached⟩ := Option.ne_none_iff_exists'.1 attached
    exact ⟨_, store_attached attached s⟩
  · obtain ⟨fault, left, answered, -⟩ := store_of_refused relyingParty refuses
    exact ⟨fault, congrArg Prod.fst answered⟩
  · exact Hex.encode_inj.trans ⟨Octets.ext, congrArg Octets.bytes⟩

theorem length_zeros : (List.replicate 20 (0 : UInt8)).length = 20 :=
  rfl

def sampleArtifact (byte : UInt8) : Artifact :=
  .type0001 ⟨List.replicate 20 0, length_zeros⟩ ⟨List.replicate 20 byte, rfl⟩

/-- Two messages under different handles, of which the first one expires before the other. -/
def crowded : Storage :=
  Use.after (.memory (.empty {}))
    [⟨⟨{}⟩, ⟨.ofSecond 0, .ofSecond 0⟩, sampleArtifact 1, .store Use.sampleContent none⟩,
      ⟨⟨{}⟩, ⟨.ofSecond 100, .ofSecond 100⟩, sampleArtifact 0, .store Use.sampleContent none⟩]

/-- The refusal of a third message has the first one swept out, which is not seen. -/
theorem crowded_sweep_unseen :
    let refused := store ⟨{}⟩ crowded ⟨.ofSecond 200, .ofSecond 200⟩ Use.sampleContent
      (sampleArtifact 0) none
    (∃ fault, refused.1 = .error fault) ∧ crowded.size = 2 ∧ refused.2.size = 1 ∧
      Use.Unseen (.ofSecond 200) crowded refused.2 := by
  refine ⟨⟨_, rfl⟩, rfl, by decide +kernel, ?_⟩
  exact (refused_message_unseen ⟨{}⟩ ⟨.ofSecond 200, .ofSecond 200⟩ Use.sampleContent
    (sampleArtifact 0) none).1 crowded _ rfl

end ArtifactMap

end Gatehouse
