import Gatehouse.Proofs.Artifact.Offers
import Gatehouse.Proofs.Time.Clock

/-! # Redemption

Whoever redeems an artifact gets the message that was last stored for it, once, in time and only if
it is meant for them; and whoever is entitled to it gets it.
-/

namespace Gatehouse

namespace Offer

/-- Whether a presenter may redeem an offer. -/
def Admits (o : Offer) (presenter : Option String) : Prop :=
  o.relyingParty = none ∨ o.relyingParty = some "" ∨ presenter = o.relyingParty

instance (o : Offer) (presenter : Option String) : Decidable (o.Admits presenter) :=
  inferInstanceAs (Decidable (_ ∨ _))

/-- What a presenter is called that may not redeem an offer. -/
def presenterText (presenter : Option String) : String :=
  if presenter = none ∨ presenter = some "" then "(none)" else presenter.getD ""

theorem bound?_of_empty {o : Offer} (free : o.relyingParty = none ∨ o.relyingParty = some "") :
    o.bound? = none := by
  rcases free with free | free <;> rw [bound?, free] <;> rfl

theorem bound?_of_name {o : Offer} {b : String} (named : o.relyingParty = some b) (ne : b ≠ "") :
    o.bound? = some b := by
  rw [bound?, named, Option.filter_some, if_pos (by simpa using ne)]

theorem checkPresenter_bound? (o : Offer) (presenter : Option String) :
    ArtifactMap.checkPresenter o.bound? presenter =
      if o.Admits presenter then .ok ()
      else .error (.artifactTrustViolation (o.relyingParty.getD "") (presenterText presenter)) := by
  by_cases free : o.relyingParty = none ∨ o.relyingParty = some ""
  · have admitted : o.Admits presenter := by
      rcases free with free | free
      · exact .inl free
      · exact .inr (.inl free)
    rw [bound?_of_empty free, if_pos admitted]
    rfl
  · rw [not_or] at free
    obtain ⟨b, named⟩ := Option.ne_none_iff_exists'.1 free.1
    have ne : b ≠ "" := by
      rintro rfl
      exact free.2 named
    rw [bound?_of_name named ne]
    cases presenter with
    | none => simp [ArtifactMap.checkPresenter, Admits, named, ne, presenterText, Ne.symm ne]
    | some p =>
        by_cases same : p = b
        · simp [ArtifactMap.checkPresenter, Admits, named, same]
        · simp [ArtifactMap.checkPresenter, Admits, named, ne, same, presenterText]

/-- What a presenter gets for an offer that stands on its own. -/
def redeemed (o : Offer) (now : Instant) (presenter : Option String) :
    Except Error (Option Fragment) :=
  if o.expires ≤ now then .ok none
  else if o.Admits presenter then .ok (some o.content)
  else .error (.artifactTrustViolation (o.relyingParty.getD "") (presenterText presenter))

theorem redeem_alone (o : Offer) (alone : o.content.parent = none) (now : Instant)
    (presenter : Option String) :
    ArtifactMap.redeem now presenter o.record = o.redeemed now presenter := by
  have detached : o.content.detached = o.content := Fragment.ext rfl alone.symm
  rw [redeem_record, checkPresenter_bound?, detached, redeemed]
  by_cases admitted : o.Admits presenter
  · rw [if_pos admitted, if_pos admitted]
    rfl
  · rw [if_neg admitted, if_neg admitted]
    rfl

end Offer

namespace Use

variable {sweep : Sweep} {uses : List Use} {i j : Nat} {v w : Use} {o : Offer}
  {presenter relyingParty : Option String} {content : Fragment}

theorem Effect.of_retrieve {s left : Store} {a : Answer} (effect : w.Effect s a left)
    (kind : w.kind = .retrieve presenter) :
    RecordName.isLegal w.slot.context ∧ a = .retrieved
        ((s.live? w.clocks.storage w.slot.name).elim (.ok none)
          (ArtifactMap.redeem w.clocks.map presenter)) ∨
      ¬ RecordName.isLegal w.slot.context ∧ ∃ fault, a = .retrieved (.error fault) := by
  cases effect with
  | stored o offers => simp [offer?, kind] at offers
  | refused o fault left offers => simp [offer?, kind] at offers
  | retrieved presenter' kind' legal =>
      obtain rfl := UseKind.retrieve.inj (kind.symm.trans kind')
      exact .inl ⟨legal, rfl⟩
  | unnamed _ fault _ illegal => exact .inr ⟨illegal, fault, rfl⟩
  | relyingParty result other => cases kind.symm.trans other

/-- A retrieval is answered by what the storage shows in its slot. -/
theorem retrieve_answer (sweep : Sweep) (place : uses[j]? = some w)
    (kind : w.kind = .retrieve presenter) :
    ∃ s, Tracks (.memory (.empty sweep)) uses j s ∧
      (RecordName.isLegal w.slot.context ∧ answer (.memory (.empty sweep)) uses j =
          some (.retrieved ((s.live? w.clocks.storage w.slot.name).elim (.ok none)
            (ArtifactMap.redeem w.clocks.map presenter))) ∨
        ¬ RecordName.isLegal w.slot.context ∧
          ∃ fault, answer (.memory (.empty sweep)) uses j = some (.retrieved (.error fault))) := by
  have le : j ≤ uses.length := Nat.le_of_lt (List.getElem?_eq_some_iff.1 place).1
  obtain ⟨s, here, tracks⟩ := tracks sweep uses le
  obtain ⟨left, -, effect⟩ := perform_effect w s
  refine ⟨s, tracks, ?_⟩
  rw [answer_eq place, here]
  rcases effect.of_retrieve kind with ⟨legal, same⟩ | ⟨illegal, fault, same⟩
  · exact .inl ⟨legal, congrArg some same⟩
  · exact .inr ⟨illegal, fault, congrArg some same⟩

theorem Stands.alone {first : Store} {slot : Slot} (h : Stands (.memory first) uses slot i j o) :
    o.content.parent = none := by
  obtain ⟨v, place, -, offers⟩ := h.offers
  exact (alone_of_stored place offers h.stored).1

/-- Behind a message that is handed out there is an offer that stands. -/
theorem stands_of_redeemed (place : uses[j]? = some w) (kind : w.kind = .retrieve presenter)
    (answered : answer (.memory (.empty sweep)) uses j =
      some (.retrieved (.ok (some content)))) :
    ∃ i o, Stands (.memory (.empty sweep)) uses w.slot i j o ∧ o.content = content ∧
      o.Admits presenter ∧ w.clocks.map < o.expires ∧ w.clocks.storage < o.expires := by
  obtain ⟨s, tracks, ⟨-, same⟩ | ⟨-, fault, same⟩⟩ := retrieve_answer sweep place kind
  · have given := Answer.retrieved.inj (Option.some.inj (same.symm.trans answered))
    cases seen : s.live? w.clocks.storage w.slot.name with
    | none => simp [seen] at given
    | some r =>
        obtain ⟨i, o, stands, rfl⟩ := tracks.shown seen
        have running : w.clocks.storage < o.expires := (Store.live?_eq_some.1 seen).2
        rw [seen, Option.elim_some, o.redeem_alone stands.alone, Offer.redeemed] at given
        by_cases late : o.expires ≤ w.clocks.map
        · simp [late] at given
        · by_cases admitted : o.Admits presenter
          · rw [if_neg late, if_pos admitted] at given
            have same : o.content = content := Option.some.inj (Except.ok.inj given)
            exact ⟨i, o, stands, same, admitted, Instant.not_le.1 late, running⟩
          · simp [late, admitted] at given
  · cases same.symm.trans answered

/-- Whether the call at a position of a run is a retrieval by a presenter that hands out a message.
-/
structure Redeems (start : Storage) (uses : List Use) (j : Nat) (w : Use)
    (presenter : Option String) (content : Fragment) : Prop where
  place : uses[j]? = some w
  kind : w.kind = .retrieve presenter
  answered : answer start uses j = some (.retrieved (.ok (some content)))

/-- Every retrieval that hands out a message goes back to a call of its own that has stored that
very message in the same slot. It is the first retrieval from the slot since, the presenter is the
relying party that the message was meant for if it was meant for one, and neither clock has reached
the end of the offer, which was set by the clock and the time to live of the map that stored it. -/
theorem redemptions_have_sources (sweep : Sweep) (uses : List Use) :
    ∃ source : Nat → Nat, ∀ j w presenter content,
      Redeems (.memory (.empty sweep)) uses j w presenter content →
        (∃ v relyingParty, source j < j ∧ uses[source j]? = some v ∧ v.slot = w.slot ∧
          v.kind = .store content relyingParty ∧ content.parent = none ∧
          answer (.memory (.empty sweep)) uses (source j) = some (.stored (.ok ())) ∧
          (∀ k u, source j < k → k < j → uses[k]? = some u → u.slot = w.slot → ¬ u.Retrieves) ∧
          (relyingParty = none ∨ relyingParty = some "" ∨ presenter = relyingParty) ∧
          w.clocks.map < v.clocks.map + v.map.settings.ttl ∧
          w.clocks.storage < v.clocks.map + v.map.settings.ttl) ∧
        ∀ j' w' presenter' content',
          Redeems (.memory (.empty sweep)) uses j' w' presenter' content' →
            source j' = source j → j' = j := by
  have each : ∀ j, ∃ i, ∀ w presenter content,
      Redeems (.memory (.empty sweep)) uses j w presenter content →
        ∃ o, Stands (.memory (.empty sweep)) uses w.slot i j o ∧ o.content = content ∧
          o.Admits presenter ∧ w.clocks.map < o.expires ∧ w.clocks.storage < o.expires := by
    intro j
    by_cases redeems : ∃ w presenter content,
        Redeems (.memory (.empty sweep)) uses j w presenter content
    · obtain ⟨w, presenter, content, redeems⟩ := redeems
      obtain ⟨i, o, stands, rest⟩ :=
        stands_of_redeemed redeems.place redeems.kind redeems.answered
      refine ⟨i, fun w' presenter' content' redeems' => ⟨o, ?_⟩⟩
      obtain rfl : w = w' := Option.some.inj (redeems.place.symm.trans redeems'.place)
      obtain rfl : presenter = presenter' :=
        UseKind.retrieve.inj (redeems.kind.symm.trans redeems'.kind)
      have same := Option.some.inj (redeems.answered.symm.trans redeems'.answered)
      obtain rfl : content = content' :=
        Option.some.inj (Except.ok.inj (Answer.retrieved.inj same))
      exact ⟨stands, rest⟩
    · exact ⟨0, fun w presenter content here => absurd ⟨w, presenter, content, here⟩ redeems⟩
  obtain ⟨source, from_source⟩ := Classical.skolem.1 each
  refine ⟨source, fun j w presenter content redeems => ⟨?_, ?_⟩⟩
  · obtain ⟨o, stands, rfl, admits, map, storage⟩ := from_source j w presenter content redeems
    obtain ⟨v, place, same, offers⟩ := stands.offers
    unfold offer? at offers
    split at offers
    · next content relyingParty kind =>
        obtain rfl := Option.some.inj offers
        refine ⟨v, relyingParty, stands.before, place, same, kind, stands.alone, stands.stored, ?_,
          admits, map, storage⟩
        intro k u after earlier there slot retrieves
        exact stands.untouched k after earlier ⟨u, there, slot, .inl retrieves⟩
    · cases offers
  · intro j' w' presenter' content' redeems' shared
    obtain ⟨o, stands, -⟩ := from_source j w presenter content redeems
    obtain ⟨o', stands', -⟩ := from_source j' w' presenter' content' redeems'
    rw [shared] at stands'
    obtain ⟨v, place, slot, -⟩ := stands.offers
    obtain ⟨v', place', slot', -⟩ := stands'.offers
    obtain rfl : v = v' := Option.some.inj (place.symm.trans place')
    -- Either retrieval would come between the other one and what they both go back to.
    rcases Nat.lt_trichotomy j' j with earlier | same | later
    · exact absurd ⟨w', redeems'.place, slot'.symm.trans slot, .inl ⟨presenter', redeems'.kind⟩⟩
        (stands.untouched j' stands'.before earlier)
    · exact same
    · exact absurd ⟨w, redeems.place, slot.symm.trans slot', .inl ⟨presenter, redeems.kind⟩⟩
        (stands'.untouched j stands.before later)

/-- What is kept for an artifact is not lost. The first retrieval after a message has been stored,
with nothing else stored in its slot in between, finds nothing if either clock has reached the end
of the offer; otherwise it refuses a presenter that the message is not meant for and hands the
message out to everyone else. From then on every retrieval finds nothing until something is stored
in the slot again. -/
theorem first_retrieval_answers (sweep : Sweep)
    (clock : uses.Pairwise fun v w => v.clocks.storage ≤ w.clocks.storage)
    (first : uses[i]? = some v) (stores : v.kind = .store content relyingParty)
    (stored : answer (.memory (.empty sweep)) uses i = some (.stored (.ok ())))
    (order : i < j) (place : uses[j]? = some w) (same : w.slot = v.slot)
    (retrieves : w.kind = .retrieve presenter)
    (untouched : ∀ k, i < k → k < j → ¬ Touches (.memory (.empty sweep)) uses v.slot k) :
    let expires := v.clocks.map + v.map.settings.ttl
    answer (.memory (.empty sweep)) uses j = some (.retrieved
      (if expires ≤ w.clocks.storage ∨ expires ≤ w.clocks.map then .ok none
        else if relyingParty = none ∨ relyingParty = some "" ∨ presenter = relyingParty then
          .ok (some content)
        else .error (.artifactTrustViolation (relyingParty.getD "")
          (if presenter = none ∨ presenter = some "" then "(none)" else presenter.getD "")))) ∧
    ∀ l u again, j < l → uses[l]? = some u → u.slot = v.slot → u.kind = .retrieve again →
      (∀ k t, j < k → k < l → uses[k]? = some t → t.slot = v.slot →
        answer (.memory (.empty sweep)) uses k ≠ some (.stored (.ok ()))) →
        answer (.memory (.empty sweep)) uses l = some (.retrieved (.ok none)) := by
  intro expires
  have offers : v.offer? = some ⟨content, relyingParty, expires⟩ := by
    simp only [offer?, stores, expires]
  have stands : Stands (.memory (.empty sweep)) uses v.slot i j ⟨content, relyingParty, expires⟩ :=
    ⟨order, ⟨v, first, rfl, offers⟩, stored, untouched⟩
  have legal : RecordName.isLegal v.slot.context := (alone_of_stored first offers stored).2
  constructor
  · obtain ⟨s, tracks, ⟨-, given⟩ | ⟨illegal, -⟩⟩ := retrieve_answer sweep place retrieves
    · have earlier : ∀ k u, k < j → uses[k]? = some u → u.clocks.storage ≤ w.clocks.storage :=
        fun k u before there =>
          Instant.reading_le (fun u : Use => u.clocks.storage) clock before there place
      rw [given, same, tracks.live?_of_stands stands earlier]
      by_cases late : expires ≤ w.clocks.storage
      · rw [if_pos late, if_pos (.inl late), Option.elim_none]
      · rw [if_neg late, Option.elim_some, Offer.redeem_alone _ stands.alone, Offer.redeemed]
        by_cases past : expires ≤ w.clocks.map
        · rw [if_pos past, if_pos (.inr past)]
        · rw [if_neg past, if_neg (not_or.2 ⟨late, past⟩)]
          rfl
    · exact absurd (same ▸ legal) illegal
  · intro l u again later there slot kind quiet
    obtain ⟨s, tracks, ⟨-, given⟩ | ⟨illegal, -⟩⟩ := retrieve_answer sweep there kind
    · have nothing : ∀ i' o', ¬ Stands (.memory (.empty sweep)) uses v.slot i' l o' := by
        intro i' o' stands'
        obtain ⟨t, place', slot', offers'⟩ := stands'.offers
        rcases Nat.lt_trichotomy i' j with before | rfl | after
        · exact stands'.untouched j before later ⟨w, place, same, .inl ⟨presenter, retrieves⟩⟩
        · obtain rfl : w = t := Option.some.inj (place.symm.trans place')
          simp [offer?, retrieves] at offers'
        · exact quiet i' t after stands'.before place' slot' stands'.stored
      rw [given, slot, tracks.live?_of_none nothing, Option.elim_none]
    · exact absurd (slot ▸ legal) illegal

def sampleContent : Fragment where
  xml := "<a/>"
  message := ⟨.bare "a", none, none, none, none, none⟩
  parent := none
  message_eq := by rfl

/-- A call on a map with the usual settings, so many seconds after the message was stored. -/
def sample (seconds : Int) (kind : UseKind) : Use where
  map := ⟨{}⟩
  clocks := ⟨.ofSecond seconds, .ofSecond seconds⟩
  artifact := .type0002 ⟨List.replicate 20 0, rfl⟩ "https://idp.example/artifact"
  kind := kind

/-- A message for a relying party is stored, looked up, redeemed in the last second and asked for
again. -/
def sampleUses : List Use :=
  [sample 0 (.store sampleContent (some "sp")), sample 1 .relyingParty,
    sample 179 (.retrieve (some "sp")), sample 179 (.retrieve (some "sp"))]

theorem sampleUses_answers :
    answer (.memory (.empty {})) sampleUses 0 = some (.stored (.ok ())) ∧
      answer (.memory (.empty {})) sampleUses 2 = some (.retrieved (.ok (some sampleContent))) ∧
      answer (.memory (.empty {})) sampleUses 3 = some (.retrieved (.ok none)) := by
  have clock : sampleUses.Pairwise fun v w => v.clocks.storage ≤ w.clocks.storage := by decide
  have stored : answer (.memory (.empty {})) sampleUses 0 = some (.stored (.ok ())) := by rfl
  have untouched : ∀ k, 0 < k → k < 2 →
      ¬ Touches (.memory (.empty {})) sampleUses (sample 0 .relyingParty).slot k := by
    rintro k after before ⟨u, place, -, changes⟩
    obtain rfl : k = 1 := by omega
    obtain rfl : sample 1 .relyingParty = u := Option.some.inj place
    rcases changes with ⟨presenter, kind⟩ | answered
    · cases kind
    · rw [answer_eq place] at answered
      cases answered
  have verdict := first_retrieval_answers {} clock (i := 0) rfl rfl stored (j := 2) (by decide)
    rfl rfl rfl untouched
  refine ⟨stored, verdict.1, verdict.2 3 _ (some "sp") (by decide) rfl rfl rfl ?_⟩
  intro k t after before
  omega

end Use

end Gatehouse
