import Gatehouse.Proofs.Fragment.Unread

/-! # The name of an issuer

How the name of a message's issuer comes about from the character data of its first `Issuer`
element. Of the data only the text outside CDATA sections is taken, and of each run of it the white
space at its ends is lost, also where the run is next to a comment. The name is the trimmed data if
this does not concern anything between the first and the last character of it that is not blank.
-/

namespace Gatehouse.Fragment

open Xml Text Saml

/-- The character data of an element: its text with all references resolved, and what its CDATA
sections hold. -/
def characterData? : List Markup → Option (List Char)
  | [] => some []
  | .text raw :: rest =>
    (resolve? raw).bind fun run => (characterData? rest).map fun more => run ++ more
  | .cdata body :: rest => (characterData? rest).map fun more => body ++ more
  | _ :: rest => characterData? rest

/-- A character of an element's data, and whether it is taken into the name. -/
structure Datum where
  char : Char
  taken : Bool
  deriving DecidableEq

namespace Datum

def mark (taken : Bool) (cs : List Char) : List Datum :=
  cs.map fun c => ⟨c, taken⟩

def chars (data : List Datum) : List Char :=
  data.map (·.char)

/-- The characters that are taken. -/
def name (data : List Datum) : List Char :=
  chars (data.filter (·.taken))

/-- The data without the white space around it. -/
def core (data : List Datum) : List Datum :=
  ((data.dropWhile fun x => isBlank x.char).reverse.dropWhile fun x => isBlank x.char).reverse

end Datum

open Datum in
/-- The character data of an element, character by character. -/
def data? : List Markup → Option (List Datum)
  | [] => some []
  | .text raw :: rest =>
    (resolve? (strip isSpace raw)).bind fun run => (data? rest).map fun more =>
      mark false (raw.takeWhile isSpace) ++ mark true run ++ mark false (trailing isSpace raw) ++
        more
  | .cdata body :: rest => (data? rest).map fun more => mark false body ++ more
  | _ :: rest => data? rest

namespace Datum

variable {data more : List Datum}

theorem chars_append : chars (data ++ more) = chars data ++ chars more :=
  List.map_append

theorem name_append : name (data ++ more) = name data ++ name more := by
  rw [name, List.filter_append, chars_append, name, name]

theorem chars_mark (taken : Bool) (cs : List Char) : chars (mark taken cs) = cs := by
  simp [chars, mark, Function.comp_def]

theorem name_mark_true (cs : List Char) : name (mark true cs) = cs := by
  rw [name, List.filter_eq_self.2 (by simp [mark]), chars_mark]

theorem name_mark_false (cs : List Char) : name (mark false cs) = [] := by
  simp [name, chars, mark]

theorem blank_name (blank : ∀ x ∈ data, isBlank x.char = true) :
    ∀ c ∈ name data, isBlank c = true := by
  intro c mem
  obtain ⟨x, kept, rfl⟩ := List.mem_map.1 mem
  exact blank x (List.mem_of_mem_filter kept)

/-- Blank characters around the core have no part in the trimmed name. -/
theorem trim_name (data : List Datum) : trim (name data) = trim (name (core data)) := by
  have lead : ∀ x ∈ data.takeWhile (isBlank ·.char), isBlank x.char = true :=
    fun x mem => (List.mem_takeWhile_imp (p := fun x : Datum => isBlank x.char) mem)
  have parts := congrArg name (ends_append (isBlank ·.char) data)
  rw [name_append, name_append] at parts
  rw [← parts, trim, strip_append_right (blank_name fun _ => of_mem_trailing),
    strip_append_left (blank_name lead)]
  rfl

theorem trim_chars (data : List Datum) : trim (chars data) = chars (core data) := by
  simp only [trim, strip, chars, core, List.dropWhile_map, ← List.map_reverse, Function.comp_def]

/-- The name is the data, both trimmed, if nothing between the first and the last character that is
not blank is lost. -/
theorem trim_name_eq_iff (data : List Datum) :
    trim (name data) = trim (chars data) ↔ ∀ x ∈ core data, x.taken = true := by
  rw [trim_name, trim_chars]
  constructor
  · intro same
    -- A character that is lost would leave the name shorter than the core.
    have enough := strip_length_le isBlank (name (core data))
    rw [← trim, same, name, chars, List.length_map, chars, List.length_map] at enough
    exact List.length_filter_eq_length_iff.1 (Nat.le_antisymm (List.length_filter_le _ _) enough)
  · intro all
    rw [name, List.filter_eq_self.2 all, ← trim_chars]
    exact strip_strip

end Datum

/-! ## The data of an element -/

theorem resolve?_strip (raw : List Char) : resolve? raw =
    (resolve? (strip isSpace raw)).map fun run =>
      raw.takeWhile isSpace ++ run ++ trailing isSpace raw := by
  have lead {c : Char} (other : isSpace c = false) : c ∉ raw.takeWhile isSpace := by
    intro mem
    rw [List.mem_takeWhile_imp mem] at other
    cases other
  have trail {c : Char} (other : isSpace c = false) : c ∉ trailing isSpace raw := by
    intro mem
    rw [of_mem_trailing mem] at other
    cases other
  conv_lhs => rw [← strip_whole isSpace raw]
  rw [resolve?_append_right (trail rfl) (trail rfl), resolve?_append_left (lead rfl),
    Option.map_map]
  rfl

open Datum in
theorem characterData?_eq (pieces : List Markup) :
    characterData? pieces = (data? pieces).map chars := by
  fun_induction data? pieces with
  | case1 => rfl
  | case2 raw rest ih =>
      rw [characterData?, resolve?_strip, ih]
      cases resolve? (strip isSpace raw) with
      | none => rfl
      | some run =>
          cases data? rest with
          | none => rfl
          | some more =>
              simp only [Option.map_some, Option.bind_some, chars_append, chars_mark]
  | case3 body rest ih =>
      rw [characterData?, ih]
      cases data? rest with
      | none => rfl
      | some more => simp only [Option.map_some, chars_append, chars_mark]
  | case4 piece rest noText noCdata ih => rw [characterData?.eq_4 _ _ noText noCdata, ih]

open Datum in
theorem issuerText?_eq {pieces : List Markup} (childless : ∀ p ∈ pieces, ¬ p.IsTag) :
    issuerText? pieces = (data? pieces).map name := by
  induction pieces with
  | nil => rfl
  | cons p rest ih =>
      rw [List.forall_mem_cons] at childless
      have onward := ih childless.2
      cases p with
      | text raw =>
          rw [issuerText?, data?, onward]
          cases resolve? (strip isSpace raw) with
          | none => rfl
          | some run =>
              cases data? rest with
              | none => rfl
              | some more =>
                  simp only [Option.map_some, Option.bind_some, name_append, name_mark_true,
                    name_mark_false, List.nil_append, List.append_nil]
      | cdata body =>
          have noText : ¬ (Markup.cdata body).IsText := by
            intro text
            obtain ⟨_, same⟩ := text
            cases same
          rw [issuerText?_other id noText, data?, onward]
          cases data? rest with
          | none => rfl
          | some more =>
              simp only [Option.map_some, name_append, name_mark_false, List.nil_append]
      | startTag body => exact absurd trivial childless.1
      | endTag body => exact absurd trivial childless.1
      | _ => exact onward

/-! ## The claim of the first issuer -/

namespace Progress

variable {scope : Scope} {p q : Progress} {c : Child}

/-- The first `Issuer` makes a claim with the text that counts in it. -/
theorem afterChild?_issuer {e : Element} (said : p.afterChild? scope c = some q)
    (unclaimed : p.claim = none) (named : c.tag.element? scope = some e)
    (issuer : e.name = QualifiedName.inNamespace assertion20 "Issuer") :
    ∃ claim, q.claim = some claim ∧ issuerText? c.content = some claim.text := by
  obtain ⟨_, _, found, _, ⟨_, text, heard, rfl⟩ | ⟨other, _⟩⟩ := afterChild?_cases said
  · exact ⟨_, rfl, heard⟩
  · cases named.symm.trans found
    exact absurd ⟨issuer, Option.isNone_iff_eq_none.2 unclaimed⟩ other

/-- Another child makes none. -/
theorem afterChild?_other (said : p.afterChild? scope c = some q)
    (other : ∀ e, c.tag.element? scope = some e →
      ¬ (e.name = QualifiedName.inNamespace assertion20 "Issuer" ∧ p.claim.isNone)) :
    q.claim = p.claim := by
  obtain ⟨e, _, found, _, ⟨first, _⟩ | ⟨_, _, rfl⟩⟩ := afterChild?_cases said
  · exact absurd first (other e found)
  · rfl

theorem finish_issuer {message : Message} {claim : Claim} (done : p.finish = .ok message)
    (claimed : p.claim = some claim) (named : trim claim.text ≠ []) :
    message.issuer.map (·.name) = some (String.ofList (trim claim.text)) := by
  rw [finish] at done
  split at done
  · cases done
  · split at done
    · cases done
      simp [claimed, Claim.issuer?, named]
    · cases done

end Progress

/-- The name in a message's issuer is that in the first `Issuer` element, if it is not blank. -/
theorem name_of_message? {d : Document} {message : Message} {before after : List Child} {c : Child}
    (told : message? d = some message) (children : d.children = before ++ c :: after)
    (issuer : IsIssuer d c) (first : ∀ b ∈ before, ¬ IsIssuer d b) :
    ∃ text, issuerText? c.content = some text ∧ (trim text ≠ [] →
      message.issuer.map (·.name) = some (String.ofList (trim text))) := by
  obtain ⟨e, _, root, final, named, _, _, learnt, done⟩ := message?_eq_some_iff.1 told
  rw [children] at learnt
  obtain ⟨met, claimed, lead, step, trail⟩ := foldlM_middle.1 learnt
  -- No child before the first issuer makes a claim, and no child behind it replaces that claim.
  have unclaimed : met.claim = none := by
    refine foldlM_keeps (P := fun p => p.claim = none) ?_ rfl lead
    intro b mem p q none step
    rw [← none]
    exact Progress.afterChild?_other step fun e found claims =>
      first b mem ((isIssuer_iff named).2 ⟨e, found, claims.1⟩)
  obtain ⟨e', found, isIssuer⟩ := (isIssuer_iff named).1 issuer
  obtain ⟨claim, taken, heard⟩ := Progress.afterChild?_issuer step unclaimed found isIssuer
  have kept : final.claim = some claim := by
    refine foldlM_keeps (P := fun p => p.claim = some claim) ?_ taken trail
    intro b _ p q same step
    rw [← same]
    refine Progress.afterChild?_other step fun e _ claims => ?_
    cases same.symm.trans (Option.isNone_iff_eq_none.1 claims.2)
  refine ⟨claim.text, heard, fun nonblank => ?_⟩
  exact Progress.finish_issuer (p := final.left) done kept nonblank

/-- Of a text that is parsed, let the first `Issuer` element hold no other element. Its character
data can be read, and what is taken of it is the name of the message's issuer, once both are
trimmed, unless it is blank. This name is all of the trimmed data exactly if every character from
the first to the last that is not blank is taken. -/
theorem issuer_name_of_taken {xml : String} {f : Fragment} {d : Document}
    {before after : List Child} {c : Child} (parsed : parse xml = .ok f) (is : d.IsOf xml.toList)
    (children : d.children = before ++ c :: after) (issuer : IsIssuer d c)
    (first : ∀ b ∈ before, ¬ IsIssuer d b) (childless : ∀ p ∈ c.content, ¬ p.IsTag) :
    ∃ data, data? c.content = some data ∧ characterData? c.content = some (Datum.chars data) ∧
      (trim (Datum.name data) ≠ [] →
        f.message.issuer.map (·.name) = some (String.ofList (trim (Datum.name data)))) ∧
      (trim (Datum.name data) = trim (Datum.chars data) ↔
        ∀ x ∈ Datum.core data, x.taken = true) := by
  have told := (heard_of_readMessage is (readMessage_of_parse parsed)).1
  obtain ⟨text, heard, named⟩ := name_of_message? told children issuer first
  rw [issuerText?_eq childless] at heard
  obtain ⟨data, found, rfl⟩ := Option.map_eq_some_iff.1 heard
  refine ⟨data, found, ?_, named, Datum.trim_name_eq_iff data⟩
  rw [characterData?_eq, found, Option.map_some]

/-! ## Two issuers -/

theorem sampleMessage_issuer_isOf {text : String} {content : List Markup}
    (scanned : Markup.scan (withoutMark text.toList) =
      (.startTag ['a'] :: (issuerPieces content ++ [.endTag ['a']]), true))
    (inside : Content content) : (sampleMessage [⟨issuerTag, content⟩]).IsOf text.toList := by
  have issuer := issuerPieces_element inside
  refine sampleMessage_isOf scanned issuer.content ?_
  rw [← List.append_nil (issuerPieces content)]
  exact .element issuer .nil

theorem isIssuer_issuerTag (content : List Markup) :
    IsIssuer (sampleMessage [⟨issuerTag, content⟩]) ⟨issuerTag, content⟩ := by
  have name : childName? (sampleMessage []) ⟨issuerTag, []⟩ =
      some (.inNamespace assertion20 "Issuer") := rfl
  exact name

/-- A name with a reference in it, split from the white space behind it. -/
def sampleSplit : String :=
  "<a><Issuer xmlns=\"urn:oasis:names:tc:SAML:2.0:assertion\"> idp&amp;co<?x?> </Issuer></a>"

def sampleSplitContent : List Markup :=
  [.text " idp&amp;co".toList, .instruction ['x'], .text [' ']]

theorem sampleSplit_named :
    ∃ f, parse sampleSplit = .ok f ∧
      characterData? sampleSplitContent = some " idp&co ".toList ∧
      f.message.issuer.map (·.name) = some "idp&co" := by
  have read : readMessage sampleSplit.toList =
      .ok ⟨.bare "a", none, none, none, some (.named "idp&co"), none⟩ := rfl
  have is : (sampleMessage [⟨issuerTag, sampleSplitContent⟩]).IsOf sampleSplit.toList :=
    sampleMessage_issuer_isOf rfl (.other id (.other id (.other id .nil)))
  have parts : data? sampleSplitContent = some
      (Datum.mark false [' '] ++ Datum.mark true "idp&co".toList ++ Datum.mark false [' ']) := rfl
  obtain ⟨f, parsed, _⟩ := parse_of_readMessage read
  obtain ⟨data, found, whole, named, taken⟩ :=
    issuer_name_of_taken parsed is (List.nil_append _).symm (isIssuer_issuerTag _)
      (List.forall_mem_nil _) (by simp [sampleSplitContent, Markup.IsTag])
  cases parts.symm.trans found
  rw [taken.2 (by decide +kernel)] at named
  exact ⟨f, parsed, whole, named (by decide +kernel)⟩

/-- A name the end of which stands in a CDATA section. -/
def sampleTruncated : String :=
  "<a><Issuer xmlns=\"urn:oasis:names:tc:SAML:2.0:assertion\">https://idp.example" ++
    "<![CDATA[.evil.example]]></Issuer></a>"

/-- What stands in a CDATA section is left out of the name. -/
theorem cdata_left_out :
    ∃ (f : Fragment) (c : Child) (s : List Char), parse sampleTruncated = .ok f ∧
      (sampleMessage [c]).IsOf sampleTruncated.toList ∧ IsIssuer (sampleMessage [c]) c ∧
      (∀ p ∈ c.content, ¬ p.IsTag) ∧ characterData? c.content = some s ∧ trim s ≠ [] ∧
      String.ofList (trim s) = "https://idp.example.evil.example" ∧
      f.message.issuer.map (·.name) = some "https://idp.example" := by
  have read : readMessage sampleTruncated.toList =
      .ok ⟨.bare "a", none, none, none, some (.named "https://idp.example"), none⟩ := by
    decide +kernel
  obtain ⟨f, parsed, same⟩ := parse_of_readMessage read
  refine ⟨f, ⟨issuerTag, [.text "https://idp.example".toList, .cdata ".evil.example".toList]⟩,
    "https://idp.example.evil.example".toList, parsed, ?_, isIssuer_issuerTag _,
    by simp [Markup.IsTag], rfl, by decide +kernel, rfl, by rw [same]; rfl⟩
  exact sampleMessage_issuer_isOf rfl (.other id (.other id .nil))

end Gatehouse.Fragment
