import Gatehouse.Proofs.Data.Groups
import Gatehouse.Proofs.Text.Case
import Gatehouse.Request
import Mathlib.Data.List.Induction

/-! # What a request answers

A request is made from its URL; then bodies, headers, certificates and addresses are put into it, as
many as one likes and in any order. Each look-up shows all that was put in of its own kind, in the
order in which it came, and nothing of the other kinds. Of two headers with one name the later
counts, and names are the same if they differ at most in the case of ASCII letters.
-/

namespace Gatehouse

/-- Of the values that are put under a key one after the other the last one stays. -/
theorem Table.get?_foldl_insert {α κ ν : Type} [DecidableEq κ] (key : α → κ) (value : α → ν)
    (t : Table κ ν) (l : List α) (k : κ) :
    (l.foldl (fun t a => t.insert (key a) (value a)) t).get? k =
      ((l.reverse.find? fun a => key a = k).map value).or (t.get? k) := by
  induction l using List.reverseRecOn with
  | nil => rfl
  | append_singleton l a ih =>
      rw [List.foldl_append, List.foldl_cons, List.foldl_nil, Table.get?_insert, ih,
        List.reverse_append, List.reverse_singleton, List.singleton_append, List.find?_cons]
      by_cases same : key a = k
      · simp [same]
      · simp [same, Ne.symm same]

/-- A search from the end finds the last one. -/
theorem find?_reverse_eq_some_iff {α : Type} {p : α → Bool} {l : List α} {a : α} :
    l.reverse.find? p = some a ↔
      ∃ before after, l = before ++ a :: after ∧ p a = true ∧ ∀ b ∈ after, ¬ p b = true := by
  rw [List.find?_eq_some_iff_append]
  constructor
  · rintro ⟨meets, later, earlier, whole, last⟩
    refine ⟨earlier.reverse, later.reverse, ?_, meets, ?_⟩
    · rw [← List.reverse_reverse l, whole]
      simp
    · simpa using last
  · rintro ⟨before, after, rfl, meets, last⟩
    refine ⟨meets, after.reverse, before.reverse, ?_, ?_⟩
    · simp
    · simpa using last

namespace Request

/-- What can be put into a request. -/
inductive Part where
  | body (text : String)
  | header (name value : String)
  | certificate (c : Certificate)
  | remoteAddress (address : String)

namespace Part

def body? : Part → Option String
  | body text => some text
  | _ => none

def header? : Part → Option (String × String)
  | header name value => some (name, value)
  | _ => none

def certificate? : Part → Option Certificate
  | certificate c => some c
  | _ => none

def remoteAddress? : Part → Option String
  | remoteAddress address => some address
  | _ => none

end Part

def withPart (r : Request) : Part → Request
  | .body text => r.withBody text
  | .header name value => r.withHeader name value
  | .certificate c => r.withCertificate c
  | .remoteAddress address => r.withRemoteAddress address

def withParts (r : Request) (parts : List Part) : Request :=
  parts.foldl withPart r

variable {r : Request} {parts : List Part} {method url : String} {read? : String → Option Url}

/-- What has become of each field when some parts have been put in. -/
theorem withParts_eq : r.withParts parts =
    { r with
      headers := (parts.filterMap Part.header?).foldl
        (fun t h => t.insert h.1.toLower h.2) r.headers
      parameters := r.parameters.addAll ((parts.filterMap Part.body?).flatMap Form.pairs)
      clientCertificates := r.clientCertificates ++ parts.filterMap Part.certificate?
      remoteAddress := (parts.filterMap Part.remoteAddress?).getLast?.or r.remoteAddress } := by
  induction parts generalizing r with
  | nil => simp [withParts, Groups.addAll]
  | cons part parts ih =>
      have step : r.withParts (part :: parts) = (r.withPart part).withParts parts := rfl
      rw [step, ih]
      -- A part of another kind is passed over by definition.
      cases part with
      | body text =>
          simp only [withPart, withBody, ← Groups.addAll_append]
          rfl
      | header name value => rfl
      | certificate c =>
          simp only [withPart, withCertificate, List.append_assoc, List.singleton_append]
          rfl
      | remoteAddress address =>
          have last : ((Part.remoteAddress address :: parts).filterMap
              Part.remoteAddress?).getLast? =
                some ((parts.filterMap Part.remoteAddress?).getLast?.getD address) :=
            List.getLast?_cons
          simp only [withPart, withRemoteAddress, last, Option.or_some, Option.some_or]
          rfl

theorem ofUrl_eq_ok_iff :
    ofUrl method url read? = .ok r ↔ ∃ u, read? url = some u ∧ ofParsed method u = r := by
  unfold ofUrl
  cases read? url with
  | none => simp
  | some u => simp

/-- What the look-ups of a request show, given its URL and what has been put into it. -/
structure Shows (r : Request) (u : Url) (parts : List Part) : Prop where
  /-- The values of the query come first, then those of the bodies. -/
  values : ∀ name, r.values name =
    ((Form.pairs (u.query.getD "") ++ (parts.filterMap Part.body?).flatMap Form.pairs).filter
      fun pair => pair.1 = name).map Prod.snd
  first : ∀ name, r.value? name = (r.values name).head?
  /-- The last header that has the name counts. -/
  header_iff : ∀ name value, r.header? name = some value ↔ ∃ before own after,
    parts.filterMap Part.header? = before ++ (own, value) :: after ∧ Text.SameButCase own name ∧
      ∀ later ∈ after, ¬ Text.SameButCase later.1 name
  no_header_iff : ∀ name, r.header? name = none ↔
    ∀ header ∈ parts.filterMap Part.header?, ¬ Text.SameButCase header.1 name
  certificates : r.clientCertificates = parts.filterMap Part.certificate?
  address : r.remoteAddress = (parts.filterMap Part.remoteAddress?).getLast?
  url_kept : r.url = u

theorem header?_withParts (method : String) (u : Url) (parts : List Part) (name : String) :
    ((ofParsed method u).withParts parts).header? name =
      ((parts.filterMap Part.header?).reverse.find? fun header =>
        header.1.toLower = name.toLower).map Prod.snd := by
  rw [header?, withParts_eq, Table.get?_foldl_insert, ofParsed, Table.get?_empty, Option.or_none]

theorem shows_withParts (method : String) (u : Url) (parts : List Part) :
    Shows ((ofParsed method u).withParts parts) u parts where
  values name := by
    rw [values, withParts_eq, Groups.get_addAll, ofParsed, Groups.get_addAll, List.append_assoc,
      ← Groups.under_append]
    rfl
  first name := rfl
  header_iff name value := by
    rw [header?_withParts]
    simp only [Option.map_eq_some_iff, find?_reverse_eq_some_iff, decide_eq_true_eq,
      Text.lowered_eq_iff]
    constructor
    · rintro ⟨⟨own, _⟩, ⟨before, after, whole, same, last⟩, rfl⟩
      exact ⟨before, own, after, whole, same, last⟩
    · rintro ⟨before, own, after, whole, same, last⟩
      exact ⟨(own, value), ⟨before, after, whole, same, last⟩, rfl⟩
  no_header_iff name := by
    rw [header?_withParts, Option.map_eq_none_iff, List.find?_eq_none]
    simp only [List.mem_reverse, decide_eq_true_eq, Text.lowered_eq_iff]
  certificates := by
    rw [withParts_eq]
    exact List.nil_append _
  address := by
    rw [withParts_eq]
    exact Option.or_none
  url_kept := by
    rw [withParts_eq]
    rfl

/-- However URLs are read, a request shows its URL and all that was put into it. Two requests from
one URL into which the same parts of one kind were put answer alike about that kind, whatever else
was put into them. -/
theorem lookups_show_parts (made : ofUrl method url read? = .ok r) (parts : List Part) :
    read? url = some r.url ∧ Shows (r.withParts parts) r.url parts ∧
      ∀ others,
        (others.filterMap Part.body? = parts.filterMap Part.body? →
          (r.withParts others).values = (r.withParts parts).values) ∧
        (others.filterMap Part.header? = parts.filterMap Part.header? →
          (r.withParts others).header? = (r.withParts parts).header?) ∧
        (others.filterMap Part.certificate? = parts.filterMap Part.certificate? →
          (r.withParts others).clientCertificates = (r.withParts parts).clientCertificates) ∧
        (others.filterMap Part.remoteAddress? = parts.filterMap Part.remoteAddress? →
          (r.withParts others).remoteAddress = (r.withParts parts).remoteAddress) := by
  obtain ⟨u, read, rfl⟩ := ofUrl_eq_ok_iff.1 made
  refine ⟨read, shows_withParts method u parts, fun others => ⟨fun same => ?_, fun same => ?_,
    fun same => ?_, fun same => ?_⟩⟩
  · funext name
    simp only [values, withParts_eq, same]
  · funext name
    simp only [header?, withParts_eq, same]
  · simp only [withParts_eq, same]
  · simp only [withParts_eq, same]

/-- Headers and bodies in turn. -/
def sampleParts : List Part :=
  [.header "Content-Type" "text/plain", .body "x=3&RelayState=%2Fhome",
    .remoteAddress "192.0.2.10", .header "CONTENT-TYPE" "text/xml", .body "&x=4"]

def sampleUrl : String :=
  "https://b\u00fccher.example/acs?x=1&y=0&x=2"

/-- Puts the name of the sample in ASCII. -/
def sampleConversion : Url.Host.Conversion := fun name =>
  if name = "b\u00fccher.example".toList then some "xn--bcher-kva.example".toList else none

/-- A parameter of the query and of two bodies, and a header that was replaced, in a request on an
internationalised host. -/
theorem sampleParts_shown : ∃ r,
    ofUrl "post" sampleUrl (Url.readWith? sampleConversion) = .ok r ∧
    r.url.host = some (.name "xn--bcher-kva.example") ∧
    Shows (r.withParts sampleParts) r.url sampleParts ∧
    (r.withParts sampleParts).values "x" = ["1", "2", "3", "4"] ∧
    (r.withParts sampleParts).header? "content-type" = some "text/xml" ∧
    (r.withParts [.header "content-type" "text/plain", .header "Content-Type" "text/xml"]).values =
      (r.withParts []).values := by
  have known : (Url.readWith? sampleConversion sampleUrl).map (fun u => (u.host, u.query)) =
      some (some (.name "xn--bcher-kva.example"), some "x=1&y=0&x=2") := by decide +kernel
  obtain ⟨u, read, both⟩ := Option.map_eq_some_iff.1 known
  obtain ⟨host, query⟩ := Prod.mk.inj both
  have made : ofUrl "post" sampleUrl (Url.readWith? sampleConversion) = .ok (ofParsed "post" u) :=
    ofUrl_eq_ok_iff.2 ⟨u, read, rfl⟩
  have shown := (lookups_show_parts made sampleParts).2.1
  refine ⟨_, made, host, shown, ?_, ?_, ((lookups_show_parts made []).2.2 _).1 rfl⟩
  · rw [shown.values, ofParsed, query]
    decide +kernel
  · have headers : sampleParts.filterMap Part.header? =
        [("Content-Type", "text/plain"), ("CONTENT-TYPE", "text/xml")] := rfl
    have same : Text.SameButCase "CONTENT-TYPE" "content-type" := by
      simp [Text.SameButCase, Text.SameLetter]
    rw [shown.header_iff, headers]
    exact ⟨[("Content-Type", "text/plain")], "CONTENT-TYPE", [], rfl, same, by simp⟩

end Request

end Gatehouse
