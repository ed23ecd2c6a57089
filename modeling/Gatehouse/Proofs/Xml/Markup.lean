import Gatehouse.Xml.Markup
import Mathlib.Data.List.Chain
import Mathlib.Data.List.TakeWhile

/-! # Texts and their markup

What the inside of each kind of markup may hold, without regard to how it is read, and that scanning
a text finds the one division of it into such pieces. What names and nesting are like does not
matter here.
-/

namespace Gatehouse.Xml.Markup

open Gatehouse.Text

/-! ## Tags -/

/-- The inside of a tag: a closing angle bracket only stands in a quoted value. -/
inductive TagBody : List Char → Prop
  | nil : TagBody []
  | plain {c : Char} {rest : List Char} : c ≠ '>' → c ≠ '"' → c ≠ '\'' → TagBody rest →
      TagBody (c :: rest)
  | quoted {quote : Char} {value rest : List Char} : quote = '"' ∨ quote = '\'' → quote ∉ value →
      TagBody rest → TagBody (quote :: (value ++ quote :: rest))

/-- The inside of a tag, the quotation that is open before it included. -/
def TagRest (quote : Option Char) (body : List Char) : Prop :=
  match quote with
  | none => TagBody body
  | some q => ∃ value rest, body = value ++ q :: rest ∧ q ∉ value ∧ TagBody rest

theorem splitTag?_sound {quote : Option Char} {s body after : List Char}
    (opens : ∀ q, quote = some q → q = '"' ∨ q = '\'')
    (found : splitTag? quote s = some (body, after)) :
    s = body ++ '>' :: after ∧ TagRest quote body := by
  induction s generalizing quote body with
  | nil => simp [splitTag?] at found
  | cons c s ih =>
      cases quote with
      | none =>
          simp only [splitTag?] at found
          split at found
          · next close =>
              cases found
              exact ⟨by rw [close]; rfl, .nil⟩
          · next inner =>
              obtain ⟨⟨b, a⟩, split, same⟩ := Option.map_eq_some_iff.1 found
              cases same
              split at split
              · next quotes =>
                  obtain ⟨whole, value, rest, rfl, fresh, tail⟩ :=
                    ih (fun q same => Option.some.inj same ▸ quotes) split
                  exact ⟨by rw [whole]; rfl, .quoted quotes fresh tail⟩
              · next plain =>
                  rw [not_or] at plain
                  obtain ⟨whole, tail⟩ := ih (fun q same => by cases same) split
                  exact ⟨by rw [whole]; rfl, .plain inner plain.1 plain.2 tail⟩
      | some q =>
          simp only [splitTag?] at found
          obtain ⟨⟨b, a⟩, split, same⟩ := Option.map_eq_some_iff.1 found
          cases same
          split at split
          · next ends =>
              obtain ⟨whole, tail⟩ := ih (fun q same => by cases same) split
              exact ⟨by rw [whole]; rfl, [], b, by rw [ends]; rfl, List.not_mem_nil, tail⟩
          · next inside =>
              obtain ⟨whole, value, rest, rfl, fresh, tail⟩ := ih opens split
              refine ⟨by rw [whole]; rfl, c :: value, rest, rfl, ?_, tail⟩
              rw [List.mem_cons, not_or]
              exact ⟨Ne.symm inside, fresh⟩

theorem splitTag?_value {quote : Char} {value : List Char} (fresh : quote ∉ value)
    (s : List Char) : splitTag? (some quote) (value ++ quote :: s) =
      (splitTag? none s).map fun (body, after) => (value ++ quote :: body, after) := by
  induction value with
  | nil => simp [splitTag?]
  | cons c value ih =>
      rw [List.mem_cons, not_or] at fresh
      simp only [List.cons_append, splitTag?, if_neg (Ne.symm fresh.1), ih fresh.2,
        Option.map_map]
      rfl

theorem splitTag?_of_tagBody {body : List Char} (inside : TagBody body) (after : List Char) :
    splitTag? none (body ++ '>' :: after) = some (body, after) := by
  induction inside with
  | nil => simp [splitTag?]
  | plain inner single double _ ih => simp [splitTag?, inner, single, double, ih]
  | @quoted quote value rest quotes fresh _ ih =>
      have inner : quote ≠ '>' := by
        rcases quotes with rfl | rfl <;> decide
      simp [splitTag?, inner, quotes, splitTag?_value fresh, ih]

/-- A tag reaches to the first closing angle bracket outside quotes. -/
theorem splitTag?_eq_some_iff {s body after : List Char} :
    splitTag? none s = some (body, after) ↔ s = body ++ '>' :: after ∧ TagBody body := by
  constructor
  · intro found
    exact splitTag?_sound (fun q same => by cases same) found
  · rintro ⟨rfl, inside⟩
    exact splitTag?_of_tagBody inside after

/-! ## Declarations -/

/-- A text whose angle brackets match. -/
inductive Bracketed : List Char → Prop
  | nil : Bracketed []
  | plain {c : Char} {rest : List Char} : c ≠ '<' → c ≠ '>' → Bracketed rest →
      Bracketed (c :: rest)
  | nested {inner rest : List Char} : Bracketed inner → Bracketed rest →
      Bracketed ('<' :: (inner ++ '>' :: rest))

/-- A text that closes some brackets opened before it and matches its own. -/
def ClosesBrackets : Nat → List Char → Prop
  | 0, body => Bracketed body
  | depth + 1, body => ∃ inner rest, body = inner ++ '>' :: rest ∧ Bracketed inner ∧
      ClosesBrackets depth rest

theorem ClosesBrackets.cons {depth : Nat} {c : Char} {body : List Char} (other : c ≠ '<')
    (inner : c ≠ '>') (closes : ClosesBrackets depth body) : ClosesBrackets depth (c :: body) := by
  cases depth with
  | zero => exact .plain other inner closes
  | succ depth =>
      obtain ⟨first, rest, rfl, bracketed, closes⟩ := closes
      exact ⟨c :: first, rest, rfl, .plain other inner bracketed, closes⟩

theorem ClosesBrackets.opened {depth : Nat} {body : List Char}
    (closes : ClosesBrackets (depth + 1) body) : ClosesBrackets depth ('<' :: body) := by
  obtain ⟨inner, rest, rfl, bracketed, closes⟩ := closes
  cases depth with
  | zero => exact .nested bracketed closes
  | succ depth =>
      obtain ⟨more, rest, rfl, bracketed', closes⟩ := closes
      refine ⟨'<' :: (inner ++ '>' :: more), rest, ?_, .nested bracketed bracketed', closes⟩
      simp only [List.cons_append, List.append_assoc]

theorem splitDeclaration?_sound {depth : Nat} {s body after : List Char}
    (found : splitDeclaration? depth s = some (body, after)) :
    s = body ++ '>' :: after ∧ ClosesBrackets depth body := by
  induction s generalizing depth body with
  | nil => simp [splitDeclaration?] at found
  | cons c s ih =>
      have step {next : Nat}
          (more : (splitDeclaration? next s).map (fun (body, after) => (c :: body, after)) =
            some (body, after)) :
          ∃ tail, body = c :: tail ∧ s = tail ++ '>' :: after ∧ ClosesBrackets next tail := by
        obtain ⟨⟨tail, a⟩, split, same⟩ := Option.map_eq_some_iff.1 more
        cases same
        exact ⟨tail, rfl, ih split⟩
      simp only [splitDeclaration?] at found
      split at found
      · next opens =>
          obtain ⟨tail, rfl, rfl, closes⟩ := step found
          exact ⟨rfl, opens ▸ closes.opened⟩
      · next other =>
          split at found
          · next close =>
              subst close
              cases depth with
              | zero =>
                  cases found
                  exact ⟨rfl, .nil⟩
              | succ depth =>
                  obtain ⟨tail, rfl, rfl, closes⟩ := step found
                  exact ⟨rfl, [], tail, rfl, .nil, closes⟩
          · next inner =>
              obtain ⟨tail, rfl, rfl, closes⟩ := step found
              exact ⟨rfl, closes.cons other inner⟩

theorem splitDeclaration?_bracketed {body : List Char} (bracketed : Bracketed body) (depth : Nat)
    (s : List Char) : splitDeclaration? depth (body ++ s) =
      (splitDeclaration? depth s).map fun (rest, after) => (body ++ rest, after) := by
  induction bracketed generalizing depth s with
  | nil => simp
  | plain other inner _ ih =>
      simp only [List.cons_append, splitDeclaration?, if_neg other, if_neg inner, ih,
        Option.map_map]
      rfl
  | nested _ _ ihInner ihRest =>
      simp [splitDeclaration?, ihInner, ihRest, Function.comp_def]

/-- A declaration reaches to the first closing angle bracket that matches none inside it. -/
theorem splitDeclaration?_eq_some_iff {s body after : List Char} :
    splitDeclaration? 0 s = some (body, after) ↔ s = body ++ '>' :: after ∧ Bracketed body := by
  constructor
  · exact splitDeclaration?_sound
  · rintro ⟨rfl, bracketed⟩
    simp [splitDeclaration?_bracketed bracketed, splitDeclaration?]

/-! ## Pieces -/

/-- Whether a piece is character data between two pieces of markup. -/
def IsText (p : Markup) : Prop :=
  ∃ raw, p = text raw

/-- The inside of a piece is such that the piece ends where it says. -/
def IsProper : Markup → Prop
  | text raw => raw ≠ [] ∧ '<' ∉ raw
  | startTag body => TagBody body ∧ ∀ c ∈ body.head?, c ≠ '!' ∧ c ≠ '?' ∧ c ≠ '/'
  | endTag body => TagBody body
  | comment body => ¬ ['-', '-', '>'] <:+: body ++ ['-', '-']
  | cdata body => ¬ [']', ']', '>'] <:+: body ++ [']', ']']
  | instruction body => ¬ ['?', '>'] <:+: body ++ ['?'] ∧ body.head? ≠ some '>'
  | doctype body => Bracketed body ∧ isDoctype body = true

theorem piece_eq_some_iff {kind : List Char → Markup} {split : Option (List Char × List Char)}
    {p : Markup} {rest : List Char} :
    (split.map fun (body, after) => (kind body, after)) = some (p, rest) ↔
      ∃ body, p = kind body ∧ split = some (body, rest) := by
  rw [Option.map_eq_some_iff]
  constructor
  · rintro ⟨⟨body, after⟩, found, same⟩
    cases same
    exact ⟨body, rfl, found⟩
  · rintro ⟨body, rfl, found⟩
    exact ⟨(body, rest), found, rfl⟩

/-- The first piece is a proper one, and character data goes on up to the next markup. -/
theorem next?_sound {s rest : List Char} {p : Markup} (ne : s ≠ []) :
    next? s = some (p, rest) →
      s = p.render ++ rest ∧ p.IsProper ∧ (p.IsText → ∀ c ∈ rest.head?, c = '<') := by
  fun_cases next? s with
  | case1 s =>
      intro found
      obtain ⟨body, rfl, split⟩ := piece_eq_some_iff.1 found
      obtain ⟨rfl, first⟩ := (splitAt?_eq_some_iff (by simp)).1 split
      exact ⟨by simp [render], first, fun ⟨_, same⟩ => by cases same⟩
  | case2 s =>
      intro found
      obtain ⟨body, rfl, split⟩ := piece_eq_some_iff.1 found
      obtain ⟨rfl, first⟩ := (splitAt?_eq_some_iff (by simp)).1 split
      exact ⟨by simp [render], first, fun ⟨_, same⟩ => by cases same⟩
  | case3 s _ _ =>
      intro found
      obtain ⟨body, rfl, split⟩ := piece_eq_some_iff.1 found
      obtain ⟨split, named⟩ := Option.filter_eq_some_iff.1 split
      obtain ⟨rfl, bracketed⟩ := splitDeclaration?_eq_some_iff.1 split
      exact ⟨by simp [render], ⟨bracketed, named⟩, fun ⟨_, same⟩ => by cases same⟩
  | case4 s =>
      intro found
      cases found
  | case5 s inner =>
      intro found
      obtain ⟨body, rfl, split⟩ := piece_eq_some_iff.1 found
      obtain ⟨rfl, first⟩ := (splitAt?_eq_some_iff (by simp)).1 split
      refine ⟨by simp [render], ⟨first, ?_⟩, fun ⟨_, same⟩ => by cases same⟩
      intro close
      obtain ⟨tail, rfl⟩ := List.head?_eq_some_iff.1 close
      exact inner _ rfl
  | case6 s =>
      intro found
      obtain ⟨body, rfl, split⟩ := piece_eq_some_iff.1 found
      obtain ⟨rfl, inside⟩ := splitTag?_eq_some_iff.1 split
      exact ⟨by simp [render], inside, fun ⟨_, same⟩ => by cases same⟩
  | case7 s _ _ noBang _ noMark noSlash =>
      intro found
      obtain ⟨body, rfl, split⟩ := piece_eq_some_iff.1 found
      obtain ⟨rfl, inside⟩ := splitTag?_eq_some_iff.1 split
      refine ⟨by simp [render], ⟨inside, ?_⟩, fun ⟨_, same⟩ => by cases same⟩
      intro c first
      obtain ⟨tail, rfl⟩ := List.head?_eq_some_iff.1 first
      refine ⟨?_, ?_, ?_⟩
      · rintro rfl
        exact noBang _ rfl
      · rintro rfl
        exact noMark _ rfl
      · rintro rfl
        exact noSlash _ rfl
  | case8 s _ _ _ _ _ _ noMarkup =>
      intro found
      cases found
      refine ⟨(List.takeWhile_append_dropWhile).symm, ⟨?_, ?_⟩, ?_⟩
      · cases s with
        | nil => exact absurd rfl ne
        | cons c s =>
            have plain : c ≠ '<' := by
              rintro rfl
              exact noMarkup s rfl
            simp [plain]
      · intro mem
        simpa using List.mem_takeWhile_imp mem
      · intro _ c first
        have stop := List.head?_dropWhile_not (fun c => decide (c ≠ '<')) s
        rw [Option.mem_def.1 first] at stop
        simpa using stop

theorem first_of_append {body rest s : List Char} {c d : Char} (same : body ++ c :: rest = d :: s) :
    d = c ∨ body.head? = some d := by
  cases body with
  | nil => exact .inl (List.cons.inj same).1.symm
  | cons b body => exact .inr (congrArg some (List.cons.inj same).1)

theorem next?_text {raw rest : List Char} (ne : raw ≠ []) (plain : '<' ∉ raw)
    (ends : ∀ c ∈ rest.head?, c = '<') : next? (raw ++ rest) = some (text raw, rest) := by
  have inside : ∀ c ∈ raw, decide (c ≠ '<') = true := by
    intro c mem
    rw [decide_eq_true_eq]
    rintro rfl
    exact plain mem
  have noMarkup : ∀ s, raw ++ rest ≠ '<' :: s := by
    intro s same
    cases raw with
    | nil => exact ne rfl
    | cons c raw => exact plain ((List.cons.inj same).1 ▸ List.mem_cons_self)
  have beyond : rest.takeWhile (fun c => decide (c ≠ '<')) = [] ∧
      rest.dropWhile (fun c => decide (c ≠ '<')) = rest := by
    cases rest with
    | nil => exact ⟨rfl, rfl⟩
    | cons c rest => simp [ends c rfl]
  rw [next?.eq_8]
  · rw [List.takeWhile_append_of_pos inside, List.dropWhile_append_of_pos inside, beyond.1,
      beyond.2, List.append_nil]
  all_goals exact fun s same => noMarkup _ same

theorem next?_startTag {body rest : List Char} (inside : TagBody body)
    (first : ∀ c ∈ body.head?, c ≠ '!' ∧ c ≠ '?' ∧ c ≠ '/') :
    next? ('<' :: (body ++ '>' :: rest)) = some (startTag body, rest) := by
  have unlike {c : Char} {s : List Char} (same : body ++ '>' :: rest = c :: s) :
      c ≠ '!' ∧ c ≠ '?' ∧ c ≠ '/' := by
    rcases first_of_append same with rfl | head
    · decide
    · exact first c head
  rw [next?.eq_7, splitTag?_of_tagBody inside]
  · rfl
  · exact fun s same => (unlike same).1 rfl
  · exact fun s same => (unlike same).1 rfl
  · exact fun s same => (unlike same).1 rfl
  · exact fun s same => (unlike same).2.1 rfl
  · exact fun s same => (unlike same).2.1 rfl
  · exact fun s same => (unlike same).2.2 rfl

theorem next?_instruction {body rest : List Char} (first : ¬ ['?', '>'] <:+: body ++ ['?'])
    (noClose : body.head? ≠ some '>') :
    next? ('<' :: '?' :: (body ++ '?' :: '>' :: rest)) = some (instruction body, rest) := by
  have split : splitAt? ['?', '>'] (body ++ ['?', '>'] ++ rest) = some (body, rest) :=
    (splitAt?_eq_some_iff (by simp)).2 ⟨rfl, first⟩
  rw [List.append_assoc] at split
  rw [next?.eq_5]
  · exact piece_eq_some_iff.2 ⟨body, rfl, split⟩
  · intro s same
    rcases first_of_append same with mark | head
    · exact absurd mark (by decide)
    · exact noClose head

theorem next?_doctype {body rest : List Char} (bracketed : Bracketed body)
    (named : isDoctype body = true) :
    next? ('<' :: '!' :: (body ++ '>' :: rest)) = some (doctype body, rest) := by
  have unlike {c : Char} {s : List Char} (same : body ++ '>' :: rest = c :: s) :
      c.toUpper = 'D' := by
    cases body with
    | nil => simp [isDoctype] at named
    | cons d body =>
        simp only [isDoctype, List.take_succ_cons, List.map_cons, List.cons.injEq,
          Bool.and_eq_true, decide_eq_true_eq] at named
        exact (List.cons.inj same).1 ▸ named.1.1
  have split : splitDeclaration? 0 (body ++ '>' :: rest) = some (body, rest) :=
    splitDeclaration?_eq_some_iff.2 ⟨rfl, bracketed⟩
  rw [next?.eq_3]
  · exact piece_eq_some_iff.2 ⟨body, rfl, Option.filter_eq_some_iff.2 ⟨split, named⟩⟩
  · intro s same
    exact absurd (unlike same) (by decide)
  · intro s same
    exact absurd (unlike same) (by decide)

theorem next?_complete {p : Markup} (proper : p.IsProper) {rest : List Char}
    (ends : p.IsText → ∀ c ∈ rest.head?, c = '<') : next? (p.render ++ rest) = some (p, rest) := by
  cases p with
  | text raw => exact next?_text proper.1 proper.2 (ends ⟨raw, rfl⟩)
  | startTag body =>
      have found := @next?_startTag body rest proper.1 proper.2
      simpa [render] using found
  | endTag body =>
      have split := splitTag?_of_tagBody proper rest
      simp [render, next?, split]
  | comment body =>
      have split : splitAt? ['-', '-', '>'] (body ++ ['-', '-', '>'] ++ rest) = some (body, rest) :=
        (splitAt?_eq_some_iff (by simp)).2 ⟨rfl, proper⟩
      simpa [render, next?] using split
  | cdata body =>
      have split : splitAt? [']', ']', '>'] (body ++ [']', ']', '>'] ++ rest) = some (body, rest) :=
        (splitAt?_eq_some_iff (by simp)).2 ⟨rfl, proper⟩
      simpa [render, next?] using split
  | instruction body =>
      have found := @next?_instruction body rest proper.1 proper.2
      simpa [render] using found
  | doctype body =>
      have found := @next?_doctype body rest proper.1 proper.2
      simpa [render] using found

/-! ## Divisions -/

/-- A text falls into pieces: each of them is proper, and character data is not cut in two. -/
structure Division (s : List Char) (pieces : List Markup) : Prop where
  whole : pieces.flatMap render = s
  proper : ∀ p ∈ pieces, p.IsProper
  apart : pieces.IsChain fun p q => ¬ (p.IsText ∧ q.IsText)

theorem render_ne_nil {p : Markup} (proper : p.IsProper) : p.render ≠ [] := by
  cases p with
  | text raw => exact proper.1
  | _ => simp [render]

/-- A piece that is no character data begins with an angle bracket, character data does not. -/
theorem isText_iff_first {p : Markup} (proper : p.IsProper) :
    p.IsText ↔ p.render.head? ≠ some '<' := by
  cases p with
  | text raw =>
      refine ⟨fun _ first => proper.2 (List.mem_of_head? first), fun _ => ⟨raw, rfl⟩⟩
  | _ =>
      simp [render, IsText]

theorem division_nil_iff {s : List Char} : Division s [] ↔ s = [] := by
  constructor
  · intro d
    exact d.whole.symm
  · rintro rfl
    exact ⟨rfl, by simp, .nil⟩

theorem division_cons_iff {s : List Char} {p : Markup} {pieces : List Markup} :
    Division s (p :: pieces) ↔ ∃ rest, s = p.render ++ rest ∧ p.IsProper ∧
      (p.IsText → ∀ c ∈ rest.head?, c = '<') ∧ Division rest pieces := by
  constructor
  · rintro ⟨rfl, proper, apart⟩
    rw [List.forall_mem_cons] at proper
    rw [List.isChain_cons] at apart
    refine ⟨pieces.flatMap render, by simp, proper.1, ?_, rfl, proper.2, apart.2⟩
    intro isText c first
    cases pieces with
    | nil => cases first
    | cons q pieces =>
        have other : ¬ q.IsText := fun both => apart.1 q rfl ⟨isText, both⟩
        rw [isText_iff_first (proper.2 q List.mem_cons_self), Classical.not_not] at other
        rw [List.flatMap_cons, List.head?_append, other] at first
        exact (Option.some.inj first).symm
  · rintro ⟨rest, rfl, proper, ends, d⟩
    refine ⟨by simp [d.whole], List.forall_mem_cons.2 ⟨proper, d.proper⟩,
      List.isChain_cons.2 ⟨?_, d.apart⟩⟩
    rintro q head ⟨isText, both⟩
    obtain ⟨pieces, rfl⟩ := List.head?_eq_some_iff.1 head
    obtain ⟨c, tail, shape⟩ :=
      List.exists_cons_of_ne_nil (render_ne_nil (d.proper q List.mem_cons_self))
    have first : rest.head? = some c := by simp [← d.whole, shape]
    refine (isText_iff_first (d.proper q List.mem_cons_self)).1 both ?_
    rw [shape, List.head?_cons, ends isText c first]

theorem next?_eq_some_iff {s rest : List Char} {p : Markup} (ne : s ≠ []) :
    next? s = some (p, rest) ↔
      s = p.render ++ rest ∧ p.IsProper ∧ (p.IsText → ∀ c ∈ rest.head?, c = '<') := by
  constructor
  · exact next?_sound ne
  · rintro ⟨rfl, proper, ends⟩
    exact next?_complete proper ends

theorem scanWith_nil_iff {fuel : Nat} {s : List Char} :
    scanWith fuel s = ([], true) ↔ s = [] := by
  cases s with
  | nil => simp [scanWith]
  | cons c s =>
      cases fuel with
      | zero => simp [scanWith]
      | succ fuel =>
          rw [scanWith.eq_3 _ _ (by simp)]
          cases next? (c :: s) <;> simp

theorem scanWith_cons_iff {fuel : Nat} {s : List Char} {p : Markup} {pieces : List Markup}
    (ne : s ≠ []) : scanWith (fuel + 1) s = (p :: pieces, true) ↔
      ∃ rest, next? s = some (p, rest) ∧ scanWith fuel rest = (pieces, true) := by
  cases s with
  | nil => exact absurd rfl ne
  | cons c s =>
      rw [scanWith.eq_3 _ _ (by simp)]
      cases next? (c :: s) with
      | none => simp
      | some found => simp [Prod.ext_iff, and_assoc]

theorem scanWith_eq_iff {fuel : Nat} {s : List Char} {pieces : List Markup}
    (enough : s.length ≤ fuel) : scanWith fuel s = (pieces, true) ↔ Division s pieces := by
  induction pieces generalizing fuel s with
  | nil => rw [scanWith_nil_iff, division_nil_iff]
  | cons p pieces ih =>
      by_cases ne : s = []
      · subst ne
        simp only [scanWith, Prod.mk.injEq, reduceCtorEq, false_and, false_iff]
        intro d
        exact render_ne_nil (d.proper p List.mem_cons_self)
          (List.flatMap_eq_nil_iff.1 d.whole p List.mem_cons_self)
      · cases fuel with
        | zero => exact absurd (List.eq_nil_of_length_eq_zero (Nat.le_zero.1 enough)) ne
        | succ fuel =>
            rw [scanWith_cons_iff ne, division_cons_iff]
            refine exists_congr fun rest => ?_
            rw [next?_eq_some_iff ne, and_assoc, and_assoc]
            refine and_congr_right fun whole => and_congr_right fun proper => and_congr_right ?_
            intro _
            have nonempty := List.length_pos_iff.2 (render_ne_nil proper)
            rw [whole, List.length_append] at enough
            exact ih (by omega)

/-- Scanning finds the division of a text, if there is one. -/
theorem scan_eq_iff {s : List Char} {pieces : List Markup} :
    scan s = (pieces, true) ↔ Division s pieces :=
  scanWith_eq_iff (Nat.le_refl _)

theorem Division.unique {s : List Char} {pieces others : List Markup} (d : Division s pieces)
    (e : Division s others) : pieces = others :=
  congrArg Prod.fst ((scan_eq_iff.2 d).symm.trans (scan_eq_iff.2 e))

/-- Markup can be put behind a text that falls into pieces. -/
theorem Division.concat {s : List Char} {pieces : List Markup} {p : Markup} (d : Division s pieces)
    (proper : p.IsProper) (other : ¬ p.IsText) : Division (s ++ p.render) (pieces ++ [p]) where
  whole := by rw [List.flatMap_append, d.whole, List.flatMap_singleton]
  proper := List.forall_mem_append.2 ⟨d.proper, List.forall_mem_singleton.2 proper⟩
  apart := by
    refine List.isChain_append.2 ⟨d.apart, .singleton p, ?_⟩
    rintro q _ r last ⟨_, isText⟩
    cases last
    exact other isText

end Gatehouse.Xml.Markup
