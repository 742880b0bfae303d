import RouteAtlas.Json.Doc

/-! # Texts that spell a document

The grammar of JSON, as a relation between a document and every text that spells it: blanks stand
where they may, a character of a string stands for itself or is escaped, and a numeral is written
with its digits. A text that spells a document is cut into the tokens that the grammar says.
-/

namespace RouteAtlas.Json

/-- Blanks as they may stand around a token. -/
def Blanks (cs : List Char) : Prop :=
  ∀ c ∈ cs, c ∈ [' ', '\t', '\n', '\r']

namespace Numeral

/-- At least one decimal digit. -/
def Digits (digits : List Nat) : Prop :=
  digits ≠ [] ∧ ∀ d ∈ digits, d < 10

inductive SpellsFraction : List Nat → List Char → Prop
  | absent : SpellsFraction [] []
  | present {digits : List Nat} (some : Digits digits) :
      SpellsFraction digits ('.' :: digits.map Nat.digitChar)

inductive SpellsExponent : Option (Bool × List Nat) → List Char → Prop
  | absent : SpellsExponent none []
  | negative {mark : Char} {digits : List Nat} (marked : mark ∈ ['e', 'E'])
      (some : Digits digits) :
      SpellsExponent (.some (true, digits)) (mark :: '-' :: digits.map Nat.digitChar)
  | positive {mark : Char} {sign : List Char} {digits : List Nat} (marked : mark ∈ ['e', 'E'])
      (signed : sign ∈ [[], ['+']]) (some : Digits digits) :
      SpellsExponent (.some (false, digits)) (mark :: (sign ++ digits.map Nat.digitChar))

/-- Zero leads no other digits. -/
inductive Spells : Numeral → List Char → Prop
  | parts {negative : Bool} {whole fraction : List Nat} {exponent : Option (Bool × List Nat)}
      {point power : List Char} (some : Digits whole) (zero : whole.head? = .some 0 → whole = [0])
      (fractional : SpellsFraction fraction point) (scaled : SpellsExponent exponent power) :
      Spells ⟨negative, whole, fraction, exponent⟩
        ((if negative then ['-'] else []) ++ (whole.map Nat.digitChar ++ (point ++ power)))

end Numeral

/-- What stands for one code point in a string: the character itself, or an escape of it or of a
    half of a surrogate pair. -/
inductive Glyph : Nat → List Char → Prop
  | plain {c : Char} (quote : c ≠ '"') (backslash : c ≠ '\\') (control : 0x20 ≤ c.toNat) :
      Glyph c.toNat [c]
  | escape {e c : Char} (listed : (e, c) ∈ [('"', '"'), ('\\', '\\'), ('/', '/'), ('b', '\x08'),
      ('f', '\x0c'), ('n', '\n'), ('r', '\r'), ('t', '\t')]) :
      Glyph c.toNat ['\\', e]
  | unicode {a b c d : Char} {point : Nat} (digits : Text.hex? [a, b, c, d] = some point) :
      Glyph point ['\\', 'u', a, b, c, d]

inductive SpellsPoints : List Nat → List Char → Prop
  | nil : SpellsPoints [] []
  | cons {point : Nat} {points : List Nat} {cs more : List Char} (glyph : Glyph point cs)
      (rest : SpellsPoints points more) : SpellsPoints (point :: points) (cs ++ more)

/-- A string between its quotes, with the text that it stands for if it has whole characters. -/
inductive SpellsString : Option String → List Char → Prop
  | text {points : List Nat} {body content : List Char} (spells : SpellsPoints points body)
      (joined : Token.joinPairs points = some content) :
      SpellsString (some (String.ofList content)) ('"' :: (body ++ ['"']))
  | unpaired {points : List Nat} {body : List Char} (spells : SpellsPoints points body)
      (apart : Token.joinPairs points = none) : SpellsString none ('"' :: (body ++ ['"']))

/-- What a part of a text spells. -/
inductive Phrase where
  | value (doc : Doc)
  /-- A value with blanks around it. -/
  | element (doc : Doc)
  /-- The inside of an array. -/
  | items (docs : List Doc)
  /-- The inside of an object. -/
  | members (members : List (Option String × Doc))

/-- Document of a string. -/
def Doc.ofString : Option String → Doc
  | some content => .text content
  | none => .unpaired

inductive Spells : Phrase → List Char → Prop
  | null : Spells (.value .null) ['n', 'u', 'l', 'l']
  | yes : Spells (.value (.bool true)) ['t', 'r', 'u', 'e']
  | no : Spells (.value (.bool false)) ['f', 'a', 'l', 's', 'e']
  | number {numeral : Numeral} {cs : List Char} (written : numeral.Spells cs) :
      Spells (.value (.number numeral)) cs
  | string {content : Option String} {cs : List Char} (written : SpellsString content cs) :
      Spells (.value (.ofString content)) cs
  | array {docs : List Doc} {cs : List Char} (inside : Spells (.items docs) cs) :
      Spells (.value (.array docs true)) ('[' :: (cs ++ [']']))
  | object {members : List (Option String × Doc)} {cs : List Char}
      (inside : Spells (.members members) cs) :
      Spells (.value (.object members true)) ('\x7b' :: (cs ++ ['\x7d']))
  | element {doc : Doc} {before cs after : List Char} (blanksBefore : Blanks before)
      (value : Spells (.value doc) cs) (blanksAfter : Blanks after) :
      Spells (.element doc) (before ++ (cs ++ after))
  | noItem {cs : List Char} (blanks : Blanks cs) : Spells (.items []) cs
  | lastItem {doc : Doc} {cs : List Char} (element : Spells (.element doc) cs) :
      Spells (.items [doc]) cs
  | item {doc next : Doc} {docs : List Doc} {cs more : List Char}
      (element : Spells (.element doc) cs) (rest : Spells (.items (next :: docs)) more) :
      Spells (.items (doc :: next :: docs)) (cs ++ ',' :: more)
  | noMember {cs : List Char} (blanks : Blanks cs) : Spells (.members []) cs
  | lastMember {key : Option String} {doc : Doc} {before name after cs : List Char}
      (blanksBefore : Blanks before) (named : SpellsString key name) (blanksAfter : Blanks after)
      (element : Spells (.element doc) cs) :
      Spells (.members [(key, doc)]) (before ++ (name ++ (after ++ ':' :: cs)))
  | member {key : Option String} {doc : Doc} {next : Option String × Doc}
      {members : List (Option String × Doc)} {before name after cs more : List Char}
      (blanksBefore : Blanks before) (named : SpellsString key name) (blanksAfter : Blanks after)
      (element : Spells (.element doc) cs) (rest : Spells (.members (next :: members)) more) :
      Spells (.members ((key, doc) :: next :: members))
        (before ++ (name ++ (after ++ ':' :: (cs ++ ',' :: more))))

/-- A text is that of a document, with blanks around it. -/
def Doc.SpelledBy (doc : Doc) (text : String) : Prop :=
  Spells (.element doc) text.toList

theorem blanks_nil : Blanks [] := nofun

/-- A value need not have blanks around it. -/
theorem Spells.bare {doc : Doc} {cs : List Char} (spells : Spells (.value doc) cs) :
    Spells (.element doc) cs := by
  simpa using Spells.element blanks_nil spells blanks_nil

/-- What may follow a value. -/
def Delimits (rest : List Char) : Prop :=
  ∀ c ∈ rest.head?, c ∈ [' ', '\t', '\n', '\r', ',', ']', '\x7d']

theorem delimits_nil : Delimits [] := fun _ none => nomatch none

theorem delimits_cons {c : Char} {rest : List Char}
    (listed : c ∈ [' ', '\t', '\n', '\r', ',', ']', '\x7d']) : Delimits (c :: rest) := by
  intro first here
  cases here
  exact listed

theorem Blanks.delimits {blank rest : List Char} (blanks : Blanks blank) (delimits : Delimits rest) :
    Delimits (blank ++ rest) := by
  cases blank with
  | nil => exact delimits
  | cons c blank =>
      apply delimits_cons
      have listed := blanks c List.mem_cons_self
      simp only [List.mem_cons, List.not_mem_nil, or_false] at listed ⊢
      grind

namespace Numeral

/-- What follows a numeral does not go on with it. -/
def Ends (rest : List Char) : Prop :=
  ∀ c ∈ rest.head?, digit? c = none ∧ c ≠ '.' ∧ c ≠ 'e' ∧ c ≠ 'E'

theorem digit?_digitChar {d : Nat} (small : d < 10) : digit? (Nat.digitChar d) = some d := by
  revert d
  decide

theorem digitChar_ne {d : Nat} {c : Char} (small : d < 10) (other : digit? c = none) :
    Nat.digitChar d ≠ c := by
  intro same
  rw [← same, digit?_digitChar small] at other
  cases other

theorem spanDigits_append {digits : List Nat} {rest : List Char} (small : ∀ d ∈ digits, d < 10)
    (stops : ∀ c ∈ rest.head?, digit? c = none) :
    spanDigits (digits.map Nat.digitChar ++ rest) = (digits, rest) := by
  induction digits with
  | nil =>
      cases rest with
      | nil => rfl
      | cons c rest => simp [spanDigits, stops c rfl]
  | cons d digits ih =>
      have first := digit?_digitChar (small d List.mem_cons_self)
      have others := ih fun later member => small later (List.mem_cons_of_mem _ member)
      simp [spanDigits, first, others]

theorem scanFraction_append {fraction : List Nat} {point rest : List Char}
    (spells : SpellsFraction fraction point)
    (ends : ∀ c ∈ rest.head?, digit? c = none ∧ c ≠ '.') :
    scanFraction (point ++ rest) = some (fraction, rest) := by
  cases spells with
  | absent =>
      unfold scanFraction
      split
      · rename_i same
        exact absurd rfl (ends '.' (by simpa using congrArg List.head? same)).2
      · rfl
  | present some =>
      have spanned := spanDigits_append some.2 fun c first => (ends c first).1
      simp only [List.cons_append, scanFraction, spanned]
      cases fraction with
      | nil => exact absurd rfl some.1
      | cons => rfl

theorem scanExponent_append {exponent : Option (Bool × List Nat)} {power rest : List Char}
    (spells : SpellsExponent exponent power) (ends : Ends rest) :
    scanExponent (power ++ rest) = some (exponent, rest) := by
  cases spells with
  | absent =>
      cases rest with
      | nil => rfl
      | cons c rest =>
          obtain ⟨-, -, small, great⟩ := ends c rfl
          simp [scanExponent, small, great]
  | @negative mark digits marked some =>
      have spanned := spanDigits_append some.2 fun c first => (ends c first).1
      have isMark : mark = 'e' ∨ mark = 'E' := by simpa using marked
      simp only [List.cons_append, scanExponent, spanned]
      cases digits with
      | nil => exact absurd rfl some.1
      | cons => simp [isMark]
  | @positive mark sign digits marked signed some =>
      have spanned := spanDigits_append some.2 fun c first => (ends c first).1
      have isMark : mark = 'e' ∨ mark = 'E' := by simpa using marked
      cases digits with
      | nil => exact absurd rfl some.1
      | cons d others =>
          have small : d < 10 := some.2 d List.mem_cons_self
          have minus : Nat.digitChar d ≠ '-' := digitChar_ne small (by decide)
          have plus : Nat.digitChar d ≠ '+' := digitChar_ne small (by decide)
          rw [List.map_cons, List.cons_append] at spanned
          simp only [List.mem_cons, List.not_mem_nil, or_false] at signed
          rcases signed with rfl | rfl <;> simp [scanExponent, isMark, spanned]

theorem SpellsExponent.head {exponent : Option (Bool × List Nat)} {power rest : List Char}
    (spells : SpellsExponent exponent power) (ends : Ends rest) :
    ∀ c ∈ (power ++ rest).head?, digit? c = none ∧ c ≠ '.' := by
  have each : ∀ mark ∈ ['e', 'E'], digit? mark = none ∧ mark ≠ '.' := by
    simp [digit?]
  intro c first
  cases spells with
  | absent => exact ⟨(ends c first).1, (ends c first).2.1⟩
  | negative marked => exact each c (by cases first; exact marked)
  | positive marked => exact each c (by cases first; exact marked)

theorem SpellsFraction.head {fraction : List Nat} {point rest : List Char}
    (spells : SpellsFraction fraction point) (stops : ∀ c ∈ rest.head?, digit? c = none) :
    ∀ c ∈ (point ++ rest).head?, digit? c = none := by
  intro c first
  cases spells with
  | absent => exact stops c first
  | present => cases first; rfl

theorem scanUnsigned_append {negative : Bool} {whole fraction : List Nat}
    {exponent : Option (Bool × List Nat)} {point power rest : List Char} (some : Digits whole)
    (zero : whole.head? = .some 0 → whole = [0]) (fractional : SpellsFraction fraction point)
    (scaled : SpellsExponent exponent power) (ends : Ends rest) :
    scanUnsigned negative (whole.map Nat.digitChar ++ (point ++ (power ++ rest))) =
      .some (⟨negative, whole, fraction, exponent⟩, rest) := by
  have point := scaled.head ends
  have spanned := spanDigits_append some.2 (fractional.head fun c first => (point c first).1)
  have lead : ¬(whole.isEmpty || (whole.head? == .some 0 && 1 < whole.length)) = true := by
    simp only [Bool.or_eq_true, List.isEmpty_iff, Bool.and_eq_true, beq_iff_eq, decide_eq_true_eq]
    intro wrong
    rcases wrong with none | ⟨leading, more⟩
    · exact some.1 none
    · simp [zero leading] at more
  simp only [scanUnsigned, spanned, if_neg lead, scanFraction_append fractional point,
    scanExponent_append scaled ends, Option.bind_eq_bind, Option.bind_some]

theorem scan_append {numeral : Numeral} {cs rest : List Char} (spells : numeral.Spells cs)
    (ends : Ends rest) : scan (cs ++ rest) = .some (numeral, rest) := by
  cases spells with
  | @parts negative whole _ _ _ _ some zero fractional scaled =>
      have scanned := fun sign => @scanUnsigned_append sign _ _ _ _ _ _ some zero fractional scaled ends
      cases negative with
      | true => simpa [scan] using scanned true
      | false =>
          cases whole with
          | nil => exact absurd rfl some.1
          | cons d others =>
              have minus := @digitChar_ne d '-' (some.2 d List.mem_cons_self) (by decide)
              have head := scanned false
              simp only [List.map_cons, List.cons_append] at head
              simp [scan, minus, head]

end Numeral

theorem Delimits.ends {rest : List Char} (delimits : Delimits rest) : Numeral.Ends rest := by
  have each : ∀ c ∈ [' ', '\t', '\n', '\r', ',', ']', '\x7d'],
      Numeral.digit? c = none ∧ c ≠ '.' ∧ c ≠ 'e' ∧ c ≠ 'E' := by
    simp [Numeral.digit?]
  exact fun c first => each c (delimits c first)

namespace Token

theorem scanText_glyph {sofar : List Nat} {point : Nat} {cs : List Char} (glyph : Glyph point cs)
    (rest : List Char) : scanText sofar (cs ++ rest) = scanText (point :: sofar) rest := by
  cases glyph with
  | plain quote backslash control =>
      have printable := Nat.not_lt.mpr control
      simp [scanText, backslash, printable]
  | @escape e c listed =>
      simp only [List.mem_cons, Prod.mk.injEq, List.not_mem_nil, or_false] at listed
      rcases listed with ⟨rfl, rfl⟩ | ⟨rfl, rfl⟩ | ⟨rfl, rfl⟩ | ⟨rfl, rfl⟩ | ⟨rfl, rfl⟩ |
        ⟨rfl, rfl⟩ | ⟨rfl, rfl⟩ | ⟨rfl, rfl⟩ <;> simp [scanText, escaped?]
  | unicode digits => simp [scanText, digits]

theorem scanText_points {sofar points : List Nat} {body : List Char}
    (spells : SpellsPoints points body) (rest : List Char) :
    scanText sofar (body ++ '"' :: rest) = some (sofar.reverse ++ points, rest) := by
  induction spells generalizing sofar with
  | nil => simp [scanText]
  | cons glyph _ ih => simp [scanText_glyph glyph, ih]

/-- The token of a string. -/
def ofString : Option String → Token
  | some content => .text content
  | none => .unpaired

theorem scanOne_string {content : Option String} {cs : List Char}
    (spells : SpellsString content cs) (rest : List Char) :
    scanOne (cs ++ rest) = some (ofString content, rest) := by
  cases spells with
  | text points joined => simp [scanOne, scanText_points points, ofPoints, joined, ofString]
  | unpaired points apart => simp [scanOne, scanText_points points, ofPoints, apart, ofString]

/-- A numeral starts with a sign or a digit. -/
theorem head_number {numeral : Numeral} {cs : List Char} (spells : numeral.Spells cs) :
    ∃ c tail, cs = c :: tail ∧ ∀ other, Numeral.digit? other = none → other ≠ '-' → c ≠ other := by
  cases spells with
  | @parts negative whole _ _ _ _ some =>
      cases negative with
      | true => exact ⟨'-', _, rfl, fun other _ minus => minus.symm⟩
      | false =>
          cases whole with
          | nil => exact absurd rfl some.1
          | cons d others =>
              have small : d < 10 := some.2 d List.mem_cons_self
              exact ⟨_, _, rfl, fun other none _ => Numeral.digitChar_ne small none⟩

theorem scanOne_number {numeral : Numeral} {cs rest : List Char} (spells : numeral.Spells cs)
    (delimits : Delimits rest) : scanOne (cs ++ rest) = some (.number numeral, rest) := by
  have scanned := Numeral.scan_append spells delimits.ends
  obtain ⟨c, tail, rfl, other⟩ := head_number spells
  unfold scanOne
  split
  case h_12 => rw [scanned]; rfl
  all_goals rename_i same
  all_goals try exact absurd (List.cons.inj same).1 (other _ (by decide) (by decide))
  all_goals cases same

theorem scan_blank {c : Char} (blank : isBlank c = true) (rest : List Char) :
    scan (c :: rest) = scan rest := by
  rw [scan, if_pos blank]

theorem scan_blanks {blank : List Char} (blanks : Blanks blank) (rest : List Char) :
    scan (blank ++ rest) = scan rest := by
  induction blank with
  | nil => rfl
  | cons c blank ih =>
      have isBlank : isBlank c = true := by
        have each : ∀ c ∈ [' ', '\t', '\n', '\r'], Token.isBlank c = true := by
          simp [Token.isBlank]
        exact each c (blanks c List.mem_cons_self)
      rw [List.cons_append, scan_blank isBlank]
      exact ih fun later member => blanks later (List.mem_cons_of_mem _ member)

theorem not_blank_of_scanOne {c : Char} {rest after : List Char} {token : Token}
    (scanned : scanOne (c :: rest) = some (token, after)) : isBlank c = false := by
  cases blank : isBlank c with
  | false => rfl
  | true =>
      simp only [isBlank, Bool.or_eq_true, decide_eq_true_eq] at blank
      rcases blank with ((rfl | rfl) | rfl) | rfl <;>
        simp [scanOne, Numeral.scan, Numeral.scanUnsigned, Numeral.spanDigits, Numeral.digit?]
          at scanned

theorem scan_token {cs after : List Char} {token : Token}
    (scanned : scanOne cs = some (token, after)) : scan cs = token :: scan after := by
  cases cs with
  | nil => simp [scanOne] at scanned
  | cons c rest =>
      rw [scan, if_neg (by simp [not_blank_of_scanOne scanned])]
      split
      · rename_i none
        rw [scanned] at none
        cases none
      · rename_i found
        rw [scanned] at found
        cases found
        rfl

end Token

namespace Doc

mutual

/-- The tokens of a document. -/
def tokens : Doc → List Token
  | .null => [.null]
  | .bool value => [.bool value]
  | .number numeral => [.number numeral]
  | .text content => [.text content]
  | .unpaired => [.unpaired]
  | .array docs _ => .beginArray :: (itemTokens docs ++ [.endArray])
  | .object members _ => .beginObject :: (memberTokens members ++ [.endObject])
  | .fault => [.fault]

/-- The tokens of the inside of an array. -/
def itemTokens : List Doc → List Token
  | [] => []
  | [doc] => doc.tokens
  | doc :: rest => doc.tokens ++ .comma :: itemTokens rest

/-- The tokens of the inside of an object. -/
def memberTokens : List (Option String × Doc) → List Token
  | [] => []
  | [(key, doc)] => .ofString key :: .colon :: doc.tokens
  | (key, doc) :: rest =>
    .ofString key :: .colon :: (doc.tokens ++ .comma :: memberTokens rest)

end

theorem itemTokens_cons (doc next : Doc) (docs : List Doc) :
    itemTokens (doc :: next :: docs) = doc.tokens ++ .comma :: itemTokens (next :: docs) := rfl

theorem memberTokens_cons (key : Option String) (doc : Doc) (next : Option String × Doc)
    (members : List (Option String × Doc)) : memberTokens ((key, doc) :: next :: members) =
      .ofString key :: .colon :: (doc.tokens ++ .comma :: memberTokens (next :: members)) := rfl

end Doc

def Phrase.tokens : Phrase → List Token
  | .value doc | .element doc => doc.tokens
  | .items docs => Doc.itemTokens docs
  | .members entries => Doc.memberTokens entries

section Scan

open Token

theorem scan_comma (rest : List Char) : scan (',' :: rest) = .comma :: scan rest :=
  scan_token rfl

theorem scan_colon (rest : List Char) : scan (':' :: rest) = .colon :: scan rest :=
  scan_token rfl

theorem scan_string {key : Option String} {name : List Char} (named : SpellsString key name)
    (rest : List Char) : scan (name ++ rest) = .ofString key :: scan rest :=
  scan_token (scanOne_string named rest)

/-- A text is cut into the tokens of what it spells. -/
theorem Spells.scan {phrase : Phrase} {cs rest : List Char} (spells : Spells phrase cs)
    (delimits : Delimits rest) : Token.scan (cs ++ rest) = phrase.tokens ++ Token.scan rest := by
  have comma : ∀ more : List Char, Delimits (',' :: more) := fun _ => delimits_cons (by simp)
  induction spells generalizing rest with
  | null => exact scan_token rfl
  | yes => exact scan_token rfl
  | no => exact scan_token rfl
  | number written => exact scan_token (scanOne_number written delimits)
  | @string content _ written =>
      rw [scan_string written rest]
      cases content <;> rfl
  | array _ ih =>
      have close : Token.scan (']' :: rest) = .endArray :: Token.scan rest := scan_token rfl
      have start : ∀ more, Token.scan ('[' :: more) = .beginArray :: Token.scan more :=
        fun _ => scan_token rfl
      have inside := ih (@delimits_cons ']' rest (by simp))
      simp only [List.cons_append, List.append_assoc, List.nil_append, start, inside, close]
      simp [Phrase.tokens, Doc.tokens]
  | object _ ih =>
      have close : Token.scan ('\x7d' :: rest) = .endObject :: Token.scan rest := scan_token rfl
      have start : ∀ more, Token.scan ('\x7b' :: more) = .beginObject :: Token.scan more :=
        fun _ => scan_token rfl
      have inside := ih (@delimits_cons '\x7d' rest (by simp))
      simp only [List.cons_append, List.append_assoc, List.nil_append, start, inside, close]
      simp [Phrase.tokens, Doc.tokens]
  | element before _ after ih =>
      rw [List.append_assoc, scan_blanks before, List.append_assoc, ih (after.delimits delimits),
        scan_blanks after]
      rfl
  | noItem blanks => exact scan_blanks blanks rest
  | lastItem _ ih => exact ih delimits
  | item _ _ element others =>
      rw [List.append_assoc, List.cons_append, element (comma _), scan_comma, others delimits]
      simp [Phrase.tokens, Doc.itemTokens_cons]
  | noMember blanks => exact scan_blanks blanks rest
  | lastMember before named after _ ih =>
      rw [List.append_assoc, scan_blanks before, List.append_assoc, scan_string named,
        List.append_assoc, scan_blanks after, List.cons_append, scan_colon, ih delimits]
      rfl
  | member before named after _ _ element others =>
      rw [List.append_assoc, scan_blanks before, List.append_assoc, scan_string named,
        List.append_assoc, scan_blanks after, List.cons_append, scan_colon, List.append_assoc,
        List.cons_append, element (comma _), scan_comma, others delimits]
      simp [Phrase.tokens, Doc.memberTokens_cons]

end Scan

end RouteAtlas.Json
