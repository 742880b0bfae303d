import RouteAtlas.Proofs.Source.Lines

/-! # Words and texts of a line

A line is read as words and texts: a text is what a literal stands for, and words are made of the
letters of names, dots and the sign of a number. Whatever else stands between them is left out.
-/

namespace RouteAtlas.Source

/-- The letters of names. Beyond ASCII every character counts as one. -/
def isNameLetter (c : Char) : Bool :=
  QualifiedName.isWordChar c || c == '$' || 128 ≤ c.toNat

/-- What words are made of. -/
def isWordLetter (c : Char) : Bool :=
  isNameLetter c || c == '.' || c == '-'

/-- The words of a piece of code, in order. -/
def words (code : String) : List String :=
  ((code.toList.splitOnP fun c => !isWordLetter c).filter fun word => !word.isEmpty).map
    String.ofList

/-- What a character stands for after a backslash. -/
def unescape (c : Char) : Char :=
  if c = 'n' then '\n' else if c = 'r' then '\r' else if c = 't' then '\t' else c

/-- Where in a line the next character stands. -/
inductive Mode where
  | code
  | text
  /-- In a text, after a backslash. -/
  | escape

/-- Code and texts of a line in turn: the first of them up to its end, then the others. -/
def segments : Mode → List Char → List Char × List (List Char)
  | _, [] => ([], [])
  | .code, c :: rest =>
    if c = '"' then
      let (text, others) := segments .text rest
      ([], text :: others)
    else (segments .code rest).map (c :: ·) id
  | .text, c :: rest =>
    if c = '"' then
      let (code, others) := segments .code rest
      ([], code :: others)
    else if c = '\\' then segments .escape rest
    else (segments .text rest).map (c :: ·) id
  | .escape, c :: rest => (segments .text rest).map (unescape c :: ·) id

/-- A line as it is read. -/
structure Line where
  /-- The words before the first text. -/
  head : List String
  /-- The texts, each with the words that follow it. -/
  texts : List (String × List String)
  deriving DecidableEq, Repr

/-- Texts with the words of the code that follows them. -/
def Line.pairs : List (List Char) → List (String × List String)
  | text :: code :: rest => (String.ofList text, words (String.ofList code)) :: pairs rest
  | _ => []

def readLine (line : String) : Line :=
  let (code, rest) := segments .code line.toList
  ⟨words (String.ofList code), Line.pairs rest⟩

section Words

/-- A word is not empty, and made of the letters of words. This is computed: of a text at hand it
    holds by definition. -/
def IsWord (word : String) : Prop :=
  (!word.isEmpty && word.toList.all isWordLetter) = true

/-- What stands between words and neither opens a text nor ends the line. This is computed too. -/
def IsGap (gap : String) : Prop :=
  (!gap.isEmpty && gap.toList.all fun c => !isWordLetter c && c != '"' && c != '\n') = true

theorem isWord_iff {word : String} :
    IsWord word ↔ word ≠ "" ∧ ∀ c ∈ word.toList, isWordLetter c = true := by
  simp [IsWord]

theorem isGap_iff {gap : String} :
    IsGap gap ↔
      gap ≠ "" ∧ ∀ c ∈ gap.toList, isWordLetter c = false ∧ c ≠ '"' ∧ c ≠ '\n' := by
  simp [IsGap, and_assoc]

theorem IsWord.letters {word : String} (isWord : IsWord word) :
    ∀ c ∈ word.toList, isWordLetter c = true :=
  (isWord_iff.mp isWord).2

theorem IsWord.append {first : String} (isFirst : IsWord first) (second : String)
    (isSecond : IsWord second) : IsWord (first ++ second) := by
  have filled := (isWord_iff.mp isFirst).1
  refine isWord_iff.mpr ⟨fun blank => filled (String.append_eq_empty_iff.mp blank).1, ?_⟩
  intro c member
  rw [String.toList_append, List.mem_append] at member
  exact member.elim (isFirst.letters c) (isSecond.letters c)

theorem words_empty : words "" = [] := by
  decide

theorem words_word {word : String} (isWord : IsWord word) : words word = [word] := by
  have whole : (word.toList.splitOnP fun c => !isWordLetter c) = [word.toList] := by
    apply List.splitOnP_eq_singleton
    intro c member
    rw [isWord.letters c member]
    rfl
  have kept : word.toList.isEmpty = false := by
    simpa using (isWord_iff.mp isWord).1
  simp [words, whole, kept]

/-- A character that stands in no word separates the words before it from those after it. -/
theorem words_append_cons (before after : List Char) {c : Char} (apart : isWordLetter c = false) :
    words (String.ofList (before ++ c :: after)) =
      words (String.ofList before) ++ words (String.ofList after) := by
  have separates : (fun c => !isWordLetter c) c = true := by
    simp [apart]
  rw [words, words, words, String.toList_ofList, String.toList_ofList, String.toList_ofList,
    List.splitOnP_append_cons (p := fun c => !isWordLetter c) _ _ separates, List.filter_append,
    List.map_append]

theorem words_append {code gap rest : String} (isGap : IsGap gap) :
    words (code ++ gap ++ rest) = words code ++ words rest := by
  obtain ⟨filled, apart⟩ := isGap_iff.mp isGap
  obtain ⟨c, others, spelled⟩ : ∃ c others, gap.toList = c :: others := by
    cases letters : gap.toList with
    | nil => exact absurd (String.toList_eq_nil_iff.mp letters) filled
    | cons c others => exact ⟨c, others, rfl⟩
  rw [spelled] at apart
  have skipped : ∀ {others : List Char}, (∀ c ∈ others, isWordLetter c = false) →
      words (String.ofList (others ++ rest.toList)) = words rest := by
    intro others apart
    induction others with
    | nil => rw [List.nil_append, String.ofList_toList]
    | cons c others ih =>
        have first := words_append_cons [] (others ++ rest.toList) (apart c List.mem_cons_self)
        rw [List.nil_append] at first
        rw [List.cons_append, first, ih fun c later => apart c (List.mem_cons_of_mem _ later)]
        rfl
  have opened : code ++ gap ++ rest =
      String.ofList (code.toList ++ c :: (others ++ rest.toList)) := by
    apply String.toList_injective
    simp [spelled]
  rw [opened, words_append_cons _ _ (apart c List.mem_cons_self).1, String.ofList_toList,
    skipped fun c later => (apart c (List.mem_cons_of_mem _ later)).1]

end Words

section Segments

theorem segments_code {code rest : List Char} (unquoted : '"' ∉ code) :
    segments .code (code ++ rest) =
      (code ++ (segments .code rest).1, (segments .code rest).2) := by
  induction code with
  | nil => rfl
  | cons c code ih =>
      have other : c ≠ '"' := fun quote => unquoted (quote ▸ List.mem_cons_self)
      rw [List.cons_append, segments, if_neg other, ih (List.not_mem_of_not_mem_cons unquoted)]
      rfl

/-- A literal is read up to its closing quote, whatever its text is. -/
theorem segments_text (raw rest : List Char) (escapeDollar : Bool) :
    segments .text (raw.flatMap (Text.literalChar escapeDollar) ++ '"' :: rest) =
      (raw, (segments .code rest).1 :: (segments .code rest).2) := by
  induction raw with
  | nil => rfl
  | cons c raw ih =>
      have escaped : ∀ letter, unescape letter = c →
          segments .text ('\\' :: letter ::
              (raw.flatMap (Text.literalChar escapeDollar) ++ '"' :: rest)) =
            (c :: raw, (segments .code rest).1 :: (segments .code rest).2) := by
        rintro letter rfl
        simp [segments, ih]
      simp only [List.flatMap_cons, List.append_assoc, Text.literalChar]
      split
      case isTrue backslash => exact escaped '\\' backslash.symm
      case isFalse noBackslash =>
        split
        case isTrue quote => exact escaped '"' quote.symm
        case isFalse noQuote =>
          split
          case isTrue newline => exact escaped 'n' newline.symm
          case isFalse =>
            split
            case isTrue carriage => exact escaped 'r' carriage.symm
            case isFalse =>
              split
              case isTrue tab => exact escaped 't' tab.symm
              case isFalse =>
                split
                case isTrue dollar =>
                  have same : '$' = c := by
                    simp only [Bool.and_eq_true, decide_eq_true_eq] at dollar
                    exact dollar.1.symm
                  exact escaped '$' same
                case isFalse => simp [segments, ih, noBackslash, noQuote]

theorem newline_not_mem_literal (raw : String) (escapeDollar : Bool) :
    '\n' ∉ (Text.literal raw escapeDollar).toList := by
  have each : ∀ c, '\n' ∉ Text.literalChar escapeDollar c := by
    intro c
    grind [Text.literalChar]
  simp [Text.literal, each]

end Segments

section Reading

/-- A piece of code without literals and line breaks, and its words. -/
structure IsCode (code : String) (spelled : List String) : Prop where
  unquoted : '"' ∉ code.toList
  whole : '\n' ∉ code.toList
  words_eq : words code = spelled

instance (code : String) (spelled : List String) : Decidable (IsCode code spelled) :=
  decidable_of_iff ('"' ∉ code.toList ∧ '\n' ∉ code.toList ∧ words code = spelled)
    ⟨fun ⟨unquoted, whole, same⟩ => ⟨unquoted, whole, same⟩,
      fun ⟨unquoted, whole, same⟩ => ⟨unquoted, whole, same⟩⟩

theorem IsWord.isCode {word : String} (isWord : IsWord word) : IsCode word [word] where
  unquoted := fun quote => absurd (isWord.letters _ quote) (by decide)
  whole := fun newline => absurd (isWord.letters _ newline) (by decide)
  words_eq := words_word isWord

namespace IsGap

variable {gap : String}

theorem unquoted (isGap : IsGap gap) : '"' ∉ gap.toList :=
  fun quote => ((isGap_iff.mp isGap).2 _ quote).2.1 rfl

theorem whole (isGap : IsGap gap) : '\n' ∉ gap.toList :=
  fun newline => ((isGap_iff.mp isGap).2 _ newline).2.2 rfl

end IsGap

theorem IsCode.append {code rest : String} {spelled others : List String}
    (isCode : IsCode code spelled) (gap : String) (after : IsCode rest others)
    (isGap : IsGap gap) :
    IsCode (code ++ gap ++ rest) (spelled ++ others) where
  unquoted := by simp [isCode.unquoted, isGap.unquoted, after.unquoted]
  whole := by simp [isCode.whole, isGap.whole, after.whole]
  words_eq := by rw [words_append isGap, isCode.words_eq, after.words_eq]

theorem readLine_code {code gap : String} (unquoted : '"' ∉ code.toList) (isGap : IsGap gap)
    (rest : String) :
    readLine (code ++ (gap ++ rest)) =
      ⟨words code ++ (readLine rest).head, (readLine rest).texts⟩ := by
  have plain : '"' ∉ (code ++ gap).toList := by
    simp [unquoted, isGap.unquoted]
  have split : ∀ letters, words (String.ofList ((code ++ gap).toList ++ letters)) =
      words code ++ words (String.ofList letters) := by
    intro letters
    rw [String.ofList_append, String.ofList_toList, words_append isGap]
  rw [← String.append_assoc, readLine, String.toList_append, segments_code plain, readLine]
  simp only [split]

theorem readLine_literal (raw : String) (escapeDollar : Bool) (rest : String) :
    readLine (Text.literal raw escapeDollar ++ rest) =
      ⟨[], (raw, (readLine rest).head) :: (readLine rest).texts⟩ := by
  have letters : (Text.literal raw escapeDollar ++ rest).toList =
      '"' :: (raw.toList.flatMap (Text.literalChar escapeDollar) ++ '"' :: rest.toList) := by
    simp [Text.literal]
  rw [readLine, letters, segments, if_pos rfl, segments_text]
  simp [readLine, Line.pairs, words_empty]

/-- Where a line stands does not matter for how it is read. -/
theorem readLine_gap {gap : String} (isGap : IsGap gap) (line : String) :
    readLine (gap ++ line) = readLine line := by
  have read := readLine_code (by decide : '"' ∉ "".toList) isGap line
  rw [String.empty_append, words_empty, List.nil_append] at read
  rw [read]

theorem map_readLine_indent {margin : String} (isGap : IsGap margin) (lines : List String) :
    (indent margin lines).map readLine = lines.map readLine := by
  rw [indent, List.map_map]
  apply List.map_congr_left
  intro line _
  simp only [Function.comp_apply]
  split
  · rfl
  · exact readLine_gap isGap line

/-- A line without line breaks, and how it is read. -/
structure Reads (line : String) (result : Line) : Prop where
  whole : '\n' ∉ line.toList
  readLine_eq : readLine line = result

theorem IsCode.reads {code : String} {spelled : List String} (isCode : IsCode code spelled) :
    Reads code ⟨spelled, []⟩ where
  whole := isCode.whole
  readLine_eq := by
    have plain : segments .code (code.toList ++ []) = (code.toList ++ [], []) :=
      segments_code isCode.unquoted
    rw [List.append_nil] at plain
    simp [readLine, plain, Line.pairs, isCode.words_eq]

namespace Reads

variable {rest : String} {result : Line}

theorem empty : Reads "" ⟨[], []⟩ :=
  IsCode.reads (by decide)

theorem of_eq {line : String} (reads : Reads line result) (same : rest = line) :
    Reads rest result :=
  same ▸ reads

theorem code {code : String} {spelled : List String} (isCode : IsCode code spelled)
    (gap : String) (reads : Reads rest result) (isGap : IsGap gap) :
    Reads (code ++ (gap ++ rest)) ⟨spelled ++ result.head, result.texts⟩ where
  whole := by simp [isCode.whole, isGap.whole, reads.whole]
  readLine_eq := by
    rw [readLine_code isCode.unquoted isGap, isCode.words_eq, reads.readLine_eq]

theorem word (word gap : String) (reads : Reads rest result) (isWord : IsWord word)
    (isGap : IsGap gap) :
    Reads (word ++ (gap ++ rest)) ⟨word :: result.head, result.texts⟩ :=
  reads.code isWord.isCode gap isGap

theorem gap (gap : String) (reads : Reads rest result) (isGap : IsGap gap) :
    Reads (gap ++ rest) result where
  whole := by simp [isGap.whole, reads.whole]
  readLine_eq := by rw [readLine_gap isGap, reads.readLine_eq]

theorem literal (raw : String) (escapeDollar : Bool) (reads : Reads rest result) :
    Reads (Text.literal raw escapeDollar ++ rest)
      ⟨[], (raw, result.head) :: result.texts⟩ where
  whole := by simp [newline_not_mem_literal, reads.whole]
  readLine_eq := by rw [readLine_literal, reads.readLine_eq]

end Reads

end Reading

end RouteAtlas.Source
