import RouteAtlas.Proofs.Json.Spelling

/-! # Reading back what a text spells

Each text that spells a document is read as that document, whatever blanks and escapes it is written
with.
-/

namespace RouteAtlas.Json

namespace Doc

/-- Reading the tokens of a phrase leads past it, in all places where it may stand. -/
def Reads : Phrase → Prop
  | .value doc | .element doc => ∀ stack rest,
    run (.value stack) (doc.tokens ++ rest) = run (.ended doc stack) rest
  | .items docs => docs ≠ [] → ∀ before stack rest,
    run (.value (.array before :: stack)) (itemTokens docs ++ .endArray :: rest) =
      run (.ended (.array (before.reverse ++ docs) true) stack) rest
  | .members entries => ∀ before stack rest, (entries = [] → before = []) →
    run (.member before stack) (memberTokens entries ++ .endObject :: rest) =
      run (.ended (.object (before.reverse ++ entries) true) stack) rest

/-- An array does not end where its first item starts. -/
theorem run_item {doc : Doc} (stack : List Frame) (rest : List Token) :
    run (.item stack) (doc.tokens ++ rest) =
      run (.value (.array [] :: stack)) (doc.tokens ++ rest) := by
  cases doc <;> simp [tokens, run, step]

theorem run_items {doc : Doc} {docs : List Doc} (stack : List Frame) (rest : List Token) :
    run (.item stack) (itemTokens (doc :: docs) ++ rest) =
      run (.value (.array [] :: stack)) (itemTokens (doc :: docs) ++ rest) := by
  cases docs with
  | nil => exact run_item stack rest
  | cons next docs =>
      rw [itemTokens_cons, List.append_assoc]
      exact run_item stack _

theorem run_key (before : List (Option String × Doc)) (key : Option String) (stack : List Frame)
    (rest : List Token) : run (.member before stack) (.ofString key :: .colon :: rest) =
      run (.value (.object before key :: stack)) rest := by
  cases before <;> cases key <;> simp [Token.ofString, run, step]

theorem reads_of_spells {phrase : Phrase} {cs : List Char} (spells : Spells phrase cs) :
    Reads phrase := by
  induction spells with
  | null => intro stack rest; simp [tokens, run, step, stepValue, ofToken?]
  | yes => intro stack rest; simp [tokens, run, step, stepValue, ofToken?]
  | no => intro stack rest; simp [tokens, run, step, stepValue, ofToken?]
  | number => intro stack rest; simp [tokens, run, step, stepValue, ofToken?]
  | @string content =>
      intro stack rest
      cases content <;> simp [ofString, tokens, run, step, stepValue, ofToken?]
  | @array docs _ _ ih =>
      intro stack rest
      cases docs with
      | nil => simp [tokens, itemTokens, run, step, stepValue]
      | cons doc docs =>
          have inside := ih (List.cons_ne_nil _ _) [] stack rest
          rw [← run_items] at inside
          simpa [tokens, run, step, stepValue] using inside
  | @object entries _ _ ih =>
      intro stack rest
      simpa [tokens, run, step, stepValue] using ih [] stack rest fun _ => rfl
  | element _ _ _ ih => exact ih
  | noItem => exact fun some => absurd rfl some
  | lastItem _ ih =>
      intro _ before stack rest
      rw [itemTokens, ih]
      simp [run, step]
  | item _ _ element others =>
      intro _ before stack rest
      rw [itemTokens_cons, List.append_assoc, element]
      simpa [run, step] using others (List.cons_ne_nil _ _) (_ :: before) stack rest
  | noMember =>
      intro before stack rest first
      rw [first rfl]
      simp [memberTokens, run, step]
  | lastMember _ _ _ _ ih =>
      intro before stack rest _
      rw [memberTokens, List.cons_append, List.cons_append, run_key, ih]
      simp [run, step]
  | member _ _ _ _ _ element others =>
      intro before stack rest _
      rw [memberTokens_cons, List.cons_append, List.cons_append, run_key, List.append_assoc, element]
      simpa [run, step] using others (_ :: before) stack rest fun none =>
        absurd none (List.cons_ne_nil _ _)

/-- A text is read as the document that it spells. -/
theorem read_of_spelledBy {doc : Doc} {text : String} (spelled : doc.SpelledBy text) :
    read text = (doc, []) := by
  have scanned := spelled.scan delimits_nil
  have ended : Token.scan [] = [] := by simp [Token.scan]
  rw [List.append_nil, ended] at scanned
  rw [read, scanned]
  exact (reads_of_spells spelled [] []).trans (by simp [run])

theorem isWhole_of_spells {doc : Doc} {cs : List Char} (spells : Spells (.value doc) cs) :
    doc.isWhole = true := by
  cases spells with
  | @string content => cases content <;> rfl
  | _ => rfl

end Doc

end RouteAtlas.Json
