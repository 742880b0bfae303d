import RouteAtlas.Text.Similarity

/-! # Lower case in context

A part of a text is lower-cased in its place as it is alone, but for its capital sigmas: one of them
has its final form at the end of a word, and where words end may depend on what stands around the
part. The case of ASCII letters does not matter at all.
-/

namespace RouteAtlas.Text

/-- Lower-case form of a list that stands between two others. `before` is what precedes it, nearest
    character first. -/
def lowerBetween (before after : List Char) : List Char → List Char
  | [] => []
  | c :: rest =>
    (if c = 'Σ' then [lowerSigma before (rest ++ after)] else lowerChar c) ++
      lowerBetween (c :: before) after rest

section Context

variable (before after part : List Char)

/-- What is lower-cased in one go may be lower-cased part by part, each in its place. -/
theorem lowerAfter_append :
    lowerAfter before (part ++ after) =
      lowerBetween before after part ++ lowerAfter (part.reverse ++ before) after := by
  induction part generalizing before with
  | nil => rfl
  | cons c rest ih =>
      rw [List.cons_append, lowerAfter, ih, lowerBetween, List.append_assoc, List.reverse_cons,
        List.append_assoc, List.singleton_append]

theorem lowerAfter_eq : lowerAfter before part = lowerBetween before [] part := by
  have split := lowerAfter_append before [] part
  rw [List.append_nil] at split
  rw [split]
  exact List.append_nil _

/-- The capital sigmas of a part have the same forms in its place as where it stands alone, after
    what was `seen` of it. -/
def SigmasStayAfter (before after seen part : List Char) : Prop :=
  ∀ left right, part = left ++ 'Σ' :: right →
    lowerSigma (left.reverse ++ seen ++ before) (right ++ after) =
      lowerSigma (left.reverse ++ seen) right

theorem sigmasStayAfter_cons {c : Char} {rest : List Char} (seen : List Char) :
    SigmasStayAfter before after seen (c :: rest) ↔
      (c = 'Σ' → lowerSigma (seen ++ before) (rest ++ after) = lowerSigma seen rest) ∧
        SigmasStayAfter before after (c :: seen) rest := by
  constructor
  · intro stay
    refine ⟨?_, fun left right split => ?_⟩
    · rintro rfl
      exact stay [] rest rfl
    · have here := stay (c :: left) right (by rw [split]; rfl)
      simpa using here
  · rintro ⟨first, later⟩ left right split
    cases left with
    | nil =>
        obtain ⟨rfl, rfl⟩ := List.cons.inj split
        exact first rfl
    | cons d left =>
        obtain ⟨rfl, rfl⟩ := List.cons.inj split
        have here := later left right rfl
        simpa using here

theorem lowerBetween_eq_iff (seen : List Char) :
    lowerBetween (seen ++ before) after part = lowerBetween seen [] part ↔
      SigmasStayAfter before after seen part := by
  induction part generalizing seen with
  | nil =>
      refine iff_of_true rfl fun left right split => ?_
      exact absurd split.symm (by simp)
  | cons c rest ih =>
      rw [sigmasStayAfter_cons, ← ih, lowerBetween, lowerBetween, List.append_nil]
      by_cases sigma : c = 'Σ'
      · simp [sigma]
      · simp [sigma]

end Context

/-- The capital sigmas of a part have the same forms between two other parts as alone. -/
def SigmasStay (before part after : String) : Prop :=
  SigmasStayAfter before.toList.reverse after.toList [] part.toList

/-- A part whose sigmas keep their forms is lower-cased in its place as it is alone. -/
theorem SigmasStay.infix_lower {before part after : String} (stay : SigmasStay before part after) :
    (lower part).toList <:+: (lower (before ++ part ++ after)).toList := by
  have inPlace := (lowerBetween_eq_iff _ _ _ []).mpr stay
  rw [List.nil_append, ← lowerAfter_eq] at inPlace
  rw [lower, lower, String.toList_ofList, String.toList_ofList, String.toList_append,
    String.toList_append, List.append_assoc, lowerAfter_append, List.append_nil, lowerAfter_append,
    inPlace, ← List.append_assoc]
  exact List.infix_append _ _ _

section Settled

/-- Whether case rules look through a list as a whole. -/
def isIgnored (cs : List Char) : Bool :=
  cs.all (inRanges caseIgnorableRanges)

theorem startsCased_cons (c : Char) (rest : List Char) :
    startsCased (c :: rest) =
      if inRanges caseIgnorableRanges c then startsCased rest else inRanges casedRanges c := by
  unfold startsCased
  rw [List.dropWhile_cons]
  cases inRanges caseIgnorableRanges c <;> rfl

theorem startsCased_append (first second : List Char) :
    startsCased (first ++ second) =
      if isIgnored first then startsCased second else startsCased first := by
  induction first with
  | nil => rfl
  | cons c rest ih =>
      rw [List.cons_append, startsCased_cons, startsCased_cons, ih]
      by_cases ignored : inRanges caseIgnorableRanges c = true
      · simp [isIgnored, ignored]
      · simp [isIgnored, ignored]

theorem startsCased_of_isIgnored {cs : List Char} (ignored : isIgnored cs = true) :
    startsCased cs = false := by
  have alone := startsCased_append cs []
  rwa [List.append_nil, if_pos ignored] at alone

/-- A capital sigma between two lists has one form, whatever stands around these: neither its being
    behind a cased character nor its being before one is decided outside of them. -/
def IsSettled (left right : List Char) : Prop :=
  (isIgnored left = true → startsCased right = true) ∧
    (isIgnored right = true → isIgnored left = false ∧ startsCased left = false)

theorem isSettled_iff {left right : List Char} :
    IsSettled left right ↔ ∀ before after,
      lowerSigma (left ++ before) (right ++ after) = lowerSigma left right := by
  have apart : 'ς' ≠ 'σ' := by decide
  constructor
  · rintro ⟨leftEnd, rightEnd⟩ before after
    unfold lowerSigma
    rw [startsCased_append, startsCased_append]
    cases leftIgnored : isIgnored left with
    | true =>
        have cased := leftEnd leftIgnored
        cases rightIgnored : isIgnored right with
        | true => exact absurd cased (by simp [startsCased_of_isIgnored rightIgnored])
        | false => simp [cased]
    | false =>
        cases rightIgnored : isIgnored right with
        | true => simp [(rightEnd rightIgnored).2]
        | false => rfl
  · intro stays
    -- A cased letter before the sigma, and one behind it, each try to change its form.
    have behind := stays ['a'] []
    have ahead := stays [] ['a']
    have cased : startsCased ['a'] = true := by decide +kernel
    unfold lowerSigma at behind ahead
    rw [startsCased_append, List.append_nil, cased] at behind
    rw [startsCased_append right, List.append_nil, cased] at ahead
    constructor
    · intro leftIgnored
      have uncased := startsCased_of_isIgnored leftIgnored
      cases rightCased : startsCased right with
      | true => rfl
      | false => simp [leftIgnored, uncased, rightCased, apart] at behind
    · intro rightIgnored
      have uncased := startsCased_of_isIgnored rightIgnored
      cases leftIgnored : isIgnored left with
      | true =>
          simp [leftIgnored, startsCased_of_isIgnored leftIgnored, uncased, apart] at behind
      | false =>
          refine ⟨rfl, ?_⟩
          cases leftCased : startsCased left with
          | true => simp [rightIgnored, uncased, leftCased, apart.symm] at ahead
          | false => rfl

/-- A part keeps the forms of its sigmas between all others exactly if each of them is settled in
    the part. -/
theorem forall_sigmasStay_iff {part : String} :
    (∀ before after, SigmasStay before part after) ↔
      ∀ left right, part.toList = left ++ 'Σ' :: right → IsSettled left.reverse right := by
  constructor
  · intro stay left right split
    rw [isSettled_iff]
    intro before after
    have here := stay (String.ofList before.reverse) (String.ofList after) left right split
    simpa using here
  · intro settled before after left right split
    rw [List.append_nil]
    exact isSettled_iff.mp (settled left right split) _ _

end Settled

section Ascii

variable {α : Type} {f : Char → α}

/-- What does not tell the ASCII capitals from their small letters does not tell any characters from
    their small ASCII letters, as the others have none. -/
theorem toLower_eq_of_capitals
    (capitals : ∀ n < 26, f (Char.ofNat (n + 65)).toLower = f (Char.ofNat (n + 65))) (c : Char) :
    f c.toLower = f c := by
  by_cases capital : c.val ≥ 'A'.val ∧ c.val ≤ 'Z'.val
  · have low : 65 ≤ c.toNat := capital.1
    have high : c.toNat ≤ 90 := capital.2
    have here := capitals (c.toNat - 65) (by omega)
    rwa [Nat.sub_add_cancel low, Char.ofNat_toNat] at here
  · exact congrArg f (dif_neg capital)

theorem lowerChar_toLower (c : Char) : lowerChar c.toLower = lowerChar c :=
  toLower_eq_of_capitals (by decide +kernel) c

theorem isCased_toLower (c : Char) : inRanges casedRanges c.toLower = inRanges casedRanges c :=
  toLower_eq_of_capitals (by decide +kernel) c

theorem isIgnorable_toLower (c : Char) :
    inRanges caseIgnorableRanges c.toLower = inRanges caseIgnorableRanges c :=
  toLower_eq_of_capitals (by decide +kernel) c

theorem toLower_eq_sigma_iff (c : Char) : c.toLower = 'Σ' ↔ c = 'Σ' := by
  have same := toLower_eq_of_capitals (f := fun c => decide (c = 'Σ')) (by decide +kernel) c
  simpa using same

theorem startsCased_map_toLower (cs : List Char) :
    startsCased (cs.map Char.toLower) = startsCased cs := by
  induction cs with
  | nil => rfl
  | cons c rest ih =>
      rw [List.map_cons, startsCased_cons, startsCased_cons, isIgnorable_toLower, isCased_toLower,
        ih]

theorem lowerAfter_map_toLower (before cs : List Char) :
    lowerAfter (before.map Char.toLower) (cs.map Char.toLower) = lowerAfter before cs := by
  induction cs generalizing before with
  | nil => rfl
  | cons c rest ih =>
      have later := ih (c :: before)
      rw [List.map_cons] at later
      rw [List.map_cons, lowerAfter, later, lowerAfter]
      by_cases sigma : c = 'Σ'
      · simp [sigma, lowerSigma, startsCased_map_toLower]
      · simp [sigma, toLower_eq_sigma_iff, lowerChar_toLower]

end Ascii

/-- Two texts that differ at most in the case of ASCII letters. -/
def SameButForCase (first second : String) : Prop :=
  first.toList.map Char.toLower = second.toList.map Char.toLower

theorem SameButForCase.lower_eq {first second : String} (same : SameButForCase first second) :
    lower first = lower second := by
  have firstLowered := lowerAfter_map_toLower [] first.toList
  have secondLowered := lowerAfter_map_toLower [] second.toList
  rw [same, secondLowered] at firstLowered
  rw [lower, lower, firstLowered]

end RouteAtlas.Text
