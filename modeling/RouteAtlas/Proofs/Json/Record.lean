import Mathlib.Data.List.Nodup
import RouteAtlas.Json.Decode
import RouteAtlas.Proofs.Except

/-! # Records from objects

What a record is read as does not depend on the order of its members, on members that no field is
named for, or on whether a field that holds its default is there.
-/

namespace RouteAtlas.Json.Decode

variable {α : Type} {fields : List (FieldReader α)} {entries others : List (Option String × Doc)}
  {initial sofar value : α}

/-- The name of a member, if some field has it. -/
def known? (fields : List (FieldReader α)) (entry : Option String × Doc) : Option String :=
  entry.1.filter fun key => (fields.find? (·.name == key)).isSome

/-- The names of the members that are read into fields, in order. -/
def known (fields : List (FieldReader α)) (entries : List (Option String × Doc)) : List String :=
  entries.filterMap (known? fields)

/-- Read one member into a record. -/
def take (fields : List (FieldReader α)) (sofar : α) : Option String × Doc → Except DecodeError α
  | (some key, doc) =>
    match fields.find? (·.name == key) with
    | some field => field.read doc sofar
    | none => if doc.isWhole then .ok sofar else .error .malformed
  | (none, _) => .error .malformed

section Members

variable {key : String} {doc : Doc}

theorem known_cons_named {field : FieldReader α} (found : fields.find? (·.name == key) = some field)
    (doc : Doc) (rest : List (Option String × Doc)) :
    known fields ((some key, doc) :: rest) = key :: known fields rest :=
  List.filterMap_cons_some (by simp [known?, found])

theorem known_cons_unnamed (absent : fields.find? (·.name == key) = none) (doc : Doc)
    (rest : List (Option String × Doc)) :
    known fields ((some key, doc) :: rest) = known fields rest :=
  List.filterMap_cons_none (by simpa [known?] using absent)

theorem members_eq_ok_iff {seen after : List String} :
    members fields seen sofar entries = .ok (after, value) ↔
      entries.foldlM (take fields) sofar = .ok value ∧ (known fields entries).Nodup ∧
        (∀ key ∈ known fields entries, key ∉ seen) ∧
          after = (known fields entries).reverse ++ seen := by
  induction entries generalizing seen sofar with
  | nil => simp [members, known, pure, Except.pure, and_comm, eq_comm]
  | cons entry rest ih =>
      obtain ⟨key, doc⟩ := entry
      cases key with
      | none => simp [members, take, bind, Except.bind]
      | some key =>
          rw [foldlM_cons_eq_ok_iff, take]
          cases found : fields.find? (·.name == key) with
          | none =>
              rw [known_cons_unnamed found]
              cases whole : doc.isWhole <;> simp [members, found, whole, ih]
          | some field =>
              rw [known_cons_named found]
              by_cases again : key ∈ seen
              · simp [members, found, again]
              · simp only [members, found, List.contains_eq_mem, again, decide_false,
                  Bool.false_eq_true, if_false, bind_eq_ok_iff, ih, List.nodup_cons,
                  List.forall_mem_cons, List.reverse_cons, List.append_assoc]
                grind

end Members

/-- The members of an object give a value of a record whose fields start from defaults. -/
structure Fills (fields : List (FieldReader α)) (initial : α)
    (entries : List (Option String × Doc)) (value : α) : Prop where
  taken : entries.foldlM (take fields) initial = .ok value
  once : (known fields entries).Nodup
  enough : ∀ field ∈ fields, field.required = true → field.name ∈ known fields entries

theorem record_object_iff {name : String} {depth : Nat} {closed : Bool} :
    record name fields initial depth (.object entries closed) = .ok value ↔
      depth ≠ 0 ∧ closed = true ∧ Fills fields initial entries value := by
  have ended : ∀ (seen : List String) (filled : α),
      (match fields.find? fun field : FieldReader α =>
          field.required && !seen.contains field.name with
        | some field => Except.error (DecodeError.missingField field.name)
        | none => .ok filled) = Except.ok value ↔
        filled = value ∧ ∀ field ∈ fields, field.required = true → field.name ∈ seen := by
    intro seen filled
    cases missing : fields.find? fun field => field.required && !seen.contains field.name with
    | none => simpa using fun _ => missing
    | some field =>
        have needed := List.find?_some missing
        simp only [Bool.and_eq_true, Bool.not_eq_true', List.contains_eq_mem,
          decide_eq_false_iff_not] at needed
        simp only [reduceCtorEq, false_iff, not_and, not_forall]
        exact fun _ => ⟨field, List.mem_of_find?_eq_some missing, needed.1, needed.2⟩
  rw [record]
  split
  · simp_all
  · rename_i deep
    rw [bind_eq_ok_iff]
    constructor
    · intro ⟨⟨seen, filled⟩, read, rest⟩
      obtain ⟨taken, once, -, rfl⟩ := members_eq_ok_iff.mp read
      cases closed with
      | false => cases rest
      | true =>
          obtain ⟨rfl, enough⟩ := (ended _ _).mp rest
          exact ⟨deep, rfl, taken, once, by simpa using enough⟩
    · intro ⟨_, shut, fills⟩
      subst shut
      refine ⟨⟨_, value⟩, members_eq_ok_iff.mpr ⟨fills.taken, fills.once, by simp, rfl⟩, ?_⟩
      exact (ended _ _).mpr ⟨rfl, by simpa using fills.enough⟩

/-- Fields that are read one after the other can be read the other way round. -/
def Commute (first second : FieldReader α) : Prop :=
  ∀ doc other a b c, first.read doc a = .ok b → second.read other b = .ok c →
    ∃ between, second.read other a = .ok between ∧ first.read doc between = .ok c

/-- No field reads what another one does. -/
structure Apart (fields : List (FieldReader α)) : Prop where
  names : (fields.map FieldReader.name).Nodup
  commute : ∀ first ∈ fields, ∀ second ∈ fields, first.name ≠ second.name → Commute first second

section Changes

theorem known_append (front back : List (Option String × Doc)) :
    known fields (front ++ back) = known fields front ++ known fields back :=
  List.filterMap_append

/-- What taking a member comes to: a field is read, or nothing is. -/
theorem take_cases {entry : Option String × Doc} {next : α}
    (taken : take fields sofar entry = .ok next) :
    (∃ field ∈ fields, known? fields entry = some field.name ∧
      field.read entry.2 sofar = .ok next ∧
        ∀ other, take fields other entry = field.read entry.2 other) ∨
      known? fields entry = none ∧ next = sofar ∧ ∀ other, take fields other entry = .ok other := by
  obtain ⟨key, doc⟩ := entry
  cases key with
  | none => cases taken
  | some key =>
      cases found : fields.find? (·.name == key) with
      | some field =>
          have named := List.find?_some found
          simp only [beq_iff_eq] at named
          simp only [take, found] at taken
          refine .inl ⟨field, List.mem_of_find?_eq_some found, ?_, taken, fun other => ?_⟩
          · simp [known?, found, named]
          · simp [take, found]
      | none =>
          simp only [take, found] at taken
          split at taken
          · rename_i whole
            cases taken
            exact .inr ⟨by simpa [known?] using found, rfl, fun other => by simp [take, found, whole]⟩
          · cases taken

theorem take_comm (apart : Apart fields) {first second : Option String × Doc} {a b c : α}
    (once : (known fields [first, second]).Nodup) (firstTaken : take fields a first = .ok b)
    (secondTaken : take fields b second = .ok c) :
    ∃ between, take fields a second = .ok between ∧ take fields between first = .ok c := by
  rcases take_cases firstTaken with ⟨field, member, named, read, takes⟩ | ⟨-, rfl, skips⟩
  · rcases take_cases secondTaken with ⟨other, otherIn, otherNamed, otherRead, otherTakes⟩ |
      ⟨-, rfl, skips⟩
    · have differ : field.name ≠ other.name := by
        intro same
        simp [known, named, otherNamed, same] at once
      obtain ⟨between, early, late⟩ :=
        apart.commute field member other otherIn differ _ _ _ _ _ read otherRead
      exact ⟨between, (otherTakes a).trans early, (takes between).trans late⟩
    · exact ⟨a, skips a, firstTaken⟩
  · exact ⟨c, secondTaken, skips c⟩

theorem foldlM_perm (apart : Apart fields) (perm : entries.Perm others)
    (once : (known fields entries).Nodup) (taken : entries.foldlM (take fields) sofar = .ok value) :
    others.foldlM (take fields) sofar = .ok value := by
  induction perm generalizing sofar with
  | nil => exact taken
  | cons entry _ ih =>
      obtain ⟨next, first, rest⟩ := foldlM_cons_eq_ok_iff.mp taken
      rw [← List.singleton_append, known_append] at once
      exact foldlM_cons_eq_ok_iff.mpr ⟨next, first, ih (List.nodup_append.mp once).2.1 rest⟩
  | swap second first tail =>
      obtain ⟨a, firstTaken, rest⟩ := foldlM_cons_eq_ok_iff.mp taken
      obtain ⟨b, secondTaken, rest⟩ := foldlM_cons_eq_ok_iff.mp rest
      have two : [first, second] ++ tail = first :: second :: tail := rfl
      rw [← two, known_append] at once
      obtain ⟨between, early, late⟩ :=
        take_comm apart (List.nodup_append.mp once).1 firstTaken secondTaken
      exact foldlM_cons_eq_ok_iff.mpr ⟨between, early, foldlM_cons_eq_ok_iff.mpr ⟨b, late, rest⟩⟩
  | trans early _ ih again =>
      refine again ?_ (ih once taken)
      exact (early.filterMap _).nodup once

theorem Fills.perm (apart : Apart fields) (perm : entries.Perm others)
    (fills : Fills fields initial entries value) : Fills fields initial others value where
  taken := foldlM_perm apart perm fills.once fills.taken
  once := (perm.filterMap _).nodup fills.once
  enough := fun field member required =>
    (perm.filterMap _).mem_iff.mp (fills.enough field member required)

variable {before after : List (Option String × Doc)} {name : String} {doc : Doc}

/-- A change to one member may be made as if it came first. -/
theorem Fills.at_head (apart : Apart fields) {entry : Option String × Doc} :
    Fills fields initial (before ++ entry :: after) value ↔
      Fills fields initial (entry :: (before ++ after)) value :=
  ⟨.perm apart List.perm_middle, .perm apart List.perm_middle.symm⟩

theorem Fills.add (apart : Apart fields) (unknown : ∀ field ∈ fields, field.name ≠ name)
    (whole : doc.isWhole = true) (fills : Fills fields initial (before ++ after) value) :
    Fills fields initial (before ++ (some name, doc) :: after) value := by
  have absent : fields.find? (·.name == name) = none := by simpa using unknown
  apply (Fills.at_head apart).mpr
  constructor
  · rw [foldlM_cons_eq_ok_iff]
    exact ⟨initial, by simp [take, absent, whole], fills.taken⟩
  · rw [known_cons_unnamed absent]
    exact fills.once
  · rw [known_cons_unnamed absent]
    exact fills.enough

theorem find?_of_mem (apart : Apart fields) {field : FieldReader α} (member : field ∈ fields) :
    fields.find? (·.name == field.name) = some field := by
  cases found : fields.find? (·.name == field.name) with
  | none => simpa using List.find?_eq_none.mp found field member
  | some other =>
      have same := List.find?_some found
      rw [beq_iff_eq] at same
      rw [List.inj_on_of_nodup_map apart.names (List.mem_of_find?_eq_some found) member same]

/-- A field that is not needed may be left out where it holds its default. -/
theorem Fills.leaveOut (apart : Apart fields) {field : FieldReader α} (member : field ∈ fields)
    (optional : field.required = false)
    (default : ∀ next, field.read doc initial = .ok next → next = initial)
    (fills : Fills fields initial (before ++ (some field.name, doc) :: after) value) :
    Fills fields initial (before ++ after) value := by
  have found := find?_of_mem apart member
  have ⟨taken, once, enough⟩ := (Fills.at_head apart).mp fills
  obtain ⟨next, read, rest⟩ := foldlM_cons_eq_ok_iff.mp taken
  rw [known_cons_named found] at once enough
  simp only [take, found] at read
  refine ⟨default next read ▸ rest, (List.nodup_cons.mp once).2, fun other otherIn required => ?_⟩
  rcases List.mem_cons.mp (enough other otherIn required) with same | present
  · rw [List.inj_on_of_nodup_map apart.names otherIn member same, optional] at required
    cases required
  · exact present

/-- A field may be written in another way that is read alike. -/
theorem Fills.inside (apart : Apart fields) {field : FieldReader α} (member : field ∈ fields)
    {other : Doc}
    (same : ∀ start next, field.read doc start = .ok next → field.read other start = .ok next)
    (fills : Fills fields initial (before ++ (some field.name, doc) :: after) value) :
    Fills fields initial (before ++ (some field.name, other) :: after) value := by
  have found := find?_of_mem apart member
  have ⟨taken, once, enough⟩ := (Fills.at_head apart).mp fills
  apply (Fills.at_head apart).mpr
  rw [known_cons_named found] at once enough
  refine ⟨?_, ?_, ?_⟩
  · obtain ⟨next, read, rest⟩ := foldlM_cons_eq_ok_iff.mp taken
    simp only [take, found] at read
    exact foldlM_cons_eq_ok_iff.mpr ⟨next, by simpa [take, found] using same _ _ read, rest⟩
  · rw [known_cons_named found]
    exact once
  · rw [known_cons_named found]
    exact enough

end Changes

section Invariants

/-- Reading a field leaves a property of the record alone. -/
def Keeps (P : α → Prop) (field : FieldReader α) : Prop :=
  ∀ doc a b, P a → field.read doc a = .ok b → P b

variable {P : α → Prop}

theorem invariant_of_foldlM (keeps : ∀ field ∈ fields, Keeps P field) (start : P sofar)
    (taken : entries.foldlM (take fields) sofar = .ok value) : P value := by
  induction entries generalizing sofar with
  | nil =>
      cases taken
      exact start
  | cons entry rest ih =>
      obtain ⟨next, first, others⟩ := foldlM_cons_eq_ok_iff.mp taken
      refine ih ?_ others
      rcases take_cases first with ⟨field, member, -, read, -⟩ | ⟨-, same, -⟩
      · exact keeps field member _ _ _ start read
      · exact same ▸ start

theorem invariant_of_items {record : String} {count index : Nat} {closed : Bool} {docs : List Doc}
    (keeps : ∀ field ∈ fields, Keeps P field) (start : P sofar)
    (read : items record count closed index fields sofar docs = .ok value) : P value := by
  induction fields generalizing sofar docs index with
  | nil =>
      cases docs with
      | nil =>
          simp only [items] at read
          split at read <;> cases read
          exact start
      | cons => simp [items] at read
  | cons field fields ih =>
      have others : ∀ other ∈ fields, Keeps P other :=
        fun other member => keeps other (List.mem_cons_of_mem _ member)
      cases docs with
      | nil =>
          simp only [items] at read
          split at read
          · cases read
          · split at read
            · cases read
            · exact ih others start read
      | cons doc docs =>
          rw [items, bind_eq_ok_iff] at read
          obtain ⟨next, first, rest⟩ := read
          exact ih others (keeps field List.mem_cons_self _ _ _ start first) rest

/-- What holds of the defaults and is kept by each field holds of every record that is read. -/
theorem invariant_of_record {name : String} {depth : Nat} {doc : Doc}
    (keeps : ∀ field ∈ fields, Keeps P field) (start : P initial)
    (read : record name fields initial depth doc = .ok value) : depth ≠ 0 ∧ P value := by
  cases doc with
  | object entries closed =>
      obtain ⟨deep, -, fills⟩ := record_object_iff.mp read
      exact ⟨deep, invariant_of_foldlM keeps start fills.taken⟩
  | array docs closed =>
      rw [record] at read
      split at read
      · cases read
      · rename_i deep
        exact ⟨deep, invariant_of_items keeps start read⟩
  | _ => cases read

end Invariants

end RouteAtlas.Json.Decode
