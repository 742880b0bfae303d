import RouteAtlas.Proofs.Except
import RouteAtlas.Proofs.Route.LastWriter

/-! # Order of arrival

Only valid records make a difference to a table. If their classes differ, and so do the places where
they are filed, then the order in which they arrive makes none.
-/

namespace RouteAtlas

/-- Where a record is filed: its group and path. -/
def RouteRecord.address (record : RouteRecord) : String × String :=
  (record.groupName, record.path)

namespace RouteTable

/-- The form in which the valid ones of some records are filed, in order. -/
def accepted (records : List RouteRecord) : List RouteRecord :=
  records.filterMap fun record => record.validate.toOption

theorem accepted_append (first second : List RouteRecord) :
    accepted (first ++ second) = accepted first ++ accepted second :=
  List.filterMap_append

theorem accepted_cons_ok {record valid : RouteRecord} (passed : record.validate = .ok valid)
    (rest : List RouteRecord) : accepted (record :: rest) = valid :: accepted rest :=
  List.filterMap_cons_some (by rw [passed]; rfl)

theorem accepted_cons_error {record : RouteRecord} {error : BuildError}
    (refused : record.validate = .error error) (rest : List RouteRecord) :
    accepted (record :: rest) = accepted rest :=
  List.filterMap_cons_none (by rw [refused]; rfl)

theorem mem_accepted {records : List RouteRecord} {valid : RouteRecord} :
    valid ∈ accepted records ↔ ∃ record ∈ records, record.validate = .ok valid := by
  simp only [accepted, List.mem_filterMap, toOption_eq_some_iff]

theorem valid_of_mem_accepted {records : List RouteRecord} {record : RouteRecord}
    (member : record ∈ accepted records) : record.Valid := by
  obtain ⟨_, _, passed⟩ := mem_accepted.mp member
  exact RouteRecord.valid_of_validate passed

/-- A table is made of the valid records alone. -/
theorem table_insertAll_accepted (table : RouteTable) (records : List RouteRecord) :
    (table.insertAll (accepted records)).table = (table.insertAll records).table := by
  induction records generalizing table with
  | nil => rfl
  | cons record rest ih =>
      rw [table_insertAll_cons, table_insert]
      cases passed : record.validate with
      | error => rw [accepted_cons_error passed]; exact ih table
      | ok valid =>
          have again : valid.validate = .ok valid := (RouteRecord.valid_of_validate passed).validate
          rw [accepted_cons_ok passed, table_insertAll_cons, table_insert, again]
          exact ih (table.filed valid)

/-- Records of different classes that have all arrived change nothing if they arrive again. -/
theorem insertAll_again {table : RouteTable} (wellFormed : table.WellFormed)
    {records : List RouteRecord} (distinct : ((accepted records).map RouteRecord.target).Nodup) :
    ((table.insertAll records).table.insertAll records).table = (table.insertAll records).table := by
  rw [← table_insertAll_accepted _ records, ← table_insertAll_accepted table records]
  refine insertAll_of_subset (wellFormed_insertAll wellFormed _) fun record member => ?_
  have last := (lastAccepted_eq_some_iff (fun _ => valid_of_mem_accepted) distinct).mpr ⟨member, rfl⟩
  exact (mem_records_insertAll wellFormed).mpr (.inl last)

/-- Of two records that are filed apart each leaves the slot of the other alone, but for taking its
    own class out of it. -/
theorem filed_comm (table : RouteTable) {first second : RouteRecord}
    (others : first.target ≠ second.target) (apart : first.address ≠ second.address) :
    (table.filed first).filed second = (table.filed second).filed first := by
  refine eq_of_slots (full_filed ..) (full_filed ..) fun name path => ?_
  simp only [slot_filed]
  by_cases here : name = first.groupName ∧ path = first.path
  case pos =>
    have elsewhere : ¬(name = second.groupName ∧ path = second.path) := fun there =>
      apart (Prod.ext (here.1.symm.trans there.1) (here.2.symm.trans there.2))
    rw [if_neg elsewhere, if_pos here, if_pos here, if_neg elsewhere]
    exact RouteSlot.filter_place others _
  case neg =>
    by_cases there : name = second.groupName ∧ path = second.path
    case pos =>
      rw [if_pos there, if_neg here, if_neg here, if_pos there]
      exact (RouteSlot.filter_place others.symm _).symm
    case neg =>
      rw [if_neg there, if_neg here, if_neg here, if_neg there]
      exact List.filter_comm _ _ _

/-- Records that are filed apart lead to one table in every order. -/
theorem insertAll_perm (table : RouteTable) {first second : List RouteRecord}
    (perm : (accepted first).Perm (accepted second))
    (distinct : ((accepted first).map RouteRecord.target).Nodup)
    (apart : ((accepted first).map RouteRecord.address).Nodup) :
    (table.insertAll first).table = (table.insertAll second).table := by
  rw [← table_insertAll_accepted table first, ← table_insertAll_accepted table second,
    table_insertAll, table_insertAll]
  refine perm.foldl_eq' (fun record member other otherIn start => ?_) table
  have valid : ∀ {held}, held ∈ accepted first → held.validate = .ok held :=
    fun known => (valid_of_mem_accepted known).validate
  simp only [table_insert, valid member, valid otherIn]
  by_cases same : record = other
  · rw [same]
  · exact filed_comm start (fun targets => same (List.inj_on_of_nodup_map distinct member otherIn
      targets)) fun addresses => same (List.inj_on_of_nodup_map apart member otherIn addresses)

/-- Records of different classes that are filed in different places may arrive in any order, whatever
    the table holds: the slots that they enter and leave come out the same, in their order. -/
theorem sameTable_of_apart (table : RouteTable) {records order : List RouteRecord}
    (distinct : (records.map RouteRecord.target).Nodup)
    (apart : ((accepted records).map RouteRecord.address).Nodup) (perm : records.Perm order) :
    (table.insertAll records).table = (table.insertAll order).table := by
  refine insertAll_perm table (perm.filterMap _) ?_ apart
  rw [accepted, List.Nodup, List.pairwise_map, List.pairwise_filterMap]
  refine (List.pairwise_map.mp distinct).imp fun {first second} differ valid passed other others => ?_
  rw [toOption_eq_some_iff] at passed others
  rw [RouteRecord.target_of_validate passed, RouteRecord.target_of_validate others]
  exact differ

section Swap

private def fragmentAt (path target : String) : RouteRecord :=
  { path, kind := .subScreen, target := .named target }

/-- Two classes under one path, and one under another. -/
private def tabs : RouteTable :=
  (empty.insertAll [fragmentAt "/main/tabs" "app.Home", fragmentAt "/main/tabs" "app.News",
    fragmentAt "/shop/cart" "app.Cart"]).table

/-- Home and the cart change places, and a record without a valid path is not filed. -/
private def swaps : List RouteRecord :=
  [fragmentAt "/shop/cart" "app.Home", fragmentAt "tabs" "app.News",
    fragmentAt "/main/tabs" "app.Cart"]

/-- The cart goes behind the news, whether or not Home is still there when it comes. -/
theorem sameTable_of_swap :
    (swaps.map RouteRecord.target).Nodup ∧ ((accepted swaps).map RouteRecord.address).Nodup ∧
      (tabs.insertAll swaps).table = (tabs.insertAll swaps.reverse).table ∧
      ((tabs.insertAll swaps).table.slot "main" "/main/tabs").targets =
        [.named "app.News", .named "app.Cart"] := by
  have distinct : (swaps.map RouteRecord.target).Nodup := by decide
  have apart : ((accepted swaps).map RouteRecord.address).Nodup := by decide +kernel
  refine ⟨distinct, apart, ?_, by decide +kernel⟩
  exact sameTable_of_apart tabs distinct apart swaps.reverse_perm.symm

end Swap

end RouteTable

end RouteAtlas
