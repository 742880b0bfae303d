import RouteAtlas.Proofs.Hook.Order
import RouteAtlas.Proofs.Round.Siblings

/-! # Interceptors of a first round

In the first round of a build the interceptors meet no others. Two of them that share a priority end
the work on all of them; otherwise every class that keeps the contract is in the table, once.
-/

namespace RouteAtlas

/-- A unit is written if its name was not used before. -/
def Sink.Fresh {σ : Type} (sink : Sink σ) (start : σ) : Prop :=
  ∀ (earlier : List RenderedUnit) (unit : RenderedUnit), unit.key ∉ earlier.map RenderedUnit.key →
    (sink.write (sink.writeAll start earlier) unit).1 = .ok .written

namespace Sink

theorem fresh_writeOnce (store : Store) : (writeOnce memory).Fresh ⟨store, []⟩ := by
  intro earlier unit unused
  have absent : ((writeOnce memory).writeAll ⟨store, []⟩ earlier).digest? unit.key = none := by
    rw [← guarded_none, digest?_writeAll accepts_memory, digestOf?,
      Ledger.find_eq_none_iff.mpr unused]
    rfl
  rw [write_new absent rfl]

end Sink

namespace HookTable

variable {hooks : List HookRecord} {after : HookTable}

theorem not_mem_hooks_empty (hook : HookRecord) : hook ∉ empty.hooks :=
  List.not_mem_nil

/-- Interceptors pass into an empty table if no two of them share a priority. -/
theorem insertAll_empty_ok_iff (distinct : (hooks.map HookRecord.target).Nodup) :
    (∃ after, empty.insertAll hooks = .ok after) ↔ (hooks.map HookRecord.priority).Nodup := by
  rw [insertAll_ok_iff wellFormed_empty distinct, List.Nodup, List.pairwise_map]
  constructor
  · exact fun passing => passing.apart
  · intro apart
    constructor
    case staying => exact fun _ _ held heldIn => absurd heldIn (not_mem_hooks_empty held)
    case apart => exact apart
    case leaving =>
      exact apart.imp fun _ held heldIn => absurd heldIn (not_mem_hooks_empty held)

theorem mem_hooks_insertAll_empty (distinct : (hooks.map HookRecord.target).Nodup)
    (inserted : empty.insertAll hooks = .ok after) (held : HookRecord) :
    held ∈ after.hooks ↔ held ∈ hooks := by
  simp [mem_hooks_insertAll wellFormed_empty distinct inserted, not_mem_hooks_empty]

end HookTable

namespace SymbolTable

/-- A class that joins the interceptors of its round. -/
structure IsHook (table : SymbolTable) (mark : HookMark) (decl : Declaration) : Prop where
  listed : decl ∈ table.declarations
  resolved : decl.resolved = true
  marked : decl.marks.hook = some mark
  implements : table.implements decl Contract.interceptor = true

/-- Two interceptors of a round share a priority. -/
structure Clash (table : SymbolTable) (priority : Int) (first second : Declaration) : Prop where
  differ : first ≠ second
  first : ∃ mark, table.IsHook mark first ∧ mark.priority = priority
  second : ∃ mark, table.IsHook mark second ∧ mark.priority = priority

section Found

variable {table : SymbolTable} {mark : HookMark} {decl : Declaration} {hook : HookRecord}

theorem mem_resolvedOnes_hooks : decl ∈ resolvedOnes table.hooks ↔
    decl ∈ table.declarations ∧ decl.marks.hook.isSome = true ∧ decl.resolved = true := by
  simp only [resolvedOnes, hooks, List.mem_filter, and_assoc]

theorem mem_acceptedHooks : hook ∈ table.acceptedHooks (resolvedOnes table.hooks) ↔
    ∃ mark decl, table.IsHook mark decl ∧ hook = mark.record decl := by
  simp only [acceptedHooks, List.mem_filterMap, toOption_eq_some_iff, hookOf_eq_ok_iff,
    mem_resolvedOnes_hooks]
  constructor
  · intro accepted
    obtain ⟨decl, ⟨listed, _, resolved⟩, mark, marked, implements, made⟩ := accepted
    exact ⟨mark, decl, ⟨listed, resolved, marked, implements⟩, made⟩
  · intro found
    obtain ⟨mark, decl, isHook, made⟩ := found
    exact ⟨decl, ⟨isHook.listed, by simp [isHook.marked], isHook.resolved⟩, mark, isHook.marked,
      isHook.implements, made⟩

theorem nodup_targets_found (table : SymbolTable) :
    ((table.acceptedHooks (resolvedOnes table.hooks)).map HookRecord.target).Nodup :=
  nodup_acceptedHooks (distinct_resolvedOnes (distinct_filter table _))

theorem eq_of_record {other : HookMark} {twin : Declaration} (isHook : table.IsHook mark decl)
    (otherHook : table.IsHook other twin)
    (same : (mark.record decl).target = (other.record twin).target) : decl = twin := by
  injection same with names
  exact List.inj_on_of_nodup_map table.distinct isHook.listed otherHook.listed names

/-- The work on the interceptors ends early if two of them share a priority. -/
theorem fatal_isSome_iff :
    (table.stagedHooks .empty).fatal.isSome ↔
      ∃ priority first second, table.Clash priority first second := by
  have targets := table.nodup_targets_found
  have sound : (table.stagedHooks .empty).fatal = none ↔
      ((table.acceptedHooks (resolvedOnes table.hooks)).map HookRecord.priority).Nodup := by
    rw [← HookTable.insertAll_empty_ok_iff targets, stagedHooks, fatal_takeHooks_eq_none_iff]
    refine ⟨fun inserted => ⟨_, inserted⟩, fun passed => ?_⟩
    obtain ⟨after, inserted⟩ := passed
    rw [inserted, (takeHooks_of_ok inserted).2]
  rw [← Option.ne_none_iff_isSome, ne_eq, sound]
  constructor
  · intro shared
    by_contra none
    refine shared ((List.Nodup.of_map _ targets).map_on fun a aIn b bIn same => ?_)
    obtain ⟨mark, decl, isHook, rfl⟩ := mem_acceptedHooks.mp aIn
    obtain ⟨other, twin, otherHook, rfl⟩ := mem_acceptedHooks.mp bIn
    by_contra differ
    refine none ⟨mark.priority, decl, twin, ?_, ⟨mark, isHook, rfl⟩, ⟨other, otherHook, same.symm⟩⟩
    rintro rfl
    have marks := isHook.marked.symm.trans otherHook.marked
    simp only [Option.some.injEq] at marks
    exact differ (by rw [marks])
  · intro found distinct
    obtain ⟨priority, first, second, clash⟩ := found
    obtain ⟨mark, isHook, own⟩ := clash.first
    obtain ⟨other, otherHook, otherOwn⟩ := clash.second
    have same := List.inj_on_of_nodup_map distinct (mem_acceptedHooks.mpr ⟨_, _, isHook, rfl⟩)
      (mem_acceptedHooks.mpr ⟨_, _, otherHook, rfl⟩) (own.trans otherOwn.symm)
    exact clash.differ (eq_of_record isHook otherHook (congrArg HookRecord.target same))

/-- What ends the work names two interceptors with one priority. -/
theorem clash_of_fatal {error : BuildError}
    (fatal : (table.stagedHooks .empty).fatal = some error) :
    ∃ priority first second, table.Clash priority first second ∧
      error = .duplicatePriority priority first.qualifiedName second.qualifiedName := by
  cases inserted : HookTable.empty.insertAll (table.acceptedHooks (resolvedOnes table.hooks)) with
  | ok after =>
      have sound : (table.stagedHooks .empty).fatal = none := (takeHooks_of_ok inserted).1
      rw [sound] at fatal
      cases fatal
  | error known =>
      have named : (table.stagedHooks .empty).fatal = some known := takeHooks_of_error inserted
      obtain rfl : known = error := by simpa [named] using fatal
      obtain ⟨holder, hook, held, member, same, other, rfl⟩ :=
        HookTable.insertAll_eq_error HookTable.wellFormed_empty inserted
      have holderIn := held.resolve_left (HookTable.not_mem_hooks_empty holder)
      obtain ⟨mark, first, isHook, rfl⟩ := mem_acceptedHooks.mp holderIn
      obtain ⟨later, second, laterHook, rfl⟩ := mem_acceptedHooks.mp member
      refine ⟨later.priority, first, second, ⟨?_, ⟨mark, isHook, same⟩, later, laterHook, rfl⟩, rfl⟩
      intro equal
      exact other (congrArg Declaration.asType equal)

theorem dropped_takeHooks {staged : HookTable} {decls : List Declaration}
    (sound : (table.takeHooks staged decls).fatal = none) :
    (table.takeHooks staged decls).dropped =
      decls.countP fun decl => (table.hookOf decl).toOption.isNone := by
  induction decls generalizing staged with
  | nil => rfl
  | cons decl rest ih =>
      unfold takeHooks at sound ⊢
      cases made : table.hookOf decl with
      | error error =>
          simp only [made] at sound ⊢
          rw [ih sound]
          simp [made, Except.toOption]
      | ok hook =>
          cases inserted : staged.insert hook with
          | error error => simp [made, inserted] at sound
          | ok after =>
              simp only [made, inserted] at sound ⊢
              rw [ih sound]
              simp [made, Except.toOption]

theorem dropped_stagedHooks (sound : (table.stagedHooks .empty).fatal = none) :
    (table.stagedHooks .empty).dropped = table.declarations.countP fun decl =>
      decl.resolved && decl.marks.hook.isSome && !table.implements decl Contract.interceptor := by
  have refused : (table.stagedHooks .empty).dropped = (resolvedOnes table.hooks).countP _ :=
    dropped_takeHooks sound
  rw [refused, resolvedOnes, hooks, List.countP_filter, List.countP_filter]
  refine List.countP_congr fun decl _ => ?_
  cases decl.resolved <;> cases marked : decl.marks.hook <;>
    cases keeps : table.implements decl Contract.interceptor <;>
    simp [hookOf, marked, keeps, Except.toOption]

end Found

section Order

variable {table other : SymbolTable} {mark : HookMark} {decl : Declaration}

theorem IsHook.of_perm (perm : other.declarations.Perm table.declarations)
    (isHook : table.IsHook mark decl) : other.IsHook mark decl where
  listed := perm.mem_iff.mpr isHook.listed
  resolved := isHook.resolved
  marked := isHook.marked
  implements := by
    have alike := alike_of_supertypeNames (supertypeNames_of_perm perm) decl
    rw [alike.interceptor, isHook.implements]

theorem Clash.of_perm {priority : Int} {first second : Declaration}
    (perm : other.declarations.Perm table.declarations)
    (clash : table.Clash priority first second) : other.Clash priority first second where
  differ := clash.differ
  first := clash.first.imp fun _ found => ⟨found.1.of_perm perm, found.2⟩
  second := clash.second.imp fun _ found => ⟨found.1.of_perm perm, found.2⟩

end Order

end SymbolTable

/-- Interceptors in the order of their calls, which are all those of a table. -/
structure SymbolTable.CallsAll (table : SymbolTable) (calls : List HookRecord) : Prop where
  ascending : calls.Pairwise fun first second => first.priority < second.priority
  once : (calls.map HookRecord.target).Nodup
  complete : ∀ hook, hook ∈ calls ↔ ∃ mark decl, table.IsHook mark decl ∧ hook = mark.record decl

/-- What the processor of interceptors comes to in the first round of a build, where `written` are
    the units of interceptors that reach the sink. -/
structure FirstHooks (language : Language) (module : String) (table : SymbolTable) (report : Report)
    (hooks : HookTable) (written : List RenderedUnit) : Prop where
  fatal : report.fatal.isSome ↔ ∃ priority first second, table.Clash priority first second
  /-- After a clash there are no interceptors. -/
  clash : ∀ error, report.fatal = some error →
    (∃ priority first second, table.Clash priority first second ∧
      error = .duplicatePriority priority first.qualifiedName second.qualifiedName) ∧
    hooks = .empty ∧ report.emitted = {} ∧ written = []
  /-- Without a clash the build has them all. -/
  joined : report.fatal = none → table.CallsAll hooks.hooks
  /-- One unit is then written, with all of them, if any class is annotated. -/
  emitted : report.fatal = none →
    (∃ decl ∈ table.declarations, decl.resolved = true ∧ decl.marks.hook.isSome = true) →
    report.emitted = { written := [.interceptors module] } ∧
      ∃ unit source, language.render unit = .ok source ∧ written = [source] ∧
        unit.key = .interceptors module ∧
        ∃ calls, table.CallsAll calls ∧ unit.body = .interceptors calls ∧
          unit.originating = calls.map fun hook => hook.target.name
  /-- The annotated classes that do not keep the contract are dropped. -/
  dropped : report.fatal = none → report.dropped = table.declarations.countP fun decl =>
    decl.resolved && decl.marks.hook.isSome && !table.implements decl Contract.interceptor

/-- The units of interceptors that a store holds. -/
def Store.HoldsHooks (store : Store) (module : String) (units : List RenderedUnit) : Prop :=
  ∀ unit, unit ∈ store.values ∧ unit.key = .interceptors module ↔ unit ∈ units

section Round

variable {σ : Type} {sink : Sink σ} {start : σ} {pipeline : Pipeline} {module : String}
  {table : SymbolTable} (named : pipeline.options.moduleName = some module)
include named

/-- The units of interceptors that the first round of a build offers to the sink. -/
theorem mem_hookSources {unit : RenderedUnit} (hook : unit.key = .interceptors module) :
    unit ∈ pipeline.language.renderAll (pipeline.roundOffer table {}) ↔
      unit ∈ pipeline.language.renderAll (pipeline.hookOffer table .empty) := by
  simp only [Pipeline.roundOffer, Language.renderAll_append, List.mem_append]
  constructor
  · rintro ((ofRoutes | ofHooks) | ofInjectors)
    · obtain ⟨offered, member, made⟩ := pipeline.language.mem_renderAll.mp ofRoutes
      have isRoute := Pipeline.isRouteKey_of_mem_routeOffer named RouteTable.wellFormed_empty member
      rw [(Language.render_eq_ok made).1] at hook
      exact absurd hook (isRoute.ne_interceptors module)
    · exact ofHooks
    · obtain ⟨offered, member, made⟩ := pipeline.language.mem_renderAll.mp ofInjectors
      obtain ⟨plan, rfl⟩ := Pipeline.mem_injectorOffer member
      rw [(Language.render_eq_ok made).1] at hook
      exact absurd hook.symm (IsTableKey.ne_injector (.inr rfl) plan.target)
  · exact fun ofHooks => .inl (.inr ofHooks)

theorem eq_of_hookSources {unit other : RenderedUnit}
    (unitIn : unit ∈ pipeline.language.renderAll (pipeline.hookOffer table .empty))
    (otherIn : other ∈ pipeline.language.renderAll (pipeline.hookOffer table .empty)) :
    other = unit := by
  obtain ⟨offered, member, made⟩ := pipeline.language.mem_renderAll.mp unitIn
  obtain ⟨twin, twinIn, twinMade⟩ := pipeline.language.mem_renderAll.mp otherIn
  have offer : pipeline.hookOffer table .empty = [] ∨ _ := Pipeline.hookOffer_cases named .empty
  rcases offer with nothing | one
  · simp [nothing] at member
  · rw [one, List.mem_singleton] at member twinIn
    subst member twinIn
    simpa [made] using twinMade.symm

theorem key_of_hookSource {unit : RenderedUnit}
    (member : unit ∈ pipeline.language.renderAll (pipeline.hookOffer table .empty)) :
    unit.key = .interceptors module := by
  obtain ⟨offered, listed, made⟩ := pipeline.language.mem_renderAll.mp member
  rw [(Language.render_eq_ok made).1, Pipeline.key_of_mem_hookOffer named listed]

/-- No other unit of the round has the path of the interceptors. -/
theorem hookSource_alone {unit other : RenderedUnit}
    (unitIn : unit ∈ pipeline.language.renderAll (pipeline.hookOffer table .empty))
    (otherIn : other ∈ pipeline.language.renderAll (pipeline.roundOffer table {}))
    (same : other.path = unit.path) : other = unit := by
  obtain ⟨hookUnit, hookIn, hookMade⟩ := pipeline.language.mem_renderAll.mp unitIn
  obtain ⟨offered, member, made⟩ := pipeline.language.mem_renderAll.mp otherIn
  obtain ⟨hookKey, hookPath, -⟩ := Language.render_eq_ok hookMade
  obtain ⟨key, path, -⟩ := Language.render_eq_ok made
  have own := Pipeline.key_of_mem_hookOffer named hookIn
  rw [path, hookPath, own] at same
  rw [Pipeline.roundOffer, List.mem_append, List.mem_append] at member
  rcases member with (ofRoutes | ofHooks) | ofInjectors
  · have isRoute := Pipeline.isRouteKey_of_mem_routeOffer named RouteTable.wellFormed_empty ofRoutes
    exact absurd (UnitKey.path_injective isRoute.package_eq same) (isRoute.ne_interceptors module)
  · exact eq_of_hookSources named unitIn (pipeline.language.mem_renderAll.mpr ⟨_, ofHooks, made⟩)
  · obtain ⟨plan, rfl⟩ := Pipeline.mem_injectorOffer ofInjectors
    exact absurd same.symm (IsTableKey.path_ne_injector (.inr rfl) plan.target
      (Language.dollar_not_mem_extension _))

theorem holdsHooks_memory : Store.HoldsHooks (pipeline.runRound .memory {} table .empty).2 module
    (pipeline.language.renderAll (pipeline.hookOffer table .empty)) := by
  intro unit
  rw [Pipeline.runRound_offer, Language.state_emit]
  constructor
  · intro ⟨stored, hook⟩
    exact (mem_hookSources named hook).mp (Sink.mem_of_mem_values_memory stored)
  · intro member
    have hook := key_of_hookSource named member
    exact ⟨Sink.mem_values_memory ((mem_hookSources named hook).mpr member)
      fun _ => hookSource_alone named member, hook⟩

theorem holdsHooks_writeOnce :
    Store.HoldsHooks (pipeline.runRound (.writeOnce .memory) {} table ⟨.empty, []⟩).2.inner module
      (pipeline.language.renderAll (pipeline.hookOffer table .empty)) := by
  intro unit
  -- The units that the sink below is given are offered ones, the first of each name.
  have kept := pipeline.language.kept_emit Sink.accepts_memory (.empty .memory SortedMap.empty)
    (pipeline.roundOffer table {})
  rw [Pipeline.runRound_offer, kept.below]
  constructor
  · intro ⟨stored, hook⟩
    have offered := Ledger.mem_of_mem_addAll (Sink.mem_of_mem_values_memory stored)
    exact (mem_hookSources named hook).mp (offered.resolve_left List.not_mem_nil)
  · intro member
    have hook := key_of_hookSource named member
    have offered := (mem_hookSources named hook).mpr member
    refine ⟨Sink.mem_values_memory ?_ fun other otherIn => ?_, hook⟩
    · cases found : Ledger.find
          (pipeline.language.renderAll (pipeline.roundOffer table {})) unit.key with
      | none => exact absurd (List.mem_map_of_mem offered) (Ledger.find_eq_none_iff.mp found)
      | some first =>
          have firstIn := (mem_hookSources named ((Ledger.key_of_find found).trans hook)).mp
            (Ledger.mem_of_find found)
          rw [eq_of_hookSources named member firstIn] at found
          exact Ledger.mem_of_find (by rw [Ledger.find_addAll, found]; rfl)
    · have otherOffered := (Ledger.mem_of_mem_addAll otherIn).resolve_left List.not_mem_nil
      exact hookSource_alone named member otherOffered

theorem report_emit_hookOffer (fresh : sink.Fresh start) :
    (pipeline.language.emit sink (pipeline.runRoutes sink table .empty start).state
        (pipeline.hookOffer table .empty)).report =
      { written := (pipeline.hookOffer table .empty).map GeneratedUnit.key } := by
  have offer : pipeline.hookOffer table .empty = [] ∨ _ := Pipeline.hookOffer_cases named .empty
  rcases offer with nothing | one
  · rw [nothing]
    rfl
  · obtain ⟨unit, made⟩ : ∃ unit, pipeline.language.render
        ((table.stagedHooks .empty).table.unit module) = .ok unit := ⟨_, rfl⟩
    have unused : unit.key ∉ (pipeline.language.renderAll (pipeline.routeOffer table .empty)).map
        RenderedUnit.key := by
      intro known
      obtain ⟨route, routeIn, same⟩ := List.mem_map.mp known
      obtain ⟨offered, member, done⟩ := pipeline.language.mem_renderAll.mp routeIn
      have isRoute := Pipeline.isRouteKey_of_mem_routeOffer named RouteTable.wellFormed_empty member
      rw [← (Language.render_eq_ok done).1, same, (Language.render_eq_ok made).1] at isRoute
      exact isRoute.ne_interceptors module rfl
    have written := fresh _ unit unused
    rw [one, Language.report_emit_cons, (Pipeline.runRoutes_offer _).1, Language.state_emit,
      Language.emitUnit_of_ok _ made]
    simp only [written]
    rfl

theorem hookOffer_eq_unit (settled : pendingOnes table.hooks = [])
    (found : resolvedOnes table.hooks ≠ []) (sound : (table.stagedHooks .empty).fatal = none) :
    pipeline.hookOffer table .empty = [(table.stagedHooks .empty).table.unit module] := by
  have some : (resolvedOnes table.hooks).isEmpty = false := by simpa using found
  simp [Pipeline.hookOffer, settled, some, sound, named]

theorem hooks_eq (fresh : sink.Fresh start) :
    (pipeline.runRound sink {} table start).1.state.hooks = table.joinedHooks .empty := by
  have clean : (pipeline.runHooks sink table .empty
      (pipeline.runRoutes sink table .empty start).state).report.emitted.isClean = true := by
    rw [(Pipeline.runHooks_offer _).2, report_emit_hookOffer named fresh]
    rfl
  simp only [Pipeline.runRound]
  rw [Pipeline.hooks_runHooks, clean, named]
  rfl

theorem firstHooks (settled : pendingOnes table.hooks = []) (fresh : sink.Fresh start) :
    FirstHooks pipeline.language module table
      (pipeline.runHooks sink table .empty
        (pipeline.runRoutes sink table .empty start).state).report
      (pipeline.runRound sink {} table start).1.state.hooks
      (pipeline.language.renderAll (pipeline.hookOffer table .empty)) := by
  rw [hooks_eq named fresh]
  have fatal : (pipeline.runHooks sink table .empty
      (pipeline.runRoutes sink table .empty start).state).report.fatal = _ :=
    Pipeline.fatal_runHooks named .empty
  have emission := @report_emit_hookOffer _ sink start pipeline module table named fresh
  rw [← (Pipeline.runHooks_offer _).2] at emission
  have formed := (BuildState.Reachable.start.joinedHooks table).wellFormed
  have joined : (table.stagedHooks .empty).fatal = none →
      table.CallsAll (table.joinedHooks .empty).hooks := by
    intro sound
    refine ⟨formed.ascending, formed.nodup_targets, fun hook => ?_⟩
    rw [SymbolTable.joinedHooks_of_sound sound]
    have inserted := SymbolTable.fatal_takeHooks_eq_none_iff.mp sound
    exact (HookTable.mem_hooks_insertAll_empty table.nodup_targets_found inserted hook).trans
      SymbolTable.mem_acceptedHooks
  constructor
  case fatal => rw [fatal, SymbolTable.fatal_isSome_iff]
  case clash =>
    intro error failed
    rw [fatal] at failed
    have nothing : pipeline.hookOffer table .empty = [] := by simp [Pipeline.hookOffer, failed]
    rw [emission, nothing]
    exact ⟨SymbolTable.clash_of_fatal failed, SymbolTable.joinedHooks_of_fatal failed,
      rfl, rfl⟩
  case emitted =>
    intro sound annotated
    obtain ⟨decl, listed, resolved, marked⟩ := annotated
    have found : resolvedOnes table.hooks ≠ [] :=
      List.ne_nil_of_mem (SymbolTable.mem_resolvedOnes_hooks.mpr ⟨listed, marked, resolved⟩)
    rw [fatal] at sound
    have one := hookOffer_eq_unit named settled found sound
    rw [emission, one, ← SymbolTable.joinedHooks_of_sound sound]
    exact ⟨rfl, _, _, rfl, rfl, HookTable.key_unit, _, joined sound, HookTable.body_unit,
      HookTable.originating_unit⟩
  case joined =>
    intro sound
    exact joined (fatal ▸ sound)
  case dropped =>
    intro sound
    rw [fatal] at sound
    rw [Pipeline.report_runHooks, named]
    exact SymbolTable.dropped_stagedHooks sound

/-- In a first round no interceptor is left out but for a clash, and none that keeps the contract is
    dropped. -/
theorem firstHooks_of_settled (settled : pendingOnes table.hooks = []) (fresh : sink.Fresh start) :
    ∃ report written,
      (pipeline.runRound sink {} table start).1.reportOf? .interceptor = some report ∧
      FirstHooks pipeline.language module table report
        (pipeline.runRound sink {} table start).1.state.hooks written ∧
      Store.HoldsHooks (pipeline.runRound .memory {} table .empty).2 module written ∧
      Store.HoldsHooks (pipeline.runRound (.writeOnce .memory) {} table ⟨.empty, []⟩).2.inner
        module written ∧
      ∀ other : SymbolTable, other.declarations.Perm table.declarations →
        ((pipeline.runRound sink {} other start).1.reportOf? .interceptor).map
          (fun report => report.fatal.isSome) = some report.fatal.isSome := by
  refine ⟨_, _, Pipeline.reportOf?_interceptor, firstHooks named settled fresh,
    holdsHooks_memory named, holdsHooks_writeOnce named, ?_⟩
  intro other perm
  rw [Pipeline.reportOf?_interceptor, Option.map_some, Option.some.injEq,
    Pipeline.fatal_runHooks named, Pipeline.fatal_runHooks named, Bool.eq_iff_iff]
  simp only [SymbolTable.fatal_isSome_iff]
  constructor
  · exact fun ⟨priority, first, second, clash⟩ => ⟨priority, first, second, clash.of_perm perm.symm⟩
  · exact fun ⟨priority, first, second, clash⟩ => ⟨priority, first, second, clash.of_perm perm⟩

end Round

section Desk

private def counter (name : String) (supertype : String) (priority : Int) : Declaration :=
  { qualifiedName := name
    supertypes := [.named supertype]
    marks := { hook := some { priority } } }

/-- Two interceptors, and a page that is annotated as one. -/
private def desk (first second : Int) : SymbolTable where
  declarations := [counter "app.Login" Contract.interceptor first,
    counter "app.Page" Contract.activity 5, counter "app.Audit" Contract.interceptor second]
  distinct := by simp [counter]

private theorem desk_declarations (first second : Int) : (desk first second).declarations =
    [counter "app.Login" Contract.interceptor first, counter "app.Page" Contract.activity 5,
      counter "app.Audit" Contract.interceptor second] := rfl

private theorem hookOf_desk (first second : Int) {name : String} (priority : Int)
    (other : Contract.interceptor ≠ name) :
    (desk first second).hookOf (counter name Contract.interceptor priority) =
      .ok { priority, target := .named name } := by
  rw [SymbolTable.hookOf_of_unknown rfl rfl other rfl]
  rfl

private theorem hookOf_page (first second : Int) :
    (desk first second).hookOf (counter "app.Page" Contract.activity 5) =
      .error (.notAnInterceptor "app.Page") := by
  have known : Contract.activity ≠ "app.Page" := by decide
  have keeps : (desk first second).implements (counter "app.Page" Contract.activity 5)
      Contract.interceptor = false := by
    rw [SymbolTable.implements, SymbolTable.firstMatch_of_unknown rfl known rfl]
    decide
  simp only [SymbolTable.hookOf, counter] at keeps ⊢
  simp [keeps]

private def holder (name : String) (priority : Int) : HookRecord :=
  { priority, target := .named name }

private theorem acceptedHooks_desk (first second : Int) :
    (desk first second).acceptedHooks (resolvedOnes (desk first second).hooks) =
      [holder "app.Login" first, holder "app.Audit" second] := by
  have found : resolvedOnes (desk first second).hooks = (desk first second).declarations := rfl
  rw [found]
  refine (SymbolTable.acceptedHooks_cons_ok (hookOf_desk first second first (by decide)) _).trans ?_
  rw [SymbolTable.acceptedHooks_cons_error (hookOf_page first second),
    SymbolTable.acceptedHooks_cons_ok (hookOf_desk first second second (by decide))]
  rfl

/-- Interceptors with priorities of their own are called in that order, and the page is dropped. If
    they share one, there are none. -/
theorem firstHooks_of_desk :
    Moved.pipeline.options.moduleName = some "app" ∧ (Sink.writeOnce .memory).Fresh ⟨.empty, []⟩ ∧
      (pendingOnes (desk 7 1).hooks = [] ∧ ∃ report written,
        FirstHooks .kotlin "app" (desk 7 1) report
          (Moved.pipeline.runRound (.writeOnce .memory) {} (desk 7 1) ⟨.empty, []⟩).1.state.hooks
          written ∧
        report.fatal = none ∧ report.dropped = 1) ∧
      pendingOnes (desk 3 3).hooks = [] ∧ ∃ report written,
        FirstHooks .kotlin "app" (desk 3 3) report
          (Moved.pipeline.runRound (.writeOnce .memory) {} (desk 3 3) ⟨.empty, []⟩).1.state.hooks
          written ∧
        report.fatal = some (.duplicatePriority 3 "app.Login" "app.Audit") := by
  have fresh := Sink.fresh_writeOnce .empty
  have named : Moved.pipeline.options.moduleName = some "app" := rfl
  have settled : ∀ first second, pendingOnes (desk first second).hooks = [] := fun _ _ => rfl
  refine ⟨rfl, fresh, ⟨rfl, ?_⟩, rfl, ?_⟩
  · obtain ⟨report, written, known, first, -⟩ := firstHooks_of_settled named (settled 7 1) fresh
    have inserted : HookTable.empty.insertAll ((desk 7 1).acceptedHooks
        (resolvedOnes (desk 7 1).hooks)) =
          .ok ⟨(SortedMap.empty.insert 7 (holder "app.Login" 7)).insert 1 (holder "app.Audit" 1)⟩ := by
      rw [acceptedHooks_desk]
      rfl
    have sound : ((desk 7 1).stagedHooks .empty).fatal = none :=
      (SymbolTable.takeHooks_of_ok inserted).1
    have dropped : ((desk 7 1).stagedHooks .empty).dropped = 1 := by
      rw [SymbolTable.stagedHooks, SymbolTable.dropped_takeHooks sound]
      change List.countP _ (desk 7 1).declarations = 1
      simp only [desk_declarations, List.countP_cons, hookOf_page]
      rw [hookOf_desk _ _ _ (by decide), hookOf_desk _ _ _ (by decide)]
      rfl
    rw [Pipeline.reportOf?_interceptor, Option.some.injEq] at known
    refine ⟨report, written, first, ?_, ?_⟩
    · rw [← known, Pipeline.fatal_runHooks rfl, sound]
    · rw [← known, Pipeline.report_runHooks]
      exact dropped
  · obtain ⟨report, written, known, first, -⟩ := firstHooks_of_settled named (settled 3 3) fresh
    have refused : HookTable.empty.insertAll ((desk 3 3).acceptedHooks
        (resolvedOnes (desk 3 3).hooks)) =
          .error (.duplicatePriority 3 "app.Login" "app.Audit") := by
      rw [acceptedHooks_desk]
      rfl
    refine ⟨report, written, first, ?_⟩
    rw [Pipeline.reportOf?_interceptor, Option.some.injEq] at known
    rw [← known, Pipeline.fatal_runHooks rfl, SymbolTable.stagedHooks]
    exact SymbolTable.takeHooks_of_error refused

end Desk

end RouteAtlas
