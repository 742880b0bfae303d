import RouteAtlas.Proofs.Unit.Key
import RouteAtlas.Round.Report
import RouteAtlas.Source.Render

/-! # Which processor a unit belongs to

The name of a unit tells which processor has made it, and no two processors make units that go to
one file.
-/

namespace RouteAtlas

theorem Language.dollar_not_mem_extension (language : Language) :
    '$' ∉ language.extension.toList := by
  cases language <;> decide

namespace Processor

/-- The names of the units that a processor makes. -/
def Owns : Processor → UnitKey → Prop
  | .route, key => ∃ module, IsRouteKey module key
  | .interceptor, key => ∃ module, key = .interceptors module
  | .autowired, key => ∃ owner, key = .injector owner

variable {processor other : Processor} {key otherKey : UnitKey}

theorem Owns.isTable (owns : processor.Owns key) (tables : processor ≠ .autowired) :
    ∃ module, IsTableKey module key := by
  cases processor with
  | route =>
      obtain ⟨module, isRoute⟩ := owns
      exact ⟨module, .inl isRoute⟩
  | interceptor =>
      obtain ⟨module, same⟩ := owns
      exact ⟨module, .inr same⟩
  | autowired => exact absurd rfl tables

theorem path_ne_hooks (routes : Processor.route.Owns key)
    (hooks : Processor.interceptor.Owns otherKey) (extension : String) :
    key.path extension ≠ otherKey.path extension := by
  obtain ⟨module, isRoute⟩ := routes
  obtain ⟨hookModule, rfl⟩ := hooks
  exact fun same => isRoute.ne_interceptors hookModule
    (UnitKey.path_injective isRoute.package_eq same)

theorem path_ne_injectors (owns : processor.Owns key) (tables : processor ≠ .autowired)
    (injectors : Processor.autowired.Owns otherKey) (language : Language) :
    key.path language.extension ≠ otherKey.path language.extension := by
  obtain ⟨module, isTable⟩ := owns.isTable tables
  obtain ⟨owner, rfl⟩ := injectors
  exact isTable.path_ne_injector owner language.dollar_not_mem_extension

/-- Units of different processors go to different files. -/
theorem path_ne (owns : processor.Owns key) (otherOwns : other.Owns otherKey)
    (apart : processor ≠ other) (language : Language) :
    key.path language.extension ≠ otherKey.path language.extension := by
  cases processor with
  | route =>
      cases other with
      | route => exact absurd rfl apart
      | interceptor => exact path_ne_hooks owns otherOwns _
      | autowired => exact path_ne_injectors owns (by decide) otherOwns language
  | interceptor =>
      cases other with
      | route => exact (path_ne_hooks otherOwns owns _).symm
      | interceptor => exact absurd rfl apart
      | autowired => exact path_ne_injectors owns (by decide) otherOwns language
  | autowired =>
      cases other with
      | route => exact (path_ne_injectors otherOwns (by decide) owns language).symm
      | interceptor => exact (path_ne_injectors otherOwns (by decide) owns language).symm
      | autowired => exact absurd rfl apart

end Processor

end RouteAtlas
