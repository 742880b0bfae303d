/-! # Route kinds

What a routed class is, and where a class of that kind finds its parameters.
-/

namespace RouteAtlas

/-- What a routed class is. -/
inductive RouteKind where
  | screen
  | subScreen
  | service
  /-- An implementation of a capability that others look up. -/
  | provider
  | unknown
  deriving DecidableEq, Repr

namespace RouteKind

def runtimeName : RouteKind → String
  | .screen => "ACTIVITY"
  | .subScreen => "FRAGMENT"
  | .service => "SERVICE"
  | .provider => "PROVIDER"
  | .unknown => "UNKNOWN"

/-- Name of the kind in messages and documents. -/
def label : RouteKind → String
  | .screen => "activity"
  | .subScreen => "fragment"
  | .service => "service"
  | .provider => "provider"
  | .unknown => "unknown"

def listingName : RouteKind → String
  | .screen => "ScreenComponent"
  | .subScreen => "SubScreenComponent"
  | .service => "BackgroundService"
  | .provider => "CapabilityProvider"
  | .unknown => "Unknown"

def dataName : RouteKind → String
  | .screen => "screen_component"
  | .subScreen => "sub_screen_component"
  | .service => "background_service"
  | .provider => "capability_provider"
  | .unknown => "unknown"

end RouteKind

inductive ParamSource where
  /-- The extras of the intent that opened a screen. -/
  | intentExtras
  /-- The arguments of a part of a screen. -/
  | arguments
  deriving DecidableEq, Repr

namespace RouteKind

/-- Where a class of the kind finds its parameters. -/
def paramSource? : RouteKind → Option ParamSource
  | .screen => some .intentExtras
  | .subScreen => some .arguments
  | _ => none

def takesParameters (kind : RouteKind) : Bool :=
  kind.paramSource?.isSome

end RouteKind

end RouteAtlas
