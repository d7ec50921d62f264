/-!
# Display settings

What a run looks for and what it shows of each match.
-/

namespace ClassLocator

structure Display where
  showMethods : Bool := false
  /-- Shows private methods as well; this one listing takes the place of the public one. -/
  showPrivateMethods : Bool := false
  showPath : Bool := true
  showPackage : Bool := true
  /-- Looks for sources and ends with the first one. -/
  sourceMode : Bool := false
  /-- Leaves the class path alone. -/
  runtimeOnly : Bool := false
  debug : Bool := false
deriving DecidableEq, Repr

def Display.listsMethods (display : Display) : Bool :=
  display.showMethods || display.showPrivateMethods

end ClassLocator
