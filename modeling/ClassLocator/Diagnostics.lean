import ClassLocator.Notice

/-!
# Diagnostics

Where log records go. Loggers form a tree by their names, which are parted by dots, below a root
without a name. A logger lets records through from some level on, its own one or that of the
nearest logger above it that has one. A record then comes to the handlers of its logger and, as far
up as loggers pass their records on, to those of the loggers above. Each handler takes the records
of certain levels. Where there are no handlers at all, one for warnings and worse stands in.

The program sets up one logger, and all loggers below it use its handlers. A logger is there from
the first time on that somebody asks for it by its name.

## Main definitions

* `Logger`, `Logger.configure`
* `Logger.route`: where a record goes on its way up to the root.
* `Logger.sinksFor`: where a record of any logger goes.
-/

namespace ClassLocator

inductive Sink where
  | output
  | errors
deriving DecidableEq, Repr

/-- A handler takes the records from `least` on and, if there is a bound, below it. -/
structure Handler where
  sink : Sink
  least : Level
  below : Option Level := none
deriving DecidableEq, Repr

def Handler.accepts (handler : Handler) (level : Level) : Bool :=
  handler.least.severity ≤ level.severity &&
    match handler.below with
    | some bound => level.severity < bound.severity
    | none => true

structure Logger where
  /-- The level of its own. Without one, that of the nearest logger above counts. -/
  least : Option Level := none
  handlers : List Handler := []
  /-- Whether the handlers above it get its records as well. -/
  propagates : Bool := true
deriving DecidableEq, Repr

namespace Logger

/-- The logger above all others. -/
def root : Logger where
  least := some .warning

def outputHandler : Handler := ⟨.output, .debug, some .warning⟩

def errorHandler : Handler := ⟨.errors, .warning, none⟩

/-- What takes the records that no handler gets. -/
def lastResort : Handler := ⟨.errors, .warning, none⟩

/-! ## Handlers -/

def removeHandler (logger : Logger) (handler : Handler) : Logger :=
  { logger with handlers := logger.handlers.erase handler }

def addHandler (logger : Logger) (handler : Handler) : Logger :=
  if handler ∈ logger.handlers then logger
  else { logger with handlers := logger.handlers ++ [handler] }

/-- Puts two handlers in the place of those that there are, and keeps the records from the loggers
above. -/
def configure (debug : Bool) (logger : Logger) : Logger :=
  let bare := logger.handlers.foldl removeHandler logger
  { (bare.addHandler outputHandler).addHandler errorHandler with
    least := some (if debug then .debug else .warning)
    propagates := false }

/-! ## Records -/

/-- Whether records of this level are let through, given the loggers from the one that gets them up
to the root. Levels from zero down count as switched off. -/
def letsThrough (lineage : List Logger) (level : Level) : Bool :=
  0 < level.severity &&
    (lineage.findSome? (·.least)).all fun least => least.severity ≤ level.severity

/-- The handlers to which a record comes on its way up. -/
def handlersAlong : List Logger → List Handler
  | [] => []
  | logger :: above => logger.handlers ++ if logger.propagates then handlersAlong above else []

/-- Where a record goes, given the loggers from the one that gets it up to the root. -/
def route (lineage : List Logger) (level : Level) : List Sink :=
  if letsThrough lineage level then
    let handlers := handlersAlong lineage
    let handlers := if handlers = [] then [lastResort] else handlers
    (handlers.filter (·.accepts level)).map (·.sink)
  else []

/-- Where a record of this level goes that the logger of the program gets. -/
def sinks (logger : Logger) (level : Level) : List Sink := route [logger, root] level

/-! ## The tree -/

/-- The names of the loggers above the one whose name is given from its end on, the nearest one
first. Only a logger that is there counts. They are looked for from dot to dot, and the character
right in front of a dot that leads to none is passed over, be it a dot as well. -/
def namesAbove (known : List Text) : Text → List Text
  | '.' :: c :: rest =>
    if known.contains (c :: rest).reverse then (c :: rest).reverse :: namesAbove known (c :: rest)
    else namesAbove known rest
  | _ :: rest => namesAbove known rest
  | [] => []

/-- The loggers from the one of this name upwards that are below the root, if those with the `known`
names are there. None of them but the one of the program is set up. -/
def lineage (logger : Logger) (program : Text) (known : List Text) (name : Text) : List Logger :=
  (name :: namesAbove (program :: known) name.reverse).map fun each =>
    if each = program then logger else {}

/-- Where a record goes that the logger `name` gets, if the one of the program is configured like
this and no other logger is configured. -/
def sinksFor (logger : Logger) (program : Text) (known : List Text) (name : Text) (level : Level) :
    List Sink :=
  route (logger.lineage program known name ++ [root]) level

/-- What a record adds to a sink. -/
def written (sinks : List Sink) (sink : Sink) (message : Text) : Text :=
  (sinks.filter (· = sink)).flatMap fun _ => message ++ ['\n']

end Logger

end ClassLocator
