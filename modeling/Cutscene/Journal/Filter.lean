/-!
# What the journal keeps

Everything that happens is written down with a category and a level. A `Filter` says which of it is
kept: when it is on, what is at least of its level and in one of its categories.
-/

namespace Cutscene.Journal

/-- How much a record matters. -/
inductive Level where
  | trace
  | debug
  | info
  | warn
  | error
  deriving DecidableEq, Repr

namespace Level

/-- The rank of a level: the higher, the more it matters. -/
def rank : Level → Nat
  | trace => 0
  | debug => 1
  | info => 2
  | warn => 3
  | error => 4

/-- The name of a level. -/
def name : Level → String
  | trace => "Trace"
  | debug => "Debug"
  | info => "Info"
  | warn => "Warn"
  | error => "Error"

/-- The name of a level in a record. -/
def label : Level → String
  | trace => "TRACE"
  | debug => "DEBUG"
  | info => "INFO"
  | warn => "WARN"
  | error => "ERROR"

/-- Every level, from the least on. -/
def all : List Level :=
  [trace, debug, info, warn, error]

end Level

/-- What a record is about. -/
inductive Category where
  | engine
  | flow
  | flags
  | actors
  | ledger
  deriving DecidableEq, Repr

namespace Category

/-- The name of a category. -/
def name : Category → String
  | engine => "Engine"
  | flow => "Flow"
  | flags => "Flags"
  | actors => "Actors"
  | ledger => "Ledger"

/-- Where records of a category say that they come from. -/
def target : Category → String
  | engine => "budgetville::engine"
  | flow => "budgetville::flow"
  | flags => "budgetville::flags"
  | actors => "budgetville::actors"
  | ledger => "budgetville::ledger"

/-- Every category. -/
def all : List Category :=
  [engine, flow, flags, actors, ledger]

end Category

/-- Which records are kept. -/
structure Filter where
  enabled : Bool := false
  level : Level := .debug
  categories : List Category := [.engine, .flow]
  deriving DecidableEq, Repr

namespace Filter

/-- Keeps everything. -/
def verbose : Filter :=
  ⟨true, .trace, Category.all⟩

/-- Whether a record of a category and a level is kept. -/
def allows (f : Filter) (category : Category) (level : Level) : Bool :=
  f.enabled && decide (f.level.rank ≤ level.rank) && f.categories.contains category

end Filter

/-- A line of the journal. -/
structure Record where
  level : Level
  target : String
  message : String
  deriving DecidableEq, Repr

/-- The text of a line. -/
def Record.text (r : Record) : String :=
  r.level.label ++ " " ++ r.target ++ " " ++ r.message

/-- The record of a message, if the filter keeps it. -/
def Filter.record (f : Filter) (category : Category) (level : Level) (message : String) :
    Option Record :=
  if f.allows category level then some ⟨level, category.target, message⟩ else none

end Cutscene.Journal
