import Tablewright.Store.Error

/-! Reports: what became of each item of a run, in the order in which they were dealt with.
-/

namespace Tablewright

/-- The kinds of items that a run deals with.
-/
inductive ItemKind
  | solution
  | table
  | column
  | relationship
  | component
  deriving DecidableEq, Repr

/-- The name of a kind.
-/
def ItemKind.name : ItemKind → String
  | solution => "solution"
  | table => "table"
  | column => "column"
  | relationship => "relationship"
  | component => "component"

/-- What an item lacks that it depends on.
-/
inductive Obstacle
  | noTable (table : String)
  | noSolution
  | noLookup (column : String)
  | noTableId (table : String)
  deriving DecidableEq, Repr

/-- The wording of an obstacle.
-/
def Obstacle.message : Obstacle → String
  | noTable table => "table " ++ table ++ " is unavailable"
  | noSolution => "solution is unavailable"
  | noLookup column => "lookup " ++ column ++ " is not compiled"
  | noTableId table => "table " ++ table ++ " has no metadata id"

/-- What became of an item: it was made, was there before, could not be made, or was not tried
because something it depends on is missing.
-/
inductive Outcome
  | created
  | skipped
  | failed (cause : StoreError)
  | blocked (obstacle : Obstacle)
  deriving DecidableEq, Repr

namespace Outcome

/-- The item is there now.
-/
def isPresent : Outcome → Bool
  | created => true
  | skipped => true
  | _ => false

/-- The item could not be made.
-/
def isFailed : Outcome → Bool
  | failed _ => true
  | _ => false

/-- The item was not tried.
-/
def isBlocked : Outcome → Bool
  | blocked _ => true
  | _ => false

end Outcome

/-- An item and what became of it.
-/
structure ReportItem where
  kind : ItemKind
  name : String
  outcome : Outcome
  deriving DecidableEq, Repr

/-- The items of a run.
-/
structure Report where
  items : List ReportItem
  deriving DecidableEq, Repr

namespace Report

/-- The number of items with an outcome of some sort.
-/
def count (report : Report) (test : Outcome → Bool) : Nat :=
  report.items.countP fun item => test item.outcome

/-- The number of items that were made.
-/
def created (report : Report) : Nat :=
  report.count (· == .created)

/-- The number of items that were there before.
-/
def skipped (report : Report) : Nat :=
  report.count (· == .skipped)

/-- The number of items that could not be made.
-/
def failed (report : Report) : Nat :=
  report.count Outcome.isFailed

/-- The number of items that were not tried.
-/
def blocked (report : Report) : Nat :=
  report.count Outcome.isBlocked

/-- Every item is there.
-/
def isClean (report : Report) : Bool :=
  report.failed == 0 && report.blocked == 0

/-- What became of the first item of a kind and a name.
-/
def outcome? (report : Report) (kind : ItemKind) (name : String) : Option Outcome :=
  (report.items.find? fun item => item.kind == kind && item.name == name).map (·.outcome)

/-- The items of a kind.
-/
def itemsOf (report : Report) (kind : ItemKind) : List ReportItem :=
  report.items.filter fun item => item.kind == kind

/-- The numbers of a report in one line.
-/
def summary (report : Report) : String :=
  toString report.created ++ " created, " ++ toString report.skipped ++ " skipped, "
    ++ toString report.failed ++ " failed, " ++ toString report.blocked ++ " blocked"

end Report

end Tablewright
