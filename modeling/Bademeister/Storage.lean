import Mathlib.Tactic.IntervalCases
import Bademeister.Basic

/-! `storage.NewStorage` against what lies at its path, with the SQLite database seen as its tables
and the `version` cells of `config`. -/

namespace Bademeister

def currentVersion : Int := 5

inductive Table where
  | config
  | transaction
  | block
  | transactionBlock
  deriving Repr, DecidableEq

def Table.name : Table → String
  | .config => "config"
  | .transaction => "transaction"
  | .block => "block"
  | .transactionBlock => "transaction_block"

def allTables : List Table := [.config, .transaction, .block, .transactionBlock]

/-- A `version` cell as `Scan` into an `int` meets it: an integer, or a value it cannot convert
(NULL, text that is not a number), with the error `Scan` returns. -/
inductive VersionCell where
  | integer (value : Int)
  | unconvertible (err : String)
  deriving Repr, DecidableEq

/-- The tables that exist, and the `version` cells of `config`'s rows in the order `SELECT`
returns them (`none` when `config` has no `version` column). -/
structure Database where
  tables : List Table
  versions : Option (List VersionCell)
  deriving Repr, DecidableEq

def emptyDatabase : Database := ⟨[], none⟩

/-- The schema the daemon needs: every table, and a `config` row at the current version. -/
def Database.Complete (db : Database) : Prop :=
  (∀ table ∈ allTables, table ∈ db.tables) ∧ .integer currentVersion ∈ db.versions.getD []

instance (db : Database) : Decidable db.Complete :=
  inferInstanceAs (Decidable (_ ∧ _))

inductive Statement where
  | createTable (table : Table)
  | insertVersion (version : Int)
  deriving Repr, DecidableEq

/-- SQLite running one statement; a failed statement changes nothing. -/
def sqliteExec (db : Database) : Statement → Except String Database
  | .createTable table =>
    if table ∈ db.tables then .error ("table " ++ table.name ++ " already exists")
    else .ok { tables := db.tables ++ [table],
               versions := if table = .config then some [] else db.versions }
  | .insertVersion version =>
    if Table.config ∈ db.tables then
      match db.versions with
      | some cells => .ok { db with versions := some (cells ++ [.integer version]) }
      | none => .error "table config has no column named version"
    else .error "no such table: config"

/-- `db.Exec`. Besides SQLite's own errors the environment can fail any statement (a full
disk, an I/O error); `fault` says which, and a failed statement has no effect. -/
def exec (fault : Statement → Option String) (db : Database) (statement : Statement) :
    Except String Database :=
  match fault statement with
  | some err => .error err
  | none => sqliteExec db statement

def initializeSteps (version : Int) : List (Statement × String) :=
  [(.createTable .config, "could not create the `config` table: "),
   (.insertVersion version, "could not fill the `config` table: "),
   (.createTable .transaction, "could not create the table `transaction`: "),
   (.createTable .block, "could not create the table `block`: "),
   (.createTable .transactionBlock, "could not create the table `transaction_block`: ")]

def runSteps (fault : Statement → Option String) :
    List (Statement × String) → Database → Database × Option String
  | [], db => (db, none)
  | (statement, context) :: rest, db =>
    match exec fault db statement with
    | .error err => (db, some (context ++ err))
    | .ok next => runSteps fault rest next

def initializeSchema (fault : Statement → Option String) (version : Int) (db : Database) :
    Database × Option String :=
  runSteps fault (initializeSteps version) db

/-- `Storage.getVersion` on the file as SQLite opens it: `SELECT version FROM config` and the
first row scanned into an `int`. It panics on every error of `QueryRow` and `Scan`. -/
def getVersion : Except String Database → Outcome Int
  | .error err => .panic err
  | .ok db =>
    if Table.config ∈ db.tables then
      match db.versions with
      | none => .panic "no such column: version"
      | some [] => .panic "sql: no rows in result set"
      | some (.integer version :: _) => .ok version
      | some (.unconvertible err :: _) => .panic err
    else .panic "no such table: config"

def migrate (fromVersion : Int) : Except String Unit :=
  if fromVersion = currentVersion then .ok ()
  else .error ("cannot migrate from version " ++ toString fromVersion)

/-- What lies at the path before `NewStorage`: no file, where one can be created; no file, and
opening one fails with `err` (under a missing directory); a path `os.Stat` fails on; a file
SQLite cannot open or read; a database. -/
inductive PathState where
  | missing
  | uncreatable (err : String)
  | unreadable (err : String)
  | unusable (err : String)
  | database (db : Database)
  deriving Repr, DecidableEq

def openExisting (opened : Except String Database) : Outcome Unit :=
  match getVersion opened with
  | .ok version =>
    match migrate version with
    | .error err => .error ("could not migrate the database: " ++ err)
    | .ok () => .ok ()
  | .error err => .error err
  | .panic message => .panic message

/-- `NewStorage`: its outcome and what it leaves at the path. `sql.Open` only records the path;
the first `Exec` opens the file, creating it as an empty database. -/
def newStorage (fault : Statement → Option String) (path : String) :
    PathState → Outcome Unit × PathState
  | .unreadable err => (.error err, .unreadable err)
  | .uncreatable err =>
    (.error ("could not initialize the database at path " ++ path ++
      ": could not create the `config` table: " ++ err), .uncreatable err)
  | .missing =>
    match initializeSchema fault currentVersion emptyDatabase with
    | (db, some err) =>
      (.error ("could not initialize the database at path " ++ path ++ ": " ++ err), .database db)
    | (db, none) => (.ok (), .database db)
  | .unusable err => (openExisting (.error err), .unusable err)
  | .database db => (openExisting (.ok db), .database db)

/-- The database `initialize` leaves on an empty file after its first `count` statements. -/
def partialSchema (count : Nat) : Database :=
  (runSteps (fun _ => none) ((initializeSteps currentVersion).take count) emptyDatabase).1

def failAt (statement : Statement) : Statement → Option String :=
  fun other => if other = statement then some "disk I/O error" else none

theorem newStorage_partial_schema (path : String) (fault : Statement → Option String) :
    (∀ count < 5, ∃ statement message,
      newStorage (failAt statement) path .missing = (.error message, .database (partialSchema count))) ∧
    (newStorage fault path (.database (partialSchema 0))).1 = .panic "no such table: config" ∧
    (newStorage fault path (.database (partialSchema 1))).1 = .panic "sql: no rows in result set" ∧
    ∀ count, 2 ≤ count → count < 5 →
      (newStorage fault path (.database (partialSchema count))).1 = .ok () ∧
        ¬ (partialSchema count).Complete := by
  refine ⟨fun count bound => ?_, rfl, rfl, fun count lower upper => ?_⟩
  · interval_cases count
    exacts [⟨.createTable .config, _, rfl⟩, ⟨.insertVersion currentVersion, _, rfl⟩,
      ⟨.createTable .transaction, _, rfl⟩, ⟨.createTable .block, _, rfl⟩,
      ⟨.createTable .transactionBlock, _, rfl⟩]
  · interval_cases count <;> exact ⟨rfl, by decide⟩

end Bademeister
