import CodeReview.Json.Quoted
import CodeReview.Store.Error
set_option autoImplicit false

/-!
The definition of the tables of a new database, and what is reported when a file cannot take it.
-/
namespace CodeReview

/-- What can be wrong with the file of a database. -/
inductive FileFault where
  | readOnly
  | cannotOpen
  | notSynced
  deriving DecidableEq, Repr

namespace FileFault

def name : FileFault → String
  | .readOnly => "ReadOnly"
  | .cannotOpen => "CannotOpen"
  | .notSynced => "SystemIoFailure"

def number : FileFault → String
  | .readOnly => "8"
  | .cannotOpen => "14"
  | .notSynced => "1034"

def message : FileFault → String
  | .readOnly => "attempt to write a readonly database"
  | .cannotOpen => "unable to open database file"
  | .notSynced => "disk I/O error"

end FileFault

namespace Schema

def definition : List String := [
  "CREATE TABLE accounts (",
  "    id              INTEGER PRIMARY KEY,",
  "    username        TEXT UNIQUE,",
  "    full_name       TEXT,",
  "    preferred_email TEXT,",
  "    active          INTEGER NOT NULL DEFAULT 1,",
  "    registered_on   INTEGER NOT NULL DEFAULT 0",
  ");",
  "",
  "CREATE INDEX idx_accounts_email ON accounts (preferred_email COLLATE NOCASE);",
  "CREATE INDEX idx_accounts_full_name ON accounts (full_name);",
  "",
  "CREATE TABLE groups (",
  "    uuid             TEXT PRIMARY KEY,",
  "    id               INTEGER NOT NULL UNIQUE,",
  "    name             TEXT NOT NULL UNIQUE,",
  "    description      TEXT,",
  "    owner_group_uuid TEXT NOT NULL,",
  "    visible_to_all   INTEGER NOT NULL DEFAULT 0,",
  "    created_on       INTEGER NOT NULL DEFAULT 0",
  ");",
  "",
  "CREATE TABLE group_members (",
  "    group_uuid TEXT NOT NULL REFERENCES groups (uuid) ON DELETE CASCADE,",
  "    account_id INTEGER NOT NULL,",
  "    PRIMARY KEY (group_uuid, account_id)",
  ");",
  "",
  "CREATE INDEX idx_group_members_account ON group_members (account_id);",
  "",
  "CREATE TABLE changes (",
  "    id           INTEGER PRIMARY KEY,",
  "    change_key   TEXT NOT NULL,",
  "    current_meta TEXT NOT NULL",
  ");",
  "",
  "CREATE INDEX idx_changes_key ON changes (change_key);",
  "",
  "CREATE TABLE change_meta (",
  "    meta_id    TEXT NOT NULL,",
  "    change_id  INTEGER NOT NULL REFERENCES changes (id) ON DELETE CASCADE,",
  "    seq        INTEGER NOT NULL,",
  "    parent     TEXT,",
  "    state_json TEXT NOT NULL,",
  "    PRIMARY KEY (change_id, seq),",
  "    UNIQUE (change_id, meta_id)",
  ");"]

def text : String :=
  String.join (definition.map (· ++ "\n"))

/-- The report of a fault while a statement was carried out. -/
def failure (statement : String) (fault : FileFault) : StoreError :=
  .migration ("rusqlite_migrate error: RusqliteError \x7b query: "
    ++ String.ofList (Json.Quoted.encode statement) ++ ", err: SqliteFailure(Error \x7b code: "
    ++ fault.name ++ ", extended_code: " ++ fault.number ++ " \x7d, Some("
    ++ String.ofList (Json.Quoted.encode fault.message) ++ ")) \x7d")

/-- A file that does not take the definition. -/
def refused (fault : FileFault) : StoreError :=
  failure text fault

/-- A file that fails before the definition is given to it, or after it was. -/
def interrupted (fault : FileFault) : StoreError :=
  failure "" fault

end Schema

end CodeReview
