import CodeReview.AuthType
set_option autoImplicit false

/-!
The settings of a site, read from named variables. A variable that is not set leaves the default;
a number, a switch or a visibility may have blanks around it.
-/
namespace CodeReview

/-- Which accounts a caller can find. -/
inductive AccountVisibility where
  | all
  | sameGroup
  | none
  deriving DecidableEq, Repr

namespace AccountVisibility

def name : AccountVisibility → String
  | .all => "ALL"
  | .sameGroup => "SAME_GROUP"
  | .none => "NONE"

def parse (s : String) : Except String AccountVisibility :=
  if Text.sameFolded s "ALL" then .ok .all
  else if Text.sameFolded s "SAME_GROUP" then .ok .sameGroup
  else if Text.sameFolded s "NONE" then .ok .none
  else .error "expected ALL, SAME_GROUP or NONE"

end AccountVisibility

structure Settings where
  databasePath : String
  port : UInt16
  authType : AuthType
  accountVisibility : AccountVisibility
  adminGroup : String
  directoryUrl : Option String
  directoryTimeout : UInt64
  reportsChangeSize : Bool
  deriving DecidableEq, Repr

structure SettingsError where
  name : String
  value : String
  reason : String
  deriving DecidableEq, Repr

def SettingsError.message (e : SettingsError) : String :=
  "invalid value '" ++ e.value ++ "' for " ++ e.name ++ ": " ++ e.reason

namespace Settings

def default : Settings :=
  ⟨"critic.db", 3000, .http, .all, "Administrators", none, 10, true⟩

/-- The names of the variables, in the order in which they are read. -/
def names : List String :=
  ["CRITIC_DB_PATH", "CRITIC_PORT", "CRITIC_AUTH_TYPE", "CRITIC_ACCOUNT_VISIBILITY",
    "CRITIC_ADMIN_GROUP", "CRITIC_DIRECTORY_URL", "CRITIC_DIRECTORY_TIMEOUT_SECS",
    "CRITIC_PLUGIN_CHANGE_SIZE"]

def switch (s : String) : Except String Bool :=
  if s = "true" then .ok true
  else if s = "false" then .ok false
  else .error "provided string was not `true` or `false`"

def setting {α : Type} (lookup : String → Option String) (name : String) (default : α)
    (parse : String → Except String α) : Except SettingsError α :=
  match lookup name with
  | none => .ok default
  | some value => (parse value).mapError fun reason => ⟨name, value, reason⟩

def trimmed {α : Type} (parse : String → Except String α) (s : String) : Except String α :=
  parse (Text.trim s)

/-- Reads the variables in their order; the first bad one is reported. -/
def read (lookup : String → Option String) : Except SettingsError Settings := do
  let databasePath := (lookup "CRITIC_DB_PATH").getD default.databasePath
  let port ← setting lookup "CRITIC_PORT" default.port
    (trimmed fun s => (Text.Numeral.uint16? s).mapError Text.Numeral.Failure.message)
  let authType ← setting lookup "CRITIC_AUTH_TYPE" default.authType
    fun s => (AuthType.parse s).mapError InputError.message
  let accountVisibility ← setting lookup "CRITIC_ACCOUNT_VISIBILITY" default.accountVisibility
    (trimmed AccountVisibility.parse)
  let adminGroup := (lookup "CRITIC_ADMIN_GROUP").getD default.adminGroup
  let directoryUrl := (lookup "CRITIC_DIRECTORY_URL").filter (· ≠ "")
  let directoryTimeout ← setting lookup "CRITIC_DIRECTORY_TIMEOUT_SECS" default.directoryTimeout
    (trimmed fun s => (Text.Numeral.uint64? s).mapError Text.Numeral.Failure.message)
  let reportsChangeSize ← setting lookup "CRITIC_PLUGIN_CHANGE_SIZE" default.reportsChangeSize
    (trimmed switch)
  return ⟨databasePath, port, authType, accountVisibility, adminGroup, directoryUrl,
    directoryTimeout, reportsChangeSize⟩

end Settings

end CodeReview
