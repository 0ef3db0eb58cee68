import AddressIndex.Config.EnvFile
import AddressIndex.Text.Case

/-!
The environment of the service: variables that are set, and those that a file adds. A variable that
is set goes before the file, even if it is blank; a blank variable is as good as none.
-/

namespace AddressIndex

structure Environment where
  entries : List (String × String)
deriving DecidableEq, Repr

namespace Environment

def get? (env : Environment) (name : String) : Option String := env.entries.lookup name

/-- The value of a variable without blanks around it, if anything is left. -/
def value? (env : Environment) (name : String) : Option String :=
  match env.get? name with
  | some s =>
    let s := Text.trim s
    if s.isEmpty then none else some s
  | none => none

/-- Sets a variable that is not set. -/
def add (env : Environment) (name value : String) : Environment :=
  if (env.get? name).isSome then env else ⟨env.entries ++ [(name, value)]⟩

/-! ### The file -/

/-- Why a variable of a file cannot be set. -/
inductive FileFault where
  /-- The name or the value has a zero byte in it. -/
  | zeroByte
  /-- The name has an equals sign in it. -/
  | badName
deriving DecidableEq, Repr

def FileFault.message : FileFault → String
  | .zeroByte => "embedded null byte"
  | .badName => "illegal environment variable name"

/-- Sets a variable that a file adds, if it is not set. -/
def addFromFile (env : Environment) (binding : EnvFile.Binding) : Except FileFault Environment :=
  match binding.value with
  | none => pure env
  | some value =>
    if (env.get? binding.name).isSome then pure env
    else if binding.name.contains '\x00' || value.contains '\x00' then throw .zeroByte
    else if binding.name.contains '=' then throw .badName
    else pure (env.add binding.name value)

/-- The words that keep the file from being read. -/
def noFileWords : List String := ["1", "TRUE", "T", "YES", "Y"]

/-- Whether the file is to be read. -/
def readsFile (env : Environment) : Bool :=
  !(env.get? "PYTHON_DOTENV_DISABLED").any fun word => noFileWords.contains (Text.capitals word)

/-- The environment with what a file adds to it. -/
def withFile (env : Environment) (file : Option String) : Except FileFault Environment :=
  match file with
  | some file =>
    if env.readsFile then
      (EnvFile.resolve env.get? (EnvFile.bindings file)).foldlM addFromFile env
    else pure env
  | none => pure env

/-! ### Endpoints -/

/-- The node that anyone may ask. -/
def publicNode : String := "https://api.mainnet-beta.solana.com"

/-- The node of a provider, for a key. -/
def providerNode (key : String) : String := "https://mainnet.helius-rpc.com/?api-key=" ++ key

/-- The node to ask: the one that is set, or a provider's if there is a key for it, or else the
public one. -/
def nodeUrl (env : Environment) : String :=
  match env.value? "SOLANA_RPC_URL", env.value? "HELIUS_API_KEY" with
  | some url, _ => url
  | none, some key => providerNode key
  | none, none => publicNode

def defaultDatabaseFile : String := "indexer.db"

/-- The database to use: the one that is set, or else a file. -/
def databaseUrl (env : Environment) : String :=
  match env.value? "DATABASE_URL" with
  | some url => url
  | none => "sqlite:///" ++ (env.value? "INDEXER_DB_PATH").getD defaultDatabaseFile

end Environment

end AddressIndex
