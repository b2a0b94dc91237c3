/-
# The client

The client turns calls into messages.  It goes round its hosts, one message each; it adds the
parameters to the address, puts what is sent along into words, and says who it is.
-/
import SearchIndex.Service.Address
import SearchIndex.Service.Call
import SearchIndex.Settings

namespace SearchIndex

/-- What a message carries. -/
structure Body where
  /-- The kind of content. -/
  type : String
  /-- The content. -/
  text : String
deriving DecidableEq

/-- A message to a host. -/
structure Message where
  /-- The method, in capitals. -/
  method : String
  /-- The scheme and authority of the host. -/
  host : String
  /-- The path. -/
  path : String
  /-- The names and values of the query. -/
  query : List (String × String)
  /-- What the message carries, if anything. -/
  body : Option Body
  /-- Who sends it. -/
  authorization : Option String
deriving DecidableEq

/-! ## Parameters -/

/-- The value of a parameter in an address. -/
def parameterText : Json → String
  | .bool true => "true"
  | .bool false => "false"
  | .null => ""
  | j => j.display

/-- The names and values of parameters; a list repeats its name. -/
def parameterPairs (params : Json.Members) : List (String × String) :=
  params.flatMap fun (name, j) =>
    match j with
    | .list items => items.map fun item => (name, parameterText item)
    | _ => [(name, parameterText j)]

/-! ## Content -/

/-- The type of JSON content. -/
def jsonType : String := "application/json"

/-- The type of lines of JSON. -/
def linesType : String := "application/x-ndjson"

/-- JSON values as text, each ended by a line break. -/
def linesText (lines : List Json) : String :=
  String.join (lines.map fun line => line.spaced ++ "\n")

mutual

/-- All doubles in a value are finite. -/
def Json.isFinite : Json → Bool
  | .double (.finite ..) => true
  | .double _ => false
  | .list items => Json.areFinite items
  | .object members => Json.membersFinite members
  | _ => true

/-- All doubles in the items are finite. -/
def Json.areFinite : List Json → Bool
  | [] => true
  | j :: rest => j.isFinite && Json.areFinite rest

/-- All doubles in the members are finite. -/
def Json.membersFinite : List (String × Json) → Bool
  | [] => true
  | (_, j) :: rest => j.isFinite && Json.membersFinite rest

end

/-- The body of a message.  A JSON body holds finite numbers only; null is no body, and no lines are
none either. -/
def Content.body : Content → Except Misfit (Option Body)
  | .none => .ok Option.none
  | .json .null => .ok Option.none
  | .json j => if j.isFinite then .ok (some ⟨jsonType, j.compact⟩) else .error .unreadable
  | .lines items => .ok (if items.isEmpty then Option.none else some ⟨linesType, linesText items⟩)

/-! ## The client -/

/-- A client of the service. -/
structure Client where
  /-- The hosts, without slashes at the end. -/
  hosts : List String
  /-- Who the client says it is. -/
  authorization : Option String
  /-- Whether a user in an address counts less than that. -/
  isUser : Bool
  /-- How many calls have been made. -/
  calls : Nat
  /-- Whether the connection is open. -/
  isOpen : Bool

namespace Client

/-- A host without slashes at its end. -/
def trimHost (host : String) : String :=
  String.ofList (host.toList.reverse.dropWhile (· = '/')).reverse

/-- A client of some hosts, or of the default one if there are none. -/
def ofHosts (hosts : List String) : Client :=
  let hosts := if hosts.isEmpty then ServiceSettings.defaultHosts else hosts
  ⟨hosts.map trimHost, none, false, 0, true⟩

instance : Inhabited Client := ⟨ofHosts []⟩

/-- A user with a password, as the client says it. -/
def basic (user password : String) : String := "Basic " ++ Text.base64 (user ++ ":" ++ password)

/-- A setting, unless it is missing or empty. -/
def given? (setting : Option String) : Option String := setting.filter fun s => !s.isEmpty

/-- A client with the settings of the service.  A user with a password comes before a key; a key can
only be said in ASCII. -/
def ofSettings (s : ServiceSettings) : Except Misfit Client :=
  let client := ofHosts s.hosts
  let key := (given? s.apiKey).map ("ApiKey " ++ ·)
  if (key.getD "").toList.any fun c => 0x7F < c.toNat then .error .notAscii
  else
    match given? s.username, given? s.password with
    | some user, some password =>
      .ok { client with authorization := some (basic user password), isUser := true }
    | _, _ => .ok { client with authorization := key }

/-- The host whose turn it is. -/
def host (c : Client) : String := c.hosts.getD (c.calls % max 1 c.hosts.length) ""

/-- The message of a call. -/
def message (c : Client) (call : Call) : Except Misfit Message := do
  let address ← Address.read (c.host ++ call.path)
  let body ← call.content.body
  unless c.isOpen do throw .connectionClosed
  let user := if c.isUser then none else address.user.map fun (u, p) => basic u p
  return {
    method := String.ofList (call.method.toList.map Char.toUpper)
    host := address.host
    path := address.path
    query := (call.params.map parameterPairs).getD address.query
    body
    authorization := user.or c.authorization }

/-- The client after a call. -/
def afterCall (c : Client) : Client := { c with calls := c.calls + 1 }

/-- The client without its connection. -/
def close (c : Client) : Client := { c with isOpen := false }

end Client

end SearchIndex
