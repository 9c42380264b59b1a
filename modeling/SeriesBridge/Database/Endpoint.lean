import SeriesBridge.Error
import SeriesBridge.Text.Escaped
import SeriesBridge.Url.Basic

/-! # Endpoints

Where a database is reached: the host and port of its web interface, and what the address names
besides them.

* **`Endpoint.read raw`** — the endpoint of a connection address such as
  `jdbc:TAOS://host:port/db?user=root`.
* **`Endpoint.base e`** — the address of the web interface.
* **`Endpoint.display e`** — the endpoint as it is shown, without user and password.
* **`Credentials.resolve`** — the user and the password to present. -/

namespace SeriesBridge

/-- **Where a database is reached.** -/
structure Endpoint where
  /-- Whether the web interface is reached over a secured connection. -/
  secure : Bool
  host : String
  port : Nat
  database : Option String := none
  user : Option String := none
  password : Option String := none
  deriving DecidableEq, Repr

namespace Endpoint

/-- The port of a web interface when nothing names one. -/
def standardPort : Nat := 6041

/-- The port of a web server when its address names none. -/
def webPort (secure : Bool) : Nat := if secure then 443 else 80

/-- The schemes of connection addresses. -/
def schemes : List String := ["taos", "taos-rs", "taos-ws", "taos+http", "http", "https"]

/-- Remove the mark of a driver address from the front, in any case. -/
def dropDriverMark (s : List Char) : List Char :=
  if Text.lower (s.take 5) == "jdbc:".toList then s.drop 5 else s

/-- Slashes at both ends of a path. -/
def trimSlashes (s : List Char) : List Char :=
  Text.dropEndWhile (· == '/') (s.dropWhile (· == '/'))

/-- The last value of a name. -/
def lastValue (name : String) (pairs : List (List Char × List Char)) : Option String :=
  (pairs.reverse.find? (fun p => p.1 == name.toList)).map (fun p => String.ofList p.2)

/-- The error of a connection address. -/
def refused (raw reason : String) : Error :=
  .configuration ("invalid connection url '" ++ raw ++ "': " ++ reason)

/-- **The endpoint of the text behind a scheme.** The schemes that are not web schemes have no port
of their own. -/
def ofAddress (raw scheme : String) (rest : List Char) : Outcome Endpoint :=
  let web := scheme == "http" || scheme == "https"
  let secure := scheme == "https"
  let ownPort := if web then some (webPort secure) else none
  match Url.readAddress web ownPort (Url.clean rest) with
  | .error fault => .error (refused raw fault.message)
  | .ok address =>
      if address.host.isEmpty then
        .error (.configuration ("connection url '" ++ raw ++ "' has no host"))
      else
        match Url.readWebHost address.host with
        | .error fault => .error (refused raw fault.message)
        | .ok host =>
            let database := trimSlashes address.path
            let query := Url.readForm (address.query.getD [])
            .ok
              { secure, host := String.ofList host
                port := (address.port.or ownPort).getD standardPort
                database := if database.isEmpty then none else some (String.ofList database)
                user := lastValue "user" query
                password := lastValue "password" query }

/-- **The endpoint of a connection address:** a scheme, perhaps behind the mark of a driver
address, two slashes and an address. Blanks at the ends do not count. -/
def read (raw : String) : Outcome Endpoint :=
  match Text.splitFirst "://".toList (dropDriverMark (Text.trim raw.toList)) with
  | none => .error (refused raw "expected jdbc:TAOS://host:port")
  | some (scheme, rest) =>
      let scheme := String.ofList (Text.lower scheme)
      if schemes.contains scheme then ofAddress raw scheme rest
      else
        .error (.configuration
          ("unsupported connection url prefix '" ++ scheme ++ "' in '" ++ raw ++ "'"))

/-- The address of the web interface without the slash at its end; a port that the scheme has
anyway is left out. -/
def origin (e : Endpoint) : String :=
  (if e.secure then "https://" else "http://") ++ e.host ++
    (if e.port = webPort e.secure then "" else ":" ++ String.ofList (Text.showNat e.port))

/-- The address of the web interface. -/
def base (e : Endpoint) : String := e.origin ++ "/"

/-- **The endpoint as it is shown:** the web interface and the database. User and password stay out
of what is shown. -/
def display (e : Endpoint) : String :=
  match e.database with
  | some name => e.origin ++ "/" ++ name
  | none => e.origin

end Endpoint

/-! ## Credentials -/

/-- The user and the password that a database asks for. -/
structure Credentials where
  user : String := "root"
  password : String := "taosdata"
  deriving DecidableEq, Repr, Inhabited

namespace Credentials

/-- **The credentials to present.** What is given explicitly comes before what the endpoint names,
and that before the user and the password that a database starts with. -/
def resolve (e : Endpoint) (user password : Option String) : Credentials :=
  { user := (user.or e.user).getD ({} : Credentials).user
    password := (password.or e.password).getD ({} : Credentials).password }

/-- Credentials as they are shown, without the password. -/
def describe (c : Credentials) : String :=
  "Credentials \x7b user: " ++ String.ofList (Text.quoted c.user.toList) ++
    ", password: \"***\" \x7d"

end Credentials

end SeriesBridge
