/-
# Connection settings

Where a document store is reached.  Read from JSON, every key may be missing and then has its
default; keys are written with hyphens, `poolsize` is another name of `pool-size`, and other keys
are passed over.  The settings may also be given as an array, in order.
-/
import Dossier.Json.Basic

namespace Dossier

structure ConnectionSettings where
  uri : String := "mongodb://localhost:27017"
  database : String := "docmap"
  /-- Most connections that are kept open, a number of 32 bits. -/
  poolSize : Nat := 10
  /-- Seconds to wait for a connection, a number of 64 bits. -/
  connectionTimeout : Nat := 10
deriving DecidableEq, Inhabited

namespace ConnectionSettings

/-- The settings whose parts are given where they are not missing. -/
def ofParts? (uri database poolSize timeout : Option Json) : Option ConnectionSettings := do
  let standard : ConnectionSettings := {}
  let uri ← Json.partOr standard.uri Json.asString? uri
  let database ← Json.partOr standard.database Json.asString? database
  let poolSize ← Json.partOr standard.poolSize (Json.asNat? UInt32.size) poolSize
  let timeout ← Json.partOr standard.connectionTimeout (Json.asNat? UInt64.size) timeout
  some ⟨uri, database, poolSize, timeout⟩

def ofJson? : Json → Option ConnectionSettings
  | .object members =>
    match Json.member? members "pool-size", Json.member? members "poolsize" with
    | some _, some _ => none
    | size, other =>
      ofParts? (Json.member? members "uri") (Json.member? members "database") (size <|> other)
        (Json.member? members "connection-timeout")
  | .array items =>
    if items.length ≤ 4 then ofParts? items[0]? items[1]? items[2]? items[3]? else none
  | _ => none

def toJson (s : ConnectionSettings) : Json :=
  .object [("uri", .string s.uri), ("database", .string s.database),
    ("pool-size", .whole s.poolSize), ("connection-timeout", .whole s.connectionTimeout)]

def timeoutMillis (s : ConnectionSettings) : Nat := s.connectionTimeout * 1000

end ConnectionSettings

end Dossier
