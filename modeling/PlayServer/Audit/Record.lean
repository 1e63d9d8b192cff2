import PlayServer.Text.Json

/-!
# Audit records

A record says who did what, from where, and how it ended. On file a record is one JSON line; its
details are left out when there are none. The instant of a record is no part of it here: whoever
prints a record supplies its text.
-/

namespace PlayServer

/-- What an audited action is about. -/
inductive AuditCategory where
  | authentication
  | accountManagement
  | characterManagement
  | gameSession
  | configuration
  | admin
  | security
  | network
  deriving DecidableEq, Repr, Inhabited

/-- How an audited action ended. -/
inductive AuditOutcome where
  | success
  | failure
  | warning
  | unauthorized
  deriving DecidableEq, Repr, Inhabited

/-- The name of a category in printed records. -/
def AuditCategory.label : AuditCategory → String
  | authentication => "AUTHENTICATION"
  | accountManagement => "ACCOUNT_MANAGEMENT"
  | characterManagement => "CHARACTER_MANAGEMENT"
  | gameSession => "GAME_SESSION"
  | configuration => "CONFIGURATION"
  | admin => "ADMIN"
  | security => "SECURITY"
  | network => "NETWORK"

/-- The name of an outcome in printed records. -/
def AuditOutcome.label : AuditOutcome → String
  | success => "SUCCESS"
  | failure => "FAILURE"
  | warning => "WARNING"
  | unauthorized => "UNAUTHORIZED"

/-- One audited action. -/
structure AuditRecord where
  /-- The login of who acted. -/
  actor : String
  /-- The address the action came from. -/
  source : String
  category : AuditCategory
  description : String
  outcome : AuditOutcome
  details : String := ""
  deriving DecidableEq, Repr, Inhabited

namespace AuditRecord

/-- The actor when nobody has logged in. -/
def unknownActor : String := "UNKNOWN"

/-- The actor when the server itself acts. -/
def systemActor : String := "SYSTEM"

/-- A record as a JSON object, with the text of its instant. -/
def toJson (r : AuditRecord) (instant : String) : Json :=
  .object <|
    [("timestamp", .string instant), ("actor", .string r.actor), ("source", .string r.source),
      ("category", .string r.category.label), ("description", .string r.description),
      ("outcome", .string r.outcome.label)] ++
    if r.details.isEmpty then [] else [("details", .string r.details)]

end AuditRecord

end PlayServer
