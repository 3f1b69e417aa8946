import PatternInspector.Server.Http

/-!
Requests have to present a token: after the word `Bearer` in a header, or else as a parameter of
the query. Without a configured token every request passes, and questions about health always do.
-/
namespace PatternInspector.Server

def bearerMark : String := "Bearer "

def openPaths : List String := [healthPath]

/-- The token of a request. A header with the mark is preferred even if its token is empty. -/
def presentedToken (request : Request) : String :=
  let header := ((request.header? "authorization").getD "").toList
  if bearerMark.toList.isPrefixOf header then
    String.ofList (Text.strip (header.drop bearerMark.length))
  else (request.parameter? "token").getD ""

def isAdmitted (token : String) (request : Request) : Bool :=
  token.isEmpty || openPaths.contains request.urlPath || presentedToken request == token

def unauthorized : Response := ⟨401, .data (.object [
  ("error", .string "Unauthorized"),
  ("message", .string "Invalid or missing token")])⟩

/-- The app behind a check of the token. -/
def guarded (token : String) (app : App) : App := fun request =>
  if isAdmitted token request then app request else unauthorized

end PatternInspector.Server
