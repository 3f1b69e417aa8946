import PatternInspector.Text.Hex
import PatternInspector.Text.Utf8
import PatternInspector.Inspection.Service

/-!
Requests and responses, the parameters in a query, and the answer to a question about health.
-/
namespace PatternInspector.Server

section Queries

/-- Bytes of a text in which some are written as a percent sign and two digits. -/
def percentBytes : Text → List UInt8
  | '%' :: high :: low :: rest =>
      match Text.hexNumber? [high, low] with
      | some byte => UInt8.ofNat byte :: percentBytes rest
      | none => '%'.toNat.toUInt8 :: percentBytes (high :: low :: rest)
  | c :: rest => UInt8.ofNat c.toNat :: percentBytes rest
  | [] => []

/-- The text cut before and after its parts of ASCII characters. -/
def asciiRuns : Text → List (Bool × Text)
  | [] => []
  | c :: rest =>
      let isAscii := c.toNat < 0x80
      match asciiRuns rest with
      | (kind, run) :: others =>
          if kind == isAscii then (kind, c :: run) :: others
          else (isAscii, [c]) :: (kind, run) :: others
      | [] => [(isAscii, [c])]

/-- A name or value of a query: plus signs are blanks, and bytes are written in digits. -/
def decodeParameter (text : Text) : String :=
  let blanks := text.map fun c => if c == '+' then ' ' else c
  String.ofList ((asciiRuns blanks).flatMap fun run =>
    if run.1 then Utf8.decodeLossy (percentBytes run.2) else run.2)

/-- Names and values in a query; a name without a value has an empty one. -/
def parameters (query : String) : List (String × String) :=
  ((query.toList.splitOn '&').filter fun part => !part.isEmpty).map fun part =>
    let name := part.takeWhile (· != '=')
    (decodeParameter name, decodeParameter ((part.drop name.length).drop 1))

/-- The value of a parameter, the last one if it is given several times. -/
def parameterIn? (query name : String) : Option String :=
  ((parameters query).reverse.find? fun entry => entry.1 == name).map (·.2)

end Queries

section Messages

def headerIn? (headers : List (String × String)) (name : String) : Option String :=
  (headers.find? fun entry => lowerString entry.1 == name).map (·.2)

/-- The path of an address, given what stands before the path. All is read together, without control
characters: the host ends at the first slash, and the path at a query or a fragment. -/
def addressPath (host path : String) : String :=
  let address := (host ++ path).toList.filter fun c => c != '\t' && c != '\r' && c != '\n'
  let behind := address.dropWhile fun c => c != '/' && c != '?' && c != '#'
  String.ofList (behind.takeWhile fun c => c != '?' && c != '#')

/-- A request. What it is asked for has fields of its own, which its parts fill in by default. -/
structure Request where
  method : String := "GET"
  path : String := "/"
  query : String := ""
  headers : List (String × String) := []
  urlPath : String := addressPath ((headerIn? headers "host").getD "") path
  header? : String → Option String := headerIn? headers
  parameter? : String → Option String := parameterIn? query

inductive Body where
  | text (content : String)
  | data (content : Value)

structure Response where
  status : Nat
  body : Body

abbrev App := Request → Response

end Messages

section Health

def healthPath : String := "/health"

def healthAnswer (service : Inspection.Service) : Value := .object [
  ("status", .string "ok"),
  ("validators", .object [
    ("typescript", .bool true),
    ("java", .bool service.java.isSome),
    ("vue", .bool service.vue.isSome)])]

/-- Answers about health and nothing else. A slash at the end of the path leads to the path
without it. -/
def healthApp (service : Inspection.Service) : App := fun request =>
  if request.path == healthPath then
    if request.method == "GET" || request.method == "HEAD" then ⟨200, .data (healthAnswer service)⟩
    else ⟨405, .text "Method Not Allowed"⟩
  else if request.path == healthPath ++ "/" then ⟨307, .text ""⟩
  else ⟨404, .text "Not Found"⟩

end Health

end PatternInspector.Server
