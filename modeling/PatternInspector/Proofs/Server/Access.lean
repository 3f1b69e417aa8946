import PatternInspector.Proofs.Text.Basic
import PatternInspector.Server.Auth

/-!
Who is let in where a token is asked for. A request can present the token in its authorization header
or in its query. A header with the mark of a token is the only one that counts, even if the token
behind the mark is wrong; so either way of presenting the token is enough, unless a wrong token in the
header hides the right one in the query. Nobody else reaches the app.
-/
namespace PatternInspector.Server

section Answers

variable {token : String} {request : Request}

/-- The app answers, whatever app it is. -/
def Forwards (token : String) (request : Request) : Prop :=
  ∀ app, guarded token app request = app request

/-- The same answer is given for every app, and it says that the request is not authorized. -/
def Refuses (token : String) (request : Request) : Prop :=
  ∃ answer, answer.status = 401 ∧ ∀ app, guarded token app request = answer

theorem forwards_iff : Forwards token request ↔ isAdmitted token request = true := by
  constructor
  · intro forwards
    by_contra refused
    have answered := forwards fun _ => ⟨200, .text "ok"⟩
    rw [guarded, if_neg refused] at answered
    exact absurd (congrArg Response.status answered) (by decide)
  · intro admitted app
    rw [guarded, if_pos admitted]

theorem refuses_of_not_admitted (refused : ¬ isAdmitted token request = true) :
    Refuses token request := by
  refine ⟨unauthorized, rfl, fun app => ?_⟩
  rw [guarded, if_neg refused]

end Answers

section Channels

variable {token header : String} {request : Request}

/-- The header is the mark and behind it the token, with any white space around. -/
def BearsToken (token header : String) : Prop :=
  ∃ left right, (∀ c ∈ left, Text.isBlank c = true) ∧ (∀ c ∈ right, Text.isBlank c = true) ∧
    header.toList = bearerMark.toList ++ (left ++ (token.toList ++ right))

def InHeader (token : String) (request : Request) : Prop :=
  ∃ header, request.header? "authorization" = some header ∧ BearsToken token header

def InQuery (token : String) (request : Request) : Prop :=
  request.parameter? "token" = some token

instance (token : String) (request : Request) : Decidable (InQuery token request) :=
  inferInstanceAs (Decidable (request.parameter? "token" = some token))

/-- The header has the mark, and the token behind it is another one. -/
def OtherInHeader (token : String) (request : Request) : Prop :=
  ∃ header, request.header? "authorization" = some header ∧
    bearerMark.toList <+: header.toList ∧ ¬ BearsToken token header

theorem bears_iff (trimmed : Text.strip token.toList = token.toList) {behind : Text}
    (marked : header.toList = bearerMark.toList ++ behind) :
    BearsToken token header ↔ Text.strip behind = token.toList := by
  rw [Text.strip_eq_iff trimmed, BearsToken, marked]
  simp only [List.append_cancel_left_eq]

theorem presented_in_header (trimmed : Text.strip token.toList = token.toList)
    (given : request.header? "authorization" = some header)
    (marked : bearerMark.toList <+: header.toList) :
    presentedToken request = token ↔ BearsToken token header := by
  obtain ⟨behind, shape⟩ := marked
  have starts : bearerMark.toList.isPrefixOf header.toList = true :=
    List.isPrefixOf_iff_prefix.mpr ⟨behind, shape⟩
  have dropped : header.toList.drop bearerMark.length = behind := by
    rw [← shape, ← String.length_toList, List.drop_left]
  have presented : presentedToken request = String.ofList (Text.strip behind) := by
    simp only [presentedToken, given, Option.getD_some, starts, if_true, dropped]
  rw [bears_iff trimmed shape.symm, presented, ← String.toList_inj, String.toList_ofList]

-- Without a marked header, a missing parameter counts as an empty token, which is none.
theorem presented_in_query (set : token ≠ "")
    (unmarked : ¬ bearerMark.toList <+: ((request.header? "authorization").getD "").toList) :
    presentedToken request = token ↔ InQuery token request := by
  have starts : bearerMark.toList.isPrefixOf
      ((request.header? "authorization").getD "").toList = false := by
    rwa [← Bool.not_eq_true, List.isPrefixOf_iff_prefix]
  have presented : presentedToken request = (request.parameter? "token").getD "" := by
    simp only [presentedToken, starts, Bool.false_eq_true, if_false]
  rw [presented, InQuery]
  cases request.parameter? "token" with
  | none => simpa using set.symm
  | some value => simp

end Channels

section Admission

variable {token : String} {request : Request}

theorem admitted_elsewhere (set : token ≠ "") (elsewhere : request.urlPath ≠ healthPath) :
    isAdmitted token request = true ↔ presentedToken request = token := by
  simp [isAdmitted, openPaths, set, elsewhere]

theorem other_excludes (other : OtherInHeader token request) : ¬ InHeader token request := by
  rintro ⟨header, given, bears⟩
  obtain ⟨header', given', -, lacks⟩ := other
  obtain rfl := Option.some.inj (given.symm.trans given')
  exact lacks bears

theorem in_header_marked (given : InHeader token request) :
    bearerMark.toList <+: ((request.header? "authorization").getD "").toList := by
  obtain ⟨header, given, left, right, -, -, shape⟩ := given
  rw [given, Option.getD_some, shape]
  exact List.prefix_append _ _

theorem other_marked (other : OtherInHeader token request) :
    bearerMark.toList <+: ((request.header? "authorization").getD "").toList := by
  obtain ⟨header, given, marked, -⟩ := other
  rwa [given, Option.getD_some]

theorem marked_header
    (marked : bearerMark.toList <+: ((request.header? "authorization").getD "").toList) :
    ∃ header, request.header? "authorization" = some header ∧
      bearerMark.toList <+: header.toList := by
  cases given : request.header? "authorization" with
  | none =>
      rw [given] at marked
      exact absurd marked (by decide)
  | some header =>
      rw [given] at marked
      exact ⟨header, rfl, marked⟩

theorem admitted_iff (set : token ≠ "") (trimmed : Text.strip token.toList = token.toList)
    (elsewhere : request.urlPath ≠ healthPath) :
    isAdmitted token request = true ↔
      InHeader token request ∨ (InQuery token request ∧ ¬ OtherInHeader token request) := by
  rw [admitted_elsewhere set elsewhere]
  by_cases marked : bearerMark.toList <+: ((request.header? "authorization").getD "").toList
  · obtain ⟨header, given, marked⟩ := marked_header marked
    rw [presented_in_header trimmed given marked]
    constructor
    · intro bears
      exact .inl ⟨header, given, bears⟩
    · rintro (⟨header', given', bears⟩ | ⟨-, noOther⟩)
      · obtain rfl := Option.some.inj (given.symm.trans given')
        exact bears
      · by_contra lacks
        exact noOther ⟨header, given, marked, lacks⟩
  · rw [presented_in_query set marked]
    constructor
    · intro inQuery
      exact .inr ⟨inQuery, fun other => marked (other_marked other)⟩
    · rintro (inHeader | ⟨inQuery, -⟩)
      · exact absurd (in_header_marked inHeader) marked
      · exact inQuery

/-- Where a token is asked for, a request reaches the app exactly if its header bears the token, or if
its query has the token and its header bears no other one. Every other request is answered with a
refusal that no app has a part in. So either channel is enough, except that a wrong token in the header
is not made good by the right one in the query. -/
theorem access_by_token (token : String) (request : Request) (set : token ≠ "")
    (trimmed : Text.strip token.toList = token.toList)
    (elsewhere : request.urlPath ≠ healthPath) :
    (Forwards token request ↔
      InHeader token request ∨ (InQuery token request ∧ ¬ OtherInHeader token request)) ∧
    (¬ Forwards token request → Refuses token request) ∧
    ((Forwards token request ↔ InHeader token request ∨ InQuery token request) ↔
      ¬ (InQuery token request ∧ OtherInHeader token request)) := by
  have admitted := admitted_iff set trimmed elsewhere
  rw [forwards_iff, admitted]
  constructor
  · exact Iff.rfl
  constructor
  · intro refused
    rw [← admitted] at refused
    exact refuses_of_not_admitted refused
  constructor
  · rintro either ⟨inQuery, other⟩
    rcases either.mpr (.inr inQuery) with inHeader | ⟨-, noOther⟩
    · exact other_excludes other inHeader
    · exact noOther other
  · intro apart
    constructor
    · exact Or.imp_right And.left
    · exact Or.imp_right fun inQuery => ⟨inQuery, fun other => apart ⟨inQuery, other⟩⟩

def paddedRequest : Request where
  path := "/mcp"
  query := "token=other"
  headers := [("Authorization", "Bearer   secret ")]

theorem padded_request_forwarded :
    "secret" ≠ "" ∧ Text.strip "secret".toList = "secret".toList ∧
      paddedRequest.urlPath ≠ healthPath ∧ ¬ InQuery "secret" paddedRequest ∧
      Forwards "secret" paddedRequest := by
  have set : "secret" ≠ "" := by decide
  have trimmed : Text.strip "secret".toList = "secret".toList := by decide
  have elsewhere : paddedRequest.urlPath ≠ healthPath := by decide
  refine ⟨set, trimmed, elsewhere, by decide, ?_⟩
  refine (access_by_token "secret" paddedRequest set trimmed elsewhere).1.mpr (.inl ?_)
  exact ⟨"Bearer   secret ", by decide, "  ".toList, " ".toList, Text.each_of_all (by decide),
    Text.each_of_all (by decide), by decide⟩

def hiddenRequest : Request where
  path := "/mcp"
  query := "token=secret"
  headers := [("Authorization", "Bearer wrong")]

theorem right_query_refused :
    InQuery "secret" hiddenRequest ∧ hiddenRequest.urlPath ≠ healthPath ∧
      ¬ (Forwards "secret" hiddenRequest ↔
        InHeader "secret" hiddenRequest ∨ InQuery "secret" hiddenRequest) ∧
      Refuses "secret" hiddenRequest := by
  have inQuery : InQuery "secret" hiddenRequest := by decide
  have refused : ¬ isAdmitted "secret" hiddenRequest = true := by decide
  refine ⟨inQuery, by decide, fun either => ?_, refuses_of_not_admitted refused⟩
  exact refused (forwards_iff.mp (either.mpr (.inr inQuery)))

end Admission

end PatternInspector.Server
