import CycleLog.Page.Wire
import CycleLog.Url

/-!
# Sending blocks to a page

Blocks are put at the end of the configured page by one request. `request?` gives that request, or
nothing when the address is none or too long, or a header cannot hold its text. An answer outside of the two
hundreds is a failure, and so is no answer at all.
-/

namespace CycleLog.Page
set_option autoImplicit false

structure Settings where
  pageId : String
  apiVersion : String
  baseUrl : String
  /-- How many seconds an answer may take. -/
  timeout : Nat
  /-- The variable that holds the credential. -/
  credential : String
deriving DecidableEq, Repr

def Settings.standard : Settings :=
  ⟨"2fc2e1bd53b2809cbd5ed9009dc775bd", "2022-06-28", "https://api.notion.com", 15, "NOTION_API_KEY"⟩

structure Request where
  url : Url
  authorization : String
  version : String
  body : Json.Value

def contentType : String := "application/json"

def method : String := "PATCH"

/-! ## Requests -/

/-- A text without the slashes at its end. -/
def withoutSlashes (s : String) : String :=
  String.ofList (s.toList.reverse.dropWhile (· == '/')).reverse

/-- The address of the children of the page. -/
def Settings.address (s : Settings) : String :=
  withoutSlashes s.baseUrl ++ "/v1/blocks/" ++ s.pageId ++ "/children"

/-- Whether a header can hold a text: tabs are the only control characters in it. -/
def fitsHeader (s : String) : Bool :=
  s.toList.all fun c => c == '\t' || (0x20 ≤ c.toNat && c != '\x7f')

def request? (s : Settings) (key : String) (blocks : List Block) : Option Request := do
  let url ← Url.read? s.address
  let authorization := "Bearer " ++ key
  if url.isShort && fitsHeader authorization && fitsHeader s.apiVersion then
    some ⟨url, authorization, s.apiVersion, appendBody blocks⟩
  else none

/-! ## Answers -/

/-- What comes back for a request. -/
inductive Answer where
  | unreachable
  | status (code : Nat) (body : String)
deriving DecidableEq, Repr

inductive Failure where
  | transport
  | status (code : Nat) (body : String)
deriving DecidableEq, Repr

def Failure.message : Failure → String
  | .transport => "Notion API connection error"
  | .status code body => "Notion API error " ++ toString code ++ ": " ++ body

/-- Whether an answer of that status has no body. -/
def isBodiless (code : Nat) : Bool := code == 204 || code == 304

def Answer.result : Answer → Except Failure Unit
  | .unreachable => .error .transport
  | .status code body =>
    if 200 ≤ code ∧ code < 300 then .ok ()
    else .error (.status code (if isBodiless code then "" else body))

end CycleLog.Page
