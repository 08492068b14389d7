import CycleLog.Clock.Stamp
import CycleLog.Config.Basic
import CycleLog.Files
import CycleLog.Journal
import CycleLog.Page.Client
import CycleLog.Section.Render
import CycleLog.Json.Writer
import CycleLog.Transcript.Reader
import CycleLog.Transcript.Window

/-!
# From an event to a page

A `Hook` is a configuration whose patterns and templates have been read. `handle` takes an event: if
it reports a passing test run, the section of the current cycle is rendered and delivered, which is
to say printed or sent to the page. What happens on the way is collected in `Effects`.
-/

namespace CycleLog
set_option autoImplicit false

open Journal Page

/-! ## What a run sees and does -/

/-- What a run finds outside of itself. -/
structure World where
  files : FileTree
  env : List (String × String)
  now : Clock.Instant
  /-- What comes back for a request. -/
  answer : Request → Answer

/-- What a run can set up on the machine that it runs on. -/
structure Machine where
  /-- Whether a runtime can be started in which a run waits for an answer. -/
  runtime : Bool
  /-- Whether a client for the requests to a page can be built. -/
  client : Page.Settings → Bool
  /-- Which patterns stay within the bounds on their size. -/
  fits : Pattern.SizeLimit
  /-- The pattern of the standard trigger does. -/
  fitsStandard : fits Trigger.Settings.standard.command.toList = true

/-- A machine on which all of it can be set up. -/
def Machine.able : Machine := ⟨true, fun _ => true, .estimated, by decide +kernel⟩

structure Effects where
  stdout : String
  requests : List Request
  journal : List Line

namespace Effects

def none : Effects := ⟨"", [], []⟩

def say (level : Level) (topic message : String) : Effects := ⟨"", [], [⟨level, topic, message⟩]⟩

def append (a b : Effects) : Effects :=
  ⟨a.stdout ++ b.stdout, a.requests ++ b.requests, a.journal ++ b.journal⟩

instance : Append Effects := ⟨append⟩

@[simp] theorem stdout_append (a b : Effects) : (a ++ b).stdout = a.stdout ++ b.stdout := rfl

@[simp] theorem requests_append (a b : Effects) : (a ++ b).requests = a.requests ++ b.requests := rfl

/-- Nothing is printed and nothing is sent. -/
def Silent (a : Effects) : Prop := a.stdout = "" ∧ a.requests = []

theorem silent_none : none.Silent := ⟨rfl, rfl⟩

theorem silent_say (level : Level) (topic message : String) : (say level topic message).Silent :=
  ⟨rfl, rfl⟩

theorem Silent.append {a b : Effects} (ha : a.Silent) (hb : b.Silent) : (a ++ b).Silent := by
  constructor
  · rw [stdout_append, ha.1, hb.1, String.append_empty]
  · rw [requests_append, ha.2, hb.2, List.append_nil]

end Effects

/-! ## Topics -/

def programTopic : String := "tdd_notion_logger"

def hookTopic : String := programTopic ++ "::hook"

def pageTopic : String := programTopic ++ "::notion"

def transcriptTopic : String := programTopic ++ "::transcript"

/-! ## Hooks -/

/-- Where a section goes. -/
inductive Delivery where
  /-- To the page; without a key nothing can be sent. -/
  | send (key : Option String)
  /-- To standard output. -/
  | print
deriving DecidableEq, Repr

/-- The value of a variable without the blanks around it, unless it is blank. -/
def credential? (env : List (String × String)) (name : String) : Option String :=
  ((env.lookup name).map Text.trimmed).filter (· ≠ "")

def Delivery.choose (dryRun : Bool) (env : List (String × String)) (s : Page.Settings) : Delivery :=
  if dryRun then .print else .send (credential? env s.credential)

inductive Outcome where
  | ineligible (r : Trigger.Refusal)
  | missingCredential
  | missingTranscript
  | published (blocks : Nat)
  | deliveryFailed
deriving DecidableEq, Repr

structure Hook where
  page : Page.Settings
  maxEntries : Nat
  offset : Int
  filter : Trigger.Filter
  classifier : Phase.Classifier
  renderer : Section.Renderer

/-- Reads the patterns and templates of a configuration. -/
def Hook.make (c : Config) (fits : Pattern.SizeLimit := .estimated) : Except Problem Hook := do
  if !Clock.isOffset c.look.offset then .error (.offset c.look.offset)
  let filter ← Trigger.Filter.make c.trigger fits
  let classifier ← Phase.Classifier.make c.sorting fits
  let renderer ← Section.Renderer.make c.look
  .ok ⟨c.page, c.maxEntries, c.look.offset, filter, classifier, renderer⟩

/-! ## Transcripts -/

/-- What is said about a line of a transcript that is passed over. -/
def reportLine (r : Transcript.Report) : Line :=
  let cause := match r.flaw with
    | .notJson => "not JSON"
    | .shape m => m.message
  ⟨.debug, transcriptTopic, "skipping transcript line line=" ++ toString r.line ++ " err=" ++ cause⟩

/-- The latest entries of a transcript, or nothing if there is no text at the path. -/
def readTranscript? (files : FileTree) (path : String) (maxEntries : Nat) :
    Option (List Transcript.Entry × Effects) :=
  match files.text path with
  | .ok text =>
    let p := Transcript.parse text
    some (Transcript.latest maxEntries p.entries, ⟨"", [], p.reports.map reportLine⟩)
  | .error _ => none

/-- The latest entries of a transcript; one that cannot be read counts as empty. -/
def transcriptOf (files : FileTree) (path : String) (maxEntries : Nat) :
    List Transcript.Entry × Effects :=
  match readTranscript? files path maxEntries with
  | some x => x
  | none =>
    ([], .say .warn hookTopic
      ("reading transcript " ++ path ++ ": unreadable; logging without transcript context"))

/-! ## Sections -/

/-- The most characters of a prompt that the journal shows. -/
def promptLimit : Nat := 80

def windowLine (es : List Transcript.Entry) : Effects :=
  let prompt := (es.findSome? (·.prompt?)).map (Text.cut · promptLimit)
  .say .debug hookTopic
    ("selected cycle window entries=" ++ toString es.length ++
      " first=" ++ Text.quotedOption (es.head?.bind (·.uuid?)) ++
      " last=" ++ Text.quotedOption (es.getLast?.bind (·.uuid?)) ++
      " prompt=" ++ Text.quotedOption prompt)

/-- Texts in quotes, with brackets around them. -/
def quotedTexts (ss : List String) : String :=
  "[" ++ String.intercalate ", " (ss.map Text.quoted) ++ "]"

def sortedLine (s : Phase.Sorted) : Effects :=
  .say .debug hookTopic
    ("classified cycle red=" ++ toString s.red.length ++ " green=" ++ toString s.green.length ++
      " refactor=" ++ toString s.refactor.length ++ " implemented=" ++ quotedTexts s.implemented)

/-- What the entries of a transcript say about the cycle of a test run. -/
def Hook.sorted (h : Hook) (es : List Transcript.Entry) : Phase.Sorted :=
  h.classifier.sort (Transcript.window h.filter.matcher.accepts es)

/-- The section for a test run, from the entries of a transcript. -/
def Hook.blocksFor (h : Hook) (run : Trigger.TestRun) (now : Clock.Instant)
    (es : List Transcript.Entry) : Except Problem (List Block) :=
  h.renderer.render ⟨run.subject, Clock.stamp now h.offset, h.sorted es, run.passedMethods⟩

/-- The section for a test run, from the transcript at a path. -/
def Hook.section (h : Hook) (w : World) (run : Trigger.TestRun) (path : String) :
    Except Problem (List Block) × Effects :=
  let (es, said) := transcriptOf w.files path h.maxEntries
  let window := Transcript.window h.filter.matcher.accepts es
  (h.blocksFor run w.now es, said ++ windowLine window ++ sortedLine (h.sorted es))

/-! ## Delivery -/

def publishedLine (s : Page.Settings) (blocks : List Block) : Effects :=
  .say .info hookTopic
    ("logged TDD cycle page_id=" ++ s.pageId ++ " blocks=" ++ toString blocks.length)

def failedLine (f : Failure) : Effects := .say .error hookTopic f.message

/-- What is printed in place of a request. -/
def printedBody (blocks : List Block) : String := Json.pretty (appendBody blocks) ++ "\n"

def printSection (s : Page.Settings) (blocks : List Block) : Outcome × Effects :=
  (.published blocks.length,
    .say .info pageTopic
      ("dry run, not sending page_id=" ++ Text.quoted s.pageId ++
        " blocks=" ++ toString blocks.length) ++
    ⟨printedBody blocks, [], []⟩ ++ publishedLine s blocks)

/-- Sends a request, and tells what came back. -/
def exchange (w : World) (s : Page.Settings) (key : String) (blocks : List Block) :
    Except Failure Unit × Effects :=
  let told := Effects.say .debug pageTopic
    ("appending blocks url=" ++ s.address ++ " blocks=" ++ toString blocks.length)
  match request? s key blocks with
  | none => (.error .transport, told)
  | some r =>
    ((w.answer r).result,
      told ++ .say .debug "connection" ("starting new connection: " ++ r.url.authority) ++
        ⟨"", [r], []⟩)

def sendSection (w : World) (s : Page.Settings) (key : String) (blocks : List Block) :
    Outcome × Effects :=
  match exchange w s key blocks with
  | (.ok (), done) => (.published blocks.length, done ++ publishedLine s blocks)
  | (.error f, done) => (.deliveryFailed, done ++ failedLine f)

def Delivery.deliver (d : Delivery) (m : Machine) (w : World) (s : Page.Settings)
    (blocks : List Block) : Except Problem Outcome × Effects :=
  match d with
  | .print =>
    let (outcome, done) := printSection s blocks
    (.ok outcome, done)
  | .send key =>
    if m.client s then
      let (outcome, done) := sendSection w s (key.getD "") blocks
      (.ok outcome, done)
    else (.error .client, .none)

/-! ## Events -/

def Hook.handleRun (h : Hook) (w : World) (e : Tool.Event) (run : Trigger.TestRun) (d : Delivery)
    (m : Machine := .able) : Except Problem Outcome × Effects :=
  if d = .send none then
    (.ok .missingCredential,
      .say .warn hookTopic (h.page.credential ++ " is not set; skipping Notion log"))
  else if e.transcript = "" ∨ w.files.isFile e.transcript = false then
    (.ok .missingTranscript,
      .say .warn hookTopic ("transcript not found; skipping Notion log path=" ++ e.transcript))
  else
    match h.section w run e.transcript with
    | (.error p, said) => (.error p, said)
    | (.ok blocks, said) =>
      let (outcome, done) := d.deliver m w h.page blocks
      (outcome, said ++ done)

def Hook.handle (h : Hook) (w : World) (e : Tool.Event) (d : Delivery) (m : Machine := .able) :
    Except Problem Outcome × Effects :=
  match h.filter.check e with
  | .error r =>
    (.ok (.ineligible r),
      .say .debug hookTopic ("ignoring event tool=" ++ e.tool ++ " reason=" ++ r.message))
  | .ok run => h.handleRun w e run d m

end CycleLog
