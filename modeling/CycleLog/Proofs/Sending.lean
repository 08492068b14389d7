import CycleLog.Program
import CycleLog.Proofs.Success
import CycleLog.Proofs.Wire

/-!
# When a request is sent

A `Clearance` holds all that has to go well before a request: the input is an event, the
configuration loads and its patterns and templates are read, the event passes the configured filter,
there is a credential and a transcript, and the section is rendered. `attempt_unsent_or` goes through
the stages of a run and finds that without a clearance nothing is sent (`Unsent`), and
`Clearance.attempt_eq` computes what a run with one comes to.
-/

namespace CycleLog
set_option autoImplicit false

open Page

/-! ## Stages without effect -/

theorem silent_transcriptOf (files : FileTree) (path : String) (n : Nat) :
    (transcriptOf files path n).2.Silent := by
  unfold transcriptOf
  split
  · next x hx =>
    unfold readTranscript? at hx
    split at hx
    · obtain rfl := Option.some.inj hx
      exact ⟨rfl, rfl⟩
    · simp at hx
  · exact Effects.silent_say ..

theorem silent_section (h : Hook) (w : World) (run : Trigger.TestRun) (path : String) :
    (h.section w run path).2.Silent :=
  ((silent_transcriptOf w.files path h.maxEntries).append (Effects.silent_say ..)).append
    (Effects.silent_say ..)

theorem silent_outcomeLine (o : Outcome) : (outcomeLine o).Silent := by
  cases o <;> exact ⟨rfl, rfl⟩

theorem silent_eventLine (e : Tool.Event) : (eventLine e).Silent := Effects.silent_say ..

/-! ## Delivery -/

/-- An answer in the two hundreds. -/
def Page.Answer.accepts : Answer → Bool
  | .unreachable => false
  | .status code _ => 200 ≤ code && code < 300

theorem isOk_result (a : Answer) : a.result.isOk = a.accepts := by
  cases a with
  | unreachable => rfl
  | status code body =>
    simp only [Answer.result, Answer.accepts]
    by_cases h : 200 ≤ code ∧ code < 300
    · rw [if_pos h, decide_eq_true h.1, decide_eq_true h.2]
      rfl
    · rw [if_neg h, ← Bool.decide_and, decide_eq_false h]
      rfl

theorem exchange_effects (w : World) (s : Page.Settings) (key : String) (blocks : List Block) :
    (exchange w s key blocks).2.requests = (request? s key blocks).toList ∧
      (exchange w s key blocks).2.stdout = "" := by
  unfold exchange
  cases request? s key blocks <;> exact ⟨rfl, rfl⟩

theorem isOk_exchange (w : World) (s : Page.Settings) (key : String) (blocks : List Block) :
    (exchange w s key blocks).1.isOk = (request? s key blocks).any fun r => (w.answer r).accepts := by
  unfold exchange
  cases request? s key blocks with
  | none => rfl
  | some r => exact isOk_result (w.answer r)

/-- What becomes of an event whose section is sent, or cannot be. -/
def sentOutcome (w : World) (blocks : List Block) (r : Option Request) : Outcome :=
  if r.any fun r => (w.answer r).accepts then .published blocks.length else .deliveryFailed

theorem sendSection_eq (w : World) (s : Page.Settings) (key : String) (blocks : List Block) :
    (sendSection w s key blocks).1 = sentOutcome w blocks (request? s key blocks) ∧
      (sendSection w s key blocks).2.requests = (request? s key blocks).toList ∧
      (sendSection w s key blocks).2.stdout = "" := by
  obtain ⟨hr, hs⟩ := exchange_effects w s key blocks
  have ho := isOk_exchange w s key blocks
  unfold sendSection sentOutcome
  rw [← ho, ← hr]
  generalize exchange w s key blocks = x at hs ⊢
  obtain ⟨result, done⟩ := x
  have hd : done.stdout = "" := hs
  cases result with
  | ok u =>
    have hl : (publishedLine s blocks).Silent := Effects.silent_say ..
    refine ⟨rfl, ?_, ?_⟩
    · rw [Effects.requests_append, hl.2, List.append_nil]
    · rw [Effects.stdout_append, hl.1, hd, String.append_empty]
  | error f =>
    have hl : (failedLine f).Silent := Effects.silent_say ..
    refine ⟨rfl, ?_, ?_⟩
    · rw [Effects.requests_append, hl.2, List.append_nil]
    · rw [Effects.stdout_append, hl.1, hd, String.append_empty]

/-! ## Hooks and credentials -/

theorem Hook.make_eq_ok_iff {c : Config} {fits : Pattern.SizeLimit} {h : Hook} :
    Hook.make c fits = .ok h ↔
    Clock.isOffset c.look.offset = true ∧ Trigger.Filter.make c.trigger fits = .ok h.filter ∧
      Phase.Classifier.make c.sorting fits = .ok h.classifier ∧
      Section.Renderer.make c.look = .ok h.renderer ∧
      h.page = c.page ∧ h.maxEntries = c.maxEntries ∧ h.offset = c.look.offset := by
  unfold Hook.make
  cases ho : Clock.isOffset c.look.offset with
  | false => simp [bind, Except.bind]
  | true =>
    simp only [Bool.not_true, Bool.false_eq_true, if_false, bind_eq_ok_iff]
    constructor
    · rintro ⟨f, hf, k, hk, r, hr, h⟩
      obtain rfl := Except.ok.inj h
      exact ⟨trivial, hf, hk, hr, rfl, rfl, rfl⟩
    · rintro ⟨-, hf, hk, hr, hp, hm, hz⟩
      refine ⟨h.filter, hf, h.classifier, hk, h.renderer, hr, ?_⟩
      rw [← hp, ← hm, ← hz]

theorem credential?_eq_some_iff {env : List (String × String)} {name key : String} :
    credential? env name = some key ↔
      ∃ v, env.lookup name = some v ∧ Text.trimmed v = key ∧ key ≠ "" := by
  unfold credential?
  rw [Option.filter_eq_some_iff, Option.map_eq_some_iff]
  constructor
  · rintro ⟨⟨v, hv, rfl⟩, hk⟩
    exact ⟨v, hv, rfl, of_decide_eq_true hk⟩
  · rintro ⟨v, hv, rfl, hk⟩
    exact ⟨⟨v, hv, rfl⟩, decide_eq_true hk⟩

/-! ## Clearances -/

/-- All that has to go well before a request is sent. -/
structure Clearance (m : Machine) (w : World) (o : CommandLine.Options) (input : ByteArray) where
  text : String
  event : Tool.Event
  config : Config
  hook : Hook
  testRun : Trigger.TestRun
  credential : String
  blocks : List Block
  decoded : String.fromUTF8? input = some text
  parsed : Tool.Event.read text = .ok event
  live : o.dryRun = false
  loaded : Config.load w.files o.config event.cwd (w.env.lookup Config.pageVariable) = .ok config
  made : Hook.make config m.fits = .ok hook
  runtime : m.runtime = true
  filter : Trigger.Filter.make config.trigger m.fits = .ok hook.filter
  accepted : hook.filter.check event = .ok testRun
  variableSet : w.env.lookup config.page.credential = some credential
  notBlank : Text.trimmed credential ≠ ""
  pathGiven : event.transcript ≠ ""
  isFile : w.files.isFile event.transcript = true
  rendered : (hook.section w testRun event.transcript).1 = .ok blocks
  client : m.client config.page = true

section Clearance
variable {m : Machine} {w : World} {o : CommandLine.Options} {input : ByteArray}

/-- The request that is sent, if the address and the headers can be written. -/
def Clearance.request? (g : Clearance m w o input) : Option Request :=
  Page.request? g.config.page (Text.trimmed g.credential) g.blocks

theorem body_of_request? {s : Page.Settings} {key : String} {blocks : List Block} {r : Request}
    (h : Page.request? s key blocks = some r) : r.body = appendBody blocks := by
  unfold Page.request? at h
  obtain ⟨url, -, h⟩ := Option.bind_eq_some_iff.mp h
  dsimp only at h
  split at h
  · rw [← Option.some.inj h]
  · cases h

theorem Hook.handleRun_of_key {h : Hook} {e : Tool.Event} {t : Trigger.TestRun}
    {blocks : List Block} (key : String) (hp : e.transcript ≠ "") (hf : w.files.isFile e.transcript = true)
    (hb : (h.section w t e.transcript).1 = .ok blocks) (hc : m.client h.page = true) :
    (h.handleRun w e t (.send (some key)) m).1 =
        .ok (sentOutcome w blocks (Page.request? h.page key blocks)) ∧
      (h.handleRun w e t (.send (some key)) m).2.requests =
        (Page.request? h.page key blocks).toList := by
  have hs := (silent_section h w t e.transcript).2
  obtain ⟨ho, hr, -⟩ := sendSection_eq w h.page key blocks
  unfold Hook.handleRun
  rw [if_neg (by simp), if_neg (by simp [hp, hf])]
  generalize h.section w t e.transcript = x at hb hs ⊢
  obtain ⟨result, said⟩ := x
  obtain rfl : result = .ok blocks := hb
  have hsaid : said.requests = [] := hs
  simp only [Delivery.deliver, hc, if_true, Option.getD_some]
  constructor
  · rw [ho]
  · rw [Effects.requests_append, hsaid, List.nil_append, hr]

/-- With a clearance the request is sent, and the answer decides what becomes of the event. -/
theorem Clearance.attempt_eq (g : Clearance m w o input) :
    (attempt m w o input).1 = .ok (some (sentOutcome w g.blocks g.request?)) ∧
      (attempt m w o input).2.requests = g.request?.toList := by
  have hpage : g.hook.page = g.config.page := (Hook.make_eq_ok_iff.mp g.made).2.2.2.2.1
  have hkey : credential? w.env g.config.page.credential = some (Text.trimmed g.credential) :=
    credential?_eq_some_iff.mpr ⟨_, g.variableSet, rfl, g.notBlank⟩
  have hd : Delivery.choose o.dryRun w.env g.config.page =
      .send (some (Text.trimmed g.credential)) := by
    rw [Delivery.choose, g.live, hkey]
    rfl
  obtain ⟨ho, hr⟩ := Hook.handleRun_of_key (Text.trimmed g.credential) g.pathGiven g.isFile
    g.rendered (hpage ▸ g.client)
  rw [hpage] at ho hr
  unfold attempt
  simp only [g.decoded, g.parsed, runEvent, g.loaded, runWith, g.made, g.runtime, if_true, hd,
    Hook.handle, g.accepted]
  generalize g.hook.handleRun w g.event g.testRun _ m = x at ho hr ⊢
  obtain ⟨result, done⟩ := x
  have hresult : result = .ok (sentOutcome w g.blocks g.request?) := ho
  have hdone : done.requests = g.request?.toList := hr
  rw [hresult]
  refine ⟨rfl, ?_⟩
  have hl : (outcomeLine (sentOutcome w g.blocks g.request?)).requests = [] :=
    (silent_outcomeLine _).2
  have he : (eventLine g.event).requests = [] := (silent_eventLine _).2
  rw [Effects.requests_append, Effects.requests_append, he, hl, hdone, List.append_nil,
    List.nil_append]

/-! ## Runs without a clearance -/

/-- A run without a request. It prints nothing either, unless the section is published by printing
it. -/
def Unsent (result : Except Problem (Option Outcome)) (done : Effects) : Prop :=
  done.Silent ∨ (∃ n, result = .ok (some (.published n))) ∧ done.requests = []

theorem Unsent.append_left {result : Except Problem (Option Outcome)} {said done : Effects}
    (hs : said.Silent) (h : Unsent result done) : Unsent result (said ++ done) := by
  rcases h with h | ⟨hp, hr⟩
  · exact .inl (hs.append h)
  · refine .inr ⟨hp, ?_⟩
    rw [Effects.requests_append, hs.2, hr, List.nil_append]

theorem Unsent.append_right {result : Except Problem (Option Outcome)} {said done : Effects}
    (h : Unsent result done) (hs : said.Silent) : Unsent result (done ++ said) := by
  rcases h with h | ⟨hp, hr⟩
  · exact .inl (h.append hs)
  · refine .inr ⟨hp, ?_⟩
    rw [Effects.requests_append, hs.2, hr, List.nil_append]

theorem Hook.handleRun_unsent_or (m : Machine) (w : World) (h : Hook) (e : Tool.Event)
    (t : Trigger.TestRun) (d : Delivery) :
    Unsent ((h.handleRun w e t d m).1.map some) (h.handleRun w e t d m).2 ∨
      ∃ key blocks, d = .send (some key) ∧ e.transcript ≠ "" ∧
        w.files.isFile e.transcript = true ∧ (h.section w t e.transcript).1 = .ok blocks ∧
        m.client h.page = true := by
  unfold Hook.handleRun
  by_cases hd : d = .send none
  · rw [if_pos hd]
    exact .inl (.inl (Effects.silent_say ..))
  rw [if_neg hd]
  by_cases hp : e.transcript = "" ∨ w.files.isFile e.transcript = false
  · rw [if_pos hp]
    exact .inl (.inl (Effects.silent_say ..))
  rw [if_neg hp]
  obtain ⟨hgiven, hfile⟩ := not_or.mp hp
  have hs := silent_section h w t e.transcript
  generalize h.section w t e.transcript = x at hs ⊢
  obtain ⟨_ | blocks, said⟩ := x
  · exact .inl (.inl hs)
  have hsaid : said.Silent := hs
  match d with
  | .print =>
    refine .inl (.inr ⟨⟨blocks.length, rfl⟩, ?_⟩)
    rw [Effects.requests_append, hsaid.2]
    rfl
  | .send (some key) =>
    cases hc : m.client h.page with
    | false =>
      refine .inl (.inl ?_)
      simp only [Delivery.deliver, hc, Bool.false_eq_true, if_false]
      exact hsaid.append Effects.silent_none
    | true =>
      exact .inr ⟨key, blocks, rfl, hgiven, by simpa using hfile, rfl, rfl⟩

theorem unsent_reported (m : Machine) (e : Tool.Event) (settings : Option Trigger.Settings) (p : Problem) :
    Unsent (reported m e settings p).1 (reported m e settings p).2 := by
  unfold reported
  split
  · exact .inl Effects.silent_none
  · exact .inl (Effects.silent_say ..)

theorem Delivery.choose_eq_send_iff {dryRun : Bool} {env : List (String × String)}
    {s : Page.Settings} {key : String} : Delivery.choose dryRun env s = .send (some key) ↔
      dryRun = false ∧ credential? env s.credential = some key := by
  cases dryRun <;> simp [Delivery.choose]

theorem runWith_unsent_or (m : Machine) (w : World) (dryRun : Bool) (e : Tool.Event) (c : Config) :
    Unsent (runWith m w dryRun e c).1 (runWith m w dryRun e c).2 ∨
      ∃ h t key blocks, Hook.make c m.fits = .ok h ∧ m.runtime = true ∧ h.filter.check e = .ok t ∧
        Delivery.choose dryRun w.env c.page = .send (some key) ∧ e.transcript ≠ "" ∧
        w.files.isFile e.transcript = true ∧ (h.section w t e.transcript).1 = .ok blocks ∧
        m.client h.page = true := by
  unfold runWith
  cases hmade : Hook.make c m.fits with
  | error p => exact .inl (unsent_reported m e _ p)
  | ok h =>
    dsimp only
    cases hruntime : m.runtime with
    | false => exact .inl (.inl Effects.silent_none)
    | true =>
      rw [if_pos rfl]
      unfold Hook.handle
      cases hcheck : h.filter.check e with
      | error r => exact .inl (.inl ((Effects.silent_say ..).append (silent_outcomeLine _)))
      | ok t =>
        dsimp only
        rcases h.handleRun_unsent_or m w e t (.choose dryRun w.env c.page) with
          hu | ⟨key, blocks, hd, hrest⟩
        · left
          generalize h.handleRun w e t _ m = x at hu ⊢
          obtain ⟨_ | outcome, done⟩ := x
          · exact hu
          · exact hu.append_right (silent_outcomeLine outcome)
        · exact .inr ⟨h, t, key, blocks, rfl, rfl, hcheck, hd, hrest⟩

/-- A run without a request has no other ending, and one with a request has a clearance. -/
theorem attempt_unsent_or (m : Machine) (w : World) (o : CommandLine.Options) (input : ByteArray) :
    Unsent (attempt m w o input).1 (attempt m w o input).2 ∨ Nonempty (Clearance m w o input) := by
  unfold attempt
  cases hdecoded : String.fromUTF8? input with
  | none => exact .inl (.inl Effects.silent_none)
  | some text =>
    dsimp only
    cases hparsed : Tool.Event.read text with
    | error r => exact .inl (.inl Effects.silent_none)
    | ok e =>
      dsimp only
      unfold runEvent
      cases hloaded : Config.load w.files o.config e.cwd (w.env.lookup Config.pageVariable) with
      | error p =>
        left
        exact (unsent_reported m e none p).append_left (silent_eventLine e)
      | ok c =>
        dsimp only
        rcases runWith_unsent_or m w o.dryRun e c with
          hu | ⟨h, t, key, blocks, hmade, hruntime, hcheck, hd, hpath, hfile, hblocks, hclient⟩
        · left
          exact hu.append_left (silent_eventLine e)
        · right
          obtain ⟨hlive, hkey⟩ := Delivery.choose_eq_send_iff.mp hd
          obtain ⟨v, hv, rfl, hblank⟩ := credential?_eq_some_iff.mp hkey
          obtain ⟨-, hfilter, -, -, hpage, -, -⟩ := Hook.make_eq_ok_iff.mp hmade
          exact ⟨⟨text, e, c, h, t, v, blocks, hdecoded, hparsed, hlive, hloaded, hmade, hruntime,
            hfilter, hcheck, hv, hblank, hpath, hfile, hblocks, hpage ▸ hclient⟩⟩

/-! ## What a run sends -/

/-- The outcomes of an event that is passed over. -/
def Outcome.isSkip : Outcome → Bool
  | .ineligible _ => true
  | .missingCredential => true
  | .missingTranscript => true
  | .published _ => false
  | .deliveryFailed => false

theorem isSkip_sentOutcome (blocks : List Block) (r : Option Request) :
    (sentOutcome w blocks r).isSkip = false := by
  unfold sentOutcome
  split <;> rfl

theorem Clearance.run_eq (g : Clearance m w o input) : (run w o input m).1 = .ok () := by
  unfold run
  simp only [g.attempt_eq.1]
  rfl

theorem Clearance.requests_run (g : Clearance m w o input) :
    (run w o input m).2.requests = g.request?.toList :=
  g.attempt_eq.2

theorem requests_run (m : Machine) (w : World) (o : CommandLine.Options) (input : ByteArray) :
    (run w o input m).2.requests = [] ∨ Nonempty (Clearance m w o input) :=
  (attempt_unsent_or m w o input).imp_left fun hu => hu.elim (·.2) (·.2)

theorem silent_of_error {p : Problem} (h : (run w o input m).1 = .error p) :
    (run w o input m).2.Silent := by
  rcases attempt_unsent_or m w o input with (hs | ⟨⟨n, hn⟩, -⟩) | ⟨⟨g⟩⟩
  · exact hs
  · unfold run at h
    simp only [hn] at h
    cases h
  · rw [g.run_eq] at h
    cases h

theorem silent_of_skip {outcome : Option Outcome} (h : (attempt m w o input).1 = .ok outcome)
    (hskip : outcome.all Outcome.isSkip = true) : (run w o input m).2.Silent := by
  rcases attempt_unsent_or m w o input with (hs | ⟨⟨n, hn⟩, -⟩) | ⟨⟨g⟩⟩
  · exact hs
  · obtain rfl := Except.ok.inj (hn.symm.trans h)
    cases hskip
  · obtain rfl := Except.ok.inj (g.attempt_eq.1.symm.trans h)
    rw [Option.all_some, isSkip_sentOutcome] at hskip
    cases hskip

theorem mem_requests_iff {r : Request} : r ∈ (run w o input m).2.requests ↔
    ∃ g : Clearance m w o input, g.request? = some r := by
  constructor
  · intro h
    rcases requests_run m w o input with hnil | ⟨⟨g⟩⟩
    · rw [hnil] at h
      cases h
    · rw [g.requests_run] at h
      exact ⟨g, Option.mem_toList.mp h⟩
  · rintro ⟨g, hg⟩
    rw [g.requests_run]
    exact Option.mem_toList.mpr hg

theorem length_requests_le : (run w o input m).2.requests.length ≤ 1 := by
  rcases requests_run m w o input with hnil | ⟨⟨g⟩⟩
  · rw [hnil]
    exact Nat.zero_le 1
  · rw [g.requests_run]
    cases g.request? with
    | none => exact Nat.zero_le 1
    | some r => exact Nat.le_refl 1

end Clearance

/-- A run sends at most one request, and only when all has gone well before. What is sent holds the
section of the event, and the answer alone decides whether it is published. A run with an error, or
that passes the event over, prints and sends nothing. -/
theorem run_sends_iff_clearance (m : Machine) (w : World) (o : CommandLine.Options)
    (input : ByteArray) :
    (run w o input m).2.requests.length ≤ 1 ∧
    (∀ r, r ∈ (run w o input m).2.requests ↔ ∃ g : Clearance m w o input, g.request? = some r) ∧
    (∀ r ∈ (run w o input m).2.requests, ∀ g : Clearance m w o input,
      r.body = appendBody g.blocks ∧ (run w o input m).1 = .ok () ∧
      (attempt m w o input).1 = .ok (some (if (w.answer r).accepts then
        .published (r.body.listAt "children").length else .deliveryFailed))) ∧
    (∀ p, (run w o input m).1 = .error p → (run w o input m).2.Silent) ∧
    (∀ outcome, (attempt m w o input).1 = .ok outcome → outcome.all Outcome.isSkip = true →
      (run w o input m).2.Silent) := by
  refine ⟨length_requests_le, fun r => mem_requests_iff, ?_, fun p => silent_of_error,
    fun outcome => silent_of_skip⟩
  intro r hr g
  have hsent : g.request? = some r := by
    rw [g.requests_run] at hr
    exact Option.mem_toList.mp hr
  have hbody : r.body = appendBody g.blocks := body_of_request? hsent
  refine ⟨hbody, g.run_eq, ?_⟩
  rw [g.attempt_eq.1, hsent, hbody, ← (appendBody_shows g.blocks).length_eq]
  rfl

-- A passing test run is sent under the standard configuration.
example :
    let w : World := ⟨⟨[(["", "t"], some .empty)]⟩, [("NOTION_API_KEY", "k")], ⟨0⟩,
      fun _ => .status 200 ""⟩
    let event := "\x7b\"transcript_path\": \"/t\", \"tool_name\": \"Bash\", " ++
      "\"tool_input\": \x7b\"command\": \"gradlew test\"\x7d, " ++
      "\"tool_response\": \"BUILD SUCCESSFUL\"\x7d"
    (run w ⟨none, false⟩ event.toUTF8).2.requests.length = 1 := by
  decide +kernel

end CycleLog
