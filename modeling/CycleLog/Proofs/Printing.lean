import CycleLog.Proofs.Bounds
import CycleLog.Proofs.ReadBack
import CycleLog.Proofs.Reporting

/-!
# Printing in place of sending

A run that prints and one that sends go through the same stages up to the delivery. `Agree` says how
they correspond: either both end before it, in the same way, or the printed text is read back as the
body of the request. For the latter the value sent for a section has to be one that is read back
(`read_printedBody`). The stages are put together by `Alike`, for runs that differ only in the journal.
-/

namespace CycleLog

namespace Page
set_option autoImplicit false

open Json

/-! ## What is printed -/

theorem simple_toValue_run (depth : Nat) (r : Run) : r.toValue.Simple (depth + 2) := by
  have htext : (Value.make [("content", .text r.content)]).Simple (depth + 1) := by
    apply simple_make
    simp [Value.Simple]
  have hstyles : (Value.make r.styles).Simple (depth + 1) := by
    apply simple_make
    unfold Run.styles
    cases r.bold <;> cases r.code <;> simp [Value.Simple]
  apply simple_make
  by_cases h : r.styles = [] <;> simp [h, htext, hstyles, Value.Simple]

theorem simple_runsToValue (depth : Nat) (runs : List Run) : (runsToValue runs).Simple (depth + 3) := by
  intro v hv
  obtain ⟨r, -, rfl⟩ := List.mem_map.mp hv
  exact simple_toValue_run depth r

theorem simple_typed {depth : Nat} {type : String} {body : List Member}
    (h : ∀ m ∈ body, m.2.Simple depth) : (typed type body).Simple (depth + 2) := by
  apply simple_make
  simp [simple_make h, Value.Simple]

/-- A block of text only. -/
theorem simple_typed_richText (depth : Nat) (type : String) (runs : List Run) :
    (typed type [("rich_text", runsToValue runs)]).Simple (depth + 5) := by
  apply simple_typed
  simp [simple_runsToValue depth runs]

theorem blocksToValues_eq_map (bs : List Block) : blocksToValues bs = bs.map Block.toValue := by
  induction bs with
  | nil => rfl
  | cons b bs ih => rw [blocksToValues, ih, List.map_cons]

theorem Block.Fits.simple_toValue {n : Nat} {b : Block} (h : b.Fits n) : b.toValue.Simple 8 := by
  unfold Block.toValue
  cases h with
  | heading => exact simple_typed_richText 3 _ _
  | paragraph => exact simple_typed_richText 3 _ _
  | bullet => exact simple_typed_richText 3 _ _
  | toggle =>
    apply simple_typed
    simp [simple_runsToValue 3, blocksToValues_eq_map, Block.toValue, simple_typed_richText 0, Value.Simple]
  | divider => exact simple_typed (by simp)

theorem simple_appendBody {n : Nat} {bs : List Block} (h : ∀ b ∈ bs, b.Fits n) :
    (appendBody bs).Simple 10 := by
  apply simple_make
  intro m hm
  obtain rfl := List.mem_singleton.mp hm
  intro v hv
  rw [blocksToValues_eq_map] at hv
  obtain ⟨b, hb, rfl⟩ := List.mem_map.mp hv
  exact (h b hb).simple_toValue

end Page

set_option autoImplicit false

open Page

/-- What is printed for blocks within bounds is read back as what is sent for them. -/
theorem read_printedBody {n : Nat} {bs : List Block} (h : ∀ b ∈ bs, b.Fits n) :
    Json.read (printedBody bs) = some (appendBody bs) := by
  apply Json.read_pretty_append
  · exact (simple_appendBody h).mono (by decide)
  · rfl

theorem fits_of_section {h : Hook} {w : World} {t : Trigger.TestRun} {path : String}
    {bs : List Block} (hbs : (h.section w t path).1 = .ok bs) :
    ∀ b ∈ bs, b.Fits (h.renderer.maxText + 3) := by
  obtain ⟨all, hall, rfl⟩ := h.renderer.render_eq_ok_iff.mp hbs
  exact fun b hb => h.renderer.fits_allBlocks hall b (List.mem_of_mem_take hb)

/-! ## Runs that differ in the journal only -/

/-- Two runs that come to the same, print the same and send the same. -/
structure Alike {α : Type} (x y : Except Problem α × Effects) : Prop where
  result : x.1 = y.1
  stdout : x.2.stdout = y.2.stdout
  requests : x.2.requests = y.2.requests

section Alike
variable {α : Type} {x y z : Except Problem α × Effects}

theorem Alike.refl (x : Except Problem α × Effects) : Alike x x := ⟨rfl, rfl, rfl⟩

theorem Alike.symm (h : Alike x y) : Alike y x :=
  ⟨h.result.symm, h.stdout.symm, h.requests.symm⟩

theorem Alike.trans (h : Alike x y) (h' : Alike y z) : Alike x z :=
  ⟨h.result.trans h'.result, h.stdout.trans h'.stdout, h.requests.trans h'.requests⟩

theorem alike_append_left {said : Effects} (hs : said.Silent) (r : Except Problem α) (done : Effects) :
    Alike (r, said ++ done) (r, done) := by
  refine ⟨rfl, ?_, ?_⟩
  · rw [Effects.stdout_append, hs.1, String.empty_append]
  · rw [Effects.requests_append, hs.2, List.nil_append]

theorem alike_append_right {said : Effects} (hs : said.Silent) (r : Except Problem α) (done : Effects) :
    Alike (r, done ++ said) (r, done) := by
  refine ⟨rfl, ?_, ?_⟩
  · rw [Effects.stdout_append, hs.1, String.append_empty]
  · rw [Effects.requests_append, hs.2, List.append_nil]

end Alike

/-- What a hook makes of an event, as a run tells it. -/
def asAttempt (x : Except Problem Outcome × Effects) : Except Problem (Option Outcome) × Effects :=
  (x.1.map some, x.2)

theorem Alike.asAttempt {x y : Except Problem Outcome × Effects} (h : Alike x y) :
    Alike (asAttempt x) (asAttempt y) :=
  ⟨congrArg (Except.map some) h.result, h.stdout, h.requests⟩

section Stages
variable {m : Machine} {w : World} {o : CommandLine.Options} {e : Tool.Event} {c : Config} {h : Hook}

theorem alike_runWith (hmake : Hook.make c m.fits = .ok h) (hruntime : m.runtime = true) (dryRun : Bool) :
    Alike (runWith m w dryRun e c) (asAttempt (h.handle w e (.choose dryRun w.env c.page) m)) := by
  unfold runWith
  simp only [hmake, hruntime, if_true]
  generalize h.handle w e _ m = x
  obtain ⟨_ | outcome, done⟩ := x
  · exact Alike.refl _
  · exact alike_append_right (silent_outcomeLine outcome) _ done

theorem alike_attempt {input : ByteArray} {text : String} (hdecoded : String.fromUTF8? input = some text)
    (hparsed : Tool.Event.read text = .ok e) : Alike (attempt m w o input) (runEvent m w o e) := by
  unfold attempt
  simp only [hdecoded, hparsed]
  exact alike_append_left (silent_eventLine e) _ _

theorem runEvent_of_loaded (hload : loaded w o e = .ok c) : runEvent m w o e = runWith m w o.dryRun e c := by
  unfold runEvent
  rw [← loaded, hload]

theorem Hook.handleRun_of_missing (h : Hook) (t : Trigger.TestRun) {d : Delivery} (hd : d ≠ .send none)
    (hp : e.transcript = "" ∨ w.files.isFile e.transcript = false) : h.handleRun w e t d m =
      (.ok .missingTranscript, .say .warn hookTopic
        ("transcript not found; skipping Notion log path=" ++ e.transcript)) := by
  unfold handleRun
  rw [if_neg hd, if_pos hp]

theorem Hook.handleRun_of_problem {h : Hook} {t : Trigger.TestRun} {d : Delivery} {p : Problem}
    (hd : d ≠ .send none) (hp : ¬ (e.transcript = "" ∨ w.files.isFile e.transcript = false))
    (hb : (h.section w t e.transcript).1 = .error p) :
    h.handleRun w e t d m = (.error p, (h.section w t e.transcript).2) := by
  unfold handleRun
  rw [if_neg hd, if_neg hp]
  generalize h.section w t e.transcript = x at hb ⊢
  obtain ⟨result, said⟩ := x
  obtain rfl : result = .error p := hb
  rfl

theorem Hook.handleRun_of_print {h : Hook} {t : Trigger.TestRun} {blocks : List Block}
    (hp : ¬ (e.transcript = "" ∨ w.files.isFile e.transcript = false))
    (hb : (h.section w t e.transcript).1 = .ok blocks) :
    (h.handleRun w e t .print m).1 = .ok (.published blocks.length) ∧
      (h.handleRun w e t .print m).2.stdout = printedBody blocks ∧
      (h.handleRun w e t .print m).2.requests = [] := by
  have hs := silent_section h w t e.transcript
  unfold Hook.handleRun
  rw [if_neg (by simp), if_neg hp]
  generalize h.section w t e.transcript = x at hb hs ⊢
  obtain ⟨result, said⟩ := x
  obtain rfl : result = .ok blocks := hb
  obtain ⟨hstdout, hrequests⟩ : said.Silent := hs
  refine ⟨rfl, ?_, ?_⟩
  · simp only [Delivery.deliver, printSection, Effects.stdout_append, hstdout, Effects.say,
      publishedLine, String.empty_append, String.append_empty]
  · simp only [Delivery.deliver, printSection, Effects.requests_append, hrequests, Effects.say,
      publishedLine, List.append_nil]

end Stages

/-! ## Printing does not depend on the environment -/

theorem Hook.make_withPage (c : Config) (s : Page.Settings) (fits : Pattern.SizeLimit) :
    Hook.make { c with page := s } fits = (Hook.make c fits).map fun h => { h with page := s } := by
  unfold Hook.make
  cases Clock.isOffset c.look.offset with
  | false => rfl
  | true =>
    cases Trigger.Filter.make c.trigger fits with
    | error p => rfl
    | ok f =>
      cases Phase.Classifier.make c.sorting fits with
      | error p => rfl
      | ok k =>
        cases Section.Renderer.make c.look with
        | error p => rfl
        | ok r => rfl

theorem alike_handle_print (m : Machine) (w : World) (env : List (String × String)) (h : Hook)
    (s : Page.Settings) (e : Tool.Event) :
    Alike (Hook.handle { h with page := s } { w with env := env } e .print m)
      (h.handle w e .print m) := by
  unfold Hook.handle
  cases h.filter.check e with
  | error r => exact Alike.refl _
  | ok t =>
    dsimp only
    have hprint : Delivery.print ≠ .send none := by simp
    -- the section is made from the files, whatever the environment and the page
    have hsection : Hook.section { h with page := s } { w with env := env } t e.transcript =
      h.section w t e.transcript := rfl
    by_cases hpath : e.transcript = "" ∨ w.files.isFile e.transcript = false
    · rw [Hook.handleRun_of_missing (w := { w with env := env }) { h with page := s } t hprint hpath,
        h.handleRun_of_missing t hprint hpath]
      exact Alike.refl _
    · cases hblocks : (h.section w t e.transcript).1 with
      | error p =>
        have hblocks' : (Hook.section { h with page := s } { w with env := env } t e.transcript).1 =
          .error p := hsection ▸ hblocks
        rw [Hook.handleRun_of_problem (w := { w with env := env }) hprint hpath hblocks',
          Hook.handleRun_of_problem hprint hpath hblocks, hsection]
        exact Alike.refl _
      | ok blocks =>
        have hblocks' : (Hook.section { h with page := s } { w with env := env } t e.transcript).1 =
          .ok blocks := hsection ▸ hblocks
        obtain ⟨hr, ho, hq⟩ := Hook.handleRun_of_print (m := m) hpath hblocks
        obtain ⟨hr', ho', hq'⟩ := Hook.handleRun_of_print (m := m) hpath hblocks'
        exact ⟨hr'.trans hr.symm, ho'.trans ho.symm, hq'.trans hq.symm⟩

theorem alike_runWith_print (m : Machine) (w : World) (env : List (String × String)) (e : Tool.Event)
    (c : Config) (s : Page.Settings) :
    Alike (runWith m { w with env := env } true e { c with page := s }) (runWith m w true e c) := by
  cases hmake : Hook.make c m.fits with
  | error p =>
    have hmake' : Hook.make { c with page := s } m.fits = .error p := by
      rw [Hook.make_withPage, hmake]
      rfl
    simp only [runWith, hmake, hmake']
    exact Alike.refl _
  | ok h =>
    have hmake' : Hook.make { c with page := s } m.fits = .ok { h with page := s } := by
      rw [Hook.make_withPage, hmake]
      rfl
    cases hruntime : m.runtime with
    | false =>
      simp only [runWith, hmake, hmake', hruntime, Bool.false_eq_true, if_false]
      exact Alike.refl _
    | true =>
      have hhandle := alike_handle_print m w env h s e
      exact (alike_runWith hmake' hruntime true).trans
        (hhandle.asAttempt.trans (alike_runWith hmake hruntime true).symm)

theorem Config.override_eq (page : Option String) (c : Config) :
    ∃ s, Config.override page c = { c with page := s } := by
  unfold override
  split
  · exact ⟨c.page, rfl⟩
  · split
    · exact ⟨c.page, rfl⟩
    · exact ⟨_, rfl⟩

/-- The page of the environment is put in after the files have been read. -/
theorem Config.load_eq_map (files : FileTree) (explicit cwd page : Option String) :
    Config.load files explicit cwd page = (Config.load files explicit cwd none).map (override page) := by
  have hnone (x : Except Problem Config) :
      (x.map (override none)).map (override page) = x.map (override page) := by
    cases x <;> rfl
  exact (hnone _).symm

/-- The environment decides where a section goes, and not what is printed. -/
theorem alike_attempt_print (m : Machine) (w : World) (env : List (String × String))
    (path : Option String) (input : ByteArray) :
    Alike (attempt m { w with env := env } ⟨path, true⟩ input) (attempt m w ⟨path, true⟩ input) := by
  cases hdecoded : String.fromUTF8? input with
  | none =>
    unfold attempt
    rw [hdecoded]
    exact Alike.refl _
  | some text =>
    cases hparsed : Tool.Event.read text with
    | error r =>
      unfold attempt
      simp only [hdecoded, hparsed]
      exact Alike.refl _
    | ok e =>
      -- both sides load the same files and put in a page of their own
      refine (alike_attempt hdecoded hparsed).trans (Alike.trans ?_ (alike_attempt hdecoded hparsed).symm)
      unfold runEvent
      rw [Config.load_eq_map _ _ _ (env.lookup _), Config.load_eq_map _ _ _ (w.env.lookup _)]
      cases Config.load w.files path e.cwd none with
      | error p => exact Alike.refl _
      | ok c =>
        obtain ⟨s, hs⟩ := Config.override_eq (env.lookup Config.pageVariable) c
        obtain ⟨s', hs'⟩ := Config.override_eq (w.env.lookup Config.pageVariable) c
        simp only [Except.map, hs, hs']
        exact (alike_runWith_print m w env e c s).trans (alike_runWith_print m w w.env e c s').symm

theorem requests_attempt_print (m : Machine) (w : World) (path : Option String) (input : ByteArray) :
    (attempt m w ⟨path, true⟩ input).2.requests = [] := by
  rcases attempt_unsent_or m w ⟨path, true⟩ input with hu | ⟨⟨g⟩⟩
  · exact hu.elim (·.2) (·.2)
  · exact absurd g.live (by simp)

/-! ## Printing and sending -/

/-- How a run ends in front of the delivery. -/
inductive Undelivered : Except Problem (Option Outcome) → Prop where
  | problem (p : Problem) : Undelivered (.error p)
  | passedOver : Undelivered (.ok none)
  | ineligible (r : Trigger.Refusal) : Undelivered (.ok (some (.ineligible r)))
  | missingTranscript : Undelivered (.ok (some .missingTranscript))

/-- A run that prints and one that sends end in the same way in front of the delivery, or the printed
text is read as the body of the request; there is one when it can be sent. -/
def Agree (sendable : Prop) (printed sent : Except Problem (Option Outcome) × Effects) : Prop :=
  (sent.1 = printed.1 ∧ Undelivered printed.1 ∧ printed.2.Silent ∧ sent.2.Silent) ∨
  ∃ body, Json.read printed.2.stdout = some body ∧
    printed.1 = .ok (some (.published (body.listAt "children").length)) ∧
    (sendable → ∃ r, sent.2.requests = [r] ∧ r.body = body)

section Agree
variable {sendable sendable' : Prop} {x x' y y' : Except Problem (Option Outcome) × Effects}

theorem Agree.of_same (hu : Undelivered x.1) (hs : x.2.Silent) : Agree sendable x x :=
  .inl ⟨rfl, hu, hs, hs⟩

theorem Agree.mono (h : Agree sendable x y) (hs : sendable' → sendable) : Agree sendable' x y := by
  rcases h with h | ⟨body, hbody, hresult, hsent⟩
  · exact .inl h
  · exact .inr ⟨body, hbody, hresult, fun h => hsent (hs h)⟩

theorem Agree.congr (h : Agree sendable x y) (hx : Alike x' x) (hy : Alike y' y) :
    Agree sendable x' y' := by
  unfold Agree Effects.Silent
  rw [hx.result, hx.stdout, hx.requests, hy.result, hy.stdout, hy.requests]
  exact h

end Agree

/-- All that a request needs besides its blocks: a client, an address that is not too long, and headers that
can be written. -/
structure CanSend (m : Machine) (env : List (String × String)) (s : Page.Settings) : Prop where
  client : m.client s = true
  address : ∃ url, Url.read? s.address = some url ∧ url.isShort = true
  version : fitsHeader s.apiVersion = true
  authorization : ∀ v, env.lookup s.credential = some v →
    fitsHeader ("Bearer " ++ Text.trimmed v) = true

/-- The variable that holds the credential is set, and not blank. -/
def HasCredential (env : List (String × String)) (s : Page.Settings) : Prop :=
  ∃ v, env.lookup s.credential = some v ∧ Text.blankText v.toList = false

theorem CanSend.request? {m : Machine} {env : List (String × String)} {s : Page.Settings} {v : String}
    (h : CanSend m env s) (hv : env.lookup s.credential = some v) (blocks : List Block) :
    ∃ r, Page.request? s (Text.trimmed v) blocks = some r := by
  obtain ⟨url, hurl, hshort⟩ := h.address
  refine ⟨⟨url, "Bearer " ++ Text.trimmed v, s.apiVersion, appendBody blocks⟩, ?_⟩
  unfold Page.request?
  simp only [hurl, Option.bind_eq_bind, Option.bind_some, hshort, h.authorization v hv, h.version,
    Bool.and_self, if_true]

section Stages
variable {m : Machine} {w : World} {e : Tool.Event}

theorem agree_handleRun (h : Hook) (t : Trigger.TestRun) {v : String}
    (hv : w.env.lookup h.page.credential = some v) : Agree (CanSend m w.env h.page)
      (asAttempt (h.handleRun w e t .print m))
      (asAttempt (h.handleRun w e t (.send (some (Text.trimmed v))) m)) := by
  have hprint : Delivery.print ≠ .send none := by simp
  have hsend : Delivery.send (some (Text.trimmed v)) ≠ .send none := by simp
  by_cases hpath : e.transcript = "" ∨ w.files.isFile e.transcript = false
  · rw [h.handleRun_of_missing t hprint hpath, h.handleRun_of_missing t hsend hpath]
    exact .of_same .missingTranscript (Effects.silent_say ..)
  cases hblocks : (h.section w t e.transcript).1 with
  | error p =>
    rw [Hook.handleRun_of_problem hprint hpath hblocks, Hook.handleRun_of_problem hsend hpath hblocks]
    exact .of_same (.problem p) (silent_section h w t e.transcript)
  | ok blocks =>
    right
    obtain ⟨hresult, hstdout, -⟩ := Hook.handleRun_of_print (m := m) hpath hblocks
    refine ⟨appendBody blocks, ?_, ?_, fun hsend => ?_⟩
    · rw [asAttempt, hstdout]
      exact read_printedBody (fits_of_section hblocks)
    · rw [asAttempt, hresult, ← (appendBody_shows blocks).length_eq]
      rfl
    · obtain ⟨hgiven, hfile⟩ := not_or.mp hpath
      obtain ⟨r, hr⟩ := hsend.request? hv blocks
      have hrequests := (Hook.handleRun_of_key (Text.trimmed v) hgiven (by simpa using hfile) hblocks
        hsend.client).2
      rw [hr] at hrequests
      exact ⟨r, hrequests, body_of_request? hr⟩

theorem agree_handle (h : Hook) {v : String} (hv : w.env.lookup h.page.credential = some v) :
    Agree (CanSend m w.env h.page) (asAttempt (h.handle w e .print m))
      (asAttempt (h.handle w e (.send (some (Text.trimmed v))) m)) := by
  unfold Hook.handle
  cases h.filter.check e with
  | error r => exact .of_same (.ineligible r) (Effects.silent_say ..)
  | ok t => exact agree_handleRun h t hv

theorem agree_reported (sendable : Prop) (settings : Option Trigger.Settings) (p : Problem) :
    Agree sendable (reported m e settings p) (reported m e settings p) := by
  unfold reported
  split
  · exact .of_same (.problem p) Effects.silent_none
  · exact .of_same .passedOver (Effects.silent_say ..)

theorem choose_of_credential {s : Page.Settings} (h : HasCredential w.env s) :
    ∃ v, w.env.lookup s.credential = some v ∧
      Delivery.choose false w.env s = .send (some (Text.trimmed v)) := by
  obtain ⟨v, hv, hblank⟩ := h
  refine ⟨v, hv, Delivery.choose_eq_send_iff.mpr ⟨rfl, ?_⟩⟩
  refine credential?_eq_some_iff.mpr ⟨v, hv, rfl, fun hempty => ?_⟩
  rw [Text.trimmed_eq_empty_iff.mp hempty] at hblank
  cases hblank

theorem agree_runWith {c : Config} (hc : HasCredential w.env c.page) :
    Agree (CanSend m w.env c.page) (runWith m w true e c) (runWith m w false e c) := by
  cases hmake : Hook.make c m.fits with
  | error p =>
    unfold runWith
    rw [hmake]
    exact agree_reported _ _ p
  | ok h =>
    cases hruntime : m.runtime with
    | false =>
      unfold runWith
      rw [hmake, hruntime]
      exact .of_same (.problem .runtime) Effects.silent_none
    | true =>
      have hpage : h.page = c.page := (Hook.make_eq_ok_iff.mp hmake).2.2.2.2.1
      obtain ⟨v, hv, hchoose⟩ := choose_of_credential hc
      have hsend := alike_runWith (w := w) (e := e) hmake hruntime false
      rw [hchoose] at hsend
      have hhandle := agree_handle (m := m) (e := e) h (hpage ▸ hv)
      rw [hpage] at hhandle
      exact hhandle.congr (alike_runWith hmake hruntime true) hsend

end Stages

/-- The configuration that a run comes to load, when its input is an event. -/
def Loads (w : World) (path : Option String) (input : ByteArray) (c : Config) : Prop :=
  ∃ text e, String.fromUTF8? input = some text ∧ Tool.Event.read text = .ok e ∧
    Config.load w.files path e.cwd (w.env.lookup Config.pageVariable) = .ok c

/-- Where there is a credential, a run that prints agrees with the one that sends. It never sends
anything itself, and what it prints and comes to does not depend on the environment. -/
theorem print_agrees_with_send (m : Machine) (w : World) (path : Option String) (input : ByteArray) :
    (attempt m w ⟨path, true⟩ input).2.requests = [] ∧
    (∀ env, Alike (attempt m { w with env := env } ⟨path, true⟩ input)
      (attempt m w ⟨path, true⟩ input)) ∧
    ((∀ c, Loads w path input c → HasCredential w.env c.page) →
      Agree (∀ c, Loads w path input c → CanSend m w.env c.page)
        (attempt m w ⟨path, true⟩ input) (attempt m w ⟨path, false⟩ input)) := by
  refine ⟨requests_attempt_print m w path input, fun env => alike_attempt_print m w env path input,
    fun hcredential => ?_⟩
  cases hdecoded : String.fromUTF8? input with
  | none =>
    unfold attempt
    rw [hdecoded]
    exact .of_same (.problem .inputBytes) Effects.silent_none
  | some text =>
    cases hparsed : Tool.Event.read text with
    | error r =>
      unfold attempt
      simp only [hdecoded, hparsed]
      exact .of_same (.problem .inputShape) Effects.silent_none
    | ok e =>
      refine Agree.congr ?_ (alike_attempt hdecoded hparsed) (alike_attempt hdecoded hparsed)
      cases hload : Config.load w.files path e.cwd (w.env.lookup Config.pageVariable) with
      | error p =>
        unfold runEvent
        rw [hload]
        exact agree_reported _ none p
      | ok c =>
        have hloads : Loads w path input c := ⟨text, e, hdecoded, hparsed, hload⟩
        have hprint : loaded w ⟨path, true⟩ e = .ok c := hload
        have hsend : loaded w ⟨path, false⟩ e = .ok c := hload
        rw [runEvent_of_loaded hprint, runEvent_of_loaded hsend]
        exact (agree_runWith (hcredential c hloads)).mono fun hsend => hsend c hloads

/-- A world with a credential, and a transcript of one turn that writes a source file. -/
def World.ofOneTurn : World :=
  let turn := "[\"assistant\", null, [[[\"text\", \"Add `x`.\"], [\"tool_use\", \"Write\", [\"/App.java\", \"x\"]]]]]"
  ⟨⟨[(["", "t"], some turn.toUTF8)]⟩, [("NOTION_API_KEY", " key\n")], ⟨0⟩, fun _ => .status 200 ""⟩

/-- A passing test run, as it is told and as it is read. -/
def gradleInput : String := "[null, null, null, \"/t\", \"Bash\", [\"gradlew test\"], \"BUILD SUCCESSFUL\"]"

def Tool.Event.ofGradle : Tool.Event :=
  ⟨none, none, none, "/t", "Bash", .list [.text "gradlew test"], .text "BUILD SUCCESSFUL"⟩

theorem loads_ofGradle {c : Config} (h : Loads .ofOneTurn none gradleInput.toUTF8 c) :
    c = .standard := by
  obtain ⟨text, e, hdecoded, hparsed, hload⟩ := h
  have hdecoded' : String.fromUTF8? gradleInput.toUTF8 = some gradleInput := by decide +kernel
  have hparsed' : Tool.Event.read gradleInput = .ok .ofGradle := by rfl
  obtain rfl := Option.some.inj (hdecoded.symm.trans hdecoded')
  obtain rfl := Except.ok.inj (hparsed.symm.trans hparsed')
  exact (Except.ok.inj hload).symm

/-- The seven blocks of a section, read from what is printed and found in what is sent. -/
theorem print_agrees_with_send_ofGradle :
    let w := World.ofOneTurn
    let input := gradleInput.toUTF8
    (∀ c, Loads w none input c → HasCredential w.env c.page) ∧
    (∀ c, Loads w none input c → CanSend .able w.env c.page) ∧
    ∃ body r, Json.read (attempt .able w ⟨none, true⟩ input).2.stdout = some body ∧
      (body.listAt "children").length = 7 ∧
      (attempt .able w ⟨none, true⟩ input).1 = .ok (some (.published 7)) ∧
      (attempt .able w ⟨none, true⟩ input).2.requests = [] ∧
      (attempt .able w ⟨none, false⟩ input).2.requests = [r] ∧ r.body = body := by
  intro w input
  have hcredential : ∀ c, Loads w none input c → HasCredential w.env c.page := by
    intro c hc
    obtain rfl := loads_ofGradle hc
    exact ⟨" key\n", rfl, rfl⟩
  have hsend : ∀ c, Loads w none input c → CanSend .able w.env c.page := by
    intro c hc
    obtain rfl := loads_ofGradle hc
    refine ⟨rfl, ⟨_, rfl, by decide +kernel⟩, by decide +kernel, fun v hv => ?_⟩
    obtain rfl : " key\n" = v := Option.some.inj hv
    decide +kernel
  have hresult : (attempt .able w ⟨none, true⟩ input).1 = .ok (some (.published 7)) := by
    decide +kernel
  obtain ⟨hnone, -, hagree⟩ := print_agrees_with_send .able w none input
  refine ⟨hcredential, hsend, ?_⟩
  rcases hagree hcredential with ⟨-, hu, -, -⟩ | ⟨body, hbody, hpublished, hrequest⟩
  · rw [hresult] at hu
    cases hu
  · obtain ⟨r, hr, hrbody⟩ := hrequest hsend
    rw [hresult] at hpublished
    have hlength := Outcome.published.inj (Option.some.inj (Except.ok.inj hpublished))
    exact ⟨body, r, hbody, hlength.symm, hresult, hnone, hr, hrbody⟩

end CycleLog
