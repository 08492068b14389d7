import CycleLog.Proofs.Sending

/-!
# When a problem with the configuration is reported

`InForce` says which filter counts for an event, in whatever state the configuration is: the
configured one where it can be had, and the standard one otherwise. The filter that a run falls back
to is that one (`effective_of_load_error`, `effective_of_load`), and so is the filter of the hook
(`filter_eq_of_setUp`). So one verdict decides everything: a refused event ends well and in silence,
and an accepted one brings out what is wrong with the configuration.
-/

namespace CycleLog
set_option autoImplicit false

open Trigger (Filter Refusal TestRun)

/-! ## The filter in force -/

/-- The configuration that counts for an event. -/
def loaded (w : World) (o : CommandLine.Options) (e : Tool.Event) : Except Problem Config :=
  Config.load w.files o.config e.cwd (w.env.lookup Config.pageVariable)

/-- The hook that is made of that configuration, or the first problem on the way. -/
def setUp (m : Machine) (w : World) (o : CommandLine.Options) (e : Tool.Event) : Except Problem Hook :=
  loaded w o e >>= (Hook.make · m.fits)

/-- The configured filter, if the configuration loads and its pattern can be read, and the standard
one otherwise. -/
inductive InForce (m : Machine) (w : World) (o : CommandLine.Options) (e : Tool.Event) : Filter → Prop where
  | configured {c : Config} {f : Filter} (load : loaded w o e = .ok c)
      (make : Filter.make c.trigger m.fits = .ok f) : InForce m w o e f
  | standard {f : Filter} (none : ∀ c g, loaded w o e = .ok c → Filter.make c.trigger m.fits ≠ .ok g)
      (make : Filter.make .standard m.fits = .ok f) : InForce m w o e f

/-- Where a text fits, its size plays no part in whether it is a pattern. -/
theorem Pattern.read_of_fits {fits : SizeLimit} {s : String} (h : fits s.toList = true) :
    read? fits s = read? (fun _ => true) s := by
  simp only [read?, readList?, h]

/-- The standard filter can be had on every machine. -/
theorem make_standard (m : Machine) : ∃ f, Filter.make .standard m.fits = .ok f := by
  have hread : (Pattern.read? m.fits Trigger.Settings.standard.command).isSome := by
    rw [Pattern.read_of_fits m.fitsStandard]
    decide +kernel
  obtain ⟨p, hp⟩ := Option.isSome_iff_exists.mp hread
  rw [Filter.make, Trigger.Matcher.make, hp]
  exact ⟨_, rfl⟩

section InForce
variable {m : Machine} {w : World} {o : CommandLine.Options} {e : Tool.Event} {f : Filter}

theorem exists_inForce (m : Machine) (w : World) (o : CommandLine.Options) (e : Tool.Event) :
    ∃ f, InForce m w o e f := by
  by_cases h : ∃ c g, loaded w o e = .ok c ∧ Filter.make c.trigger m.fits = .ok g
  · obtain ⟨c, g, hload, hmake⟩ := h
    exact ⟨g, .configured hload hmake⟩
  · obtain ⟨f, hmake⟩ := make_standard m
    exact ⟨f, .standard (fun c g hload hg => h ⟨c, g, hload, hg⟩) hmake⟩

/-- Without a configuration a run falls back to the filter in force. -/
theorem effective_of_load_error {p : Problem} (h : InForce m w o e f) (hload : loaded w o e = .error p) :
    Trigger.effective none m.fits = .ok f := by
  cases h with
  | configured hc =>
    rw [hload] at hc
    cases hc
  | standard _ hmake => exact hmake

/-- With a configuration, even one that makes no hook, the filter in force is that of its trigger,
where it has one. -/
theorem effective_of_load {c : Config} (h : InForce m w o e f) (hload : loaded w o e = .ok c) :
    Trigger.effective (some c.trigger) m.fits = .ok f := by
  unfold Trigger.effective
  cases h with
  | configured hc hmake =>
    obtain rfl := Except.ok.inj (hload.symm.trans hc)
    rw [Option.map_some, hmake]
  | standard hnone hmake =>
    rw [Option.map_some]
    cases hg : Filter.make c.trigger m.fits with
    | ok g => exact absurd hg (hnone c g hload)
    | error p => exact hmake

theorem reported_of_effective {settings : Option Trigger.Settings}
    (h : Trigger.effective settings m.fits = .ok f) (p : Problem) : reported m e settings p =
      if (f.check e).isOk then (.error p, .none) else (.ok none, ignoredLine p) := by
  unfold reported Trigger.wouldTrigger
  rw [h]

/-! ## Events -/

/-- With a problem in the configuration, the filter in force decides whether it is reported. -/
theorem runEvent_of_setUp_error {p : Problem} (h : InForce m w o e f) (hs : setUp m w o e = .error p) :
    runEvent m w o e = if (f.check e).isOk then (.error p, .none) else (.ok none, ignoredLine p) := by
  unfold runEvent
  rw [← loaded]
  -- what a run falls back to depends on how far it came
  cases hload : loaded w o e with
  | error q =>
    rw [setUp, hload] at hs
    obtain rfl := Except.error.inj hs
    exact reported_of_effective (effective_of_load_error h hload) q
  | ok c =>
    rw [setUp, hload] at hs
    have hmake : Hook.make c m.fits = .error p := hs
    dsimp only
    rw [runWith, hmake]
    exact reported_of_effective (effective_of_load h hload) p

theorem filter_eq_of_setUp {h : Hook} (hf : InForce m w o e f) (hs : setUp m w o e = .ok h) :
    h.filter = f := by
  obtain ⟨c, hload, hmake⟩ := bind_eq_ok_iff.mp hs
  have hfilter := (Hook.make_eq_ok_iff.mp hmake).2.1
  cases hf with
  | configured hc hg =>
    obtain rfl := Except.ok.inj (hload.symm.trans hc)
    exact Except.ok.inj (hfilter.symm.trans hg)
  | standard hnone => exact absurd hfilter (hnone c _ hload)

/-- A hook passes over an event that its filter refuses. -/
theorem runEvent_of_refused {h : Hook} {r : Refusal} (hs : setUp m w o e = .ok h)
    (hr : h.filter.check e = .error r) : (runEvent m w o e).2.Silent ∧
      (m.runtime = true → (runEvent m w o e).1 = .ok (some (.ineligible r))) := by
  obtain ⟨c, hload, hmake⟩ := bind_eq_ok_iff.mp hs
  unfold runEvent
  rw [← loaded, hload]
  simp only [runWith, hmake, Hook.handle, hr]
  cases m.runtime with
  | false => exact ⟨Effects.silent_none, fun hm => absurd hm Bool.false_ne_true⟩
  | true => exact ⟨(Effects.silent_say ..).append (silent_outcomeLine _), fun _ => rfl⟩

/-! ## Verdicts of a hook -/

/-- What is delivered is not passed over. -/
theorem Delivery.isSkip_of_deliver {d : Delivery} {s : Page.Settings} {blocks : List Page.Block}
    {outcome : Outcome} (hd : (d.deliver m w s blocks).1 = .ok outcome) : outcome.isSkip = false := by
  cases d with
  | print =>
    obtain rfl : Outcome.published blocks.length = outcome := Except.ok.inj hd
    rfl
  | send key =>
    unfold Delivery.deliver at hd
    dsimp only at hd
    split at hd
    · obtain rfl := Except.ok.inj hd
      rw [(sendSection_eq w s (key.getD "") blocks).1]
      exact isSkip_sentOutcome blocks _
    · cases hd

theorem Hook.handleRun_ne_ineligible (h : Hook) (t : TestRun) (d : Delivery) (r : Refusal) :
    (h.handleRun w e t d m).1 ≠ .ok (.ineligible r) := by
  intro hr
  unfold Hook.handleRun at hr
  split at hr
  · cases hr
  split at hr
  · cases hr
  generalize h.section w t e.transcript = x at hr
  obtain ⟨_ | blocks, said⟩ := x
  · cases hr
  · have hd : (d.deliver m w h.page blocks).1 = .ok (.ineligible r) := by
      dsimp only at hr
      generalize d.deliver m w h.page blocks = y at hr ⊢
      exact hr
    cases Delivery.isSkip_of_deliver hd

theorem Hook.handle_eq_ineligible_iff (h : Hook) (d : Delivery) (r : Refusal) :
    (h.handle w e d m).1 = .ok (.ineligible r) ↔ h.filter.check e = .error r := by
  unfold Hook.handle
  cases h.filter.check e with
  | error s => simp
  | ok t => simpa using h.handleRun_ne_ineligible t d r

/-! ## Runs -/

theorem run_of_event {input : ByteArray} {text : String} (hdecoded : String.fromUTF8? input = some text)
    (hparsed : Tool.Event.read text = .ok e) : run w o input m =
      ((runEvent m w o e).1.map fun _ => (), eventLine e ++ (runEvent m w o e).2) := by
  unfold run attempt
  simp only [hdecoded, hparsed]

theorem run_of_refused {input : ByteArray} {text : String} {r : Refusal} (hf : InForce m w o e f)
    (hdecoded : String.fromUTF8? input = some text) (hparsed : Tool.Event.read text = .ok e)
    (hr : f.check e = .error r) : (run w o input m).2.Silent ∧
      ((run w o input m).1 = .ok () ∨ m.runtime = false ∧ ∃ h, setUp m w o e = .ok h) := by
  rw [run_of_event hdecoded hparsed]
  cases hs : setUp m w o e with
  | error p =>
    rw [runEvent_of_setUp_error hf hs, hr]
    exact ⟨(silent_eventLine e).append (Effects.silent_say ..), .inl rfl⟩
  | ok h =>
    rw [← filter_eq_of_setUp hf hs] at hr
    obtain ⟨hsilent, hresult⟩ := runEvent_of_refused (m := m) hs hr
    refine ⟨(silent_eventLine e).append hsilent, ?_⟩
    cases hm : m.runtime with
    | false => exact .inr ⟨rfl, h, rfl⟩
    | true =>
      rw [hresult hm]
      exact .inl rfl

theorem run_of_accepted {input : ByteArray} {text : String} {t : TestRun} {p : Problem}
    (hf : InForce m w o e f) (hdecoded : String.fromUTF8? input = some text)
    (hparsed : Tool.Event.read text = .ok e) (ht : f.check e = .ok t) (hs : setUp m w o e = .error p) :
    (run w o input m).1 = .error p ∧ (run w o input m).2.Silent := by
  rw [run_of_event hdecoded hparsed, runEvent_of_setUp_error hf hs, ht]
  exact ⟨rfl, (silent_eventLine e).append Effects.silent_none⟩

end InForce

/-- There is a filter in force for every event, and it decides. A run on an event that it refuses
ends well and neither sends nor prints anything, whatever is wrong with the configuration (when
nothing is, a runtime has to start first). On an event that it accepts a problem with the
configuration is what the run ends with, and again nothing is sent. A hook that can be made has that
filter, so that it passes over the very events that the filter refuses. -/
theorem problem_reported_iff_accepted (m : Machine) (w : World) (o : CommandLine.Options)
    {input : ByteArray} {text : String} {e : Tool.Event}
    (hdecoded : String.fromUTF8? input = some text) (hparsed : Tool.Event.read text = .ok e) :
    (∃ f, InForce m w o e f) ∧ ∀ f, InForce m w o e f →
      (∀ r, f.check e = .error r → (run w o input m).2.Silent ∧
        ((run w o input m).1 = .ok () ∨ m.runtime = false ∧ ∃ h, setUp m w o e = .ok h)) ∧
      (∀ t p, f.check e = .ok t → setUp m w o e = .error p →
        (run w o input m).1 = .error p ∧ (run w o input m).2.Silent) ∧
      ∀ h, setUp m w o e = .ok h → h.filter = f ∧
        ∀ d r, (h.handle w e d m).1 = .ok (.ineligible r) ↔ f.check e = .error r := by
  refine ⟨exists_inForce m w o e, fun f hf => ⟨?_, ?_, ?_⟩⟩
  · intro r hr
    exact run_of_refused hf hdecoded hparsed hr
  · intro t p ht hs
    exact run_of_accepted hf hdecoded hparsed ht hs
  · intro h hs
    have hfilter := filter_eq_of_setUp hf hs
    refine ⟨hfilter, fun d r => ?_⟩
    rw [h.handle_eq_ineligible_iff, hfilter]

/-- A project of its own test command, whose pattern for source files is none. -/
def World.ofBrokenProject : World :=
  let text := "[trigger]\ncommand_pattern = \"pytest\"\n[classifier]\nsource_file_pattern = \"(\"\n"
  ⟨⟨[(["", "p", ".claude", "tdd-notion-logger.toml"], some text.toUTF8)]⟩, [], ⟨0⟩,
    fun _ => .unreachable⟩

/-- A passing run of that command, as it is told and as it is read. -/
def pytestInput : String := "[null, \"/p\", null, \"/t\", \"Bash\", [\"pytest\"], \"BUILD SUCCESSFUL\"]"

def Tool.Event.ofPytest : Tool.Event :=
  ⟨none, some "/p", none, "/t", "Bash", .list [.text "pytest"], .text "BUILD SUCCESSFUL"⟩

/-- The configured filter is in force though no hook can be made, and it accepts the event. -/
theorem problem_reported_ofPytest :
    let w := World.ofBrokenProject
    let o : CommandLine.Options := ⟨none, false⟩
    String.fromUTF8? pytestInput.toUTF8 = some pytestInput ∧ Tool.Event.read pytestInput = .ok .ofPytest ∧
    (∃ f, InForce .able w o .ofPytest f ∧ f.check .ofPytest = .ok ⟨"pytest", "BUILD SUCCESSFUL"⟩) ∧
    setUp .able w o .ofPytest = .error (.sourceFile "(") ∧
    (run w o pytestInput.toUTF8).1 = .error (.sourceFile "(") ∧ (run w o pytestInput.toUTF8).2.Silent := by
  intro w o
  have hdecoded : String.fromUTF8? pytestInput.toUTF8 = some pytestInput := by decide +kernel
  have hparsed : Tool.Event.read pytestInput = .ok .ofPytest := by rfl
  have haccepted : (do
      let c ← loaded w o .ofPytest
      let f ← Filter.make c.trigger
      .ok (f.check .ofPytest) : Except Problem (Except Refusal TestRun)) =
        .ok (.ok ⟨"pytest", "BUILD SUCCESSFUL"⟩) := by decide +kernel
  have hproblem : (setUp .able w o .ofPytest).map (fun _ => ()) = .error (.sourceFile "(") := by
    decide +kernel
  obtain ⟨c, hload, hrest⟩ := bind_eq_ok_iff.mp haccepted
  obtain ⟨f, hmake, hcheck⟩ := bind_eq_ok_iff.mp hrest
  have hforce : InForce .able w o .ofPytest f := .configured hload hmake
  have hset : setUp .able w o .ofPytest = .error (.sourceFile "(") := by
    cases hs : setUp .able w o .ofPytest with
    | error p =>
      rw [hs] at hproblem
      rw [Except.error.inj hproblem]
    | ok h =>
      rw [hs] at hproblem
      cases hproblem
  have hrun := (problem_reported_iff_accepted .able w o hdecoded hparsed).2 f hforce
  exact ⟨hdecoded, hparsed, ⟨f, hforce, Except.ok.inj hcheck⟩, hset,
    hrun.2.1 _ _ (Except.ok.inj hcheck) hset⟩

end CycleLog
