import CycleLog.Proofs.Overlay

/-!
# What is loaded

Loading consults one file at most (`source?`), and only what that file holds matters (`load_eq`). The
configuration overlays the standard one with it, key by key, and the page that the environment names comes
last (`view_override`). No key stands below another one (`apart_keys`), so adding a key to a document leaves
what it holds under the others (`at?_addedTo?_of_apart`).
-/

namespace CycleLog
set_option autoImplicit false

open Json

namespace Config

/-! ## The file that is consulted -/

/-- The file that is named, else the file of the project unless it is missing. -/
def source? (files : FileTree) (explicit cwd : Option String) : Option String :=
  match explicit, cwd with
  | some path, _ => some path
  | none, some dir =>
    match files.text (projectPath dir) with
    | .error .missing => none
    | _ => some (projectPath dir)
  | none, none => none

/-- What the consulted file holds. Where there is none, no key is set. -/
def document? (files : FileTree) (explicit cwd : Option String) : Option Value :=
  match source? files explicit cwd with
  | some path => (files.text path).toOption.bind Toml.read?
  | none => some (.object [])

section Load
variable {files : FileTree} {explicit cwd page : Option String} {c : Config}

theorem load_eq : load files explicit cwd page =
    (match source? files explicit cwd with
      | some path => readFile files path
      | none => .ok standard).map (override page) := by
  unfold load source?
  congr 1
  rcases explicit with _ | path <;> rcases cwd with _ | dir
  · rfl
  · dsimp only
    unfold readOptional
    cases htext : files.text (projectPath dir) with
    | ok text => simp only [readFile, htext]
    | error e =>
      cases e with
      | missing => rfl
      | unreadable => simp only [readFile, htext]
  · rfl
  · rfl

theorem readFile_eq_ok_iff {path : String} : readFile files path = .ok c ↔
    ∃ doc, (files.text path).toOption.bind Toml.read? = some doc ∧ read .passedOver doc = .ok c := by
  unfold readFile
  cases files.text path with
  | error e => simp [Except.toOption]
  | ok text =>
    simp only [parse, ofText?, Except.toOption, Option.bind_some]
    cases Toml.read? text with
    | none => simp
    | some doc => cases hread : read .passedOver doc <;> simp [hread]

theorem read_nothing : read .passedOver (.object []) = .ok standard := rfl

theorem load_eq_ok_iff : load files explicit cwd page = .ok c ↔
    ∃ doc s, document? files explicit cwd = some doc ∧ read .passedOver doc = .ok s ∧
      override page s = c := by
  rw [load_eq, map_eq_ok_iff, document?]
  cases source? files explicit cwd with
  | none => simp [read_nothing]
  | some path =>
    simp only [readFile_eq_ok_iff]
    exact ⟨fun ⟨s, ⟨doc, hdoc, hread⟩, hpage⟩ => ⟨doc, s, hdoc, hread, hpage⟩,
      fun ⟨doc, s, hdoc, hread, hpage⟩ => ⟨s, ⟨doc, hdoc, hread⟩, hpage⟩⟩

theorem keyedOnce_of_document? {doc : Value} (h : document? files explicit cwd = some doc) :
    doc.KeyedOnce := by
  unfold document? at h
  split at h
  · obtain ⟨text, -, hread⟩ := Option.bind_eq_some_iff.mp h
    exact Toml.keyedOnce_of_read? hread
  · obtain rfl := Option.some.inj h
    exact .object List.nodup_nil nofun

/-- The configuration depends on what the consulted file holds, and on no other file. -/
theorem load_of_source {files' : FileTree} {cwd' : Option String}
    (hsource : source? files' explicit cwd' = source? files explicit cwd)
    (htext : ∀ path, source? files explicit cwd = some path → files'.text path = files.text path) :
    load files' explicit cwd' page = load files explicit cwd page := by
  rw [load_eq, load_eq, hsource]
  cases hpath : source? files explicit cwd with
  | none => rfl
  | some path =>
    dsimp only
    rw [readFile, readFile, htext path hpath]

end Load

/-! ## The page of the environment -/

/-- The page that the environment names; a blank name counts for nothing. -/
def namedPage? (page : Option String) : Option String :=
  (page.filter fun s => !Text.blankText s.toList).map Text.trimmed

theorem override_eq_named (page : Option String) (c : Config) :
    override page c = match namedPage? page with
      | some id => { c with page := { c.page with pageId := id } }
      | none => c := by
  cases page with
  | none => rfl
  | some s =>
    unfold override namedPage?
    cases hblank : Text.blankText s.toList <;> simp [Option.filter_some, hblank]

def pagePath : List Slot := [⟨"notion", 0⟩, ⟨"page_id", 0⟩]

end Config

/-- What the environment sets a key to. -/
def Key.named? (page : Option String) (k : Key Config) : Option Value :=
  if k.path = Config.pagePath then (Config.namedPage? page).map .text else none

namespace Config

theorem view_override (page : Option String) (c : Config) :
    ∀ k ∈ keys, k.view (override page c) = (k.named? page).getD (k.view c) := by
  rw [override_eq_named]
  cases hnamed : namedPage? page with
  | none => simp [Key.named?, hnamed]
  | some id =>
    -- of all the keys only the page has the path of the page
    simp [Key.named?, hnamed, keys, pageKeys, triggerKeys, transcriptKeys, sortingKeys, lookKeys,
      phraseKeys, Key.under, Key.text, Key.number, pagePath]

section Document
variable {files : FileTree} {explicit cwd page : Option String} {doc : Value}
  (hdoc : document? files explicit cwd = some doc)
include hdoc

theorem readable_iff_load :
    Readable (read .passedOver) doc ↔ ∃ c, load files explicit cwd page = .ok c := by
  constructor
  · rintro ⟨s, hread⟩
    exact ⟨_, load_eq_ok_iff.mpr ⟨doc, s, hdoc, hread, rfl⟩⟩
  · rintro ⟨c, h⟩
    obtain ⟨v, s, hv, hread, -⟩ := load_eq_ok_iff.mp h
    obtain rfl := Option.some.inj (hdoc.symm.trans hv)
    exact ⟨s, hread⟩

/-- Each key of what is loaded has the value of the environment, of the document or of the standard
configuration, the first that there is. -/
theorem view_of_load {c : Config} (h : load files explicit cwd page = .ok c) :
    ∀ k ∈ keys, k.view c = (k.named? page).getD ((doc.at? k.path).getD (k.view standard)) := by
  intro k hk
  obtain ⟨v, s, hv, hread, rfl⟩ := load_eq_ok_iff.mp h
  obtain rfl := Option.some.inj (hdoc.symm.trans hv)
  rw [view_override page s k hk, (overlays_keys k hk).shows doc s (keyedOnce_of_document? hdoc) hread]

end Document

/-! ## Keys -/

/-- No key stands below another one. -/
theorem apart_keys {k l : Key Config} (hk : k ∈ keys) (hl : l ∈ keys) (hne : l.path ≠ k.path) :
    Slot.apart k.path l.path := by
  have hpaths : ∀ p ∈ keys.map Key.path, ∀ q ∈ keys.map Key.path, q ≠ p → Slot.apart p q := by
    decide +kernel
  exact hpaths _ (List.mem_map_of_mem hk) _ (List.mem_map_of_mem hl) hne

/-- A key that is added to what is loaded has to have a value that can be read. It sets what the
configuration has under it, unless the environment does, and nothing else. -/
theorem load_adding {files files' : FileTree} {explicit explicit' cwd cwd' page : Option String}
    {c : Config} {doc doc' u : Value} {k : Key Config} (hk : k ∈ keys)
    (h : load files explicit cwd page = .ok c) (hdoc : document? files explicit cwd = some doc)
    (hadded : doc.adding? k.path u = some doc') (hdoc' : document? files' explicit' cwd' = some doc') :
    ((∃ c', load files' explicit' cwd' page = .ok c') ↔
      Readable (read .passedOver) (u.only k.path)) ∧
    ∀ c', load files' explicit' cwd' page = .ok c' →
      k.view c' = (k.named? page).getD u ∧ ∀ l ∈ keys, l.path ≠ k.path → l.view c' = l.view c := by
  refine ⟨?_, fun c' h' => ⟨?_, fun l hl hne => ?_⟩⟩
  · refine (readable_iff_load hdoc').symm.trans ((overlays_keys k hk).grows _ u doc' hadded ?_)
    rintro _ ⟨⟩
    exact (readable_iff_load hdoc).mpr ⟨c, h⟩
  · rw [view_of_load hdoc' h' k hk, at?_addedTo? hadded, Option.getD_some]
  · rw [view_of_load hdoc' h' l hl, view_of_load hdoc h l hl,
      at?_addedTo?_of_apart (apart_keys hk hl hne) hadded, Option.bind_some]

/-- One file at most is consulted, and no other matters. Each key has the value that the file sets, or the
standard one; the page that the environment names comes first. So a key that is added to the file, with
a value that can be read, changes what the configuration has under it and nothing else. -/
theorem load_overlays {files : FileTree} {explicit cwd page : Option String} {c : Config}
    (h : load files explicit cwd page = .ok c) :
    (∀ files' cwd', source? files' explicit cwd' = source? files explicit cwd →
      (∀ path, source? files explicit cwd = some path → files'.text path = files.text path) →
      load files' explicit cwd' page = .ok c) ∧
    (∀ c', (∀ k ∈ keys, k.view c' = k.view c) → c' = c) ∧
    ∃ doc, document? files explicit cwd = some doc ∧
      (∀ k ∈ keys, k.view c = (k.named? page).getD ((doc.at? k.path).getD (k.view standard))) ∧
      ∀ files' explicit' cwd' doc' u, ∀ k ∈ keys, doc.adding? k.path u = some doc' →
        document? files' explicit' cwd' = some doc' →
        ((∃ c', load files' explicit' cwd' page = .ok c') ↔
          Readable (read .passedOver) (u.only k.path)) ∧
        ∀ c', load files' explicit' cwd' page = .ok c' →
          k.view c' = (k.named? page).getD u ∧ ∀ l ∈ keys, l.path ≠ k.path → l.view c' = l.view c := by
  obtain ⟨doc, -, hdoc, -⟩ := load_eq_ok_iff.mp h
  exact ⟨fun files' cwd' hsource htext => (load_of_source hsource htext).trans h,
    fun c' => determine_keys c c', doc, hdoc, view_of_load hdoc h,
    fun files' explicit' cwd' doc' u k hk hadded hdoc' => load_adding hk h hdoc hadded hdoc'⟩

/-- A project whose file holds the text. -/
def projectWith (text : String) : FileTree :=
  ⟨[(["", "t", ".claude", "tdd-notion-logger.toml"], some text.toUTF8)]⟩

def ofRed : Config :=
  { standard with
    page := { Page.Settings.standard with pageId := "p" }
    look := { Section.Settings.standard with
      phrases := { Section.Phrases.standard with red := "a" } } }

theorem document?_projectWith {text : String}
    (h : (projectWith text).text (projectPath "/t") = .ok text) :
    document? (projectWith text) none (some "/t") = Toml.read? text := by
  simp [document?, source?, h, Except.toOption]

/-- A tool that is added to a file with a phrase, under a page of the environment. -/
theorem load_overlays_ofRed :
    let files := projectWith "render.phrases.red = \"a\""
    let files' := projectWith "render.phrases.red = \"a\"\ntrigger.tool_name = \"b\""
    load files none (some "/t") (some " p ") = .ok ofRed ∧
    ∃ c', load files' none (some "/t") (some " p ") = .ok c' ∧ c'.trigger.tool = "b" ∧
      ∀ l ∈ keys, l.path ≠ [⟨"trigger", 1⟩, ⟨"tool_name", 0⟩] → l.view c' = l.view ofRed := by
  intro files files'
  have h : load files none (some "/t") (some " p ") = .ok ofRed := by decide +kernel
  have hred : Toml.read? "render.phrases.red = \"a\"" =
      some (.object [("render", .object [("phrases", .object [("red", .text "a")])])]) := by
    decide +kernel
  have hboth : Toml.read? "render.phrases.red = \"a\"\ntrigger.tool_name = \"b\"" =
      some (.object [("render", .object [("phrases", .object [("red", .text "a")])]),
        ("trigger", .object [("tool_name", .text "b")])]) := by
    decide +kernel
  have hdoc := (document?_projectWith (by decide +kernel)).trans hred
  have hdoc' := (document?_projectWith (by decide +kernel)).trans hboth
  obtain ⟨-, -, doc, hfound, -, hadding⟩ := load_overlays h
  obtain rfl := Option.some.inj (hfound.symm.trans hdoc)
  obtain ⟨hreadable, hchanges⟩ := hadding files' none (some "/t") _ (.text "b")
    (.under ⟨"trigger", 1⟩ Config.trigger (.text "tool_name" 0 (·.tool))) (by simp [keys, triggerKeys])
    rfl hdoc'
  obtain ⟨c', h'⟩ := hreadable.mpr ⟨_, rfl⟩
  obtain ⟨htool, hothers⟩ := hchanges c' h'
  exact ⟨h, c', h', Value.text.inj htool, hothers⟩

end Config
end CycleLog
