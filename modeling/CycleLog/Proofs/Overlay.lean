import CycleLog.Config.Load
import CycleLog.Proofs.Commands
import CycleLog.Proofs.Paths

/-!
# The configuration as an overlay

A file sets some keys of the configuration and leaves the others as they are. `Key` is one key with the
value that a configuration has under it, `keys` are all of them. Reading a record `Overlays` a value on
what it starts from: key by key, the value or else the start (`shows`), and a key can be added just when
it can be read alone (`grows`). `Overlays.field` lifts this from a field to the record around it.
-/

namespace CycleLog
set_option autoImplicit false

namespace Json

/-! ## Readings -/

def Readable {α : Type} (read : Value → Except Mismatch α) (v : Value) : Prop := ∃ a, read v = .ok a

/-- A reading overlays what it starts from with the values that stand at the end of a path. -/
structure Overlays {σ : Type} (read : Value → Except Mismatch σ) (start : σ) (path : List Slot)
    (view : σ → Value) : Prop where
  /-- What is read shows the value that stands there, or else what the reading starts from. -/
  shows : ∀ v s, v.KeyedOnce → read v = .ok s → view s = (v.at? path).getD (view start)
  /-- A value may be added there just when it may stand there alone. -/
  grows : ∀ v u w, addedTo? u path v = some w → (∀ x, v = some x → Readable read x) →
    (Readable read w ↔ Readable read (u.only path))

theorem readable_addedTo?_nil {α : Type} {read : Value → Except Mismatch α} {v : Option Value}
    {u w : Value} (h : addedTo? u [] v = some w) : Readable read w ↔ Readable read (u.only []) := by
  cases v with
  | none =>
    obtain rfl := Option.some.inj h
    rfl
  | some _ => cases h

theorem overlays_text (start : String) : Overlays toText start [] .text := by
  refine ⟨fun v s _ h => ?_, fun _ _ _ h _ => readable_addedTo?_nil h⟩
  unfold toText at h
  split at h
  · exact congrArg Value.text (Except.ok.inj h).symm
  · cases h

theorem toInteger_eq_ok_iff {expected : String} {least most n : Int} {v : Value} :
    toInteger expected least most v = .ok n ↔ v = .int n ∧ least ≤ n ∧ n ≤ most := by
  constructor
  · intro h
    unfold toInteger at h
    split at h
    · split at h
      · next hrange =>
        obtain rfl := Except.ok.inj h
        exact ⟨rfl, hrange⟩
      · cases h
    · cases h
  · rintro ⟨rfl, hrange⟩
    exact if_pos hrange

theorem overlays_integer (expected : String) (least most start : Int) :
    Overlays (toInteger expected least most) start [] .int := by
  refine ⟨fun v n _ h => ?_, fun _ _ _ h _ => readable_addedTo?_nil h⟩
  exact (toInteger_eq_ok_iff.mp h).1.symm

theorem overlays_nat (expected : String) (start : Nat) :
    Overlays (toNat expected) start [] (fun n => .int n) := by
  refine ⟨fun v n _ h => ?_, fun _ _ _ h _ => readable_addedTo?_nil h⟩
  obtain ⟨i, hi, rfl⟩ := map_eq_ok_iff.mp h
  obtain ⟨rfl, hnonneg, -⟩ := toInteger_eq_ok_iff.mp hi
  exact congrArg Value.int (Int.toNat_of_nonneg hnonneg)

/-! ## Fields of a record -/

/-- A field that may be missing, and takes a value whatever the record holds or takes it never. -/
def RecordField.IsOptional {σ : Type} (f : RecordField σ) : Prop :=
  f.required = false ∧ ∀ v s t u, f.put v s = .ok t → Readable (f.put · u) v

section Optional
variable {σ α : Type} (name : String) (read : Value → Except Mismatch α) (put : α → σ → σ)

@[simp] theorem name_optional : (RecordField.optional name read put).name = name := rfl

@[simp] theorem put_optional_eq_ok_iff {v : Value} {s t : σ} :
    (RecordField.optional name read put).put v s = .ok t ↔ ∃ a, read v = .ok a ∧ put a s = t :=
  map_eq_ok_iff

@[simp] theorem isOptional_optional : (RecordField.optional name read put).IsOptional := by
  refine ⟨rfl, fun v s t u h => ?_⟩
  obtain ⟨a, ha, -⟩ := (put_optional_eq_ok_iff name read put).mp h
  exact ⟨put a u, (put_optional_eq_ok_iff name read put).mpr ⟨a, ha, rfl⟩⟩

end Optional

section Fields
variable {σ α : Type} {fields : List (RecordField σ)} {view : σ → α} {key expected : String}
  {i j : Nat} {f : RecordField σ} {vs : List Value} {s t : σ}

theorem find?_of_getElem? (hnames : (fields.map (·.name)).Nodup) (hf : fields[j]? = some f) :
    fields.find? (fun g => g.name == f.name) = some f := by
  induction fields generalizing j with
  | nil => cases hf
  | cons g gs ih =>
    rw [List.map_cons, List.nodup_cons] at hnames
    cases j with
    | zero =>
      obtain rfl : g = f := Option.some.inj hf
      simp
    | succ j =>
      rw [List.getElem?_cons_succ] at hf
      have hne : g.name ≠ f.name := fun heq =>
        hnames.1 (heq ▸ List.mem_map_of_mem (List.mem_of_getElem? hf))
      rw [List.find?_cons_of_neg (by simpa using hne), ih hnames.2 hf]

theorem view_of_readItems (hview : OnlySetBy key view fields) (hkey : key ∉ fields.map (·.name))
    (h : readItems expected i fields vs s = .ok t) : view t = view s := by
  induction fields generalizing i vs s with
  | nil => rw [Except.ok.inj h]
  | cons f fs ih =>
    obtain ⟨hf, hfs⟩ := List.forall_mem_cons.mp hview
    rw [List.map_cons, List.mem_cons, not_or] at hkey
    cases vs with
    | nil =>
      rw [readItems] at h
      split at h
      · cases h
      · exact ih hfs hkey.2 h
    | cons v vs =>
      obtain ⟨u, hu, h⟩ := bind_eq_ok_iff.mp h
      rw [ih hfs hkey.2 h]
      exact hf (Ne.symm hkey.1) v s u hu

/-- Where every name stands once, a field holds what the item at its place has put into it. -/
theorem put_of_readItems (hview : OnlySetBy f.name view fields)
    (hnames : (fields.map (·.name)).Nodup) (hf : fields[j]? = some f)
    (h : readItems expected i fields vs s = .ok t) :
    (vs[j]? = none → view t = view s) ∧
    ∀ v, vs[j]? = some v → ∃ a b, f.put v a = .ok b ∧ view t = view b := by
  induction fields generalizing i j vs s with
  | nil => cases hf
  | cons g gs ih =>
    obtain ⟨hg, hgs⟩ := List.forall_mem_cons.mp hview
    rw [List.map_cons, List.nodup_cons] at hnames
    cases vs with
    | nil =>
      rw [readItems] at h
      split at h
      · cases h
      · refine ⟨fun _ => ?_, nofun⟩
        cases j with
        | zero =>
          obtain rfl : g = f := Option.some.inj hf
          exact view_of_readItems hgs hnames.1 h
        | succ j => exact (ih hgs hnames.2 hf h).1 rfl
    | cons v vs =>
      obtain ⟨u, hu, h⟩ := bind_eq_ok_iff.mp h
      cases j with
      | zero =>
        obtain rfl : g = f := Option.some.inj hf
        refine ⟨nofun, fun w hw => ?_⟩
        obtain rfl : v = w := Option.some.inj hw
        exact ⟨s, u, hu, view_of_readItems hgs hnames.1 h⟩
      | succ j =>
        rw [List.getElem?_cons_succ] at hf
        have hne : g.name ≠ f.name := fun heq =>
          hnames.1 (heq ▸ List.mem_map_of_mem (List.mem_of_getElem? hf))
        obtain ⟨hnone, hsome⟩ := ih hgs hnames.2 hf h
        rw [hg hne v s u hu] at hnone
        exact ⟨hnone, hsome⟩

/-- A field of a record that is read holds what the value at its slot has put into it, or what it held. -/
theorem put_of_readRecord {record : String} {v : Value} (hview : OnlySetBy f.name view fields)
    (hnames : (fields.map (·.name)).Nodup) (hf : fields[j]? = some f) (hv : v.KeyedOnce)
    (h : readRecord record .passedOver fields s v = .ok t) :
    (v.slot? ⟨f.name, j⟩ = none → view t = view s) ∧
    ∀ u, v.slot? ⟨f.name, j⟩ = some u → ∃ a b, f.put u a = .ok b ∧ view t = view b := by
  cases hv with
  | object hkeys _ =>
    obtain ⟨u, hread, h⟩ := bind_eq_ok_iff.mp h
    split at h
    · cases h
    · obtain rfl := Except.ok.inj h
      refine ⟨fun hnone => ?_, fun w hw => ?_⟩
      · refine view_of_readMembers hview (fun hmem => ?_) hread
        obtain ⟨m, hm, hname⟩ := List.mem_map.mp hmem
        have hne := List.lookup_eq_none_iff.mp hnone m hm
        simp [hname] at hne
      · exact put_of_readMembers hview (find?_of_getElem? hnames hf) hkeys hw hread
  | list _ =>
    obtain ⟨u, hread, h⟩ := bind_eq_ok_iff.mp h
    obtain ⟨-, -, h⟩ := bind_eq_ok_iff.mp h
    obtain rfl := Except.ok.inj h
    exact put_of_readItems hview hnames hf hread
  | null => cases h
  | bool => cases h
  | int => cases h
  | real => cases h
  | text => cases h

/-- The field of that name takes the value, if there is one. -/
def Taken (fields : List (RecordField σ)) (m : Member) : Prop :=
  ∀ f, fields.find? (fun g => g.name == m.1) = some f → ∀ s, Readable (f.put · s) m.2

theorem taken_iff {α : Type} {name : String} {read : Value → Except Mismatch α} {put : α → σ → σ}
    (s : σ) (hfield : fields.find? (fun g => g.name == name) = some (.optional name read put))
    (v : Value) : Taken fields (name, v) ↔ Readable read v := by
  constructor
  · intro h
    obtain ⟨t, ht⟩ := h _ hfield s
    obtain ⟨a, ha, -⟩ := map_eq_ok_iff.mp ht
    exact ⟨a, ha⟩
  · rintro ⟨a, ha⟩ f hf t
    obtain rfl := Option.some.inj (hfield.symm.trans hf)
    exact ⟨put a t, map_eq_ok_iff.mpr ⟨a, ha, rfl⟩⟩

section Growth
variable {record : String} {surplus : Surplus} {start : σ} {m : Member} {ms : List Member}
  (hoptional : ∀ f ∈ fields, f.IsOptional)
include hoptional

theorem readMembers_ok_iff : (∃ t, readMembers fields ms s = .ok t) ↔ ∀ m ∈ ms, Taken fields m := by
  induction ms generalizing s with
  | nil => exact ⟨fun _ => nofun, fun _ => ⟨s, rfl⟩⟩
  | cons m ms ih =>
    obtain ⟨k, v⟩ := m
    rw [readMembers_cons, List.forall_mem_cons]
    cases hf : fields.find? fun f => f.name == k with
    | none =>
      have hnone : Taken fields (k, v) := fun f h => nomatch hf.symm.trans h
      exact ih.trans (and_iff_right hnone).symm
    | some f =>
      constructor
      · rintro ⟨t, h⟩
        obtain ⟨u, hu, h⟩ := bind_eq_ok_iff.mp h
        refine ⟨fun g hg s' => ?_, ih.mp ⟨t, h⟩⟩
        obtain rfl := Option.some.inj (hf.symm.trans hg)
        exact (hoptional f (List.mem_of_find?_eq_some hf)).2 v s u s' hu
      · rintro ⟨hm, hms⟩
        obtain ⟨u, hu⟩ := hm f hf s
        obtain ⟨t, ht⟩ := ih.mpr hms
        exact ⟨t, bind_eq_ok_iff.mpr ⟨u, hu, ht⟩⟩

theorem readable_object_iff : Readable (readRecord record surplus fields start) (.object ms) ↔
    ∀ m ∈ ms, Taken fields m := by
  have hmissing : missingField? fields ms = none := by
    refine Option.map_eq_none_iff.mpr (List.find?_eq_none.mpr fun f hf => ?_)
    simp [(hoptional f hf).1]
  rw [← readMembers_ok_iff hoptional (s := start), Readable]
  simp only [readRecord, hmissing]
  exact exists_congr fun t => bind_eq_ok_iff.trans (by simp)

/-- A record that can be read takes one more member if the field of its name takes the value. -/
theorem readable_insertMember
    (h : Readable (readRecord record surplus fields start) (.object ms)) :
    Readable (readRecord record surplus fields start) (.object (insertMember m ms)) ↔
      Taken fields m := by
  rw [readable_object_iff hoptional] at h ⊢
  refine ⟨fun hall => hall m (mem_insertMember_self m ms), fun hm n hn => ?_⟩
  rcases mem_insertMember hn with rfl | hn
  · exact hm
  · exact h n hn

end Growth
end Fields

/-- Fields that may all be missing, each with a name of its own. -/
structure AllOptional {σ : Type} (fields : List (RecordField σ)) : Prop where
  names : (fields.map (·.name)).Nodup
  optional : ∀ f ∈ fields, f.IsOptional

section Field
variable {σ α : Type} {record : String} {fields : List (RecordField σ)} {start : σ}
  {read : Value → Except Mismatch α} {put : α → σ → σ} {p : Slot} {path : List Slot}
  (hfield : fields[p.place]? = some (.optional p.name read put)) (hfields : AllOptional fields)
include hfield hfields

/-- What may be added in a field may be added in the record. -/
theorem readable_addedTo?_cons {v : Option Value} {u w : Value}
    (hgrows : ∀ v w, addedTo? u path v = some w → (∀ x, v = some x → Readable read x) →
      (Readable read w ↔ Readable read (u.only path)))
    (hadded : addedTo? u (p :: path) v = some w)
    (hv : ∀ x, v = some x → Readable (readRecord record .passedOver fields start) x) :
    Readable (readRecord record .passedOver fields start) w ↔
      Readable (readRecord record .passedOver fields start) (u.only (p :: path)) := by
  obtain ⟨ms, w', hms, hw', rfl⟩ := addedTo?_cons hadded
  have htaken (x : Value) : Taken fields (p.name, x) ↔ Readable read x :=
    taken_iff start (find?_of_getElem? hfields.names hfield) x
  have hempty : Readable (readRecord record .passedOver fields start) (.object []) :=
    (readable_object_iff hfields.optional).mpr fun _ hm => absurd hm List.not_mem_nil
  have hobject : Readable (readRecord record .passedOver fields start) (.object ms) := by
    cases v with
    | none =>
      obtain rfl := Value.object.inj hms
      exact hempty
    | some x =>
      obtain rfl : x = .object ms := hms
      exact hv _ rfl
  have hmember (x : Value) (hx : ms.lookup p.name = some x) : Readable read x :=
    (htaken x).mp ((readable_object_iff hfields.optional).mp hobject _ (mem_of_lookup hx))
  calc Readable (readRecord record .passedOver fields start) (.object (insertMember (p.name, w') ms))
      ↔ Taken fields (p.name, w') := readable_insertMember hfields.optional hobject
    _ ↔ Readable read w' := htaken w'
    _ ↔ Readable read (u.only path) := hgrows _ w' hw' hmember
    _ ↔ Taken fields (p.name, u.only path) := (htaken _).symm
    _ ↔ Readable (readRecord record .passedOver fields start) (u.only (p :: path)) :=
      (readable_insertMember hfields.optional hempty).symm

/-- A record overlays what it starts from, if the values of its fields overlay what they start from. -/
theorem Overlays.field {view : α → Value} (get : σ → α) (h : Overlays read (get start) path view)
    (hget : ∀ a s, get (put a s) = a) (honly : OnlySetBy p.name get fields) :
    Overlays (readRecord record .passedOver fields start) start (p :: path)
      fun s => view (get s) := by
  refine ⟨fun v s hv hread => ?_, fun v u w =>
    readable_addedTo?_cons hfield hfields fun v w => h.grows v u w⟩
  obtain ⟨hnone, hsome⟩ := put_of_readRecord honly hfields.names hfield hv hread
  rw [Value.at?]
  cases hslot : v.slot? p with
  | none =>
    rw [hnone hslot]
    rfl
  | some u =>
    obtain ⟨a, b, hput, hsame⟩ := hsome u hslot
    obtain ⟨x, hx, rfl⟩ := map_eq_ok_iff.mp hput
    rw [hsame, hget]
    exact h.shows u x (hv.slot? hslot) hx

end Field
end Json

/-! ## Keys -/

open Json

/-- A key: where its value stands, and the value that is set under it. -/
structure Key (σ : Type) where
  path : List Slot
  view : σ → Value

namespace Key

def text {σ : Type} (name : String) (place : Nat) (get : σ → String) : Key σ :=
  ⟨[⟨name, place⟩], fun s => .text (get s)⟩

def number {σ : Type} (name : String) (place : Nat) (get : σ → Int) : Key σ :=
  ⟨[⟨name, place⟩], fun s => .int (get s)⟩

/-- The key of a part, as a key of the whole. -/
def under {σ α : Type} (p : Slot) (get : σ → α) (k : Key α) : Key σ :=
  ⟨p :: k.path, fun s => k.view (get s)⟩

end Key

namespace Config

def pageKeys : List (Key Page.Settings) :=
  [.text "page_id" 0 (·.pageId), .text "api_version" 1 (·.apiVersion), .text "base_url" 2 (·.baseUrl),
   .number "timeout_secs" 3 (·.timeout), .text "credential_env" 4 (·.credential)]

def triggerKeys : List (Key Trigger.Settings) :=
  [.text "tool_name" 0 (·.tool), .text "command_pattern" 1 (·.command),
   .text "success_marker" 2 (·.marker)]

def transcriptKeys : List (Key Nat) := [.number "max_entries" 0 fun n => n]

def sortingKeys : List (Key Phase.Settings) :=
  [.text "test_file_pattern" 0 (·.testPattern), .text "source_file_pattern" 1 (·.sourcePattern),
   .number "reasoning_fallback_chars" 2 (·.thoughtLimit)]

def phraseKeys : List (Key Section.Phrases) :=
  [.text "heading" 0 (·.heading), .text "red" 1 (·.red), .text "red_generic" 2 (·.redGeneric),
   .text "green_implemented" 3 (·.greenImplemented), .text "green_verified" 4 (·.greenVerified),
   .text "refactor" 5 (·.refactor), .text "result" 6 (·.result),
   .text "reasoning_title" 7 (·.reasoningTitle), .text "file" 8 (·.file)]

def lookKeys : List (Key Section.Settings) :=
  [.number "max_blocks" 0 (·.maxBlocks), .number "max_text_len" 1 (·.maxText),
   .number "utc_offset_hours" 2 (·.offset)] ++ phraseKeys.map (.under ⟨"phrases", 3⟩ (·.phrases))

/-- All keys of the configuration. -/
def keys : List (Key Config) :=
  pageKeys.map (.under ⟨"notion", 0⟩ (·.page)) ++
    triggerKeys.map (.under ⟨"trigger", 1⟩ (·.trigger)) ++
    transcriptKeys.map (.under ⟨"transcript", 2⟩ (·.maxEntries)) ++
    sortingKeys.map (.under ⟨"classifier", 3⟩ (·.sorting)) ++
    lookKeys.map (.under ⟨"render", 4⟩ (·.look))

/-- Keys that are all there is to a value. -/
def Determine {σ : Type} (ks : List (Key σ)) : Prop :=
  ∀ s t : σ, (∀ k ∈ ks, k.view t = k.view s) → t = s

theorem determine_pageKeys : Determine pageKeys := by
  rintro ⟨⟩ ⟨⟩ h
  simpa [pageKeys, Key.text, Key.number, Int.natCast_inj] using h

theorem determine_triggerKeys : Determine triggerKeys := by
  rintro ⟨⟩ ⟨⟩ h
  simpa [triggerKeys, Key.text] using h

theorem determine_transcriptKeys : Determine transcriptKeys := by
  intro s t h
  simpa [transcriptKeys, Key.number, Int.natCast_inj] using h

theorem determine_sortingKeys : Determine sortingKeys := by
  rintro ⟨⟩ ⟨⟩ h
  simpa [sortingKeys, Key.text, Key.number, Int.natCast_inj] using h

theorem determine_phraseKeys : Determine phraseKeys := by
  rintro ⟨⟩ ⟨⟩ h
  simpa [phraseKeys, Key.text] using h

theorem determine_lookKeys : Determine lookKeys := by
  rintro ⟨_, _, _, ph⟩ ⟨_, _, _, ph'⟩ h
  simp only [lookKeys, List.forall_mem_append, List.forall_mem_map] at h
  obtain ⟨hown, hphrases⟩ := h
  obtain rfl : ph' = ph := determine_phraseKeys _ _ hphrases
  simpa [Key.number, Int.natCast_inj] using hown

/-- The keys are all there is to a configuration. -/
theorem determine_keys : Determine keys := by
  rintro ⟨p, t, n, s, l⟩ ⟨p', t', n', s', l'⟩ h
  simp only [keys, List.forall_mem_append, List.forall_mem_map] at h
  obtain ⟨⟨⟨⟨hpage, htrigger⟩, htranscript⟩, hsorting⟩, hlook⟩ := h
  obtain rfl : p' = p := determine_pageKeys _ _ hpage
  obtain rfl : t' = t := determine_triggerKeys _ _ htrigger
  obtain rfl : n' = n := determine_transcriptKeys _ _ htranscript
  obtain rfl : s' = s := determine_sortingKeys _ _ hsorting
  obtain rfl : l' = l := determine_lookKeys _ _ hlook
  rfl

/-! ## Sections -/

theorem overlays_pageKeys : ∀ k ∈ pageKeys, Overlays (toPage .passedOver) .standard k.path k.view := by
  have hfields : AllOptional pageFields := ⟨by decide, by simp [pageFields]⟩
  simp only [pageKeys, List.forall_mem_cons]
  refine ⟨.field rfl hfields Page.Settings.pageId (overlays_text _) (fun _ _ => rfl) ?_,
    .field rfl hfields Page.Settings.apiVersion (overlays_text _) (fun _ _ => rfl) ?_,
    .field rfl hfields Page.Settings.baseUrl (overlays_text _) (fun _ _ => rfl) ?_,
    .field rfl hfields Page.Settings.timeout (overlays_nat _ _) (fun _ _ => rfl) ?_,
    .field rfl hfields Page.Settings.credential (overlays_text _) (fun _ _ => rfl) ?_, nofun⟩
  all_goals simp [OnlySetBy, pageFields]

theorem overlays_triggerKeys :
    ∀ k ∈ triggerKeys, Overlays (toTrigger .passedOver) .standard k.path k.view := by
  have hfields : AllOptional triggerFields := ⟨by decide, by simp [triggerFields]⟩
  simp only [triggerKeys, List.forall_mem_cons]
  refine ⟨.field rfl hfields Trigger.Settings.tool (overlays_text _) (fun _ _ => rfl) ?_,
    .field rfl hfields Trigger.Settings.command (overlays_text _) (fun _ _ => rfl) ?_,
    .field rfl hfields Trigger.Settings.marker (overlays_text _) (fun _ _ => rfl) ?_, nofun⟩
  all_goals simp [OnlySetBy, triggerFields]

theorem overlays_transcriptKeys :
    ∀ k ∈ transcriptKeys, Overlays (toTranscript .passedOver) standard.maxEntries k.path k.view := by
  have hfields : AllOptional transcriptFields := ⟨by decide, by simp [transcriptFields]⟩
  simp only [transcriptKeys, List.forall_mem_cons]
  refine ⟨.field rfl hfields (fun n : Nat => n) (overlays_nat _ _) (fun _ _ => rfl) ?_, nofun⟩
  simp [OnlySetBy, transcriptFields]

theorem overlays_sortingKeys :
    ∀ k ∈ sortingKeys, Overlays (toSorting .passedOver) .standard k.path k.view := by
  have hfields : AllOptional sortingFields := ⟨by decide, by simp [sortingFields]⟩
  simp only [sortingKeys, List.forall_mem_cons]
  refine ⟨.field rfl hfields Phase.Settings.testPattern (overlays_text _) (fun _ _ => rfl) ?_,
    .field rfl hfields Phase.Settings.sourcePattern (overlays_text _) (fun _ _ => rfl) ?_,
    .field rfl hfields Phase.Settings.thoughtLimit (overlays_nat _ _) (fun _ _ => rfl) ?_, nofun⟩
  all_goals simp [OnlySetBy, sortingFields]

theorem overlays_phraseKeys :
    ∀ k ∈ phraseKeys, Overlays (toPhrases .passedOver) .standard k.path k.view := by
  have hfields : AllOptional phraseFields := ⟨by decide, by simp [phraseFields]⟩
  simp only [phraseKeys, List.forall_mem_cons]
  refine ⟨.field rfl hfields Section.Phrases.heading (overlays_text _) (fun _ _ => rfl) ?_,
    .field rfl hfields Section.Phrases.red (overlays_text _) (fun _ _ => rfl) ?_,
    .field rfl hfields Section.Phrases.redGeneric (overlays_text _) (fun _ _ => rfl) ?_,
    .field rfl hfields Section.Phrases.greenImplemented (overlays_text _) (fun _ _ => rfl) ?_,
    .field rfl hfields Section.Phrases.greenVerified (overlays_text _) (fun _ _ => rfl) ?_,
    .field rfl hfields Section.Phrases.refactor (overlays_text _) (fun _ _ => rfl) ?_,
    .field rfl hfields Section.Phrases.result (overlays_text _) (fun _ _ => rfl) ?_,
    .field rfl hfields Section.Phrases.reasoningTitle (overlays_text _) (fun _ _ => rfl) ?_,
    .field rfl hfields Section.Phrases.file (overlays_text _) (fun _ _ => rfl) ?_, nofun⟩
  all_goals simp [OnlySetBy, phraseFields]

theorem overlays_lookKeys : ∀ k ∈ lookKeys, Overlays (toLook .passedOver) .standard k.path k.view := by
  have hfields : AllOptional (lookFields .passedOver) := ⟨by decide, by simp [lookFields]⟩
  simp only [lookKeys, List.forall_mem_append, List.forall_mem_cons, List.forall_mem_map]
  refine ⟨⟨.field rfl hfields Section.Settings.maxBlocks (overlays_nat _ _) (fun _ _ => rfl) ?_,
    .field rfl hfields Section.Settings.maxText (overlays_nat _ _) (fun _ _ => rfl) ?_,
    .field rfl hfields Section.Settings.offset (overlays_integer _ _ _ _) (fun _ _ => rfl) ?_,
      nofun⟩,
    fun k hk =>
      .field rfl hfields Section.Settings.phrases (overlays_phraseKeys k hk) (fun _ _ => rfl) ?_⟩
  all_goals simp [OnlySetBy, lookFields]

/-- What is read of a document overlays the standard configuration, key by key. -/
theorem overlays_keys : ∀ k ∈ keys, Overlays (read .passedOver) standard k.path k.view := by
  have hfields : AllOptional (fields .passedOver) := ⟨by decide, by simp [fields]⟩
  simp only [keys, List.forall_mem_append, List.forall_mem_map]
  refine ⟨⟨⟨⟨
    fun k hk => .field rfl hfields Config.page (overlays_pageKeys k hk) (fun _ _ => rfl) ?_,
    fun k hk => .field rfl hfields Config.trigger (overlays_triggerKeys k hk) (fun _ _ => rfl) ?_⟩,
    fun k hk => .field rfl hfields Config.maxEntries (overlays_transcriptKeys k hk)
      (fun _ _ => rfl) ?_⟩,
    fun k hk => .field rfl hfields Config.sorting (overlays_sortingKeys k hk) (fun _ _ => rfl) ?_⟩,
    fun k hk => .field rfl hfields Config.look (overlays_lookKeys k hk) (fun _ _ => rfl) ?_⟩
  all_goals simp [OnlySetBy, fields]

end Config
end CycleLog
