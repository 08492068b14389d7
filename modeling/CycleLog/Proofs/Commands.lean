import CycleLog.Proofs.Recognition

/-!
# The command of a call

The input of a shell tool is read as a record, and kept as it is when it is none: a timeout out of
range, a description that is no text or a missing command all lead to the second. Both ways give the
same command. What `readMembers` has put into a field comes from the member of its name
(`put_of_readMembers`), so the command of the record is what stands under `command` in the object
(`command_of_toBash`), which is where it is looked up otherwise.
-/

namespace CycleLog

/-! ## What a field holds -/

namespace Json
set_option autoImplicit false

section Members
variable {σ α : Type} {fields : List (RecordField σ)} {view : σ → α} {key : String}
  {ms : List Member} {s t : σ}

/-- Only the member of its name changes what a field holds. -/
def OnlySetBy (key : String) (view : σ → α) (fields : List (RecordField σ)) : Prop :=
  ∀ f ∈ fields, f.name ≠ key → ∀ v s t, f.put v s = .ok t → view t = view s

theorem readMembers_cons (k : String) (v : Value) (ms : List Member) (s : σ) :
    readMembers fields ((k, v) :: ms) s =
      match fields.find? fun f => f.name == k with
      | some f => f.put v s >>= readMembers fields ms
      | none => readMembers fields ms s := rfl

theorem view_of_readMembers (hview : OnlySetBy key view fields) (hkey : key ∉ ms.map Prod.fst)
    (h : readMembers fields ms s = .ok t) : view t = view s := by
  induction ms generalizing s with
  | nil => rw [Except.ok.inj h]
  | cons m ms ih =>
    obtain ⟨k, v⟩ := m
    rw [List.map_cons, List.mem_cons, not_or] at hkey
    obtain ⟨hk, hkey⟩ := hkey
    rw [readMembers_cons] at h
    cases hf : fields.find? fun f => f.name == k with
    | none =>
      rw [hf] at h
      exact ih hkey h
    | some f =>
      rw [hf] at h
      obtain ⟨u, hu, h⟩ := bind_eq_ok_iff.mp h
      have hname : f.name = k := by simpa using List.find?_some hf
      rw [ih hkey h]
      exact hview f (List.mem_of_find?_eq_some hf) (fun heq => hk (heq ▸ hname)) v s u hu

/-- Where every key stands once, a field holds what the member of its name has put into it. -/
theorem put_of_readMembers {f : RecordField σ} {v : Value} (hview : OnlySetBy key view fields)
    (hfield : fields.find? (fun f => f.name == key) = some f) (hkeys : (ms.map Prod.fst).Nodup)
    (hv : ms.lookup key = some v) (h : readMembers fields ms s = .ok t) :
    ∃ a b, f.put v a = .ok b ∧ view t = view b := by
  induction ms generalizing s with
  | nil => cases hv
  | cons m ms ih =>
    obtain ⟨k, w⟩ := m
    rw [List.map_cons, List.nodup_cons] at hkeys
    rw [lookup_member] at hv
    rw [readMembers_cons] at h
    by_cases hk : key = k
    · subst hk
      rw [if_pos rfl] at hv
      obtain rfl := Option.some.inj hv
      rw [hfield] at h
      obtain ⟨u, hu, h⟩ := bind_eq_ok_iff.mp h
      exact ⟨s, u, hu, view_of_readMembers hview hkeys.1 h⟩
    · rw [if_neg hk] at hv
      cases hf : fields.find? fun f => f.name == k with
      | none =>
        rw [hf] at h
        exact ih hkeys.2 hv h
      | some g =>
        rw [hf] at h
        obtain ⟨u, -, h⟩ := bind_eq_ok_iff.mp h
        exact ih hkeys.2 hv h

/-- A record is read from an object only if the object has every required field. -/
theorem lookup_of_readRecord {name : String} {surplus : Surplus} {f : RecordField σ} (hf : f ∈ fields)
    (hrequired : f.required = true) (h : readRecord name surplus fields s (.object ms) = .ok t) :
    readMembers fields ms s = .ok t ∧ ∃ v, ms.lookup f.name = some v := by
  obtain ⟨u, hu, h⟩ := bind_eq_ok_iff.mp h
  cases hmissing : missingField? fields ms with
  | some field =>
    rw [hmissing] at h
    cases h
  | none =>
    rw [hmissing] at h
    obtain rfl := Except.ok.inj h
    refine ⟨hu, Option.ne_none_iff_exists'.mp fun hnone => ?_⟩
    have hall := List.find?_eq_none.mp (Option.map_eq_none_iff.mp hmissing) f hf
    simp [hrequired, hnone] at hall

end Members
end Json

/-! ## Calls -/

namespace Tool
set_option autoImplicit false

open Json

theorem onlySetBy_command : OnlySetBy "command" BashInput.command BashInput.fields := by
  intro f hf hname v s t h
  simp only [BashInput.fields, List.mem_cons, List.not_mem_nil, or_false] at hf
  rcases hf with rfl | rfl | rfl
  · exact absurd rfl hname
  · obtain ⟨a, -, rfl⟩ := map_eq_ok_iff.mp h
    rfl
  · obtain ⟨a, -, rfl⟩ := map_eq_ok_iff.mp h
    rfl

/-- A typed call of the shell tool has the command that its object holds. -/
theorem command_of_toBash {ms : List Member} {c : Call} (hkeys : (ms.map Prod.fst).Nodup)
    (h : toBash (.object ms) = .ok c) :
    c.tool = "Bash" ∧ c.shellCommand? = (ms.lookup "command").bind Value.text? := by
  obtain ⟨i, hi, rfl⟩ := map_eq_ok_iff.mp h
  obtain ⟨hread, v, hv⟩ := lookup_of_readRecord List.mem_cons_self rfl hi
  obtain ⟨a, b, hput, hcommand⟩ := put_of_readMembers onlySetBy_command rfl hkeys hv hread
  obtain ⟨text, htext, rfl⟩ := map_eq_ok_iff.mp hput
  have hlookup : ms.lookup "command" = some v := hv
  refine ⟨rfl, ?_⟩
  rw [hlookup]
  change some i.command = v.text?
  rw [hcommand]
  cases v with
  | text s => exact congrArg some (Except.ok.inj htext).symm
  | null | bool | int | real | list | object => cases htext

/-- Every call keeps the name of its tool. -/
theorem tool_of (tool : String) (input : Value) : (Call.of tool input).tool = tool := by
  unfold Call.of
  cases h : typed? tool input with
  | none => rfl
  | some c =>
    rw [Option.getD_some]
    unfold typed? at h
    split at h
    case h_5 => cases h
    all_goals
      obtain ⟨i, -, rfl⟩ := map_eq_ok_iff.mp (toOption_eq_some_iff.mp h)
      rfl

/-- The tools whose calls change files. -/
def fileTools : List String := ["Write", "Edit", "MultiEdit"]

/-- The text under `command` in an object. -/
def commandIn? (ms : List Member) : Option String := (ms.lookup "command").bind Value.text?

theorem shellCommand?_of_object {tool : String} (htool : tool ∉ fileTools) {ms : List Member}
    (hkeys : (ms.map Prod.fst).Nodup) :
    (Call.of tool (.object ms)).shellCommand? = commandIn? ms := by
  have hother : (Call.other tool (.object ms)).shellCommand? = commandIn? ms := rfl
  unfold Call.of
  cases h : typed? tool (.object ms) with
  | none => exact hother
  | some c =>
    simp only [fileTools, List.mem_cons, List.not_mem_nil, or_false, not_or] at htool
    unfold typed? at h
    split at h
    · exact (command_of_toBash hkeys (toOption_eq_some_iff.mp h)).2
    · exact absurd rfl htool.1
    · exact absurd rfl htool.2.1
    · exact absurd rfl htool.2.2
    · cases h

end Tool

/-! ## Calls that run the tests -/

namespace Trigger
set_option autoImplicit false

open Tool Json

theorem Matcher.accepts_eq (m : Matcher) (c : Call) :
    m.accepts c = (c.tool == m.tool && c.shellCommand?.any m.isTestCommand) := by
  unfold Matcher.accepts Matcher.isShellTool
  cases c.shellCommand? <;> rfl

/-- A call keeps the name of its tool. Unless the tool changes files, its command is the text under
`command` in the object given, if there is such a text, whatever else the object holds and whether or not
it has the shape of the input of a shell tool; so whether it runs the tests is told by the name and
that text. -/
theorem commands_as_given :
    (∀ (tool : String) (input : Value), (Call.of tool input).tool = tool) ∧
    ∀ tool : String, tool ∉ fileTools → ∀ ms : List Member, (ms.map Prod.fst).Nodup →
      (Call.of tool (.object ms)).shellCommand? = commandIn? ms ∧
      ∀ m : Matcher, m.accepts (Call.of tool (.object ms)) =
        (tool == m.tool && (commandIn? ms).any m.isTestCommand) := by
  refine ⟨tool_of, fun tool htool ms hkeys => ?_⟩
  have hcommand := shellCommand?_of_object htool hkeys
  refine ⟨hcommand, fun m => ?_⟩
  rw [m.accepts_eq, hcommand, tool_of]

/-- A call whose timeout is below zero and whose description is a number still runs the tests. -/
theorem commands_as_given_ofBadTimeout :
    let ms : List Member :=
      [("command", .text "./gradlew test"), ("description", .int 7), ("timeout", .int (-1))]
    "Bash" ∉ fileTools ∧ (ms.map Prod.fst).Nodup ∧ (toBash (.object ms)).isOk = false ∧
    (Call.of "Bash" (.object ms)).shellCommand? = some "./gradlew test" := by
  intro ms
  have htool : "Bash" ∉ fileTools := by decide
  have hkeys : (ms.map Prod.fst).Nodup := by decide
  exact ⟨htool, hkeys, rfl, (commands_as_given.2 "Bash" htool ms hkeys).1⟩

end Trigger
end CycleLog
