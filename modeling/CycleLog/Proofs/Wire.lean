import CycleLog.Page.Wire

/-!
# Blocks on the wire

`Block.ShownBy` says that a value shows a block: the value has the type of the block, a rich text with
the contents of its runs, and as children values that show the children of the block.
`appendBody_shows` says that the value sent for some blocks has one child for each of them, which
shows it.
-/

namespace CycleLog

namespace Json
set_option autoImplicit false

/-! ## Members of made objects -/

theorem lookup_foldl_insertMember (ms acc : List Member) (key : String) :
    (ms.foldl (fun acc m => insertMember m acc) acc).lookup key =
      (ms.reverse ++ acc).lookup key := by
  induction ms generalizing acc with
  | nil => rfl
  | cons m ms ih =>
    obtain ⟨k, v⟩ := m
    rw [List.foldl_cons, ih, List.reverse_cons, List.append_assoc, List.lookup_append,
      List.lookup_append, lookup_insertMember, List.singleton_append, lookup_member]

/-- Of members with one key the last counts. -/
@[simp] theorem member?_make (ms : List Member) (key : String) :
    (Value.make ms).member? key = ms.reverse.lookup key := by
  have h := lookup_foldl_insertMember ms [] key
  rwa [List.append_nil] at h

namespace Value

/-- The list under a key, empty if there is none. -/
def listAt (v : Value) (key : String) : List Value := ((v.member? key).bind list?).getD []

/-- The text under a key. -/
def textAt? (v : Value) (key : String) : Option String := (v.member? key).bind text?

end Value
end Json

namespace Page
set_option autoImplicit false

open Json

/-! ## Views of a value -/

/-- What a block holds stands under the name of its type. -/
def payload (v : Value) : Value := ((v.textAt? "type").bind v.member?).getD .null

/-- The contents of the runs of a rich text. -/
def contents (v : Value) : List (Option String) :=
  (v.listAt "rich_text").map fun run => (run.member? "text").bind (·.textAt? "content")

/-- A value is a block of a type, whose runs have the contents of the given runs. -/
structure Typed (type : String) (runs : List Run) (v : Value) : Prop where
  object : v.textAt? "object" = some "block"
  type : v.textAt? "type" = some type
  contents : contents (payload v) = runs.map fun r => some r.content

mutual

/-- A value shows a block. -/
def Block.ShownBy : Block → Value → Prop
  | .heading runs, v => Typed "heading_2" runs v ∧ (payload v).listAt "children" = []
  | .paragraph runs, v => Typed "paragraph" runs v ∧ (payload v).listAt "children" = []
  | .bullet runs, v => Typed "bulleted_list_item" runs v ∧ (payload v).listAt "children" = []
  | .toggle title _ children, v =>
    Typed "toggle" title v ∧ AllShownBy children ((payload v).listAt "children")
  | .divider, v => Typed "divider" [] v ∧ (payload v).listAt "children" = []

/-- Values show blocks one by one. -/
def AllShownBy : List Block → List Value → Prop
  | [], [] => True
  | b :: bs, v :: vs => b.ShownBy v ∧ AllShownBy bs vs
  | _, _ => False

end

theorem AllShownBy.length_eq {bs : List Block} {vs : List Value} (h : AllShownBy bs vs) :
    bs.length = vs.length := by
  induction bs generalizing vs with
  | nil =>
    cases vs with
    | nil => rfl
    | cons v vs => exact h.elim
  | cons b bs ih =>
    cases vs with
    | nil => exact h.elim
    | cons v vs => rw [List.length_cons, List.length_cons, ih h.2]

/-! ## What is written -/

section Typed
variable {type : String} (ht : type ≠ "type") (body : List Member)
include ht

theorem type_typed : (typed type body).textAt? "type" = some type := by
  simp [typed, Value.textAt?, lookup_member, Ne.symm ht, Value.text?]

theorem payload_typed : payload (typed type body) = Value.make body := by
  rw [payload, type_typed ht, Option.bind_some, typed, member?_make]
  simp

end Typed

theorem object_typed {type : String} (ho : type ≠ "object") (body : List Member) :
    (typed type body).textAt? "object" = some "block" := by
  simp [typed, Value.textAt?, lookup_member, Ne.symm ho, Value.text?]

theorem content_toValue (r : Run) :
    (r.toValue.member? "text").bind (·.textAt? "content") = some r.content := by
  unfold Run.toValue Value.textAt?
  by_cases h : r.styles = [] <;> simp [h, lookup_member, Value.text?]

theorem contents_of_richText {v : Value} {runs : List Run}
    (h : v.member? "rich_text" = some (runsToValue runs)) :
    contents v = runs.map fun r => some r.content := by
  unfold contents Value.listAt runsToValue at *
  rw [h, Option.bind_some, Value.list?, Option.getD_some, List.map_map]
  apply List.map_congr_left
  intro r _
  exact content_toValue r

/-- A block of text only. -/
theorem typed_richText {type : String} (ht : type ≠ "type") (ho : type ≠ "object") (runs : List Run) :
    Typed type runs (typed type [("rich_text", runsToValue runs)]) ∧
      (payload (typed type [("rich_text", runsToValue runs)])).listAt "children" = [] := by
  refine ⟨⟨object_typed ho _, type_typed ht _, ?_⟩, ?_⟩
  · rw [payload_typed ht]
    apply contents_of_richText
    simp
  · simp [payload_typed ht, Value.listAt, lookup_member]

mutual

theorem shownBy_toValue : (b : Block) → b.ShownBy b.toValue
  | .heading runs => typed_richText (by decide) (by decide) runs
  | .paragraph runs => typed_richText (by decide) (by decide) runs
  | .bullet runs => typed_richText (by decide) (by decide) runs
  | .toggle title color children => by
    have ht : "toggle" ≠ "type" := by decide
    unfold Block.toValue
    refine ⟨⟨object_typed (by decide) _, type_typed ht _, ?_⟩, ?_⟩
    · rw [payload_typed ht]
      apply contents_of_richText
      simp [lookup_member]
    · have hc : (Value.make [("rich_text", runsToValue title), ("color", .text color.wireName),
          ("children", .list (blocksToValues children))]).listAt "children" =
          blocksToValues children := by
        simp [Value.listAt, Value.list?]
      rw [payload_typed ht, hc]
      exact allShownBy_blocksToValues children
  | .divider => by
    have ht : "divider" ≠ "type" := by decide
    unfold Block.toValue
    refine ⟨⟨object_typed (by decide) _, type_typed ht _, ?_⟩, ?_⟩
    · simp [payload_typed ht, contents, Value.listAt]
    · simp [payload_typed ht, Value.listAt]

theorem allShownBy_blocksToValues : (bs : List Block) → AllShownBy bs (blocksToValues bs)
  | [] => trivial
  | b :: bs => ⟨shownBy_toValue b, allShownBy_blocksToValues bs⟩

end

@[simp] theorem children_appendBody (bs : List Block) :
    (appendBody bs).listAt "children" = blocksToValues bs := by
  simp [appendBody, Value.listAt, Value.list?]

/-- What is sent has a child for each block, which shows it. -/
theorem appendBody_shows (bs : List Block) : AllShownBy bs ((appendBody bs).listAt "children") := by
  rw [children_appendBody]
  exact allShownBy_blocksToValues bs

end Page
end CycleLog
