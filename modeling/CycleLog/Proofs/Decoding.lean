import CycleLog.Proofs.Wire

/-!
# Blocks read off the wire

`held?` finds the blocks that a value holds, and undoes `appendBody` (`held_of_appendBody`). A list of
blocks and the children of a toggle are held in the same way, as a list under `children`, so one
function reads both. It follows the data: what a value shows is found from what its members hold.
-/

namespace CycleLog.Page
set_option autoImplicit false

open Json

/-! ## Runs -/

/-- Whether a flag is set; one that is left out is not. -/
def flagAt (v : Value) (key : String) : Bool :=
  match v.member? key with
  | some (.bool b) => b
  | _ => false

/-- The run that a value shows. -/
def runOf? (v : Value) : Option Run := do
  let content ← (v.member? "text").bind (·.textAt? "content")
  let styles := (v.member? "annotations").getD .null
  some ⟨content, flagAt styles "bold", flagAt styles "code"⟩

def richText? (v : Value) : Option (List Run) :=
  ((v.member? "rich_text").bind Value.list?).bind (·.mapM runOf?)

def colorOf? : String → Option Color
  | "red_background" => some .red
  | "green_background" => some .green
  | "blue_background" => some .blue
  | _ => none

/-! ## Blocks -/

/-- A block of a type, from what stands under the name of the type. -/
def compose? (body : Value) (children : Option (List Block)) : String → Option Block
  | "heading_2" => (richText? body).map .heading
  | "paragraph" => (richText? body).map .paragraph
  | "bulleted_list_item" => (richText? body).map .bullet
  | "toggle" => do
    let title ← richText? body
    let color ← (body.textAt? "color").bind colorOf?
    let children ← children
    some (.toggle title color children)
  | "divider" => some .divider
  | _ => none

mutual

/-- The block that a value shows. -/
def blockOf? : Value → Option Block
  | .object ms =>
    ((Value.object ms).textAt? "type").bind fun type =>
      compose? (payload (.object ms)) (heldUnder type ms) type
  | _ => none

/-- The blocks that a value holds: the items of a list, and of an object what it has as children. -/
def held? : Value → Option (List Block)
  | .list vs => blocksOf? vs
  | .object ms => heldUnder "children" ms
  | _ => none

/-- The blocks that the member of a key holds. -/
def heldUnder (key : String) : List Member → Option (List Block)
  | [] => none
  | (k, v) :: ms => if key = k then held? v else heldUnder key ms

def blocksOf? : List Value → Option (List Block)
  | [] => some []
  | v :: vs => (blockOf? v).bind fun b => (blocksOf? vs).map (b :: ·)

end

/-! ## Runs are read off -/

theorem flagAt_null (key : String) : flagAt .null key = false := rfl

/-- A style that a run does not have is left out, and so are all when it has none. -/
theorem flagAt_annotations (r : Run) :
    flagAt ((r.toValue.member? "annotations").getD .null) "bold" = r.bold ∧
      flagAt ((r.toValue.member? "annotations").getD .null) "code" = r.code := by
  obtain ⟨content, bold, code⟩ := r
  unfold Run.toValue Run.styles
  cases bold <;> cases code <;> simp [lookup_member, flagAt_null] <;> simp [flagAt, lookup_member]

theorem runOf?_toValue (r : Run) : runOf? r.toValue = some r := by
  obtain ⟨hbold, hcode⟩ := flagAt_annotations r
  unfold runOf?
  rw [content_toValue]
  simp only [Option.bind_eq_bind, Option.bind_some, hbold, hcode]

theorem mapM_runOf?_toValue (runs : List Run) : (runs.map Run.toValue).mapM runOf? = some runs := by
  induction runs with
  | nil => rfl
  | cons r runs ih =>
    rw [List.map_cons, List.mapM_cons, runOf?_toValue, ih]
    rfl

theorem richText?_of_member {v : Value} {runs : List Run}
    (h : v.member? "rich_text" = some (runsToValue runs)) : richText? v = some runs := by
  unfold richText?
  rw [h, runsToValue, Option.bind_some, Value.list?, Option.bind_some, mapM_runOf?_toValue]

theorem colorOf?_wireName (c : Color) : colorOf? c.wireName = some c := by
  cases c <;> rfl

/-! ## Blocks are read off -/

theorem heldUnder_eq_lookup (key : String) (ms : List Member) :
    heldUnder key ms = (ms.lookup key).bind held? := by
  induction ms with
  | nil => rfl
  | cons m ms ih =>
    obtain ⟨k, v⟩ := m
    rw [heldUnder, lookup_member, ih]
    split <;> rfl

theorem held?_make (ms : List Member) :
    held? (Value.make ms) = (ms.reverse.lookup "children").bind held? := by
  rw [← member?_make]
  exact heldUnder_eq_lookup "children" _

/-- A block of a type is composed of what stands under the name of the type. -/
theorem blockOf?_typed {type : String} (ht : type ≠ "type") (body : List Member) :
    blockOf? (typed type body) = compose? (Value.make body) (held? (Value.make body)) type := by
  have hunder (ms : List Member) (h : (Value.object ms).member? type = some (Value.make body)) :
      heldUnder type ms = held? (Value.make body) := by
    rw [heldUnder_eq_lookup]
    exact congrArg (Option.bind · held?) h
  have hmember : (typed type body).member? type = some (Value.make body) := by
    rw [typed, member?_make]
    simp
  have htype := type_typed ht body
  have hpayload := payload_typed ht body
  generalize hv : typed type body = v at *
  obtain ⟨ms, rfl⟩ : ∃ ms, v = .object ms := ⟨_, hv.symm⟩
  rw [blockOf?, htype, Option.bind_some, hpayload, hunder ms hmember]

theorem richText?_make (runs : List Run) :
    richText? (Value.make [("rich_text", runsToValue runs)]) = some runs :=
  richText?_of_member (by simp)

mutual

theorem blockOf?_toValue : (b : Block) → blockOf? b.toValue = some b
  | .heading runs => by
    unfold Block.toValue
    rw [blockOf?_typed (by decide), compose?, richText?_make, Option.map_some]
  | .paragraph runs => by
    unfold Block.toValue
    rw [blockOf?_typed (by decide), compose?, richText?_make, Option.map_some]
  | .bullet runs => by
    unfold Block.toValue
    rw [blockOf?_typed (by decide), compose?, richText?_make, Option.map_some]
  | .toggle title color children => by
    unfold Block.toValue
    rw [blockOf?_typed (by decide)]
    -- three members of one payload: text, colour and children are looked up apart
    generalize hbody : Value.make [("rich_text", runsToValue title), ("color", .text color.wireName),
      ("children", .list (blocksToValues children))] = body
    have htitle : richText? body = some title := by
      apply richText?_of_member
      rw [← hbody]
      simp [lookup_member]
    have hcolor : body.textAt? "color" = some color.wireName := by
      rw [← hbody]
      simp [Value.textAt?, Value.text?, lookup_member]
    have hchildren : held? body = some children := by
      rw [← hbody, held?_make]
      simp only [List.reverse_cons, List.reverse_nil, List.nil_append, List.cons_append,
        lookup_member, if_true, Option.bind_some]
      rw [held?, blocksOf?_blocksToValues children]
    simp only [compose?, htitle, hcolor, hchildren, Option.bind_eq_bind, Option.bind_some,
      colorOf?_wireName]
  | .divider => by
    unfold Block.toValue
    rw [blockOf?_typed (by decide), compose?]

theorem blocksOf?_blocksToValues : (bs : List Block) → blocksOf? (blocksToValues bs) = some bs
  | [] => rfl
  | b :: bs => by
    rw [blocksToValues, blocksOf?, blockOf?_toValue b, Option.bind_some, blocksOf?_blocksToValues bs]
    rfl

end

theorem held?_appendBody (bs : List Block) : held? (appendBody bs) = some bs := by
  rw [appendBody, held?_make, List.reverse_singleton, lookup_member, if_pos rfl, Option.bind_some,
    held?, blocksOf?_blocksToValues]

/-- What is sent for some blocks shows them all, with their runs and colours and however deep they are
nested: they are read off it, and other blocks are sent in another form. -/
theorem held_of_appendBody (bs : List Block) :
    held? (appendBody bs) = some bs ∧ ∀ cs, appendBody cs = appendBody bs ↔ cs = bs := by
  refine ⟨held?_appendBody bs, fun cs => ⟨fun h => ?_, fun h => h ▸ rfl⟩⟩
  have hboth := held?_appendBody cs
  rw [h, held?_appendBody bs] at hboth
  exact (Option.some.inj hboth).symm

end CycleLog.Page
