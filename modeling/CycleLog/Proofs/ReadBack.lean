import CycleLog.Json.Reader
import CycleLog.Json.Writer
import Mathlib.Data.List.DropRight
import Mathlib.Data.String.Basic

/-!
# Written values are read back

`Value.Simple` says of a value that it holds no number, that the members of its objects are in order,
and how deep it is nested. Such a value, written on many lines, is read back as it was, whatever stands
behind it (`value_pretty`). A place of a string is read back by `stringPieces_escapedChar`, items with
commas between them by `items_laid`, and the value by induction on its depth.
-/

namespace CycleLog.Json
set_option autoImplicit false

/-! ## Members in order -/

/-- Every key comes before the ones that follow. -/
def InOrder (ms : List Member) : Prop := ms.Pairwise fun m n => m.1 < n.1

theorem mem_insertMember {m n : Member} {ms : List Member} (h : n ∈ insertMember m ms) :
    n = m ∨ n ∈ ms := by
  induction ms with
  | nil => exact .inl (List.mem_singleton.mp h)
  | cons k ms ih =>
    unfold insertMember at h
    split at h
    · exact List.mem_cons.mp h
    · split at h
      · exact (List.mem_cons.mp h).imp_right (List.mem_cons_of_mem k)
      · rcases List.mem_cons.mp h with rfl | h
        · exact .inr List.mem_cons_self
        · exact (ih h).imp_right (List.mem_cons_of_mem k)

theorem InOrder.insertMember {ms : List Member} (h : InOrder ms) (m : Member) :
    InOrder (insertMember m ms) := by
  induction ms with
  | nil => exact List.pairwise_singleton _ m
  | cons k ms ih =>
    obtain ⟨hk, hms⟩ := List.pairwise_cons.mp h
    unfold Json.insertMember
    split
    · next hlt =>
      refine List.pairwise_cons.mpr ⟨fun n hn => ?_, h⟩
      rcases List.mem_cons.mp hn with rfl | hn
      · exact hlt
      · exact hlt.trans (hk n hn)
    · next hge =>
      split
      · next heq => exact List.pairwise_cons.mpr ⟨fun n hn => heq ▸ hk n hn, hms⟩
      · next hne =>
        refine List.pairwise_cons.mpr ⟨fun n hn => ?_, ih hms⟩
        rcases mem_insertMember hn with rfl | hn
        · exact lt_of_le_of_ne (not_lt.mp hge) (Ne.symm hne)
        · exact hk n hn

theorem insertMember_of_forall_lt {m : Member} {ms : List Member} (h : ∀ n ∈ ms, n.1 < m.1) :
    insertMember m ms = ms ++ [m] := by
  induction ms with
  | nil => rfl
  | cons k ms ih =>
    obtain ⟨hk, hms⟩ := List.forall_mem_cons.mp h
    rw [insertMember, if_neg (not_lt.mpr hk.le), if_neg hk.ne', ih hms, List.cons_append]

theorem foldl_insertMember_of_inOrder {acc ms : List Member} (h : InOrder (acc ++ ms)) :
    ms.foldl (fun acc m => insertMember m acc) acc = acc ++ ms := by
  induction ms generalizing acc with
  | nil => rw [List.foldl_nil, List.append_nil]
  | cons m ms ih =>
    have hm : ∀ n ∈ acc, n.1 < m.1 := fun n hn =>
      (List.pairwise_append.mp h).2.2 n hn m List.mem_cons_self
    rw [List.foldl_cons, insertMember_of_forall_lt hm, ih (by rwa [List.append_assoc]),
      List.append_assoc, List.singleton_append]

theorem make_of_inOrder {ms : List Member} (h : InOrder ms) : Value.make ms = .object ms := by
  have hfold := foldl_insertMember_of_inOrder (List.nil_append ms ▸ h : InOrder ([] ++ ms))
  rw [List.nil_append] at hfold
  exact congrArg Value.object hfold

/-- Made objects are in order, and hold nothing but the members that they are made of. -/
theorem foldl_insertMember_spec (ms : List Member) {acc : List Member} (h : InOrder acc) :
    InOrder (ms.foldl (fun acc m => insertMember m acc) acc) ∧
      ∀ n ∈ ms.foldl (fun acc m => insertMember m acc) acc, n ∈ acc ∨ n ∈ ms := by
  induction ms generalizing acc with
  | nil => exact ⟨h, fun n hn => .inl hn⟩
  | cons m ms ih =>
    obtain ⟨horder, hmem⟩ := ih (h.insertMember m)
    refine ⟨horder, fun n hn => ?_⟩
    rcases hmem n hn with hn | hn
    · rcases mem_insertMember hn with rfl | hn
      · exact .inr List.mem_cons_self
      · exact .inl hn
    · exact .inr (List.mem_cons_of_mem m hn)

/-! ## Simple values -/

/-- A value without numbers, of objects in order, nested at most so deep. -/
def Value.Simple : Nat → Value → Prop
  | _, .null => True
  | _, .bool _ => True
  | _, .text _ => True
  | depth + 1, .list vs => ∀ v ∈ vs, Value.Simple depth v
  | depth + 1, .object ms => InOrder ms ∧ ∀ m ∈ ms, Value.Simple depth m.2
  | _, _ => False

theorem Value.Simple.mono {v : Value} {m n : Nat} (h : v.Simple m) (hle : m ≤ n) : v.Simple n := by
  induction m generalizing v n with
  | zero =>
    cases v with
    | null | bool | text => cases n <;> trivial
    | int | real | list | object => exact h.elim
  | succ m ih =>
    obtain ⟨k, rfl⟩ : ∃ k, n = k + 1 := ⟨n - 1, by omega⟩
    cases v with
    | null | bool | text => trivial
    | list vs => exact fun u hu => ih (h u hu) (by omega)
    | object ms => exact ⟨h.1, fun n hn => ih (h.2 n hn) (by omega)⟩
    | int | real => exact h.elim

theorem simple_make {depth : Nat} {ms : List Member} (h : ∀ m ∈ ms, m.2.Simple depth) :
    (Value.make ms).Simple (depth + 1) := by
  obtain ⟨horder, hmem⟩ := foldl_insertMember_spec ms (List.Pairwise.nil : InOrder [])
  refine ⟨horder, fun n hn => h n ?_⟩
  exact (hmem n hn).resolve_left List.not_mem_nil

/-! ## Strings -/

theorem hexDigits_read : ∀ n < 32, unit? '0' '0' (hexDigit (n / 16)) (hexDigit (n % 16)) = some n := by
  decide

theorem joinPieces_low {n : Nat} (h : n < 32) (ps : List Piece) :
    joinPieces (.unit n :: ps) = (joinPieces ps).map (Char.ofNat n :: ·) := by
  have hhigh : isHighUnit n = false := by
    simp only [isHighUnit, Bool.and_eq_false_iff, decide_eq_false_iff_not]
    omega
  have hlow : isLowUnit n = false := by
    simp only [isLowUnit, Bool.and_eq_false_iff, decide_eq_false_iff_not]
    omega
  cases ps with
  | nil => simp [joinPieces, hhigh, hlow]
  | cons p ps => cases p <;> simp [joinPieces, hhigh, hlow]

theorem stringPieces_plain {c : Char} (hquote : c ≠ '"') (hslash : c ≠ '\\') (hlow : ¬ c.toNat < 0x20)
    (rest : List Char) :
    stringPieces (c :: rest) = (stringPieces rest).bind fun x => some (.char c :: x.1, x.2) := by
  rw [stringPieces.eq_def]
  split <;> simp_all

/-- The written form of a character is read as one piece, which stands for the character. -/
theorem stringPieces_escapedChar (c : Char) (rest : List Char) :
    ∃ p, stringPieces (escapedChar c ++ rest) =
        ((stringPieces rest).bind fun x => some (p :: x.1, x.2)) ∧
      ∀ ps, joinPieces (p :: ps) = (joinPieces ps).map (c :: ·) := by
  unfold escapedChar
  split
  case h_8 hquote hslash _ _ _ _ _ =>
    -- neither a quote nor a backslash; a control character is written by its number
    split
    · next hlow =>
      refine ⟨.unit c.toNat, ?_, fun ps => ?_⟩
      · simp only [List.cons_append, List.nil_append, stringPieces, hexDigits_read c.toNat hlow]
        rfl
      · rw [joinPieces_low hlow, Char.ofNat_toNat]
    · next hlow => exact ⟨.char c, stringPieces_plain hquote hslash hlow rest, fun ps => rfl⟩
  -- the characters that are written as a letter behind a backslash
  all_goals exact ⟨.char _, rfl, fun ps => rfl⟩

theorem stringPieces_escaped (cs rest : List Char) :
    ∃ ps, stringPieces (cs.flatMap escapedChar ++ '"' :: rest) = some (ps, rest) ∧
      joinPieces ps = some cs := by
  induction cs with
  | nil => exact ⟨[], rfl, rfl⟩
  | cons c cs ih =>
    obtain ⟨ps, hps, hjoin⟩ := ih
    obtain ⟨p, hp, hpiece⟩ := stringPieces_escapedChar c (cs.flatMap escapedChar ++ '"' :: rest)
    refine ⟨p :: ps, ?_, ?_⟩
    · rw [List.flatMap_cons, List.append_assoc, hp, hps]
      rfl
    · rw [hpiece, hjoin]
      rfl

theorem stringBody_writeText (s : String) (rest : List Char) :
    ∃ body, writeText s ++ rest = '"' :: body ∧ stringBody ⟨true⟩ body = some (s, rest) := by
  obtain ⟨ps, hps, hjoin⟩ := stringPieces_escaped s.toList rest
  refine ⟨s.toList.flatMap escapedChar ++ '"' :: rest, ?_, ?_⟩
  · simp [writeText]
  · simp [stringBody, hps, hjoin]

/-! ## Blanks between items -/

theorem skipBlank_skipBlank (cs : List Char) : skipBlank (skipBlank cs) = skipBlank cs := by
  unfold skipBlank
  rw [List.dropWhile_idempotent]

theorem skipBlank_newLine (depth : Nat) (cs : List Char) :
    skipBlank (newLine depth ++ cs) = skipBlank cs := by
  unfold skipBlank
  rw [List.dropWhile_append_of_pos]
  intro c hc
  rcases List.mem_cons.mp hc with rfl | hc
  · rfl
  · rw [List.eq_of_mem_replicate hc]
    rfl

/-! ## Items -/

/-- Items with commas between them, each on a line of its own. -/
def laid {α : Type} (depth : Nat) (text : α → List Char) : List α → List Char
  | [] => []
  | a :: as => newLine depth ++ text a ++ (if as.isEmpty then [] else [',']) ++ laid depth text as

theorem prettyItems_eq (depth : Nat) (vs : List Value) :
    prettyItems depth vs = laid depth (prettyList depth) vs := by
  induction vs with
  | nil => rfl
  | cons v vs ih => rw [prettyItems, laid, ih]

theorem prettyMembers_eq (depth : Nat) (ms : List Member) : prettyMembers depth ms =
    laid depth (fun m => writeText m.1 ++ ':' :: ' ' :: prettyList depth m.2) ms := by
  induction ms with
  | nil => rfl
  | cons m ms ih => rw [prettyMembers, laid, ih, List.append_assoc (newLine depth)]

theorem length_le_laid {α : Type} (depth : Nat) (text : α → List Char) (as : List α) :
    as.length ≤ (laid depth text as).length := by
  induction as with
  | nil => exact Nat.zero_le 0
  | cons a as ih =>
    simp only [laid, newLine, List.length_append, List.length_cons]
    omega

/-- A text that begins with neither a blank nor the closing mark. -/
def Solid (close : Char) (cs : List Char) : Prop :=
  ∃ c r, cs = c :: r ∧ c ≠ close ∧ ∀ rest, skipBlank (c :: rest) = c :: rest

theorem Solid.skipBlank_eq {close : Char} {cs : List Char} (h : Solid close cs) (rest : List Char) :
    skipBlank (cs ++ rest) = cs ++ rest := by
  obtain ⟨c, r, rfl, -, hskip⟩ := h
  rw [List.cons_append, hskip]

/-- A reader reads the text of an item back, whatever stands behind it. -/
structure ReadsBack {α : Type} (close : Char) (item : List Char → Option (α × List Char))
    (text : α → List Char) (a : α) : Prop where
  back : ∀ rest, item (text a ++ rest) = some (a, rest)
  solid : Solid close (text a)

section Items
variable {α : Type} {close : Char} {item : List Char → Option (α × List Char)} {text : α → List Char}

theorem itemsUntil_laid (hcomma : close ≠ ',') (hclose : ∀ rest, skipBlank (close :: rest) = close :: rest)
    (depth outer : Nat) (rest : List Char) {a : α} {as : List α}
    (h : ∀ b ∈ a :: as, ReadsBack close item text b) {fuel : Nat} (hfuel : as.length < fuel) :
    itemsUntil close item fuel (laid depth text (a :: as) ++ (newLine outer ++ close :: rest)) =
      some (a :: as, rest) := by
  -- on the items that are left; each of them takes one unit of fuel
  induction as generalizing a fuel with
  | nil =>
    obtain ⟨n, rfl⟩ : ∃ n, fuel = n + 1 := ⟨fuel - 1, by omega⟩
    have ha := h a List.mem_cons_self
    simp only [itemsUntil, laid, List.isEmpty_nil, if_true, List.append_nil, List.append_assoc,
      skipBlank_newLine, ha.solid.skipBlank_eq, ha.back, Option.bind_eq_bind, Option.bind_some, hclose]
  | cons b as ih =>
    obtain ⟨n, rfl⟩ : ∃ n, fuel = n + 1 := ⟨fuel - 1, by omega⟩
    have ha := h a List.mem_cons_self
    have hn : as.length < n := by
      rw [List.length_cons] at hfuel
      omega
    have hrest := ih (fun c hc => h c (List.mem_cons_of_mem a hc)) hn
    have hskip (r : List Char) : skipBlank (',' :: r) = ',' :: r := rfl
    rw [laid]
    simp only [itemsUntil, List.isEmpty_cons, Bool.false_eq_true, if_false, List.append_assoc,
      List.cons_append, List.nil_append, skipBlank_newLine, ha.solid.skipBlank_eq, ha.back,
      Option.bind_eq_bind, Option.bind_some, hskip, if_neg hcomma.symm, if_true, hrest]

theorem itemsUntil_skipBlank (fuel : Nat) (cs : List Char) :
    itemsUntil close item fuel (skipBlank cs) = itemsUntil close item fuel cs := by
  cases fuel with
  | zero => rfl
  | succ n => rw [itemsUntil, itemsUntil, skipBlank_skipBlank]

/-- Items that are read back one by one are read back together. -/
theorem items_laid (hcomma : close ≠ ',') (hclose : ∀ rest, skipBlank (close :: rest) = close :: rest)
    (depth outer : Nat) (rest : List Char) {a : α} {as : List α}
    (h : ∀ b ∈ a :: as, ReadsBack close item text b) :
    items close item (laid depth text (a :: as) ++ (newLine outer ++ close :: rest)) =
      some (a :: as, rest) := by
  -- the first item is looked at twice: for the closing mark, and then as an item
  obtain ⟨c, r, ha, hne, hskip⟩ := (h a List.mem_cons_self).solid
  generalize htail : (if as.isEmpty then [] else [',']) ++ laid depth text as ++
    (newLine outer ++ close :: rest) = tail
  have hfront : skipBlank (laid depth text (a :: as) ++ (newLine outer ++ close :: rest)) =
      c :: (r ++ tail) := by
    rw [laid]
    simp only [List.append_assoc, skipBlank_newLine, ha, List.cons_append, hskip, ← htail]
  have hlength : as.length < (r ++ tail).length + 1 := by
    have hle := length_le_laid depth text as
    rw [← htail]
    simp only [List.length_append]
    omega
  unfold items
  rw [hfront]
  dsimp only
  rw [if_neg hne, ← hfront, itemsUntil_skipBlank]
  exact itemsUntil_laid hcomma hclose depth outer rest h hlength

end Items

/-! ## Values -/

theorem scalar_writeScalar {v : Value} (h : v.Simple 0) (rest : List Char) :
    scalar ⟨true⟩ (writeScalar v ++ rest) = some (v, rest) := by
  cases v with
  | null => rfl
  | bool b => cases b <;> rfl
  | text s =>
    obtain ⟨body, htext, hbody⟩ := stringBody_writeText s rest
    rw [writeScalar, htext, scalar, hbody]
    rfl
  | int | real | list | object => exact h.elim

theorem solid_prettyList {depth : Nat} {v : Value} (h : v.Simple depth) (indent : Nat) :
    Solid ']' (prettyList indent v) := by
  cases v with
  | null => exact ⟨'n', _, rfl, by decide, fun rest => rfl⟩
  | bool b =>
    cases b with
    | false => exact ⟨'f', _, rfl, by decide, fun rest => rfl⟩
    | true => exact ⟨'t', _, rfl, by decide, fun rest => rfl⟩
  | text s => exact ⟨'"', _, rfl, by decide, fun rest => rfl⟩
  | list vs =>
    cases vs with
    | nil => exact ⟨'[', _, rfl, by decide, fun rest => rfl⟩
    | cons v vs => exact ⟨'[', _, rfl, by decide, fun rest => rfl⟩
  | object ms =>
    cases ms with
    | nil => exact ⟨'\x7b', _, rfl, by decide, fun rest => rfl⟩
    | cons m ms => exact ⟨'\x7b', _, rfl, by decide, fun rest => rfl⟩
  | int | real => cases depth <;> exact h.elim

theorem readsBack_member {read : List Char → Option (Value × List Char)} {m : Member} {depth indent : Nat}
    (hm : m.2.Simple depth) (h : ∀ rest, read (prettyList indent m.2 ++ rest) = some (m.2, rest)) :
    ReadsBack '\x7d' (memberWith ⟨true⟩ read)
      (fun m => writeText m.1 ++ ':' :: ' ' :: prettyList indent m.2) m := by
  refine ⟨fun rest => ?_, '"', _, rfl, by decide, fun rest => rfl⟩
  obtain ⟨body, htext, hbody⟩ :=
    stringBody_writeText m.1 (':' :: ' ' :: (prettyList indent m.2 ++ rest))
  have hcolon (r : List Char) : skipBlank (':' :: r) = ':' :: r := rfl
  have hblank : skipBlank (' ' :: (prettyList indent m.2 ++ rest)) = prettyList indent m.2 ++ rest :=
    (solid_prettyList hm indent).skipBlank_eq rest
  simp only [List.append_assoc, List.cons_append]
  rw [htext]
  simp only [memberWith, hbody, Option.bind_eq_bind, Option.bind_some, hcolon, hblank, h]

/-- A simple value is read back from its text on many lines, whatever stands behind it. -/
theorem value_pretty {depth : Nat} {v : Value} (h : v.Simple depth) (indent : Nat) (rest : List Char) :
    value ⟨true⟩ depth (prettyList indent v ++ rest) = some (v, rest) := by
  -- the reader takes one from the depth for each list and object that it enters
  induction depth generalizing v indent rest with
  | zero =>
    have hscalar : prettyList indent v = writeScalar v := by
      cases v with
      | list | object => exact h.elim
      | null | bool | text | int | real => rfl
    rw [hscalar]
    exact scalar_writeScalar h rest
  | succ depth ih =>
    cases v with
    | null => rfl
    | bool b => cases b <;> rfl
    | text s => exact scalar_writeScalar (v := .text s) trivial rest
    | list vs =>
      cases vs with
      | nil => rfl
      | cons v vs =>
        have hback : ∀ u ∈ v :: vs,
            ReadsBack ']' (value ⟨true⟩ depth) (prettyList (indent + 1)) u := fun u hu =>
          ⟨fun rest => ih (h u hu) (indent + 1) rest, solid_prettyList (h u hu) (indent + 1)⟩
        have hitems := items_laid (by decide) (fun rest => rfl) (indent + 1) indent rest hback
        simp only [prettyList, List.isEmpty_cons, Bool.false_eq_true, if_false, prettyItems_eq,
          List.cons_append, List.append_assoc, List.nil_append, value, hitems, Option.map_some]
    | object ms =>
      obtain ⟨horder, hmembers⟩ := h
      cases ms with
      | nil => rfl
      | cons m ms =>
        have hback : ∀ n ∈ m :: ms, ReadsBack '\x7d' (memberWith ⟨true⟩ (value ⟨true⟩ depth))
            (fun n => writeText n.1 ++ ':' :: ' ' :: prettyList (indent + 1) n.2) n := fun n hn =>
          readsBack_member (hmembers n hn) fun rest => ih (hmembers n hn) (indent + 1) rest
        have hitems := items_laid (by decide) (fun rest => rfl) (indent + 1) indent rest hback
        simp only [prettyList, List.isEmpty_cons, Bool.false_eq_true, if_false, prettyMembers_eq,
          List.cons_append, List.append_assoc, List.nil_append, value, hitems, Option.map_some,
          make_of_inOrder horder]
    | int | real => exact h.elim

/-- The text of a simple value stands for that value, with blanks behind it or without. -/
theorem read_pretty_append {v : Value} (h : v.Simple depthLimit) {blanks : String}
    (hblanks : skipBlank blanks.toList = []) : read (pretty v ++ blanks) = some v := by
  have htext : (pretty v ++ blanks).toList = prettyList 0 v ++ blanks.toList := by
    rw [String.toList_append, pretty, String.toList_ofList]
  rw [read, htext, readList, (solid_prettyList h 0).skipBlank_eq, value_pretty h]
  simp only [Option.bind_eq_bind, Option.bind_some, if_pos hblanks]

end CycleLog.Json
