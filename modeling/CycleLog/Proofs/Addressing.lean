import CycleLog.Page.Client
import CycleLog.Proofs.Resolving

/-!
# Where a request goes

The name of a page is put into the address as it is, and the address is read again. The request goes to the children
of the page exactly if the name is one segment (`IsSegment`): a slash, a question mark or a hash ends a segment,
line ends and tabs are left out, a percent sign is not encoded again, and points alone stand for a place above.

That such a name is needed is shown by counting: the target that is meant is as long as the name encoded as one
segment makes it, and a target that was read is only as long if nothing was left out and nothing costs less
(`pathPart_of_length_le`).
-/

namespace CycleLog.Page
set_option autoImplicit false

open Url

/-! ## The children of a page -/

/-- Where the children of a page are, if its name is taken as one segment. -/
def childrenTarget (id : String) : String := "/v1/blocks/" ++ segmentText id ++ "/children"

/-- A name without what ends a segment or is changed or left out when an address is read, and that stands
for no place above. -/
structure IsSegment (id : String) : Prop where
  chars : ∀ c ∈ id.toList, c ∉ ['/', '\\', '?', '#', '%', '\t', '\n', '\r']
  notDot : id ≠ "."
  notDoubleDot : id ≠ ".."

def beforePage : List Char := ['v', '1', '/', 'b', 'l', 'o', 'c', 'k', 's', '/']

def behindPage : List Char := ['/', 'c', 'h', 'i', 'l', 'd', 'r', 'e', 'n']

/-- What follows the server and a slash in the address. -/
def pageTail (id : String) : List Char := beforePage ++ id.toList ++ behindPage

/-- Where a request for a page goes on a server. -/
def pageUrl (secure : Bool) (authority id : String) : Url :=
  ⟨secure, authority, pathSegments (pathPart ('/' :: cleaned (pageTail id))),
    queryPart ('/' :: cleaned (pageTail id)), fragmentPart ('/' :: cleaned (pageTail id))⟩

theorem withoutSlashes_of_origin {s : String} {base : List Char} {secure : Bool} {authority : String}
    {n : Nat} (h : IsOrigin base secure authority) (hs : s.toList = base ++ List.replicate n '/') :
    (withoutSlashes s).toList = base := by
  obtain ⟨front, c, rfl, hc⟩ := h.getLast
  rw [withoutSlashes, String.toList_ofList, hs, List.reverse_append, List.reverse_replicate,
    List.dropWhile_append_of_pos (by simp), List.reverse_append, List.reverse_singleton,
    List.singleton_append, List.dropWhile_cons_of_neg (by simpa using hc), List.reverse_cons,
    List.reverse_reverse]

theorem read?_address {s : Settings} {base : List Char} {secure : Bool} {authority : String} {n : Nat}
    (h : IsOrigin base secure authority) (hs : s.baseUrl.toList = base ++ List.replicate n '/') :
    Url.read? s.address = some (pageUrl secure authority s.pageId) := by
  have htail : pageTail s.pageId = beforePage ++ s.pageId.toList ++ behindPage.dropLast ++ ['n'] := by
    rw [List.append_assoc]
    rfl
  have htext : s.address.toList =
      base ++ ('/' :: (beforePage ++ s.pageId.toList ++ behindPage.dropLast) ++ ['n']) := by
    rw [Settings.address, String.toList_append, String.toList_append, String.toList_append,
      withoutSlashes_of_origin h hs]
    simp [beforePage, behindPage]
  have hread := readList?_of_origin h (t := beforePage ++ s.pageId.toList ++ behindPage.dropLast)
    (c := 'n') (by decide)
  rw [Url.read?, htext, hread, ← htail]
  rfl

/-! ## Names that are one segment -/

theorem eq_of_toLower {c d : Char} (h : c.toLower = d) (hd : d.toNat < 97) : c = d := by
  unfold Char.toLower at h
  split at h
  · next hupper =>
    have hlow : 65 ≤ c.val.toNat := hupper.1
    have hhigh : c.val.toNat ≤ 90 := hupper.2
    have hval : d.toNat = (c.val + 32).toNat := congrArg Char.toNat h.symm
    rw [UInt32.toNat_add] at hval
    change _ = (c.val.toNat + 32) % 2 ^ 32 at hval
    omega
  · exact h

/-- Without a percent sign, only the point itself stands for the place it is in. -/
theorem eq_of_isDot {s : List Char} (hs : '%' ∉ s) (h : isDot s = true) : s = ['.'] := by
  unfold isDot at h
  simp only [Bool.or_eq_true, beq_iff_eq] at h
  rcases h with h | h
  · obtain ⟨c, r, rfl, hc, hr⟩ := List.map_eq_cons_iff.mp h
    rw [eq_of_toLower hc (by decide), List.map_eq_nil_iff.mp hr]
  · obtain ⟨c, r, rfl, hc, -⟩ := List.map_eq_cons_iff.mp h
    rw [eq_of_toLower hc (by decide)] at hs
    exact absurd List.mem_cons_self hs

theorem eq_of_isDoubleDot {s : List Char} (hs : '%' ∉ s) (h : isDoubleDot s = true) :
    s = ['.', '.'] := by
  unfold isDoubleDot at h
  split at h
  · next l heq =>
    obtain ⟨c, r, rfl, hc, rfl⟩ := List.map_eq_cons_iff.mp heq
    obtain rfl := eq_of_toLower hc (by decide)
    rw [List.mem_cons, not_or] at hs
    have hlower : '%' ∉ r.map Char.toLower := by
      intro hmem
      obtain ⟨d, hd, hlower⟩ := List.mem_map.mp hmem
      exact hs.2 (eq_of_toLower hlower (by decide) ▸ hd)
    obtain ⟨d, r', rfl, hd, hr'⟩ := List.map_eq_cons_iff.mp (eq_of_isDot hlower h)
    rw [eq_of_toLower hd (by decide), List.map_eq_nil_iff.mp hr']
  · next l heq =>
    obtain ⟨c, r, rfl, hc, -⟩ := List.map_eq_cons_iff.mp heq
    rw [eq_of_toLower hc (by decide)] at hs
    exact absurd List.mem_cons_self hs
  · cases h

theorem encoded_path_eq_segment {cs : List Char} (h : ∀ c ∈ cs, c ∉ ['/', '\\', '%']) :
    encoded encodedInPath cs = encoded encodedInSegment cs := by
  refine List.flatMap_congr fun c hc => List.flatMap_congr fun b hb => ?_
  have hbyte : b ∉ [(0x25 : UInt8), 0x2F, 0x5C] := by
    intro hmem
    have hlow : ∀ x ∈ [(0x25 : UInt8), 0x2F, 0x5C],
        x.toNat < 0x80 ∧ Char.ofNat x.toNat ∈ ['/', '\\', '%'] := forall_of_all (by decide)
    obtain ⟨hlow, hchar⟩ := hlow b hmem
    rw [toNat_of_mem_utf8 hb hlow, Char.ofNat_toNat] at hchar
    exact h c hc hchar
  have hsame : encodedInSegment b = encodedInPath b := by
    rw [encodedInSegment, List.contains_eq_mem, decide_eq_false hbyte, Bool.or_false]
  rw [hsame]

theorem forall_pageTail {id : String} {P : Char → Prop} (hid : ∀ c ∈ id.toList, P c)
    (hrest : ∀ c ∈ beforePage ++ behindPage, P c) : ∀ c ∈ pageTail id, P c := by
  intro c hc
  rw [pageTail, List.mem_append, List.mem_append] at hc
  rcases hc with (hc | hc) | hc
  · exact hrest c (List.mem_append_left _ hc)
  · exact hid c hc
  · exact hrest c (List.mem_append_right _ hc)

section Segment
variable {id : String} (h : IsSegment id)
include h

theorem IsSegment.ne {c d : Char} (hc : c ∈ id.toList)
    (hd : d ∈ ['/', '\\', '?', '#', '%', '\t', '\n', '\r']) : c ≠ d := by
  rintro rfl
  exact h.chars c hc hd

theorem IsSegment.cleaned_pageTail : cleaned (pageTail id) = pageTail id := by
  refine List.filter_eq_self.mpr (forall_pageTail (fun c hc => ?_) (forall_of_all (by decide)))
  simp only [Bool.and_eq_true, bne_iff_ne]
  exact ⟨⟨h.ne hc (by decide), h.ne hc (by decide)⟩, h.ne hc (by decide)⟩

theorem IsSegment.takeWhile_hash : ('/' :: pageTail id).takeWhile (· != '#') = '/' :: pageTail id := by
  refine List.takeWhile_eq_self_iff.mpr (List.forall_mem_cons.mpr ⟨rfl, ?_⟩)
  exact forall_pageTail (fun c hc => bne_iff_ne.mpr (h.ne hc (by decide))) (forall_of_all (by decide))

theorem IsSegment.forall_ne_question : ∀ c ∈ '/' :: pageTail id, (c != '?') = true :=
  List.forall_mem_cons.mpr
    ⟨rfl, forall_pageTail (fun c hc => bne_iff_ne.mpr (h.ne hc (by decide))) (forall_of_all (by decide))⟩

theorem IsSegment.pathPart_eq : pathPart ('/' :: pageTail id) = '/' :: pageTail id := by
  rw [pathPart, h.takeWhile_hash, List.takeWhile_eq_self_iff]
  exact h.forall_ne_question

theorem IsSegment.queryPart_eq : queryPart ('/' :: pageTail id) = none := by
  rw [queryPart, h.takeWhile_hash, List.dropWhile_eq_nil_iff.mpr h.forall_ne_question]

theorem IsSegment.fragmentPart_eq : fragmentPart ('/' :: pageTail id) = none := by
  rw [fragmentPart, List.dropWhile_eq_nil_iff.mpr (List.takeWhile_eq_self_iff.mp h.takeWhile_hash)]

theorem IsSegment.cutAt_pageTail : cutAt isSlash (pageTail id) =
    [['v', '1'], ['b', 'l', 'o', 'c', 'k', 's'], id.toList, behindPage.tail] := by
  have hid : ∀ c ∈ id.toList, isSlash c = false := by
    intro c hc
    simp [isSlash, h.ne hc (by decide : '/' ∈ _), h.ne hc (by decide : '\\' ∈ _)]
  have htail : pageTail id = ['v', '1'] ++ '/' :: (['b', 'l', 'o', 'c', 'k', 's'] ++
      '/' :: (id.toList ++ '/' :: behindPage.tail)) := by simp [pageTail, beforePage, behindPage]
  rw [htail, cutAt_append (forall_of_all (by decide)) rfl, cutAt_append (forall_of_all (by decide)) rfl,
    cutAt_append hid rfl, cutAt_of_forall_neg (forall_of_all (by decide))]

theorem IsSegment.not_point : isDot id.toList = false ∧ isDoubleDot id.toList = false := by
  have hpercent : '%' ∉ id.toList := fun hmem => h.ne hmem (by decide) rfl
  constructor
  · rw [Bool.eq_false_iff]
    intro hdot
    exact h.notDot (String.toList_inj.mp (eq_of_isDot hpercent hdot))
  · rw [Bool.eq_false_iff]
    intro hdot
    exact h.notDoubleDot (String.toList_inj.mp (eq_of_isDoubleDot hpercent hdot))

/-- A name that is one segment is put between the others as it is, encoded. -/
theorem IsSegment.pageUrl_eq (secure : Bool) (authority : String) : pageUrl secure authority id =
    ⟨secure, authority, ["v1", "blocks", segmentText id, "children"], none, none⟩ := by
  obtain ⟨hdot, hdoubleDot⟩ := h.not_point
  have hsegments : resolved [] (cutAt isSlash (pageTail id)) =
      [['v', '1'], ['b', 'l', 'o', 'c', 'k', 's'], id.toList, behindPage.tail] := by
    have hv1 : isDot ['v', '1'] = false ∧ isDoubleDot ['v', '1'] = false := by decide
    have hblocks : isDot ['b', 'l', 'o', 'c', 'k', 's'] = false ∧
        isDoubleDot ['b', 'l', 'o', 'c', 'k', 's'] = false := by decide
    have hchildren : isDot behindPage.tail = false ∧ isDoubleDot behindPage.tail = false := by decide
    rw [h.cutAt_pageTail]
    simp only [resolved, hv1, hblocks, hchildren, hdot, hdoubleDot, Bool.false_eq_true, if_false,
      List.reverse_cons, List.reverse_nil, List.nil_append, List.cons_append]
  have htext : encoded encodedInPath id.toList = encoded encodedInSegment id.toList := by
    refine encoded_path_eq_segment fun c hc hmem => ?_
    exact h.chars c hc ((by decide : ['/', '\\', '%'] ⊆ _) hmem)
  have hpath : pathSegments ('/' :: pageTail id) = ["v1", "blocks", segmentText id, "children"] := by
    rw [pathSegments]
    change List.map _ (resolved [] (cutAt isSlash (pageTail id))) = _
    rw [hsegments, List.map_cons, List.map_cons, List.map_cons, htext]
    rfl
  rw [pageUrl, h.cleaned_pageTail, h.pathPart_eq, h.queryPart_eq, h.fragmentPart_eq, hpath]

end Segment

theorem target_children (secure : Bool) (authority id : String) :
    target ⟨secure, authority, ["v1", "blocks", segmentText id, "children"], none, none⟩ =
      childrenTarget id := by
  apply String.toList_inj.mp
  simp [target, behind, childrenTarget, String.intercalate_cons_cons]

/-! ## Names that are none -/

theorem length_childrenTarget (id : String) :
    (childrenTarget id).length = (id.toList.map (cost encodedInSegment)).sum + 20 := by
  have hsegment : (segmentText id).length = (id.toList.map (cost encodedInSegment)).sum := by
    rw [segmentText, String.length_ofList, length_encoded]
  have hfront : "/v1/blocks/".length = 11 := rfl
  have hback : "/children".length = 9 := rfl
  rw [childrenTarget, String.length_append, String.length_append, hsegment, hfront, hback]
  omega

theorem question_notMem_childrenTarget (id : String) : '?' ∉ (childrenTarget id).toList := by
  have hsegment : (segmentText id).toList = encoded encodedInSegment id.toList := String.toList_ofList
  rw [childrenTarget, String.toList_append, String.toList_append, hsegment, List.mem_append,
    List.mem_append]
  rintro ((h | h) | h)
  · exact absurd h (by decide)
  · exact question_notMem_segment _ h
  · exact absurd h (by decide)

theorem query_eq_none {u : Url} {id : String} (h : u.target = childrenTarget id) : u.query = none := by
  cases hq : u.query with
  | none => rfl
  | some q =>
    have hmem : '?' ∈ u.target.toList := by
      rw [target, hq, behind]
      simp
    rw [h] at hmem
    exact absurd hmem (question_notMem_childrenTarget id)

/-- What is read of the path is a part of what was written. -/
theorem pathPart_sublist (cs : List Char) : (pathPart (cleaned cs)).Sublist cs :=
  ((List.takeWhile_sublist _).trans (List.takeWhile_sublist _)).trans List.filter_sublist

theorem mem_pathPart {cs : List Char} {c : Char} (h : c ∈ pathPart (cleaned cs)) :
    c ∉ ['?', '#', '\t', '\n', '\r'] := by
  have hquestion := List.mem_takeWhile_imp h
  have hrest := (List.takeWhile_sublist _).subset h
  have hhash := List.mem_takeWhile_imp hrest
  have hclean := (List.mem_filter.mp ((List.takeWhile_sublist _).subset hrest)).2
  simp only [Bool.and_eq_true, bne_iff_ne, ne_eq] at hquestion hhash hclean
  simp [hquestion, hhash, hclean]

/-- A target as long as the one that is meant leaves nothing out and changes nothing. -/
theorem pathPart_of_length_le {id : String}
    (h : (id.toList.map (cost encodedInSegment)).sum + 19 ≤
      ((pathPart (cleaned (pageTail id))).map pathCost).sum) :
    pathPart (cleaned (pageTail id)) = pageTail id ∧
      (id.toList.map (cost encodedInSegment)).sum ≤ (id.toList.map pathCost).sum := by
  have hsublist := pathPart_sublist (pageTail id)
  have hfront : (beforePage.map pathCost).sum = 10 := by decide
  have hback : (behindPage.map pathCost).sum = 9 := by decide
  have heq : pathPart (cleaned (pageTail id)) = pageTail id := by
    refine hsublist.eq_of_length_le ?_
    obtain ⟨xy, z, hxyz, hxy, hz⟩ := List.sublist_append_iff.mp hsublist
    obtain ⟨x, y, rfl, hx, hy⟩ := List.sublist_append_iff.mp hxy
    have hxsum := sum_add_length_le (fun c => Nat.le_refl (pathCost c)) pathCost_pos hx
    have hysum := sum_add_length_le pathCost_le_segment (cost_pos _) hy
    have hzsum := sum_add_length_le (fun c => Nat.le_refl (pathCost c)) pathCost_pos hz
    rw [hxyz] at h ⊢
    simp only [pageTail, List.map_append, List.sum_append, List.length_append] at h ⊢
    omega
  refine ⟨heq, ?_⟩
  rw [heq] at h
  simp only [pageTail, List.map_append, List.sum_append] at h
  omega

theorem isSegment_of_target {secure : Bool} {authority id : String}
    (h : (pageUrl secure authority id).target = childrenTarget id) : IsSegment id := by
  have hlength : (pageUrl secure authority id).target.length ≤
      ((pathPart (cleaned (pageTail id))).map pathCost).sum + 1 :=
    length_target_le (query_eq_none h) rfl
  rw [h, length_childrenTarget] at hlength
  have hle := Nat.le_of_succ_le_succ hlength
  obtain ⟨heq, hsum⟩ := pathPart_of_length_le hle
  refine ⟨fun c hc hmem => ?_, ?_, ?_⟩
  · have hread : c ∈ pathPart (cleaned (pageTail id)) := by
      rw [heq]
      exact List.mem_append_left _ (List.mem_append_right _ hc)
    have hsplit : ['/', '\\', '?', '#', '%', '\t', '\n', '\r'] ⊆
        ['/', '\\', '%'] ++ ['?', '#', '\t', '\n', '\r'] := by decide
    have hchar := (List.mem_append.mp (hsplit hmem)).resolve_right (mem_pathPart hread)
    exact absurd hsum (not_le.mpr (List.sum_lt_sum _ _ (fun d _ => pathCost_le_segment d)
      ⟨c, hc, pathCost_lt_segment c hchar⟩))
  · rintro rfl
    have htarget : (pageUrl secure authority ".").target = "/v1/blocks/children" := rfl
    exact absurd (htarget.symm.trans h) (by decide)
  · rintro rfl
    have htarget : (pageUrl secure authority "..").target = "/v1/children" := rfl
    exact absurd (htarget.symm.trans h) (by decide)

/-! ## Requests -/

theorem request?_eq {s : Settings} {url : Url} (h : Url.read? s.address = some url) (key : String)
    (blocks : List Block) : request? s key blocks =
      if url.isShort && fitsHeader ("Bearer " ++ key) && fitsHeader s.apiVersion then
        some ⟨url, "Bearer " ++ key, s.apiVersion, appendBody blocks⟩ else none := by
  unfold request?
  rw [h]
  rfl

/-- With an origin as its base, and slashes behind it, a request is sent whenever its address is short enough and
its headers can hold their texts, and always to the server of the origin. Its target is the place of the children of the page,
with the name of the page encoded as one segment, exactly if that name is one; then the path has four
segments and no query follows it. -/
theorem target_iff_isSegment {s : Settings} {base : List Char} {secure : Bool} {authority : String}
    {n : Nat} (h : IsOrigin base secure authority)
    (hs : s.baseUrl.toList = base ++ List.replicate n '/') (key : String) (blocks : List Block) :
    (request? s key blocks).isSome =
      ((pageUrl secure authority s.pageId).isShort && fitsHeader ("Bearer " ++ key) &&
        fitsHeader s.apiVersion) ∧
    ∀ r, request? s key blocks = some r →
      r.url.secure = secure ∧ r.url.authority = authority ∧
      (r.url.target = childrenTarget s.pageId ↔ IsSegment s.pageId) ∧
      (IsSegment s.pageId →
        r.url.segments = ["v1", "blocks", segmentText s.pageId, "children"] ∧ r.url.query = none) := by
  have hrequest := request?_eq (read?_address h hs) key blocks
  constructor
  · rw [hrequest]
    split <;> simp_all
  · intro r hr
    rw [hrequest] at hr
    split at hr
    · obtain rfl := Option.some.inj hr
      have hplain (hid : IsSegment s.pageId) := hid.pageUrl_eq secure authority
      refine ⟨rfl, rfl, ⟨isSegment_of_target, fun hid => ?_⟩, fun hid => ?_⟩
      · change (pageUrl secure authority s.pageId).target = _
        rw [hplain hid, target_children]
      · change (pageUrl secure authority s.pageId).segments = _ ∧
          (pageUrl secure authority s.pageId).query = none
        rw [hplain hid]
        exact ⟨rfl, rfl⟩
    · cases hr

theorem isOrigin_standard : IsOrigin "https://api.notion.com".toList true "api.notion.com" where
  split := ⟨"https".toList, "api.notion.com".toList, rfl, rfl, by decide, forall_of_all (by decide),
    by decide +kernel⟩

/-- A name with a space and a letter outside of ASCII is one segment. -/
theorem target_iff_isSegment_ofSpace :
    let s := { Settings.standard with pageId := "log é", baseUrl := "https://api.notion.com//" }
    IsOrigin "https://api.notion.com".toList true "api.notion.com" ∧
    s.baseUrl.toList = "https://api.notion.com".toList ++ List.replicate 2 '/' ∧
    ∀ r, request? s "k" [.divider] = some r → r.url.target = "/v1/blocks/log%20%C3%A9/children" := by
  intro s
  have hs : s.baseUrl.toList = "https://api.notion.com".toList ++ List.replicate 2 '/' := by decide
  have hid : IsSegment s.pageId := ⟨forall_of_all (by decide), by decide, by decide⟩
  have htarget : childrenTarget s.pageId = "/v1/blocks/log%20%C3%A9/children" := by decide +kernel
  refine ⟨isOrigin_standard, hs, fun r hr => ?_⟩
  rw [← htarget]
  exact ((target_iff_isSegment isOrigin_standard hs "k" [.divider]).2 r hr).2.2.1.mpr hid

/-- A name with points, a slash and a question mark makes a request for another place, with a query. -/
theorem target_ofPlaceAbove :
    let s := { Settings.standard with pageId := "../pages/p1?" }
    (request? s "k" [.divider]).map (·.url.target) = some "/v1/pages/p1?/children" ∧
    childrenTarget s.pageId = "/v1/blocks/..%2Fpages%2Fp1%3F/children" := by
  decide +kernel

end CycleLog.Page
