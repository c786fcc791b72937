import Gridwalk.Event
import Gridwalk.Proofs.Rereading
import Mathlib.Algebra.Group.Int.Defs
import Mathlib.Algebra.Group.Nat.Defs
import Mathlib.Data.List.Induction

/-!
# What payloads are published as

A payload is published as its canonical text.  The text is made of printable ASCII characters
only, it shows the members of every object in ascending order of their keys, and it stands for the
payload apart from the order in which keys were given: it is read back as the same value, and two
payloads have one text if and only if they are the same value (`Json.Exact.render_eq_iff`).

Everything comes from one normal form.  `Json.arranged` puts the members of every object in order;
a value is the same as its normal form, the same values have the same normal form, and the text is
that of the normal form as it stands.
-/

set_option autoImplicit false

namespace Gridwalk

open Gridwalk.Text

namespace Json

/-! ## The same value -/

/-- Two values are the same apart from the order of members: objects have the same keys, with the
same value under each of them. -/
inductive Same : Json → Json → Prop
  | null : Same .null .null
  | bool (b : Bool) : Same (.bool b) (.bool b)
  | int (n : Int) : Same (.int n) (.int n)
  | real (r : Real) : Same (.real r) (.real r)
  | str (s : Phrase) : Same (.str s) (.str s)
  | arr {items others : List Json} (hlength : items.length = others.length)
      (hitems : ∀ (i : Nat) (v w : Json), items[i]? = some v → others[i]? = some w → Same v w) :
      Same (.arr items) (.arr others)
  | obj {members others : List (Phrase × Json)}
      (hkeys : ∀ key, (lookup members key).isSome = (lookup others key).isSome)
      (hvalues : ∀ (key : Phrase) (v w : Json),
        lookup members key = some v → lookup others key = some w → Same v w) :
      Same (.obj members) (.obj others)

/-- Sameness goes both ways. -/
theorem Same.symm {v w : Json} (h : v.Same w) : w.Same v := by
  induction h with
  | null => exact .null
  | bool b => exact .bool b
  | int n => exact .int n
  | real r => exact .real r
  | str s => exact .str s
  | arr hlength _ ih => exact .arr hlength.symm fun i w v hw hv => ih i v w hv hw
  | obj hkeys _ ih =>
      exact .obj (fun key => (hkeys key).symm) fun key w v hw hv => ih key v w hv hw

/-- What is the same as the same is the same. -/
theorem Same.trans {u v w : Json} (h : u.Same v) (hvw : v.Same w) : u.Same w := by
  induction h generalizing w with
  | null | bool | int | real | str => exact hvw
  | @arr items others hlength _ ih =>
      cases hvw with
      | @arr _ more hlength' hitems' =>
          refine .arr (hlength.trans hlength') fun i a c ha hc => ?_
          have hi : i < others.length := hlength ▸ (List.getElem?_eq_some_iff.mp ha).1
          obtain ⟨b, hb⟩ : ∃ b, others[i]? = some b := ⟨_, List.getElem?_eq_getElem hi⟩
          exact ih i a b ha hb (hitems' i b c hb hc)
  | @obj members others hkeys _ ih =>
      cases hvw with
      | @obj _ more hkeys' hvalues' =>
          refine .obj (fun key => (hkeys key).trans (hkeys' key)) fun key a c ha hc => ?_
          have hsome : (lookup others key).isSome = true := by rw [← hkeys, ha]; rfl
          obtain ⟨b, hb⟩ := Option.isSome_iff_exists.mp hsome
          exact ih key a b ha hb (hvalues' key b c hb hc)

section Members

variable {members others : List (Phrase × Json)}

/-- A key is looked up behind the members of other keys. -/
theorem lookup_cons_of_ne {k key : Phrase} (h : k ≠ key) (u : Json) :
    lookup ((k, u) :: members) key = lookup members key := by
  simp [lookup, List.find?, h]

/-- If all keys differ, every member is found under its key. -/
theorem lookup_eq_some_iff (hkeys : (members.map Prod.fst).Nodup) {key : Phrase} {v : Json} :
    lookup members key = some v ↔ (key, v) ∈ members := by
  induction members with
  | nil => simp [lookup]
  | cons member rest ih =>
      obtain ⟨k, u⟩ := member
      obtain ⟨hnew, hrest⟩ := List.nodup_cons.mp hkeys
      by_cases hk : k = key
      · subst hk
        have habsent (h : (k, v) ∈ rest) : False := hnew (List.mem_map.mpr ⟨_, h, rfl⟩)
        have hfound : lookup ((k, u) :: rest) k = some u := by simp [lookup]
        rw [hfound, Option.some.injEq, List.mem_cons, Prod.mk.injEq]
        constructor
        · rintro rfl
          exact .inl ⟨rfl, rfl⟩
        · rintro (⟨-, rfl⟩ | h)
          · rfl
          · exact (habsent h).elim
      · rw [lookup_cons_of_ne hk, ih hrest, List.mem_cons, Prod.mk.injEq]
        simp [Ne.symm hk]

/-- A key has a value if it stands among the keys. -/
theorem isSome_lookup (key : Phrase) :
    (lookup members key).isSome = (members.map Prod.fst).contains key := by
  induction members with
  | nil => rfl
  | cons member rest ih =>
      obtain ⟨k, u⟩ := member
      by_cases hk : k = key
      · simp [lookup, hk]
      · rw [lookup_cons_of_ne hk, ih]
        simp [Ne.symm hk]

end Members

/-! ## Keys in ascending order -/

/-- The keys of every object ascend by code point, at every level of a value. -/
inductive Ascending : Json → Prop
  | null : Ascending .null
  | bool (b : Bool) : Ascending (.bool b)
  | int (n : Int) : Ascending (.int n)
  | real (r : Real) : Ascending (.real r)
  | str (s : Phrase) : Ascending (.str s)
  | arr {items : List Json} (hitems : ∀ item ∈ items, Ascending item) : Ascending (.arr items)
  | obj {members : List (Phrase × Json)}
      (hkeys : members.Pairwise fun m n => m.1.codes < n.1.codes)
      (hvalues : ∀ member ∈ members, Ascending member.2) : Ascending (.obj members)

/-- Keys that are whole are told apart by their code points. -/
theorem codes_injective {key other : Phrase} (hkey : key.isTorn = false)
    (hother : other.isTorn = false) (h : key.codes = other.codes) : key = other := by
  cases key with
  | torn codes => cases hkey
  | whole s =>
      cases other with
      | torn codes => cases hother
      | whole t =>
          have hinj : Function.Injective (List.map Char.toNat) :=
            List.map_injective_iff.mpr fun _ _ => Char.toNat_inj.mp
          rw [String.toList_inj.mp (hinj h)]

section Order

variable {α : Type} {members : List (Phrase × α)}

/-- A member with a new key is put where the keys still ascend. -/
theorem pairwise_place {member : Phrase × α}
    (h : members.Pairwise fun m n => m.1.codes < n.1.codes)
    (hnew : ∀ m ∈ members, m.1.codes ≠ member.1.codes) :
    (place members member).Pairwise fun m n => m.1.codes < n.1.codes := by
  induction members with
  | nil => exact List.pairwise_singleton _ _
  | cons first rest ih =>
      obtain ⟨hfirst, hrest⟩ := List.pairwise_cons.mp h
      unfold place at ih ⊢
      by_cases hbefore : member.1.codes < first.1.codes
      · rw [List.orderedInsert_cons_of_le _ rest hbefore]
        refine List.pairwise_cons.mpr ⟨fun m hm => ?_, h⟩
        rcases List.mem_cons.mp hm with rfl | hm
        · exact hbefore
        · exact List.lt_trans hbefore (hfirst m hm)
      · rw [List.orderedInsert_of_not_le _ rest hbefore]
        have hafter : first.1.codes < member.1.codes := by
          by_contra hnot
          exact hnew first List.mem_cons_self
            (List.le_antisymm (List.not_lt.mp hbefore) (List.not_lt.mp hnot))
        refine List.pairwise_cons.mpr ⟨fun m hm => ?_, ih hrest fun m hm =>
          hnew m (List.mem_cons_of_mem _ hm)⟩
        rcases (List.mem_orderedInsert _).mp hm with rfl | hm
        · exact hafter
        · exact hfirst m hm

/-- Members with different keys ascend once they are in order. -/
theorem pairwise_inOrder (hkeys : (members.map fun m => m.1.codes).Nodup) :
    (inOrder members).Pairwise fun m n => m.1.codes < n.1.codes := by
  induction members using List.reverseRecOn with
  | nil => exact List.Pairwise.nil
  | append_singleton members member ih =>
      rw [List.map_append, List.nodup_append] at hkeys
      obtain ⟨hbefore, -, hnew⟩ := hkeys
      have hlast : inOrder (members ++ [member]) = place (inOrder members) member :=
        List.foldl_concat place [] member members
      rw [hlast]
      refine pairwise_place (ih hbefore) fun m hm => ?_
      exact hnew _ (List.mem_map_of_mem ((perm_inOrder members).mem_iff.mp hm)) _ (by simp)

/-- Different keys that are whole have different code points. -/
theorem nodup_codes (hkeys : (members.map Prod.fst).Nodup)
    (hwhole : ∀ member ∈ members, member.1.isTorn = false) :
    (members.map fun m => m.1.codes).Nodup := by
  have hmap : members.map (fun m => m.1.codes) = (members.map Prod.fst).map Phrase.codes := by
    rw [List.map_map]
    rfl
  rw [hmap]
  refine hkeys.map_on fun key hkey other hother h => ?_
  obtain ⟨m, hm, rfl⟩ := List.mem_map.mp hkey
  obtain ⟨n, hn, rfl⟩ := List.mem_map.mp hother
  exact codes_injective (hwhole m hm) (hwhole n hn) h

/-- The order does not depend on the order before. -/
theorem inOrder_congr {others : List (Phrase × α)} (hperm : members.Perm others)
    (hkeys : (members.map fun m => m.1.codes).Nodup) : inOrder members = inOrder others := by
  have hkeys' : (others.map fun m => m.1.codes).Nodup := (hperm.map _).nodup_iff.mp hkeys
  have hasym (m n : Phrase × α) (h : m.1.codes < n.1.codes) (h' : n.1.codes < m.1.codes) :
      m = n := absurd (List.lt_trans h h') (List.lt_irrefl _)
  exact List.Perm.eq_of_pairwise (fun m n _ _ => hasym m n) (pairwise_inOrder hkeys)
    (pairwise_inOrder hkeys')
    (((perm_inOrder members).trans hperm).trans (perm_inOrder others).symm)

end Order

/-! ## The normal form -/

/-- An object is arranged by arranging its members and putting them in order. -/
theorem arranged_obj (members : List (Phrase × Json)) :
    (Json.obj members).arranged = .obj (inOrder (members.map fun m => (m.1, m.2.arranged))) := by
  rw [← arrangedMembers_eq_map]
  rfl

/-- A list is arranged by arranging its items where they stand. -/
theorem arranged_arr (items : List Json) :
    (Json.arr items).arranged = .arr (items.map arranged) := by
  rw [← arrangedItems_eq_map]
  rfl

/-- What is exact has its keys in ascending order once it is arranged. -/
theorem Exact.ascending_arranged {v : Json} (h : v.Exact) : v.arranged.Ascending := by
  induction h with
  | null => exact .null
  | bool b => exact .bool b
  | int n => exact .int n
  | text s => exact .str _
  | arr _ ih =>
      rw [arranged_arr]
      refine .arr fun item hitem => ?_
      obtain ⟨u, hu, rfl⟩ := List.mem_map.mp hitem
      exact ih u hu
  | obj hkeys hwhole _ ih =>
      rw [arranged_obj, inOrder_map]
      constructor
      · exact List.pairwise_map.mpr (pairwise_inOrder (nodup_codes hkeys hwhole))
      · intro member hmember
        obtain ⟨m, hm, rfl⟩ := List.mem_map.mp hmember
        exact ih m ((perm_inOrder _).mem_iff.mp hm)

/-- A value is the same as its normal form. -/
theorem Exact.same_arranged {v : Json} (h : v.Exact) : v.arranged.Same v := by
  induction h with
  | null => exact .null
  | bool b => exact .bool b
  | int n => exact .int n
  | text s => exact .str _
  | @arr items _ ih =>
      rw [arranged_arr]
      refine .arr (List.length_map _) fun i v w hv hw => ?_
      rw [List.getElem?_map, hw, Option.map_some, Option.some.injEq] at hv
      exact hv ▸ ih w (List.mem_of_getElem? hw)
  | @obj members hkeys _ _ ih =>
      rw [arranged_obj, inOrder_map]
      have hperm := perm_inOrder members
      have hkeys' : (((inOrder members).map fun m => (m.1, m.2.arranged)).map Prod.fst).Perm
          (members.map Prod.fst) := by
        rw [List.map_map]
        exact hperm.map Prod.fst
      refine .obj (fun key => ?_) fun key v w hv hw => ?_
      · rw [isSome_lookup, isSome_lookup, Bool.eq_iff_iff, List.contains_iff_mem,
          List.contains_iff_mem]
        exact hkeys'.mem_iff
      · obtain ⟨m, hm, heq⟩ := List.mem_map.mp
          ((lookup_eq_some_iff (hkeys'.nodup_iff.mpr hkeys)).mp hv)
        obtain ⟨rfl, rfl⟩ := Prod.mk.inj heq
        have hboth := (lookup_eq_some_iff hkeys).mpr (hperm.mem_iff.mp hm)
        rw [hw, Option.some.injEq] at hboth
        exact hboth ▸ ih m (hperm.mem_iff.mp hm)

/-- Every member of one object is in normal form a member of another one that has its key, with
the same normal form under it. -/
theorem mem_map_arranged {members others : List (Phrase × Json)}
    (hdistinct : (members.map Prod.fst).Nodup) (hdistinct' : (others.map Prod.fst).Nodup)
    (hkeys : ∀ key, (lookup members key).isSome ≤ (lookup others key).isSome)
    (hvalues : ∀ key a b, lookup members key = some a → lookup others key = some b →
      a.arranged = b.arranged) (m : Phrase × Json)
    (hm : m ∈ members.map fun m => (m.1, m.2.arranged)) :
    m ∈ others.map fun m => (m.1, m.2.arranged) := by
  obtain ⟨⟨key, a⟩, ha, rfl⟩ := List.mem_map.mp hm
  have hfound := (lookup_eq_some_iff hdistinct).mpr ha
  have hsome : (lookup others key).isSome = true := hkeys key (by rw [hfound]; rfl)
  obtain ⟨b, hb⟩ := Option.isSome_iff_exists.mp hsome
  refine List.mem_map.mpr ⟨(key, b), (lookup_eq_some_iff hdistinct').mp hb, ?_⟩
  rw [hvalues key a b hfound hb]

/-- The same values have the same normal form. -/
theorem Same.arranged_eq {v w : Json} (h : v.Same w) (hv : v.Exact) (hw : w.Exact) :
    v.arranged = w.arranged := by
  induction h with
  | null | bool | int | real | str => rfl
  | @arr items others hlength _ ih =>
      cases hv with
      | arr hv =>
      cases hw with
      | arr hw =>
          rw [arranged_arr, arranged_arr]
          congr 1
          refine List.ext_getElem (by simpa using hlength) fun i hi hi' => ?_
          rw [List.length_map] at hi hi'
          rw [List.getElem_map, List.getElem_map]
          exact ih i _ _ (List.getElem?_eq_getElem hi) (List.getElem?_eq_getElem hi')
            (hv _ (List.getElem_mem hi)) (hw _ (List.getElem_mem hi'))
  | @obj members others hkeys _ ih =>
      cases hv with
      | obj hdistinct hwhole hv =>
      cases hw with
      | obj hdistinct' hwhole' hw =>
          have hcodes {ms : List (Phrase × Json)} (h : (ms.map Prod.fst).Nodup)
              (hwhole : ∀ m ∈ ms, m.1.isTorn = false) :
              ((ms.map fun m => (m.1, m.2.arranged)).map fun m => m.1.codes).Nodup := by
            rw [List.map_map]
            exact nodup_codes h hwhole
          have hsub := mem_map_arranged hdistinct hdistinct' (fun key => (hkeys key).le)
            fun key a b ha hb => ih key a b ha hb (hv _ ((lookup_eq_some_iff hdistinct).mp ha))
              (hw _ ((lookup_eq_some_iff hdistinct').mp hb))
          have hsub' := mem_map_arranged hdistinct' hdistinct (fun key => (hkeys key).ge)
            fun key b a hb ha => (ih key a b ha hb
              (hv _ ((lookup_eq_some_iff hdistinct).mp ha))
              (hw _ ((lookup_eq_some_iff hdistinct').mp hb))).symm
          rw [arranged_obj, arranged_obj]
          congr 1
          refine inOrder_congr ?_ (hcodes hdistinct hwhole)
          exact (List.perm_ext_iff_of_nodup (hcodes hdistinct hwhole).of_map
            (hcodes hdistinct' hwhole').of_map).mpr fun m => ⟨hsub m, hsub' m⟩

/-! ## The text of the normal form -/

mutual

/-- The text of a value whose members stand in the order in which they were given. -/
def asGiven : Json → List Char
  | .arr items => '[' :: commaSeparated (asGivenItems items) ++ [']']
  | .obj members => '\x7b' :: commaSeparated (asGivenMembers members) ++ ['\x7d']
  | leaf => leaf.encode

/-- The texts of items whose members stand in the order in which they were given. -/
def asGivenItems : List Json → List (List Char)
  | [] => []
  | item :: rest => asGiven item :: asGivenItems rest

/-- The texts of members in the order in which they were given, each a key and a value. -/
def asGivenMembers : List (Phrase × Json) → List (List Char)
  | [] => []
  | (key, value) :: rest =>
      (encodeText key ++ ':' :: ' ' :: asGiven value) :: asGivenMembers rest

end

/-- A list is written as its items with separators between them, between brackets. -/
theorem asGiven_arr (items : List Json) :
    (Json.arr items).asGiven = '[' :: commaSeparated (items.map asGiven) ++ [']'] := by
  have hmap (items : List Json) : asGivenItems items = items.map asGiven := by
    induction items with
    | nil => rfl
    | cons item rest ih => simp [asGivenItems, ih]
  rw [← hmap]
  rfl

/-- An object is written as its keys and values, between braces. -/
theorem asGiven_obj (members : List (Phrase × Json)) :
    (Json.obj members).asGiven = '\x7b' :: commaSeparated
      (members.map fun m => encodeText m.1 ++ ':' :: ' ' :: m.2.asGiven) ++ ['\x7d'] := by
  have hmap (members : List (Phrase × Json)) : asGivenMembers members =
      members.map fun m => encodeText m.1 ++ ':' :: ' ' :: m.2.asGiven := by
    induction members with
    | nil => rfl
    | cons member rest ih => simp [asGivenMembers, ih]
  rw [← hmap]
  rfl

/-- The canonical text is the text of the normal form as it stands. -/
theorem Exact.encode_eq {v : Json} (h : v.Exact) : v.encode = v.arranged.asGiven := by
  induction h with
  | null | bool | int | text => rfl
  | arr _ ih =>
      rw [encode_arr, arranged_arr, asGiven_arr, List.map_map, List.map_congr_left ih]
      rfl
  | obj _ _ _ ih =>
      rw [encode_obj, arranged_obj, asGiven_obj, inOrder_map, List.map_map]
      congr 3
      refine List.map_congr_left fun m hm => ?_
      show encodeText m.1 ++ ':' :: ' ' :: m.2.encode = _
      rw [ih m ((perm_inOrder _).mem_iff.mp hm)]
      rfl

/-- Two values have one canonical text if and only if they are the same. -/
theorem Exact.render_eq_iff {v w : Json} (hv : v.Exact) (hw : w.Exact) :
    v.render = w.render ↔ v.Same w := by
  constructor
  · intro h
    have hread := read_render hv
    rw [h, read_render hw, Except.ok.injEq] at hread
    exact hv.same_arranged.symm.trans (hread ▸ hw.same_arranged)
  · intro h
    unfold render
    rw [hv.encode_eq, hw.encode_eq, h.arranged_eq hv hw]

/-! ## Printable characters -/

/-- A character from U+0020 to U+007E. -/
def IsPrintable (c : Char) : Prop :=
  0x20 ≤ c.toNat ∧ c.toNat ≤ 0x7E

instance (c : Char) : Decidable (IsPrintable c) :=
  inferInstanceAs (Decidable (_ ∧ _))

/-- Characters that are checked one by one are printable. -/
theorem isPrintable_of_all {cs : List Char} (h : (cs.all fun c => decide (IsPrintable c)) = true) :
    ∀ c ∈ cs, IsPrintable c :=
  fun c hc => of_decide_eq_true (List.all_eq_true.mp h c hc)

/-- Digits are printable. -/
theorem isPrintable_of_isDigit {c : Char} (h : c.isDigit = true) : IsPrintable c := by
  have hrange : 48 ≤ c.toNat ∧ c.toNat ≤ 57 := by
    simpa [Char.isDigit, UInt32.le_iff_toNat_le] using h
  unfold IsPrintable
  omega

/-- Integers are written in printable characters. -/
theorem isPrintable_of_mem_decimal {n : Int} {c : Char} (h : c ∈ decimal n) : IsPrintable c := by
  cases n with
  | ofNat n => exact isPrintable_of_isDigit (isDigit_of_mem_decimalDigits h)
  | negSucc n =>
      rcases List.mem_cons.mp h with rfl | h
      · decide
      · exact isPrintable_of_isDigit (isDigit_of_mem_decimalDigits h)

/-- So are hexadecimal numbers. -/
theorem isPrintable_of_mem_hexDigits {width n : Nat} {c : Char} (h : c ∈ hexDigits width n) :
    IsPrintable c := by
  induction width generalizing n with
  | zero => cases h
  | succ width ih =>
      rcases List.mem_append.mp h with h | h
      · exact ih h
      · have hall : ∀ d : Fin 16, IsPrintable (hexDigit d.val) := by decide
        rw [List.mem_singleton.mp h]
        exact hall ⟨n % 16, Nat.mod_lt n (by decide)⟩

/-- So are units of UTF-16, each behind a backslash and a letter. -/
theorem isPrintable_of_mem_encodeUnit {n : Nat} {c : Char} (h : c ∈ encodeUnit n) :
    IsPrintable c := by
  rcases List.mem_append.mp h with h | h
  · exact isPrintable_of_all (by decide : ['\\', 'u'].all _ = true) c h
  · exact isPrintable_of_mem_hexDigits h

/-- Whatever a code point is, the characters that it is written with are printable. -/
theorem isPrintable_of_mem_encodeCode {n : Nat} {c : Char} (h : c ∈ encodeCode n) :
    IsPrintable c := by
  have hshort {d : Char} (hd : IsPrintable d) (hc : c ∈ ['\\', d]) : IsPrintable c := by
    rcases List.mem_cons.mp hc with rfl | hc
    · decide
    · exact List.mem_singleton.mp hc ▸ hd
  unfold encodeCode at h
  split_ifs at h with _ _ _ _ _ _ _ hplain
  · exact hshort (by decide) h
  · exact hshort (by decide) h
  · exact hshort (by decide) h
  · exact hshort (by decide) h
  · exact hshort (by decide) h
  · exact hshort (by decide) h
  · exact hshort (by decide) h
  · simp only [Bool.and_eq_true, decide_eq_true_eq] at hplain
    have hall : ∀ k : Fin 0x7F, 0x20 ≤ k.val → IsPrintable (Char.ofNat k.val) := by decide
    rw [List.mem_singleton.mp h]
    exact hall ⟨n, by omega⟩ hplain.1
  · exact isPrintable_of_mem_encodeUnit h
  · rcases List.mem_append.mp h with h | h <;> exact isPrintable_of_mem_encodeUnit h

/-- So are texts, whatever characters are in them. -/
theorem isPrintable_of_mem_encodeText {s : Phrase} {c : Char} (h : c ∈ encodeText s) :
    IsPrintable c := by
  rcases List.mem_append.mp h with h | h
  · rcases List.mem_cons.mp h with rfl | h
    · decide
    · obtain ⟨n, -, hc⟩ := List.mem_flatMap.mp h
      exact isPrintable_of_mem_encodeCode hc
  · rw [List.mem_singleton.mp h]
    decide

/-- So are pieces with separators between them, if the pieces are. -/
theorem isPrintable_of_mem_commaSeparated {pieces : List (List Char)}
    (hpieces : ∀ piece ∈ pieces, ∀ c ∈ piece, IsPrintable c) {c : Char}
    (h : c ∈ commaSeparated pieces) : IsPrintable c := by
  induction pieces with
  | nil => cases h
  | cons piece rest ih =>
      cases rest with
      | nil => exact hpieces piece List.mem_cons_self c h
      | cons next rest =>
          rcases List.mem_append.mp h with h | h
          · exact hpieces piece List.mem_cons_self c h
          · rcases List.mem_cons.mp h with rfl | h
            · decide
            · rcases List.mem_cons.mp h with rfl | h
              · decide
              · exact ih (fun p hp => hpieces p (List.mem_cons_of_mem _ hp)) h

/-- Pieces between two brackets are printable if the pieces and the brackets are. -/
theorem isPrintable_of_mem_brackets {pieces : List (List Char)} {start stop : Char}
    (hstart : IsPrintable start) (hstop : IsPrintable stop)
    (hpieces : ∀ piece ∈ pieces, ∀ c ∈ piece, IsPrintable c) {c : Char}
    (h : c ∈ start :: commaSeparated pieces ++ [stop]) : IsPrintable c := by
  rcases List.mem_append.mp h with h | h
  · rcases List.mem_cons.mp h with rfl | h
    · exact hstart
    · exact isPrintable_of_mem_commaSeparated hpieces h
  · exact List.mem_singleton.mp h ▸ hstop

/-- The canonical text is printable ASCII. -/
theorem Exact.isPrintable {v : Json} (h : v.Exact) : ∀ c ∈ v.encode, IsPrintable c := by
  induction h with
  | null => exact isPrintable_of_all (by decide)
  | bool b => cases b <;> exact isPrintable_of_all (by decide)
  | int n => exact fun c hc => isPrintable_of_mem_decimal hc
  | text s => exact fun c hc => isPrintable_of_mem_encodeText hc
  | arr _ ih =>
      intro c hc
      rw [encode_arr] at hc
      refine isPrintable_of_mem_brackets (by decide) (by decide) (fun piece hpiece => ?_) hc
      obtain ⟨item, hitem, rfl⟩ := List.mem_map.mp hpiece
      exact ih item hitem
  | obj _ _ _ ih =>
      intro c hc
      rw [encode_obj] at hc
      refine isPrintable_of_mem_brackets (by decide) (by decide) (fun piece hpiece d hd => ?_) hc
      obtain ⟨m, hm, rfl⟩ := List.mem_map.mp hpiece
      rcases List.mem_append.mp hd with hd | hd
      · exact isPrintable_of_mem_encodeText hd
      · rcases List.mem_cons.mp hd with rfl | hd
        · decide
        · rcases List.mem_cons.mp hd with rfl | hd
          · decide
          · exact ih m ((perm_inOrder _).mem_iff.mp hm) d hd

/-! ## What can be written -/

section Obstacles

variable {levels : Nat} {items : List Json} {members : List (Phrase × Json)}

/-- Nothing is met in a list of items if nothing is met in any of them. -/
theorem itemObstacle?_eq_none_iff :
    itemObstacle? levels items = none ↔ ∀ item ∈ items, item.obstacle? levels = none := by
  induction items with
  | nil => simp [itemObstacle?]
  | cons item rest ih => simp [itemObstacle?, Option.or_eq_none_iff, ih]

/-- Every key is listed with what is met in the value under it. -/
theorem memberObstacles_eq_map :
    memberObstacles levels members = members.map fun m => (m.1, m.2.obstacle? levels) := by
  induction members with
  | nil => rfl
  | cons member rest ih => simp [memberObstacles, ih]

/-- Nothing is met in an object that may be entered if nothing is met in any of its values. -/
theorem obstacle?_obj_eq_none_iff :
    (Json.obj members).obstacle? (levels + 1) = none ↔
      ∀ member ∈ members, member.2.obstacle? levels = none := by
  show (ascending (memberObstacles levels members)).findSome? Prod.snd = none ↔ _
  rw [ascending_eq_inOrder, List.findSome?_eq_none_iff, memberObstacles_eq_map]
  simp only [(perm_inOrder _).mem_iff, List.forall_mem_map]

end Obstacles

/-- A value can be written if it is not nested too deep and no integer in it has too many
digits. -/
theorem obstacle?_eq_none_iff (levels : Nat) (v : Json) :
    v.obstacle? levels = none ↔ v.nesting ≤ levels ∧ v.isVast = false := by
  match v with
  | .null | .bool _ | .real _ | .str _ => simp [obstacle?, nesting, isVast, any]
  | .int n =>
      have hnumber : (Json.int n).obstacle? levels = none ↔ Numeral.isVast n = false := by
        simp [obstacle?]
      rw [hnumber]
      simp [nesting, isVast, any]
  | .arr items =>
      have hvast : (Json.arr items).isVast = items.any isVast := anyItem_eq _ items
      cases levels with
      | zero => simp [obstacle?, nesting]
      | succ levels =>
          have hitems : ∀ item ∈ items, (item.obstacle? levels = none ↔
              item.nesting ≤ levels ∧ item.isVast = false) :=
            fun item _ => obstacle?_eq_none_iff levels item
          show itemObstacle? levels items = none ↔ 1 + nestingOfItems items ≤ levels + 1 ∧ _
          rw [itemObstacle?_eq_none_iff, hvast, List.any_eq_false, Nat.add_comm 1,
            Nat.add_le_add_iff_right, nestingOfItems_le_iff, ← forall₂_and]
          exact forall₂_congr fun item hitem => by simpa using hitems item hitem
  | .obj members =>
      have hvast : (Json.obj members).isVast = members.any fun m => m.2.isVast :=
        (anyMember_eq _ members).trans (by simp [isVast])
      cases levels with
      | zero => simp [obstacle?, nesting]
      | succ levels =>
          have hvalues : ∀ member ∈ members, (member.2.obstacle? levels = none ↔
              member.2.nesting ≤ levels ∧ member.2.isVast = false) :=
            fun member hmember =>
              have hless : sizeOf member.2 < 1 + sizeOf members := by
                have hsize := List.sizeOf_lt_of_mem hmember
                have hpair : sizeOf member = 1 + sizeOf member.1 + sizeOf member.2 := rfl
                omega
              obstacle?_eq_none_iff levels member.2
          show _ ↔ 1 + nestingOfMembers members ≤ levels + 1 ∧ _
          rw [obstacle?_obj_eq_none_iff, hvast, List.any_eq_false, Nat.add_comm 1,
            Nat.add_le_add_iff_right, nestingOfMembers_le_iff, ← forall₂_and]
          exact forall₂_congr fun member hmember => by simpa using hvalues member hmember
termination_by sizeOf v

end Json

/-! ## Published payloads -/

namespace Event

section Published

variable {event : Event} {levels : Nat}

/-- An event can be written where no more than `levels` lists and objects may stand inside each
other: its payload is not nested deeper, and no integer in it has too many digits. -/
def IsWritable (levels : Nat) (event : Event) : Prop :=
  (Json.obj event.occurrence.payload).nesting ≤ levels ∧
    (Json.obj event.occurrence.payload).isVast = false

instance : Decidable (event.IsWritable levels) :=
  inferInstanceAs (Decidable (_ ∧ _))

/-- An event is a stream entry if it can be written. -/
theorem fieldsWithin_eq_ok_iff {fields : Fields} :
    event.fieldsWithin levels = .ok fields ↔ event.IsWritable levels ∧
      fields = [("type", event.occurrence.type), ("run_id", event.run.encode),
        ("payload", (Json.obj event.occurrence.payload).render), ("ts", event.time.encode)] := by
  rw [IsWritable, ← Json.obstacle?_eq_none_iff]
  unfold fieldsWithin
  dsimp only
  split
  next obstacle hobstacle => simp [hobstacle]
  next hnone => simp [hnone, eq_comm]

/-- The text under which the payload of an event is published, if it is, where no more than
`levels` lists and objects may stand inside each other. -/
def payloadText? (levels : Nat) (event : Event) : Option String :=
  match event.fieldsWithin levels with
  | .ok fields => fields.lookup "payload"
  | .error _ => none

/-- A payload is published if its event can be written, as its canonical text. -/
theorem payloadText?_eq_some_iff {text : String} :
    event.payloadText? levels = some text ↔
      event.IsWritable levels ∧ (Json.obj event.occurrence.payload).render = text := by
  unfold payloadText?
  cases hfields : event.fieldsWithin levels with
  | ok fields =>
      obtain ⟨hwritable, rfl⟩ := fieldsWithin_eq_ok_iff.mp hfields
      exact ⟨fun h => ⟨hwritable, Option.some.inj h⟩, fun h => congrArg some h.2⟩
  | error fault =>
      refine ⟨nofun, fun h => ?_⟩
      rw [fieldsWithin_eq_ok_iff.mpr ⟨h.1, rfl⟩] at hfields
      cases hfields

/-- A value keeps to the limits of a reader if it is not nested too deep and no integer in it has
too many digits. -/
theorem keeps_of_writable {v : Json} (hnesting : v.nesting ≤ levels) (hvast : v.isVast = false) :
    v.Keeps ⟨some levels, some Numeral.mostDigits⟩ 0 := by
  refine ⟨decide_eq_true (by omega), ?_⟩
  rw [← hvast]
  unfold Json.isVast
  congr 1
  funext leaf
  cases leaf with
  | int n =>
      show (!decide ((decimalDigits n.natAbs).length ≤ Numeral.mostDigits)) = Numeral.isVast n
      rw [← decide_not]
      exact decide_eq_decide.mpr Nat.not_le
  | _ => rfl

end Published

/-- A payload without real numbers and torn phrases, with different keys in every object, is
published if and only if it is not nested too deep and no integer in it has too many digits.  It is
published as a text of printable characters that writes the payload with the keys of every object in
ascending order, and that is read back in that order as the same value: without limits, and also
where only so much nesting and so many digits are read.  An event is published with the same text
if and only if it can be published and has the same payload. -/
theorem payload_published {event : Event} (hexact : (Json.obj event.occurrence.payload).Exact)
    (levels : Nat) :
    let payload (event : Event) := Json.obj event.occurrence.payload
    ((∃ text, event.payloadText? levels = some text) ↔ event.IsWritable levels) ∧
      ∀ text, event.payloadText? levels = some text →
        (∀ c ∈ text.toList, Json.IsPrintable c) ∧
        (∃ w : Json, w.Ascending ∧ w.Same (payload event) ∧ text = String.ofList w.asGiven ∧
          Json.read text = .ok w ∧ ∀ levels, (payload event).nesting ≤ levels →
            Json.readLetters ⟨some levels, some Numeral.mostDigits⟩ (Letter.ofString text) =
              .ok w) ∧
        ∀ (levels : Nat) (other : Event), (payload other).Exact →
          (other.payloadText? levels = some text ↔
            other.IsWritable levels ∧ (payload other).Same (payload event)) := by
  intro payload
  refine ⟨⟨fun ⟨text, htext⟩ => (payloadText?_eq_some_iff.mp htext).1,
    fun hwritable => ⟨_, payloadText?_eq_some_iff.mpr ⟨hwritable, rfl⟩⟩⟩, fun text htext => ?_⟩
  obtain ⟨⟨-, hvast⟩, rfl⟩ := payloadText?_eq_some_iff.mp htext
  refine ⟨fun c hc => ?_, ⟨_, hexact.ascending_arranged, hexact.same_arranged, ?_,
    Json.read_render hexact, fun levels hnesting => ?_⟩, fun levels other hexact' => ?_⟩
  · rw [Json.render, String.toList_ofList] at hc
    exact hexact.isPrintable c hc
  · rw [← hexact.encode_eq]
    rfl
  · exact Json.readLetters_render hexact (keeps_of_writable hnesting hvast)
  · rw [payloadText?_eq_some_iff]
    exact and_congr_right' (hexact'.render_eq_iff hexact)

/-- The same nested payload, its keys given in two orders, is published as one text, and read back
where no deeper nesting is read. -/
theorem payload_published_nested :
    let pair : Json := .text "😀\"\n"
    let event : Event := ⟨.ofNat 1, .noted "NOTED" [("é", .arr [.int (-12), .null]),
      ("Z", .obj [("b", .bool true), ("a", pair)])], {}⟩
    let other : Event := ⟨.ofNat 2, .noted "NOTED" [("Z", .obj [("a", pair), ("b", .bool true)]),
      ("é", .arr [.int (-12), .null])], {}⟩
    (∃ text, event.payloadText? 2 = some text ∧ other.payloadText? 3 = some text ∧
      ∃ w : Json, w.Same (.obj event.occurrence.payload) ∧
        Json.readLetters ⟨some 2, some 4300⟩ (Letter.ofString text) = .ok w) ∧
      ¬∃ text, event.payloadText? 1 = some text := by
  intro pair event other
  have hpair : pair.Exact := .text _
  have hlist : (Json.arr [.int (-12), .null]).Exact :=
    .arr (List.forall_mem_cons.mpr ⟨.int _, List.forall_mem_singleton.mpr .null⟩)
  have hinner : (Json.obj [("b", .bool true), ("a", pair)]).Exact :=
    .obj (by decide) (by decide)
      (List.forall_mem_cons.mpr ⟨.bool _, List.forall_mem_singleton.mpr hpair⟩)
  have hinner' : (Json.obj [("a", pair), ("b", .bool true)]).Exact :=
    .obj (by decide) (by decide)
      (List.forall_mem_cons.mpr ⟨hpair, List.forall_mem_singleton.mpr (.bool _)⟩)
  have hexact : (Json.obj event.occurrence.payload).Exact :=
    .obj (by decide) (by decide)
      (List.forall_mem_cons.mpr ⟨hlist, List.forall_mem_singleton.mpr hinner⟩)
  have hexact' : (Json.obj other.occurrence.payload).Exact :=
    .obj (by decide) (by decide)
      (List.forall_mem_cons.mpr ⟨hinner', List.forall_mem_singleton.mpr hlist⟩)
  have hsame : (Json.obj other.occurrence.payload).Same (.obj event.occurrence.payload) :=
    (hexact'.render_eq_iff hexact).mp (by decide)
  obtain ⟨hpublished, htexts⟩ := payload_published hexact 2
  obtain ⟨text, htext⟩ := hpublished.mpr (by decide)
  obtain ⟨-, ⟨w, -, hw, -, -, hread⟩, hiff⟩ := htexts text htext
  refine ⟨⟨text, htext, (hiff 3 other hexact').mpr ⟨by decide, hsame⟩, w, hw,
    hread 2 (by decide)⟩, ?_⟩
  rw [(payload_published hexact 1).1]
  decide

/-- A power of ten has one digit more than its exponent. -/
theorem isVast_pow {k : Nat} (h : Numeral.mostDigits ≤ k) : Numeral.isVast (10 ^ k) = true := by
  have hlength : k < (decimalDigits (10 ^ k)).length := by
    by_contra hnot
    rw [decimalDigits] at hnot
    exact absurd ((Nat.length_toDigits_le_iff (by decide)
      (Nat.lt_of_lt_of_le (by decide) h)).mp (Nat.le_of_not_lt hnot)) (Nat.lt_irrefl _)
  unfold Numeral.isVast
  rw [Int.natAbs_pow]
  exact decide_eq_true (Nat.lt_of_le_of_lt h hlength)

/-- Lists inside each other, as many as are asked for. -/
def nestedLists : Nat → Json
  | 0 => .null
  | n + 1 => .arr [nestedLists n]

/-- Lists inside each other are exact. -/
theorem exact_nestedLists (n : Nat) : (nestedLists n).Exact := by
  induction n with
  | zero => exact .null
  | succ n ih => exact .arr (List.forall_mem_singleton.mpr ih)

/-- Neither an integer of 4301 digits can be published nor a thousand lists inside each other. -/
theorem payload_unpublished :
    let vast : Event := ⟨.ofNat 1, .noted "NOTED" [("n", .int (10 ^ 4300))], {}⟩
    let deep : Event := ⟨.ofNat 1, .noted "NOTED" [("lists", nestedLists 1000)], {}⟩
    ((Json.obj vast.occurrence.payload).Exact ∧ vast.fields = .error .tooManyDigits) ∧
      (Json.obj deep.occurrence.payload).Exact ∧ deep.fields = .error .nestedTooDeep := by
  intro vast deep
  have hvast : (Json.obj vast.occurrence.payload).obstacle? deepestPayload = some .digits := by
    have hnumber : Numeral.isVast (10 ^ 4300) = true := isVast_pow (Nat.le_refl _)
    simp only [vast, Occurrence.payload, deepestPayload, Json.obstacle?, Json.memberObstacles,
      hnumber, if_true]
    rfl
  have hdeep : (Json.obj deep.occurrence.payload).obstacle? deepestPayload = some .nesting := by
    decide +kernel
  refine ⟨⟨.obj (by decide) (by decide) (List.forall_mem_singleton.mpr (.int _)), ?_⟩,
    .obj (by decide) (by decide) (List.forall_mem_singleton.mpr (exact_nestedLists _)), ?_⟩
  · simp only [fields, fieldsWithin, hvast, Json.Obstacle.fault]
  · simp only [fields, fieldsWithin, hdeep, Json.Obstacle.fault]

end Event

end Gridwalk
