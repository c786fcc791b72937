import Gridwalk.Proofs.Figures
import Gridwalk.Proofs.Spelling
import Mathlib.Data.List.Sort

/-!
# Values read back

`Json.readLetters_render`: a value without real numbers and torn phrases, and with different keys
in every object, is read from its canonical text as it was written, the members of its objects in
ascending order of their keys.  A reader with limits reads it if the value keeps to them
(`Json.Keeps`): if it is not nested too deep, and no integer in it has too many digits.
-/

set_option autoImplicit false

namespace Gridwalk.Json

open Gridwalk.Text

/-! ## Members in order -/

section Order

variable {α β : Type}

/-- Puts a member into a list that ascends by key, behind equal keys. -/
def place (placed : List (Phrase × α)) (member : Phrase × α) : List (Phrase × α) :=
  placed.orderedInsert (fun m n => m.1.codes < n.1.codes) member

/-- Members in ascending order of their keys. -/
def inOrder (members : List (Phrase × α)) : List (Phrase × α) :=
  members.foldl place []

/-- What is put in order stays what it is. -/
theorem perm_inOrder (members : List (Phrase × α)) : (inOrder members).Perm members := by
  have hfold (placed : List (Phrase × α)) :
      (members.foldl place placed).Perm (placed ++ members) := by
    induction members generalizing placed with
    | nil => simp
    | cons member rest ih =>
        refine (ih _).trans ?_
        refine ((List.perm_orderedInsert _ member placed).append_right rest).trans ?_
        exact List.perm_middle.symm
  exact hfold []

/-- Putting members in order does not look at their values. -/
theorem inOrder_map (f : Phrase × α → β) (members : List (Phrase × α)) :
    inOrder (members.map fun m => (m.1, f m)) = (inOrder members).map fun m => (m.1, f m) := by
  have hplace (member : Phrase × α) (placed : List (Phrase × α)) :
      place (placed.map fun m => (m.1, f m)) (member.1, f member) =
        (place placed member).map fun m => (m.1, f m) := by
    induction placed with
    | nil => rfl
    | cons other rest ih =>
        unfold place at ih ⊢
        by_cases hbefore : member.1.codes < other.1.codes
        · simp [List.orderedInsert, hbefore]
        · simp [List.orderedInsert, hbefore, ih]
  have hfold (placed : List (Phrase × α)) :
      (members.map fun m => (m.1, f m)).foldl place (placed.map fun m => (m.1, f m)) =
        (members.foldl place placed).map fun m => (m.1, f m) := by
    induction members generalizing placed with
    | nil => rfl
    | cons member rest ih =>
        rw [List.map_cons, List.foldl_cons, List.foldl_cons, hplace]
        exact ih _
  exact hfold []

/-- The printer puts members in this order. -/
theorem ascending_eq_inOrder (members : List (Phrase × α)) :
    ascending members = inOrder members := by
  have hplace (key : Phrase) (piece : α) (placed : List (Phrase × α)) :
      placeMember key piece placed = place placed (key, piece) := by
    induction placed with
    | nil => rfl
    | cons other rest ih =>
        unfold place at ih ⊢
        by_cases hbefore : key.codes < other.1.codes
        · simp [placeMember, List.orderedInsert, hbefore]
        · simp [placeMember, List.orderedInsert, hbefore, ih]
  unfold ascending inOrder
  congr 1
  funext placed member
  exact hplace member.1 member.2 placed

end Order

mutual

/-- A value with the members of every object in ascending order of their keys. -/
def arranged : Json → Json
  | .arr items => .arr (arrangedItems items)
  | .obj members => .obj (inOrder (arrangedMembers members))
  | leaf => leaf

/-- Items with the members of every object in ascending order of their keys. -/
def arrangedItems : List Json → List Json
  | [] => []
  | item :: rest => arranged item :: arrangedItems rest

/-- Members whose values have the members of every object in ascending order of their keys. -/
def arrangedMembers : List (Phrase × Json) → List (Phrase × Json)
  | [] => []
  | (key, value) :: rest => (key, arranged value) :: arrangedMembers rest

end

/-- Items are put in order one by one. -/
theorem arrangedItems_eq_map (items : List Json) : arrangedItems items = items.map arranged := by
  induction items with
  | nil => rfl
  | cons item rest ih => simp [arrangedItems, ih]

/-- Members are put in order one by one, their keys as they are. -/
theorem arrangedMembers_eq_map (members : List (Phrase × Json)) :
    arrangedMembers members = members.map fun m => (m.1, arranged m.2) := by
  induction members with
  | nil => rfl
  | cons member rest ih => simp [arrangedMembers, ih]

/-- Items are written one by one. -/
theorem encodeItems_eq_map (items : List Json) : encodeItems items = items.map encode := by
  induction items with
  | nil => rfl
  | cons item rest ih => simp [encodeItems, ih]

/-- A member as it is written. -/
def encodeMember (member : Phrase × Json) : List Char :=
  encodeText member.1 ++ ':' :: ' ' :: encode member.2

/-- Members are written one by one. -/
theorem encodeMembers_eq_map (members : List (Phrase × Json)) :
    encodeMembers members = members.map fun m => (m.1, encodeMember m) := by
  induction members with
  | nil => rfl
  | cons member rest ih => simp [encodeMembers, encodeMember, ih]

/-- An object is written with its members in order. -/
theorem encode_obj (members : List (Phrase × Json)) :
    encode (.obj members) =
      '\x7b' :: commaSeparated ((inOrder members).map encodeMember) ++ ['\x7d'] := by
  show '\x7b' :: commaSeparated ((ascending (encodeMembers members)).map Prod.snd) ++ ['\x7d'] = _
  rw [ascending_eq_inOrder, encodeMembers_eq_map, inOrder_map, List.map_map]
  rfl

/-- A list is written between brackets, its items with commas in between. -/
theorem encode_arr (items : List Json) :
    encode (.arr items) = '[' :: commaSeparated (items.map encode) ++ [']'] := by
  rw [← encodeItems_eq_map]
  rfl

/-- Values that can be read back: without real numbers and torn phrases, and with different keys
in every object. -/
inductive Exact : Json → Prop
  | null : Exact .null
  | bool (b : Bool) : Exact (.bool b)
  | int (n : Int) : Exact (.int n)
  | text (s : String) : Exact (.text s)
  | arr {items : List Json} (hitems : ∀ item ∈ items, Exact item) : Exact (.arr items)
  | obj {members : List (Phrase × Json)} (hkeys : (members.map Prod.fst).Nodup)
      (hwhole : ∀ member ∈ members, member.1.isTorn = false)
      (hvalues : ∀ member ∈ members, Exact member.2) : Exact (.obj members)

/-! ## Limits -/

section Limits

variable {limits : Limits} {level : Nat} {v : Json} {items : List Json}
  {members : List (Phrase × Json)}

/-- A part of some item passes a test if one of some item does. -/
theorem anyItem_eq (test : Json → Bool) (items : List Json) :
    anyItem test items = items.any fun item => item.any test := by
  induction items with
  | nil => rfl
  | cons item rest ih => simp [anyItem, ih]

/-- A part of some member passes a test if its key does or a part of its value. -/
theorem anyMember_eq (test : Json → Bool) (members : List (Phrase × Json)) :
    anyMember test members = members.any fun m => test (.str m.1) || m.2.any test := by
  induction members with
  | nil => rfl
  | cons member rest ih => simp [anyMember, ih]

/-- Items are nested as deep as the deepest of them. -/
theorem nestingOfItems_le_iff {n : Nat} :
    nestingOfItems items ≤ n ↔ ∀ item ∈ items, item.nesting ≤ n := by
  induction items with
  | nil => simp [nestingOfItems]
  | cons item rest ih => simp [nestingOfItems, ih]

/-- Members are nested as deep as the deepest of their values. -/
theorem nestingOfMembers_le_iff {n : Nat} :
    nestingOfMembers members ≤ n ↔ ∀ member ∈ members, member.2.nesting ≤ n := by
  induction members with
  | nil => simp [nestingOfMembers]
  | cons member rest ih => simp [nestingOfMembers, ih]

/-- What admits a number admits every smaller one. -/
theorem admits_mono {limit : Option Nat} {m n : Nat} (h : admits limit n = true) (hmn : m ≤ n) :
    admits limit m = true := by
  cases limit with
  | none => rfl
  | some most => exact decide_eq_true (Nat.le_trans hmn (of_decide_eq_true h))

/-- Whether a value is an integer of more digits than limits admit. -/
def isLong (limits : Limits) : Json → Bool
  | .int n => !admits limits.digits (decimalDigits n.natAbs).length
  | _ => false

/-- A value keeps to limits, inside `level` lists and objects. -/
structure Keeps (limits : Limits) (level : Nat) (v : Json) : Prop where
  levels : admits limits.levels (level + v.nesting) = true
  digits : v.any (isLong limits) = false

/-- A list may be entered if it keeps to the limits, and its items keep to them inside it. -/
theorem Keeps.of_arr (h : Keeps limits level (.arr items)) :
    admits limits.levels (level + 1) = true ∧
      ∀ item ∈ items, item.Keeps limits (level + 1) := by
  have hlevels : admits limits.levels (level + (1 + nestingOfItems items)) = true := h.levels
  have hdigits : anyItem (isLong limits) items = false := h.digits
  rw [anyItem_eq, List.any_eq_false] at hdigits
  refine ⟨admits_mono hlevels (by omega), fun item hitem => ⟨admits_mono hlevels ?_, ?_⟩⟩
  · have hnesting := nestingOfItems_le_iff.mp (Nat.le_refl _) item hitem
    omega
  · simpa using hdigits item hitem

/-- An object may be entered if it keeps to the limits, and its values keep to them inside it. -/
theorem Keeps.of_obj (h : Keeps limits level (.obj members)) :
    admits limits.levels (level + 1) = true ∧
      ∀ member ∈ members, member.2.Keeps limits (level + 1) := by
  have hlevels : admits limits.levels (level + (1 + nestingOfMembers members)) = true := h.levels
  have hdigits : anyMember (isLong limits) members = false := h.digits
  rw [anyMember_eq, List.any_eq_false] at hdigits
  refine ⟨admits_mono hlevels (by omega), fun member hmember => ⟨admits_mono hlevels ?_, ?_⟩⟩
  · have hnesting := nestingOfMembers_le_iff.mp (Nat.le_refl _) member hmember
    omega
  · exact (Bool.or_eq_false_iff.mp (Bool.eq_false_of_not_eq_true (hdigits member hmember))).2

/-- Without limits every value keeps to them. -/
theorem Exact.keeps (h : v.Exact) (level : Nat) : v.Keeps {} level := by
  refine ⟨rfl, ?_⟩
  induction h with
  | null | bool | int | text => rfl
  | arr _ ih =>
      show anyItem _ _ = false
      rw [anyItem_eq, List.any_eq_false]
      exact fun item hitem => by simp [ih item hitem]
  | obj _ _ _ ih =>
      show anyMember _ _ = false
      rw [anyMember_eq, List.any_eq_false]
      exact fun member hmember => by simp [isLong, ih member hmember]

end Limits

/-- A value that keeps to limits is read as it was written, before whatever can follow a value. -/
def Reads (limits : Limits) (v : Json) : Prop :=
  ∀ fuel level rest, v.encode.length ≤ fuel → v.Keeps limits level → Ends rest →
    value limits fuel level (v.encode.map .char ++ rest) = .ok (v.arranged, rest)

/-- A value that can be read back begins with neither a gap nor a closing mark. -/
theorem Exact.exists_encode_cons {v : Json} (h : v.Exact) : ∃ c cs, v.encode = c :: cs ∧
    isGap (.char c) = false ∧ c ≠ ']' ∧ c ≠ '\x7d' := by
  cases h with
  | null => exact ⟨_, _, rfl, by decide⟩
  | bool b => cases b <;> exact ⟨_, _, rfl, by decide⟩
  | int n =>
      obtain ⟨c, cs, hcs, hc⟩ := exists_decimal_cons n
      refine ⟨c, cs, hcs, ?_⟩
      rcases hc with hc | ⟨rfl, -⟩
      · have hne {d : Char} (hd : d.isDigit = false) := ne_of_isDigit hc hd
        simp [isGap, hne]
      · decide
  | text s => exact ⟨_, _, rfl, by decide⟩
  | arr hitems => exact ⟨_, _, encode_arr _, by decide⟩
  | obj hkeys hwhole hvalues => exact ⟨_, _, encode_obj _, by decide⟩

/-- Nothing is skipped where no gap is. -/
theorem skipGap_cons {letter : Letter} (h : isGap letter = false) (rest : List Letter) :
    skipGap (letter :: rest) = letter :: rest := by
  simp [skipGap, h]

/-- A value ends before a comma or a closing bracket. -/
theorem ends_cons {c : Char} (hc : c = ',' ∨ c = ']' ∨ c = '\x7d') (rest : List Letter) :
    Ends (.char c :: rest) := by
  rintro letter ⟨⟩
  rcases hc with rfl | rfl | rfl <;> decide

/-- Pieces with commas in between begin as the first of them does. -/
theorem exists_commaSeparated_cons (c : Char) (cs : List Char) (pieces : List (List Char)) :
    ∃ ds, commaSeparated ((c :: cs) :: pieces) = c :: ds := by
  cases pieces with
  | nil => exact ⟨cs, rfl⟩
  | cons next pieces => exact ⟨cs ++ ',' :: ' ' :: commaSeparated (next :: pieces), rfl⟩

/-- Behind the comma in front of a piece only a space is skipped. -/
theorem skipGap_piece {c : Char} (hc : isGap (.char c) = false) (cs : List Char)
    (pieces : List (List Char)) (rest : List Letter) :
    skipGap (.char ' ' :: ((commaSeparated ((c :: cs) :: pieces)).map .char ++ rest)) =
      (commaSeparated ((c :: cs) :: pieces)).map .char ++ rest := by
  obtain ⟨ds, hds⟩ := exists_commaSeparated_cons c cs pieces
  rw [hds]
  simp [skipGap, hc, show isGap (.char ' ') = true from rfl]

section Readers

variable {limits : Limits}

/-- The items of a list are read as they were written. -/
theorem arrayRest_items {items : List Json} (hne : items ≠ [])
    (hexact : ∀ item ∈ items, item.Exact) (hreads : ∀ item ∈ items, item.Reads limits)
    (fuel : Nat) {level : Nat} (hkeeps : ∀ item ∈ items, item.Keeps limits level)
    (rest : List Letter) (hfuel : (commaSeparated (items.map encode)).length < fuel) :
    arrayRest limits fuel level
        ((commaSeparated (items.map encode)).map .char ++ .char ']' :: rest) =
      .ok (.arr (items.map arranged), rest) := by
  induction items generalizing fuel with
  | nil => exact absurd rfl hne
  | cons item items ih =>
      obtain ⟨fuel, rfl⟩ := Nat.exists_eq_add_one_of_ne_zero (Nat.ne_zero_of_lt hfuel)
      have hitem := hreads item List.mem_cons_self
      have hfirst := hkeeps item List.mem_cons_self
      cases items with
      | nil =>
          have hread := hitem fuel level (.char ']' :: rest) (Nat.le_of_lt_succ hfuel) hfirst
            (ends_cons (.inr (.inl rfl)) rest)
          rw [arrayRest]
          simp only [List.map_cons, List.map_nil, commaSeparated, hread]
          rw [skipGap_cons (by decide)]
          rfl
      | cons next items =>
          let more := (commaSeparated ((next :: items).map encode)).map Letter.char ++
            .char ']' :: rest
          have hsplit : (commaSeparated ((item :: next :: items).map encode)).map Letter.char ++
              .char ']' :: rest =
                item.encode.map .char ++ .char ',' :: .char ' ' :: more := by
            simp [commaSeparated, more]
          have hlength : (commaSeparated ((item :: next :: items).map encode)).length =
              item.encode.length +
                ((commaSeparated ((next :: items).map encode)).length + 2) := by
            simp [commaSeparated]
          obtain ⟨c, cs, hcs, hgap, -⟩ := (hexact next (by simp)).exists_encode_cons
          have hskip : skipGap (.char ' ' :: more) = more := by
            have hskip := skipGap_piece hgap cs (items.map encode) (.char ']' :: rest)
            rwa [← hcs] at hskip
          have hread := hitem fuel level (.char ',' :: .char ' ' :: more) (by omega) hfirst
            (ends_cons (.inl rfl) _)
          have hmore : arrayRest limits fuel level more =
              .ok (.arr ((next :: items).map arranged), rest) :=
            ih (by simp) (fun i hi => hexact i (List.mem_cons_of_mem _ hi))
              (fun i hi => hreads i (List.mem_cons_of_mem _ hi)) fuel
              (fun i hi => hkeeps i (List.mem_cons_of_mem _ hi)) (by omega)
          rw [hsplit, arrayRest]
          simp only [hread]
          rw [skipGap_cons (by decide)]
          simp only [hskip, hmore]
          rfl

/-- A key that is new is put behind the others. -/
theorem insert_of_not_mem {members : List (Phrase × Json)} {key : Phrase}
    (h : key ∉ members.map Prod.fst) (value : Json) :
    insert members key value = members ++ [(key, value)] := by
  induction members with
  | nil => rfl
  | cons member members ih =>
      obtain ⟨k, v⟩ := member
      simp only [List.map_cons, List.mem_cons, not_or] at h
      simp [insert, Ne.symm h.1, ih h.2]

/-- What is written of a key is read back up to the quote that closes it. -/
theorem textRest_key {key : Phrase} (hkey : key.isTorn = false) (start rest : List Letter) :
    textRest start ((key.codes.flatMap encodeCode ++ ['"']).map .char ++ rest) =
      .ok (key, rest) := by
  cases key with
  | torn codes => cases hkey
  | whole s => exact textRest_encodeText s start rest

/-- How an object is read on behind a member. -/
def objectTail (limits : Limits) (fuel level : Nat) (members : List (Phrase × Json))
    (tail : List Letter) : Reading Json :=
  match skipGap tail with
  | .char '\x7d' :: rest => .ok (.obj members, rest)
  | .char ',' :: rest => objectRest limits fuel level members (skipGap rest)
  | rest => .error (.malformed rest)

/-- A member is read as it was written, and reading goes on with what stands behind it. -/
theorem objectRest_member {member : Phrase × Json} (hkey : member.1.isTorn = false)
    (hexact : member.2.Exact) (hreads : member.2.Reads limits) {fuel : Nat}
    (hfuel : member.2.encode.length ≤ fuel) {level : Nat} (hkeeps : member.2.Keeps limits level)
    (before : List (Phrase × Json)) {tail : List Letter} (htail : Ends tail) :
    objectRest limits (fuel + 1) level before ((encodeMember member).map .char ++ tail) =
      objectTail limits fuel level (insert before member.1 member.2.arranged) tail := by
  obtain ⟨c, cs, hcs, hgap, -⟩ := hexact.exists_encode_cons
  have hmember : (encodeMember member).map Letter.char ++ tail =
      .char '"' :: ((member.1.codes.flatMap encodeCode ++ ['"']).map .char ++
        (.char ':' :: .char ' ' :: (member.2.encode.map .char ++ tail))) := by
    simp [encodeMember, encodeText]
  have hskip : skipGap (.char ' ' :: (member.2.encode.map .char ++ tail)) =
      member.2.encode.map .char ++ tail := by
    rw [hcs]
    simp [skipGap, hgap, show isGap (.char ' ') = true from rfl]
  rw [hmember, objectRest]
  simp only [textRest_key hkey]
  rw [skipGap_cons (by decide)]
  simp only [hskip, hreads fuel level tail hfuel hkeeps htail]
  rfl

/-- The members of an object are read as they were written, behind others. -/
theorem objectRest_members (before : List (Phrase × Json)) {members : List (Phrase × Json)}
    (hne : members ≠ []) (hkeys : ((before ++ members).map Prod.fst).Nodup)
    (hwhole : ∀ member ∈ members, member.1.isTorn = false)
    (hexact : ∀ member ∈ members, member.2.Exact)
    (hreads : ∀ member ∈ members, member.2.Reads limits) (fuel : Nat) {level : Nat}
    (hkeeps : ∀ member ∈ members, member.2.Keeps limits level) (rest : List Letter)
    (hfuel : (commaSeparated (members.map encodeMember)).length < fuel) :
    objectRest limits fuel level before
        ((commaSeparated (members.map encodeMember)).map .char ++ .char '\x7d' :: rest) =
      .ok (.obj (before ++ members.map fun m => (m.1, m.2.arranged)), rest) := by
  induction members generalizing fuel before with
  | nil => exact absurd rfl hne
  | cons member members ih =>
      obtain ⟨fuel, rfl⟩ := Nat.exists_eq_add_one_of_ne_zero (Nat.ne_zero_of_lt hfuel)
      have hshort : member.2.encode.length ≤ (encodeMember member).length := by
        simp only [encodeMember, List.length_append, List.length_cons]
        omega
      -- No key was met before, so each member is put behind the others, as it stands in the text.
      have hnew : insert before member.1 member.2.arranged =
          before ++ [(member.1, member.2.arranged)] := by
        refine insert_of_not_mem (fun hmem => ?_) _
        rw [List.map_append, List.nodup_append] at hkeys
        exact hkeys.2.2 _ hmem _ (by simp) rfl
      have hread (hfuel : member.2.encode.length ≤ fuel) {tail : List Letter} (htail : Ends tail) :=
        objectRest_member (hwhole member List.mem_cons_self) (hexact member List.mem_cons_self)
          (hreads member List.mem_cons_self) hfuel (hkeeps member List.mem_cons_self) before htail
      cases members with
      | nil =>
          change (encodeMember member).length < fuel + 1 at hfuel
          show objectRest limits (fuel + 1) level before ((encodeMember member).map .char ++ _) = _
          rw [hread (by omega) (ends_cons (.inr (.inr rfl)) rest), hnew, objectTail,
            skipGap_cons (by decide)]
          rfl
      | cons next members =>
          let more := (commaSeparated ((next :: members).map encodeMember)).map Letter.char ++
            .char '\x7d' :: rest
          have hsplit : (commaSeparated ((member :: next :: members).map encodeMember)).map
              Letter.char ++ .char '\x7d' :: rest =
                (encodeMember member).map .char ++ .char ',' :: .char ' ' :: more := by
            simp [commaSeparated, more]
          have hlength : (commaSeparated ((member :: next :: members).map encodeMember)).length =
              (encodeMember member).length +
                ((commaSeparated ((next :: members).map encodeMember)).length + 2) := by
            simp [commaSeparated]
          have hskip : skipGap (.char ' ' :: more) = more :=
            skipGap_piece (c := '"') (by decide) _ (members.map encodeMember) _
          have hmore :
              objectRest limits fuel level (before ++ [(member.1, member.2.arranged)]) more =
                .ok (.obj ((before ++ [(member.1, member.2.arranged)]) ++
                  (next :: members).map fun m => (m.1, m.2.arranged)), rest) := by
            refine ih _ (by simp) ?_ (fun m hm => hwhole m (List.mem_cons_of_mem _ hm))
              (fun m hm => hexact m (List.mem_cons_of_mem _ hm))
              (fun m hm => hreads m (List.mem_cons_of_mem _ hm)) fuel
              (fun m hm => hkeeps m (List.mem_cons_of_mem _ hm)) (by omega)
            simpa using hkeys
          rw [hsplit, hread (by omega) (ends_cons (.inl rfl) _), hnew, objectTail,
            skipGap_cons (by decide)]
          simp only [hskip, hmore]
          simp

/-- An array is read as it was written if its items are. -/
theorem reads_arr {items : List Json} (hitems : ∀ item ∈ items, item.Exact)
    (hreads : ∀ item ∈ items, item.Reads limits) : (Json.arr items).Reads limits := by
  intro fuel level rest hfuel hkeeps _
  obtain ⟨hadmits, hkeeps⟩ := hkeeps.of_arr
  rw [encode_arr] at hfuel ⊢
  obtain ⟨fuel, rfl⟩ := Nat.exists_eq_add_one_of_ne_zero (Nat.ne_zero_of_lt hfuel)
  simp only [List.map_append, List.map_cons, List.map_nil, List.cons_append, List.append_assoc,
    List.nil_append]
  rw [value]
  simp only [hadmits, if_true, arranged, arrangedItems_eq_map]
  cases items with
  | nil => rfl
  | cons item items =>
      obtain ⟨c, cs, hcs, hgap, hne, -⟩ := (hitems item List.mem_cons_self).exists_encode_cons
      obtain ⟨ds, hds⟩ := exists_commaSeparated_cons c cs (items.map encode)
      have hshort : (commaSeparated ((item :: items).map encode)).length < fuel := by
        simp at hfuel ⊢
        omega
      have hlist := arrayRest_items (List.cons_ne_nil item items) hitems hreads fuel hkeeps rest
        hshort
      simp only [List.map_cons, hcs, hds, List.cons_append] at hlist ⊢
      rw [skipGap_cons hgap]
      split
      · next heq => exact absurd (Letter.char.inj (List.cons.inj heq).1) hne
      · exact hlist

/-- An object is read as it was written if its values are. -/
theorem reads_obj {members : List (Phrase × Json)} (hkeys : (members.map Prod.fst).Nodup)
    (hwhole : ∀ member ∈ members, member.1.isTorn = false)
    (hvalues : ∀ member ∈ members, member.2.Exact)
    (hreads : ∀ member ∈ members, member.2.Reads limits) : (Json.obj members).Reads limits := by
  intro fuel level rest hfuel hkeeps _
  obtain ⟨hadmits, hkeeps⟩ := hkeeps.of_obj
  have hperm := perm_inOrder members
  rw [encode_obj] at hfuel ⊢
  obtain ⟨fuel, rfl⟩ := Nat.exists_eq_add_one_of_ne_zero (Nat.ne_zero_of_lt hfuel)
  simp only [List.map_append, List.map_cons, List.map_nil, List.cons_append, List.append_assoc,
    List.nil_append]
  rw [value]
  simp only [hadmits, if_true, arranged, arrangedMembers_eq_map]
  rw [inOrder_map]
  cases hordered : inOrder members with
  | nil => rfl
  | cons member others =>
      rw [hordered] at hfuel hperm
      have hmem {m : Phrase × Json} (hm : m ∈ member :: others) := hperm.mem_iff.mp hm
      have hobject := objectRest_members [] (List.cons_ne_nil member others)
        ((hperm.map Prod.fst).nodup_iff.mpr hkeys) (fun m hm => hwhole m (hmem hm))
        (fun m hm => hvalues m (hmem hm)) (fun m hm => hreads m (hmem hm)) fuel
        (fun m hm => hkeeps m (hmem hm)) rest (by simp at hfuel ⊢; omega)
      obtain ⟨ds, hds⟩ := exists_commaSeparated_cons '"'
        (member.1.codes.flatMap encodeCode ++ ['"'] ++ ':' :: ' ' :: member.2.encode)
        (others.map encodeMember)
      have hfirst : encodeMember member = '"' ::
          (member.1.codes.flatMap encodeCode ++ ['"'] ++ ':' :: ' ' :: member.2.encode) := rfl
      simp only [List.map_cons, hfirst, hds, List.cons_append] at hobject ⊢
      rw [skipGap_cons (by decide)]
      exact hobject

/-- Every value that can be read back is read as it was written. -/
theorem Exact.reads {v : Json} (h : v.Exact) : v.Reads limits := by
  -- A nested reader takes one unit of fuel, and the text of a part is shorter than the whole.
  induction h with
  | null =>
      intro fuel level rest hfuel _ _
      obtain ⟨fuel, rfl⟩ := Nat.exists_eq_add_one_of_ne_zero (Nat.ne_zero_of_lt hfuel)
      rfl
  | bool b =>
      intro fuel level rest hfuel _ _
      cases b <;>
      · obtain ⟨fuel, rfl⟩ := Nat.exists_eq_add_one_of_ne_zero (Nat.ne_zero_of_lt hfuel)
        rfl
  | int n =>
      intro fuel level rest hfuel hkeeps hrest
      obtain ⟨c, cs, hcs, -⟩ := exists_decimal_cons n
      change (decimal n).length ≤ fuel at hfuel
      rw [hcs] at hfuel
      obtain ⟨fuel, rfl⟩ := Nat.exists_eq_add_one_of_ne_zero (Nat.ne_zero_of_lt hfuel)
      have hdigits : admits limits.digits (decimalDigits n.natAbs).length = true := by
        simpa [any, isLong] using hkeeps.digits
      exact value_decimal hrest hdigits fuel level
  | text s =>
      intro fuel level rest hfuel _ _
      obtain ⟨fuel, rfl⟩ := Nat.exists_eq_add_one_of_ne_zero (Nat.ne_zero_of_lt hfuel)
      show value limits (fuel + 1) level (.char '"' ::
        ((Phrase.codes (.whole s)).flatMap encodeCode ++ ['"']).map .char ++ rest) = _
      rw [List.cons_append, value, textRest_encodeText]
      rfl
  | arr hitems ih => exact reads_arr hitems ih
  | obj hkeys hwhole hvalues ih => exact reads_obj hkeys hwhole hvalues ih

/-- Every value that can be read back is read as it was written, its objects in order, by a reader
to whose limits it keeps. -/
theorem readLetters_render {v : Json} (h : v.Exact) (hkeeps : v.Keeps limits 0) :
    readLetters limits (Letter.ofString v.render) = .ok v.arranged := by
  obtain ⟨c, cs, hcs, hgap, -⟩ := h.exists_encode_cons
  have hskip : skipGap (v.encode.map Letter.char) = v.encode.map Letter.char := by
    rw [hcs]
    exact skipGap_cons hgap _
  have hvalue := h.reads (2 * (v.encode.map Letter.char).length + 2) 0 []
    (by rw [List.length_map]; omega) hkeeps (by intro letter hletter; cases hletter)
  unfold readLetters render Letter.ofString
  rw [String.toList_ofList, hskip]
  rw [List.append_nil] at hvalue
  rw [hvalue]
  rfl

end Readers

/-- Every value that can be read back is read as it was written, its objects in order. -/
theorem read_render {v : Json} (h : v.Exact) : read v.render = .ok v.arranged :=
  readLetters_render h (h.keeps 0)

end Gridwalk.Json
