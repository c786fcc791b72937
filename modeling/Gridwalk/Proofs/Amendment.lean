import Gridwalk.Context
import Mathlib.Data.List.Nodup

/-!
# Edits of the catalog

A catalog is made of commands of different ids, and refused at the first id that repeats an earlier
one (`Catalog.ofList_eq_error_iff`).  Afterwards it is an ordered map from ids to commands in which
only loops are edited.  An edit either finds a loop and gives new values to some of its fields, or
it is refused and leaves the whole state alone (`Catalog.updateLoop_cases`, `Stage.updateLoop_eq`).
So after any number of edits, refused ones among them, the commands stand where they stood, and
each loop has in each of its two fields the value that was given last, whatever was given to the
other one (`Stage.commands_amend`, `Stage.catalog_amended`).
-/

set_option autoImplicit false

namespace Gridwalk

/-! ## Catalogs from lists -/

/-- The first id in a list of commands that repeats an earlier one. -/
def Command.FirstRepeat (commands : List Command) (id : String) : Prop :=
  ∃ earlier command later, commands = earlier ++ command :: later ∧ command.id = id ∧
    (earlier.map Command.id).Nodup ∧ id ∈ earlier.map Command.id

/-- Where an id is repeated, the ids are not distinct. -/
theorem Command.FirstRepeat.not_nodup {commands : List Command} {id : String}
    (h : FirstRepeat commands id) : ¬(commands.map Command.id).Nodup := by
  obtain ⟨earlier, command, later, rfl, rfl, -, hmem⟩ := h
  rw [List.map_append, List.nodup_append]
  rintro ⟨-, -, hdisjoint⟩
  exact hdisjoint _ hmem _ List.mem_cons_self rfl

namespace Catalog

variable {catalog : Catalog} {id : String} {edit : Loop.Edit}

/-- A command whose id is known is not added. -/
theorem add_of_mem {command : Command} (h : command.id ∈ catalog.commands.map Command.id) :
    catalog.add command = .error (.duplicateCommand command.id) :=
  dif_pos h

/-- A command whose id is new is added at the end. -/
theorem add_of_new {command : Command} (h : command.id ∉ catalog.commands.map Command.id) :
    ∃ after, catalog.add command = .ok after ∧ after.commands = catalog.commands ++ [command] :=
  ⟨_, dif_neg h, rfl⟩

/-- A catalog to which commands are added holds these at its end, if their ids are new and differ;
otherwise the first id that repeats an earlier one is refused. -/
theorem foldlM_add (commands : List Command) (catalog : Catalog) :
    (∃ after, commands.foldlM add catalog = .ok after ∧
        after.commands = catalog.commands ++ commands) ∨
      ∃ id, Command.FirstRepeat (catalog.commands ++ commands) id ∧
        commands.foldlM add catalog = .error (.duplicateCommand id) := by
  induction commands generalizing catalog with
  | nil => exact .inl ⟨catalog, rfl, (List.append_nil _).symm⟩
  | cons command rest ih =>
      rw [List.foldlM_cons]
      by_cases hold : command.id ∈ catalog.commands.map Command.id
      · rw [add_of_mem hold]
        exact .inr ⟨command.id, ⟨_, command, rest, rfl, rfl, catalog.distinct, hold⟩, rfl⟩
      · obtain ⟨after, hadd, hafter⟩ := add_of_new hold
        have hall : after.commands ++ rest = catalog.commands ++ command :: rest := by
          rw [hafter, List.append_assoc, List.singleton_append]
        rw [hadd, ← hall]
        exact ih after

/-- A list of commands gives a catalog of just these commands, or its first repeated id is
refused. -/
theorem ofList_cases (commands : List Command) :
    (∃ catalog, ofList commands = .ok catalog ∧ catalog.commands = commands) ∨
      ∃ id, Command.FirstRepeat commands id ∧
        ofList commands = .error (.duplicateCommand id) :=
  foldlM_add commands empty

/-- A list of commands gives a catalog exactly if their ids are distinct. -/
theorem ofList_isOk_iff (commands : List Command) :
    (∃ catalog, ofList commands = .ok catalog) ↔ (commands.map Command.id).Nodup := by
  rcases ofList_cases commands with ⟨catalog, hok, rfl⟩ | ⟨id, hrepeat, herror⟩
  · exact iff_of_true ⟨catalog, hok⟩ catalog.distinct
  · refine iff_of_false ?_ hrepeat.not_nodup
    rintro ⟨catalog, hok⟩
    cases herror.symm.trans hok

/-- A catalog that was made of a list holds this list. -/
theorem commands_of_ofList {commands : List Command} (h : ofList commands = .ok catalog) :
    catalog.commands = commands := by
  rcases ofList_cases commands with ⟨catalog', hok, hcommands⟩ | ⟨id, -, herror⟩
  · cases hok.symm.trans h
    exact hcommands
  · cases herror.symm.trans h

/-- An id that repeats an earlier one is refused before anything behind it is seen. -/
theorem ofList_of_firstRepeat {commands : List Command} (h : Command.FirstRepeat commands id) :
    ofList commands = .error (.duplicateCommand id) := by
  obtain ⟨earlier, command, later, rfl, rfl, hdistinct, hmem⟩ := h
  obtain ⟨catalog, hok⟩ := (ofList_isOk_iff earlier).mpr hdistinct
  have hcommands : catalog.commands = earlier := commands_of_ofList hok
  have hold : command.id ∈ catalog.commands.map Command.id := hcommands ▸ hmem
  unfold ofList at hok ⊢
  rw [List.foldlM_append, hok]
  show (command :: later).foldlM add catalog = _
  rw [List.foldlM_cons, add_of_mem hold]
  rfl

/-- A list of commands is refused for its first repeated id and for nothing else. -/
theorem ofList_eq_error_iff {commands : List Command} {fault : Fault} :
    ofList commands = .error fault ↔
      ∃ id, Command.FirstRepeat commands id ∧ fault = .duplicateCommand id := by
  constructor
  · intro h
    rcases ofList_cases commands with ⟨catalog, hok, -⟩ | ⟨id, hrepeat, herror⟩
    · cases hok.symm.trans h
    · cases herror.symm.trans h
      exact ⟨id, hrepeat, rfl⟩
  · rintro ⟨id, hrepeat, rfl⟩
    exact ofList_of_firstRepeat hrepeat

/-! ## What is found -/

/-- What a catalog holds is found under its id. -/
theorem lookup_of_mem {catalog : Catalog} {command : Command} (h : command ∈ catalog.commands) :
    catalog.lookup command.id = some command := by
  cases hfound : catalog.lookup command.id with
  | none =>
      have hno := List.find?_eq_none.mp hfound command h
      simp at hno
  | some found =>
      have hmem : found ∈ catalog.commands := List.mem_of_find?_eq_some hfound
      exact congrArg some (List.inj_on_of_nodup_map catalog.distinct hmem h (id_of_lookup hfound))

/-- Under an id the command of this id is found, and nothing else. -/
theorem lookup_eq_some_iff {command : Command} :
    catalog.lookup id = some command ↔ command ∈ catalog.commands ∧ command.id = id := by
  constructor
  · intro h
    exact ⟨List.mem_of_find?_eq_some h, id_of_lookup h⟩
  · rintro ⟨hmem, rfl⟩
    exact lookup_of_mem hmem

/-! ## One edit -/

/-- Where a loop is replaced, its id finds it, and everything else is found as before. -/
theorem find_replaceLoop {id : String} {l : Loop} (hid : l.id = id) (commands : List Command)
    (other : String) :
    (replaceLoop id l commands).find? (fun command => command.id == other) =
      (commands.find? fun command => command.id == other).map fun command =>
        if command.id = id then .loop l else command := by
  unfold replaceLoop
  rw [List.find?_map]
  congr 1
  congr 1
  funext command
  show ((if command.id = id then Command.loop l else command).id == other) = _
  split
  next hcommand =>
    rw [hcommand]
    exact congrArg (fun text => text == other) hid
  next => rfl

/-- An edited loop is found under its id, and everything else as before. -/
theorem lookup_updateLoop {catalog edited : Catalog} {id : String} {edit : Loop.Edit} {l : Loop}
    (h : catalog.updateLoop id edit = .ok (l, edited)) (other : String) :
    edited.lookup other = if other = id then some (.loop l) else catalog.lookup other := by
  unfold updateLoop at h
  split at h
  next => cases h
  next => cases h
  next old hold =>
    split at h
    next => cases h
    next l' hedit =>
      cases h
      have hid : l.id = id := (Loop.id_of_edit hedit).trans (id_of_lookup hold)
      refine (find_replaceLoop hid catalog.commands other).trans ?_
      change (catalog.lookup other).map _ = _
      by_cases hother : other = id
      · have hold' : Command.id (.loop old) = id := id_of_lookup hold
        rw [hother, hold]
        simp [hold']
      · rw [if_neg hother]
        cases hfound : catalog.lookup other with
        | none => rfl
        | some command =>
            have hcommand : command.id ≠ id := by
              rw [id_of_lookup hfound]
              exact hother
            simp [hcommand]

/-- A command that a catalog does not know cannot be updated. -/
theorem updateLoop_of_none (h : catalog.lookup id = none) :
    catalog.updateLoop id edit = .error (.unknownCommand id) := by
  unfold updateLoop
  split
  next => rfl
  next hfound => cases h.symm.trans hfound
  next hfound => cases h.symm.trans hfound

/-- A command that is no loop cannot be updated. -/
theorem updateLoop_of_basic {command : Basic} (h : catalog.lookup id = some (.basic command)) :
    catalog.updateLoop id edit = .error (.notALoop id) := by
  unfold updateLoop
  split
  next hfound => cases h.symm.trans hfound
  next => rfl
  next hfound => cases h.symm.trans hfound

/-- An edit that a loop refuses is refused. -/
theorem updateLoop_of_refused {loop : Loop} {fault : Fault}
    (h : catalog.lookup id = some (.loop loop)) (hedit : loop.edit edit = .error fault) :
    catalog.updateLoop id edit = .error fault := by
  unfold updateLoop
  split
  next hfound => cases h.symm.trans hfound
  next hfound => cases h.symm.trans hfound
  next loop' hfound =>
    cases h.symm.trans hfound
    split
    next hrefused =>
      cases hedit.symm.trans hrefused
      rfl
    next hedited => cases hedit.symm.trans hedited

/-- An edit that is not refused replaces the loop where it stands in the catalog. -/
theorem updateLoop_of_loop {loop edited : Loop} (h : catalog.lookup id = some (.loop loop))
    (hedit : loop.edit edit = .ok edited) :
    ∃ after, catalog.updateLoop id edit = .ok (edited, after) ∧
      after.commands = replaceLoop id edited catalog.commands := by
  unfold updateLoop
  split
  next hfound => cases h.symm.trans hfound
  next hfound => cases h.symm.trans hfound
  next loop' hfound =>
    cases h.symm.trans hfound
    split
    next hrefused => cases hedit.symm.trans hrefused
    next edited' hedited =>
      cases hedit.symm.trans hedited
      exact ⟨_, rfl, rfl⟩

end Catalog

/-! ## What edits make of commands -/

namespace Loop

/-- An edit that gives no negative number of repeats. -/
def Edit.isFit (edit : Edit) : Bool :=
  !edit.repeats.any (· < 0)

/-- A loop after some edits: each field has the value that was given last, or else its own. -/
def revised (edits : List Edit) (l : Loop) : Loop :=
  { l with
    repeats := (edits.filterMap Edit.repeats).getLastD l.repeats
    children := (edits.filterMap Edit.children).getLastD l.children }

/-- Edits leave the id of a loop alone. -/
@[simp] theorem id_revised (edits : List Edit) (l : Loop) : (l.revised edits).id = l.id := rfl

/-- Without an edit a loop stays as it is. -/
@[simp] theorem revised_nil (l : Loop) : l.revised [] = l := rfl

/-- What was given before counts where nothing was given later. -/
theorem revised_append (earlier later : List Edit) (l : Loop) :
    l.revised (earlier ++ later) = (l.revised earlier).revised later := by
  have hlast {α : Type} (give : Edit → Option α) (own : α) :
      ((earlier ++ later).filterMap give).getLastD own =
        (later.filterMap give).getLastD ((earlier.filterMap give).getLastD own) := by
    rw [List.filterMap_append]
    simp only [List.getLastD_eq_getLast?, List.getLast?_append, Option.getD_or]
  unfold revised
  rw [hlast, hlast]

/-- A loop refuses an edit exactly if it is not fit. -/
theorem edit_of_fit {edit : Edit} (h : edit.isFit = true) (l : Loop) :
    l.edit edit = .ok (l.revised [edit]) := by
  have hfit : edit.repeats.any (· < 0) = false := by simpa [Edit.isFit] using h
  unfold Loop.edit
  rw [if_neg (by simp [hfit])]
  obtain ⟨repeats, children⟩ := edit
  cases repeats <;> cases children <;> rfl

/-- A loop refuses an edit that is not fit. -/
theorem edit_of_unfit {edit : Edit} (h : edit.isFit = false) (l : Loop) :
    l.edit edit = .error .negativeRepeats := by
  have hunfit : edit.repeats.any (· < 0) = true := by simpa [Edit.isFit] using h
  unfold Loop.edit
  rw [if_pos hunfit]

/-- Fit edits leave a number of repeats that is not negative. -/
theorem repeats_revised_nonneg {edits : List Edit} (hedits : ∀ edit ∈ edits, edit.isFit = true)
    {l : Loop} (h : 0 ≤ l.repeats) : 0 ≤ (l.revised edits).repeats := by
  induction edits generalizing l with
  | nil => exact h
  | cons edit rest ih =>
      rw [← List.singleton_append, revised_append]
      refine ih (fun e he => hedits e (List.mem_cons_of_mem _ he)) ?_
      have hfit := hedits edit List.mem_cons_self
      obtain ⟨repeats, children⟩ := edit
      cases repeats with
      | none => exact h
      | some n =>
          show 0 ≤ n
          simpa [Edit.isFit] using hfit

end Loop

namespace Command

/-- A command after the edits that were made for each id. -/
def revised (edits : String → List Loop.Edit) : Command → Command
  | .basic b => .basic b
  | .loop l => .loop (l.revised (edits l.id))

/-- The kinds of commands. -/
inductive Kind where
  | basic
  | loop
  deriving DecidableEq, Repr

/-- What edits leave alone. -/
structure Heading where
  id : String
  label : String
  color : String
  kind : Kind
  deriving DecidableEq, Repr

/-- What edits leave alone of a command. -/
def heading : Command → Heading
  | .basic b => ⟨b.id, b.label, b.color, .basic⟩
  | .loop l => ⟨l.id, l.label, l.color, .loop⟩

variable {edits : String → List Loop.Edit}

/-- Edits leave the id of a command alone. -/
@[simp] theorem id_revised (command : Command) : (command.revised edits).id = command.id := by
  cases command <;> rfl

/-- Edits leave the heading of a command alone. -/
@[simp] theorem heading_revised (command : Command) :
    (command.revised edits).heading = command.heading := by
  cases command <;> rfl

/-- Edits for other ids leave a command alone. -/
theorem revised_of_nil {command : Command} (h : edits command.id = []) :
    command.revised edits = command := by
  cases command with
  | basic b => rfl
  | loop l =>
      have hl : edits l.id = [] := h
      simp [revised, hl]

/-- Edits are made one after the other. -/
theorem revised_append (earlier later : String → List Loop.Edit) (command : Command) :
    command.revised (fun id => earlier id ++ later id) =
      (command.revised earlier).revised later := by
  cases command with
  | basic b => rfl
  | loop l => exact congrArg Command.loop (l.revised_append _ _)

end Command

/-! ## Any number of edits -/

/-- What is asked for when a loop is to be edited. -/
structure Amendment where
  id : String
  edit : Loop.Edit
  deriving DecidableEq, Repr

/-- The edits that an amendment contains for an id. -/
def Amendment.editsFor (amendment : Amendment) (id : String) : List Loop.Edit :=
  if amendment.id = id then [amendment.edit] else []

/-- Why an edit is refused: its id is that of no command or of a basic command, or the loop is to be
repeated a negative number of times, whatever children it is to have. -/
inductive Amendment.Refused (commands : List Command) : Amendment → Fault → Prop
  | unknown {id : String} {edit : Loop.Edit} (hid : id ∉ commands.map Command.id) :
      Refused commands ⟨id, edit⟩ (.unknownCommand id)
  | basic {b : Basic} {edit : Loop.Edit} (hmem : .basic b ∈ commands) :
      Refused commands ⟨b.id, edit⟩ (.notALoop b.id)
  | negative {l : Loop} {edit : Loop.Edit} (hmem : .loop l ∈ commands)
      (hedit : edit.isFit = false) : Refused commands ⟨l.id, edit⟩ .negativeRepeats

/-- An edit is refused, or it is fit, finds a loop and replaces it where it stands. -/
theorem Catalog.updateLoop_cases (catalog : Catalog) (amendment : Amendment) :
    (∃ fault, catalog.updateLoop amendment.id amendment.edit = .error fault ∧
        amendment.Refused catalog.commands fault) ∨
      ∃ l after, catalog.updateLoop amendment.id amendment.edit =
          .ok (l.revised [amendment.edit], after) ∧
        .loop l ∈ catalog.commands ∧ l.id = amendment.id ∧ amendment.edit.isFit = true ∧
        after.commands = catalog.commands.map (Command.revised amendment.editsFor) := by
  obtain ⟨id, edit⟩ := amendment
  cases hfound : catalog.lookup id with
  | none =>
      refine .inl ⟨_, updateLoop_of_none hfound, .unknown fun hid => ?_⟩
      obtain ⟨command, hmem, rfl⟩ := List.mem_map.mp hid
      cases hfound.symm.trans (lookup_of_mem hmem)
  | some command =>
      obtain ⟨hmem, rfl⟩ := lookup_eq_some_iff.mp hfound
      cases command with
      | basic b => exact .inl ⟨_, updateLoop_of_basic hfound, .basic hmem⟩
      | loop l =>
          rcases Bool.eq_false_or_eq_true edit.isFit with hfit | hunfit
          · obtain ⟨after, hupdate, hafter⟩ := updateLoop_of_loop hfound (l.edit_of_fit hfit)
            refine .inr ⟨l, after, hupdate, hmem, rfl, hfit, ?_⟩
            rw [hafter]
            refine List.map_congr_left fun other hother => ?_
            -- No other command of the catalog has the id of the loop.
            by_cases hid : other.id = (Command.loop l).id
            · have hsame := lookup_of_mem hother
              rw [hid, hfound] at hsame
              cases hsame
              simp [Command.revised, Amendment.editsFor, Command.id]
            · rw [if_neg hid, Command.revised_of_nil]
              exact if_neg fun h => hid h.symm
          · exact .inl ⟨_, updateLoop_of_refused hfound (l.edit_of_unfit hunfit),
              .negative hmem hunfit⟩

namespace Stage

variable {σ : Type} (stage : Stage σ)

/-- An edit of the catalog is put in its place, or refused without a change. -/
theorem updateLoop_eq (id : String) (edit : Loop.Edit) (s : σ) :
    stage.updateLoop id edit s =
      match (stage.context.get s).catalog.updateLoop id edit with
      | .ok (l, after) => (.ok l, stage.catalogPlace.set after s)
      | .error fault => (.error fault, s) := by
  have hupdate : stage.updateLoop id edit s =
      Act.bind (Act.ofExcept ((stage.context.get s).catalog.updateLoop id edit))
        (fun result => Act.bind (Act.modify stage.catalogPlace fun _ => result.2)
          fun _ => Act.pure result.1) s := rfl
  rw [hupdate]
  cases (stage.context.get s).catalog.updateLoop id edit <;> rfl

/-- The state after some edits, some of which may have been refused. -/
def amend (amendments : List Amendment) (s : σ) : σ :=
  amendments.foldl (fun s a => (stage.updateLoop a.id a.edit s).2) s

/-- The edits among some amendments that succeed for an id. -/
def granted (id : String) : List Amendment → σ → List Loop.Edit
  | [], _ => []
  | a :: rest, s =>
      match stage.updateLoop a.id a.edit s with
      | (.ok _, after) => a.editsFor id ++ granted id rest after
      | (.error _, after) => granted id rest after

/-- The commands of the catalog as it is. -/
def commands (s : σ) : List Command := (stage.context.get s).catalog.commands

/-- An edit is refused and changes nothing at all, or it succeeds and the commands are revised by
it. -/
theorem updateLoop_cases (hplace : stage.context.Lawful) (a : Amendment) (s : σ) :
    (∃ fault, stage.updateLoop a.id a.edit s = (.error fault, s) ∧
        a.Refused (stage.commands s) fault) ∨
      ∃ l after, stage.updateLoop a.id a.edit s = (.ok (l.revised [a.edit]), after) ∧
        .loop l ∈ stage.commands s ∧ l.id = a.id ∧ a.edit.isFit = true ∧
        stage.commands after = (stage.commands s).map (Command.revised a.editsFor) := by
  rw [updateLoop_eq]
  rcases (stage.context.get s).catalog.updateLoop_cases a with
    ⟨fault, hupdate, hrefused⟩ | ⟨l, after, hupdate, hmem, hid, hfit, hafter⟩
  · rw [hupdate]
    exact .inl ⟨fault, rfl, hrefused⟩
  · rw [hupdate]
    refine .inr ⟨l, _, rfl, hmem, hid, hfit, ?_⟩
    show (stage.context.get (stage.catalogPlace.set after s)).catalog.commands = _
    simp only [catalogPlace, Place.inside, hplace.get_set]
    exact hafter

/-- Edits that succeed are fit. -/
theorem isFit_of_granted (hplace : stage.context.Lawful) {id : String} {edit : Loop.Edit}
    (amendments : List Amendment) (s : σ) (h : edit ∈ stage.granted id amendments s) :
    edit.isFit = true := by
  induction amendments generalizing s with
  | nil => cases h
  | cons a rest ih =>
      unfold granted at h
      rcases stage.updateLoop_cases hplace a s with
        ⟨fault, hupdate, -⟩ | ⟨l, after, hupdate, -, -, hfit, -⟩
      · rw [hupdate] at h
        exact ih s h
      · rw [hupdate] at h
        rcases List.mem_append.mp h with hfirst | hrest
        · unfold Amendment.editsFor at hfirst
          split at hfirst
          · cases List.mem_singleton.mp hfirst
            exact hfit
          · cases hfirst
        · exact ih after hrest

/-- After any edits the commands are the old ones, revised by the edits that succeeded. -/
theorem commands_amend (hplace : stage.context.Lawful) (amendments : List Amendment) (s : σ) :
    stage.commands (stage.amend amendments s) =
      (stage.commands s).map (Command.revised fun id => stage.granted id amendments s) := by
  induction amendments generalizing s with
  | nil =>
      show stage.commands s = _
      rw [List.map_congr_left fun command _ => Command.revised_of_nil rfl]
      exact (List.map_id _).symm
  | cons a rest ih =>
      show stage.commands (stage.amend rest (stage.updateLoop a.id a.edit s).2) = _
      unfold granted
      rcases stage.updateLoop_cases hplace a s with
        ⟨fault, hupdate, -⟩ | ⟨l, after, hupdate, -, -, -, hafter⟩
      · rw [hupdate]
        exact ih s
      · rw [hupdate]
        show stage.commands (stage.amend rest after) = _
        rw [ih after, hafter, List.map_map]
        exact List.map_congr_left fun command _ => (Command.revised_append _ _ command).symm

/-- Edits made after others are made where these have led. -/
theorem amend_append (earlier later : List Amendment) (s : σ) :
    stage.amend (earlier ++ later) s = stage.amend later (stage.amend earlier s) :=
  List.foldl_append

/-- A loop whose number of repeats is not negative keeps it so. -/
theorem repeats_amend_nonneg (hplace : stage.context.Lawful) (amendments : List Amendment)
    {s : σ} {l l' : Loop} (hl : .loop l ∈ stage.commands s) (h : 0 ≤ l.repeats)
    (hl' : .loop l' ∈ stage.commands (stage.amend amendments s)) (hid : l'.id = l.id) :
    0 ≤ l'.repeats := by
  rw [commands_amend stage hplace] at hl'
  obtain ⟨command, hmem, heq⟩ := List.mem_map.mp hl'
  cases command with
  | basic b => cases heq
  | loop old =>
      cases heq
      have hfound := Catalog.lookup_of_mem hmem
      have hsame : Command.id (.loop old) = Command.id (.loop l) := hid
      rw [hsame, Catalog.lookup_of_mem hl] at hfound
      cases hfound
      exact Loop.repeats_revised_nonneg
        (fun edit hedit => stage.isFit_of_granted hplace amendments s hedit) h

end Stage

/-- A fit edit of a loop is not refused, since no other command has its id. -/
theorem Amendment.Refused.not_fit {catalog : Catalog} {a : Amendment} {fault : Fault}
    (h : a.Refused catalog.commands fault) {l : Loop} (hmem : .loop l ∈ catalog.commands)
    (hid : l.id = a.id) : ¬a.edit.isFit = true := by
  have hfound : catalog.lookup a.id = some (.loop l) := hid ▸ Catalog.lookup_of_mem hmem
  cases h with
  | unknown hunknown =>
      exact fun _ => hunknown (List.mem_map.mpr ⟨.loop l, hmem, hid⟩)
  | basic hbasic => cases (Catalog.lookup_of_mem hbasic).symm.trans hfound
  | negative _ hedit => simp [hedit]

/-- Whether an edit is refused does not depend on the edits that were made before. -/
theorem Amendment.Refused.of_revised {commands : List Command} {edits : String → List Loop.Edit}
    {a : Amendment} {fault : Fault} (h : a.Refused (commands.map (Command.revised edits)) fault) :
    a.Refused commands fault := by
  cases h with
  | unknown hid =>
      refine .unknown fun hmem => hid ?_
      rw [List.map_map]
      obtain ⟨command, hcommand, rfl⟩ := List.mem_map.mp hmem
      exact List.mem_map.mpr ⟨command, hcommand, Command.id_revised command⟩
  | basic hmem =>
      obtain ⟨command, hcommand, heq⟩ := List.mem_map.mp hmem
      cases command with
      | basic b =>
          cases heq
          exact .basic hcommand
      | loop l => cases heq
  | negative hmem hedit =>
      obtain ⟨command, hcommand, heq⟩ := List.mem_map.mp hmem
      cases command with
      | basic b => cases heq
      | loop l =>
          cases heq
          exact .negative (l := l) hcommand hedit

/-- The same loops are found after edits as before. -/
theorem Command.exists_loop_revised {commands : List Command} {edits : String → List Loop.Edit}
    {id : String} :
    (∃ l, .loop l ∈ commands.map (Command.revised edits) ∧ l.id = id) ↔
      ∃ l, .loop l ∈ commands ∧ l.id = id := by
  constructor
  · rintro ⟨l, hmem, rfl⟩
    obtain ⟨command, hcommand, heq⟩ := List.mem_map.mp hmem
    cases command with
    | basic b => cases heq
    | loop old =>
        cases heq
        exact ⟨old, hcommand, rfl⟩
  · rintro ⟨l, hmem, rfl⟩
    exact ⟨l.revised (edits l.id), List.mem_map.mpr ⟨_, hmem, rfl⟩, rfl⟩

/-- What holds after some edits of a catalog that was made of some commands. -/
structure Stage.Amended {σ : Type} (stage : Stage σ) (commands : List Command)
    (amendments : List Amendment) (s : σ) : Prop where
  /-- The commands stand where they stood, with their ids, labels, colors and kinds. -/
  headings : (stage.commands (stage.amend amendments s)).map Command.heading =
    commands.map Command.heading
  /-- Looking up an id changes nothing and finds the command of this id, if there is one. -/
  lookup : ∀ id, ∃ found,
    stage.lookup id (stage.amend amendments s) = (.ok found, stage.amend amendments s) ∧
      ∀ command, found = some command ↔
        command ∈ stage.commands (stage.amend amendments s) ∧ command.id = id
  /-- Each field of a loop has the value that was given last in an edit that succeeded for its id,
  or else the first one. -/
  revised : stage.commands (stage.amend amendments s) =
    commands.map (Command.revised fun id => stage.granted id amendments s)
  /-- From the moment when it is not negative, a number of repeats never is. -/
  nonneg : ∀ earlier later, amendments = earlier ++ later →
    ∀ l, .loop l ∈ stage.commands (stage.amend earlier s) → 0 ≤ l.repeats →
      ∀ l', .loop l' ∈ stage.commands (stage.amend amendments s) → l'.id = l.id →
        0 ≤ l'.repeats
  /-- The next edit succeeds exactly if it is fit and its id is that of a loop. -/
  succeeds : ∀ a : Amendment,
    (∃ l after, stage.updateLoop a.id a.edit (stage.amend amendments s) = (.ok l, after)) ↔
      (∃ l, .loop l ∈ commands ∧ l.id = a.id) ∧ a.edit.isFit = true
  /-- Otherwise it is refused and leaves everything as it was. -/
  refused : ∀ (a : Amendment) fault after,
    stage.updateLoop a.id a.edit (stage.amend amendments s) = (.error fault, after) →
      a.Refused commands fault ∧ after = stage.amend amendments s

/-- A list of commands gives a catalog exactly if their ids are distinct, and otherwise the first id
that repeats an earlier one is named as a wrong value.  On every stage with this catalog, every
sequence of edits, whatever becomes of each of them, leaves the catalog an ordered map: the commands
keep their places and headings and are found under their ids, each field of each loop has the value
that was given last in an edit that succeeded, numbers of repeats do not become negative, and a
further edit succeeds for a loop and a number that is not negative, or changes nothing at all. -/
theorem Stage.catalog_amended {σ : Type} (stage : Stage σ) (hplace : stage.context.Lawful)
    (commands : List Command) :
    ((∃ catalog, Catalog.ofList commands = .ok catalog) ↔ (commands.map Command.id).Nodup) ∧
      (∀ fault, Catalog.ofList commands = .error fault ↔
        ∃ id, Command.FirstRepeat commands id ∧ fault = .duplicateCommand id ∧
          fault.kind = .value ∧ fault.message = "Duplicate command id: " ++ id) ∧
      ∀ catalog, Catalog.ofList commands = .ok catalog →
        ∀ s, (stage.context.get s).catalog = catalog →
          ∀ amendments, stage.Amended commands amendments s := by
  refine ⟨Catalog.ofList_isOk_iff commands, fun fault => ?_,
    fun catalog hok s hs amendments => ?_⟩
  · rw [Catalog.ofList_eq_error_iff]
    constructor
    · rintro ⟨id, hrepeat, rfl⟩
      exact ⟨id, hrepeat, rfl, rfl, rfl⟩
    · rintro ⟨id, hrepeat, rfl, -, -⟩
      exact ⟨id, hrepeat, rfl⟩
  · have hcommands : stage.commands s = commands := by
      rw [Stage.commands, hs]
      exact Catalog.commands_of_ofList hok
    have hrevised := stage.commands_amend hplace amendments s
    rw [hcommands] at hrevised
    refine ⟨?_, fun id => ⟨_, rfl, fun command => Catalog.lookup_eq_some_iff⟩, hrevised, ?_, ?_,
      ?_⟩
    · rw [hrevised, List.map_map]
      exact List.map_congr_left fun command _ => Command.heading_revised command
    · rintro earlier later rfl l hl hnonneg l' hl' hid
      rw [stage.amend_append] at hl'
      exact stage.repeats_amend_nonneg hplace later hl hnonneg hl' hid
    · intro a
      rw [← Command.exists_loop_revised, ← hrevised]
      rcases stage.updateLoop_cases hplace a (stage.amend amendments s) with
        ⟨fault, hupdate, hrefused⟩ | ⟨l, after, hupdate, hmem, hid, hfit, -⟩
      · refine iff_of_false ?_ ?_
        · rintro ⟨l, after, hsucceeds⟩
          cases hupdate.symm.trans hsucceeds
        · rintro ⟨⟨l, hmem, hid⟩, hfit⟩
          exact hrefused.not_fit hmem hid hfit
      · exact iff_of_true ⟨_, after, hupdate⟩ ⟨⟨l, hmem, hid⟩, hfit⟩
    · intro a fault after hfails
      rcases stage.updateLoop_cases hplace a (stage.amend amendments s) with
        ⟨fault', hupdate, hrefused⟩ | ⟨l, after', hupdate, -⟩
      · cases hupdate.symm.trans hfails
        rw [hrevised] at hrefused
        exact ⟨hrefused.of_revised, rfl⟩
      · cases hupdate.symm.trans hfails

/-- A context on a stage of its own. -/
def Context.bench : Stage Context where
  owner := "bench"
  context := Place.whole
  observe _ _ := pure ()
  custom _ := pure ()

/-- A basic command and two loops. -/
def threeCommands : List Command :=
  [.basic ⟨"ahead", "", "", .moveForward⟩, .loop { id := "twice" },
    .loop { id := "thrice", repeats := 3 }]

/-- Edits of these commands, of which the first and the last succeed. -/
def someAmendments : List Amendment :=
  [⟨"twice", { repeats := some 5 }⟩,
    ⟨"twice", { repeats := some (-1), children := some ["ahead"] }⟩,
    ⟨"ahead", { repeats := some 7 }⟩, ⟨"ghost", {}⟩, ⟨"twice", { children := some ["thrice"] }⟩]

/-- The number of one edit and the children of another one are what a loop ends up with, and the
children that came with a negative number are not among them.  Where the last two of the commands
are repeated by others, the one that is repeated first is named. -/
theorem Stage.catalog_amended_threeCommands :
    (∃ catalog, Catalog.ofList threeCommands = .ok catalog ∧
      Context.bench.commands (Context.bench.amend someAmendments { catalog }) =
        [.basic ⟨"ahead", "", "", .moveForward⟩,
          .loop { id := "twice", repeats := 5, children := ["thrice"] },
          .loop { id := "thrice", repeats := 3 }] ∧
      ¬∃ l after, Context.bench.updateLoop "twice" { repeats := some (-1), children := some [] }
        (Context.bench.amend someAmendments { catalog }) = (.ok l, after)) ∧
    Catalog.ofList (threeCommands ++ [.loop { id := "thrice" }, .loop { id := "twice" }]) =
      .error (.duplicateCommand "thrice") := by
  obtain ⟨hmade, -, hamended⟩ :=
    Stage.catalog_amended Context.bench Place.lawful_whole threeCommands
  obtain ⟨catalog, hok⟩ := hmade.mpr (by decide)
  obtain ⟨-, hrefused, -⟩ := Stage.catalog_amended Context.bench Place.lawful_whole
    (threeCommands ++ [.loop { id := "thrice" }, .loop { id := "twice" }])
  have h := hamended catalog hok { catalog } rfl someAmendments
  refine ⟨⟨catalog, hok, ?_, fun hsucceeds => ?_⟩,
    (hrefused _).mpr ⟨"thrice", ⟨threeCommands, _, _, rfl, rfl, by decide, by decide⟩, rfl, rfl,
      rfl⟩⟩
  · cases hok
    rw [h.revised]
    rfl
  · obtain ⟨-, hfit⟩ := (h.succeeds ⟨"twice", { repeats := some (-1), children := some [] }⟩).mp
      hsucceeds
    cases hfit

end Gridwalk
