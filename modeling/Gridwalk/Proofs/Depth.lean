import Gridwalk.Proofs.Amendment
import Gridwalk.Proofs.UnbrokenRuns
import Gridwalk.Proofs.ActionCounts
import Mathlib.Data.List.Nodup

/-!
# The limit on the depth of loops

Every run is bounded by the depth to which loops may lie in each other (`Stage.execute_counts`), and
the bound is sharp.  If loops are nested in each other, each with `R` repetitions and with `C`
children that are all the next loop, then the first one comes to what the last one contains,
`R * C` times for every level (`Catalog.Nests.expand`).  So eight nested loops around a basic
command reach the bound, and a ninth loop in their midst is refused before anything is done,
whatever it contains (`Fleet.execute_depth`).
-/

set_option autoImplicit false

namespace Gridwalk

/-! ## Nested loops -/

namespace Catalog

/-- The ids of a chain name loops of `R` repetitions with `C` children each, all of which are the
next id of the chain or, for the last loop, an id beyond it. -/
def Nests (catalog : Catalog) (R C : Nat) (beyond : Phrase) : List Phrase → Prop
  | [] => True
  | id :: rest =>
      (∃ l : Loop, catalog.named id = some (.loop l) ∧ l.repeats = R ∧
        l.children = List.replicate C (rest.headD beyond)) ∧ catalog.Nests R C beyond rest

/-- Repeating a repeated list repeats it as often as both together. -/
theorem flatten_replicate_flatten {α : Type} (m n : Nat) (items : List α) :
    (List.replicate m (List.replicate n items).flatten).flatten =
      (List.replicate (m * n) items).flatten := by
  induction m with
  | zero => simp
  | succ m ih =>
      rw [List.replicate_succ, List.flatten_cons, ih, Nat.succ_mul, Nat.add_comm (m * n),
        ← List.replicate_append_replicate, List.flatten_append]

/-- Nested loops come to what lies beyond them, as often as they and their children are repeated. -/
theorem Nests.expand {catalog : Catalog} {R C : Nat} {beyond : Phrase} {chain : List Phrase}
    (h : catalog.Nests R C beyond chain) (depth : Nat)
    (hdepth : depth + chain.length ≤ maxLoopDepth) :
    catalog.expand (chain.headD beyond) depth =
      (List.replicate ((R * C) ^ chain.length)
        (catalog.expand beyond (depth + chain.length : Nat))).flatten := by
  induction chain generalizing depth with
  | nil => simp
  | cons id rest ih =>
      obtain ⟨⟨l, hid, hrepeats, hchildren⟩, hrest⟩ := h
      rw [List.length_cons] at hdepth ⊢
      have hinner := ih hrest (depth + 1) (by omega)
      show catalog.expand id depth = _
      rw [expand_eq, hid]
      simp only [hrepeats, hchildren, Int.toNat_natCast]
      have htimes : R * C * (R * C) ^ rest.length = (R * C) ^ (rest.length + 1) := by
        rw [Nat.pow_succ, Nat.mul_comm]
      have hlevel : depth + 1 + rest.length = depth + (rest.length + 1) := by omega
      rw [if_neg (by omega), List.flatMap_replicate, hinner, flatten_replicate_flatten,
        flatten_replicate_flatten, htimes, hlevel]

section Eight

variable {catalog : Catalog} {R C : Nat} {beyond : Phrase} {chain : List Phrase}
  (h : catalog.Nests R C beyond chain) (hlength : chain.length = maxLoopDepth)

include h hlength

/-- Eight nested loops come to what lies beyond them at the limit. -/
theorem Nests.expansion :
    catalog.expansion [chain.headD beyond] =
      (List.replicate ((R * C) ^ maxLoopDepth) (catalog.expand beyond maxLoopDepth)).flatten := by
  have hexpand := h.expand 0 (by omega)
  rw [Nat.zero_add, hlength] at hexpand
  rw [Catalog.expansion, List.flatMap_singleton]
  exact hexpand

/-- Around a basic command they come to its action, as often as the bound allows. -/
theorem Nests.expansion_basic {b : Basic} (hbeyond : catalog.named beyond = some (.basic b)) :
    catalog.expansion [chain.headD beyond] =
      (List.replicate ((R * C) ^ maxLoopDepth) b).map .action := by
  have hinside : catalog.expand beyond maxLoopDepth = [.action b] := by
    rw [expand_eq, hbeyond]
  rw [h.expansion hlength, hinside, List.map_replicate, List.flatten_replicate_singleton]

/-- Around another loop they come to cuts, to one at least if they are repeated and have
children. -/
theorem Nests.expansion_loop (hR : 0 < R) (hC : 0 < C) {l : Loop}
    (hbeyond : catalog.named beyond = some (.loop l)) :
    ∃ rest, catalog.expansion [chain.headD beyond] = .cut l.id :: rest := by
  have hinside : catalog.expand beyond maxLoopDepth = [.cut l.id] := by
    rw [expand_eq, hbeyond]
    exact if_pos (Nat.le_refl _)
  have hsome : (R * C) ^ maxLoopDepth ≠ 0 :=
    Nat.pos_iff_ne_zero.mp (Nat.pow_pos (Nat.mul_pos hR hC))
  obtain ⟨n, hn⟩ := Nat.exists_eq_succ_of_ne_zero hsome
  rw [h.expansion hlength, hinside, hn, List.replicate_succ, List.flatten_cons]
  exact ⟨_, rfl⟩

end Eight

/-! ## Towers -/

/-- Loops of some ids, nested in each other, with an id beyond them. -/
def nestedLoops (R C : Nat) (beyond : String) : List String → List Command
  | [] => []
  | id :: rest =>
      .loop { id, repeats := R, children := List.replicate C (.whole (rest.headD beyond)) } ::
        nestedLoops R C beyond rest

/-- Nested loops have the ids that were given. -/
theorem ids_nestedLoops (R C : Nat) (beyond : String) (chain : List String) :
    (nestedLoops R C beyond chain).map Command.id = chain := by
  induction chain with
  | nil => rfl
  | cons id rest ih => exact congrArg (id :: ·) ih

/-- Nested loops have as many repetitions and children as they are said to have. -/
theorem within_nestedLoops {R C : Nat} {beyond : String} {chain : List String} :
    ∀ command ∈ nestedLoops R C beyond chain, command.Within R C := by
  induction chain with
  | nil => exact fun _ h => nomatch h
  | cons id rest ih =>
      intro command hcommand
      rcases List.mem_cons.mp hcommand with rfl | hrest
      · exact ⟨Int.le_refl _, Nat.le_of_eq List.length_replicate⟩
      · exact ih command hrest

/-- The loops of a catalog that are nested in each other are. -/
theorem nests_of_mem {catalog : Catalog} {R C : Nat} {beyond : String} {chain : List String}
    (h : ∀ command ∈ nestedLoops R C beyond chain, command ∈ catalog.commands) :
    catalog.Nests R C (.whole beyond) (chain.map .whole) := by
  induction chain with
  | nil => trivial
  | cons id rest ih =>
      refine ⟨⟨_, lookup_of_mem (h _ List.mem_cons_self), rfl, ?_⟩,
        ih fun command hcommand => h command (List.mem_cons_of_mem _ hcommand)⟩
      cases rest <;> rfl

/-- The ids of eight loops. -/
def storeys : List String :=
  ["first", "second", "third", "fourth", "fifth", "sixth", "seventh", "eighth"]

/-- Eight nested loops around some other commands, the first of which lies beyond them. -/
def tower (R C : Nat) (beyond : Command) (others : List Command)
    (h : (storeys ++ (beyond :: others).map Command.id).Nodup) : Catalog where
  commands := nestedLoops R C beyond.id storeys ++ beyond :: others
  distinct := by
    rw [List.map_append, ids_nestedLoops]
    exact h

section Towers

variable {R C : Nat} {beyond : Command} {others : List Command}
  (h : (storeys ++ (beyond :: others).map Command.id).Nodup)

/-- The loops of a tower are nested in each other. -/
theorem nests_tower :
    (tower R C beyond others h).Nests R C (.whole beyond.id) (storeys.map .whole) :=
  nests_of_mem fun _ hcommand => List.mem_append_left _ hcommand

/-- What lies beyond the loops of a tower is named by its id, and so is everything else. -/
theorem named_tower {command : Command} (hcommand : command ∈ beyond :: others) :
    (tower R C beyond others h).named (.whole command.id) = some command :=
  lookup_of_mem (List.mem_append_right _ hcommand)

/-- A tower keeps to its bounds if what lies beyond the loops does. -/
theorem within_tower (hothers : ∀ command ∈ beyond :: others, command.Within R C) :
    (tower R C beyond others h).Within R C := by
  intro command hcommand
  rcases List.mem_append.mp hcommand with hloop | hother
  · exact within_nestedLoops command hloop
  · exact hothers command hother

end Towers

/-- The basic command inside the loops of a tower. -/
def core : Basic where
  id := "core"
  deed := .moveForward

/-- A ninth loop around the basic command of a tower. -/
def ninth (repeats children : Nat) : Loop where
  id := "ninth"
  repeats := repeats
  children := List.replicate children (.whole core.id)

end Catalog

/-! ## Runs -/

namespace Fleet

/-- On the stages of a fleet only the run counts actions, and nobody edits the catalog, however its
pauses are answered. -/
theorem stage_tallies (crowd : Crowd) (name : String) (answers : List Pause → Pause → Answer) :
    (stage crowd name).Tallies (pace answers) where
  place := place_lawful name
  observe _ _ _ := rfl
  custom _ _ := rfl
  sleep _ _ := rfl

/-- The limit on the depth of loops bounds every run, and the bound is sharp.  If every loop of a
catalog has at most `R` repetitions and at most `C` children, then a run of `n` ids counts no more
than `n * max 1 ((R * C) ^ 8)` actions, whether it is completed, aborted or cancelled.  Eight loops
that are nested in each other, each with `R` repetitions and with `C` times the next one as its
children, reach the bound around a basic command; around another loop, whatever it contains, they
are aborted before anything is done.  And there are such loops for all `R` and `C`. -/
theorem execute_depth (R C : Nat) :
    (∀ {σ : Type} (stage : Stage σ) (sleep : Pause → σ → Answer × σ), stage.Tallies sleep →
      ∀ (run : RunId) (ids : List Phrase) (s : σ), (stage.context.get s).catalog.Within R C →
        let ended := (stage.execute run ids).play sleep s
        ((stage.context.get s).phase = .idle →
          (stage.context.get ended.2).actionsCompleted ≤ ids.length * max 1 ((R * C) ^ 8) ∧
            ∀ result, ended.1 = .ok result →
              result.stepsExecuted = (stage.context.get ended.2).actionsCompleted) ∧
        ((stage.context.get s).phase = .running → ended = (.error .runInProgress, s))) ∧
    (0 < R → 0 < C →
      ∀ (crowd : Crowd) (name : String) (answers : List Pause → Pause → Answer) (f : Fleet)
        (run : RunId) (beyond : Phrase) (chain : List Phrase),
        (f.contexts name).phase = .idle → (f.contexts name).actor.value.foreign = [] →
        chain.length = 8 → (f.contexts name).catalog.Nests R C beyond chain →
        let ended := ((stage crowd name).execute run [chain.headD beyond]).play (pace answers) f
        (∀ b, (f.contexts name).catalog.named beyond = some (.basic b) →
          (∀ earlier p, answers earlier p = .ok ()) →
          ∃ result, ended.1 = .ok result ∧ result.outcome = .completed ∧
            result.stepsExecuted = (R * C) ^ 8) ∧
        (∀ l, (f.contexts name).catalog.named beyond = some (.loop l) →
          ∃ result, ended.1 = .ok result ∧ result.outcome = .aborted (.loopTooDeep 8 l.id) ∧
            result.stepsExecuted = 0)) ∧
    ∃ (chain : List String) (b : Basic), chain.length = 8 ∧ chain.Nodup ∧
      (∃ catalog : Catalog, catalog.Within R C ∧
        catalog.Nests R C (.whole b.id) (chain.map .whole) ∧
        catalog.named (.whole b.id) = some (.basic b)) ∧
      ∀ repeats children : Nat, ∃ (catalog : Catalog) (l : Loop),
        l.repeats = repeats ∧ l.children = List.replicate children (.whole b.id) ∧
        catalog.Nests R C (.whole l.id) (chain.map .whole) ∧
        catalog.named (.whole l.id) = some (.loop l) ∧
        catalog.named (.whole b.id) = some (.basic b) := by
  refine ⟨?_, ?_, ?_⟩
  · intro σ stage sleep htallies run ids s hwithin ended
    refine ⟨fun hidle => Stage.execute_counts htallies run ids hwithin hidle, fun hrunning => ?_⟩
    show (stage.execute run ids).play sleep s = _
    rw [Stage.execute_eq]
    show ((Routine.ofAct stage.begin).bind _).play sleep s = _
    rw [Routine.play_bind, Routine.play_ofAct, Stage.begin_of_running hrunning]
  · intro hR hC crowd name answers f run beyond chain hidle hforeign hlength hnests ended
    constructor
    · intro b hbeyond hanswers
      obtain ⟨result, g, hplay, hjourney⟩ := execute_journeys_of_actions crowd hidle hforeign
        hanswers run (hnests.expansion_basic hlength hbeyond)
      refine ⟨result, congrArg Prod.fst hplay, hjourney.outcome, ?_⟩
      rw [hjourney.steps, Actor.actions_journey, List.length_map, List.length_replicate]
      rfl
    · intro l hbeyond
      obtain ⟨rest, hrest⟩ := hnests.expansion_loop hlength hR hC hbeyond
      obtain ⟨result, g, hplay, hjourney⟩ := execute_journeys crowd hidle hforeign run _
        hrest.symm (.inl rfl)
      exact ⟨result, congrArg Prod.fst hplay, hjourney.outcome, hjourney.steps⟩
  · have height : (Catalog.storeys ++ [Catalog.core.id]).Nodup := by decide
    refine ⟨Catalog.storeys, Catalog.core, rfl, by decide, ?_, fun repeats children => ?_⟩
    · refine ⟨Catalog.tower R C (.basic Catalog.core) [] height, Catalog.within_tower _ ?_,
        Catalog.nests_tower _, Catalog.named_tower _ List.mem_cons_self⟩
      intro command hcommand
      obtain rfl := List.mem_singleton.mp hcommand
      trivial
    · have hnine : (Catalog.storeys ++ ["ninth", Catalog.core.id]).Nodup := by decide
      let contents : List Command :=
        [.loop (Catalog.ninth repeats children), .basic Catalog.core]
      have hdistinct : (Catalog.storeys ++ contents.map Command.id).Nodup := hnine
      exact ⟨Catalog.tower R C (.loop (Catalog.ninth repeats children)) [.basic Catalog.core]
          hdistinct,
        Catalog.ninth repeats children, rfl, rfl, Catalog.nests_tower hdistinct,
        Catalog.named_tower hdistinct List.mem_cons_self,
        Catalog.named_tower hdistinct (List.mem_cons_of_mem _ List.mem_cons_self)⟩

/-- A fleet whose contexts have loops of two repetitions, nested in each other, around a command. -/
def towering (beyond : Command) (others : List Command)
    (h : (Catalog.storeys ++ (beyond :: others).map Command.id).Nodup) : Fleet where
  contexts _ := { catalog := Catalog.tower 2 1 beyond others h }

/-- Eight loops of two repetitions make 256 moves, no run of one of their ids makes more if its
pauses are cancelled, and with a ninth loop that is never repeated there is no move at all. -/
theorem execute_depth_towering :
    let eight := towering (.basic Catalog.core) [] (by decide)
    let nine := towering (.loop (Catalog.ninth 0 0)) [.basic Catalog.core] (by decide)
    (∃ result, (((stage .quiet "a").execute (.ofNat 0) ["first"]).play (pace fun _ _ => .ok ())
        eight).1 = .ok result ∧ result.outcome = .completed ∧ result.stepsExecuted = 256) ∧
      ((((stage .quiet "a").execute (.ofNat 0) ["first"]).play
        (pace fun _ _ => .error .cancelled) eight).2.contexts "a").actionsCompleted ≤ 256 ∧
      ∃ result, (((stage .quiet "a").execute (.ofNat 0) ["first"]).play
        (pace fun _ _ => .error .cancelled) nine).1 = .ok result ∧
        result.outcome = .aborted (.loopTooDeep 8 "ninth") ∧ result.stepsExecuted = 0 := by
  intro eight nine
  obtain ⟨hbound, hsharp, -⟩ := execute_depth 2 1
  have height : (Catalog.storeys ++ [Command.basic Catalog.core].map Command.id).Nodup := by decide
  have hnine : (Catalog.storeys ++ [.loop (Catalog.ninth 0 0), .basic Catalog.core].map
      Command.id).Nodup := by decide
  have hwithin : (eight.contexts "a").catalog.Within 2 1 := by
    refine Catalog.within_tower height fun command hcommand => ?_
    obtain rfl := List.mem_singleton.mp hcommand
    trivial
  have hfirst (beyond : Phrase) : (Catalog.storeys.map .whole).headD beyond = "first" := rfl
  have hfull := hsharp (by decide) (by decide) .quiet "a" (fun _ _ => .ok ()) eight (.ofNat 0) _ _
    rfl rfl rfl (Catalog.nests_tower height)
  have hdeep := hsharp (by decide) (by decide) .quiet "a" (fun _ _ => .error .cancelled) nine
    (.ofNat 0) _ _ rfl rfl rfl (Catalog.nests_tower hnine)
  have hcancelled := hbound (stage .quiet "a") _ (stage_tallies .quiet "a" fun _ _ =>
    .error .cancelled) (.ofNat 0) ["first"] eight hwithin
  rw [hfirst] at hfull hdeep
  obtain ⟨result, hplay, hcompleted, hsteps⟩ :=
    hfull.1 _ (Catalog.named_tower height List.mem_cons_self) fun _ _ => rfl
  have hget (f : Fleet) : (stage .quiet "a").context.get f = f.contexts "a" := rfl
  have hmost := (hcancelled.1 rfl).1
  have hlimit : [("first" : Phrase)].length * max 1 ((2 * 1) ^ 8) = 256 := by decide
  rw [hlimit, hget] at hmost
  exact ⟨⟨result, hplay, hcompleted, hsteps⟩, hmost,
    hdeep.2 _ (Catalog.named_tower hnine List.mem_cons_self)⟩

end Fleet

end Gridwalk
