import AirspaceRaster.CommandLine.Run
import AirspaceRaster.Proofs.Raster.Filling
import AirspaceRaster.Proofs.Raster.Session
import AirspaceRaster.Proofs.Raster.Tasks
import AirspaceRaster.Proofs.Raster.TileName

/-! Tiles that are written at once. The tasks of the tiles take their steps in any order on one folder. As the
    files of the tiles are different, every task comes to what it would come to alone, and so the results and
    the folder are those of a run that writes the tiles one after the other. -/

namespace AirspaceRaster

structure TileRun (R : Type) where
  tasks : List (Tile × TileStage R)
  folder : Folder

namespace TileRun
variable {R : Type}

def start (tiles : List Tile) (folder : Folder) : TileRun R where
  tasks := tiles.map fun tile => (tile, .waiting)
  folder := folder

def resultOf? (task : Tile × TileStage R) : Option (Tile × Except (TileFailure R) TileOutcome) :=
  task.2.result?.map fun result => (task.1, result)

/-- The results in the order of the tiles, when all tasks are finished. A fatal failure ends the run, and then
    there are none. -/
def results? (run : TileRun R) : Option (List (Tile × Except (TileFailure R) TileOutcome)) :=
  (run.tasks.mapM resultOf?).filter fun results => !results.any Run.isFatal

theorem resultOf?_eq_some_iff {task : Tile × TileStage R} {r : Tile × Except (TileFailure R) TileOutcome} :
    resultOf? task = some r ↔ task = (r.1, .finished r.2) := by
  obtain ⟨tile, stage⟩ := task
  obtain ⟨tile', result⟩ := r
  cases stage <;> simp [resultOf?, TileStage.result?]

theorem mapM_resultOf? {tasks : List (Tile × TileStage R)}
    {results : List (Tile × Except (TileFailure R) TileOutcome)} :
    tasks.mapM resultOf? = some results ↔ tasks = results.map fun r => (r.1, .finished r.2) := by
  induction tasks generalizing results with
  | nil => cases results <;> simp
  | cons task tasks ih =>
    simp only [List.mapM_cons, Option.bind_eq_bind, Option.bind_eq_some_iff, Option.pure_def, Option.some.injEq,
      resultOf?_eq_some_iff, ih]
    constructor
    · rintro ⟨r, rfl, rs, rfl, rfl⟩
      rfl
    · intro h
      obtain ⟨r, rs, rfl, hr, hrs⟩ := List.map_eq_cons_iff.mp h.symm
      exact ⟨r, hr.symm, rs, hrs.symm, rfl⟩

theorem results?_eq_some_iff {run : TileRun R} {results : List (Tile × Except (TileFailure R) TileOutcome)} :
    run.results? = some results ↔
      run.tasks = results.map (fun r => (r.1, .finished r.2)) ∧ results.any Run.isFatal = false := by
  rw [results?, Option.filter_eq_some_iff, mapM_resultOf?, Bool.not_eq_true']

end TileRun

namespace TileWriter

variable {R : Type} [Scalar R] {table : AirspaceTable R} {w : TileWriter table} {tile : Tile} {tiles order : List Tile}
  {before folder other : Folder} {run : TileRun R} {results : List (Tile × Except (TileFailure R) TileOutcome)}

def advance (w : TileWriter table) (run : TileRun R) (i : Nat) : TileRun R :=
  match run.tasks[i]? with
  | none => run
  | some (tile, stage) =>
    { tasks := run.tasks.set i (tile, (w.step tile stage run.folder).1)
      folder := (w.step tile stage run.folder).2 }

/-- The run after some steps, given by the places of the tasks that take them. -/
def interleave (w : TileWriter table) (schedule : List Nat) (run : TileRun R) : TileRun R :=
  schedule.foldl w.advance run

/-! ### One step -/

variable {i j : Nat} {stage : TileStage R} {name : String}

theorem advance_of_getElem? (h : run.tasks[i]? = some (tile, stage)) :
    w.advance run i = ⟨run.tasks.set i (tile, (w.step tile stage run.folder).1), (w.step tile stage run.folder).2⟩ := by
  rw [advance, h]

theorem advance_of_none (h : run.tasks[i]? = none) : w.advance run i = run := by
  rw [advance, h]

/-- A step is one of the task at its place, and the other tasks are where they were. -/
theorem advance_cases (h : (w.advance run i).tasks[j]? = some (tile, stage)) :
    (i ≠ j ∧ run.tasks[j]? = some (tile, stage)) ∨
      (i = j ∧ ∃ before, run.tasks[j]? = some (tile, before) ∧ stage = (w.step tile before run.folder).1 ∧
        (w.advance run i).folder = (w.step tile before run.folder).2) := by
  match hi : run.tasks[i]? with
  | none =>
    rw [advance_of_none hi] at h
    refine Or.inl ⟨?_, h⟩
    rintro rfl
    cases hi.symm.trans h
  | some (tile', before) =>
    rw [advance_of_getElem? hi] at h ⊢
    rw [List.getElem?_set] at h
    by_cases hij : i = j
    · rw [if_pos hij, if_pos (List.getElem?_eq_some_iff.mp hi).1] at h
      cases h
      exact Or.inr ⟨hij, before, hij ▸ hi, rfl, rfl⟩
    · rw [if_neg hij] at h
      exact Or.inl ⟨hij, h⟩

theorem map_fst_advance (w : TileWriter table) (run : TileRun R) (i : Nat) :
    (w.advance run i).tasks.map Prod.fst = run.tasks.map Prod.fst := by
  match hi : run.tasks[i]? with
  | none => rw [advance_of_none hi]
  | some (tile, stage) =>
    rw [advance_of_getElem? hi]
    refine List.ext_getElem? fun j => ?_
    rw [List.getElem?_map, List.getElem?_map, List.getElem?_set]
    by_cases hij : i = j
    · rw [if_pos hij, if_pos (List.getElem?_eq_some_iff.mp hi).1, ← hij, hi]
      rfl
    · rw [if_neg hij]

theorem slot_advance (h : ∀ task, run.tasks[i]? = some task → name ≠ task.1.fileName) :
    (w.advance run i).folder.slot name = run.folder.slot name := by
  match hi : run.tasks[i]? with
  | none => rw [advance_of_none hi]
  | some (tile, stage) =>
    rw [advance_of_getElem? hi]
    exact slot_step (h _ hi) stage

/-! ### Every task as if alone -/

/-- The results of some tiles, each one alone in the same folder. -/
def resultsAlone (w : TileWriter table) (folder : Folder) (tiles : List Tile) :
    List (Tile × Except (TileFailure R) TileOutcome) :=
  tiles.map fun tile => (tile, (w.writeTile .never tile folder).1)

/-- Results of some tiles and a folder behind them, with every tile as if it were alone. -/
structure AsAlone (w : TileWriter table) (tiles : List Tile) (before : Folder)
    (results : List (Tile × Except (TileFailure R) TileOutcome)) (after : Folder) : Prop where
  results_eq : results = w.resultsAlone before tiles
  own : ∀ tile ∈ tiles, after.slot tile.fileName = (w.writeTile .never tile before).2.slot tile.fileName
  others : ∀ name, (∀ tile ∈ tiles, name ≠ tile.fileName) → after.slot name = before.slot name

/-- A run in which every task still comes to what it would come to alone. -/
structure Undisturbed (w : TileWriter table) (tiles : List Tile) (before : Folder) (run : TileRun R) : Prop where
  tiles_eq : run.tasks.map Prod.fst = tiles
  own : ∀ task ∈ run.tasks,
    SameAt task.1.fileName (w.rest task.1 task.2 run.folder) (w.writeTile .never task.1 before)
  others : ∀ name, (∀ tile ∈ tiles, name ≠ tile.fileName) → run.folder.slot name = before.slot name

theorem undisturbed_start (w : TileWriter table) (tiles : List Tile) (before : Folder) :
    w.Undisturbed tiles before (.start tiles before) where
  tiles_eq := by rw [TileRun.start, List.map_map]; exact List.map_id tiles
  own task htask := by
    obtain ⟨tile, -, rfl⟩ := List.mem_map.mp htask
    exact ⟨rfl, rfl⟩
  others _ _ := rfl

/-- A step disturbs no task: the one that takes it comes nearer to the same end, and the slots of the others do
    not change. -/
theorem Undisturbed.advance (h : w.Undisturbed tiles before run) (hdistinct : tiles.Nodup) (i : Nat) :
    w.Undisturbed tiles before (w.advance run i) where
  tiles_eq := by rw [map_fst_advance, h.tiles_eq]
  own := by
    rintro ⟨tile, stage⟩ htask
    obtain ⟨j, hj⟩ := List.mem_iff_getElem?.mp htask
    rcases advance_cases hj with ⟨hij, hbefore⟩ | ⟨-, stage', hbefore, rfl, hfolder⟩
    · have hslot : (w.advance run i).folder.slot tile.fileName = run.folder.slot tile.fileName := by
        refine slot_advance fun task hi hname => hij ?_
        have htiles : (run.tasks.map Prod.fst)[i]? = (run.tasks.map Prod.fst)[j]? := by
          rw [List.getElem?_map, List.getElem?_map, hi, hbefore, Option.map_some, Option.map_some,
            Tile.eq_of_fileName_eq hname]
        have hlt : i < (run.tasks.map Prod.fst).length := by
          rw [List.length_map]
          exact (List.getElem?_eq_some_iff.mp hi).1
        exact (List.getElem?_inj hlt (h.tiles_eq ▸ hdistinct)).mp htiles
      have hsame := rest_congr w stage hslot
      have hown := h.own _ (List.mem_of_getElem? hbefore)
      exact ⟨hsame.1.trans hown.1, hsame.2.trans hown.2⟩
    · rw [hfolder, rest_step]
      exact h.own _ (List.mem_of_getElem? hbefore)
  others name hname := by
    rw [← h.others name hname]
    refine slot_advance fun task hi => hname _ ?_
    rw [← h.tiles_eq]
    exact List.mem_map_of_mem (List.mem_of_getElem? hi)

theorem Undisturbed.interleave (h : w.Undisturbed tiles before run) (hdistinct : tiles.Nodup)
    (schedule : List Nat) : w.Undisturbed tiles before (w.interleave schedule run) := by
  induction schedule generalizing run with
  | nil => exact h
  | cons i schedule ih => exact ih (h.advance hdistinct i)

theorem Undisturbed.asAlone (h : w.Undisturbed tiles before run) (hresults : run.results? = some results) :
    w.AsAlone tiles before results run.folder := by
  obtain ⟨htasks, -⟩ := TileRun.results?_eq_some_iff.mp hresults
  have hown : ∀ r ∈ results, SameAt r.1.fileName (r.2, run.folder) (w.writeTile .never r.1 before) := fun r hr =>
    h.own (r.1, .finished r.2) (htasks ▸ List.mem_map_of_mem hr)
  have htiles : results.map Prod.fst = tiles := by
    rw [← h.tiles_eq, htasks, List.map_map]
    rfl
  refine ⟨?_, fun tile htile => ?_, h.others⟩
  · rw [← htiles, resultsAlone, List.map_map]
    refine (List.map_id results).symm.trans (List.map_congr_left fun r hr => ?_)
    exact Prod.ext rfl (hown r hr).1
  · obtain ⟨r, hr, rfl⟩ := List.mem_map.mp (htiles ▸ htile)
    exact (hown r hr).2

/-! ### One tile after the other -/

/-- Tiles that are written one after the other do not disturb each other either. -/
theorem asAlone_writeTiles (w : TileWriter table) (hdistinct : order.Nodup) (before : Folder) :
    w.AsAlone order before (w.writeTiles Run.never order before).1
      (w.writeTiles Run.never order before).2 := by
  induction order generalizing before with
  | nil => exact ⟨rfl, nofun, fun _ _ => rfl⟩
  | cons tile order ih =>
    obtain ⟨hnotMem, hdistinct⟩ := List.nodup_cons.mp hdistinct
    have hne : ∀ other ∈ order, other.fileName ≠ tile.fileName := fun other hother hname =>
      hnotMem (Tile.eq_of_fileName_eq hname ▸ hother)
    obtain ⟨hresults, hown, hothers⟩ := ih hdistinct (w.writeTile .never tile before).2
    have halone : ∀ other ∈ order, SameAt other.fileName
        (w.writeTile .never other (w.writeTile .never tile before).2) (w.writeTile .never other before) :=
      fun other hother => rest_congr w .waiting (slot_writeTile (hne other hother))
    refine ⟨?_, fun other hother => ?_, fun name hname => ?_⟩
    · refine congrArg ((tile, (w.writeTile .never tile before).1) :: ·) (hresults.trans ?_)
      exact List.map_congr_left fun other hother => Prod.ext rfl (halone other hother).1
    · rcases List.mem_cons.mp hother with rfl | hother
      · exact hothers _ fun u hu => (hne u hu).symm
      · exact (hown other hother).trans (halone other hother).2
    · exact (hothers name fun u hu => hname u (List.mem_cons_of_mem tile hu)).trans
        (slot_writeTile (hname tile List.mem_cons_self))

/-! ### The folder in the end -/

variable {after after' : Folder} {results' : List (Tile × Except (TileFailure R) TileOutcome)}

/-- Where every tile is as if alone, the folder depends on nothing but the tiles. -/
theorem AsAlone.same (h : w.AsAlone tiles before results after) (h' : w.AsAlone order before results' after')
    (hmem : ∀ tile, tile ∈ order ↔ tile ∈ tiles) : after.Same after' := fun name => by
  by_cases hname : ∃ tile ∈ tiles, name = tile.fileName
  · obtain ⟨tile, htile, rfl⟩ := hname
    rw [h.own tile htile, h'.own tile ((hmem tile).mpr htile)]
  · have hothers : ∀ tile ∈ tiles, name ≠ tile.fileName := fun tile htile heq => hname ⟨tile, htile, heq⟩
    rw [h.others name hothers, h'.others name fun tile htile => hothers tile ((hmem tile).mp htile)]

theorem AsAlone.erase (h : w.AsAlone tiles before results after) (hdistinct : tiles.Nodup)
    (hkept : (w.writeTile .never tile before).2 = before) :
    w.AsAlone (tiles.erase tile) before (w.resultsAlone before (tiles.erase tile)) after where
  results_eq := rfl
  own other hother := h.own other (List.mem_of_mem_erase hother)
  others name hname := by
    by_cases hmem : tile ∈ tiles ∧ name = tile.fileName
    · rw [hmem.2, h.own tile hmem.1, hkept]
    · refine h.others name fun other hother heq => ?_
      by_cases htile : other = tile
      · exact hmem ⟨htile ▸ hother, htile ▸ heq⟩
      · exact hname other (hdistinct.mem_erase_iff.mpr ⟨htile, hother⟩) heq

/-! ### Runs to the end -/

theorem left_interleave (schedule : List Nat) (h : (w.interleave schedule run).tasks[j]? = some (tile, stage)) :
    ∃ before, run.tasks[j]? = some (tile, before) ∧ stage.left ≤ before.left - schedule.count j := by
  induction schedule generalizing run with
  | nil => exact ⟨stage, h, Nat.le_refl _⟩
  | cons i schedule ih =>
    obtain ⟨middle, hmiddle, hleft⟩ := ih h
    rcases advance_cases hmiddle with ⟨hij, hbefore⟩ | ⟨rfl, before, hbefore, rfl, -⟩
    · rw [List.count_cons_of_ne hij]
      exact ⟨middle, hbefore, hleft⟩
    · have hstep := left_step w tile before run.folder
      rw [List.count_cons_self]
      exact ⟨before, hbefore, by omega⟩

theorem finished_of_four_le_count {schedule : List Nat} (hsteps : ∀ i < tiles.length, 4 ≤ schedule.count i)
    {task : Tile × TileStage R} (h : task ∈ (w.interleave schedule (.start tiles before)).tasks) :
    ∃ result, task.2 = .finished result := by
  obtain ⟨j, hj⟩ := List.mem_iff_getElem?.mp h
  obtain ⟨stage, hstart, hleft⟩ := left_interleave schedule hj
  have hlt : j < tiles.length := by
    have hlength := (List.getElem?_eq_some_iff.mp hstart).1
    rwa [TileRun.start, List.length_map] at hlength
  have hfour := hsteps j hlt
  have hstage := stage.left_le_four
  exact TileStage.left_eq_zero_iff.mp (by omega)

/-- The results of a run to the end, before it is asked whether one of them is fatal. -/
theorem Undisturbed.tasks_eq (h : w.Undisturbed tiles before run)
    (hfinished : ∀ task ∈ run.tasks, ∃ result, task.2 = .finished result) :
    run.tasks = (w.resultsAlone before tiles).map fun r => (r.1, .finished r.2) := by
  rw [resultsAlone, ← h.tiles_eq, List.map_map, List.map_map]
  refine (List.map_id run.tasks).symm.trans (List.map_congr_left fun task htask => ?_)
  obtain ⟨result, hresult⟩ := hfinished task htask
  have hown := (h.own task htask).1
  rw [hresult] at hown
  exact Prod.ext rfl (hresult.trans (congrArg TileStage.finished hown))

theorem Undisturbed.results?_eq_none_iff (h : w.Undisturbed tiles before run)
    (hfinished : ∀ task ∈ run.tasks, ∃ result, task.2 = .finished result) :
    run.results? = none ↔ ∃ tile ∈ tiles, Run.isFatal (tile, (w.writeTile .never tile before).1) = true := by
  rw [TileRun.results?, TileRun.mapM_resultOf?.mpr (h.tasks_eq hfinished), Option.filter_some]
  simp [resultsAlone]

theorem Undisturbed.results?_of_isFatal (h : w.Undisturbed tiles before run) (htile : tile ∈ tiles)
    (hfatal : Run.isFatal (tile, (w.writeTile .never tile before).1) = true) : run.results? = none := by
  cases hresults : run.results? with
  | none => rfl
  | some results =>
    have hnone := (TileRun.results?_eq_some_iff.mp hresults).2
    rw [(h.asAlone hresults).results_eq, List.any_eq_false] at hnone
    exact absurd hfatal (hnone _ (List.mem_map_of_mem htile))

/-- However the tasks of different tiles take turns, a run that every task takes its steps in has results, unless
    one of the tiles alone has a fatal failure. The results are in the order of the tiles, and each of them is the
    one that the tile has alone. The folder is the one behind the tiles written one after the other in any order,
    and the tiles that fail may be left out there. -/
theorem interleave_results (w : TileWriter table) (tiles : List Tile) (hdistinct : tiles.Nodup) (folder : Folder)
    (schedule : List Nat) :
    ((∀ i < tiles.length, 4 ≤ schedule.count i) →
      ((w.interleave schedule (.start tiles folder)).results? = none ↔
        ∃ tile ∈ tiles, Run.isFatal (tile, (w.writeTile .never tile folder).1) = true)) ∧
    ∀ results, (w.interleave schedule (.start tiles folder)).results? = some results →
      results = w.resultsAlone folder tiles ∧
      (∀ order, order.Perm tiles →
        (w.writeTiles Run.never order folder).1 = w.resultsAlone folder order ∧
        Folder.Same (w.interleave schedule (.start tiles folder)).folder
          (w.writeTiles Run.never order folder).2) ∧
      ∀ tile ∈ tiles, (∃ e, (w.writeTile .never tile folder).1 = .error e) →
        (w.writeTiles Run.never (tiles.erase tile) folder).1 = w.resultsAlone folder (tiles.erase tile) ∧
        Folder.Same (w.interleave schedule (.start tiles folder)).folder
          (w.writeTiles Run.never (tiles.erase tile) folder).2 := by
  have hrun := (undisturbed_start w tiles folder).interleave hdistinct schedule
  refine ⟨fun hsteps => hrun.results?_eq_none_iff fun task htask => finished_of_four_le_count hsteps htask,
    fun results hresults => ?_⟩
  have halone := hrun.asAlone hresults
  refine ⟨halone.results_eq, fun order hperm => ?_, fun tile _ ⟨e, herror⟩ => ?_⟩
  · have horder := asAlone_writeTiles w (hperm.nodup_iff.mpr hdistinct) folder
    exact ⟨horder.results_eq, halone.same horder fun tile => hperm.mem_iff⟩
  · have hkept : (w.writeTile .never tile folder).2 = folder :=
      (WriteCall.effect_run ⟨table, w, .never, tile⟩ folder).failed e herror
    have hothers := asAlone_writeTiles w (hdistinct.erase tile) folder
    exact ⟨hothers.results_eq, (halone.erase hdistinct hkept).same hothers fun _ => Iff.rfl⟩

def seenApart : TileWriter (.ofBands [(0, 1000), (1000, 2000)] : AirspaceTable Float) :=
  byLatitude (fun lat => (List.finRange 2).take (if 40 < lat then 1 else if lat < 0 then 2 else 0)) 2 0 true

/-- With all tasks taking turns, one tile is saved, one has no airspaces, and one exceeds the budget. -/
theorem interleave_results_seenApart :
    let tiles : List Tile := [⟨48, 9⟩, ⟨10, 10⟩, ⟨-5, -9⟩]
    let run := seenApart.interleave [0, 1, 2, 2, 1, 0, 0, 1, 2, 2, 1, 0] (.start tiles oldFile)
    (tiles.map fun tile => (seenApart.writeTile .never tile oldFile).1.toOption) =
      [some (.saved "N48E009.air"), some .empty, none] ∧
    run.results? = some (seenApart.resultsAlone oldFile tiles) ∧
    Folder.Same run.folder (seenApart.writeTiles Run.never tiles.reverse oldFile).2 := by
  intro tiles run
  have hall := interleave_results seenApart tiles (by decide) oldFile [0, 1, 2, 2, 1, 0, 0, 1, 2, 2, 1, 0]
  have hsome : run.results?.isSome = true := by decide +kernel
  obtain ⟨results, hresults⟩ := Option.isSome_iff_exists.mp hsome
  obtain ⟨rfl, horder, -⟩ := hall.2 results hresults
  exact ⟨by decide +kernel, hresults, (horder tiles.reverse (List.reverse_perm tiles)).2⟩

/-- A tile alone is skipped for its file, but no run has a result for it if the raster of another tile does not
    fit. -/
theorem results?_vast :
    (vast.unsampled.writeTile .never ⟨48, 9⟩ oldFile).1 = .ok (.skipped "N48E009.air") ∧
    ∀ schedule, (vast.unsampled.interleave schedule (.start [⟨48, 9⟩, ⟨10, 10⟩] oldFile)).results? = none := by
  refine ⟨eq_ok_of_toOption (by decide +kernel), fun schedule => ?_⟩
  have hrun := (undisturbed_start vast.unsampled [⟨48, 9⟩, ⟨10, 10⟩] oldFile).interleave (by decide) schedule
  have hsample : vast.unsampled.sampleIsEmpty .never ⟨10, 10⟩ = .ok false := if_pos rfl
  have hcompute : vast.unsampled.compute
      (fun row => Interrupts.never (vast.unsampled.grid.sampleResolution + row)) ⟨10, 10⟩ =
      .error (.encoding .doesNotFit) := Raster.sweep_of_bufferLimit_le (by decide) (by decide)
  have hraster : vast.unsampled.computeUnlessEmpty .never ⟨10, 10⟩ = .error (.encoding .doesNotFit) := by
    simp only [computeUnlessEmpty_eq, hsample, hcompute]
  have hwrite : vast.unsampled.writeTile .never ⟨10, 10⟩ oldFile = (.error (.encoding .doesNotFit), oldFile) :=
    writeTile_of_error (by decide +kernel) hraster
  have hfatal : Run.isFatal (⟨10, 10⟩, (vast.unsampled.writeTile .never ⟨10, 10⟩ oldFile).1) = true := by
    rw [hwrite]
    rfl
  exact hrun.results?_of_isFatal (by decide) hfatal

end TileWriter

end AirspaceRaster
