import Mathlib.Data.List.Basic
import AirspaceRaster.Document.Reading
import AirspaceRaster.Proofs.Altitude

/-! How reading accounts for the entries of a document. The loop goes through them in order, and a part of
    the document in which nothing is wrong adds its airspaces and warnings to what is there already. So a
    document is read to its end exactly if every entry whose class belongs into the raster is valid, and
    otherwise what comes behind the first invalid one does not matter. -/

namespace AirspaceRaster

variable {R : Type}

/-- The name that a failure gives; a text without the form of a document has none. -/
def ReadFailure.name? : ReadFailure R → Option String
  | malformed => none
  | invalidBand name _ _ => some name
  | invalidBoundary name _ => some name

def Warning.isSkipped : Warning → Bool
  | skippedClass .. => true
  | unclosedBoundary _ => false

variable [Scalar R]

theorem BoundaryFault.find?_eq_none_iff {ps : List (Point R)} :
    find? ps = none ↔ (∀ p ∈ ps, p.isValid = true) ∧ 3 ≤ (Point.distinct ps).length := by
  rw [find?]
  split
  · rename_i p hp
    simp only [reduceCtorEq, false_iff, not_and]
    intro hvalid
    have := List.find?_some hp
    simp [hvalid p (List.mem_of_find?_eq_some hp)] at this
  · rename_i hnone
    simp only [List.find?_eq_none, Bool.not_eq_true', Bool.not_eq_false] at hnone
    simp only [ite_eq_right_iff, reduceCtorEq, imp_false]
    exact ⟨fun harea => ⟨hnone, Nat.not_lt.mp harea⟩, fun h => Nat.not_lt.mpr h.2⟩

namespace Entry
variable {e : Entry R}

/-- An entry with its floor below its ceiling and an area on the globe. -/
structure IsValid (e : Entry R) : Prop where
  band : e.floor.altitude < e.ceiling.altitude
  onGlobe : ∀ p ∈ e.points, p.isValid = true
  area : 3 ≤ (Point.distinct e.points).length

theorem fault?_eq_none_iff : e.fault? = none ↔ e.IsValid := by
  rw [fault?]
  split
  · rename_i hband
    simp only [reduceCtorEq, false_iff]
    intro h
    exact absurd h.band (Altitude.not_lt.mpr hband)
  · rename_i hband
    rw [Option.map_eq_none_iff, BoundaryFault.find?_eq_none_iff]
    constructor
    · rintro ⟨hglobe, harea⟩
      exact ⟨Altitude.not_le.mp hband, hglobe, harea⟩
    · intro h
      exact ⟨h.onGlobe, h.area⟩

theorem name?_of_fault? {f : ReadFailure R} (h : e.fault? = some f) : f.name? = some e.name := by
  rw [fault?] at h
  split at h
  · cases h
    rfl
  · obtain ⟨fault, -, rfl⟩ := Option.map_eq_some_iff.mp h
    rfl

/-- An entry that does not end the reading: it is valid, or its class keeps it out of the raster. -/
def Passes (e : Entry R) : Prop :=
  e.category.isRasterized = true → e.IsValid

/-- What is noted about an entry that passes. -/
def warning? (e : Entry R) : Option Warning :=
  if !e.category.isRasterized then some (.skippedClass e.name (e.code.getD ""))
  else if Ring.isClosed e.points then none
  else some (.unclosedBoundary e.name)

theorem convert_of_skipped (h : e.category.isRasterized = false) : e.convert = .ok (none, e.warning?.toList) := by
  simp [convert, warning?, h]

theorem convert_of_isValid (h : e.category.isRasterized = true) (hv : e.IsValid) :
    e.convert = .ok (some e.airspace, e.warning?.toList) := by
  rw [convert, fault?_eq_none_iff.mpr hv]
  by_cases hclosed : Ring.isClosed e.points = true <;> simp [warning?, h, hclosed]

theorem convert_of_fault? {f : ReadFailure R} (h : e.category.isRasterized = true) (hf : e.fault? = some f) :
    e.convert = .error f := by
  simp [convert, h, hf]

theorem exists_of_not_passes (h : ¬e.Passes) :
    e.category.isRasterized = true ∧ ¬e.IsValid ∧ ∃ f, e.fault? = some f := by
  rw [Passes, Classical.not_imp] at h
  refine ⟨h.1, h.2, Option.ne_none_iff_exists'.mp ?_⟩
  rw [ne_eq, fault?_eq_none_iff]
  exact h.2

end Entry

namespace Document
open Entry

variable {airspaces : List (Airspace R)} {noted warnings : List Warning} {entries before rest : List (Entry R)}

def rasterized (entries : List (Entry R)) : List (Entry R) :=
  entries.filter (·.category.isRasterized)

/-- A part of the document in which nothing is wrong adds what it has. -/
theorem convertOnto_append (airspaces : List (Airspace R)) (noted : List Warning) (rest : List (Entry R))
    (h : ∀ e ∈ before, e.Passes) : convertOnto airspaces noted (before ++ rest) =
      convertOnto (airspaces ++ (rasterized before).map Entry.airspace) (noted ++ before.filterMap warning?) rest := by
  induction before generalizing airspaces noted with
  | nil => simp [rasterized]
  | cons e before ih =>
    have ih := fun airspaces noted => ih airspaces noted fun d hd => h d (List.mem_cons_of_mem e hd)
    have hwarning : (e :: before).filterMap warning? = e.warning?.toList ++ before.filterMap warning? := by
      cases hw : e.warning? <;> simp [hw]
    rw [List.cons_append, convertOnto, hwarning]
    cases hclass : e.category.isRasterized with
    | false => simp [convert_of_skipped hclass, ih, rasterized, hclass]
    | true => simp [convert_of_isValid hclass (h e List.mem_cons_self hclass), ih, rasterized, hclass]

theorem convertOnto_of_passes (h : ∀ e ∈ entries, e.Passes) :
    convertOnto airspaces noted entries =
      (.ok (airspaces ++ (rasterized entries).map Entry.airspace), noted ++ entries.filterMap warning?) := by
  have := convertOnto_append airspaces noted [] h
  rwa [List.append_nil] at this

/-- The first invalid entry ends the reading, whatever comes behind it. -/
theorem convertOnto_of_fault? {e : Entry R} {f : ReadFailure R} (airspaces : List (Airspace R))
    (noted : List Warning) (h : ∀ d ∈ before, d.Passes) (hclass : e.category.isRasterized = true)
    (hf : e.fault? = some f) (rest : List (Entry R)) :
    convertOnto airspaces noted (before ++ e :: rest) = (.error f, noted ++ before.filterMap warning?) := by
  rw [convertOnto_append airspaces noted _ h, convertOnto, convert_of_fault? hclass hf]

theorem passes_or_split (entries : List (Entry R)) : (∀ e ∈ entries, e.Passes) ∨
    ∃ before e after, entries = before ++ e :: after ∧ (∀ d ∈ before, d.Passes) ∧ ¬e.Passes := by
  induction entries with
  | nil => simp
  | cons e rest ih =>
    by_cases he : e.Passes
    · rcases ih with hall | ⟨before, d, after, rfl, hbefore, hd⟩
      · exact Or.inl (List.forall_mem_cons.mpr ⟨he, hall⟩)
      · exact Or.inr ⟨e :: before, d, after, rfl, List.forall_mem_cons.mpr ⟨he, hbefore⟩, hd⟩
    · exact Or.inr ⟨[], e, rest, rfl, by simp, he⟩

theorem eq_of_convertOnto_eq_ok {found : List (Airspace R)}
    (h : convertOnto airspaces noted entries = (.ok found, warnings)) :
    (∀ e ∈ entries, e.Passes) ∧ found = airspaces ++ (rasterized entries).map Entry.airspace ∧
      warnings = noted ++ entries.filterMap warning? := by
  rcases passes_or_split entries with hall | ⟨before, e, after, rfl, hbefore, he⟩
  · rw [convertOnto_of_passes hall, Prod.mk.injEq, Except.ok.injEq] at h
    exact ⟨hall, h.1.symm, h.2.symm⟩
  · obtain ⟨hclass, -, f, hf⟩ := exists_of_not_passes he
    rw [convertOnto_of_fault? airspaces noted hbefore hclass hf] at h
    cases h

/-- Every entry is counted once: as an airspace, or as one that was left out. -/
theorem length_add_countP_skipped (entries : List (Entry R)) :
    (rasterized entries).length + (entries.filterMap warning?).countP Warning.isSkipped = entries.length := by
  have hskipped : (entries.filterMap warning?).countP Warning.isSkipped =
      entries.countP fun e => !e.category.isRasterized := by
    rw [List.countP_filterMap]
    refine List.countP_congr fun e _ => ?_
    cases hclass : e.category.isRasterized with
    | false => simp [warning?, hclass, Warning.isSkipped]
    | true => by_cases hclosed : Ring.isClosed e.points = true <;> simp [warning?, hclass, hclosed, Warning.isSkipped]
  rw [hskipped, rasterized, ← List.countP_eq_length_filter,
    List.length_eq_countP_add_countP (p := fun e => e.category.isRasterized)]
  simp

/-- Whether reading succeeds and what it gives is all the same without the entries that are left out. -/
theorem fst_convertOnto_rasterized (airspaces : List (Airspace R)) (noted warnings : List Warning)
    (entries : List (Entry R)) :
    (convertOnto airspaces noted entries).1 = (convertOnto airspaces warnings (rasterized entries)).1 := by
  induction entries generalizing airspaces noted warnings with
  | nil => rfl
  | cons e rest ih =>
    cases hclass : e.category.isRasterized with
    | false =>
      have hleft : rasterized (e :: rest) = rasterized rest := List.filter_cons_of_neg (by simp [hclass])
      rw [hleft, convertOnto, convert_of_skipped hclass]
      dsimp only
      rw [Option.toList_none, List.append_nil]
      exact ih airspaces _ warnings
    | true =>
      have hkept : rasterized (e :: rest) = e :: rasterized rest := List.filter_cons_of_pos hclass
      rw [hkept, convertOnto, convertOnto]
      cases e.convert with
      | error f => rfl
      | ok converted => exact ih _ _ _

/-- The airspaces are the ones of the entries whose class belongs into the raster, and with the entries that were
    left out they make up the whole document; what is noted comes behind what was noted before. Only the first
    invalid entry of such a class is a failure, with the warnings of the entries in front of it. -/
theorem readOnto_accounts (noted : List Warning) (entries : List (Entry Float)) :
    (∀ bytes, parse? (Text.decode bytes) = some entries →
      readOnto noted bytes = convertOnto [] noted entries) ∧
    (∀ airspaces warnings, convertOnto [] noted entries = (.ok airspaces, warnings) →
      (∀ e ∈ entries, e.Passes) ∧
      airspaces = (rasterized entries).map Entry.airspace ∧
      warnings = noted ++ entries.filterMap warning? ∧
      airspaces.length + (entries.filterMap warning?).countP Warning.isSkipped = entries.length) ∧
    (∀ f warnings, convertOnto [] noted entries = (.error f, warnings) →
      ∃ before e after, entries = before ++ e :: after ∧ (∀ d ∈ before, d.Passes) ∧
        e.category.isRasterized = true ∧ ¬e.IsValid ∧ e.fault? = some f ∧ f.name? = some e.name ∧
        warnings = noted ++ before.filterMap warning? ∧
        ∀ later, convertOnto [] noted (before ++ e :: later) = (.error f, warnings)) ∧
    ∀ others, rasterized others = rasterized entries →
      (convertOnto [] noted others).1 = (convertOnto [] noted entries).1 := by
  refine ⟨fun bytes h => by rw [readOnto, h], ?_, ?_, ?_⟩
  · intro airspaces warnings h
    obtain ⟨hall, rfl, rfl⟩ := eq_of_convertOnto_eq_ok h
    refine ⟨hall, rfl, rfl, ?_⟩
    rw [List.nil_append, List.length_map]
    exact length_add_countP_skipped entries
  · intro f warnings h
    rcases passes_or_split entries with hall | ⟨before, e, after, rfl, hbefore, he⟩
    · rw [convertOnto_of_passes hall] at h
      cases h
    · obtain ⟨hclass, hinvalid, g, hg⟩ := exists_of_not_passes he
      have hstop := convertOnto_of_fault? [] noted hbefore hclass hg
      rw [hstop, Prod.mk.injEq, Except.error.injEq] at h
      obtain ⟨rfl, rfl⟩ := h
      exact ⟨before, e, after, rfl, hbefore, hclass, hinvalid, hg, name?_of_fault? hg, rfl, hstop⟩
  · intro others h
    rw [fst_convertOnto_rasterized [] noted noted others, h, ← fst_convertOnto_rasterized]

/-- A document, with arrays for its objects: the first entry is left out, although it has neither a band nor an
    area, the boundary of the second one is open, and the third one has no band. -/
def survey : String :=
  "[[[\"RADIO\", \" RMZ\", [9], [1], []],
     [\"OPEN\", null, [0, \"AGL\"], [1000], [[9, 48], [10, 48], [10, 49]]],
     [\"FLAT\", \"R\", [5], [5], []]]]"

def surveyed : List (Entry Float) :=
  [⟨"RADIO", some " RMZ", ⟨9, .sea⟩, ⟨1, .sea⟩, []⟩,
    ⟨"OPEN", none, ⟨0, .ground⟩, ⟨1000, .sea⟩, [(9, 48), (10, 48), (10, 49)]⟩,
    ⟨"FLAT", some "R", ⟨5, .sea⟩, ⟨5, .sea⟩, []⟩]

theorem readOnto_accounts_survey :
    (∃ f e, readOnto [.unclosedBoundary "OLD"] survey.toUTF8.data.toList = (.error f,
        [.unclosedBoundary "OLD", .skippedClass "RADIO" " RMZ", .unclosedBoundary "OPEN"]) ∧
      e ∈ surveyed ∧ f.name? = some e.name ∧ ¬e.IsValid) ∧
    ∃ a, convertOnto [] [] (surveyed.take 2) = (.ok [a],
        [.skippedClass "RADIO" " RMZ", .unclosedBoundary "OPEN"]) ∧
      a.name = "OPEN" ∧ a.category = .unknown ∧ a.floor = ⟨0, .ground⟩ ∧ a.ceiling = ⟨1000, .sea⟩ := by
  obtain ⟨hread, -, herror, -⟩ := readOnto_accounts [.unclosedBoundary "OLD"] surveyed
  obtain ⟨-, hok, -, -⟩ := readOnto_accounts [] (surveyed.take 2)
  constructor
  · have hwarnings : (convertOnto [] [.unclosedBoundary "OLD"] surveyed).2 =
        [.unclosedBoundary "OLD", .skippedClass "RADIO" " RMZ", .unclosedBoundary "OPEN"] := by decide +kernel
    have hfails : (convertOnto [] [.unclosedBoundary "OLD"] surveyed).1.isOk = false := by decide +kernel
    rcases h : convertOnto [] [.unclosedBoundary "OLD"] surveyed with ⟨f | airspaces, warnings⟩
    · obtain ⟨before, e, after, hsplit, -, -, hinvalid, -, hname, -⟩ := herror f warnings h
      rw [h] at hwarnings
      refine ⟨f, e, ?_, by simp [hsplit], hname, hinvalid⟩
      rw [hread _ (by decide +kernel), h]
      exact congrArg _ hwarnings
    · rw [h] at hfails
      cases hfails
  · have hwarnings : (convertOnto [] [] (surveyed.take 2)).2 =
        [.skippedClass "RADIO" " RMZ", .unclosedBoundary "OPEN"] := by decide +kernel
    have hpasses : (convertOnto [] [] (surveyed.take 2)).1.isOk = true := by decide +kernel
    rcases h : convertOnto [] [] (surveyed.take 2) with ⟨f | airspaces, warnings⟩
    · rw [h] at hpasses
      cases hpasses
    · rw [h] at hwarnings
      obtain ⟨-, hairspaces, -⟩ := hok airspaces warnings h
      have hopen : rasterized (surveyed.take 2) =
          [⟨"OPEN", none, ⟨0, .ground⟩, ⟨1000, .sea⟩, [(9, 48), (10, 48), (10, 49)]⟩] := by decide +kernel
      rw [hairspaces, hopen]
      exact ⟨_, Prod.ext rfl hwarnings, rfl, rfl, by decide +kernel, by decide +kernel⟩

end Document

end AirspaceRaster
