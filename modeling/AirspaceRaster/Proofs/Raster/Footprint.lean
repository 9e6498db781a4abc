import AirspaceRaster.Proofs.Raster.Filling
import AirspaceRaster.Proofs.Raster.RecordLayout

/-! The footprint of records that are written into a buffer in place, call by call. A call works out its
    bands and checks that the record fits before the first byte is written, so a call that fails has changed
    nothing. One that succeeds leaves its record in its own bytes whatever was there, and all others alone; so
    after any calls every byte is from the last one that wrote there. -/

namespace AirspaceRaster

namespace PointRecord

variable {R : Type} [Scalar R] {table : AirspaceTable R} {config : LevelConfig R} {b : HeightBands table}
  {point : Point R} {vs : List (AirspaceVector table)} {buffer after : Array UInt8} {offset i : Nat}
  {x : BudgetExceeded R}

/-! ### One call -/

/-- Changes of a buffer that may end with a failure, which leaves the changes made so far. -/
abbrev InPlace (R : Type) := EStateM (EncodeFailure R) (Array UInt8)

def writeLevels : List LevelDescriptor → (offset : Nat) → InPlace R Unit
  | [], _ => pure ()
  | d :: ds, offset => do
    modify (overwrite · offset d.toBytes)
    writeLevels ds (offset + levelSize)

def encodeInto (config : LevelConfig R) (point : Point R) (vs : List (AirspaceVector table)) (offset : Nat) :
    InPlace R Unit := do
  match levels config point vs with
  | .error e => throw (.budget e)
  | .ok bands =>
    if offset + config.recordSize ≤ (← get).size then writeLevels (descriptors config bands) offset
    else throw .doesNotFit

theorem overwrite_append (buffer : Array UInt8) (offset : Nat) (bs cs : List UInt8) :
    overwrite buffer offset (bs ++ cs) = overwrite (overwrite buffer offset bs) (offset + bs.length) cs := by
  induction bs generalizing buffer offset with
  | nil => rfl
  | cons b bs ih =>
    rw [List.cons_append, overwrite, overwrite, ih, List.length_cons]
    congr 1
    omega

omit [Scalar R] in
theorem run_writeLevels (ds : List LevelDescriptor) (offset : Nat) (buffer : Array UInt8) :
    (writeLevels ds offset : InPlace R Unit).run buffer =
      .ok () (overwrite buffer offset (Record.ofDescriptors ds)) := by
  induction ds generalizing offset buffer with
  | nil => rfl
  | cons d ds ih =>
    have hbytes : Record.ofDescriptors (d :: ds) = d.toBytes ++ Record.ofDescriptors ds := List.flatMap_cons
    rw [hbytes, overwrite_append]
    exact ih (offset + levelSize) (overwrite buffer offset d.toBytes)

theorem toList_overwrite {bs : List UInt8} (hfit : offset + bs.length ≤ buffer.size) :
    (overwrite buffer offset bs).toList =
      buffer.toList.take offset ++ bs ++ buffer.toList.drop (offset + bs.length) := by
  have hfront : (buffer.toList.take offset).length = offset := by
    rw [List.length_take, Array.length_toList]
    omega
  refine List.ext_getElem? fun i => ?_
  rw [Array.getElem?_toList, getElem?_overwrite hfit, List.append_assoc, List.getElem?_append, hfront]
  by_cases hbefore : i < offset
  · rw [if_pos hbefore, if_neg (by omega), List.getElem?_take_of_lt hbefore, Array.getElem?_toList]
  · rw [if_neg hbefore, List.getElem?_append]
    by_cases hrecord : i - offset < bs.length
    · rw [if_pos hrecord, if_pos (by omega)]
    · have hbehind : offset + bs.length + (i - offset - bs.length) = i := by omega
      rw [if_neg hrecord, if_neg (by omega), List.getElem?_drop, hbehind, Array.getElem?_toList]

/-- In place the outcome is the same as with a new buffer, and after a failure the old one is still there. -/
theorem run_encodeInto (config : LevelConfig R) (point : Point R) (vs : List (AirspaceVector table)) (offset : Nat)
    (buffer : Array UInt8) : (encodeInto config point vs offset).run buffer =
      match encodeAt config point vs buffer offset with
      | .ok after => .ok () after
      | .error e => .error e buffer := by
  rw [encodeInto, encodeAt]
  cases levels config point vs with
  | error e => rfl
  | ok bands =>
    show (if offset + config.recordSize ≤ buffer.size then writeLevels (descriptors config bands) offset
      else throw .doesNotFit : InPlace R Unit).run buffer = _
    split
    · rw [run_writeLevels]
      rfl
    · rfl

end PointRecord

/-- A call for the record of a point at an offset. -/
structure RecordCall {R : Type} (table : AirspaceTable R) where
  point : Point R
  vectors : List (AirspaceVector table)
  offset : Nat

namespace RecordCall
open PointRecord

variable {R : Type} [Scalar R] {table : AirspaceTable R} {config : LevelConfig R} {buffer after : Array UInt8}
  {c d : RecordCall table} {calls rest : List (RecordCall table)} {size i : Nat} {e : EncodeFailure R}
  {x : BudgetExceeded R} {record : List UInt8}

def run (config : LevelConfig R) (c : RecordCall table) : InPlace R Unit :=
  encodeInto config c.point c.vectors c.offset

theorem run_eq (config : LevelConfig R) (c : RecordCall table) (buffer : Array UInt8) :
    (c.run config).run buffer =
      match levels config c.point c.vectors with
      | .error x => .error (.budget x) buffer
      | .ok bands =>
        if c.offset + config.recordSize ≤ buffer.size then
          .ok () (overwrite buffer c.offset (ofBands config bands))
        else .error .doesNotFit buffer := by
  rw [run, run_encodeInto, encodeAt]
  cases levels config c.point c.vectors with
  | error x => rfl
  | ok bands => by_cases hfit : c.offset + config.recordSize ≤ buffer.size <;> simp [hfit]

/-- A call leaves its record in place of the bytes from its offset on. -/
theorem run_eq_ok_iff (hbuffer : buffer.size < bufferLimit) : (c.run config).run buffer = .ok () after ↔
    ∃ record, encode config c.point c.vectors = .ok record ∧ record.length = config.recordSize ∧
      c.offset + config.recordSize ≤ buffer.size ∧
      after.toList = buffer.toList.take c.offset ++ record ++ buffer.toList.drop (c.offset + config.recordSize) := by
  rw [run_eq]
  constructor
  · intro h
    cases hlevels : levels config c.point c.vectors with
    | error x => simp [hlevels] at h
    | ok bands =>
      by_cases hfit : c.offset + config.recordSize ≤ buffer.size
      · simp only [hlevels, hfit, ↓reduceIte, EStateM.Result.ok.injEq, true_and] at h
        subst h
        refine ⟨ofBands config bands, (encode_eq_ok_iff hlevels).mpr ⟨by omega, rfl⟩, length_ofBands config bands,
          hfit, ?_⟩
        rw [toList_overwrite (by rwa [length_ofBands]), length_ofBands]
      · simp [hlevels, hfit] at h
  · rintro ⟨record, hrecord, hlength, hfit, hafter⟩
    cases hlevels : levels config c.point c.vectors with
    | error x => simp [encode, pack, hlevels] at hrecord
    | ok bands =>
      obtain ⟨-, rfl⟩ := (encode_eq_ok_iff hlevels).mp hrecord
      simp only [hfit, ↓reduceIte, EStateM.Result.ok.injEq, true_and]
      rw [← Array.toList_inj, hafter, toList_overwrite (by rwa [hlength]), hlength]

/-- A call with too many bands changes nothing, whether its record would fit or not. -/
theorem run_eq_budget_iff : (c.run config).run buffer = .error (.budget x) after ↔
    levels config c.point c.vectors = .error x ∧ after = buffer := by
  rw [run_eq]
  cases levels config c.point c.vectors with
  | error y => simp [eq_comm]
  | ok bands => by_cases hfit : c.offset + config.recordSize ≤ buffer.size <;> simp [hfit]

theorem run_eq_doesNotFit_iff : (c.run config).run buffer = .error .doesNotFit after ↔
    (∃ bands, levels config c.point c.vectors = .ok bands) ∧ buffer.size < c.offset + config.recordSize ∧
      after = buffer := by
  rw [run_eq]
  cases levels config c.point c.vectors with
  | error y => simp
  | ok bands =>
    by_cases hfit : c.offset + config.recordSize ≤ buffer.size
    · simp [hfit]
    · simp [hfit, Nat.lt_of_not_le hfit, eq_comm]

/-! ### Many calls -/

/-- The results of some calls on one buffer and the buffer after them. A call that fails ends nothing but itself. -/
def runAll (config : LevelConfig R) :
    List (RecordCall table) → Array UInt8 → List (Except (EncodeFailure R) Unit) × Array UInt8
  | [], buffer => ([], buffer)
  | c :: rest, buffer =>
    match (c.run config).run buffer with
    | .ok () after => (.ok () :: (runAll config rest after).1, (runAll config rest after).2)
    | .error e after => (.error e :: (runAll config rest after).1, (runAll config rest after).2)

def result (config : LevelConfig R) (size : Nat) (c : RecordCall table) : Except (EncodeFailure R) Unit :=
  match levels config c.point c.vectors with
  | .error x => .error (.budget x)
  | .ok _ => if c.offset + config.recordSize ≤ size then .ok () else .error .doesNotFit

/-- What a call writes at some place of a buffer of some size, if it writes there. -/
def byte? (config : LevelConfig R) (size i : Nat) (c : RecordCall table) : Option UInt8 :=
  if c.offset + config.recordSize ≤ size ∧ c.offset ≤ i then
    (encode config c.point c.vectors).toOption.bind (·[i - c.offset]?)
  else none

theorem lt_of_byte? {byte : UInt8} (h : c.byte? config size i = some byte) :
    c.offset ≤ i ∧ i < c.offset + config.recordSize := by
  rw [byte?] at h
  split at h
  · rename_i hfit
    obtain ⟨record, hrecord, hbyte⟩ := Option.bind_eq_some_iff.mp h
    have hlength : record.length = config.recordSize := by
      cases hencode : encode config c.point c.vectors with
      | error e => simp [hencode, Except.toOption] at hrecord
      | ok bytes =>
        simp only [hencode, Except.toOption, Option.some.injEq] at hrecord
        exact hrecord ▸ length_of_encode hencode
    have := (List.getElem?_eq_some_iff.mp hbyte).1
    omega
  · cases h

/-- What one call does to a buffer, byte by byte. -/
theorem run_cases (config : LevelConfig R) (c : RecordCall table) (hbuffer : buffer.size < bufferLimit) :
    (∃ after, (c.run config).run buffer = .ok () after ∧ c.result config buffer.size = .ok () ∧
      after.size = buffer.size ∧ ∀ i, after[i]? = (c.byte? config buffer.size i).or buffer[i]?) ∨
    ∃ e, (c.run config).run buffer = .error e buffer ∧ c.result config buffer.size = .error e ∧
      ∀ i, c.byte? config buffer.size i = none := by
  rw [run_eq, result]
  cases hlevels : levels config c.point c.vectors with
  | error x =>
    refine Or.inr ⟨.budget x, rfl, rfl, fun i => ?_⟩
    simp [byte?, encode, pack, hlevels, Except.toOption]
  | ok bands =>
    by_cases hfit : c.offset + config.recordSize ≤ buffer.size
    · have hencode : encode config c.point c.vectors = .ok (ofBands config bands) :=
        (encode_eq_ok_iff hlevels).mpr ⟨by omega, rfl⟩
      have hlength : (ofBands config bands).length = config.recordSize := length_ofBands config bands
      refine Or.inl ⟨overwrite buffer c.offset (ofBands config bands), by simp [hfit], by simp [hfit],
        size_overwrite .., fun i => ?_⟩
      have hbytes : (Except.ok (ofBands config bands) : Except (EncodeFailure R) (List UInt8)).toOption.bind
          (·[i - c.offset]?) = (ofBands config bands)[i - c.offset]? := rfl
      rw [getElem?_overwrite (by rwa [hlength]), byte?, hencode, hbytes, hlength]
      by_cases hin : c.offset ≤ i ∧ i < c.offset + config.recordSize
      · rw [if_pos hin, if_pos ⟨hfit, hin.1⟩, List.getElem?_eq_getElem (by omega), Option.some_or]
      · rw [if_neg hin]
        split
        · rw [List.getElem?_eq_none (by omega), Option.none_or]
        · rw [Option.none_or]
    · refine Or.inr ⟨.doesNotFit, by simp [hfit], by simp [hfit], fun i => ?_⟩
      rw [byte?, if_neg (by omega)]

/-- After some calls every byte is from the last one that wrote there, and each call had the result that it has
    alone. -/
theorem runAll_eq (config : LevelConfig R) (calls : List (RecordCall table)) (hbuffer : buffer.size < bufferLimit) :
    (runAll config calls buffer).1 = calls.map (·.result config buffer.size) ∧
    (runAll config calls buffer).2.size = buffer.size ∧
    ∀ i, (runAll config calls buffer).2[i]? =
      (calls.reverse.findSome? (·.byte? config buffer.size i)).or buffer[i]? := by
  induction calls generalizing buffer with
  | nil => exact ⟨rfl, rfl, fun i => rfl⟩
  | cons c rest ih =>
    have hlast : ∀ i, (c :: rest).reverse.findSome? (·.byte? config buffer.size i) =
        (rest.reverse.findSome? (·.byte? config buffer.size i)).or (c.byte? config buffer.size i) := fun i => by
      rw [List.reverse_cons, List.findSome?_append, List.findSome?_singleton]
    -- What the rest writes is on top of what the first call writes.
    rcases run_cases config c hbuffer with ⟨after, hrun, hresult, hsize, hbytes⟩ | ⟨e, hrun, hresult, hbytes⟩
    · obtain ⟨hresults, hsizes, hrest⟩ := ih (hsize ▸ hbuffer)
      rw [hsize] at hresults hsizes hrest
      simp only [runAll, hrun, List.map_cons, hresult, hresults, hsizes, true_and]
      intro i
      rw [hrest, hbytes, hlast, Option.or_assoc]
    · obtain ⟨hresults, hsizes, hrest⟩ := ih hbuffer
      simp only [runAll, hrun, List.map_cons, hresult, hresults, hsizes, true_and]
      intro i
      rw [hrest, hlast, hbytes, Option.or_none]

theorem runAll_swap (hbuffer : buffer.size < bufferLimit)
    (hapart : c.offset + config.recordSize ≤ d.offset ∨ d.offset + config.recordSize ≤ c.offset) :
    runAll config [d, c] buffer = ((runAll config [c, d] buffer).1.reverse, (runAll config [c, d] buffer).2) := by
  obtain ⟨hresults, hsize, hbytes⟩ := runAll_eq config [c, d] hbuffer
  obtain ⟨hresults', hsize', hbytes'⟩ := runAll_eq config [d, c] hbuffer
  refine Prod.ext ?_ (Array.ext_getElem? fun i => ?_)
  · rw [hresults, hresults']
    rfl
  · have horder : [c, d].reverse = [d, c] ∧ [d, c].reverse = [c, d] := ⟨rfl, rfl⟩
    rw [hbytes, hbytes', horder.1, horder.2]
    cases hc : c.byte? config buffer.size i with
    | none => simp [List.findSome?_cons, hc]
    | some byte =>
      cases hd : d.byte? config buffer.size i with
      | none => simp [hc, hd]
      | some byte' =>
        -- No byte belongs to both of them.
        have := lt_of_byte? hc
        have := lt_of_byte? hd
        omega

/-- A call that succeeds leaves its record in place of what was there before and everything else as it was. One with
    too many bands fails wherever its record would go, and one whose record does not fit fails exactly if it has
    no such band; neither changes anything. After any calls every byte is from the last one that wrote there, so
    calls with different bytes may be swapped. -/
theorem footprint (config : LevelConfig R) {buffer : Array UInt8} (hbuffer : buffer.size < bufferLimit) :
    (∀ c : RecordCall table,
      ((c.run config).run buffer = match encodeAt config c.point c.vectors buffer c.offset with
        | .ok after => .ok () after
        | .error e => .error e buffer) ∧
      (∀ after, (c.run config).run buffer = .ok () after ↔
        ∃ record, encode config c.point c.vectors = .ok record ∧ record.length = config.recordSize ∧
          c.offset + config.recordSize ≤ buffer.size ∧ after.toList =
            buffer.toList.take c.offset ++ record ++ buffer.toList.drop (c.offset + config.recordSize)) ∧
      (∀ x after, (c.run config).run buffer = .error (.budget x) after ↔
        levels config c.point c.vectors = .error x ∧ after = buffer) ∧
      ∀ after, (c.run config).run buffer = .error .doesNotFit after ↔
        (∃ bands, levels config c.point c.vectors = .ok bands) ∧ buffer.size < c.offset + config.recordSize ∧
          after = buffer) ∧
    (∀ calls : List (RecordCall table),
      (runAll config calls buffer).1 = calls.map (·.result config buffer.size) ∧
      (runAll config calls buffer).2.size = buffer.size ∧
      ∀ i, (runAll config calls buffer).2[i]? =
        (calls.reverse.findSome? (·.byte? config buffer.size i)).or buffer[i]?) ∧
    ∀ c d : RecordCall table,
      c.offset + config.recordSize ≤ d.offset ∨ d.offset + config.recordSize ≤ c.offset →
      runAll config [d, c] buffer =
        ((runAll config [c, d] buffer).1.reverse, (runAll config [c, d] buffer).2) := by
  refine ⟨fun c => ⟨?_, fun after => run_eq_ok_iff hbuffer, fun x after => run_eq_budget_iff,
    fun after => run_eq_doesNotFit_iff⟩, fun calls => runAll_eq config calls hbuffer, fun c d => runAll_swap hbuffer⟩
  exact run_encodeInto config c.point c.vectors c.offset buffer

def oneLevel : LevelConfig Float :=
  { LevelConfig.standard with levels := 1 }

def tenBytes : Array UInt8 :=
  Array.replicate 10 0xaa

/-- Calls for two airspaces one above the other: one that fits, one with both of them, one with a record that does not
    fit, and one for a point without airspaces behind the first. -/
def fourCalls : List (RecordCall (.ofBands [(0, 1000), (1000, 2500)] : AirspaceTable Float)) :=
  [⟨⟨48.7, 9.15⟩, [.measured ⟨0, by decide⟩ 640 90 true], 2⟩,
    ⟨⟨48.7, 9.15⟩, [.measured ⟨0, by decide⟩ 640 90 true, .measured ⟨1, by decide⟩ 1280 180 true], 100⟩,
    ⟨⟨48.7, 9.15⟩, [], 7⟩, ⟨⟨48.7, 9.15⟩, [], 6⟩]

theorem footprint_fourCalls : tenBytes.size < bufferLimit ∧
    (runAll oneLevel fourCalls tenBytes).1.map Except.isOk = [true, false, false, true] ∧
    (runAll oneLevel fourCalls tenBytes).2 = #[0xaa, 0xaa, 0, 4, 158, 10, 0, 0, 0, 0] ∧
    (fourCalls[1].run oneLevel).run tenBytes = .error (.budget ⟨⟨48.7, 9.15⟩, 1⟩) tenBytes ∧
    (runAll oneLevel [fourCalls[3], fourCalls[0]] tenBytes).2 =
      (runAll oneLevel [fourCalls[0], fourCalls[3]] tenBytes).2 := by
  have hbuffer : tenBytes.size < bufferLimit := by decide
  have hbudget : levels oneLevel fourCalls[1].point fourCalls[1].vectors = .error ⟨⟨48.7, 9.15⟩, 1⟩ :=
    HeightBands.compact_eq_error_iff.mpr ⟨rfl, by decide +kernel⟩
  obtain ⟨hone, hall, hswap⟩ := footprint oneLevel hbuffer
  obtain ⟨hresults, -, -⟩ := hall fourCalls
  obtain ⟨-, -, hgiven, -⟩ := hone fourCalls[1]
  refine ⟨hbuffer, ?_, by decide +kernel, (hgiven _ _).mpr ⟨hbudget, rfl⟩, ?_⟩
  · rw [hresults]
    decide +kernel
  · rw [hswap fourCalls[0] fourCalls[3] (by decide +kernel)]

end RecordCall

end AirspaceRaster
