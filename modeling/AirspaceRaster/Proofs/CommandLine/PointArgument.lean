import AirspaceRaster.CommandLine.PointArgument
import AirspaceRaster.Proofs.Decimal.Grammar
import AirspaceRaster.Proofs.Decimal.Nearest
import AirspaceRaster.Proofs.Geo.Globe

/-! The argument that gives a point. It is split at its first comma, and each part is a literal with blanks around it
    or a fault. The literals may stand for anything: infinite and undefined numbers are read like the others and are
    turned away with the numbers that are too large, when the point is looked up on the globe. -/

namespace AirspaceRaster

/-! ### Blanks -/

namespace Text
open Decimal
variable {cs before after : List Char}

theorem exists_strip (cs : List Char) : ∃ before after, cs = before ++ strip cs ++ after ∧
    (∀ c ∈ before, isBlank c = true) ∧ ∀ c ∈ after, isBlank c = true := by
  refine ⟨cs.takeWhile isBlank, ((cs.dropWhile isBlank).reverse.takeWhile isBlank).reverse, ?_,
    fun c hc => List.mem_takeWhile_imp hc, fun c hc => List.mem_takeWhile_imp (List.mem_reverse.mp hc)⟩
  rw [strip, List.append_assoc, ← List.reverse_append, List.takeWhile_append_dropWhile, List.reverse_reverse,
    List.takeWhile_append_dropWhile]

theorem strip_eq_nil_iff : strip cs = [] ↔ ∀ c ∈ cs, isBlank c = true := by
  constructor
  · intro h
    obtain ⟨before, after, hcs, hbefore, hafter⟩ := exists_strip cs
    rw [h, List.append_nil] at hcs
    rw [hcs, List.forall_mem_append]
    exact ⟨hbefore, hafter⟩
  · intro h
    rw [strip, List.dropWhile_eq_nil_iff.mpr h]
    rfl

/-- Stripping takes the blanks at both ends away and nothing else. -/
theorem strip_append (hbefore : ∀ c ∈ before, isBlank c = true) (hafter : ∀ c ∈ after, isBlank c = true)
    (hcs : ∀ c ∈ cs, isBlank c = false) : strip (before ++ cs ++ after) = cs := by
  cases cs with
  | nil =>
    rw [strip_eq_nil_iff, List.append_nil, List.forall_mem_append]
    exact ⟨hbefore, hafter⟩
  | cons c cs =>
    have hfirst : StopsAt isBlank (c :: cs ++ after) := stopsAt_cons.mpr (hcs c List.mem_cons_self)
    have hlast : StopsAt isBlank (c :: cs).reverse := fun d hd =>
      hcs d (List.mem_reverse.mp (List.mem_of_mem_head? hd))
    have hafter' : ∀ d ∈ after.reverse, isBlank d = true := fun d hd => hafter d (List.mem_reverse.mp hd)
    rw [strip, List.append_assoc, (takeWhile_append_of_stopsAt hbefore hfirst).2, List.reverse_append,
      (takeWhile_append_of_stopsAt hafter' hlast).2, List.reverse_reverse]

theorem isBlank_of_isMark {c : Char} (h : isMark c = true) : isBlank c = false := by
  have hcode : 43 ≤ c.toNat ∧ c.toNat ≤ 122 := by
    simp only [isMark, Char.isAlphanum, Bool.or_eq_true, beq_iff_eq, isAlpha_iff, isDigit_iff] at h
    rcases h with (((h | h) | rfl) | rfl) | rfl
    · omega
    · omega
    · decide
    · decide
    · decide
  rw [← Bool.not_eq_true]
  intro hblank
  simp only [isBlank, Bool.or_eq_true, Bool.and_eq_true, decide_eq_true_eq, beq_iff_eq] at hblank
  omega

end Text

namespace PointArgument
open Decimal

variable {s : String} {first second part : List Char} {fault : PointFault} {p : Point Float} {l : Literal}

/-! ### Parts -/

/-- The part is the literal, with blanks around it or without. -/
def Denotes (part : List Char) (l : Literal) : Prop :=
  ∃ before cs after, part = before ++ cs ++ after ∧ (∀ c ∈ before, Text.isBlank c = true) ∧
    (∀ c ∈ after, Text.isBlank c = true) ∧ l.IsWritten cs

/-- The part is no literal, and the fault tells whether there is anything else than blanks in it. -/
def IsFaulty (part : List Char) (fault : PointFault) : Prop :=
  (∀ l, ¬Denotes part l) ∧
    fault = if part.all Text.isBlank then .missingNumber (String.ofList part) else .noNumber (String.ofList part)

theorem denotes_iff : Denotes part l ↔ Literal.read? (Text.strip part) = some l := by
  rw [Literal.read?_eq_some_iff]
  constructor
  · rintro ⟨before, cs, after, rfl, hbefore, hafter, hwritten⟩
    rwa [Text.strip_append hbefore hafter fun c hc => Text.isBlank_of_isMark (hwritten.isMark c hc)]
  · intro h
    obtain ⟨before, after, hpart, hbefore, hafter⟩ := Text.exists_strip part
    exact ⟨before, _, after, hpart, hbefore, hafter, h⟩

theorem Denotes.not_mem_comma (h : Denotes part l) : ',' ∉ part := by
  obtain ⟨before, cs, after, rfl, hbefore, hafter, hwritten⟩ := h
  rw [List.mem_append, List.mem_append]
  rintro ((h | h) | h)
  · exact absurd (hbefore _ h) (by decide)
  · exact absurd (hwritten.isMark _ h) (by decide)
  · exact absurd (hafter _ h) (by decide)

theorem denotes_or_isFaulty (part : List Char) : (∃ l, Denotes part l) ∨ ∃ fault, IsFaulty part fault := by
  by_cases h : ∃ l, Denotes part l
  · exact .inl h
  · exact .inr ⟨_, not_exists.mp h, rfl⟩

theorem parsePart_of_denotes (h : Denotes part l) : parsePart part = .ok l.value := by
  rw [denotes_iff] at h
  rw [parsePart]
  split
  · rename_i hnil
    have hnone : Literal.read? [] = none := by decide
    rw [hnil, hnone] at h
    cases h
  · rw [h]

theorem parsePart_of_isFaulty (h : IsFaulty part fault) : parsePart part = .error fault := by
  obtain ⟨hnone, hfault⟩ := h
  have hread : Literal.read? (Text.strip part) = none :=
    Option.eq_none_iff_forall_ne_some.mpr fun l hl => hnone l (denotes_iff.mpr hl)
  rw [hfault, parsePart]
  split
  · rename_i hnil
    rw [if_pos (List.all_eq_true.mpr (Text.strip_eq_nil_iff.mp hnil))]
  · rename_i hne
    rw [if_neg fun hall => hne (Text.strip_eq_nil_iff.mpr (List.all_eq_true.mp hall)), hread]

/-! ### The whole argument -/

theorem parse_of_not_mem (h : ',' ∉ s.toList) : parse s = .error (.noComma s) := by
  have hall : ∀ c ∈ s.toList, (c != ',') = true := fun c hc => bne_iff_ne.mpr fun hcomma => h (hcomma ▸ hc)
  rw [parse, split?, List.dropWhile_eq_nil_iff.mpr hall]

theorem parse_of_split (hs : s.toList = first ++ ',' :: second) (hfirst : ',' ∉ first) :
    parse s = (do
      let lat ← parsePart first
      let lon ← parsePart second
      let p : Point Float := ⟨lat, lon⟩
      if p.isValid then .ok p else .error (.outOfRange p)) := by
  have hall : ∀ c ∈ first, (c != ',') = true := fun c hc => bne_iff_ne.mpr fun hcomma => hfirst (hcomma ▸ hc)
  have hstops : StopsAt (· != ',') (',' :: second) := stopsAt_cons.mpr (by decide)
  have hsplit := takeWhile_append_of_stopsAt hall hstops
  rw [parse, split?, hs, hsplit.1, hsplit.2]

theorem parse_of_denotes {l₁ l₂ : Literal} (hs : s.toList = first ++ ',' :: second) (h₁ : Denotes first l₁)
    (h₂ : Denotes second l₂) (hlat : l₁.StandsFor p.lat) (hlon : l₂.StandsFor p.lon) :
    parse s = if p.isValid then .ok p else .error (.outOfRange p) := by
  obtain ⟨lat, lon⟩ := p
  obtain rfl := Literal.standsFor_iff.mp hlat
  obtain rfl := Literal.standsFor_iff.mp hlon
  rw [parse_of_split hs h₁.not_mem_comma, parsePart_of_denotes h₁, parsePart_of_denotes h₂]
  rfl

/-- The argument has one comma, the point's numbers are what the literals before and behind it stand for, and the point
    is on the globe. -/
def IsWritten (s : String) (p : Point Float) : Prop :=
  ∃ first second l₁ l₂, s.toList = first ++ ',' :: second ∧ ',' ∉ first ∧ ',' ∉ second ∧
    Denotes first l₁ ∧ Denotes second l₂ ∧ l₁.StandsFor p.lat ∧ l₂.StandsFor p.lon ∧ p.IsOnGlobe

/-- What is wrong first: there is no comma, the part before the first one is faulty, the part behind it is, or the point
    is not on the globe. -/
def FailsWith (s : String) (fault : PointFault) : Prop :=
  ',' ∉ s.toList ∧ fault = .noComma s ∨
  ∃ first second, s.toList = first ++ ',' :: second ∧ ',' ∉ first ∧
    (IsFaulty first fault ∨ ∃ l₁, Denotes first l₁ ∧
      (IsFaulty second fault ∨ ∃ l₂ p, Denotes second l₂ ∧
        l₁.StandsFor p.lat ∧ l₂.StandsFor p.lon ∧ ¬p.IsOnGlobe ∧ fault = .outOfRange p))

theorem parse_of_isWritten (h : IsWritten s p) : parse s = .ok p := by
  obtain ⟨first, second, l₁, l₂, hs, -, -, h₁, h₂, hlat, hlon, hglobe⟩ := h
  rw [parse_of_denotes hs h₁ h₂ hlat hlon, if_pos (Point.isValid_iff_isOnGlobe.mpr hglobe)]

theorem parse_of_failsWith (h : FailsWith s fault) : parse s = .error fault := by
  rcases h with ⟨hcomma, rfl⟩ | ⟨first, second, hs, hfirst, h₁ | ⟨l₁, h₁, h₂ | ⟨l₂, p, h₂, hlat, hlon, hglobe, rfl⟩⟩⟩
  · exact parse_of_not_mem hcomma
  · rw [parse_of_split hs hfirst, parsePart_of_isFaulty h₁]
    rfl
  · rw [parse_of_split hs hfirst, parsePart_of_denotes h₁, parsePart_of_isFaulty h₂]
    rfl
  · rw [parse_of_denotes hs h₁ h₂ hlat hlon, if_neg (mt Point.isValid_iff_isOnGlobe.mp hglobe)]

/-- Every argument is a point or has a fault. -/
theorem isWritten_or_failsWith (s : String) : (∃ p, IsWritten s p) ∨ ∃ fault, FailsWith s fault := by
  by_cases hcomma : ',' ∈ s.toList
  · obtain ⟨first, second, hs, hfirst⟩ := List.eq_append_cons_of_mem hcomma
    rcases denotes_or_isFaulty first with ⟨l₁, h₁⟩ | ⟨fault, h₁⟩
    · rcases denotes_or_isFaulty second with ⟨l₂, h₂⟩ | ⟨fault, h₂⟩
      · have hlat := l₁.standsFor_value
        have hlon := l₂.standsFor_value
        by_cases hglobe : Point.IsOnGlobe ⟨l₁.value, l₂.value⟩
        · exact .inl ⟨_, first, second, l₁, l₂, hs, hfirst, h₂.not_mem_comma, h₁, h₂, hlat, hlon, hglobe⟩
        · exact .inr ⟨_, .inr ⟨first, second, hs, hfirst, .inr ⟨l₁, h₁, .inr ⟨l₂, _, h₂, hlat, hlon, hglobe, rfl⟩⟩⟩⟩
      · exact .inr ⟨fault, .inr ⟨first, second, hs, hfirst, .inr ⟨l₁, h₁, .inl h₂⟩⟩⟩
    · exact .inr ⟨fault, .inr ⟨first, second, hs, hfirst, .inl h₁⟩⟩
  · exact .inr ⟨_, .inl ⟨hcomma, rfl⟩⟩

/-- Exactly the arguments that a point is written as are read, each as that point; any other argument is told what is
    wrong with it first. -/
theorem parse_eq_iff (s : String) : (∀ p, parse s = .ok p ↔ IsWritten s p) ∧
    ∀ fault, parse s = .error fault ↔ FailsWith s fault := by
  refine ⟨fun p => ⟨fun h => ?_, parse_of_isWritten⟩, fun fault => ⟨fun h => ?_, parse_of_failsWith⟩⟩
  · rcases isWritten_or_failsWith s with ⟨p', hp⟩ | ⟨fault, hfault⟩
    · have heq := (parse_of_isWritten hp).symm.trans h
      cases heq
      exact hp
    · cases (parse_of_failsWith hfault).symm.trans h
  · rcases isWritten_or_failsWith s with ⟨p, hp⟩ | ⟨fault', hfault⟩
    · cases (parse_of_isWritten hp).symm.trans h
    · have heq := (parse_of_failsWith hfault).symm.trans h
      cases heq
      exact hfault

end PointArgument

end AirspaceRaster
