import Mathlib
import AirspaceRaster.Decimal.Literal

/-! The grammar of decimal literals. A literal is an optional sign in front of a word in any case or of a mantissa and
    an optional exponent; a mantissa is digits, at least one of them, with a point somewhere or none. The reader
    takes each part as long as it can. That is the only way to divide a literal into its parts, since none of them
    starts with a character that the part before it could go on with, so exactly the literals are read. -/

namespace AirspaceRaster.Decimal

variable {α : Type} {p : α → Bool} {l₁ l₂ : List α} {cs rest sign mantissa whole places tail digits word : List Char}
  {c mark small : Char} {negative : Bool} {e : Int} {l : Literal}

/-! ### The grammar -/

/-- Nothing or a sign, and whether it is a minus. -/
inductive IsSign : List Char → Bool → Prop
  | absent : IsSign [] false
  | plus : IsSign ['+'] false
  | minus : IsSign ['-'] true

def AreDigits (cs : List Char) : Prop := ∀ c ∈ cs, c.isDigit = true

instance : Decidable (AreDigits cs) := decidable_of_iff (cs.all Char.isDigit = true) List.all_eq_true

/-- A text with the digits before the point and those behind it. -/
inductive IsMantissa : List Char → List Char → List Char → Prop
  | plain {whole : List Char} : AreDigits whole → whole ≠ [] → IsMantissa whole whole []
  | pointed {whole places : List Char} : AreDigits whole → AreDigits places → whole ++ places ≠ [] →
      IsMantissa (whole ++ '.' :: places) whole places

/-- Nothing or an exponent, and the power of ten that it stands for. -/
inductive IsExponent : List Char → Int → Prop
  | absent : IsExponent [] 0
  | present {mark : Char} {sign digits : List Char} {negative : Bool} : mark = 'e' ∨ mark = 'E' →
      IsSign sign negative → AreDigits digits → digits ≠ [] →
      IsExponent (mark :: (sign ++ digits)) (if negative then -ofDigits digits else ofDigits digits)

/-- A word of small letters, any of which may be a capital one. -/
def IsInAnyCase (word cs : List Char) : Prop :=
  List.Forall₂ (fun l c => c = l ∨ c = l.toUpper) word cs

/-- The texts that a literal can be written as. -/
inductive Literal.IsWritten : Literal → List Char → Prop
  | infinite {sign word : List Char} {negative : Bool} : IsSign sign negative →
      IsInAnyCase "inf".toList word ∨ IsInAnyCase "infinity".toList word →
      IsWritten (.infinite negative) (sign ++ word)
  | undefined {sign word : List Char} {negative : Bool} : IsSign sign negative → IsInAnyCase "nan".toList word →
      IsWritten .undefined (sign ++ word)
  | finite {sign mantissa whole places tail : List Char} {negative : Bool} {e : Int} : IsSign sign negative →
      IsMantissa mantissa whole places → IsExponent tail e →
      IsWritten (.finite negative (ofDigits (whole ++ places)) (e - places.length)) (sign ++ (mantissa ++ tail))

/-! ### Where a part ends -/

/-- What comes next does not go on with characters of a kind. -/
def StopsAt (p : α → Bool) (l : List α) : Prop := ∀ a ∈ l.head?, p a = false

theorem stopsAt_nil : StopsAt p [] := nofun

theorem stopsAt_cons {a : α} : StopsAt p (a :: l₁) ↔ p a = false := by
  simp [StopsAt]

theorem stopsAt_dropWhile (p : α → Bool) (l : List α) : StopsAt p (l.dropWhile p) := by
  have hhead := List.head?_dropWhile_not p l
  intro a ha
  rw [Option.mem_def.mp ha] at hhead
  exact hhead

theorem takeWhile_append_of_stopsAt (h₁ : ∀ a ∈ l₁, p a = true) (h₂ : StopsAt p l₂) :
    (l₁ ++ l₂).takeWhile p = l₁ ∧ (l₁ ++ l₂).dropWhile p = l₂ := by
  rw [List.takeWhile_append_of_pos h₁, List.dropWhile_append_of_pos h₁]
  cases l₂ with
  | nil => simp
  | cons a l₂ =>
    have ha := stopsAt_cons.mp h₂
    rw [List.takeWhile_cons_of_neg (by simp [ha]), List.dropWhile_cons_of_neg (by simp [ha]), List.append_nil]
    exact ⟨rfl, rfl⟩

/-! ### Signs -/

def isSignMark (c : Char) : Bool := c == '+' || c == '-'

theorem exists_isSign (cs : List Char) :
    ∃ sign negative rest, IsSign sign negative ∧ cs = sign ++ rest ∧ readSign cs = (negative, rest) := by
  unfold readSign
  split
  · exact ⟨['-'], _, _, .minus, rfl, rfl⟩
  · exact ⟨['+'], _, _, .plus, rfl, rfl⟩
  · exact ⟨[], _, _, .absent, rfl, rfl⟩

theorem isSignMark_eq_false (hc : c.isAlphanum = true ∨ c = '.') : isSignMark c = false := by
  rw [isSignMark, Bool.or_eq_false_iff, beq_eq_false_iff_ne, beq_eq_false_iff_ne]
  constructor <;> rintro rfl <;> rcases hc with hc | hc <;> cases hc

theorem readSign_append (hsign : IsSign sign negative) (hrest : StopsAt isSignMark rest) :
    readSign (sign ++ rest) = (negative, rest) := by
  cases hsign with
  | absent =>
    cases rest with
    | nil => rfl
    | cons c rest =>
      have hc : c ≠ '+' ∧ c ≠ '-' := by simpa [isSignMark] using stopsAt_cons.mp hrest
      rw [List.nil_append]
      unfold readSign
      split
      · rename_i heq
        exact absurd (List.cons.inj heq).1 hc.2
      · rename_i heq
        exact absurd (List.cons.inj heq).1 hc.1
      · rfl
  | plus => rfl
  | minus => rfl

theorem stopsAt_of_areDigits (h : AreDigits cs) : StopsAt isSignMark cs := by
  cases cs with
  | nil => exact stopsAt_nil
  | cons c cs =>
    have hc := h c List.mem_cons_self
    exact stopsAt_cons.mpr (isSignMark_eq_false (.inl (by simp [Char.isAlphanum, hc])))

/-! ### Exponents -/

theorem readExponent_cons :
    readExponent (mark :: rest) =
      if (mark = 'e' ∨ mark = 'E') ∧ AreDigits (readSign rest).2 ∧ (readSign rest).2 ≠ [] then
        some (if (readSign rest).1 then -(ofDigits (readSign rest).2 : Int) else ofDigits (readSign rest).2)
      else none := by
  have hbad : ((readSign rest).2.isEmpty || !(readSign rest).2.all Char.isDigit) = true ↔
      ¬(AreDigits (readSign rest).2 ∧ (readSign rest).2 ≠ []) := by
    rw [not_and_or, not_not, AreDigits, Bool.or_eq_true, List.isEmpty_iff, Bool.not_eq_true', List.all_eq_false]
    simp [or_comm]
  rw [readExponent]
  by_cases hmark : mark = 'e' ∨ mark = 'E'
  · by_cases hdigits : AreDigits (readSign rest).2 ∧ (readSign rest).2 ≠ []
    · simp only [hmark, hdigits, hbad]
      simp
    · simp only [hmark, hdigits, hbad]
      simp
  · simp [hmark]

theorem readExponent_eq_some_iff : readExponent cs = some e ↔ IsExponent cs e := by
  constructor
  · intro h
    cases cs with
    | nil =>
      cases h
      exact .absent
    | cons mark rest =>
      rw [readExponent_cons, Option.ite_none_right_eq_some] at h
      obtain ⟨⟨hmark, hdigits, hne⟩, he⟩ := h
      obtain ⟨sign, negative, digits, hsign, hrest, hread⟩ := exists_isSign rest
      rw [hread] at hdigits hne he
      rw [hrest, ← Option.some.inj he]
      exact .present hmark hsign hdigits hne
  · rintro (_ | ⟨hmark, hsign, hdigits, hne⟩)
    · rfl
    · rw [readExponent_cons, readSign_append hsign (stopsAt_of_areDigits hdigits),
        if_pos ⟨hmark, hdigits, hne⟩]

/-! ### Numbers without a sign -/

theorem IsExponent.stopsAt (h : IsExponent tail e) : StopsAt Char.isDigit tail ∧ StopsAt (· == '.') tail := by
  cases h with
  | absent => exact ⟨stopsAt_nil, stopsAt_nil⟩
  | present hmark =>
    rw [stopsAt_cons, stopsAt_cons]
    rcases hmark with rfl | rfl <;> decide

theorem readMagnitude_plain (hwhole : AreDigits whole) (htail : StopsAt Char.isDigit tail)
    (hpoint : StopsAt (· == '.') tail) :
    readMagnitude negative (whole ++ tail) =
      if whole = [] then none else (readExponent tail).map fun e => .finite negative (ofDigits whole) e := by
  have hsplit := takeWhile_append_of_stopsAt hwhole htail
  rw [readMagnitude]
  simp only [hsplit.1, hsplit.2]
  split
  · exact absurd (stopsAt_cons.mp hpoint) (by decide)
  · simp

theorem readMagnitude_pointed (hwhole : AreDigits whole) (hplaces : AreDigits places)
    (htail : StopsAt Char.isDigit tail) :
    readMagnitude negative (whole ++ '.' :: (places ++ tail)) =
      if whole ++ places = [] then none
      else (readExponent tail).map fun e => .finite negative (ofDigits (whole ++ places)) (e - places.length) := by
  have hpoint : StopsAt Char.isDigit ('.' :: (places ++ tail)) := stopsAt_cons.mpr (by decide)
  have hsplit := takeWhile_append_of_stopsAt hwhole hpoint
  have hsplit' := takeWhile_append_of_stopsAt hplaces htail
  rw [readMagnitude]
  simp only [hsplit.1, hsplit.2, hsplit'.1, hsplit'.2]
  simp

/-- Every text is digits in front of something else, with a point and more digits behind them or without. -/
theorem exists_parts (cs : List Char) :
    (∃ whole tail, AreDigits whole ∧ StopsAt Char.isDigit tail ∧ StopsAt (· == '.') tail ∧ cs = whole ++ tail) ∨
    ∃ whole places tail, AreDigits whole ∧ AreDigits places ∧ StopsAt Char.isDigit tail ∧
      cs = whole ++ '.' :: (places ++ tail) := by
  have hwhole : AreDigits (cs.takeWhile Char.isDigit) := fun c hc => List.mem_takeWhile_imp hc
  have hcs := (List.takeWhile_append_dropWhile (p := Char.isDigit) (l := cs)).symm
  have hstops := stopsAt_dropWhile Char.isDigit cs
  cases hrest : cs.dropWhile Char.isDigit with
  | nil =>
    rw [hrest] at hcs
    exact .inl ⟨_, [], hwhole, stopsAt_nil, stopsAt_nil, hcs⟩
  | cons c rest =>
    rw [hrest] at hcs hstops
    by_cases hc : c = '.'
    · subst hc
      refine .inr ⟨_, rest.takeWhile Char.isDigit, rest.dropWhile Char.isDigit, hwhole,
        fun c hc => List.mem_takeWhile_imp hc, stopsAt_dropWhile _ _, ?_⟩
      rwa [List.takeWhile_append_dropWhile]
    · exact .inl ⟨_, c :: rest, hwhole, hstops, stopsAt_cons.mpr (by simpa using hc), hcs⟩

theorem readMagnitude_eq_some_iff :
    readMagnitude negative cs = some l ↔
      ∃ mantissa whole places tail e, cs = mantissa ++ tail ∧ IsMantissa mantissa whole places ∧ IsExponent tail e ∧
        l = .finite negative (ofDigits (whole ++ places)) (e - places.length) := by
  constructor
  · intro h
    rcases exists_parts cs with ⟨whole, tail, hwhole, htail, hpoint, rfl⟩ |
      ⟨whole, places, tail, hwhole, hplaces, htail, rfl⟩
    · rw [readMagnitude_plain hwhole htail hpoint, Option.ite_none_left_eq_some, Option.map_eq_some_iff] at h
      obtain ⟨hne, e, he, rfl⟩ := h
      exact ⟨whole, whole, [], tail, e, rfl, .plain hwhole hne, readExponent_eq_some_iff.mp he, by simp⟩
    · rw [readMagnitude_pointed hwhole hplaces htail, Option.ite_none_left_eq_some, Option.map_eq_some_iff] at h
      obtain ⟨hne, e, he, rfl⟩ := h
      exact ⟨whole ++ '.' :: places, whole, places, tail, e, by simp, .pointed hwhole hplaces hne,
        readExponent_eq_some_iff.mp he, rfl⟩
  · rintro ⟨mantissa, whole, places, tail, e, rfl, hmantissa, hexponent, rfl⟩
    obtain ⟨htail, hpoint⟩ := hexponent.stopsAt
    have he := readExponent_eq_some_iff.mpr hexponent
    cases hmantissa with
    | plain hwhole hne =>
      rw [readMagnitude_plain hwhole htail hpoint, if_neg hne, he]
      simp
    | pointed hwhole hplaces hne =>
      rw [List.append_assoc, List.cons_append, readMagnitude_pointed hwhole hplaces htail, if_neg hne, he]
      rfl

/-! ### Words -/

theorem isDigit_iff : c.isDigit = true ↔ 48 ≤ c.toNat ∧ c.toNat ≤ 57 := by
  simp [Char.isDigit, UInt32.le_iff_toNat_le, ← Char.toNat_val]

theorem isAlpha_iff : c.isAlpha = true ↔ (65 ≤ c.toNat ∧ c.toNat ≤ 90) ∨ (97 ≤ c.toNat ∧ c.toNat ≤ 122) := by
  simp [Char.isAlpha, Char.isUpper, Char.isLower, UInt32.le_iff_toNat_le, ← Char.toNat_val]

theorem toLower_eq_iff (hsmall : small.isLower = true) : c.toLower = small ↔ c = small ∨ c = small.toUpper := by
  have hrange : 97 ≤ small.val.toNat ∧ small.val.toNat ≤ 122 := by
    simpa [Char.isLower, UInt32.le_iff_toNat_le] using hsmall
  have hupper : small.toUpper.val.toNat = small.val.toNat - 32 := by
    rw [Char.toUpper, dif_pos (by simpa [UInt32.le_iff_toNat_le] using hrange)]
    change (small.val + ('A'.val - 'a'.val)).toNat = _
    rw [UInt32.toNat_add, UInt32.toNat_sub]
    change (small.val.toNat + (2 ^ 32 - 97 + 65) % 2 ^ 32) % 2 ^ 32 = _
    omega
  simp only [Char.ext_iff, UInt32.toNat_inj.symm, hupper]
  by_cases hc : 'A'.val ≤ c.val ∧ c.val ≤ 'Z'.val
  · have hrange' : 65 ≤ c.val.toNat ∧ c.val.toNat ≤ 90 := hc
    rw [Char.toLower, dif_pos hc]
    change (c.val + ('a'.val - 'A'.val)).toNat = _ ↔ _
    rw [UInt32.toNat_add]
    change (c.val.toNat + 32) % 2 ^ 32 = _ ↔ _
    omega
  · have hrange' : ¬(65 ≤ c.val.toNat ∧ c.val.toNat ≤ 90) := hc
    rw [Char.toLower, dif_neg hc]
    omega

theorem isAlpha_of_isLower_toLower (h : c.toLower.isLower = true) : c.isAlpha = true := by
  by_cases hc : 'A'.val ≤ c.val ∧ c.val ≤ 'Z'.val
  · rw [Char.isAlpha, Char.isUpper, decide_eq_true hc, Bool.true_or]
  · rw [Char.toLower, dif_neg hc] at h
    simp [Char.isAlpha, h]

theorem map_toLower_eq_iff (hword : word.all Char.isLower = true) :
    cs.map Char.toLower = word ↔ IsInAnyCase word cs := by
  induction word generalizing cs with
  | nil => simp [IsInAnyCase]
  | cons small word ih =>
    cases cs with
    | nil => simp [IsInAnyCase]
    | cons c cs =>
      rw [List.all_cons, Bool.and_eq_true] at hword
      rw [List.map_cons, List.cons.injEq, toLower_eq_iff hword.1, ih hword.2]
      simp [IsInAnyCase]

theorem isWord_iff {word : String} (hword : word.toList.all Char.isLower = true) :
    isWord word cs = true ↔ IsInAnyCase word.toList cs := by
  rw [isWord, beq_iff_eq, map_toLower_eq_iff hword]

theorem IsInAnyCase.isAlpha (h : IsInAnyCase word cs) (hword : word.all Char.isLower = true) :
    ∀ c ∈ cs, c.isAlpha = true := by
  rw [← map_toLower_eq_iff hword] at h
  subst h
  rw [List.all_eq_true, List.forall_mem_map] at hword
  exact fun c hc => isAlpha_of_isLower_toLower (hword c hc)

/-- A number starts with a digit or with its point. -/
theorem IsMantissa.exists_head (h : IsMantissa mantissa whole places) :
    ∃ c cs, mantissa = c :: cs ∧ (c.isDigit = true ∨ c = '.') := by
  cases h with
  | plain hwhole hne =>
    obtain ⟨c, cs, rfl⟩ := List.exists_cons_of_ne_nil hne
    exact ⟨c, cs, rfl, .inl (hwhole c List.mem_cons_self)⟩
  | pointed hwhole =>
    cases whole with
    | nil => exact ⟨'.', _, rfl, .inr rfl⟩
    | cons c whole => exact ⟨c, _, rfl, .inl (hwhole c List.mem_cons_self)⟩

theorem readSign_word (hsign : IsSign sign negative) (hword : ∀ c ∈ word, c.isAlpha = true) :
    readSign (sign ++ word) = (negative, word) := by
  refine readSign_append hsign fun c hc => ?_
  have hc := hword c (List.mem_of_mem_head? hc)
  exact isSignMark_eq_false (.inl (by simp [Char.isAlphanum, hc]))

theorem readSign_mantissa (hsign : IsSign sign negative) (hmantissa : IsMantissa mantissa whole places) :
    readSign (sign ++ (mantissa ++ tail)) = (negative, mantissa ++ tail) := by
  obtain ⟨c, cs, rfl, hc⟩ := hmantissa.exists_head
  refine readSign_append hsign (stopsAt_cons.mpr (isSignMark_eq_false (hc.imp_left fun hdigit => ?_)))
  simp [Char.isAlphanum, hdigit]

theorem isWord_mantissa {word : String} (hword : word.toList.all Char.isLower = true)
    (hmantissa : IsMantissa mantissa whole places) : isWord word (mantissa ++ tail) = false := by
  rw [← Bool.not_eq_true, isWord_iff hword]
  intro h
  obtain ⟨c, cs, rfl, hc⟩ := hmantissa.exists_head
  have halpha := isAlpha_iff.mp (h.isAlpha hword c List.mem_cons_self)
  rcases hc with hc | rfl
  · rw [isDigit_iff] at hc
    omega
  · exact absurd halpha (by decide)

/-! ### Literals -/

theorem Literal.read?_of_readSign (h : readSign cs = (negative, rest)) :
    Literal.read? cs =
      if isWord "inf" rest || isWord "infinity" rest then some (.infinite negative)
      else if isWord "nan" rest then some .undefined
      else readMagnitude negative rest := by
  rw [Literal.read?, h]

theorem Literal.read?_eq_some_iff : Literal.read? cs = some l ↔ l.IsWritten cs := by
  constructor
  · intro h
    obtain ⟨sign, negative, rest, hsign, rfl, hread⟩ := exists_isSign cs
    rw [Literal.read?_of_readSign hread] at h
    split_ifs at h with hinfinite hundefined
    · cases h
      rw [Bool.or_eq_true, isWord_iff rfl, isWord_iff rfl] at hinfinite
      exact .infinite hsign hinfinite
    · cases h
      exact .undefined hsign ((isWord_iff rfl).mp hundefined)
    · obtain ⟨mantissa, whole, places, tail, e, rfl, hmantissa, hexponent, rfl⟩ := readMagnitude_eq_some_iff.mp h
      exact .finite hsign hmantissa hexponent
  · intro h
    cases h with
    | infinite hsign hword =>
      have hsplit := readSign_word hsign (hword.elim (·.isAlpha rfl) (·.isAlpha rfl))
      rw [← isWord_iff rfl, ← isWord_iff rfl, ← Bool.or_eq_true] at hword
      rw [Literal.read?_of_readSign hsplit, if_pos hword]
    | undefined hsign hword =>
      have hmap := (map_toLower_eq_iff rfl).mpr hword
      rw [Literal.read?_of_readSign (readSign_word hsign (hword.isAlpha rfl))]
      simp [isWord, hmap]
    | finite hsign hmantissa hexponent =>
      rw [Literal.read?_of_readSign (readSign_mantissa hsign hmantissa), isWord_mantissa rfl hmantissa,
        isWord_mantissa rfl hmantissa, isWord_mantissa rfl hmantissa]
      exact readMagnitude_eq_some_iff.mpr ⟨_, _, _, _, _, rfl, hmantissa, hexponent, rfl⟩

/-- Whether a text can be written for a literal is decided by reading it. -/
instance : Decidable (l.IsWritten cs) := decidable_of_iff _ Literal.read?_eq_some_iff

example : (Literal.finite false 45 (-1)).IsWritten "+.45E1".toList := by decide

/-! ### Characters -/

/-- The characters that literals are made of. -/
def isMark (c : Char) : Bool := c.isAlphanum || c == '+' || c == '-' || c == '.'

theorem IsSign.isMark (h : IsSign sign negative) : ∀ c ∈ sign, isMark c = true := by
  cases h with
  | absent => exact nofun
  | plus => exact List.forall_mem_singleton.mpr rfl
  | minus => exact List.forall_mem_singleton.mpr rfl

theorem AreDigits.isMark (h : AreDigits cs) : ∀ c ∈ cs, isMark c = true := by
  intro c hc
  simp [Decimal.isMark, Char.isAlphanum, h c hc]

theorem IsMantissa.isMark (h : IsMantissa mantissa whole places) : ∀ c ∈ mantissa, isMark c = true := by
  cases h with
  | plain hwhole => exact hwhole.isMark
  | pointed hwhole hplaces =>
    rw [List.forall_mem_append, List.forall_mem_cons]
    exact ⟨hwhole.isMark, rfl, hplaces.isMark⟩

theorem IsExponent.isMark (h : IsExponent tail e) : ∀ c ∈ tail, isMark c = true := by
  cases h with
  | absent => exact nofun
  | present hmark hsign hdigits =>
    rw [List.forall_mem_cons, List.forall_mem_append]
    refine ⟨?_, hsign.isMark, hdigits.isMark⟩
    rcases hmark with rfl | rfl <;> rfl

theorem IsInAnyCase.isMark (h : IsInAnyCase word cs) (hword : word.all Char.isLower = true) :
    ∀ c ∈ cs, isMark c = true := by
  intro c hc
  simp [Decimal.isMark, Char.isAlphanum, h.isAlpha hword c hc]

theorem Literal.IsWritten.isMark (h : l.IsWritten cs) : ∀ c ∈ cs, isMark c = true := by
  cases h with
  | infinite hsign hword =>
    rw [List.forall_mem_append]
    rcases hword with hword | hword
    · exact ⟨hsign.isMark, hword.isMark rfl⟩
    · exact ⟨hsign.isMark, hword.isMark rfl⟩
  | undefined hsign hword =>
    rw [List.forall_mem_append]
    exact ⟨hsign.isMark, hword.isMark rfl⟩
  | finite hsign hmantissa hexponent =>
    rw [List.forall_mem_append, List.forall_mem_append]
    exact ⟨hsign.isMark, hmantissa.isMark, hexponent.isMark⟩

end AirspaceRaster.Decimal
