import Weave.Json.Draft

/-!
# Scalars read back

A string that is printed between its quotes is read as itself, with whatever
characters, and what stands behind the closing quote is left. An integer of
sixty-four bits is read as itself if no further character of a number stands
behind it.
-/
namespace Weave.Json

/-- How a character is printed: by a letter, by its number, or by itself. -/
inductive Escape (c : Char) : Text → Prop
  | letter {l : Char} : unescape? l = some c → l ≠ 'u' → Escape c ['\\', l]
  | number : c.toNat < 0x20 →
      Escape c ['\\', 'u', '0', '0', Nat.digitChar (c.toNat / 16), Nat.digitChar (c.toNat % 16)]
  | itself : 0x20 ≤ c.toNat → c ≠ '"' → c ≠ '\\' → Escape c [c]

theorem mem_of_lookup_eq_some {es : List (Char × Char)} {c l : Char}
    (h : es.lookup c = some l) : (c, l) ∈ es := by
  obtain ⟨front, back, rfl, -⟩ := List.lookup_eq_some_iff.1 h
  simp

theorem escape_of_mem_shortEscapes {c l : Char} (h : (c, l) ∈ shortEscapes) :
    unescape? l = some c ∧ l ≠ 'u' := by
  simp only [shortEscapes, List.mem_cons, Prod.mk.injEq, List.not_mem_nil, or_false] at h
  rcases h with ⟨rfl, rfl⟩ | ⟨rfl, rfl⟩ | ⟨rfl, rfl⟩ | ⟨rfl, rfl⟩ | ⟨rfl, rfl⟩ | ⟨rfl, rfl⟩ |
    ⟨rfl, rfl⟩ <;> decide

theorem escape_escapeChar (c : Char) : Escape c (escapeChar c) := by
  unfold escapeChar
  split
  · rename_i l h
    obtain ⟨hl, hu⟩ := escape_of_mem_shortEscapes (mem_of_lookup_eq_some h)
    exact .letter hl hu
  · rename_i h
    split
    · rename_i hc
      exact .number hc
    · rename_i hc
      have hq : c ≠ '"' := by
        rintro rfl
        exact absurd h (by decide)
      have hb : c ≠ '\\' := by
        rintro rfl
        exact absurd h (by decide)
      exact .itself (by omega) hq hb

theorem hexValue?_digitChar : ∀ d < 16, hexValue? (Nat.digitChar d) = some d := by
  decide

theorem unit?_number {n : Nat} (h : n < 0x20) :
    unit? '0' '0' (Nat.digitChar (n / 16)) (Nat.digitChar (n % 16)) = some n := by
  have hz : hexValue? '0' = some 0 := by decide
  simp only [unit?, hz, hexValue?_digitChar (n / 16) (by omega),
    hexValue?_digitChar (n % 16) (by omega)]
  simp only [Option.pure_def, Option.bind_eq_bind, Option.bind_some, Option.some.injEq]
  omega

theorem read_letter {c l : Char} (hl : unescape? l = some c) (hu : l ≠ 'u') (t : Text) :
    readString ('\\' :: l :: t) = (c :: ·) <$> readString t ∧
      skipString ('\\' :: l :: t) = skipString t := by
  constructor
  · rw [readString.eq_6 l t (fun _ _ _ _ _ h _ => hu h) hu, hl]
  · rw [skipString.eq_6 l t (fun _ _ _ _ _ h _ => hu h) hu, hl]
    rfl

theorem read_number {c : Char} (hc : c.toNat < 0x20) (t : Text) :
    readString ('\\' :: 'u' :: '0' :: '0' :: Nat.digitChar (c.toNat / 16) ::
        Nat.digitChar (c.toNat % 16) :: t) = (c :: ·) <$> readString t ∧
      skipString ('\\' :: 'u' :: '0' :: '0' :: Nat.digitChar (c.toNat / 16) ::
        Nat.digitChar (c.toNat % 16) :: t) = skipString t := by
  -- So small a number is no half of a pair.
  have ht : isTrailing c.toNat = false := by
    simp only [isTrailing, Bool.and_eq_false_iff, decide_eq_false_iff_not]
    omega
  have hl : isLeading c.toNat = false := by
    simp only [isLeading, Bool.and_eq_false_iff, decide_eq_false_iff_not]
    omega
  constructor
  · simp [readString, unit?_number hc, ht, hl]
  · simp [skipString, unit?_number hc]

theorem read_itself {c : Char} (hc : 0x20 ≤ c.toNat) (hq : c ≠ '"') (hb : c ≠ '\\') (t : Text) :
    readString (c :: t) = (c :: ·) <$> readString t ∧ skipString (c :: t) = skipString t := by
  have hn : ¬c.toNat < 0x20 := by omega
  constructor
  · rw [readString.eq_7 c t hq (fun _ _ _ _ _ h _ => hb h) (fun _ h _ => hb h) (fun h _ => hb h)
      (fun _ _ h _ => hb h), if_neg hn]
  · rw [skipString.eq_7 c t hq (fun _ _ _ _ _ h _ => hb h) (fun _ h _ => hb h) (fun h _ => hb h)
      (fun _ _ h _ => hb h), if_neg hn]

theorem read_escape {c : Char} {e : Text} (h : Escape c e) (t : Text) :
    readString (e ++ t) = (c :: ·) <$> readString t ∧ skipString (e ++ t) = skipString t := by
  cases h with
  | letter hl hu => exact read_letter hl hu t
  | number hc => exact read_number hc t
  | itself hc hq hb => exact read_itself hc hq hb t

/-- What is printed between the quotes is read back, whatever follows. -/
theorem read_escaped (s t : Text) :
    readString (s.flatMap escapeChar ++ '"' :: t) = .ok s ∧
      skipString (s.flatMap escapeChar ++ '"' :: t) = .ok t := by
  induction s with
  | nil => exact ⟨rfl, rfl⟩
  | cons c s ih =>
      obtain ⟨hr, hs⟩ := read_escape (escape_escapeChar c) (s.flatMap escapeChar ++ '"' :: t)
      rw [List.flatMap_cons, List.append_assoc, hr, hs, ih.1, ih.2]
      exact ⟨rfl, rfl⟩

/-- No number goes on in this text. -/
def Stops (t : Text) : Prop :=
  ∀ c ∈ t.head?, c = ',' ∨ c = '\n'

theorem Stops.not_isDigit {t : Text} (h : Stops t) : ∀ c ∈ t.head?, c.isDigit = false := by
  intro c hc
  rcases h c hc with rfl | rfl <;> decide

/-- The decimal digits of a number. -/
def digits (n : Nat) : Text :=
  Nat.toDigits 10 n

theorem isDigit_of_mem_digits {n : Nat} : ∀ c ∈ digits n, c.isDigit = true :=
  fun _ hc => Nat.isDigit_of_mem_toDigits (by decide) (by decide) hc

theorem exists_digits (n : Nat) : ∃ d ds, digits n = d :: ds ∧ d.isDigit = true := by
  obtain ⟨d, ds, hd⟩ := List.exists_cons_of_ne_nil (Nat.toDigits_ne_nil (n := n) (b := 10))
  exact ⟨d, ds, hd, isDigit_of_mem_digits (n := n) d (by simp [digits, hd])⟩

theorem digitsValue_digits (n : Nat) : digitsValue (digits n) = n := by
  have h := Nat.ofDigitChars_ten_toDigits (n := n)
  rwa [Nat.ofDigitChars_eq_foldl] at h

/-- Only the number zero begins with a zero. -/
theorem head?_digits_ne_zero {n : Nat} (h : 0 < n) : (digits n).head? ≠ some '0' := by
  induction n using Nat.strongRecOn with
  | _ n ih =>
      by_cases hn : n < 10
      · have hd : digits n = [n.digitChar] := Nat.toDigits_of_lt_base hn
        simp [hd]
        omega
      · have hd : digits n = digits (n / 10) ++ [(n % 10).digitChar] :=
          Nat.toDigits_of_base_le (by decide) (by omega)
        obtain ⟨c, ds, hc, -⟩ := exists_digits (n / 10)
        have hi := ih (n / 10) (by omega) (by omega)
        rw [hc] at hi
        rw [hd, hc]
        exact hi

theorem takeWhile_digits {n : Nat} {t : Text} (h : Stops t) :
    (digits n ++ t).takeWhile Char.isDigit = digits n ∧
      (digits n ++ t).dropWhile Char.isDigit = t := by
  have ht : t.takeWhile Char.isDigit = [] ∧ t.dropWhile Char.isDigit = t := by
    cases t with
    | nil => exact ⟨rfl, rfl⟩
    | cons c t => simp [h.not_isDigit c rfl]
  constructor
  · rw [List.takeWhile_append_of_pos isDigit_of_mem_digits, ht.1, List.append_nil]
  · rw [List.dropWhile_append_of_pos isDigit_of_mem_digits, ht.2]

theorem scanDigits_digits (n : Nat) {t : Text} (h : Stops t) :
    scanDigits (digits n ++ t) = .ok (digits n, t) := by
  obtain ⟨ht, hd⟩ := takeWhile_digits (n := n) h
  obtain ⟨c, ds, hc, -⟩ := exists_digits n
  unfold scanDigits
  rw [ht, hd, hc]

theorem scanWhole_digits (n : Nat) {t : Text} (h : Stops t) :
    scanWhole (digits n ++ t) = .ok (digits n, t) := by
  unfold scanWhole
  split
  · rename_i c rest hc
    have hn : n = 0 := by
      refine Nat.eq_zero_of_not_pos fun hn => ?_
      obtain ⟨d, ds, hd, -⟩ := exists_digits n
      refine head?_digits_ne_zero hn ?_
      rw [hd, List.cons_append] at hc
      rw [hd, (List.cons.inj hc).1]
      rfl
    subst hn
    obtain rfl : t = c :: rest := (List.cons.inj hc).2
    rw [if_neg (by simp [h.not_isDigit c rfl])]
    rfl
  · exact scanDigits_digits n h

theorem scanFraction_of_stops {t : Text} (h : Stops t) : scanFraction t = .ok (none, t) := by
  unfold scanFraction
  split
  · rename_i rest
    exact absurd (h '.' rfl) (by decide)
  · rfl

theorem scanExponent_of_stops {t : Text} (h : Stops t) : scanExponent t = .ok (none, t) := by
  cases t with
  | nil => rfl
  | cons c t =>
      have hc : ¬(c = 'e' ∨ c = 'E') := by
        rcases h c rfl with rfl | rfl <;> decide
      simp only [scanExponent, if_neg hc]

/-- An integer as it is written. -/
def integerLiteral (value : Int) : Literal :=
  ⟨value < 0, digits value.natAbs, none, none⟩

theorem toList_toString (value : Int) :
    (toString value).toList = (if value < 0 then ['-'] else []) ++ digits value.natAbs := by
  rw [Int.toString_eq_repr, Int.repr_eq_if]
  by_cases h : 0 ≤ value
  · have hn : value.toNat = value.natAbs := by omega
    rw [if_pos h, if_neg (by omega), Nat.toList_repr, hn, digits, List.nil_append]
  · have hn : (-value).toNat = value.natAbs := by omega
    rw [if_neg h, if_pos (by omega), String.toList_append, Nat.toList_repr, hn, digits]
    rfl

/-- What a printed number begins with. -/
def LeadsNumber (c : Char) : Prop :=
  c = '-' ∨ c.isDigit = true

instance (c : Char) : Decidable (LeadsNumber c) :=
  inferInstanceAs (Decidable (c = '-' ∨ c.isDigit = true))

theorem exists_toString (value : Int) :
    ∃ c rest, (toString value).toList = c :: rest ∧ LeadsNumber c := by
  rw [toList_toString]
  by_cases h : value < 0
  · exact ⟨'-', digits value.natAbs, by simp [h], .inl rfl⟩
  · obtain ⟨d, ds, hd, hdigit⟩ := exists_digits value.natAbs
    exact ⟨d, ds, by simp [h, hd], .inr hdigit⟩

theorem scanNumber_toString (value : Int) {t : Text} (h : Stops t) :
    scanNumber ((toString value).toList ++ t) = .ok (integerLiteral value, t) := by
  have hw := scanWhole_digits value.natAbs h
  rw [toList_toString, integerLiteral]
  by_cases hv : value < 0
  · simp only [scanNumber, if_pos hv, List.cons_append, List.nil_append, bind, Except.bind, hw,
      scanFraction_of_stops h, scanExponent_of_stops h, decide_eq_true hv]
    rfl
  · obtain ⟨d, ds, hd, hdigit⟩ := exists_digits value.natAbs
    have hm : d ≠ '-' := by
      rintro rfl
      exact absurd hdigit (by decide)
    rw [hd, List.cons_append] at hw
    simp only [scanNumber, if_neg hv, List.nil_append, hd, List.cons_append, decide_eq_false hv]
    split
    · rename_i heq
      exact absurd (List.cons.inj heq).1 hm
    · simp only [bind, Except.bind, hw, scanFraction_of_stops h, scanExponent_of_stops h]
      rfl

/-- The integers that fit into sixty-four bits, with or without a sign. -/
def Fits (value : Int) : Prop :=
  -2 ^ 63 ≤ value ∧ value < 2 ^ 64

theorem toInt?_integerLiteral {value : Int} (h : Fits value) :
    (integerLiteral value).toInt? = some value := by
  obtain ⟨hl, hu⟩ := h
  simp only [Literal.toInt?, integerLiteral, digitsValue_digits, Option.isSome_none, Bool.or_self,
    Bool.false_eq_true, if_false, decide_eq_true_eq]
  by_cases hv : value < 0
  · have hn : 0 < value.natAbs ∧ value.natAbs ≤ 2 ^ 63 := by omega
    have he : (-(value.natAbs : Int)) = value := by omega
    rw [if_pos hv, if_pos hn, he]
  · have hn : value.natAbs < 2 ^ 64 := by omega
    have he : (value.natAbs : Int) = value := by omega
    rw [if_neg hv, if_pos hn, he]

theorem toJson_integerLiteral {value : Int} (h : Fits value) :
    (integerLiteral value).toJson = .ok (.int value) := by
  simp only [Literal.toJson, toInt?_integerLiteral h]

/-- An integer is read as it is written, up to where its digits end. -/
theorem read_toString (value : Int) {t : Text} (h : Stops t) :
    readNumber ((toString value).toList ++ t) = (integerLiteral value).toJson ∧
      skipNumber ((toString value).toList ++ t) = .ok t := by
  have hs := scanNumber_toString value h
  constructor
  · simp only [readNumber, hs]
  · simp only [skipNumber, hs]

end Weave.Json
