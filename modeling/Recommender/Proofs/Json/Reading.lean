import Mathlib.Data.List.TakeWhile
import Recommender.Json.Parser

/-! Reading JSON from the front of a text. What a reader leaves is an end of the text, and it stops
at an integer only where the text holds as many digits in a row, and too many of them.
-/

namespace Recommender.Json

/-- A text that holds so many ASCII digits in a row. -/
def HoldsDigits (t : Text) (count : Nat) : Prop :=
  ∃ row, row <:+: t ∧ row.length = count ∧ ∀ c ∈ row, c.asciiDigit?.isSome = true

theorem HoldsDigits.mono {part whole : Text} {count : Nat} (held : HoldsDigits part count)
    (inside : part <:+: whole)
    : HoldsDigits whole count := by
  obtain ⟨row, found, length, digits⟩ := held
  exact ⟨row, found.trans inside, length, digits⟩

/-- What reading the front of a text can come to, as far as what is left and the digits of integers
are concerned.
-/
def ReadsFrom {α : Type} (t : Text) : Except Stop (α × Text) → Prop
  | .ok (_, rest) => rest <:+ t
  | .error (.tooManyDigits count) => maxIntegerDigits < count ∧ HoldsDigits t count
  | .error (.fault _ _) => True
  | .error (.constant _) => True

section ReadsFrom

variable {α β : Type} {t : Text}

theorem ReadsFrom.mono {outcome : Except Stop (α × Text)} {part : Text}
    (reads : ReadsFrom part outcome) (ends : part <:+ t)
    : ReadsFrom t outcome := by
  cases outcome with
  | ok found => exact List.IsSuffix.trans reads ends
  | error stop =>
      cases stop with
      | tooManyDigits count => exact ⟨reads.1, reads.2.mono ends.isInfix⟩
      | fault => trivial
      | constant => trivial

/-- Reading goes on where the last reader stopped. -/
theorem ReadsFrom.bind {first : Except Stop (α × Text)} {next : α × Text → Except Stop (β × Text)}
    (reads : ReadsFrom t first) (more : ∀ a rest, ReadsFrom rest (next (a, rest)))
    : ReadsFrom t (first >>= next) := by
  cases first with
  | ok found =>
      obtain ⟨a, rest⟩ := found
      exact (more a rest).mono reads
  | error stop =>
      cases stop with
      | tooManyDigits count => exact reads
      | fault => trivial
      | constant => trivial

theorem readsFrom_ok (a : α) (rest : Text) : ReadsFrom rest (.ok (a, rest)) :=
  List.suffix_rfl

end ReadsFrom

theorem skipSpace_suffix (t : Text) : skipSpace t <:+ t :=
  List.dropWhile_suffix _

-----------------------------------------------------------------------------------------
-- Strings
-----------------------------------------------------------------------------------------

/-- An escape is broken or denotes a code point; it is no integer. -/
theorem unicodeEscape_error {t : Text} {stop : Stop} (stopped : unicodeEscape t = .error stop)
    : ∃ left, stop = .fault .brokenEscape left := by
  rw [unicodeEscape] at stopped
  split at stopped <;> cases stopped
  exact ⟨t, rfl⟩

theorem unicodeEscapes_error {rules : Rules} {t : Text} {stop : Stop}
    (stopped : unicodeEscapes rules t = .error stop)
    : ∃ left, stop = .fault .brokenEscape left := by
  rw [unicodeEscapes] at stopped
  cases first : unicodeEscape t with
  | error stop' =>
      rw [first] at stopped
      cases stopped
      exact unicodeEscape_error first
  | ok found =>
      obtain ⟨value, rest⟩ := found
      rw [first] at stopped
      simp only [Bind.bind, Except.bind] at stopped
      split at stopped
      · split at stopped
        · split at stopped
          · next broken =>
              cases stopped
              exact unicodeEscape_error broken
          · split at stopped
            · cases stopped
            · split at stopped <;> cases stopped
              exact ⟨t, rfl⟩
        · split at stopped <;> cases stopped
          exact ⟨t, rfl⟩
      · split at stopped <;> cases stopped
        exact ⟨t, rfl⟩

/-- A string is read from the front, by the recursion of the reader. -/
theorem readsFrom_string (rules : Rules) (opening t : Text)
    : ReadsFrom t (string rules opening t) := by
  fun_induction string rules opening t with
  | case1 | case3 | case6 | case7 => trivial
  | case2 rest => exact List.suffix_cons _ rest
  | case4 more _ ih =>
      cases escape : unicodeEscapes rules (unicodeLetter :: more) with
      | error stop =>
          obtain ⟨left, rfl⟩ := unicodeEscapes_error escape
          trivial
      | ok found =>
          obtain ⟨denoted, count⟩ := found
          refine ReadsFrom.mono (.bind (ih count) fun _ rest => readsFrom_ok _ rest) ?_
          exact (List.drop_suffix count _).trans (List.suffix_cons _ _)
  | case5 letter more _ denoted _ _ ih =>
      refine ReadsFrom.mono (.bind ih fun _ rest => readsFrom_ok _ rest) ?_
      exact (List.suffix_cons letter more).trans (List.suffix_cons _ _)
  | case8 c rest _ _ _ ih =>
      exact ReadsFrom.mono (.bind ih fun _ rest => readsFrom_ok _ rest) (List.suffix_cons c rest)

-----------------------------------------------------------------------------------------
-- Numbers and words
-----------------------------------------------------------------------------------------

theorem digits_suffix (t : Text) : (digits t).2 <:+ t :=
  List.dropWhile_suffix _

/-- As many digits are read as stand in a row at the beginning. -/
theorem holdsDigits_digits (t : Text) : HoldsDigits t (digits t).1.length := by
  have row : ∀ c ∈ t.takeWhile fun c => c.asciiDigit?.isSome, c.asciiDigit?.isSome = true :=
    fun c member => List.mem_takeWhile_imp (p := fun c : CodePoint => c.asciiDigit?.isSome) member
  refine ⟨_, (List.takeWhile_prefix _).isInfix, ?_, row⟩
  exact (List.length_filterMap_eq_countP.trans (List.countP_eq_length.mpr row)).symm

theorem wholeDigits_suffix (t : Text) : (wholeDigits t).2 <:+ t := by
  rw [wholeDigits]
  split
  · exact List.drop_suffix 1 t
  · exact digits_suffix t

/-- Only a row of digits is a number of many digits: a number that begins with a zero has one. -/
theorem holdsDigits_wholeDigits {t : Text} (many : 1 < (wholeDigits t).1.length)
    : HoldsDigits t (wholeDigits t).1.length := by
  rw [wholeDigits] at many ⊢
  split at many
  · exact absurd many (Nat.lt_irrefl 1)
  · next other => exact holdsDigits_digits t

theorem fraction_suffix (t : Text) : (fraction t).2 <:+ t := by
  fun_cases fraction t with
  | case1 | case3 => exact List.suffix_rfl
  | case2 unread found rest _ read =>
      have ends := digits_suffix unread
      rw [read] at ends
      exact ends.trans (List.suffix_cons _ _)

theorem exponent_suffix (t : Text) : (exponent t).2 <:+ t := by
  fun_cases exponent t with
  | case1 | case3 | case4 => exact List.suffix_rfl
  | case2 letter signed _ negative unsigned sign found rest _ read =>
      have unsignedEnds : unsigned <:+ signed := by
        split at sign <;> cases sign
        · exact List.suffix_cons _ _
        · exact List.suffix_cons _ _
        · exact List.suffix_rfl
      have ends := digits_suffix unsigned
      rw [read] at ends
      exact (ends.trans unsignedEnds).trans (List.suffix_cons _ _)

/-- A number is read from the front, and its digits before the point stand in a row. -/
theorem number?_sound {t rest : Text} {number : WrittenNumber}
    (read : number? t = some (number, rest))
    : rest <:+ t ∧ (1 < number.whole.length → HoldsDigits t number.whole.length) := by
  revert read
  fun_cases number? t with
  | case1 => rintro ⟨⟩
  | case2 negative unsigned sign whole left _ wholeRead _ left' fractionRead _ _ powerRead =>
      rintro ⟨⟩
      have unsignedEnds : unsigned <:+ t := by
        split at sign <;> cases sign
        · exact List.suffix_cons _ _
        · exact List.suffix_rfl
      have wholeEnds := wholeDigits_suffix unsigned
      have row := @holdsDigits_wholeDigits unsigned
      have fractionEnds := fraction_suffix left
      have powerEnds := exponent_suffix left'
      rw [wholeRead] at wholeEnds row
      rw [fractionRead] at fractionEnds
      rw [powerRead] at powerEnds
      refine ⟨(powerEnds.trans fractionEnds).trans (wholeEnds.trans unsignedEnds), fun many => ?_⟩
      exact (row many).mono unsignedEnds.isInfix

theorem readsFrom_scalar (rules : Rules) (t : Text) : ReadsFrom t (scalar rules t) := by
  rw [scalar]
  split
  · exact List.drop_suffix _ t
  · split
    · exact List.drop_suffix _ t
    · trivial
  · split
    · trivial
    · next number rest read =>
        obtain ⟨ends, row⟩ := number?_sound read
        split
        · exact ends
        · split
          · exact ends
          · next many =>
              have tooMany : maxIntegerDigits < number.whole.length := Nat.lt_of_not_le many
              exact ⟨tooMany, row (Nat.lt_trans (by decide) tooMany)⟩

-----------------------------------------------------------------------------------------
-- Values
-----------------------------------------------------------------------------------------

section OneDeeper

variable {rules : Rules} {depth : Nat}

theorem readsFrom_value (readsItems : ∀ t, ReadsFrom t (items rules depth t))
    (readsMembers : ∀ t, ReadsFrom t (members rules depth t)) (t : Text)
    : ReadsFrom t (value rules (depth + 1) t) := by
  rw [value.eq_def]
  dsimp only
  split
  · next rest =>
      exact ReadsFrom.mono (.bind (readsFrom_string rules _ rest) fun _ left => readsFrom_ok _ left)
        (List.suffix_cons _ rest)
  · next rest =>
      have inside := (skipSpace_suffix rest).trans (List.suffix_cons CodePoint.openBracket rest)
      split
      · next left closed =>
          rw [closed] at inside
          exact (List.suffix_cons _ left).trans inside
      · exact ReadsFrom.mono (.bind (readsItems _) fun _ left => readsFrom_ok _ left) inside
  · next rest =>
      have inside := (skipSpace_suffix rest).trans (List.suffix_cons CodePoint.openBrace rest)
      split
      · next left closed =>
          rw [closed] at inside
          exact (List.suffix_cons _ left).trans inside
      · exact ReadsFrom.mono (.bind (readsMembers _) fun _ left => readsFrom_ok _ left) inside
  · exact readsFrom_scalar rules t

theorem readsFrom_items (readsValue : ∀ t, ReadsFrom t (value rules depth t))
    (readsItems : ∀ t, ReadsFrom t (items rules depth t)) (t : Text)
    : ReadsFrom t (items rules (depth + 1) t) := by
  rw [items]
  refine (readsValue t).bind fun item rest => ?_
  have ends := skipSpace_suffix rest
  dsimp only
  split
  · next left closed =>
      rw [closed] at ends
      exact (List.suffix_cons _ left).trans ends
  · next left comma =>
      rw [comma] at ends
      exact ReadsFrom.mono (.bind (readsItems _) fun _ left => readsFrom_ok _ left)
        ((skipSpace_suffix left).trans ((List.suffix_cons _ left).trans ends))
  · trivial

theorem readsFrom_members (readsValue : ∀ t, ReadsFrom t (value rules depth t))
    (readsMembers : ∀ t, ReadsFrom t (members rules depth t)) (t : Text)
    : ReadsFrom t (members rules (depth + 1) t) := by
  rw [members.eq_def]
  dsimp only
  split
  · next rest =>
      refine ReadsFrom.mono (.bind (readsFrom_string rules _ rest) fun name rest => ?_)
        (List.suffix_cons _ _)
      have ends := skipSpace_suffix rest
      dsimp only
      split
      · next left colon =>
          rw [colon] at ends
          refine ReadsFrom.mono (.bind (readsValue (skipSpace left)) fun member rest => ?_)
            ((skipSpace_suffix left).trans ((List.suffix_cons _ left).trans ends))
          have ends := skipSpace_suffix rest
          dsimp only
          split
          · next left closed =>
              rw [closed] at ends
              exact (List.suffix_cons _ left).trans ends
          · next left comma =>
              rw [comma] at ends
              exact ReadsFrom.mono (.bind (readsMembers _) fun _ left => readsFrom_ok _ left)
                ((skipSpace_suffix left).trans ((List.suffix_cons _ left).trans ends))
          · trivial
      · trivial
  · trivial

end OneDeeper

/-- Values, items and members are read from the front, by induction on the depth. -/
theorem readsFrom_depth (rules : Rules) (depth : Nat)
    : (∀ t, ReadsFrom t (value rules depth t))
      ∧ (∀ t, ReadsFrom t (items rules depth t))
      ∧ ∀ t, ReadsFrom t (members rules depth t) := by
  induction depth with
  | zero =>
      refine ⟨fun t => ?_, fun t => ?_, fun t => ?_⟩
      · rw [value]
        trivial
      · rw [items]
        trivial
      · rw [members]
        trivial
  | succ depth ih =>
      obtain ⟨readsValue, readsItems, readsMembers⟩ := ih
      exact ⟨readsFrom_value readsItems readsMembers, readsFrom_items readsValue readsItems,
        readsFrom_members readsValue readsMembers⟩

/-- A text whose reading stops at an integer holds its digits in a row, and too many of them. -/
theorem holdsDigits_of_parse {rules : Rules} {t : Text} {count : Nat}
    (stopped : parse rules t = .error (.tooManyDigits count))
    : maxIntegerDigits < count ∧ HoldsDigits t count := by
  rw [parse.eq_def] at stopped
  split at stopped
  · cases stopped
  · rw [whole] at stopped
    have reads := ((readsFrom_depth rules (2 * t.length + 1)).1 (skipSpace t)).mono
      (skipSpace_suffix t)
    cases read : value rules (2 * t.length + 1) (skipSpace t) with
    | error stop =>
        rw [read] at stopped reads
        cases stopped
        exact reads
    | ok found =>
        rw [read] at stopped
        simp only [Bind.bind, Except.bind] at stopped
        split at stopped <;> cases stopped

end Recommender.Json
