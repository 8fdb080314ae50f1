import Recommender.Text.Utf8

/-! Decoding what was encoded. The bytes of a code point are taken for that code point, whatever
stands behind them, so the bytes of a text are decoded to the text.
-/

namespace Recommender.Utf8

-----------------------------------------------------------------------------------------
-- Sequences of bytes
-----------------------------------------------------------------------------------------

variable {a b c d : UInt8} (position : Nat) (rest : List UInt8)

theorem decodeFrom_one (lead : a.toNat < 0x80)
    : decodeFrom position (a :: rest)
      = (Fin.ofNat _ a.toNat :: ·) <$> decodeFrom (position + 1) rest := by
  rw [decodeFrom.eq_def]
  dsimp only
  rw [if_pos lead]

theorem decodeFrom_two (lead : 0xC2 ≤ a.toNat ∧ a.toNat < 0xE0) (second : isContinuation b = true)
    : decodeFrom position (a :: b :: rest)
      = (Fin.ofNat _ (a.toNat % 0x20 * 0x40 + payload b) :: ·)
          <$> decodeFrom (position + 2) rest := by
  have long : ¬ a.toNat < 0x80 := by omega
  rw [decodeFrom.eq_def]
  dsimp only
  rw [if_neg long, if_pos (by simpa using lead)]
  simp only [if_pos second]

theorem decodeFrom_three (lead : 0xE0 ≤ a.toNat ∧ a.toNat < 0xF0) (second : mayFollow a b = true)
    (third : isContinuation c = true)
    : decodeFrom position (a :: b :: c :: rest)
      = (Fin.ofNat _ (a.toNat % 0x10 * 0x1000 + payload b * 0x40 + payload c) :: ·)
          <$> decodeFrom (position + 3) rest := by
  have long : ¬ a.toNat < 0x80 := by omega
  have longer : ¬ (0xC2 ≤ a.toNat ∧ a.toNat < 0xE0) := by omega
  rw [decodeFrom.eq_def]
  dsimp only
  rw [if_neg long, if_neg (by simpa using longer), if_pos (by simpa using lead)]
  simp only [if_pos second, if_pos third]

theorem decodeFrom_four (lead : 0xF0 ≤ a.toNat ∧ a.toNat < 0xF5) (second : mayFollow a b = true)
    (third : isContinuation c = true) (fourth : isContinuation d = true)
    : decodeFrom position (a :: b :: c :: d :: rest)
      = (Fin.ofNat _ (a.toNat % 0x08 * 0x40000 + payload b * 0x1000 + payload c * 0x40
            + payload d) :: ·)
          <$> decodeFrom (position + 4) rest := by
  have long : ¬ a.toNat < 0x80 := by omega
  have longer : ¬ (0xC2 ≤ a.toNat ∧ a.toNat < 0xE0) := by omega
  have longest : ¬ (0xE0 ≤ a.toNat ∧ a.toNat < 0xF0) := by omega
  rw [decodeFrom.eq_def]
  dsimp only
  rw [if_neg long, if_neg (by simpa using longer), if_neg (by simpa using longest),
    if_pos (by simpa using lead)]
  simp only [if_pos second, if_pos third, if_pos fourth]

-----------------------------------------------------------------------------------------
-- Code points
-----------------------------------------------------------------------------------------

/-- A byte that carries six bits. -/
def continuation (n : Nat) : UInt8 :=
  UInt8.ofNat (0x80 + n % 2 ^ 6)

theorem toNat_continuation (n : Nat) : (continuation n).toNat = 0x80 + n % 2 ^ 6 :=
  UInt8.toNat_ofNat_of_lt' (by simp only [UInt8.size]; omega)

theorem isContinuation_continuation (n : Nat) : isContinuation (continuation n) = true := by
  simp only [isContinuation, toNat_continuation, Bool.and_eq_true, decide_eq_true_eq]
  omega

theorem payload_continuation (n : Nat) : payload (continuation n) = n % 2 ^ 6 := by
  rw [payload, toNat_continuation]
  omega

theorem ofNat_val {n : Nat} {c : CodePoint} (same : n = c.val) : Fin.ofNat 0x110000 n = c := by
  rw [same, Fin.ofNat_val_eq_self]

/-- The second byte of three keeps away from overlong forms and from surrogates. -/
theorem mayFollow_three {c : CodePoint} {lead : UInt8}
    (first : lead.toNat = 0xE0 + c.val / 2 ^ 12 % 2 ^ 4) (wide : 0x800 ≤ c.val)
    (basic : c.val < 0x10000) (encodable : c.isSurrogate = false)
    : mayFollow lead (continuation (c.val / 2 ^ 6)) = true := by
  simp only [CodePoint.isSurrogate, Bool.and_eq_false_iff, decide_eq_false_iff_not] at encodable
  simp only [mayFollow, isContinuation_continuation, first, toNat_continuation, Bool.true_and,
    Bool.and_eq_true, Bool.or_eq_true, bne_iff_ne, decide_eq_true_eq]
  omega

/-- The second byte of four keeps away from overlong forms and from what lies beyond the last code
point.
-/
theorem mayFollow_four {c : CodePoint} {lead : UInt8}
    (first : lead.toNat = 0xF0 + c.val / 2 ^ 18 % 2 ^ 3) (wide : 0x10000 ≤ c.val)
    : mayFollow lead (continuation (c.val / 2 ^ 12)) = true := by
  have bound := c.isLt
  simp only [mayFollow, isContinuation_continuation, first, toNat_continuation, Bool.true_and,
    Bool.and_eq_true, Bool.or_eq_true, bne_iff_ne, decide_eq_true_eq]
  omega

/-- The bytes of a code point are decoded to it, whatever stands behind them. -/
theorem decodeFrom_encodeOne {c : CodePoint} (encodable : c.isSurrogate = false)
    : decodeFrom position (encodeOne c ++ rest)
      = (c :: ·) <$> decodeFrom (position + (encodeOne c).length) rest := by
  have bound := c.isLt
  by_cases one : c.val < 0x80
  · have form : encodeOne c = [UInt8.ofNat c.val] := by simp [encodeOne, one]
    have byte : (UInt8.ofNat c.val).toNat = c.val :=
      UInt8.toNat_ofNat_of_lt' (by simp only [UInt8.size]; omega)
    rw [form, List.singleton_append, decodeFrom_one _ _ (by omega), ofNat_val byte]
    rfl
  by_cases two : c.val < 0x800
  · have form : encodeOne c
        = [UInt8.ofNat (0xC0 + c.val / 2 ^ 6 % 2 ^ 5), continuation c.val] := by
      simp [encodeOne, one, two, continuation]
    have lead : (UInt8.ofNat (0xC0 + c.val / 2 ^ 6 % 2 ^ 5)).toNat
        = 0xC0 + c.val / 2 ^ 6 % 2 ^ 5 :=
      UInt8.toNat_ofNat_of_lt' (by simp only [UInt8.size]; omega)
    rw [form, List.cons_append, List.singleton_append,
      decodeFrom_two _ _ (by rw [lead]; omega) (isContinuation_continuation _),
      ofNat_val (c := c) (by rw [lead, payload_continuation]; omega)]
    rfl
  by_cases three : c.val < 0x10000
  · have form : encodeOne c
        = [UInt8.ofNat (0xE0 + c.val / 2 ^ 12 % 2 ^ 4), continuation (c.val / 2 ^ 6),
            continuation c.val] := by
      simp [encodeOne, one, two, three, continuation]
    have lead : (UInt8.ofNat (0xE0 + c.val / 2 ^ 12 % 2 ^ 4)).toNat
        = 0xE0 + c.val / 2 ^ 12 % 2 ^ 4 :=
      UInt8.toNat_ofNat_of_lt' (by simp only [UInt8.size]; omega)
    have second := mayFollow_three lead (by omega) three encodable
    rw [form, List.cons_append, List.cons_append, List.singleton_append,
      decodeFrom_three _ _ (by rw [lead]; omega) second (isContinuation_continuation _),
      ofNat_val (c := c) (by rw [lead, payload_continuation, payload_continuation]; omega)]
    rfl
  · have form : encodeOne c
        = [UInt8.ofNat (0xF0 + c.val / 2 ^ 18 % 2 ^ 3), continuation (c.val / 2 ^ 12),
            continuation (c.val / 2 ^ 6), continuation c.val] := by
      simp [encodeOne, one, two, three, continuation]
    have lead : (UInt8.ofNat (0xF0 + c.val / 2 ^ 18 % 2 ^ 3)).toNat
        = 0xF0 + c.val / 2 ^ 18 % 2 ^ 3 :=
      UInt8.toNat_ofNat_of_lt' (by simp only [UInt8.size]; omega)
    have second := mayFollow_four lead (by omega)
    rw [form, List.cons_append, List.cons_append, List.cons_append, List.singleton_append,
      decodeFrom_four _ _ (by rw [lead]; omega) second (isContinuation_continuation _)
        (isContinuation_continuation _),
      ofNat_val (c := c) (by
        rw [lead, payload_continuation, payload_continuation, payload_continuation]; omega)]
    rfl

-----------------------------------------------------------------------------------------
-- Texts
-----------------------------------------------------------------------------------------

theorem isSurrogate_of_firstSurrogates {t : Text} (encodable : firstSurrogates position t = none)
    : ∀ c ∈ t, c.isSurrogate = false := by
  induction t generalizing position with
  | nil => simp
  | cons c others ih =>
      rw [firstSurrogates] at encodable
      split at encodable
      · cases encodable
      · next basic =>
          intro d member
          rcases List.mem_cons.mp member with rfl | later
          · simpa using basic
          · exact ih _ encodable d later

/-- The bytes of a text are decoded to the text, by list induction. -/
theorem decode_encode {t : Text} {bytes : List UInt8} (encoded : encode t = .ok bytes)
    : decode bytes = .ok t := by
  have decoded (t : Text) (encodable : ∀ c ∈ t, c.isSurrogate = false) (position : Nat)
      : decodeFrom position (t.flatMap encodeOne) = .ok t := by
    induction t generalizing position with
    | nil => rfl
    | cons c others ih =>
        rw [List.flatMap_cons, decodeFrom_encodeOne _ _ (encodable c List.mem_cons_self),
          ih (fun d member => encodable d (List.mem_cons_of_mem _ member))]
        rfl
  unfold encode at encoded
  split at encoded
  · cases encoded
  · next encodable =>
      cases encoded
      exact decoded t (isSurrogate_of_firstSurrogates _ encodable) 0

end Recommender.Utf8
