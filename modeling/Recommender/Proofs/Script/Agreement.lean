import Recommender.Proofs.Script.Grammar
import Recommender.Proofs.Script.Places
import Recommender.Proofs.Script.Quotes

/-! Literals of accepted scripts. A statement that is accepted has no quote and no slash outside of
its value, and a value that is a literal is closed on its line. So the two scanners cannot disagree
on an accepted script: each of them finds the literals at the values of the statements.
-/

namespace Recommender.Script

-----------------------------------------------------------------------------------------
-- Values that are literals
-----------------------------------------------------------------------------------------

/-- The value of a statement that begins at a place, with its own place, if it is a literal. -/
def valueLiteral? (begun : Nat × Text) : Option (Nat × Text) :=
  match sides? begun.2 with
  | none => none
  | some (_, right) =>
    if (literalBodyOf? right.trim).isSome then
      some (begun.1 + (begun.2.length - right.trim.length), right.trim)
    else none

theorem unmarked_of_bare {t : Text} (bare : Text.Bare t) : Unmarked t := by
  intro c member
  have inside := bare c member
  exact ⟨isQuote_of_isBare inside, CodePoint.ne_of_isBare inside (by decide)⟩

theorem unmarked_of_blank {t : Text} (blank : ∀ c ∈ t, c.isBlank = true) : Unmarked t := by
  refine fun c member => ⟨isQuote_of_isBlank (blank c member), ?_⟩
  rintro rfl
  exact absurd (blank _ member) (by decide)

/-- The value of an accepted statement stands at its end, and no marks stand before it. -/
theorem value_of_pairOf? {root : Path} {statement : Text} {pair : Path × Value}
    (trimmed : Text.Trimmed statement) (accepted : pairOf? root.text statement = some pair)
    : ∃ left right front : Text,
        sides? statement = some (left, right)
        ∧ statement = front ++ right.trim
        ∧ Unmarked front
        ∧ trimmedValue right.trim = .ok pair.2 := by
  obtain ⟨left, right, form, isTarget, read⟩ := pairOf?_sound accepted
  obtain ⟨before, after, leftForm, rightForm, blankBefore, blankAfter⟩ :=
    sides_of_trimmed trimmed form
  have leftForm : left = target root pair.1 ++ before := by rwa [isTarget] at leftForm
  refine ⟨left, right, left ++ CodePoint.equals :: after, ?_, ?_, ?_, read⟩
  · have sides := sides?_of_assigns root pair.1 blankBefore after right.trim
    rwa [← target, ← leftForm, ofString_equals, List.append_assoc, List.append_assoc,
      ← rightForm, List.singleton_append, ← form] at sides
  · rw [List.append_assoc, List.cons_append, ← rightForm]
    exact form
  · have equals : Unmarked [CodePoint.equals] := by
      intro c member
      obtain rfl := List.mem_singleton.mp member
      decide
    have bare := unmarked_of_bare (bare_target root pair.1)
    have front := bare.append (unmarked_of_blank blankBefore)
    have whole := (front.append equals).append (unmarked_of_blank blankAfter)
    rwa [← leftForm, List.append_assoc] at whole

/-- The only literal of an accepted statement is its value. -/
theorem closes_of_pairOf? {root : Path} {statement : Text} {pair : Path × Value}
    (trimmed : Text.Trimmed statement) (accepted : pairOf? root.text statement = some pair)
    (single : Text.OnOneLine statement) (n : Nat)
    : Closes n statement (valueLiteral? (n, statement)).toList := by
  obtain ⟨left, right, front, sides, form, unmarked, read⟩ := value_of_pairOf? trimmed accepted
  have place : statement.length - right.trim.length = front.length := by
    rw [form, List.length_append, Nat.add_sub_cancel]
  simp only [valueLiteral?, sides, place]
  rcases trimmedValue_forms read with ⟨_, bare⟩ | ⟨quote, body, opens, isLiteral, literal⟩
  · rw [literalBodyOf?_bare bare, form]
    exact (unmarked.append (unmarked_of_bare bare)).closes n
  · have inner : Text.OnOneLine right.trim := by
      intro c member
      refine single c ?_
      rw [form]
      exact List.mem_append_right _ member
    have literal := literal inner
    have found := literalBodyOf?_eq_some.mpr ⟨quote, opens, literal.enclosed, isLiteral⟩
    rw [found, Option.isSome_some, if_pos rfl, form, isLiteral]
    exact (unmarked.closes n).append (.literal opens literal .nil)

/-- A statement with blanks around it is found at its place. -/
theorem statement?_zipIdx {before statement after : Text} (trimmed : Text.Trimmed statement)
    (nonempty : statement ≠ []) (blankBefore : ∀ c ∈ before, c.isBlank = true)
    (blankAfter : ∀ c ∈ after, c.isBlank = true) (n : Nat)
    : statement? ((before ++ statement ++ after).zipIdx n)
      = some (n + before.length, statement) := by
  obtain ⟨c, rest, rfl⟩ := List.exists_cons_of_ne_nil nonempty
  have visible : c.isBlank = false := trimmed.begins c rfl
  have blank : ∀ place ∈ before.zipIdx n, place.1.isBlank = true :=
    fun place member => blankBefore _ (List.fst_mem_of_mem_zipIdx member)
  have dropped : ((before ++ (c :: rest) ++ after).zipIdx n).dropWhile (·.1.isBlank)
      = (c, n + before.length) :: (rest ++ after).zipIdx (n + before.length + 1) := by
    rw [List.append_assoc, List.zipIdx_append, List.dropWhile_append_of_pos blank,
      List.cons_append, List.zipIdx_cons, List.dropWhile_cons_of_neg (by simp [visible])]
  have text := map_snd_statement? ((before ++ (c :: rest) ++ after).zipIdx n)
  rw [List.zipIdx_map_fst, trimmed.trim_blanks nonempty before after blankBefore blankAfter,
    Option.guard, if_pos (by simp), Option.map_eq_some_iff] at text
  obtain ⟨begun, found, same⟩ := text
  rw [found]
  rw [statement?, dropped] at found
  obtain rfl := Option.some.inj found
  exact congrArg some (Prod.ext rfl same)

/-- A piece of a line whose statement is accepted, if it has one. -/
def Accepted (root piece : Text) : Prop :=
  piece.trim ≠ [] → ∃ pair, pairOf? root piece.trim = some pair

/-- The only literal of an accepted piece is the value of its statement. -/
theorem closes_of_accepted {root : Path} {piece : Text} (single : Text.OnOneLine piece)
    (accepted : Accepted root.text piece) (n : Nat)
    : Closes n piece ((statement? (piece.zipIdx n)).bind valueLiteral?).toList := by
  obtain ⟨before, after, form, blankBefore, blankAfter⟩ := Text.trim_cut piece
  by_cases empty : piece.trim = []
  · have none := map_snd_statement? (piece.zipIdx n)
    rw [List.zipIdx_map_fst, empty, Option.guard, if_neg (by simp), Option.map_eq_none_iff] at none
    rw [none, form, empty, List.append_nil]
    exact ((unmarked_of_blank blankBefore).append (unmarked_of_blank blankAfter)).closes n
  · obtain ⟨pair, made⟩ := accepted empty
    have trimmed := Text.trimmed_trim piece
    have inner : Text.OnOneLine piece.trim := by
      intro c member
      refine single c ?_
      rw [form]
      simp [member]
    have found := statement?_zipIdx trimmed empty blankBefore blankAfter n
    rw [← form] at found
    have closes := closes_of_pairOf? trimmed made inner (n + before.length)
    have front := (unmarked_of_blank blankBefore).closes n
    have whole := (front.append closes).append ((unmarked_of_blank blankAfter).closes _)
    rw [found, Option.bind_some]
    rwa [← form, List.nil_append, List.append_nil] at whole

-----------------------------------------------------------------------------------------
-- Segments
-----------------------------------------------------------------------------------------

/-- A text from a place on and its segments: each of them lies on a line, and between them stand
line ends and semicolons.
-/
inductive Divided : Nat → Text → List (List (CodePoint × Nat)) → Prop where
  | last {n : Nat} {piece : Text} :
      Text.OnOneLine piece → Divided n piece [piece.zipIdx n]
  | cut {n : Nat} {piece rest : Text} {c : CodePoint} {others : List (List (CodePoint × Nat))} :
      Text.OnOneLine piece → c.isLineEnd = true ∨ c = CodePoint.semicolon →
      Divided (n + (piece.length + 1)) rest others →
      Divided n (piece ++ c :: rest) (piece.zipIdx n :: others)

theorem Divided.cons {n : Nat} {t : Text} {segments : List (List (CodePoint × Nat))}
    (divided : Divided (n + 1) t segments) {c : CodePoint} (stays : c.isLineEnd = false)
    : Divided n (c :: t) (segments.modifyHead ((c, n) :: ·)) := by
  have longer {piece : Text} (single : Text.OnOneLine piece) : Text.OnOneLine (c :: piece) :=
    fun d member => (List.mem_cons.mp member).elim (fun same => same ▸ stays) (single d)
  cases divided with
  | last single => exact .last (longer single)
  | @cut _ piece rest d others single divides later =>
      have same : n + 1 + (piece.length + 1) = n + ((c :: piece).length + 1) := by
        rw [List.length_cons]
        omega
      exact .cut (longer single) divides (same ▸ later)

/-- A text is divided into its segments, by list induction. -/
theorem divided_segments (opened : Option LineLiteral) (t : Text) (n : Nat)
    : Divided n t (segments opened (t.zipIdx n)) := by
  induction t generalizing opened n with
  | nil => exact .last Text.onOneLine_nil
  | cons c rest ih =>
      rw [List.zipIdx_cons, segments]
      split
      · next divides =>
          simp only [Bool.or_eq_true, Bool.and_eq_true, decide_eq_true_eq] at divides
          exact .cut Text.onOneLine_nil (divides.imp_right And.right) (ih none (n + 1))
      · next stays =>
          simp only [Bool.or_eq_true, not_or, Bool.not_eq_true] at stays
          exact (ih _ (n + 1)).cons stays.1

/-- Each segment of a text stands on a line and at its places, division by division. -/
theorem Divided.segment_eq {n : Nat} {t : Text} {segments : List (List (CodePoint × Nat))}
    (divided : Divided n t segments) {segment : List (CodePoint × Nat)}
    (member : segment ∈ segments)
    : ∃ front piece back : Text,
        t = front ++ piece ++ back
        ∧ segment = piece.zipIdx (n + front.length)
        ∧ Text.OnOneLine piece := by
  induction divided with
  | @last n piece single =>
      obtain rfl := List.mem_singleton.mp member
      exact ⟨[], piece, [], by simp, rfl, single⟩
  | @cut n piece rest c others single _ _ ih =>
      rcases List.mem_cons.mp member with rfl | later
      · exact ⟨[], piece, c :: rest, by simp, rfl, single⟩
      · obtain ⟨front, inner, back, rfl, rfl, innerSingle⟩ := ih later
        refine ⟨piece ++ c :: front, inner, back, by simp, ?_, innerSingle⟩
        congr 1
        simp only [List.length_append, List.length_cons]
        omega

/-- A text whose segments are accepted closes its literals, division by division. -/
theorem Divided.closes {root : Path} {n : Nat} {t : Text}
    {segments : List (List (CodePoint × Nat))} (divided : Divided n t segments)
    (accepted : ∀ segment ∈ segments, Accepted root.text (segment.map Prod.fst))
    : Closes n t ((segments.filterMap statement?).filterMap valueLiteral?) := by
  rw [List.filterMap_filterMap, List.filterMap_eq_flatMap_toList]
  induction divided with
  | @last n piece single =>
      have made := accepted _ List.mem_cons_self
      rw [List.zipIdx_map_fst] at made
      rw [List.flatMap_singleton]
      exact closes_of_accepted single made n
  | @cut n piece rest c others single divides _ ih =>
      have made := accepted _ List.mem_cons_self
      rw [List.zipIdx_map_fst] at made
      have plain : isQuote c = false ∧ c ≠ CodePoint.slash := by
        rcases divides with ends | rfl
        · have blank : ∀ d ∈ [c], d.isBlank = true := by
            simpa using CodePoint.isBlank_of_isLineEnd ends
          exact unmarked_of_blank blank c List.mem_cons_self
        · decide
      have later := ih fun segment member => accepted segment (List.mem_cons_of_mem _ member)
      rw [List.flatMap_cons]
      exact (closes_of_accepted single made n).append (.plain plain.1 plain.2 later)

/-- The statements at the places of a text are those of its lines, by list induction. -/
theorem map_snd_segments (rest : List (CodePoint × Nat))
    : ∀ line : List (CodePoint × Nat),
        Text.OnOneLine (line.map Prod.fst)
          → ((segments none (line ++ rest)).filterMap statement?).map Prod.snd
            = (Text.linesBehind (line.map Prod.fst) (rest.map Prod.fst)).flatMap statements := by
  induction rest with
  | nil =>
      intro line single
      rw [List.append_nil, map_snd_statements single, List.map_nil, Text.linesBehind,
        List.flatMap_singleton]
  | cons place rest ih =>
      intro line single
      cases ends : place.1.isLineEnd with
      | true =>
          have later := ih [] Text.onOneLine_nil
          rw [segments_append ends, List.filterMap_append, List.map_append,
            map_snd_statements single, List.map_cons, Text.linesBehind_of_ends ends,
            List.flatMap_cons]
          exact congrArg _ later
      | false =>
          have longer : line ++ place :: rest = (line ++ [place]) ++ rest := by simp
          have single' : Text.OnOneLine ((line ++ [place]).map Prod.fst) := by
            rw [List.map_append]
            exact single.concat ends
          rw [longer, ih _ single', List.map_cons, Text.linesBehind_of_stays ends, List.map_append]
          rfl

/-- What is left of a text without its comments keeps all its places. -/
theorem places_of_strip {t u : Text} (left : strip t = .ok u) : places u = u.zipIdx := by
  have kept : ∀ entry ∈ (roles .code u).zipIdx,
      ((left? entry.1).map fun left => (left.1, entry.2)) = some (entry.1.1, entry.2) := by
    intro entry member
    have inside := List.fst_mem_of_mem_zipIdx member
    rw [roles_strip left] at inside
    obtain ⟨_, _, made⟩ := List.mem_filterMap.mp inside
    rw [left?, if_pos (isComment_of_left? made)]
    rfl
  calc places u
      = (roles .code u).zipIdx.map fun entry => (entry.1.1, entry.2) := by
        rw [places, ← List.filterMap_eq_map]
        exact List.filterMap_congr kept
    _ = ((roles .code u).map Prod.fst).zipIdx := by
        rw [List.zipIdx_map]
        rfl
    _ = u.zipIdx := by rw [map_fst_roles]

/-- The statements at the places of what is left are the statements that are read. -/
theorem map_snd_statementsAt {t u : Text} (left : strip t = .ok u)
    : (statementsAt u).map Prod.snd = statementsOf u := by
  have whole := map_snd_segments (places u) [] Text.onOneLine_nil
  rw [List.nil_append, places_of_strip left, List.zipIdx_map_fst] at whole
  rw [statementsAt, places_of_strip left, whole, statementsOf_eq]
  rfl

/-- The statements of what is left stand at their places. -/
theorem prefix_of_statementsAt {t u : Text} (left : strip t = .ok u) {begun : Nat × Text}
    (member : begun ∈ statementsAt u)
    : begun.2 <+: u.drop begun.1 := by
  obtain ⟨segment, inside, found⟩ := List.mem_filterMap.mp member
  rw [places_of_strip left] at inside
  obtain ⟨front, piece, back, rfl, rfl, -⟩ := (divided_segments none u 0).segment_eq inside
  obtain ⟨before, after, form, blankBefore, blankAfter⟩ := Text.trim_cut piece
  have text := map_snd_statement? (piece.zipIdx (0 + front.length))
  rw [found, List.zipIdx_map_fst, Option.map_some, eq_comm, Option.guard_eq_some_iff] at text
  obtain ⟨same, nonempty⟩ := text
  have nonempty : piece.trim ≠ [] := by simpa using nonempty
  have place := statement?_zipIdx (Text.trimmed_trim piece) nonempty blankBefore blankAfter
    (0 + front.length)
  rw [← form, found, Option.some.injEq] at place
  obtain rfl := place
  have whole : front ++ piece ++ back
      = (front ++ before) ++ (piece.trim ++ (after ++ back)) := by
    conv => lhs; rw [form]
    simp only [List.append_assoc]
  rw [whole, List.drop_left' (by rw [List.length_append, Nat.zero_add])]
  exact List.prefix_append _ _

/-- The segments of what is left of an accepted script are accepted. -/
theorem accepted_segments {t u root : Text} (left : strip t = .ok u)
    (accepted : ∀ statement ∈ statementsOf u, (pairOf? root statement).isSome = true)
    {segment : List (CodePoint × Nat)} (member : segment ∈ segments none u.zipIdx)
    : Accepted root (segment.map Prod.fst) := by
  intro nonempty
  have text := map_snd_statement? segment
  rw [Option.guard, if_pos (by simpa using nonempty), Option.map_eq_some_iff] at text
  obtain ⟨begun, found, same⟩ := text
  have isStatement : Text.trim (segment.map Prod.fst) ∈ statementsOf u := by
    rw [← map_snd_statementsAt left, ← same]
    rw [← places_of_strip left] at member
    exact List.mem_map_of_mem (List.mem_filterMap.mpr ⟨segment, member, found⟩)
  exact Option.isSome_iff_exists.mp (accepted _ isStatement)

/-- What is left of an accepted script closes the values of its statements and no other literals. -/
theorem closes_of_read {source : Option Text} {root : Path} {t : Text}
    (accepted : (read source root.text t).failure = none)
    : ∃ u, strip t = .ok u ∧ Closes 0 u ((statementsAt u).filterMap valueLiteral?) := by
  have pairs : (read source root.text t).pairs?
      = some ((read source root.text t).assignments.map fun a => (a.path, a.value)) := by
    rw [Reading.pairs?, accepted]
  rw [read_pairs?, Option.bind_eq_some_iff] at pairs
  obtain ⟨u, left, made⟩ := pairs
  have left := toOption_eq_some.mp left
  have accepted : ∀ statement ∈ statementsOf u, (pairOf? root.text statement).isSome = true :=
    fun _ member => Text.isSome_of_mapM made member
  refine ⟨u, left, ?_⟩
  rw [statementsAt, places_of_strip left]
  exact (divided_segments none u 0).closes fun _ => accepted_segments left accepted

/-- In an accepted script the scanners agree on where literals are. At each place of what is left
without comments, the removal of comments has the quote open that the cutting of lines has: none
where a line ends, and otherwise the one of the literal that the place lies in. The literals are the
values of statements that are literals, in order and at their places.
-/
theorem scanners_agree {source : Option Text} {root : Path} {t : Text}
    (accepted : (read source root.text t).failure = none)
    : ∃ u,
        strip t = .ok u
        ∧ (openQuotes u).length = u.length + 1
        ∧ openQuotes u = lineQuotes u
        ∧ (∀ i ≤ u.length,
            (∀ c, u[i]? = some c → c.isLineEnd = true) → (openQuotes u)[i]? = some none)
        ∧ (∀ i quote,
            (openQuotes u)[i]? = some (some quote)
            ↔ ∃ literal ∈ literalsAt u,
                literal.1 < i
                ∧ i < literal.1 + literal.2.length
                ∧ literal.2.head? = some quote)
        ∧ literalsAt u = (statementsAt u).filterMap valueLiteral?
        ∧ (statementsAt u).map Prod.snd = (numberedStatements u).map Prod.snd
        ∧ ∀ begun ∈ statementsAt u ++ literalsAt u, begun.2 <+: u.drop begun.1 := by
  obtain ⟨u, left, closes⟩ := closes_of_read accepted
  have literals := closes.literalsAt_eq
  refine ⟨u, left, length_openQuotes u, closes.openQuotes_eq, fun i => closes.lineEnd,
    fun i quote => ?_, literals, ?_, fun begun member => ?_⟩
  · have inside := closes.open_iff i quote
    rwa [← literals, Nat.zero_add] at inside
  · rw [map_snd_statementsAt left, numberedStatements_map]
  · rcases List.mem_append.mp member with isStatement | isLiteral
    · exact prefix_of_statementsAt left isStatement
    · rw [literals] at isLiteral
      obtain ⟨front, back, rfl, place, -⟩ := closes.stands isLiteral
      rw [place, Nat.zero_add, List.append_assoc, List.drop_left]
      exact List.prefix_append _ _

/-- A literal may hold marks of comments, a semicolon and an escaped quote, and comments may hold
quotes.
-/
theorem scanners_agree_marks
    : let t : Text := "rec.a = '//;\\'' ; rec.b = \"x\" // it's\nrec.c = 1 /* '' */"
      let u : Text := "rec.a = '//;\\'' ; rec.b = \"x\" \nrec.c = 1 "
      (read none "rec" t).failure = none
      ∧ strip t = .ok u
      ∧ openQuotes u = lineQuotes u
      ∧ literalsAt u = [(8, ("'//;\\''" : Text)), (26, ("\"x\"" : Text))] := by
  intro t u
  have accepted : (read none (⟨"rec", by decide⟩ : Path).text t).failure = none := by decide +kernel
  have stripped : strip t = .ok u := by decide
  obtain ⟨v, left, -, same, -, -, values, -⟩ := scanners_agree accepted
  obtain rfl : u = v := Except.ok.inj (stripped.symm.trans left)
  exact ⟨accepted, stripped, same, values.trans (by decide)⟩

end Recommender.Script
